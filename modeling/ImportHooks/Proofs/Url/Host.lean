import ImportHooks.Proofs.Text.Parts
import ImportHooks.Proofs.Url.Escape
import ImportHooks.Url.Host

namespace ImportHooks.Url
open Text

theorem mem_of_mapM {α β : Type} {f : α → Option β} {inputs : List α} {outputs : List β}
    (mapped : inputs.mapM f = some outputs) {b : β} (member : b ∈ outputs) : ∃ a ∈ inputs, f a = some b := by
  have image : some b ∈ inputs.map f := by
    rw [mapM_eq_some.mp mapped]
    exact List.mem_map_of_mem member
  exact List.mem_map.mp image

def authorityMarks : Text := ['/', '?', '#', '@']

def Unmarked (text : Text) : Prop := ∀ c ∈ text, c ∉ authorityMarks

theorem Unmarked.append {left right : Text} (first : Unmarked left) (second : Unmarked right) :
    Unmarked (left ++ right) := by
  intro c inside
  rcases List.mem_append.mp inside with here | there
  · exact first c here
  · exact second c there

theorem unmarked_of_all {text : Text} (tried : text.all (!authorityMarks.contains ·) = true) : Unmarked text := by
  intro c inside marked
  have clean := List.all_eq_true.mp tried c inside
  rw [List.contains_iff_mem.mpr marked] at clean
  cases clean

theorem unmarked_of_allowed {c : Char} (allowed : isForbiddenInHost c = false) : c ∉ authorityMarks := by
  intro marked
  have tried : authorityMarks.all isForbiddenInHost = true := by decide
  rw [List.all_eq_true.mp tried c marked] at allowed
  cases allowed

namespace Punycode

theorem digitChar_allowed {d : Nat} (small : d < 36) : isForbiddenInHost (digitChar d) = false :=
  (by decide : ∀ d ∈ List.range 36, isForbiddenInHost (digitChar d) = false) d (List.mem_range.mpr small)

theorem threshold_le (k bias : Nat) : threshold k bias ≤ 26 := by
  unfold threshold
  split
  · omega
  · split <;> omega

theorem distanceDigits_allowed {bias room k q : Nat} {c : Char} (inside : c ∈ distanceDigits bias room k q) :
    isForbiddenInHost c = false := by
  induction room generalizing k q with
  | zero => cases inside
  | succ room ih =>
    have bound := threshold_le k bias
    simp only [distanceDigits] at inside
    split at inside
    · rw [List.mem_singleton.mp inside]
      exact digitChar_allowed (by omega)
    · rcases List.mem_cons.mp inside with rfl | later
      · have digit : (q - threshold k bias) % (36 - threshold k bias) < 36 - threshold k bias :=
          Nat.mod_lt _ (by omega)
        exact digitChar_allowed (by omega)
      · exact ih later

theorem scan_allowed {basic point : Nat} {s : Encoder} (allowed : ∀ c ∈ s.out, isForbiddenInHost c = false)
    (text : Text) : ∀ c ∈ (text.foldl (Encoder.scan basic point) s).out, isForbiddenInHost c = false := by
  induction text generalizing s with
  | nil => exact allowed
  | cons d rest ih =>
    apply ih
    unfold Encoder.scan
    split
    · exact allowed
    · split
      · intro c inside
        rcases List.mem_append.mp inside with here | there
        · exact allowed c here
        · exact distanceDigits_allowed there
      · exact allowed

theorem encodePoints_allowed {text : Text} {basic : Nat} {points : List Nat} {from_ : Nat} {s : Encoder}
    (allowed : ∀ c ∈ s.out, isForbiddenInHost c = false) :
    ∀ c ∈ encodePoints text basic points from_ s, isForbiddenInHost c = false := by
  induction points generalizing from_ s with
  | nil => exact allowed
  | cons point points ih =>
    apply ih
    exact @scan_allowed basic point { s with distance := s.distance + (point - from_) * (s.done + 1) } allowed text

theorem encode_allowed {text : Text} (allowed : ∀ c ∈ text, isForbiddenInHost c = false) :
    ∀ c ∈ encode text, isForbiddenInHost c = false := by
  apply encodePoints_allowed
  intro c inside
  simp only at inside
  split at inside
  · cases inside
  · rcases List.mem_append.mp inside with here | there
    · exact allowed c (List.mem_filter.mp here).1
    · rw [List.mem_singleton.mp there]
      decide

end Punycode

namespace Domain

theorem label?_allowed {text : Text} {label : Label} (read : label? text = some label)
    (allowed : ∀ c ∈ text, isForbiddenInHost c = false) : ∀ c ∈ label.ascii, isForbiddenInHost c = false := by
  unfold label? at read
  split at read
  · unfold ofAscii? at read
    simp only at read
    split at read
    · cases read
    · obtain ⟨plain, _, read⟩ := Option.bind_eq_some_iff.mp read
      split at read
      · cases read
        exact allowed
      · cases read
  · split at read
    · cases read
      simp only
      split
      · exact allowed
      · intro c inside
        rcases List.mem_append.mp inside with here | there
        · have tried : asciiMark.all (!isForbiddenInHost ·) = true := by decide
          simpa using List.all_eq_true.mp tried c here
        · exact Punycode.encode_allowed allowed c there
    · cases read

theorem prepared?_allowed {text plain : Text} (read : prepared? text = some plain) :
    ∀ c ∈ plain, isForbiddenInHost c = false := by
  obtain ⟨forms, _, read⟩ := Option.bind_eq_some_iff.mp read
  simp only at read
  split at read
  · cases read
  · rename_i clean
    cases read
    intro c inside
    have allowed : isForbiddenInDomain c = false := by
      simp only [Bool.not_eq_true, List.any_eq_false] at clean
      exact clean c inside
    simp only [isForbiddenInDomain, Bool.or_eq_false_iff] at allowed
    exact allowed.1.1.1

theorem name?_allowed {text name : Text} (read : name? text = some name) :
    name ≠ [] ∧ ∀ c ∈ name, isForbiddenInHost c = false := by
  obtain ⟨plain, prepared, read⟩ := Option.bind_eq_some_iff.mp read
  obtain ⟨labels, each, read⟩ := Option.bind_eq_some_iff.mp read
  simp only at read
  split at read
  · cases read
  · rename_i complete
    simp only [Bool.or_eq_true, not_or] at complete
    cases read
    refine ⟨fun empty => complete.1 (by simp [empty]), ?_⟩
    intro c inside
    rcases mem_join inside with rfl | ⟨part, member, inside⟩
    · decide
    · obtain ⟨label, there, rfl⟩ := List.mem_map.mp member
      obtain ⟨source, cutted, read⟩ := mem_of_mapM each there
      exact label?_allowed read (fun d there => prepared?_allowed prepared d (mem_of_mem_split cutted there).1) c inside

end Domain

namespace Host

theorem decimal_digit {n : Nat} {c : Char} (inside : c ∈ decimal n) : c.isDigit = true := by
  rw [decimal, Nat.toString_eq_repr, Nat.toList_repr] at inside
  exact Nat.isDigit_of_mem_toDigits (by decide) (by decide) inside

theorem decimal_ne_nil (n : Nat) : decimal n ≠ [] := by
  rw [decimal, Nat.toString_eq_repr, Nat.toList_repr]
  exact Nat.toDigits_ne_nil

theorem hexText_digit {n : Nat} {c : Char} (inside : c ∈ hexText n) : ∃ d < 16, c = d.digitChar := by
  unfold hexText at inside
  induction n using Nat.strongRecOn with
  | ind n ih =>
    rw [Nat.toDigits_eq_if (by decide)] at inside
    split at inside
    · rename_i small
      exact ⟨n, small, List.mem_singleton.mp inside⟩
    · rcases List.mem_append.mp inside with earlier | last
      · exact ih (n / 16) (by omega) earlier
      · exact ⟨n % 16, by omega, List.mem_singleton.mp last⟩

theorem digit_unmarked {c : Char} (digit : c.isDigit = true) : c ∉ authorityMarks := by
  intro marked
  have tried : authorityMarks.all (!Char.isDigit ·) = true := by decide
  have other := List.all_eq_true.mp tried c marked
  rw [digit] at other
  cases other

theorem decimal_unmarked (n : Nat) : Unmarked (decimal n) := fun _ inside => digit_unmarked (decimal_digit inside)

theorem hexText_unmarked (n : Nat) : Unmarked (hexText n) := by
  intro c inside
  obtain ⟨d, small, rfl⟩ := hexText_digit inside
  exact (by decide : ∀ d ∈ List.range 16, d.digitChar ∉ authorityMarks) d (List.mem_range.mpr small)

theorem join_unmarked {separator : Char} {parts : List Text} (plain : separator ∉ authorityMarks)
    (each : ∀ part ∈ parts, Unmarked part) : Unmarked (join separator parts) := by
  intro c inside
  rcases mem_join inside with rfl | ⟨part, member, inside⟩
  · exact plain
  · exact each part member c inside

theorem ipv4Text_unmarked (address : Nat) : Unmarked (ipv4Text address) := by
  apply join_unmarked (by decide)
  intro part member
  obtain ⟨i, _, rfl⟩ := List.mem_map.mp member
  exact decimal_unmarked _

theorem ipv4Text_begins (address : Nat) : ∃ c rest, ipv4Text address = c :: rest ∧ c.isDigit = true := by
  unfold ipv4Text
  simp only [List.map_cons, List.map_nil, join]
  cases first : decimal (address / Nat.pow 256 3 % 256) with
  | nil => exact absurd first (decimal_ne_nil _)
  | cons c rest => exact ⟨c, _, rfl, decimal_digit (first ▸ List.mem_cons_self)⟩

theorem ipv6Text_unmarked (pieces : List Nat) : Unmarked (ipv6Text pieces) := by
  have groups (ps : List Nat) : Unmarked (join ':' (ps.map hexText)) := by
    apply join_unmarked (by decide)
    intro part member
    obtain ⟨n, _, rfl⟩ := List.mem_map.mp member
    exact hexText_unmarked n
  unfold ipv6Text
  simp only
  split
  · exact groups pieces
  · refine ((groups _).append ?_).append (groups _)
    exact unmarked_of_all (by decide)

-- What every host has that was read: something is written for it, none of the
-- marks, and a name holds no colon.
structure Sound (h : Host) : Prop where
  nonempty : h.text ≠ []
  unmarked : Unmarked h.text
  noColon : ∀ name, h = .domain name → ':' ∉ name

theorem sound_domain {name : Text} (nonempty : name ≠ []) (allowed : ∀ c ∈ name, isForbiddenInHost c = false) :
    Sound (.domain name) := by
  refine ⟨nonempty, fun c inside => unmarked_of_allowed (allowed c inside), ?_⟩
  intro other same inside
  cases same
  exact absurd (allowed _ inside) (by decide)

theorem sound_ipv4 (address : Nat) : Sound (.ipv4 address) := by
  refine ⟨?_, ipv4Text_unmarked address, by simp⟩
  obtain ⟨c, rest, begins, _⟩ := ipv4Text_begins address
  simp [Host.text, begins]

theorem sound_ipv6 (pieces : List Nat) : Sound (.ipv6 pieces) := by
  refine ⟨by simp [Host.text], ?_, by simp⟩
  have bracket (c : Char) (either : c = '[' ∨ c = ']') : Unmarked [c] := by
    rcases either with rfl | rfl
    all_goals exact unmarked_of_all (by decide)
  exact (bracket '[' (.inl rfl)).append ((ipv6Text_unmarked pieces).append (bracket ']' (.inr rfl)))

theorem parse?_sound {text : Text} {h : Host} (read : parse? text = some h) : Sound h := by
  unfold parse? at read
  split at read
  · split at read
    · obtain ⟨pieces, _, rfl⟩ := Option.map_eq_some_iff.mp read
      exact sound_ipv6 pieces
    · cases read
  · obtain ⟨plain, _, read⟩ := Option.bind_eq_some_iff.mp read
    obtain ⟨name, named, read⟩ := Option.bind_eq_some_iff.mp read
    split at read
    · obtain ⟨address, _, rfl⟩ := Option.map_eq_some_iff.mp read
      exact sound_ipv4 address
    · cases read
      obtain ⟨nonempty, allowed⟩ := Domain.name?_allowed named
      exact sound_domain nonempty allowed

theorem parsePlain?_sound {text : Text} {h : Host} (nonempty : text ≠ []) (read : parsePlain? text = some h) :
    Sound h := by
  unfold parsePlain? at read
  split at read
  · exact parse?_sound read
  · split at read
    · cases read
    · rename_i clean
      cases read
      refine sound_domain (escape_ne_nil nonempty) ?_
      intro c inside
      rcases mem_escape inside with ⟨member, _⟩ | rfl | ⟨n, small, rfl⟩
      · simp only [Bool.not_eq_true, List.any_eq_false] at clean
        exact clean c member
      · decide
      · exact (by decide : ∀ n ∈ List.range 16, isForbiddenInHost (upperHex n) = false) n (List.mem_range.mpr small)

end Host
end ImportHooks.Url
