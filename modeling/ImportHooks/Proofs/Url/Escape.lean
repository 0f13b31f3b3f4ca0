import ImportHooks.Url.Escape

namespace ImportHooks.Url
open Text

theorem isHex_upperHex {n : Nat} (small : n < 16) : isHex (upperHex n) = true :=
  (by decide : ∀ n ∈ List.range 16, isHex (upperHex n) = true) n (List.mem_range.mpr small)

theorem hexValue_upperHex {n : Nat} (small : n < 16) : hexValue (upperHex n) = n :=
  (by decide : ∀ n ∈ List.range 16, hexValue (upperHex n) = n) n (List.mem_range.mpr small)

theorem mem_escapeByte {b : UInt8} {c : Char} (inside : c ∈ escapeByte b) :
    c = '%' ∨ ∃ n < 16, c = upperHex n := by
  have bound : b.toNat < 256 := UInt8.toNat_lt b
  simp only [escapeByte, List.mem_cons, List.not_mem_nil, or_false] at inside
  rcases inside with rfl | rfl | rfl
  · exact .inl rfl
  · exact .inr ⟨_, by omega, rfl⟩
  · exact .inr ⟨_, by omega, rfl⟩

theorem mem_escape {set : EscapeSet} {text : Text} {c : Char} (inside : c ∈ escape set text) :
    (c ∈ text ∧ set c = false) ∨ c = '%' ∨ ∃ n < 16, c = upperHex n := by
  simp only [escape, List.mem_flatMap] at inside
  obtain ⟨d, member, inside⟩ := inside
  split at inside
  · obtain ⟨b, _, inside⟩ := List.mem_flatMap.mp inside
    exact .inr (mem_escapeByte inside)
  · rename_i kept
    rw [List.mem_singleton.mp inside]
    exact .inl ⟨member, by simpa using kept⟩

theorem not_mem_escape {set : EscapeSet} {c : Char} (escaped : set c = true) (plain : c ≠ '%')
    (noDigit : ∀ n ∈ List.range 16, c ≠ upperHex n) (text : Text) : c ∉ escape set text := by
  intro inside
  rcases mem_escape inside with ⟨_, kept⟩ | same | ⟨n, small, same⟩
  · rw [escaped] at kept
    cases kept
  · exact plain same
  · exact noDigit n (List.mem_range.mpr small) same

theorem escape_of_clean {set : EscapeSet} {text : Text} (clean : ∀ c ∈ text, set c = false) :
    escape set text = text := by
  induction text with
  | nil => rfl
  | cons c rest ih =>
    have tail := ih fun d member => clean d (List.mem_cons_of_mem _ member)
    simp only [escape] at tail
    simp [escape, clean c List.mem_cons_self, tail]

theorem escape_cons (set : EscapeSet) (c : Char) (rest : Text) : escape set (c :: rest) =
    (if set c then (utf8 [c]).flatMap escapeByte else [c]) ++ escape set rest := rfl

theorem escape_append (set : EscapeSet) (first rest : Text) :
    escape set (first ++ rest) = escape set first ++ escape set rest := List.flatMap_append

theorem escaped_begins (c : Char) : ∃ rest, (utf8 [c]).flatMap escapeByte = '%' :: rest := by
  cases bytes : utf8 [c] with
  | nil => simp [utf8, String.utf8EncodeChar_ne_nil] at bytes
  | cons b others => exact ⟨_, rfl⟩

theorem escape_ne_nil {set : EscapeSet} {text : Text} (nonempty : text ≠ []) : escape set text ≠ [] := by
  cases text with
  | nil => exact absurd rfl nonempty
  | cons c rest =>
    obtain ⟨escaped, begins⟩ := escaped_begins c
    rw [escape_cons, begins]
    split
    · exact List.cons_ne_nil _ _
    · exact List.cons_ne_nil _ _

theorem escape_head {set : EscapeSet} {text : Text} (begins : (escape set text).head? = some '/') :
    text.head? = some '/' := by
  cases text with
  | nil => cases begins
  | cons c rest =>
    obtain ⟨escaped, first⟩ := escaped_begins c
    rw [escape_cons, first] at begins
    split at begins
    · simp at begins
    · simpa using begins

theorem unescape_escapeByte (b : UInt8) (rest : Text) : unescape (escapeByte b ++ rest) = b :: unescape rest := by
  have bound : b.toNat < 256 := UInt8.toNat_lt b
  have high : b.toNat / 16 < 16 := by omega
  have low : b.toNat % 16 < 16 := by omega
  have value : b.toNat / 16 * 16 + b.toNat % 16 = b.toNat := by omega
  simp only [escapeByte, List.cons_append, List.nil_append, unescape, isHex_upperHex high, isHex_upperHex low,
    Bool.and_self, if_true, hexNumber, List.foldl_cons, List.foldl_nil, hexValue_upperHex high, hexValue_upperHex low,
    Nat.zero_mul, Nat.zero_add, value, UInt8.ofNat_toNat]

theorem unescape_escapeBytes (bytes : List UInt8) (rest : Text) :
    unescape (bytes.flatMap escapeByte ++ rest) = bytes ++ unescape rest := by
  induction bytes with
  | nil => rfl
  | cons b bytes ih => rw [List.flatMap_cons, List.append_assoc, unescape_escapeByte, ih, List.cons_append]

theorem unescape_cons {c : Char} (plain : c ≠ '%') (rest : Text) : unescape (c :: rest) = utf8 [c] ++ unescape rest := by
  rw [unescape.eq_def]
  split
  · rename_i none
    cases none
  · rename_i same
    simp only [List.cons.injEq] at same
    exact absurd same.1 plain
  · rename_i same
    simp only [List.cons.injEq] at same
    rw [same.1, same.2]

theorem unescape_escape {set : EscapeSet} (percent : set '%' = true) (text : Text) :
    unescape (escape set text) = utf8 text := by
  induction text with
  | nil => rfl
  | cons c rest ih =>
    have parted : utf8 (c :: rest) = utf8 [c] ++ utf8 rest := utf8_append [c] rest
    rw [escape_cons, parted]
    split
    · rw [unescape_escapeBytes, ih]
    · rename_i kept
      have plain : c ≠ '%' := by
        rintro rfl
        exact kept percent
      rw [List.cons_append, List.nil_append, unescape_cons plain, ih]

end ImportHooks.Url
