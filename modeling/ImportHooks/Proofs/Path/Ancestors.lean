import Mathlib.Data.List.Infix
import ImportHooks.Proofs.Path.Names

namespace ImportHooks.Path
open Text

theorem dropIdleEnd_front (segments : List Text) : dropIdleEnd segments <+: segments := by
  have kept := List.dropWhile_suffix (l := segments.reverse) isIdle
  rwa [← List.reverse_prefix, List.reverse_reverse] at kept

theorem filter_dropIdleEnd (segments : List Text) :
    (dropIdleEnd segments).filter (!isIdle ·) = segments.filter (!isIdle ·) := by
  have whole := List.takeWhile_append_dropWhile (p := isIdle) (l := segments.reverse)
  have idle : (segments.reverse.takeWhile isIdle).filter (!isIdle ·) = [] := by
    rw [List.filter_eq_nil_iff]
    intro segment member
    simp [List.all_eq_true.mp List.all_takeWhile segment member]
  rw [dropIdleEnd, List.filter_reverse, ← List.nil_append (List.filter _ (List.dropWhile _ _)), ← idle,
    ← List.filter_append, whole, List.filter_reverse, List.reverse_reverse]

theorem dropIdleEnd_last {segments earlier : List Text} {last : Text}
    (parted : (dropIdleEnd segments).reverse = last :: earlier) :
    dropIdleEnd segments = earlier.reverse ++ [last] ∧
      segments.filter (!isIdle ·) = earlier.reverse.filter (!isIdle ·) ++ [last] := by
  have front : dropIdleEnd segments = earlier.reverse ++ [last] := by
    rw [← List.reverse_inj, parted]
    simp
  have solid : isIdle last = false := by
    have first := List.head?_dropWhile_not isIdle segments.reverse
    rw [dropIdleEnd, List.reverse_reverse] at parted
    simpa [parted] using first
  refine ⟨front, ?_⟩
  rw [← filter_dropIdleEnd, front, List.filter_append, List.filter_cons_of_pos (by simp [solid]), List.filter_nil]

theorem names_eq_nil_of_idle {p : Path} (none : (dropIdleEnd p.segments).reverse = []) : p.names = [] := by
  rw [names, ← filter_dropIdleEnd, List.reverse_eq_nil_iff.mp none, List.filter_nil]

theorem parent?_isSome {p : Path} (named : p.names ≠ []) : p.parent?.isSome = true := by
  unfold parent?
  split
  · rfl
  · rename_i none
    exact absurd (names_eq_nil_of_idle none) named

theorem parent?_cut {p q : Path} (cutOff : p.parent? = some q) (named : p.names ≠ []) :
    ∃ kept, kept <+: p.segments ∧ q = ⟨p.anchor.text ++ Text.join '/' kept⟩ ∧
      kept.filter (!isIdle ·) = p.names.dropLast := by
  unfold parent? at cutOff
  split at cutOff
  · rename_i last earlier parted
    cases cutOff
    obtain ⟨front, solid⟩ := dropIdleEnd_last parted
    refine ⟨dropIdleEnd earlier.reverse, ?_, rfl, ?_⟩
    · have before : earlier.reverse <+: dropIdleEnd p.segments := front ▸ List.prefix_append _ _
      exact (dropIdleEnd_front _).trans (before.trans (dropIdleEnd_front _))
    · rw [filter_dropIdleEnd, names, solid, List.dropLast_concat]
  · rename_i none
    exact absurd (names_eq_nil_of_idle none) named

theorem filter_split_join {parts : List Text} (slashless : ∀ part ∈ parts, '/' ∉ part) :
    (split '/' (Text.join '/' parts)).filter (!isIdle ·) = parts.filter (!isIdle ·) := by
  by_cases none : parts = []
  · rw [none]
    rfl
  · rw [split_join none slashless]

theorem begins_of_here {p : Path} (anchored : p.anchor = .here) : ∃ others, p.segments = [] :: others := by
  rw [segments, anchored]
  unfold anchor at anchored
  split at anchored
  · cases anchored
  · rename_i text
    exact ⟨[], by rw [text]; rfl⟩
  · rename_i rest text
    exact ⟨split '/' rest, by rw [text]; rfl⟩
  · cases anchored

theorem anchored_names {p : Path} {kept : List Text} (within : kept <+: p.segments) :
    (Path.mk (p.anchor.text ++ Text.join '/' kept)).isAbsolute = p.isAbsolute ∧
      (Path.mk (p.anchor.text ++ Text.join '/' kept)).names = kept.filter (!isIdle ·) := by
  have slashless : ∀ segment ∈ kept, '/' ∉ segment := fun segment member => separator_not_mem (within.subset member)
  have parted := filter_split_join slashless
  cases anchored : p.anchor with
  | root =>
    have absolute : p.isAbsolute = true := by simp [isAbsolute, anchored]
    rw [absolute, names_eq]
    refine ⟨(isAbsolute_iff _).mpr ⟨_, rfl⟩, ?_⟩
    rw [Anchor.text, List.singleton_append, split, if_pos rfl, List.filter_cons_of_neg (by decide), parted]
  | here =>
    have relative : p.isAbsolute = false := by simp [isAbsolute, anchored]
    obtain ⟨others, begins⟩ := begins_of_here anchored
    have dotted : (Path.mk (Anchor.here.text ++ Text.join '/' kept)).isAbsolute = false := by
      rw [Bool.eq_false_iff, ne_eq, isAbsolute_iff]
      rintro ⟨rest, slash⟩
      cases slash
    refine ⟨dotted.trans relative.symm, ?_⟩
    rw [begins] at within
    rcases List.prefix_cons_iff.mp within with rfl | ⟨behind, rfl, -⟩
    · rfl
    · by_cases last : behind = []
      · rw [last]
        rfl
      · have inner := filter_split_join fun segment member => slashless segment (List.mem_cons_of_mem _ member)
        have dot : (split '/' ['.']).filter (!isIdle ·) = [] := rfl
        rw [join_cons_of_ne_nil last, List.nil_append, names_eq, Anchor.text, split_append_separator, List.filter_append,
          dot, inner, List.nil_append, List.filter_cons_of_neg (by decide)]
  | none =>
    have relative : p.isAbsolute = false := by simp [isAbsolute, anchored]
    rw [relative]
    refine ⟨?_, by rw [names_eq, Anchor.text, List.nil_append, parted]⟩
    rw [Bool.eq_false_iff]
    intro absolute
    obtain ⟨rest, begins⟩ := (isAbsolute_iff _).mp absolute
    have rooted : p.isAbsolute = true := by
      have whole : split '/' p.text = p.segments := by rw [segments, anchored]; rfl
      obtain ⟨more, extended⟩ := within
      rw [isAbsolute_iff, ← join_split '/' p.text, whole, ← extended]
      have begins : Text.join '/' kept = '/' :: rest := begins
      by_cases last : more = []
      · exact ⟨rest, by rw [last, List.append_nil, begins]⟩
      · have several : kept ≠ [] := by
          rintro rfl
          cases begins
        exact ⟨_, by rw [join_append several last, begins]; rfl⟩
    rw [relative] at rooted
    cases rooted

theorem parent?_unnamed {p q : Path} (cutOff : p.parent? = some q) (unnamed : p.names = []) :
    q = ⟨[]⟩ ∧ p.isAbsolute = false := by
  unfold parent? at cutOff
  split at cutOff
  · rename_i last earlier parted
    rw [names, (dropIdleEnd_last parted).2] at unnamed
    exact absurd unnamed (by simp)
  · split at cutOff
    · rename_i anchored
      cases cutOff
      exact ⟨rfl, by simp [isAbsolute, anchored]⟩
    · cases cutOff

theorem parent?_names {p q : Path} (cutOff : p.parent? = some q) :
    q.isAbsolute = p.isAbsolute ∧ q.names = p.names.dropLast := by
  by_cases named : p.names = []
  · obtain ⟨rfl, relative⟩ := parent?_unnamed cutOff named
    rw [relative, named]
    exact ⟨rfl, rfl⟩
  · obtain ⟨kept, within, rfl, names⟩ := parent?_cut cutOff named
    rw [← names]
    exact anchored_names within

theorem names_length_le (p : Path) : p.names.length ≤ p.text.length := by
  rw [names_eq]
  induction p.text with
  | nil => exact Nat.zero_le _
  | cons c rest ih =>
    by_cases slash : c = '/'
    · rw [split, if_pos slash, List.filter_cons_of_neg (by decide)]
      exact Nat.le_succ_of_le ih
    · obtain ⟨part, parts, parted, extended⟩ := split_cons_ne rest slash
      have fewer : (parts.filter (!isIdle ·)).length ≤ ((split '/' rest).filter (!isIdle ·)).length := by
        rw [parted]
        exact ((List.sublist_cons_self part parts).filter _).length_le
      have most := List.length_filter_le (!isIdle ·) [c :: part]
      rw [extended, ← List.singleton_append, List.filter_append, List.length_append, List.length_cons]
      rw [List.length_singleton] at most
      omega

-- The names of a path and of its parents, nearest first and each from its end. A path
-- that starts from `.` comes to where it starts from twice.
theorem climb_names {n : Nat} {p : Path} (enough : p.names.length ≤ n) :
    ∃ again, (climb n p).map (fun q => q.names.reverse) = p.names.reverse.tails ++ again ∧ (∀ names ∈ again, names = []) ∧
      (p.isAbsolute = true → again = []) := by
  induction n generalizing p with
  | zero =>
    have unnamed := List.length_eq_zero_iff.mp (Nat.le_zero.mp enough)
    exact ⟨[], by simp [climb, unnamed], by simp, fun _ => rfl⟩
  | succ n ih =>
    by_cases named : p.names = []
    · cases cutOff : p.parent? with
      | none => exact ⟨[], by simp [climb, cutOff, named], by simp, fun _ => rfl⟩
      | some q =>
        obtain ⟨rfl, relative⟩ := parent?_unnamed cutOff named
        have last : climb n ⟨[]⟩ = [⟨[]⟩] := by cases n <;> rfl
        have empty : (Path.mk []).names = [] := rfl
        exact ⟨[[]], by simp [climb, cutOff, named, last, empty], by simp, fun absolute => by simp [relative] at absolute⟩
    · obtain ⟨q, cutOff⟩ := Option.isSome_iff_exists.mp (parent?_isSome named)
      obtain ⟨rooted, fewer⟩ := parent?_names cutOff
      obtain ⟨again, climbed, empty, none⟩ := ih (p := q) (by rw [fewer, List.length_dropLast]; omega)
      refine ⟨again, ?_, empty, fun absolute => none (rooted.trans absolute)⟩
      obtain ⟨before, last, parted⟩ : ∃ before last, p.names = before ++ [last] :=
        ⟨_, _, (List.dropLast_concat_getLast named).symm⟩
      rw [fewer, parted, List.dropLast_concat] at climbed
      simp [climb, cutOff, climbed, parted]

theorem climb_keeps {kept : Path → Prop} (keeps : ∀ p q, kept p → p.parent? = some q → kept q) {n : Nat} {p q : Path}
    (start : kept p) (member : q ∈ climb n p) : kept q := by
  induction n generalizing p with
  | zero =>
    rw [List.mem_singleton.mp member]
    exact start
  | succ n ih =>
    rcases List.mem_cons.mp member with rfl | above
    · exact start
    · cases cutOff : p.parent? with
      | none => simp [cutOff] at above
      | some parent => exact ih (keeps p parent start cutOff) (by simpa [cutOff] using above)

theorem climb_isAbsolute {n : Nat} {p q : Path} (member : q ∈ climb n p) : q.isAbsolute = p.isAbsolute := by
  refine @climb_keeps (·.isAbsolute = p.isAbsolute) (fun q above same cutOff => ?_) n p q rfl member
  exact (parent?_names cutOff).1.trans same

theorem Straight.parent {p parent : Path} (straight : p.Straight) (cutOff : p.parent? = some parent) :
    parent.Straight := by
  obtain ⟨rooted, fewer⟩ := parent?_names cutOff
  refine ⟨rooted.trans straight.rooted, fun climbs => ?_⟩
  rw [fewer] at climbs
  exact straight.level (List.dropLast_subset _ climbs)

theorem Straight.ancestors {p q : Path} (straight : p.Straight) (member : q ∈ p.ancestors) : q.Straight :=
  climb_keeps (fun _ _ => Straight.parent) straight member

end ImportHooks.Path
