import ImportHooks.Text.Split

namespace ImportHooks.Text

theorem split_cons_ne {separator c : Char} (text : Text) (other : c ≠ separator) :
    ∃ part parts, split separator text = part :: parts ∧ split separator (c :: text) = (c :: part) :: parts := by
  cases cutted : split separator text with
  | nil => exact absurd cutted (split_ne_nil separator text)
  | cons part parts => exact ⟨part, parts, rfl, by simp only [split, if_neg other, cutted]⟩

theorem mem_of_mem_split {separator c : Char} {text part : Text} (member : part ∈ split separator text)
    (inside : c ∈ part) : c ∈ text ∧ c ≠ separator := by
  induction text generalizing part with
  | nil => simp_all [split]
  | cons d rest ih =>
    by_cases same : d = separator
    · simp only [split, if_pos same, List.mem_cons] at member
      rcases member with rfl | there
      · cases inside
      · obtain ⟨earlier, apart⟩ := ih there inside
        exact ⟨List.mem_cons_of_mem _ earlier, apart⟩
    · obtain ⟨first, parts, tail, whole⟩ := split_cons_ne rest same
      rw [whole] at member
      rcases List.mem_cons.mp member with rfl | there
      · rcases List.mem_cons.mp inside with rfl | later
        · exact ⟨List.mem_cons_self, same⟩
        · obtain ⟨earlier, apart⟩ := ih (tail ▸ List.mem_cons_self) later
          exact ⟨List.mem_cons_of_mem _ earlier, apart⟩
      · obtain ⟨earlier, apart⟩ := ih (tail ▸ List.mem_cons_of_mem _ there) inside
        exact ⟨List.mem_cons_of_mem _ earlier, apart⟩

theorem separator_not_mem {separator : Char} {text part : Text} (member : part ∈ split separator text) :
    separator ∉ part := fun inside => (mem_of_mem_split member inside).2 rfl

theorem mem_join {separator c : Char} {parts : List Text} (inside : c ∈ join separator parts) :
    c = separator ∨ ∃ part ∈ parts, c ∈ part := by
  induction parts with
  | nil => cases inside
  | cons part parts ih =>
    cases parts with
    | nil => exact .inr ⟨part, List.mem_cons_self, inside⟩
    | cons next others =>
      simp only [join, List.mem_append, List.mem_cons] at inside
      rcases inside with here | rfl | later
      · exact .inr ⟨part, List.mem_cons_self, here⟩
      · exact .inl rfl
      · rcases ih later with same | ⟨other, member, there⟩
        · exact .inl same
        · exact .inr ⟨other, List.mem_cons_of_mem _ member, there⟩

theorem split_append_separator (separator : Char) (left right : Text) :
    split separator (left ++ separator :: right) = split separator left ++ split separator right := by
  induction left with
  | nil => simp [split]
  | cons c rest ih =>
    by_cases same : c = separator
    · simp only [List.cons_append, split, if_pos same, ih]
    · obtain ⟨part, parts, tail, whole⟩ := split_cons_ne rest same
      rw [whole, List.cons_append]
      simp only [split, if_neg same, ih, tail, List.cons_append]

theorem split_of_not_mem {separator : Char} {text : Text} (absent : separator ∉ text) :
    split separator text = [text] := by
  induction text with
  | nil => rfl
  | cons c rest ih =>
    simp only [List.mem_cons, not_or] at absent
    simp only [split, if_neg (Ne.symm absent.1), ih absent.2]

theorem split_join {separator : Char} {parts : List Text} (nonempty : parts ≠ [])
    (clean : ∀ part ∈ parts, separator ∉ part) : split separator (join separator parts) = parts := by
  induction parts with
  | nil => exact absurd rfl nonempty
  | cons part parts ih =>
    cases parts with
    | nil => exact split_of_not_mem (clean part List.mem_cons_self)
    | cons next others =>
      have tail := ih (List.cons_ne_nil _ _) fun other member => clean other (List.mem_cons_of_mem _ member)
      rw [join, split_append_separator, tail, split_of_not_mem (clean part List.mem_cons_self)]
      · rfl
      · exact List.cons_ne_nil _ _

theorem join_cons_of_ne_nil {separator : Char} {parts : List Text} (nonempty : parts ≠ []) (part : Text) :
    join separator (part :: parts) = part ++ separator :: join separator parts := by
  cases parts with
  | nil => exact absurd rfl nonempty
  | cons next others => rfl

theorem join_append {separator : Char} {first rest : List Text} (nonempty : first ≠ []) (more : rest ≠ []) :
    join separator (first ++ rest) = join separator first ++ separator :: join separator rest := by
  induction first with
  | nil => exact absurd rfl nonempty
  | cons part parts ih =>
    by_cases last : parts = []
    · rw [last, List.singleton_append, join_cons_of_ne_nil more]
      rfl
    · have several : parts ++ rest ≠ [] := fun none => last (List.append_eq_nil_iff.mp none).1
      rw [List.cons_append, join_cons_of_ne_nil several, ih last, join_cons_of_ne_nil last, List.append_assoc, List.cons_append]

theorem join_append_last {separator : Char} {parts : List Text} (nonempty : parts ≠ []) (last : Text) :
    join separator (parts ++ [last]) = join separator parts ++ separator :: last :=
  join_append nonempty (List.cons_ne_nil last [])

theorem utf8Length_join_of_sublist {separator : Char} {fewer parts : List Text} (sub : fewer.Sublist parts) :
    utf8Length (join separator fewer) ≤ utf8Length (join separator parts) := by
  induction sub with
  | slnil => exact Nat.le_refl _
  | @cons fewer parts part sub ih =>
    by_cases none : parts = []
    · subst none
      rw [List.sublist_nil.mp sub]
      exact Nat.zero_le _
    · rw [join_cons_of_ne_nil none, utf8Length_append, utf8Length_cons]
      omega
  | @cons_cons fewer parts part sub ih =>
    by_cases none : parts = []
    · subst none
      exact Nat.le_of_eq (by rw [List.sublist_nil.mp sub])
    · rw [join_cons_of_ne_nil none, utf8Length_append, utf8Length_cons]
      by_cases last : fewer = []
      · subst last
        exact Nat.le_add_right _ _
      · rw [join_cons_of_ne_nil last, utf8Length_append, utf8Length_cons]
        omega

theorem split_extended {separator : Char} {ending : Text} (unparted : separator ∉ ending) (text : Text) :
    ∃ earlier last, split separator text = earlier ++ [last] ∧
      split separator (text ++ ending) = earlier ++ [last ++ ending] := by
  induction text with
  | nil => exact ⟨[], [], rfl, split_of_not_mem unparted⟩
  | cons c rest ih =>
    obtain ⟨earlier, last, parted, extended⟩ := ih
    by_cases same : c = separator
    · exact ⟨[] :: earlier, last, by simp [split, same, parted], by simp [split, same, extended]⟩
    · cases earlier with
      | nil => exact ⟨[], c :: last, by simp [split, same, parted], by simp [split, same, extended]⟩
      | cons part parts =>
        exact ⟨(c :: part) :: parts, last, by simp [split, same, parted], by simp [split, same, extended]⟩

theorem split_reverse (separator : Char) (text : Text) :
    split separator text.reverse = ((split separator text).map List.reverse).reverse := by
  induction text with
  | nil => rfl
  | cons c rest ih =>
    by_cases same : c = separator
    · rw [List.reverse_cons, same, split_append_separator, ih]
      simp [split]
    · obtain ⟨part, parts, tail, whole⟩ := split_cons_ne rest same
      have single : separator ∉ [c] := by simpa using Ne.symm same
      obtain ⟨earlier, last, parted, extended⟩ := split_extended single rest.reverse
      rw [parted, tail, List.map_cons, List.reverse_cons] at ih
      obtain ⟨front, final⟩ := List.append_inj' ih rfl
      rw [List.reverse_cons, extended, whole, List.map_cons, List.reverse_cons, List.reverse_cons, front,
        List.singleton_inj.mp final]

theorem mapM_eq_some {α β : Type} {f : α → Option β} {inputs : List α} {outputs : List β} :
    inputs.mapM f = some outputs ↔ inputs.map f = outputs.map some := by
  induction inputs generalizing outputs with
  | nil => cases outputs <;> simp
  | cons input inputs ih =>
    cases first : f input with
    | none => cases outputs <;> simp [first]
    | some output =>
      cases later : inputs.mapM f <;> cases outputs <;> simp [first, later, ← ih]

theorem mapM_isSome {α β : Type} {f : α → Option β} {inputs : List α} :
    (inputs.mapM f).isSome = inputs.all fun input => (f input).isSome := by
  induction inputs with
  | nil => rfl
  | cons input inputs ih =>
    rw [List.mapM_cons, List.all_cons, ← ih]
    cases f input <;> cases inputs.mapM f <;> rfl

end ImportHooks.Text
