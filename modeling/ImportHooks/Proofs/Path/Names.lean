import ImportHooks.Path
import ImportHooks.Proofs.Text.Parts

namespace ImportHooks.Path
open Text

theorem isAbsolute_iff (p : Path) : p.isAbsolute = true ↔ ∃ rest, p.text = '/' :: rest := by
  obtain ⟨text⟩ := p
  unfold isAbsolute anchor
  rcases text with _ | ⟨c, _ | ⟨d, rest⟩⟩
  · simp
  · by_cases slash : c = '/'
    · simp [slash]
    · by_cases dot : c = '.' <;> simp [slash, dot]
  · by_cases slash : c = '/'
    · simp [slash]
    · by_cases dot : c = '.'
      · by_cases next : d = '/' <;> simp [dot, next]
      · simp [slash, dot]

theorem names_eq (p : Path) : p.names = (split '/' p.text).filter (!isIdle ·) := by
  obtain ⟨text⟩ := p
  simp only [names, segments, anchor]
  split
  · simp [Anchor.text, split, isIdle]
  · simp [Anchor.text, split, isIdle]
  · simp [Anchor.text, split, isIdle]
  · rfl

theorem mem_names {p : Path} {name : Text} : name ∈ p.names ↔ name ∈ split '/' p.text ∧ isIdle name = false := by
  rw [names_eq, List.mem_filter, Bool.not_eq_true']

theorem isIdle_of_length {name : Text} (long : 1 < name.length) : isIdle name = false := by
  have empty : name ≠ [] := fun same => by simp [same] at long
  have dot : name ≠ ['.'] := fun same => by simp [same] at long
  simp [isIdle, empty, dot]

theorem names_join {left right : Path} (relative : right.isAbsolute = false) :
    (left.join right).names = left.names ++ right.names := by
  have closed : (split '/' []).filter (!isIdle ·) = [] := rfl
  unfold join
  rw [if_neg (by simp [relative])]
  split
  · rename_i ends
    rcases ends with none | slash
    · simp only [names_eq, none, List.nil_append, closed]
    · obtain ⟨text, ended⟩ := List.getLast?_eq_some_iff.mp slash
      simp only [names_eq, ended, List.append_assoc, List.cons_append, List.nil_append, split_append_separator,
        List.filter_append, closed]
  · simp only [names_eq, split_append_separator, List.filter_append]

theorem isAbsolute_append {text : Text} (given : text ≠ []) (more : Text) :
    (Path.mk (text ++ more)).isAbsolute = (Path.mk text).isAbsolute := by
  obtain ⟨c, rest, rfl⟩ := List.exists_cons_of_ne_nil given
  rw [Bool.eq_iff_iff, isAbsolute_iff, isAbsolute_iff]
  simp

theorem join_isAbsolute {left right : Path} (relative : right.isAbsolute = false) :
    (left.join right).isAbsolute = left.isAbsolute := by
  unfold join
  rw [if_neg (by simp [relative])]
  by_cases empty : left.text = []
  · obtain ⟨text⟩ := left
    simp only at empty
    subst empty
    exact relative
  · split
    · exact isAbsolute_append empty _
    · exact isAbsolute_append empty _

theorem join_append_ending {left : Path} {entry ending : Text} (relative : (Path.mk entry).isAbsolute = false)
    (relativeToo : (Path.mk (entry ++ ending)).isAbsolute = false) :
    (left.join ⟨entry⟩).append ending = left.join ⟨entry ++ ending⟩ := by
  have first : ¬ (Path.mk entry).isAbsolute = true := by simp [relative]
  have second : ¬ (Path.mk (entry ++ ending)).isAbsolute = true := by simp [relativeToo]
  unfold join
  rw [if_neg first, if_neg second]
  split
  · simp [Path.append]
  · simp [Path.append]

def lastSegment (p : Path) : Text := (split '/' p.text).getLast (split_ne_nil '/' p.text)

def ownDirectory (p : Path) : Text := Text.join '/' (split '/' p.text).dropLast

theorem slash_not_mem_lastSegment (p : Path) : '/' ∉ p.lastSegment := separator_not_mem (List.getLast_mem _)

theorem text_eq_of_isAbsolute {p : Path} (absolute : p.isAbsolute = true) :
    p.text = p.ownDirectory ++ '/' :: p.lastSegment := by
  obtain ⟨rest, begins⟩ := (isAbsolute_iff p).mp absolute
  have several : (split '/' p.text).dropLast ≠ [] := by
    obtain ⟨part, parts, parted⟩ := List.exists_cons_of_ne_nil (split_ne_nil '/' rest)
    simp [begins, split, parted]
  rw [ownDirectory, lastSegment, ← join_append_last several, List.dropLast_concat_getLast, join_split]

theorem ownDirectory_of_slash {name : Text} (slashless : '/' ∉ name) (front : Text) :
    (Path.mk (front ++ '/' :: name)).ownDirectory = front := by
  rw [ownDirectory, split_append_separator, split_of_not_mem slashless, List.dropLast_concat, join_split]

-- A path from the root whose names all lead down.
structure Straight (p : Path) : Prop where
  rooted : p.isAbsolute = true
  level : ['.', '.'] ∉ p.names

theorem Straight.anchored {p : Path} (straight : p.Straight) : p.anchor = .root := by
  simpa [isAbsolute] using straight.rooted

theorem Straight.join {left right : Path} (straight : left.Straight) (level : ['.', '.'] ∉ right.names) :
    (left.join right).Straight := by
  obtain ⟨rest, begins⟩ := (isAbsolute_iff left).mp straight.rooted
  cases absolute : right.isAbsolute with
  | true =>
    have whole : left.join right = right := by simp [Path.join, absolute]
    rw [whole]
    exact ⟨absolute, level⟩
  | false =>
    refine ⟨?_, ?_⟩
    · rw [isAbsolute_iff]
      unfold Path.join
      rw [if_neg (by simp [absolute]), begins]
      split
      · exact ⟨_, rfl⟩
      · exact ⟨_, rfl⟩
    · rw [names_join absolute, List.mem_append]
      exact not_or.mpr ⟨straight.level, level⟩

theorem Straight.append {p : Path} (straight : p.Straight) {ending : Text} (unparted : '/' ∉ ending)
    (other : ¬ ending <:+ ['.', '.']) : (p.append ending).Straight := by
  refine ⟨?_, fun climbs => ?_⟩
  · obtain ⟨rest, begins⟩ := (isAbsolute_iff p).mp straight.rooted
    exact (isAbsolute_iff _).mpr ⟨rest ++ ending, by simp [Path.append, begins]⟩
  · obtain ⟨earlier, last, parted, extended⟩ := split_extended unparted p.text
    obtain ⟨member, named⟩ := mem_names.mp climbs
    simp only [Path.append, extended, List.mem_append, List.mem_singleton] at member
    rcases member with before | final
    · exact straight.level (mem_names.mpr ⟨by simp [parted, before], named⟩)
    · exact other ⟨last, final.symm⟩

def normal (p : Path) : Path := ⟨'/' :: Text.join '/' p.names⟩

theorem split_normal {p : Path} (named : p.names ≠ []) : split '/' p.normal.text = [] :: p.names := by
  have parted : split '/' (Text.join '/' p.names) = p.names :=
    split_join named fun name member => separator_not_mem (mem_names.mp member).1
  rw [normal, split, if_pos rfl, parted]

theorem split_of_isAbsolute {p : Path} (absolute : p.isAbsolute = true) :
    ∃ segments, split '/' p.text = [] :: segments ∧ segments ≠ [] ∧ p.names = segments.filter (!isIdle ·) := by
  obtain ⟨rest, begins⟩ := (isAbsolute_iff p).mp absolute
  refine ⟨split '/' rest, by rw [begins, split, if_pos rfl], split_ne_nil '/' rest, ?_⟩
  rw [names_eq, begins, split, if_pos rfl, List.filter_cons_of_neg (by decide)]

theorem normal_length {p : Path} (absolute : p.isAbsolute = true) : utf8Length p.normal.text ≤ utf8Length p.text := by
  obtain ⟨segments, parted, several, names⟩ := split_of_isAbsolute absolute
  have shorter : utf8Length (Text.join '/' (segments.filter (!isIdle ·))) ≤ utf8Length (Text.join '/' segments) :=
    utf8Length_join_of_sublist List.filter_sublist
  have whole := join_split '/' p.text
  rw [parted, join_cons_of_ne_nil several, List.nil_append] at whole
  rw [normal, names, ← whole, utf8Length_cons, utf8Length_cons]
  exact Nat.add_le_add_left shorter _

theorem mem_of_mem_normal {p : Path} (absolute : p.isAbsolute = true) {c : Char} (inside : c ∈ p.normal.text) :
    c ∈ p.text := by
  obtain ⟨rest, begins⟩ := (isAbsolute_iff p).mp absolute
  have slash : '/' ∈ p.text := by rw [begins]; exact List.mem_cons_self
  rcases List.mem_cons.mp inside with rfl | later
  · exact slash
  · rcases mem_join later with rfl | ⟨name, member, there⟩
    · exact slash
    · exact (mem_of_mem_split (mem_names.mp member).1 there).1

-- An ending that no idle segment has makes up the end of the last name.
theorem names_extended {ending : Text} (unparted : '/' ∉ ending) (solid : ∀ front, isIdle (front ++ ending) = false)
    (text : Text) : ∃ earlier last, (Path.mk (text ++ ending)).names = earlier ++ [last ++ ending] := by
  obtain ⟨earlier, last, -, extended⟩ := split_extended unparted text
  refine ⟨earlier.filter (!isIdle ·), last, ?_⟩
  rw [names_eq, extended, List.filter_append, List.filter_cons_of_pos (by simp [solid last]), List.filter_nil]

theorem normal_extended {ending : Text} (unparted : '/' ∉ ending) (solid : ∀ front, isIdle (front ++ ending) = false)
    (text : Text) : ∃ front, (Path.mk (text ++ ending)).normal.text = front ++ ending := by
  obtain ⟨earlier, last, names⟩ := names_extended unparted solid text
  rw [normal, names]
  by_cases only : earlier = []
  · exact ⟨'/' :: last, by rw [only]; rfl⟩
  · exact ⟨'/' :: (Text.join '/' earlier ++ '/' :: last), by simp [join_append_last only]⟩

end ImportHooks.Path
