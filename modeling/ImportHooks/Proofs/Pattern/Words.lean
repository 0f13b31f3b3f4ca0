import ImportHooks.Proofs.Pattern.Layout

namespace ImportHooks.Pattern
open Text

theorem spells_after {word : Text} {c stop : Cursor} (spells : Spells word c stop) : c.after = word ++ stop.after := by
  induction word generalizing c with
  | nil => exact congrArg Cursor.after spells
  | cons x word ih =>
    obtain ⟨rest, after, spells⟩ := spells
    rw [after, List.cons_append, ← ih spells]
    rfl

theorem spells_through {word rest : Text} {c : Cursor} (after : c.after = word ++ rest) :
    ∃ stop, Spells word c stop ∧ stop.after = rest := by
  induction word generalizing c with
  | nil => exact ⟨c, rfl, after⟩
  | cons x word ih =>
    obtain ⟨stop, spells, last⟩ := ih (c := c.next x (word ++ rest)) rfl
    exact ⟨stop, ⟨word ++ rest, after, spells⟩, last⟩

theorem spells_append {first rest : Text} {c stop : Cursor} :
    Spells (first ++ rest) c stop ↔ ∃ middle, Spells first c middle ∧ Spells rest middle stop := by
  induction first generalizing c with
  | nil => simp [Spells]
  | cons x first ih =>
    simp only [List.cons_append, Spells, ih]
    constructor
    · rintro ⟨behind, after, middle, taken, spells⟩
      exact ⟨middle, ⟨behind, after, taken⟩, spells⟩
    · rintro ⟨middle, ⟨behind, after, taken⟩, spells⟩
      exact ⟨behind, after, middle, taken, spells⟩

def Expr.Writes (e : Expr) (words : List Text) : Prop :=
  ∀ c stop, e.Matches c stop ↔ ∃ word ∈ words, Spells word c stop

theorem writes_literal (text : Text) : (Expr.literal text).Writes [text] := by
  intro c stop
  simp [Expr.Matches]

theorem writes_set {chars : Charset} {members : Text} (wide : Bool) (same : ∀ x, chars.mem x = true ↔ x ∈ members) :
    (Expr.set chars wide).Writes (members.map fun x => [x]) := by
  intro c stop
  simp only [Expr.Matches, same, List.mem_map]
  constructor
  · rintro ⟨x, rest, after, member, rfl⟩
    exact ⟨[x], ⟨x, member, rfl⟩, rest, after, rfl⟩
  · rintro ⟨word, ⟨x, member, rfl⟩, rest, after, rfl⟩
    exact ⟨x, rest, after, member, rfl⟩

theorem Expr.Writes.cat {first rest : Expr} {words others : List Text} (writes : first.Writes words)
    (writesToo : rest.Writes others) :
    (Expr.cat first rest).Writes (words.flatMap fun word => others.map fun other => word ++ other) := by
  intro c stop
  simp only [Expr.Matches, writes c, writesToo _ stop, List.mem_flatMap, List.mem_map]
  constructor
  · rintro ⟨middle, ⟨word, member, spells⟩, other, memberToo, spellsToo⟩
    exact ⟨word ++ other, ⟨word, member, other, memberToo, rfl⟩, spells_append.mpr ⟨middle, spells, spellsToo⟩⟩
  · rintro ⟨_, ⟨word, member, other, memberToo, rfl⟩, spells⟩
    obtain ⟨middle, spells, spellsToo⟩ := spells_append.mp spells
    exact ⟨middle, ⟨word, member, spells⟩, other, memberToo, spellsToo⟩

theorem Expr.Writes.optional {body : Expr} {words : List Text} (writes : body.Writes words) (greedy : Bool) :
    (Expr.rep body 0 (some 1) greedy).Writes ([] :: words) := by
  intro c stop
  constructor
  · rintro ⟨n, -, few, rounds⟩
    match n, few 1 rfl with
    | 0, _ => exact ⟨[], List.mem_cons_self, rounds⟩
    | 1, _ =>
      obtain ⟨middle, matched, rfl⟩ := rounds
      obtain ⟨word, member, spells⟩ := (writes c middle).mp matched
      exact ⟨word, List.mem_cons_of_mem _ member, spells⟩
  · rintro ⟨word, member, spells⟩
    rcases List.mem_cons.mp member with rfl | member
    · exact ⟨0, Nat.le_refl _, fun _ _ => Nat.zero_le _, spells⟩
    · exact ⟨1, Nat.zero_le _, fun m one => by cases one; exact Nat.le_refl _, stop, (writes c stop).mpr ⟨word, member, spells⟩, rfl⟩

-- What stays of a text without the longest of the endings that it has.
def stem (endings : List Text) : Text → Text
  | [] => []
  | c :: rest => if endings.contains (c :: rest) then [] else c :: stem endings rest

theorem stem_of_mem {endings : List Text} {c : Char} {rest : Text} (listed : c :: rest ∈ endings) :
    stem endings (c :: rest) = [] :=
  if_pos (List.contains_iff_mem.mpr listed)

theorem stem_of_not_mem {endings : List Text} {c : Char} {rest : Text} (unlisted : c :: rest ∉ endings) :
    stem endings (c :: rest) = c :: stem endings rest :=
  if_neg fun contained => unlisted (List.contains_iff_mem.mp contained)

theorem stem_eq_take {endings : List Text} {text : Text} {k : Nat} (ending : text.drop k = [] ∨ text.drop k ∈ endings)
    (earlier : ∀ j < k, text.drop j ∉ endings) : stem endings text = text.take k := by
  induction text generalizing k with
  | nil => rw [stem, List.take_nil]
  | cons c rest ih =>
    cases k with
    | zero =>
      have listed : c :: rest ∈ endings := ending.resolve_left nofun
      rw [stem_of_mem listed, List.take_zero]
    | succ k =>
      have unlisted : c :: rest ∉ endings := earlier 0 (Nat.succ_pos k)
      rw [stem_of_not_mem unlisted, List.take_succ_cons, ih ending fun j less => earlier (j + 1) (Nat.succ_lt_succ less)]

theorem stem_split (endings : List Text) (text : Text) :
    ∃ tail, text = stem endings text ++ tail ∧ (tail = [] ∨ tail ∈ endings) := by
  induction text with
  | nil => exact ⟨[], rfl, .inl rfl⟩
  | cons c rest ih =>
    by_cases listed : c :: rest ∈ endings
    · rw [stem_of_mem listed]
      exact ⟨c :: rest, rfl, .inr listed⟩
    · rw [stem_of_not_mem listed]
      obtain ⟨tail, parted, kept⟩ := ih
      exact ⟨tail, by rw [List.cons_append, ← parted], kept⟩

theorem stem_longest {endings : List Text} {text tail : Text} (parted : text = stem endings text ++ tail) :
    ∀ ending ∈ endings, ending <:+ text → ending.length ≤ tail.length := by
  intro ending member ends
  induction text with
  | nil =>
    rw [List.suffix_nil.mp ends]
    exact Nat.zero_le _
  | cons c rest ih =>
    by_cases listed : c :: rest ∈ endings
    · rw [stem_of_mem listed, List.nil_append] at parted
      exact parted ▸ ends.length_le
    · rw [stem_of_not_mem listed, List.cons_append, List.cons_inj_right] at parted
      rcases List.suffix_cons_iff.mp ends with rfl | inside
      · exact absurd member listed
      · exact ih parted inside

theorem stem_append {endings : List Text} {c : Char} {rest : Text} (short : ∀ ending ∈ endings, ¬ c :: rest <:+ ending)
    (front : Text) : stem endings (front ++ c :: rest) = front ++ c :: stem endings rest := by
  induction front with
  | nil =>
    have unlisted : c :: rest ∉ endings := fun listed => short _ listed List.suffix_rfl
    rw [List.nil_append, stem_of_not_mem unlisted, List.nil_append]
  | cons d front ih =>
    have unlisted : d :: (front ++ c :: rest) ∉ endings := fun listed => short _ listed ⟨d :: front, rfl⟩
    rw [List.cons_append, stem_of_not_mem unlisted, ih, List.cons_append]

theorem stem_eq_self {endings : List Text} {text : Text} :
    stem endings text = text ↔ ∀ ending ∈ endings, ending <:+ text → ending = [] := by
  induction text with
  | nil => simp [stem]
  | cons c rest ih =>
    by_cases listed : c :: rest ∈ endings
    · rw [stem_of_mem listed]
      constructor
      · nofun
      · intro none
        cases none _ listed List.suffix_rfl
    · rw [stem_of_not_mem listed, List.cons_inj_right, ih]
      constructor
      · intro none ending member ends
        rcases List.suffix_cons_iff.mp ends with rfl | inside
        · exact absurd member listed
        · exact none ending member inside
      · intro none ending member ends
        exact none ending member (ends.trans (List.suffix_cons c rest))

def atEnd (body : Expr) (greedy : Bool) : Expr := .cat (.rep body 0 (some 1) greedy) (.look .stop)

theorem atEnd_matches {body : Expr} {endings : List Text} (writes : body.Writes endings) (greedy : Bool) {c stop : Cursor} :
    (atEnd body greedy).Matches c stop ↔ ∃ word ∈ [] :: endings, Spells word c stop ∧ stop.after = [] := by
  have optional := writes.optional greedy
  constructor
  · rintro ⟨middle, first, last, rfl⟩
    obtain ⟨word, member, spells⟩ := (optional c middle).mp first
    exact ⟨word, member, spells, List.isEmpty_iff.mp last⟩
  · rintro ⟨word, member, spells, last⟩
    exact ⟨stop, (optional c stop).mpr ⟨word, member, spells⟩, List.isEmpty_iff.mpr last, rfl⟩

theorem atEnd_matches_at {body : Expr} {endings : List Text} (writes : body.Writes endings) (greedy : Bool) {text : Text}
    {k : Nat} : (∃ stop, (atEnd body greedy).Matches (cursorAt text k) stop) ↔ text.drop k ∈ [] :: endings := by
  constructor
  · rintro ⟨stop, matched⟩
    obtain ⟨word, member, spells, last⟩ := (atEnd_matches writes greedy).mp matched
    have behind : text.drop k = word ++ stop.after := spells_after spells
    rw [behind, last, List.append_nil]
    exact member
  · intro member
    obtain ⟨stop, spells, last⟩ := spells_through (c := cursorAt text k) (List.append_nil (text.drop k)).symm
    exact ⟨stop, (atEnd_matches writes greedy).mpr ⟨_, member, spells, last⟩⟩

theorem replaceFirst_atEnd {body : Expr} {endings : List Text} (writes : body.Writes endings) (greedy : Bool)
    (replacement text : Text) : (atEnd body greedy).replaceFirst replacement text = stem endings text ++ replacement := by
  have leftmost := Expr.find?_leftmost (atEnd body greedy) text
  unfold Expr.replaceFirst
  rcases found : (atEnd body greedy).find? text with _ | ⟨first, stop⟩
  · rw [found] at leftmost
    have ending : text.drop text.length ∈ [] :: endings := List.drop_length ▸ List.mem_cons_self
    obtain ⟨stop, matched⟩ := (atEnd_matches_at writes greedy).mpr ending
    exact absurd matched (leftmost text.length (Nat.le_refl _) stop)
  · rw [found] at leftmost
    obtain ⟨k, inside, rfl, matched, earlier⟩ := leftmost
    obtain ⟨word, -, -, last⟩ := (atEnd_matches writes greedy).mp matched
    have ending := (atEnd_matches_at writes greedy).mp ⟨stop, matched⟩
    have shortened : stem endings text = text.take k := by
      refine stem_eq_take (List.mem_cons.mp ending) fun j less member => ?_
      obtain ⟨stop, matched⟩ := (atEnd_matches_at writes greedy).mpr (List.mem_cons_of_mem _ member)
      exact earlier j less stop matched
    simp only [last, List.append_nil, shortened]
    rfl

end ImportHooks.Pattern
