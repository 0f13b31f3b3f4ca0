import ImportHooks.Proofs.Jsonc.Recut

namespace ImportHooks.Jsonc
open Text

-- At a byte offset a comma starts. It is a piece of its own, in no quotes, and only blanks
-- follow it.
structure CommaAt (out : Text) (offset : Nat) (left gap : Text) : Prop where
  parted : out = left ++ ',' :: gap
  begins : utf8Length left = offset
  alone : pieces out = pieces left ++ .single ',' :: gap.map .single
  blank : ∀ d ∈ gap, isBlank d = true

-- Behind a slash that stands `alone` at the end of a text nothing comes that begins a comment with it.
def Unjoined (alone : Bool) (rest : Text) : Prop := alone = true → ∀ d ∈ rest.head?, d ≠ '/' ∧ d ≠ '*'

-- The pieces of a text end where it ends.
def Whole (alone : Bool) (front : Text) : Prop := ∀ rest, Unjoined alone rest → pieces (front ++ rest) = pieces front ++ pieces rest

def Mild (c : Char) : Prop := c ≠ '"' ∧ c ≠ '/' ∧ c ≠ '*'

instance : DecidablePred Mild := fun c => inferInstanceAs (Decidable (c ≠ '"' ∧ c ≠ '/' ∧ c ≠ '*'))

theorem blank_mild {c : Char} (blank : isBlank c = true) : Mild c := by
  refine ⟨?_, ?_, ?_⟩
  all_goals
    intro same
    subst same
    exact absurd blank (by decide)

theorem closing_mild {c : Char} (closing : c = '\x7d' ∨ c = ']') : Mild c := by
  cases closing with
  | inl brace => subst brace; decide
  | inr bracket => subst bracket; decide

section
variable {alone last : Bool} {front word : Text} {c : Char}

theorem Unjoined.nil (alone : Bool) : Unjoined alone [] := fun _ _ => nofun

theorem Unjoined.cons (slash : c ≠ '/') (star : alone = true → c ≠ '*') (rest : Text) : Unjoined alone (c :: rest) := by
  intro stands d begins
  cases begins
  exact ⟨slash, star stands⟩

theorem whole_nil : Whole false [] := by
  intro rest _
  rw [pieces_nil]
  rfl

theorem Whole.loosen (whole : Whole alone front) : Whole true front := fun rest unjoined => whole rest fun _ => unjoined rfl

theorem Whole.append {found : List Piece} (whole : Whole alone front) (begins : ∀ rest, Unjoined last rest → Unjoined alone (word ++ rest))
    (cut : ∀ rest, Unjoined last rest → pieces (word ++ rest) = found ++ pieces rest) :
    Whole last (front ++ word) ∧ pieces (front ++ word) = pieces front ++ found := by
  have shown (rest : Text) (unjoined : Unjoined last rest) : pieces (front ++ (word ++ rest)) = pieces front ++ (found ++ pieces rest) := by
    rw [whole _ (begins rest unjoined), cut rest unjoined]
  have itself : pieces (front ++ word) = pieces front ++ found := by
    have ended := shown [] (.nil last)
    rwa [List.append_nil, pieces_nil, List.append_nil] at ended
  refine ⟨?_, itself⟩
  intro rest unjoined
  rw [List.append_assoc, shown rest unjoined, itself, List.append_assoc]

theorem Whole.mild (whole : Whole alone front) (shown : word ≠ []) (mild : ∀ d ∈ word, Mild d) :
    Whole false (front ++ word) ∧ pieces (front ++ word) = pieces front ++ word.map .single := by
  obtain ⟨c, others, same⟩ := List.exists_cons_of_ne_nil shown
  subst same
  obtain ⟨-, slash, star⟩ := mild c List.mem_cons_self
  apply whole.append
  · intro rest _
    exact .cons slash (fun _ => star) (others ++ rest)
  · intro rest _
    exact pieces_singles (fun d member => ⟨(mild d member).1, (mild d member).2.1⟩) rest

theorem Whole.comma {gap : Text} (whole : Whole alone front) (blank : ∀ d ∈ gap, isBlank d = true) :
    Whole false (front ++ ',' :: gap) ∧ pieces (front ++ ',' :: gap) = pieces front ++ .single ',' :: gap.map .single :=
  whole.mild nofun (List.forall_mem_cons.mpr ⟨by decide, fun d member => blank_mild (blank d member)⟩)

theorem Whole.single (whole : Whole alone front) (quote : c ≠ '"') (slash : c ≠ '/') (star : alone = true → c ≠ '*') :
    Whole false (front ++ [c]) := by
  have appended : Whole false (front ++ [c]) ∧ _ := whole.append (fun rest _ => .cons slash star rest)
    (fun rest _ => pieces_singles (List.forall_mem_singleton.mpr ⟨quote, slash⟩) rest)
  exact appended.1

theorem Whole.slash (whole : Whole false front) : Whole true (front ++ ['/']) := by
  have cut (rest : Text) (unjoined : Unjoined true rest) : pieces (['/'] ++ rest) = [.single '/'] ++ pieces rest := by
    have fits : Piece.Fits rest (.single '/') := fits_single_iff.mpr ⟨by decide, fun _ => unjoined rfl⟩
    exact pieces_written fits
  exact (whole.append (fun _ _ => nofun) cut).1

theorem Whole.literal {body : Text} (whole : Whole true front) (paired : Paired false body) :
    Whole false (front ++ '"' :: (body ++ ['"'])) := by
  have cut (rest : Text) (_ : Unjoined false rest) :
      pieces ('"' :: (body ++ ['"']) ++ rest) = [.marked .literal body true] ++ pieces rest := by
    have fits : Piece.Fits rest (.marked .literal body true) := paired
    exact pieces_written fits
  have begins (rest : Text) (_ : Unjoined false rest) : Unjoined true ('"' :: (body ++ ['"']) ++ rest) :=
    .cons (by decide) (fun _ => by decide) (body ++ ['"'] ++ rest)
  exact (whole.append begins cut).1

theorem Paired.snoc {body : Text} (paired : Paired alone body) (quote : alone = false → c ≠ '"') :
    Paired (!alone && c = '\\') (body ++ [c]) := by
  induction paired with
  | nil =>
    by_cases slash : c = '\\'
    · subst slash
      exact .slash
    · simpa [slash] using Paired.plain (quote rfl) slash .nil
  | slash => exact .pair .nil
  | plain other slash others ih => exact .plain other slash (ih quote)
  | pair others ih => exact .pair (ih quote)

end

def Mode.inQuotes : Mode → Bool
  | .quoted | .escaped => true
  | _ => false

-- What is written and held back where the reader stands outside quotes. A slash may
-- stand alone before a comma: no mark comes next, nor when the comma is taken back.
inductive Outside : Bool → Text → Option Nat → Prop where
  | clear {alone out} (whole : Whole alone out) : Outside alone out none
  | comma {left gap} (whole : Whole true left) (blank : ∀ d ∈ gap, isBlank d = true) :
      Outside false (left ++ ',' :: gap) (some (utf8Length left))

section
variable {alone : Bool} {out : Text} {pending : Option Nat} {c : Char}

theorem Outside.whole (outside : Outside alone out pending) : Whole alone out := by
  cases outside with
  | clear whole => exact whole
  | comma whole blank => exact (whole.comma blank).1

theorem Outside.next (outside : Outside alone out pending) : Outside false (out ++ [',']) (some (utf8Length out)) :=
  .comma outside.whole.loosen nofun

theorem Outside.gap (outside : Outside alone out pending) (blank : isBlank c = true) : Outside false (out ++ [c]) pending := by
  cases outside with
  | clear whole => exact .clear (whole.mild (List.cons_ne_nil c []) (List.forall_mem_singleton.mpr (blank_mild blank))).1
  | @comma left gap whole blanks =>
    rw [List.append_assoc, List.cons_append]
    exact .comma whole (List.forall_mem_append.mpr ⟨blanks, List.forall_mem_singleton.mpr blank⟩)

end

theorem CommaAt.removed {out left gap : Text} {offset : Nat} (comma : CommaAt out offset left gap) :
    Stripper.removeAt? offset out = some (',', left ++ gap) :=
  Stripper.removeAt?_eq_some.mpr ⟨left, gap, comma.parted, comma.begins, rfl⟩

namespace Stripper

-- What every step of a pass keeps. In quotes nothing is held back.
inductive Sound : Stripper → Prop where
  | outside {mode out pending} (code : mode.inQuotes = false) (outside : Outside false out pending) : Sound ⟨mode, out.reverse, pending⟩
  | quoted {alone front body} (whole : Whole true front) (paired : Paired alone body) :
      Sound ⟨if alone then .escaped else .quoted, (front ++ '"' :: body).reverse, none⟩

section
variable {alone : Bool} {out : Text} {pending : Option Nat} {c : Char} {s : Stripper}

theorem Sound.snoc {mode : Mode} (code : mode.inQuotes = false) (outside : Outside false (out ++ [c]) pending) :
    Sound ⟨mode, c :: out.reverse, pending⟩ := by
  have sound := Sound.outside code outside
  rwa [List.reverse_concat] at sound

theorem sound_close (outside : Outside alone out pending) (closing : c = '\x7d' ∨ c = ']') :
    Sound (close ⟨.code, out.reverse, pending⟩ c) := by
  have bracket := closing_mild closing
  cases outside with
  | clear whole => exact .snoc rfl (.clear (whole.mild (List.cons_ne_nil c []) (List.forall_mem_singleton.mpr bracket)).1)
  | @comma left gap whole blank =>
    rw [(Held.comma left gap).close c]
    refine .snoc rfl (.clear ?_)
    have mild : ∀ d ∈ gap ++ [c], Mild d :=
      List.forall_mem_append.mpr ⟨fun d member => blank_mild (blank d member), List.forall_mem_singleton.mpr bracket⟩
    rw [List.append_assoc]
    exact (whole.mild (List.append_ne_nil_of_right_ne_nil gap (List.cons_ne_nil c [])) mild).1

theorem sound_code (outside : Outside alone out pending) (mark : alone = true → c ≠ '/' ∧ c ≠ '*') :
    Sound (code ⟨.code, out.reverse, pending⟩ c) := by
  unfold code
  split_ifs with slash comma closing blank quote
  · subst slash
    cases alone with
    | true => exact absurd rfl (mark rfl).1
    | false => exact .outside rfl outside
  · subst comma
    have next : Sound ⟨.code, ',' :: out.reverse, _⟩ := .snoc rfl outside.next
    simpa [writeComma] using next
  · exact sound_close outside closing
  · exact .snoc rfl (outside.gap blank)
  · subst quote
    have opened := Sound.quoted outside.whole.loosen .nil
    simpa [write] using opened
  · exact .snoc rfl (.clear (outside.whole.single quote slash fun stands => (mark stands).2))

theorem sound_quoted {front body : Text} (whole : Whole true front) (paired : Paired alone body) (c : Char) :
    Sound (feed ⟨if alone then .escaped else .quoted, (front ++ '"' :: body).reverse, none⟩ c) := by
  by_cases closed : alone = false ∧ c = '"'
  · obtain ⟨unpaired, quote⟩ := closed
    subst unpaired quote
    have ended : Sound ⟨.code, _, none⟩ := .outside rfl (.clear (whole.literal paired))
    simpa [feed, write] using ended
  · have quote : alone = false → c ≠ '"' := fun unpaired same => closed ⟨unpaired, same⟩
    have next := Sound.quoted whole (paired.snoc quote)
    cases alone with
    | true => simpa [feed, write] using next
    | false => simpa [feed, write, quote rfl] using next

theorem Sound.feed (sound : Sound s) (c : Char) : Sound (s.feed c) := by
  cases sound with
  | quoted whole paired => exact sound_quoted whole paired c
  | @outside mode out pending code outside =>
    cases mode with
    | quoted => cases code
    | escaped => cases code
    | code => exact sound_code outside nofun
    | slash =>
      simp only [Stripper.feed]
      split_ifs with line block
      · exact .outside rfl outside
      · exact .outside rfl outside
      · have fed := sound_code (.clear outside.whole.slash) (fun _ => ⟨line, block⟩)
        rwa [List.reverse_concat] at fed
    | line =>
      simp only [Stripper.feed]
      split_ifs with ended
      · subst ended
        exact .snoc rfl (outside.gap (by decide))
      · exact .outside rfl outside
    | block before =>
      simp only [Stripper.feed]
      split_ifs with ended
      · exact .snoc rfl (outside.gap (by decide))
      · exact .outside rfl outside

theorem Sound.foldl (sound : Sound s) (text : Text) : Sound (text.foldl Stripper.feed s) := by
  induction text generalizing s with
  | nil => exact sound
  | cons c text ih => exact ih (sound.feed c)

theorem sound_start : Sound .start := .outside rfl (.clear whole_nil)

theorem sound_run (text : Text) : Sound (run text) := sound_start.foldl text

def HoldsComma (s : Stripper) : Prop := ∀ offset, s.pending = some offset → ∃ left gap, CommaAt s.output offset left gap

theorem holdsComma_of_none (none : s.pending = none) : HoldsComma s := by
  intro offset held
  rw [none] at held
  cases held

theorem Sound.holdsComma (sound : Sound s) : HoldsComma s := by
  intro offset held
  cases sound with
  | quoted => cases held
  | @outside mode out pending code outside =>
    have shown : output ⟨mode, out.reverse, pending⟩ = out := List.reverse_reverse out
    rw [shown]
    cases outside with
    | clear => cases held
    | @comma left gap whole blank =>
      cases held
      exact ⟨left, gap, rfl, rfl, (whole.comma blank).2, blank⟩

def atEnd (s : Stripper) : Stripper :=
  match s.mode with
  | .slash => s.write .code '/'
  | .block _ => s.writeGap ' '
  | _ => s

theorem output_atEnd (s : Stripper) : s.atEnd.output = s.finish := by
  unfold atEnd finish
  cases s.mode <;> rfl

theorem Sound.holdsComma_atEnd (sound : Sound s) : HoldsComma s.atEnd := by
  cases sound with
  | @quoted alone => cases alone <;> exact holdsComma_of_none rfl
  | @outside mode out pending code outside =>
    cases mode with
    | quoted => cases code
    | escaped => cases code
    | slash => exact holdsComma_of_none rfl
    | code => exact (Sound.outside rfl outside).holdsComma
    | line => exact (Sound.outside rfl outside).holdsComma
    | block before =>
      have gap : Sound ⟨.code, ' ' :: out.reverse, pending⟩ := .snoc rfl (outside.gap (by decide))
      exact gap.holdsComma

-- The steps once more, with a removal that fails where no character starts.
def close? (s : Stripper) (c : Char) : Option Stripper :=
  match s.pending with
  | none => some (s.write .code c)
  | some offset => (removeAt? offset s.output).map fun (_, rest) => ⟨.code, c :: rest.reverse, none⟩

def code? (s : Stripper) (c : Char) : Option Stripper :=
  if c = '\x7d' ∨ c = ']' then s.close? c else some (s.code c)

def feed? (s : Stripper) (c : Char) : Option Stripper :=
  match s.mode with
  | .code => s.code? c
  | .slash =>
    if c = '/' then some { s with mode := .line }
    else if c = '*' then some { s with mode := .block '\x00' }
    else (s.write .code '/').code? c
  | _ => some (s.feed c)

theorem close_held {offset : Nat} {left gap : Text} (comma : CommaAt s.output offset left gap) (held : s.pending = some offset)
    (c : Char) : s.close c = ⟨.code, c :: (left ++ gap).reverse, none⟩ := by
  simp only [close, held, eraseAt_removed comma.removed]

theorem close?_eq (holds : HoldsComma s) (c : Char) : s.close? c = some (s.close c) := by
  cases held : s.pending with
  | none => simp only [close?, close, held]
  | some offset =>
    obtain ⟨left, gap, comma⟩ := holds offset held
    simp only [close?, held, comma.removed, close_held comma held, Option.map_some]

theorem code?_eq (holds : HoldsComma s) (c : Char) : s.code? c = some (s.code c) := by
  unfold code?
  split_ifs with closing
  · have closes : s.code c = s.close c := by
      cases closing with
      | inl brace => subst brace; rfl
      | inr bracket => subst bracket; rfl
    rw [closes, close?_eq holds]
  · rfl

theorem Sound.feed? (sound : Sound s) (c : Char) : s.feed? c = some (s.feed c) := by
  cases mode : s.mode with
  | code =>
    simp only [Stripper.feed?, Stripper.feed, mode]
    exact code?_eq sound.holdsComma c
  | slash =>
    simp only [Stripper.feed?, Stripper.feed, mode]
    split_ifs
    · rfl
    · rfl
    · exact code?_eq (holdsComma_of_none rfl) c
  | _ => simp only [Stripper.feed?, mode]

theorem Sound.foldlM (sound : Sound s) (text : Text) : text.foldlM Stripper.feed? s = some (text.foldl Stripper.feed s) := by
  induction text generalizing s with
  | nil => rfl
  | cons c text ih =>
    rw [List.foldlM_cons, sound.feed? c]
    exact ih (sound.feed c)

end

inductive Passes (text : Text) : Stripper → Prop where
  | behind {front} (begins : front <+: text) : Passes text (run front)
  | ended : Passes text (run text).atEnd

theorem Passes.holdsComma {text : Text} {s : Stripper} (passes : Passes text s) : HoldsComma s := by
  cases passes with
  | @behind front begins => exact (sound_run front).holdsComma
  | ended => exact (sound_run text).holdsComma_atEnd

end Stripper

-- Whatever stands in the text, an offset that is held is that of a comma of its own with
-- only blanks behind it. Removing what starts there takes this comma and leaves the rest,
-- and the pass whose removals may fail goes through.
theorem held_comma_is_taken_back (text : Text) :
    (∀ s offset, Stripper.Passes text s → s.pending = some offset →
      ∃ left gap, CommaAt s.output offset left gap ∧ Stripper.removeAt? offset s.output = some (',', left ++ gap) ∧
        ∀ bracket, (s.close bracket).output = left ++ gap ++ [bracket]) ∧
    text.foldlM Stripper.feed? .start = some (run text) ∧ (run text).atEnd.output = strip text := by
  refine ⟨?_, ?_, (run text).output_atEnd⟩
  · intro s offset passes held
    obtain ⟨left, gap, comma⟩ := passes.holdsComma offset held
    refine ⟨left, gap, comma, comma.removed, ?_⟩
    intro bracket
    rw [Stripper.close_held comma held, Stripper.output, List.reverse_cons, List.reverse_reverse]
  · exact Stripper.sound_start.foldlM text

theorem comma_behind_wide_character_is_taken_back :
    "[é,\u3000/*,*/".toList <+: "[é,\u3000/*,*/]".toList ∧ (run "[é,\u3000/*,*/".toList).pending = some 3 ∧
    ∃ left gap, CommaAt (run "[é,\u3000/*,*/".toList).output 3 left gap ∧
      Stripper.removeAt? 3 (run "[é,\u3000/*,*/".toList).output = some (',', left ++ gap) ∧
      ∀ bracket, ((run "[é,\u3000/*,*/".toList).close bracket).output = left ++ gap ++ [bracket] := by
  have begins : "[é,\u3000/*,*/".toList <+: "[é,\u3000/*,*/]".toList := by decide
  have held : (run "[é,\u3000/*,*/".toList).pending = some 3 := by decide
  exact ⟨begins, held, (held_comma_is_taken_back "[é,\u3000/*,*/]".toList).1 _ 3 (.behind begins) held⟩

end ImportHooks.Jsonc
