import Mathlib.Data.List.Infix
import ImportHooks.Jsonc

namespace ImportHooks.Jsonc
open Text

inductive Kind where
  | literal | line | block
  deriving DecidableEq, Repr

def Kind.opening : Kind → Text
  | .literal => ['"'] | .line => ['/', '/'] | .block => ['/', '*']

def Kind.closing : Kind → Text
  | .literal => ['"'] | .line => ['\n'] | .block => ['*', '/']

-- A piece that is not closed runs to the end of the text.
inductive Piece where
  | marked (kind : Kind) (body : Text) (closed : Bool)
  | single (c : Char)
  deriving DecidableEq, Repr

-- What comes before the closing mark, and what stands behind the mark if there is one.
-- In quotes a backslash takes the next character with it.
def toQuote : Text → Text × Option Text
  | [] => ([], none)
  | '"' :: rest => ([], some rest)
  | '\\' :: c :: rest => ('\\' :: c :: (toQuote rest).1, (toQuote rest).2)
  | c :: rest => (c :: (toQuote rest).1, (toQuote rest).2)

def toMark (mark : Text) : Text → Text × Option Text
  | [] => ([], none)
  | c :: rest =>
    if mark <+: c :: rest then ([], some ((c :: rest).drop mark.length))
    else (c :: (toMark mark rest).1, (toMark mark rest).2)

-- No quote but behind a backslash that pairs with it. Only at the end may a
-- backslash stand `alone`.
inductive Paired : (alone : Bool) → Text → Prop where
  | nil : Paired false []
  | slash : Paired true ['\\']
  | plain {alone c rest} (quote : c ≠ '"') (slash : c ≠ '\\') (others : Paired alone rest) : Paired alone (c :: rest)
  | pair {alone c rest} (others : Paired alone rest) : Paired alone ('\\' :: c :: rest)

-- A mark behind this text is the first one, overlaps included.
def FreeOf (mark body : Text) : Prop := ¬ mark <:+: body ++ mark.dropLast

inductive Parted (mark : Text) (Inside Last : Text → Prop) : Text → Text × Option Text → Prop where
  | closed (body rest : Text) (inside : Inside body) : Parted mark Inside Last (body ++ (mark ++ rest)) (body, some rest)
  | unclosed (body : Text) (last : Last body) : Parted mark Inside Last body (body, none)

theorem toQuote_parted (text : Text) : Parted ['"'] (Paired false) (∃ alone, Paired alone ·) text (toQuote text) := by
  fun_induction toQuote text with
  | case1 => exact .unclosed [] ⟨_, .nil⟩
  | case2 rest => exact .closed [] rest .nil
  | case3 c rest ih =>
    generalize toQuote rest = found at ih ⊢
    cases ih with
    | closed body rest inside => exact .closed ('\\' :: c :: body) rest (.pair inside)
    | unclosed body last => exact .unclosed ('\\' :: c :: rest) (last.imp fun _ paired => .pair paired)
  | case4 c rest quote slash ih =>
    by_cases alone : c = '\\'
    · subst alone
      cases rest with
      | nil => exact .unclosed ['\\'] ⟨_, .slash⟩
      | cons d rest => exact (slash d rest rfl rfl).elim
    · generalize toQuote rest = found at ih ⊢
      cases ih with
      | closed body rest inside => exact .closed (c :: body) rest (.plain quote alone inside)
      | unclosed body last => exact .unclosed (c :: rest) (last.imp fun _ paired => .plain quote alone paired)

theorem toQuote_plain {c : Char} (quote : c ≠ '"') (slash : c ≠ '\\') (rest : Text) :
    toQuote (c :: rest) = (c :: (toQuote rest).1, (toQuote rest).2) := by
  rw [toQuote]
  · exact quote
  · intro d others same
    exact absurd same slash

theorem Parted.toQuote {text : Text} {found : Text × Option Text}
    (parted : Parted ['"'] (Paired false) (∃ alone, Paired alone ·) text found) : toQuote text = found := by
  cases parted with
  | closed body rest inside =>
    generalize unpaired : false = alone at inside
    induction inside with
    | nil => rfl
    | slash => cases unpaired
    | plain quote slash others ih => rw [List.cons_append, toQuote_plain quote slash, ih unpaired]
    | pair others ih => rw [List.cons_append, List.cons_append, Jsonc.toQuote, ih unpaired]
  | unclosed body last =>
    obtain ⟨alone, paired⟩ := last
    induction paired with
    | nil => rfl
    | slash => rfl
    | plain quote slash others ih => rw [toQuote_plain quote slash, ih]
    | pair others ih => rw [Jsonc.toQuote, ih]

theorem toMark_parted (mark : Text) (shown : mark ≠ []) (text : Text) :
    Parted mark (FreeOf mark) (¬ mark <:+: ·) text (toMark mark text) := by
  fun_induction toMark mark text with
  | case1 => exact .unclosed [] fun found => shown (List.infix_nil.mp found)
  | case2 c rest here =>
    have short : FreeOf mark [] := by
      intro found
      have length := found.length_le
      have positive := List.length_pos_iff.mpr shown
      rw [List.nil_append, List.length_dropLast] at length
      omega
    have parted : Parted mark (FreeOf mark) (¬ mark <:+: ·) ([] ++ (mark ++ (c :: rest).drop mark.length)) _ := .closed [] _ short
    rwa [List.nil_append, List.prefix_iff_eq_append.mp here] at parted
  | case3 c rest other ih =>
    generalize toMark mark rest = found at ih ⊢
    cases ih with
    | closed body rest inside =>
      refine .closed (c :: body) rest fun found => ?_
      rcases List.infix_cons_iff.mp found with begins | later
      · have longer : c :: (body ++ mark.dropLast) <+: c :: (body ++ (mark ++ rest)) := by
          simp only [List.cons_prefix_cons, List.prefix_append_right_inj, true_and]
          exact (List.dropLast_prefix mark).trans (List.prefix_append mark rest)
        exact other (begins.trans longer)
      · exact inside later
    | unclosed body last =>
      refine .unclosed (c :: rest) fun found => ?_
      exact (List.infix_cons_iff.mp found).elim other last

theorem Parted.toMark {mark text : Text} {found : Text × Option Text} (shown : mark ≠ [])
    (parted : Parted mark (FreeOf mark) (¬ mark <:+: ·) text found) : toMark mark text = found := by
  cases parted with
  | closed body rest inside =>
    induction body with
    | nil =>
      obtain ⟨c, others, rfl⟩ := List.exists_cons_of_ne_nil shown
      have here : c :: others <+: c :: (others ++ rest) := List.prefix_append (c :: others) rest
      simp [Jsonc.toMark, here]
    | cons c body ih =>
      have other : ¬ mark <+: c :: (body ++ (mark ++ rest)) := by
        intro found
        have whole : c :: (body ++ mark.dropLast) <+: c :: (body ++ (mark ++ rest)) := by
          simp only [List.cons_prefix_cons, List.prefix_append_right_inj, true_and]
          exact (List.dropLast_prefix mark).trans (List.prefix_append mark rest)
        have room : mark.length ≤ (c :: (body ++ mark.dropLast)).length := by simp; omega
        exact inside (List.prefix_of_prefix_length_le found whole room).isInfix
      have later : FreeOf mark body := fun found => inside (List.infix_cons found)
      rw [List.cons_append, Jsonc.toMark, if_neg other, ih later]
  | unclosed body last =>
    induction text with
    | nil => rfl
    | cons c text ih =>
      rw [Jsonc.toMark, if_neg fun found => last found.isInfix, ih fun found => last (List.infix_cons found)]

namespace Kind

def part (kind : Kind) : Text → Text × Option Text :=
  match kind with
  | .literal => toQuote
  | _ => toMark kind.closing

def Inside (kind : Kind) : Text → Prop :=
  match kind with
  | .literal => Paired false
  | _ => FreeOf kind.closing

def Last (kind : Kind) (body : Text) : Prop :=
  match kind with
  | .literal => ∃ alone, Paired alone body
  | _ => ¬ kind.closing <:+: body

theorem line_last {body : Text} : Kind.line.Last body ↔ '\n' ∉ body := not_congr (List.singleton_infix_iff _ _)

theorem line_inside {body : Text} : Kind.line.Inside body ↔ '\n' ∉ body := by
  have alone : body ++ ['\n'].dropLast = body := List.append_nil body
  rw [← line_last, show Kind.line.Inside body = ¬ ['\n'] <:+: body ++ ['\n'].dropLast from rfl, alone]
  rfl

theorem block_inside {body : Text} : Kind.block.Inside body ↔ ¬ ['*', '/'] <:+: body := by
  change ¬ ['*', '/'] <:+: body ++ ['*'] ↔ _
  refine not_congr ⟨fun found => ?_, fun found => found.trans (List.prefix_append body _).isInfix⟩
  rcases List.infix_concat_iff.mp found with ⟨front, same⟩ | inside
  · have ends := congrArg List.getLast? same
    simp at ends
  · exact inside

theorem part_parted (kind : Kind) (text : Text) : Parted kind.closing kind.Inside kind.Last text (kind.part text) := by
  cases kind with
  | literal => exact toQuote_parted text
  | line => exact toMark_parted ['\n'] nofun text
  | block => exact toMark_parted ['*', '/'] nofun text

theorem part_of_parted {kind : Kind} {text : Text} {found : Text × Option Text}
    (parted : Parted kind.closing kind.Inside kind.Last text found) : kind.part text = found := by
  cases kind with
  | literal => exact parted.toQuote
  | line => exact parted.toMark nofun
  | block => exact parted.toMark nofun

def opened? : Text → Option (Kind × Text)
  | '"' :: rest => some (.literal, rest)
  | '/' :: '/' :: rest => some (.line, rest)
  | '/' :: '*' :: rest => some (.block, rest)
  | _ => none

theorem opened?_eq_some {text rest : Text} {kind : Kind} :
    opened? text = some (kind, rest) ↔ text = kind.opening ++ rest := by
  constructor
  · intro found
    unfold opened? at found
    split at found <;> cases found <;> rfl
  · rintro rfl
    cases kind <;> rfl

theorem opened?_eq_none {text : Text} : opened? text = none ↔ ∀ kind : Kind, ¬ kind.opening <+: text := by
  constructor
  · rintro closed kind ⟨rest, rfl⟩
    rw [opened?_eq_some.mpr rfl] at closed
    cases closed
  · intro unopened
    cases found : opened? text with
    | none => rfl
    | some opened => exact (unopened opened.1 ⟨opened.2, (opened?_eq_some.mp found).symm⟩).elim

end Kind

namespace Piece

def written : Piece → Text
  | .marked kind body closed => kind.opening ++ (body ++ if closed then kind.closing else [])
  | .single c => [c]

def Fits (rest : Text) : Piece → Prop
  | .marked kind body true => kind.Inside body
  | .marked kind body false => kind.Last body ∧ rest = []
  | .single c => ∀ kind : Kind, ¬ kind.opening <+: c :: rest

def upTo (kind : Kind) : Text × Option Text → Piece × Text
  | (body, some rest) => (.marked kind body true, rest)
  | (body, none) => (.marked kind body false, [])

def first? : Text → Option (Piece × Text)
  | [] => none
  | c :: rest =>
    match Kind.opened? (c :: rest) with
    | some (kind, inside) => some (upTo kind (kind.part inside))
    | none => some (.single c, rest)

theorem first?_sound {text rest : Text} {piece : Piece} (found : first? text = some (piece, rest)) :
    text = piece.written ++ rest ∧ piece.Fits rest := by
  unfold first? at found
  split at found
  · cases found
  · split at found
    · rename_i kind inside opened
      have parted := kind.part_parted inside
      rw [Kind.opened?_eq_some.mp opened]
      generalize kind.part inside = split at parted found
      cases parted <;> cases found <;> simp [written, Fits, *]
    · rename_i unopened
      cases found
      exact ⟨rfl, Kind.opened?_eq_none.mp unopened⟩

theorem first?_opened {kind : Kind} (inside : Text) : first? (kind.opening ++ inside) = some (upTo kind (kind.part inside)) := by
  cases kind <;> rfl

theorem first?_written {piece : Piece} {rest : Text} (fits : piece.Fits rest) :
    first? (piece.written ++ rest) = some (piece, rest) := by
  cases piece with
  | marked kind body closed =>
    cases closed with
    | true =>
      have parted : Parted kind.closing kind.Inside kind.Last (body ++ (kind.closing ++ rest)) (body, some rest) := .closed body rest fits
      simp only [written, if_true, List.append_assoc, first?_opened, Kind.part_of_parted parted, upTo]
    | false =>
      obtain ⟨last, rfl⟩ := fits
      have parted : Parted kind.closing kind.Inside kind.Last body (body, none) := .unclosed body last
      simp [written, first?_opened, Kind.part_of_parted parted, upTo]
  | single c => simp only [written, List.singleton_append, first?, Kind.opened?_eq_none.mpr fits]

theorem written_ne_nil (piece : Piece) : piece.written ≠ [] := by
  cases piece with
  | marked kind body closed => cases kind <;> nofun
  | single c => nofun

theorem first?_shorter {text rest : Text} {piece : Piece} (found : first? text = some (piece, rest)) :
    rest.length < text.length := by
  obtain ⟨rfl, -⟩ := first?_sound found
  have := List.length_pos_iff.mpr piece.written_ne_nil
  rw [List.length_append]
  omega

end Piece

def pieces (text : Text) : List Piece :=
  match _found : Piece.first? text with
  | none => []
  | some (piece, rest) => piece :: pieces rest
termination_by text.length
decreasing_by exact Piece.first?_shorter _found

-- The pieces of a text in order, each of them as long as its marks make it.
inductive Cut : Text → List Piece → Prop where
  | nil : Cut [] []
  | cons {piece rest others} (fits : Piece.Fits rest piece) (behind : Cut rest others) :
      Cut (piece.written ++ rest) (piece :: others)

theorem Piece.first?_eq_none {text : Text} : first? text = none ↔ text = [] := by
  cases text with
  | nil => simp [first?]
  | cons c rest => cases opened : Kind.opened? (c :: rest) <;> simp [first?, opened]

theorem pieces_cut (text : Text) : Cut text (pieces text) := by
  fun_induction pieces text with
  | case1 text none =>
    rw [Piece.first?_eq_none.mp none]
    exact .nil
  | case2 text piece rest found ih =>
    obtain ⟨rfl, fits⟩ := Piece.first?_sound found
    exact .cons fits ih

theorem pieces_written {piece : Piece} {rest : Text} (fits : piece.Fits rest) :
    pieces (piece.written ++ rest) = piece :: pieces rest := by
  rw [pieces]
  split
  · rename_i none
    simp [Piece.first?_written fits] at none
  · rename_i found
    cases (Piece.first?_written fits).symm.trans found
    rfl

theorem Cut.unique {text : Text} {found : List Piece} (cut : Cut text found) : found = pieces text := by
  induction cut with
  | nil => rw [pieces]; rfl
  | cons fits behind ih => rw [pieces_written fits, ih]

theorem Cut.of_nil {found : List Piece} (cut : Cut [] found) : found = [] := cut.unique.trans Cut.nil.unique.symm

-- The pieces in a row are the text again.
theorem Cut.join {text : Text} {found : List Piece} (cut : Cut text found) : found.flatMap Piece.written = text := by
  induction cut with
  | nil => rfl
  | cons fits behind ih => rw [List.flatMap_cons, ih]

end ImportHooks.Jsonc
