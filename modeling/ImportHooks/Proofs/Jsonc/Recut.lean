import ImportHooks.Proofs.Jsonc.Lookahead

namespace ImportHooks.Jsonc
open Text

namespace Piece

def isComment : Piece → Bool
  | .marked .literal _ _ => false
  | .marked _ _ _ => true
  | .single _ => false

def isLiteral : Piece → Bool
  | .marked .literal _ _ => true
  | _ => false

def leaves (behind : List Piece) : Piece → List Piece
  | .marked .literal body closed => [.marked .literal body closed]
  | .marked .line _ closed => if closed then [.single '\n'] else []
  | .marked .block _ _ => [.single ' ']
  | .single c => if c = ',' ∧ closesNext behind then [] else [.single c]

theorem leaves_not_comment {piece other : Piece} {behind : List Piece} (member : other ∈ piece.leaves behind) :
    other.isComment = false := by
  cases piece with
  | marked kind body closed =>
    cases kind <;> cases closed <;> simp_all [leaves, isComment]
  | single c =>
    rw [leaves] at member
    split_ifs at member
    · cases member
    · rw [List.mem_singleton.mp member, isComment]

theorem leaves_literals (piece : Piece) (behind : List Piece) : (piece.leaves behind).filter isLiteral = [piece].filter isLiteral := by
  cases piece with
  | marked kind body closed => cases kind <;> cases closed <;> rfl
  | single c =>
    rw [leaves]
    split_ifs <;> rfl

end Piece

def leaves : List Piece → List Piece
  | [] => []
  | piece :: behind => piece.leaves behind ++ leaves behind

theorem leaves_not_comment {found : List Piece} : ∀ piece ∈ leaves found, piece.isComment = false := by
  induction found with
  | nil => nofun
  | cons piece behind ih =>
    intro other member
    rcases List.mem_append.mp member with here | later
    · exact Piece.leaves_not_comment here
    · exact ih other later

theorem leaves_literals (found : List Piece) : (leaves found).filter Piece.isLiteral = found.filter Piece.isLiteral := by
  induction found with
  | nil => rfl
  | cons piece behind ih =>
    rw [leaves, List.filter_append, Piece.leaves_literals, ih, ← List.filter_append, List.singleton_append]

theorem plain_closesNext {found : List Piece} (closes : closesNext found = true) :
    ∃ gap bracket rest, plain found = gap ++ bracket :: rest ∧ (∀ c ∈ gap, isBlank c = true) ∧
      (bracket = '\x7d' ∨ bracket = ']') := by
  induction found with
  | nil => cases closes
  | cons piece behind ih =>
    cases quiet : piece.isQuiet with
    | false =>
      rw [closesNext_loud quiet] at closes
      cases piece with
      | marked => cases closes
      | single c =>
        have bracket : c = '\x7d' ∨ c = ']' := by simpa [Piece.isClosing] using closes
        have other : ¬ (c = ',' ∧ closesNext behind = true) := by rcases bracket with rfl | rfl <;> simp
        exact ⟨[], c, plain behind, by simp [plain, Piece.plain, other], List.forall_mem_nil _, bracket⟩
    | true =>
      rw [closesNext_quiet quiet] at closes
      obtain ⟨gap, bracket, rest, written, blank, closing⟩ := ih closes
      have shown : ∀ c ∈ piece.plain behind, isBlank c = true := by
        cases piece with
        | marked kind body closed =>
          cases kind with
          | literal => cases quiet
          | line => cases closed <;> exact List.all_eq_true.mp rfl
          | block => exact List.all_eq_true.mp rfl
        | single c =>
          rw [Piece.plain]
          split_ifs
          · exact List.forall_mem_nil _
          · exact List.forall_mem_singleton.mpr quiet
      exact ⟨piece.plain behind ++ gap, bracket, rest, by rw [plain, written, List.append_assoc],
        List.forall_mem_append.mpr ⟨shown, blank⟩, closing⟩

theorem fits_single_iff {c : Char} {rest : Text} :
    Piece.Fits rest (.single c) ↔ c ≠ '"' ∧ (c = '/' → ∀ d ∈ rest.head?, d ≠ '/' ∧ d ≠ '*') := by
  simp only [Piece.Fits]
  constructor
  · intro fits
    refine ⟨fun same => fits .literal (by simp [Kind.opening, same]), ?_⟩
    rintro rfl d begins
    obtain ⟨others, rfl⟩ := List.head?_eq_some_iff.mp begins
    exact ⟨fun same => fits .line (by simp [Kind.opening, same]), fun same => fits .block (by simp [Kind.opening, same])⟩
  · rintro ⟨quote, slash⟩ kind ⟨others, begins⟩
    cases kind with
    | literal => exact quote (List.cons.inj begins).1.symm
    | line =>
      obtain ⟨same, behind⟩ := List.cons.inj begins
      exact (slash same.symm '/' (by rw [← behind]; rfl)).1 rfl
    | block =>
      obtain ⟨same, behind⟩ := List.cons.inj begins
      exact (slash same.symm '*' (by rw [← behind]; rfl)).2 rfl

theorem pieces_nil : pieces [] = [] := Cut.nil.unique.symm

theorem pieces_singles {word : Text} (plain : ∀ c ∈ word, c ≠ '"' ∧ c ≠ '/') (rest : Text) :
    pieces (word ++ rest) = word.map .single ++ pieces rest := by
  induction word with
  | nil => rfl
  | cons c word ih =>
    have fits : Piece.Fits (word ++ rest) (.single c) :=
      fits_single_iff.mpr ⟨(plain c List.mem_cons_self).1, fun slash => absurd slash (plain c List.mem_cons_self).2⟩
    have first := pieces_written fits
    rw [Piece.written, List.singleton_append] at first
    rw [List.cons_append, first, ih fun d member => plain d (List.mem_cons_of_mem c member)]
    rfl

theorem Piece.fits_blank {c : Char} {rest : Text} (blank : isBlank c = true) : Piece.Fits rest (.single c) := by
  refine fits_single_iff.mpr ⟨?_, ?_⟩ <;> rintro rfl <;> exact absurd blank (by decide)

-- What is neither a blank nor a quote nor a closing bracket comes first only where it
-- came first in the text.
theorem plain_head {text : Text} {found : List Piece} (cut : Cut text found) {d : Char} {more : Text} (blank : isBlank d = false)
    (quote : d ≠ '"') (closing : ¬ (d = '\x7d' ∨ d = ']')) (begins : plain found = d :: more) :
    ∃ others, found = .single d :: others ∧ plain others = more := by
  have unblank {c : Char} (gap : isBlank c = true) : c ≠ d := by
    rintro rfl
    exact nomatch blank.symm.trans gap
  cases cut with
  | nil => cases begins
  | @cons piece rest others fits behind =>
    rw [plain] at begins
    cases piece with
    | marked kind body closed =>
      cases kind with
      | literal => exact absurd (List.cons.inj begins).1.symm quote
      | line =>
        cases closed with
        | true => exact absurd (List.cons.inj begins).1 (unblank (by decide))
        | false =>
          obtain ⟨-, rfl⟩ := fits
          cases behind.of_nil
          cases begins
      | block => exact absurd (List.cons.inj begins).1 (unblank (by decide))
    | single c =>
      rw [Piece.plain] at begins
      split_ifs at begins with dropped
      · obtain ⟨gap, bracket, after, written, blanks, closes⟩ := plain_closesNext dropped.2
        rw [List.nil_append, written] at begins
        cases gap with
        | nil =>
          cases begins
          exact absurd closes closing
        | cons c gap => exact absurd (List.cons.inj begins).1 (unblank (blanks c List.mem_cons_self))
      · cases begins
        exact ⟨others, rfl, rfl⟩

theorem Cut.single {c : Char} {rest : Text} {others : List Piece} (fits : Piece.Fits rest (.single c)) (behind : Cut rest others) :
    Cut (c :: rest) (.single c :: others) := .cons fits behind

theorem Cut.leaves {text : Text} {found : List Piece} (cut : Cut text found) : Cut (plain found) (leaves found) := by
  induction cut with
  | nil => exact .nil
  | @cons piece rest others fits behind ih =>
    rw [plain, Jsonc.leaves]
    cases piece with
    | marked kind body closed =>
      cases kind with
      | literal =>
        refine .cons (show Piece.Fits _ (.marked .literal body closed) from ?_) ih
        cases closed with
        | true => exact fits
        | false =>
          obtain ⟨last, rfl⟩ := fits
          cases behind.of_nil
          exact ⟨last, rfl⟩
      | line =>
        cases closed with
        | true => exact .single (Piece.fits_blank (by decide)) ih
        | false => exact ih
      | block => exact .single (Piece.fits_blank (by decide)) ih
    | single c =>
      obtain ⟨quote, slash⟩ := fits_single_iff.mp fits
      rw [Piece.plain, Piece.leaves]
      split_ifs
      · exact ih
      · refine .single (fits_single_iff.mpr ⟨quote, fun same d begins => ?_⟩) ih
        obtain ⟨more, written⟩ := List.head?_eq_some_iff.mp begins
        by_contra mark
        have mark : d = '/' ∨ d = '*' := by tauto
        have loud : isBlank d = false ∧ d ≠ '"' ∧ ¬ (d = '\x7d' ∨ d = ']') := by rcases mark with rfl | rfl <;> decide
        obtain ⟨others, rfl, -⟩ := plain_head behind loud.1 loud.2.1 loud.2.2 written
        cases behind with
        | cons =>
          have other := slash same d rfl
          tauto

-- Cut by the same rules, a stripped text holds no comment, and its texts in quotes are
-- those of the text. All its pieces are left there by pieces of the text, in order.
theorem stripped_pieces (text : Text) :
    (∀ piece ∈ pieces (strip text), piece.isComment = false) ∧
    (pieces (strip text)).filter Piece.isLiteral = (pieces text).filter Piece.isLiteral ∧
    pieces (strip text) = leaves (pieces text) := by
  have recut : pieces (strip text) = leaves (pieces text) := by
    rw [strip_eq_plain]
    exact (pieces_cut text).leaves.unique.symm
  rw [recut]
  exact ⟨leaves_not_comment, leaves_literals (pieces text), rfl⟩

example : strip "/,//\n]".toList = "/\n]".toList := by decide

end ImportHooks.Jsonc
