import ImportHooks.Proofs.Jsonc.Strip

namespace ImportHooks.Jsonc
open Text

namespace Piece

def isQuiet : Piece → Bool
  | .marked .literal _ _ => false
  | .marked _ _ _ => true
  | .single c => isBlank c

def isClosing : Piece → Bool
  | .single c => c = '\x7d' || c = ']'
  | _ => false

end Piece

-- Is the next piece that is neither a comment nor a blank a closing bracket?
def closesNext (behind : List Piece) : Bool := (behind.find? (!·.isQuiet)).any Piece.isClosing

def Piece.plain (behind : List Piece) : Piece → Text
  | .marked .literal body closed => (Piece.marked .literal body closed).written
  | .marked .line _ closed => if closed then ['\n'] else []
  | .marked .block _ _ => [' ']
  | .single c => if c = ',' ∧ closesNext behind then [] else [c]

def plain : List Piece → Text
  | [] => []
  | piece :: behind => piece.plain behind ++ plain behind

theorem closesNext_quiet {piece : Piece} (quiet : piece.isQuiet = true) (behind : List Piece) :
    closesNext (piece :: behind) = closesNext behind := by
  simp [closesNext, quiet]

theorem closesNext_loud {piece : Piece} (loud : piece.isQuiet = false) (behind : List Piece) :
    closesNext (piece :: behind) = piece.isClosing := by
  simp [closesNext, loud]

namespace Stripper

theorem feed_quote (written : Text) (pending : Option Nat) :
    feed ⟨.code, written, pending⟩ '"' = ⟨.quoted, '"' :: written, none⟩ := rfl

theorem feed_closedLiteral {body : Text} (paired : Paired false body) (written : Text) (pending : Option Nat) :
    ('"' :: (body ++ ['"'])).foldl feed ⟨.code, written, pending⟩ = ⟨.code, ('"' :: (body ++ ['"'])).reverse ++ written, none⟩ := by
  rw [List.foldl_cons, feed_quote, List.foldl_append, feed_paired paired]
  simp [feed, write]

theorem feed_blank {c : Char} (blank : isBlank c = true) (written : Text) (pending : Option Nat) :
    feed ⟨.code, written, pending⟩ c = ⟨.code, c :: written, pending⟩ := by
  have other {d : Char} (plain : isBlank d = false) : c ≠ d := by
    rintro rfl
    exact nomatch plain.symm.trans blank
  have closing : ¬ (c = '\x7d' ∨ c = ']') := not_or.mpr ⟨other (by decide), other (by decide)⟩
  have slash : c ≠ '/' := other (by decide)
  have comma : c ≠ ',' := other (by decide)
  simp [feed, code, writeGap, slash, comma, closing, blank]

theorem feed_other {c : Char} (slash : c ≠ '/') (comma : c ≠ ',') (closing : ¬ (c = '\x7d' ∨ c = ']'))
    (blank : isBlank c = false) (quote : c ≠ '"') (written : Text) (pending : Option Nat) :
    feed ⟨.code, written, pending⟩ c = ⟨.code, c :: written, none⟩ := by
  simp [feed, code, write, slash, comma, closing, blank, quote]

theorem finish_slash {rest : Text} (alone : ∀ kind : Kind, ¬ kind.opening <+: '/' :: rest) (written : Text)
    (pending : Option Nat) :
    (('/' :: rest).foldl feed ⟨.code, written, pending⟩).finish = (rest.foldl feed ⟨.code, '/' :: written, none⟩).finish := by
  cases rest with
  | nil => rfl
  | cons d rest =>
    have line : d ≠ '/' := fun same => alone .line (by simp [Kind.opening, same])
    have block : d ≠ '*' := fun same => alone .block (by simp [Kind.opening, same])
    simp [feed, code, write, line, block]

-- Between pieces: the pass goes on with `text` as the pieces ahead say. What it has
-- written counts without the comma that is held back if a bracket closes next.
def GoesOn (text : Text) (ahead : List Piece) : Prop :=
  ∀ written pending base, Held ⟨.code, written, pending⟩ base →
    (text.foldl feed ⟨.code, written, pending⟩).finish = (if closesNext ahead then base else written.reverse) ++ plain ahead

section
variable {rest text : Text} {ahead : List Piece} {piece : Piece}

theorem goesOn_nil : GoesOn [] [] := by
  intro written pending base held
  simp [finish, output, closesNext, plain]

theorem GoesOn.gap (goesOn : GoesOn rest ahead) (quiet : piece.isQuiet = true)
    (fed : ∀ written pending,
      text.foldl feed ⟨.code, written, pending⟩ = ⟨.code, (piece.plain ahead).reverse ++ written, pending⟩) :
    GoesOn (text ++ rest) (piece :: ahead) := by
  intro written pending base held
  rw [List.foldl_append, fed, goesOn _ _ _ (held.gap _), closesNext_quiet quiet, plain]
  cases closesNext ahead <;> simp

theorem GoesOn.settled (goesOn : GoesOn rest ahead) (loud : piece.isQuiet = false) (other : piece.isClosing = false)
    (fed : ∀ written pending, ((text ++ rest).foldl feed ⟨.code, written, pending⟩).finish =
      (rest.foldl feed ⟨.code, (piece.plain ahead).reverse ++ written, none⟩).finish) :
    GoesOn (text ++ rest) (piece :: ahead) := by
  intro written pending base held
  rw [fed, goesOn _ _ _ .clear, closesNext_loud loud, other, plain]
  simp

theorem GoesOn.closing {c : Char} (goesOn : GoesOn rest ahead) (closing : c = '\x7d' ∨ c = ']') :
    GoesOn (c :: rest) (.single c :: ahead) := by
  intro written pending base held
  have fed : feed ⟨.code, written, pending⟩ c = ⟨.code, c :: base.reverse, none⟩ := by
    rw [← held.close c]
    rcases closing with rfl | rfl <;> rfl
  have closes : closesNext (.single c :: ahead) = true := by rcases closing with rfl | rfl <;> rfl
  have shown : Piece.plain ahead (.single c) = [c] := by rcases closing with rfl | rfl <;> rfl
  rw [List.foldl_cons, fed, goesOn _ _ _ .clear, closes, plain, shown]
  simp

theorem GoesOn.comma (goesOn : GoesOn rest ahead) : GoesOn (',' :: rest) (.single ',' :: ahead) := by
  intro written pending base held
  have fed : feed ⟨.code, written, pending⟩ ',' = ⟨.code, ',' :: written, some (utf8Length written)⟩ := rfl
  have next : Held ⟨.code, ',' :: written, some (utf8Length written)⟩ written.reverse := by
    have comma : Held ⟨.code, (written.reverse ++ ',' :: []).reverse, _⟩ _ := .comma written.reverse []
    simpa using comma
  rw [List.foldl_cons, fed, goesOn _ _ _ next, closesNext_loud rfl]
  cases ends : closesNext ahead <;> simp [plain, Piece.plain, Piece.isClosing, ends]

theorem GoesOn.single {c : Char} (goesOn : GoesOn rest ahead) (fits : Piece.Fits rest (.single c)) :
    GoesOn ([c] ++ rest) (.single c :: ahead) := by
  by_cases comma : c = ','
  · subst comma
    exact goesOn.comma
  by_cases closing : c = '\x7d' ∨ c = ']'
  · exact goesOn.closing closing
  have shown : Piece.plain ahead (.single c) = [c] := by simp [Piece.plain, comma]
  have other : Piece.isClosing (.single c) = false := by simpa [Piece.isClosing] using closing
  cases blank : isBlank c with
  | true =>
    refine goesOn.gap blank fun written pending => ?_
    rw [shown]
    exact feed_blank blank written pending
  | false =>
    refine goesOn.settled blank other fun written pending => ?_
    rw [shown]
    by_cases slash : c = '/'
    · subst slash
      exact finish_slash fits written pending
    · have quote : c ≠ '"' := fun same => fits .literal (by simp [Kind.opening, same])
      rw [List.foldl_append, List.foldl_cons, feed_other slash comma closing blank quote]
      rfl

theorem GoesOn.closed {kind : Kind} {body : Text} (goesOn : GoesOn rest ahead) (inside : kind.Inside body) :
    GoesOn ((Piece.marked kind body true).written ++ rest) (.marked kind body true :: ahead) := by
  cases kind with
  | literal =>
    refine goesOn.settled rfl rfl fun written pending => ?_
    rw [List.foldl_append]
    exact congrArg (fun s => (rest.foldl feed s).finish) (feed_closedLiteral inside written pending)
  | line =>
    exact goesOn.gap rfl fun written pending => feed_closedLine (Kind.line_inside.mp inside) (s := ⟨.code, written, pending⟩) rfl
  | block =>
    exact goesOn.gap rfl fun written pending => feed_closedBlock (Kind.block_inside.mp inside) (s := ⟨.code, written, pending⟩) rfl

theorem written_unclosed (kind : Kind) (body : Text) : (Piece.marked kind body false).written = kind.opening ++ body := by
  simp [Piece.written]

theorem goesOn_unclosed {kind : Kind} {body : Text} (last : kind.Last body) :
    GoesOn (Piece.marked kind body false).written [.marked kind body false] := by
  intro written pending base held
  rw [written_unclosed]
  cases kind with
  | literal =>
    obtain ⟨alone, paired⟩ := last
    have fed : ('"' :: body).foldl feed ⟨.code, written, pending⟩ = _ := feed_paired paired ('"' :: written)
    rw [show Kind.literal.opening ++ body = '"' :: body from rfl, fed, closesNext_loud rfl]
    cases alone <;> simp [finish, output, plain, Piece.plain, Piece.isClosing, Piece.written, Kind.opening]
  | line =>
    rw [show Kind.line.opening ++ body = '/' :: '/' :: body from rfl, feed_lineComment (Kind.line_last.mp last) rfl,
      closesNext_quiet rfl]
    simp [finish, output, plain, Piece.plain, closesNext]
  | block =>
    obtain ⟨before, fed⟩ := feed_blockComment last (s := ⟨.code, written, pending⟩) rfl
    rw [show Kind.block.opening ++ body = '/' :: '*' :: body from rfl, fed, closesNext_quiet rfl]
    simp [finish, output, writeGap, plain, Piece.plain, closesNext]

theorem goesOn_cut {text : Text} {found : List Piece} (cut : Cut text found) : GoesOn text found := by
  induction cut with
  | nil => exact goesOn_nil
  | @cons piece rest others fits behind ih =>
    cases piece with
    | single c => exact ih.single fits
    | marked kind body closed =>
      cases closed with
      | true => exact ih.closed fits
      | false =>
        obtain ⟨last, rfl⟩ := fits
        rw [behind.of_nil, List.append_nil]
        exact goesOn_unclosed last
end
end Stripper

theorem strip_eq_plain (text : Text) : strip text = plain (pieces text) := by
  have passed := Stripper.goesOn_cut (pieces_cut text) [] none [] .clear
  rwa [List.reverse_nil, ite_self, List.nil_append] at passed

theorem strip_looks_ahead (text : Text) :
    (∀ found, Cut text found ↔ found = pieces text) ∧ strip text = plain (pieces text) := by
  refine ⟨fun found => ⟨Cut.unique, ?_⟩, strip_eq_plain text⟩
  rintro rfl
  exact pieces_cut text

end ImportHooks.Jsonc
