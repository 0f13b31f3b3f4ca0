import ImportHooks.Text.Blank

namespace ImportHooks.Jsonc
open Text

inductive Mode where
  | code | quoted | escaped | slash | line | block (before : Char)
  deriving DecidableEq, Repr

-- `written` is newest first. `pending` is the offset, in bytes of the written
-- text, of a comma after which only gaps were written.
structure Stripper where
  mode : Mode
  written : Text
  pending : Option Nat
  deriving DecidableEq, Repr

namespace Stripper

def start : Stripper := ⟨.code, [], none⟩

def output (s : Stripper) : Text := s.written.reverse

-- An offset at which no character starts leaves the text alone.
def eraseAt : Nat → Text → Text
  | _, [] => []
  | 0, _ :: rest => rest
  | n + 1, c :: rest => if c.utf8Size ≤ n + 1 then c :: eraseAt (n + 1 - c.utf8Size) rest else c :: rest

def writeGap (s : Stripper) (c : Char) : Stripper := { s with mode := .code, written := c :: s.written }
def write (s : Stripper) (mode : Mode) (c : Char) : Stripper := ⟨mode, c :: s.written, none⟩
def writeComma (s : Stripper) : Stripper := ⟨.code, ',' :: s.written, some (utf8Length s.written)⟩
def close (s : Stripper) (c : Char) : Stripper :=
  match s.pending with
  | none => s.write .code c
  | some offset => ⟨.code, c :: (eraseAt offset s.output).reverse, none⟩

def code (s : Stripper) (c : Char) : Stripper :=
  if c = '/' then { s with mode := .slash }
  else if c = ',' then s.writeComma
  else if c = '\x7d' ∨ c = ']' then s.close c
  else if isBlank c then s.writeGap c
  else s.write (if c = '"' then .quoted else .code) c

def feed (s : Stripper) (c : Char) : Stripper :=
  match s.mode with
  | .code => s.code c
  | .slash =>
    if c = '/' then { s with mode := .line }
    else if c = '*' then { s with mode := .block '\x00' }
    else (s.write .code '/').code c
  | .quoted => s.write (if c = '"' then .code else if c = '\\' then .escaped else .quoted) c
  | .escaped => s.write .quoted c
  | .line => if c = '\n' then s.writeGap c else s
  | .block before =>
    if before = '*' ∧ c = '/' then s.writeGap ' ' else { s with mode := .block c }

def finish (s : Stripper) : Text :=
  match s.mode with
  | .slash => (s.write .code '/').output
  | .block _ => (s.writeGap ' ').output
  | _ => s.output

end Stripper

def run (text : Text) : Stripper := text.foldl Stripper.feed .start
def strip (text : Text) : Text := (run text).finish

end ImportHooks.Jsonc
