import ImportHooks.Text.Hex

namespace ImportHooks.Json
open Text

inductive Token where
  | openObject | closeObject | openArray | closeArray | colon | comma
  | null | bool (value : Bool) | number (raw : Text) | text (raw : Text)
  deriving DecidableEq, Repr

def isSpace (c : Char) : Bool := c = ' ' || c = '\t' || c = '\n' || c = '\r'
def isBare (c : Char) : Bool := c.isAlphanum || c = '+' || c = '-' || c = '.'
def isEscape (c : Char) : Bool := ['"', '\\', '/', 'b', 'f', 'n', 'r', 't'].contains c

-- `-? (0 | [1-9][0-9]*) (\. [0-9]+)? ([eE] [+-]? [0-9]+)?`, read left to right.
inductive NumberState where
  | start | sign | zero | whole | point | fraction | mark | exponentSign | exponent
  deriving DecidableEq, Repr

def NumberState.step (s : NumberState) (c : Char) : Option NumberState :=
  match s with
  | .start => if c = '-' then some .sign else if c = '0' then some .zero else if c.isDigit then some .whole else none
  | .sign => if c = '0' then some .zero else if c.isDigit then some .whole else none
  | .zero => if c = '.' then some .point else if c = 'e' ∨ c = 'E' then some .mark else none
  | .whole => if c.isDigit then some .whole else if c = '.' then some .point
      else if c = 'e' ∨ c = 'E' then some .mark else none
  | .point => if c.isDigit then some .fraction else none
  | .fraction => if c.isDigit then some .fraction else if c = 'e' ∨ c = 'E' then some .mark else none
  | .mark => if c = '+' ∨ c = '-' then some .exponentSign else if c.isDigit then some .exponent else none
  | .exponentSign | .exponent => if c.isDigit then some .exponent else none

def NumberState.accepts : NumberState → Bool
  | .zero | .whole | .fraction | .exponent => true
  | _ => false

def isNumber (raw : Text) : Bool :=
  match raw.foldlM NumberState.step .start with
  | some s => s.accepts
  | none => false

def bare? (raw : Text) : Option Token :=
  if raw = ['n', 'u', 'l', 'l'] then some .null
  else if raw = ['t', 'r', 'u', 'e'] then some (.bool true)
  else if raw = ['f', 'a', 'l', 's', 'e'] then some (.bool false)
  else if isNumber raw then some (.number raw) else none

def mark? (c : Char) : Option Token :=
  if c = '\x7b' then some .openObject else if c = '\x7d' then some .closeObject
  else if c = '[' then some .openArray else if c = ']' then some .closeArray
  else if c = ':' then some .colon else if c = ',' then some .comma else none

inductive Scan where
  | gap | bare (seen : Text) | text (seen : Text) | escaped (seen : Text)
  | hex (missing : Nat) (seen : Text)
  deriving DecidableEq, Repr

namespace Scan

def begin? (c : Char) : Option (List Token × Scan) :=
  if isSpace c then some ([], .gap)
  else if c = '"' then some ([], .text [])
  else if isBare c then some ([], .bare [c])
  else (mark? c).map fun t => ([t], .gap)

def step (s : Scan) (c : Char) : Option (List Token × Scan) :=
  match s with
  | .gap => begin? c
  | .bare seen =>
    if isBare c then some ([], .bare (c :: seen))
    else do
      let t ← bare? seen.reverse
      let (ts, next) ← begin? c
      some (t :: ts, next)
  | .text seen =>
    if c = '"' then some ([.text seen.reverse], .gap)
    else if c = '\\' then some ([], .escaped (c :: seen))
    else if c.toNat < 0x20 then none else some ([], .text (c :: seen))
  | .escaped seen =>
    if c = 'u' then some ([], .hex 4 (c :: seen))
    else if isEscape c then some ([], .text (c :: seen)) else none
  | .hex missing seen =>
    if isHex c then some ([], if missing ≤ 1 then .text (c :: seen) else .hex (missing - 1) (c :: seen)) else none

def finish? : Scan → Option (List Token)
  | .gap => some []
  | .bare seen => (bare? seen.reverse).map ([·])
  | _ => none

def run : Scan → Text → Option (List Token)
  | s, [] => s.finish?
  | s, c :: rest => do
    let (ts, next) ← s.step c
    (next.run rest).map (ts ++ ·)

end Scan

def tokens? (text : Text) : Option (List Token) := Scan.gap.run text

end ImportHooks.Json
