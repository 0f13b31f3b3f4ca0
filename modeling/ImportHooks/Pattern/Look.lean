import ImportHooks.Text.Word

namespace ImportHooks.Pattern
open Text

-- How many characters stand before a place, the last of them, and what follows.
structure Cursor where
  offset : Nat
  before : Option Char
  after : Text
  deriving DecidableEq, Repr

namespace Cursor

def start (text : Text) : Cursor := ⟨0, none, text⟩
def next (c : Cursor) (x : Char) (rest : Text) : Cursor := ⟨c.offset + 1, some x, rest⟩

end Cursor

inductive Edge where
  | boundary | noBoundary | start | stop | startHalf | stopHalf
  deriving DecidableEq, Repr

inductive Look where
  | start | stop | lineStart | lineStop | lineStartReturn | lineStopReturn
  | edge (edge : Edge) (wide : Bool)
  deriving DecidableEq, Repr

def isPlainWord (c : Char) : Bool := c.toNat < 128 && isWord c

def Edge.holds (e : Edge) (before after : Bool) : Bool :=
  match e with
  | .boundary => before != after
  | .noBoundary => before == after
  | .start => !before && after
  | .stop => before && !after
  | .startHalf => !before
  | .stopHalf => !after

def Look.holds (l : Look) (c : Cursor) : Bool :=
  match l with
  | .start => c.before.isNone
  | .stop => c.after.isEmpty
  | .lineStart => c.before.all (· = '\n')
  | .lineStop => c.after.head?.all (· = '\n')
  | .lineStartReturn =>
    c.before.all fun b => b = '\n' || (b = '\r' && c.after.head? ≠ some '\n')
  | .lineStopReturn =>
    c.after.head?.all fun a => a = '\r' || (a = '\n' && c.before ≠ some '\r')
  | .edge e wide =>
    let isPart := if wide then isWord else isPlainWord
    e.holds (c.before.any isPart) (c.after.head?.any isPart)

end ImportHooks.Pattern
