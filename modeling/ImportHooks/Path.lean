import ImportHooks.Text.Split

namespace ImportHooks
open Text

structure Path where
  text : Text
  deriving DecidableEq, Repr

namespace Path

inductive Anchor where
  | root | here | none
  deriving DecidableEq, Repr

def anchor (p : Path) : Anchor :=
  match p.text with
  | '/' :: _ => .root
  | ['.'] => .here
  | '.' :: '/' :: _ => .here
  | _ => .none

def Anchor.text : Anchor → Text
  | .root => ['/']
  | .here => ['.']
  | .none => []

def isAbsolute (p : Path) : Bool := p.anchor = .root

def segments (p : Path) : List Text := split '/' (p.text.drop p.anchor.text.length)

def isIdle (segment : Text) : Bool := segment = [] || segment = ['.']

def names (p : Path) : List Text := p.segments.filter (!isIdle ·)

def components (p : Path) : Anchor × List Text := (p.anchor, p.names)

def same (p q : Path) : Bool := p.components = q.components

def join (left right : Path) : Path :=
  if right.isAbsolute then right
  else if left.text = [] ∨ left.text.getLast? = some '/' then ⟨left.text ++ right.text⟩
  else ⟨left.text ++ '/' :: right.text⟩

def append (p : Path) (ending : Text) : Path := ⟨p.text ++ ending⟩

def dropIdleEnd (segments : List Text) : List Text := (segments.reverse.dropWhile isIdle).reverse

-- Drops the last component, and idle segments before and after it. The root has
-- no parent, nor has the empty path; the parent of `.` is the empty path.
def parent? (p : Path) : Option Path :=
  match (dropIdleEnd p.segments).reverse with
  | _ :: earlier => some ⟨p.anchor.text ++ Text.join '/' (dropIdleEnd earlier.reverse)⟩
  | [] => if p.anchor = .here then some ⟨[]⟩ else none

def climb : Nat → Path → List Path
  | 0, p => [p]
  | n + 1, p => p :: (p.parent?.map (climb n)).getD []

def ancestors (p : Path) : List Path := climb p.text.length p

end Path
end ImportHooks
