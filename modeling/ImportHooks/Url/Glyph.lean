import ImportHooks.Text.Utf8

namespace ImportHooks.Url

structure Glyph where
  char : Char
  -- A tab or a line break stands right before the character.
  broken : Bool
  deriving DecidableEq, Repr

def isBreak (c : Char) : Bool := c = '\t' || c = '\n' || c = '\r'

def glyphsBehind : Bool → Text → List Glyph
  | _, [] => []
  | broken, c :: rest => if isBreak c then glyphsBehind true rest else ⟨c, broken⟩ :: glyphsBehind false rest

def glyphs (text : Text) : List Glyph :=
  let isEdge := fun c : Char => c.toNat ≤ 0x20
  glyphsBehind false ((text.dropWhile isEdge).reverse.dropWhile isEdge).reverse

def chars (glyphs : List Glyph) : Text := glyphs.map (·.char)

end ImportHooks.Url
