import ImportHooks.Text.Hex

namespace ImportHooks.Url
open Text

abbrev EscapeSet := Char → Bool

def controls : EscapeSet := fun c => c.toNat < 0x20 || 0x7E < c.toNat
def inFragment : EscapeSet := fun c => controls c || " \"<>\x60".toList.contains c
def inQuery : EscapeSet := fun c => controls c || " \"#<>".toList.contains c
def inSpecialQuery : EscapeSet := fun c => inQuery c || c = '\''
def inPath : EscapeSet := fun c => inFragment c || "#?\x7b\x7d".toList.contains c
def inUserinfo : EscapeSet := fun c => inPath c || "/:;=@[\\]^|".toList.contains c
def inFileName : EscapeSet := fun c => inPath c || "/%\\".toList.contains c

def escapeByte (b : UInt8) : Text := ['%', upperHex (b.toNat / 16), upperHex (b.toNat % 16)]

def escape (set : EscapeSet) (text : Text) : Text :=
  text.flatMap fun c => if set c then (utf8 [c]).flatMap escapeByte else [c]

-- A percent sign without two digits behind it stays as it is.
def unescape : Text → List UInt8
  | [] => []
  | '%' :: a :: b :: rest =>
    if isHex a && isHex b then UInt8.ofNat (hexNumber [a, b]) :: unescape rest
    else utf8 ['%'] ++ unescape (a :: b :: rest)
  | c :: rest => utf8 [c] ++ unescape rest

end ImportHooks.Url
