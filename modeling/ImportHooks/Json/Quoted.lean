import ImportHooks.Text.Hex

namespace ImportHooks.Json.Quoted
open Text

def unit (a b c d : Char) : Nat := hexNumber [a, b, c, d]

def isHighSurrogate (u : Nat) : Bool := 0xD800 ≤ u && u < 0xDC00
def isLowSurrogate (u : Nat) : Bool := 0xDC00 ≤ u && u < 0xE000

def escape? (c : Char) : Option Char :=
  match c with
  | '"' => some '"' | '\\' => some '\\' | '/' => some '/'
  | 'b' => some '\x08' | 'f' => some '\x0c' | 'n' => some '\n' | 'r' => some '\r' | 't' => some '\t'
  | _ => none

-- Two escapes spell a character beyond U+FFFF; half of such a pair is refused.
def decode? : Text → Option Text
  | [] => some []
  | '\\' :: 'u' :: a :: b :: c :: d :: rest =>
    if isLowSurrogate (unit a b c d) then none
    else if isHighSurrogate (unit a b c d) then
      match rest with
      | '\\' :: 'u' :: e :: f :: g :: h :: rest =>
        if isLowSurrogate (unit e f g h) then
          (decode? rest).map
            (Char.ofNat (0x10000 + (unit a b c d - 0xD800) * 0x400 + (unit e f g h - 0xDC00)) :: ·)
        else none
      | _ => none
    else (decode? rest).map (Char.ofNat (unit a b c d) :: ·)
  | '\\' :: c :: rest => do
    let e ← escape? c
    (decode? rest).map (e :: ·)
  | c :: rest => (decode? rest).map (c :: ·)

def encodeChar (c : Char) : Text :=
  if c = '"' then ['\\', '"'] else if c = '\\' then ['\\', '\\']
  else if c = '\x08' then ['\\', 'b'] else if c = '\x0c' then ['\\', 'f']
  else if c = '\n' then ['\\', 'n'] else if c = '\r' then ['\\', 'r'] else if c = '\t' then ['\\', 't']
  else if c.toNat < 0x20 then ['\\', 'u', '0', '0', lowerHex (c.toNat / 16), lowerHex (c.toNat % 16)]
  else [c]

def encode (text : Text) : Text := text.flatMap encodeChar

end ImportHooks.Json.Quoted
