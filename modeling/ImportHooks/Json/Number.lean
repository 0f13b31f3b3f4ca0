import ImportHooks.Text.Utf8

namespace ImportHooks.Json.Number

def digit (c : Char) : Nat := c.toNat - '0'.toNat

-- A significand of at most 64 bits and a power of ten. Both are rounded to 53 bits before
-- they are multiplied, and a number is out of range when the product is infinite.
structure Scaled where
  significand : Nat
  power : Int
  full : Bool

def Scaled.whole (s : Scaled) (c : Char) : Scaled :=
  if s.full || Nat.pow 2 64 ≤ s.significand * 10 + digit c then { s with power := s.power + 1, full := true }
  else { s with significand := s.significand * 10 + digit c }

def Scaled.fraction (s : Scaled) (c : Char) : Scaled :=
  if s.full || Nat.pow 2 64 ≤ s.significand * 10 + digit c then { s with full := true }
  else { s with significand := s.significand * 10 + digit c, power := s.power - 1 }

def decimal (digits : Text) : Nat := digits.foldl (fun n c => n * 10 + digit c) 0

def isMark (c : Char) : Bool := c = 'e' || c = 'E'

def exponent (text : Text) : Int :=
  match text with
  | '-' :: digits => -(decimal digits : Int)
  | '+' :: digits => decimal digits
  | digits => decimal digits

def scaled (raw : Text) : Scaled :=
  let unsigned := if raw.head? = some '-' then raw.tail else raw
  let body := unsigned.takeWhile (!isMark ·)
  let power := exponent ((unsigned.dropWhile (!isMark ·)).drop 1)
  let whole := (body.takeWhile (· ≠ '.')).foldl Scaled.whole ⟨0, 0, false⟩
  let read := ((body.dropWhile (· ≠ '.')).drop 1).foldl Scaled.fraction { whole with full := false }
  { read with power := read.power + power }

def round53 (n : Nat) : Nat :=
  let shift := n.log2 + 1 - 53
  let unit := Nat.pow 2 shift
  let quotient := n / unit
  let rest := n % unit
  let up := unit < 2 * rest || (2 * rest = unit && quotient % 2 = 1)
  (quotient + if up then 1 else 0) * unit

-- The least product that rounds to infinity lies half a unit above the largest double.
def overflow : Nat := Nat.pow 2 1024 - Nat.pow 2 970

def inRange (raw : Text) : Bool :=
  let s := scaled raw
  if s.significand = 0 || s.power ≤ 0 then true
  else if 308 < s.power then false
  else round53 s.significand * round53 (Nat.pow 10 s.power.toNat) < overflow

end ImportHooks.Json.Number
