import ImportHooks.Text.Utf8

namespace ImportHooks.Url.Punycode

def digitChar (d : Nat) : Char := if d < 26 then Char.ofNat ('a'.toNat + d) else Char.ofNat ('0'.toNat + (d - 26))

def digitValue? (c : Char) : Option Nat :=
  if c.isDigit then some (c.toNat - '0'.toNat + 26)
  else if c.isAlpha then some (c.toLower.toNat - 'a'.toNat) else none

def threshold (k bias : Nat) : Nat := if k ≤ bias then 1 else if bias + 26 ≤ k then 26 else k - bias

-- Divides by 35 until a digit's range is reached. Each round shrinks the distance,
-- which therefore bounds their number.
def shrink : Nat → Nat → Nat → Nat × Nat
  | 0, distance, k => (distance, k)
  | room + 1, distance, k => if 455 < distance then shrink room (distance / 35) (k + 36) else (distance, k)

def adapt (distance points : Nat) (first : Bool) : Nat :=
  let scaled := if first then distance / 700 else distance / 2
  let spread := scaled + scaled / points
  let (rest, k) := shrink spread spread 0
  k + 36 * rest / (rest + 38)

def distanceDigits (bias : Nat) : Nat → Nat → Nat → Text
  | 0, _, _ => []
  | room + 1, k, q =>
    let t := threshold k bias
    if q < t then [digitChar q]
    else digitChar (t + (q - t) % (36 - t)) :: distanceDigits bias room (k + 36) ((q - t) / (36 - t))

structure Encoder where
  out : Text
  distance : Nat
  bias : Nat
  done : Nat

def Encoder.scan (basic point : Nat) (s : Encoder) (c : Char) : Encoder :=
  if c.toNat < point then { s with distance := s.distance + 1 }
  else if c.toNat = point then
    { out := s.out ++ distanceDigits s.bias (s.distance + 1) 36 s.distance, distance := 0,
      bias := adapt s.distance (s.done + 1) (s.done = basic), done := s.done + 1 }
  else s

def encodePoints (text : Text) (basic : Nat) : List Nat → Nat → Encoder → Text
  | [], _, s => s.out
  | point :: points, from_, s =>
    let s := { s with distance := s.distance + (point - from_) * (s.done + 1) }
    let s := text.foldl (Encoder.scan basic point) s
    encodePoints text basic points (point + 1) { s with distance := s.distance + 1 }

def encode (text : Text) : Text :=
  let basic := text.filter fun c => c.toNat < 128
  let points := ((text.filter fun c => 128 ≤ c.toNat).map Char.toNat).mergeSort.eraseReps
  let start : Encoder := ⟨if basic.isEmpty then [] else basic ++ ['-'], 0, 72, basic.length⟩
  encodePoints text basic.length points 128 start

structure Decoder where
  out : Text
  point : Nat
  index : Nat
  bias : Nat
  start : Nat
  weight : Nat
  k : Nat

def wordLimit : Nat := Nat.pow 2 32

def Decoder.feed (s : Decoder) (c : Char) : Option Decoder := do
  let d ← digitValue? c
  let reached := s.index + d * s.weight
  let t := threshold s.k s.bias
  if wordLimit ≤ reached then none
  else if d < t then
    let count := s.out.length + 1
    let point := s.point + reached / count
    let index := reached % count
    if point.isValidChar then
      some ⟨s.out.take index ++ Char.ofNat point :: s.out.drop index, point, index + 1,
        adapt (reached - s.start) count (s.start = 0), index + 1, 1, 36⟩
    else none
  else if wordLimit ≤ s.weight * (36 - t) then none
  else some { s with index := reached, weight := s.weight * (36 - t), k := s.k + 36 }

def decode? (text : Text) : Option Text := do
  let digits := (text.reverse.takeWhile (· ≠ '-')).reverse
  let basic := text.take (text.length - digits.length - 1)
  if basic.isEmpty && text.contains '-' then none
  else
    let s ← digits.foldlM Decoder.feed ⟨basic, 128, 0, 72, 0, 1, 36⟩
    if s.k = 36 then some s.out else none

end ImportHooks.Url.Punycode
