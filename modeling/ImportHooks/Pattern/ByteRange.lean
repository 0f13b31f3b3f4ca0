import ImportHooks.Text.Utf8

namespace ImportHooks.Pattern
open Text

abbrev ByteRange := Nat × Nat

def lengthEnds : List Nat := [0x7F, 0x7FF, 0xFFFF]

def bytesOf (n : Nat) : List Nat := (utf8 [Char.ofNat n]).map (·.toNat)

-- Where the last bytes of a run stop running through all their values.
def alignedCut? (first last : Nat) : Option Nat :=
  [64, Nat.pow 64 2, Nat.pow 64 3].findSome? fun block =>
    if first / block = last / block then none
    else if first % block ≠ 0 then some (first / block * block + (block - 1))
    else if last % block ≠ block - 1 then some (last / block * block - 1)
    else none

def cut? (first last : Nat) : Option Nat :=
  match lengthEnds.find? fun n => first ≤ n && n < last with
  | some n => some n
  | none => if last ≤ 0x7F then none else alignedCut? first last

def byteRanges : Nat → Nat → Nat → List (List ByteRange)
  | 0, _, _ => []
  | depth + 1, first, last =>
    if first < 0xE000 && 0xD7FF < last then byteRanges depth first 0xD7FF ++ byteRanges depth 0xE000 last
    else if last < first then []
    else match cut? first last with
      | some n => byteRanges depth first n ++ byteRanges depth (n + 1) last
      | none => [(bytesOf first).zip (bytesOf last)]

def runBytes (run : Nat × Nat) : List (List ByteRange) := byteRanges 64 run.1 run.2

end ImportHooks.Pattern
