import ImportHooks.Url.Domain

namespace ImportHooks.Url
open Text

inductive Host where
  | domain (name : Text)
  | ipv4 (address : Nat)
  | ipv6 (pieces : List Nat)
  deriving DecidableEq, Repr

def addressPart? (part : Text) : Option Nat :=
  let read := fun (base : Nat) (digits : Text) =>
    let n := digits.foldl (fun n c => n * base + hexValue c) 0
    if digits.all (fun c => isHex c && hexValue c < base) && n < Nat.pow 2 32 then some n else none
  match part with
  | [] => none
  | '0' :: 'x' :: digits | '0' :: 'X' :: digits => read 16 digits
  | '0' :: c :: digits => read 8 (c :: digits)
  | digits => read 10 digits

def isAddressPart (part : Text) : Bool :=
  match part with
  | [] => false
  | '0' :: 'x' :: digits | '0' :: 'X' :: digits => digits.all isHex
  | digits => digits.all Char.isDigit

def addressParts (name : Text) : List Text :=
  let parts := split '.' name
  if 1 < parts.length && parts.getLast? = some [] then parts.dropLast else parts

-- A domain whose last part is a number has to be an address.
def endsInNumber (name : Text) : Bool := (addressParts name).getLast?.any isAddressPart

def ipv4? (name : Text) : Option Nat := do
  let parts := addressParts name
  if 4 < parts.length then none
  else
    let numbers ← parts.mapM addressPart?
    let last ← numbers.getLast?
    let earlier := numbers.dropLast
    if earlier.all (· ≤ 255) && last < Nat.pow 256 (4 - earlier.length) then
      some (earlier.zipIdx.foldl (fun sum (n, i) => sum + n * Nat.pow 256 (3 - i)) last)
    else none

def trailingPart? (part : Text) : Option Nat :=
  if part.isEmpty || !part.all Char.isDigit || (1 < part.length && part.head? = some '0') then none
  else
    let n := part.foldl (fun n c => n * 10 + hexValue c) 0
    if n ≤ 255 then some n else none

def trailing? (text : Text) : Option (List Nat) :=
  match (split '.' text).mapM trailingPart? with
  | some [a, b, c, d] => some [a * 256 + b, c * 256 + d]
  | _ => none

def ipv6Group? (group : Text) : Option (List Nat) :=
  if group.isEmpty || 4 < group.length || !group.all isHex then none else some [hexNumber group]

-- Groups between colons; only the last group of the address may be dotted.
def ipv6Groups? (mayTrail : Bool) (text : Text) : Option (List Nat) :=
  if text.isEmpty then some []
  else
    let groups := split ':' text
    let earlier := groups.dropLast.mapM ipv6Group?
    let last := groups.getLast?.bind fun g => if mayTrail && g.contains '.' then trailing? g else ipv6Group? g
    earlier.bind fun e => last.map fun l => e.flatten ++ l

def cutDoubleColon : Text → Option (Text × Text)
  | ':' :: ':' :: rest => some ([], rest)
  | c :: rest => (cutDoubleColon rest).map fun (before, after) => (c :: before, after)
  | [] => none

def ipv6? (text : Text) : Option (List Nat) :=
  match cutDoubleColon text with
  | none => do
    let pieces ← ipv6Groups? true text
    if pieces.length = 8 then some pieces else none
  | some (before, after) => do
    let left ← ipv6Groups? false before
    let right ← ipv6Groups? true after
    if left.length + right.length ≤ 7 then
      some (left ++ List.replicate (8 - left.length - right.length) 0 ++ right)
    else none

namespace Host

def parse? (text : Text) : Option Host :=
  match text with
  | '[' :: inside =>
    if inside.getLast? = some ']' then (ipv6? inside.dropLast).map .ipv6 else none
  | _ => do
    let plain ← ofUtf8? (unescape text)
    let name ← Domain.name? plain
    if endsInNumber name then (ipv4? name).map .ipv4 else some (.domain name)

def parsePlain? (text : Text) : Option Host :=
  match text with
  | '[' :: _ => parse? text
  | _ => if text.any isForbiddenInHost then none else some (.domain (escape controls text))

def decimal (n : Nat) : Text := (toString n).toList

def ipv4Text (address : Nat) : Text :=
  join '.' ([3, 2, 1, 0].map fun i => decimal (address / Nat.pow 256 i % 256))

def hexText (n : Nat) : Text := Nat.toDigits 16 n

def longestZeros (pieces : List Nat) : Nat × Nat :=
  let runs := (List.range pieces.length).map fun i => (i, ((pieces.drop i).takeWhile (· = 0)).length)
  runs.foldl (fun best run => if best.2 < run.2 then run else best) (0, 0)

def ipv6Text (pieces : List Nat) : Text :=
  let (start, size) := longestZeros pieces
  let groups := fun (ps : List Nat) => join ':' (ps.map hexText)
  if size < 2 then groups pieces
  else groups (pieces.take start) ++ [':', ':'] ++ groups (pieces.drop (start + size))

def text : Host → Text
  | .domain name => name
  | .ipv4 address => ipv4Text address
  | .ipv6 pieces => '[' :: ipv6Text pieces ++ [']']

end Host
end ImportHooks.Url
