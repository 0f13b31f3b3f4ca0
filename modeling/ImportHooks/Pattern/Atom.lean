import ImportHooks.Text.Hex
import ImportHooks.Pattern.Expr
import ImportHooks.Pattern.Named

namespace ImportHooks.Pattern
open Text

structure Flags where
  caseless : Bool
  multiline : Bool
  dotAll : Bool
  swapGreed : Bool
  wide : Bool          -- classes cover all of Unicode
  returns : Bool       -- a carriage return ends a line too
  verbose : Bool       -- blanks and comments in the pattern do not count
  deriving DecidableEq, Repr

def Flags.initial : Flags := ⟨false, false, false, false, true, false, false⟩

def Flags.set (flags : Flags) (c : Char) (on : Bool) : Option Flags :=
  match c with
  | 'i' => some { flags with caseless := on }
  | 'm' => some { flags with multiline := on }
  | 's' => some { flags with dotAll := on }
  | 'U' => some { flags with swapGreed := on }
  | 'u' => some { flags with wide := on }
  | 'R' => some { flags with returns := on }
  | 'x' => some { flags with verbose := on }
  | _ => none

def readFlags (flags : Flags) (seen : List Char) (on : Bool) : Text → Option Flags
  | [] => if seen.head? = some '-' then none else some flags
  | c :: rest =>
    if seen.contains c then none
    else if c = '-' then readFlags flags (c :: seen) false rest
    else do
      let flags ← flags.set c on
      readFlags flags (c :: seen) on rest

def skipBlanks : Bool → Text → Text
  | _, [] => []
  | true, c :: rest => if c = '\n' then skipBlanks false rest else skipBlanks true rest
  | false, c :: rest =>
    if isBlank c then skipBlanks false rest
    else if c = '#' then skipBlanks true rest
    else c :: rest

def Flags.skip (flags : Flags) (text : Text) : Text := if flags.verbose then skipBlanks false text else text

def Flags.peek? (flags : Flags) (text : Text) : Option Char :=
  if flags.verbose then
    match text.dropWhile isBlank with
    | '#' :: comment => (comment.dropWhile isBlank).head?
    | rest => rest.head?
  else text.head?

def Flags.takeWhile (flags : Flags) (isPart : Char → Bool) : Nat → Text → Text × Text
  | 0, text => ([], text)
  | _, [] => ([], [])
  | room + 1, c :: rest =>
    if isPart c then
      let (more, rest) := flags.takeWhile isPart room (flags.skip rest)
      (c :: more, rest)
    else ([], c :: rest)

def inBraces? (flags : Flags) (text : Text) : Option (Text × Text) :=
  match flags.takeWhile (· ≠ '\x7d') text.length (flags.skip text) with
  | (inside, _ :: rest) => some (inside, rest)
  | (_, []) => none

def isMeta (c : Char) : Bool := "\\.+*?()|[]\x7b\x7d^$#&-~".toList.contains c
def isEscapable (c : Char) : Bool := isMeta c || (c.toNat < 128 && !c.isAlphanum && c ≠ '<' && c ≠ '>')

def hexChar? (digits : Text) : Option Char :=
  if digits.isEmpty || !digits.all isHex then none
  else if (hexNumber digits).isValidChar then some (Char.ofNat (hexNumber digits))
  else none

def count? (flags : Flags) (text : Text) : Option (Nat × Text) :=
  let (digits, rest) := flags.takeWhile Char.isDigit text.length (text.dropWhile isBlank)
  let n := digits.foldl (fun n c => n * 10 + (c.toNat - '0'.toNat)) 0
  if digits.isEmpty || Nat.pow 2 32 ≤ n then none else some (n, flags.skip (rest.dropWhile isBlank))

inductive Atom where
  | char (c : Char)
  | set (chars : Charset)
  | look (assertion : Look)

-- All but some characters. Without wide classes that would be bytes that are no characters.
def Flags.complement? (flags : Flags) (chars : Charset) : Option Charset :=
  if flags.wide then some chars.complement else none

def Flags.negated? (flags : Flags) (negated : Bool) (chars : Charset) : Option Charset :=
  if negated then flags.complement? chars else some chars

def Flags.folded (flags : Flags) (chars : Charset) : Charset :=
  if flags.caseless then if flags.wide then chars.caseless else chars.asciiCaseless else chars

def Flags.literal (flags : Flags) (c : Char) : Expr :=
  if flags.caseless then
    if flags.wide then .ofSet (.ofChars (caseVariants c)) true else .ofSet (Charset.char c).asciiCaseless false
  else .literal [c]

def plainDigits : Charset := .range '0' '9'
def plainBlanks : Charset := .ofChars ['\t', '\n', '\x0b', '\x0c', '\r', ' ']
def plainWordChars : Charset := .ofRuns [(0x30, 0x39), (0x41, 0x5A), (0x5F, 0x5F), (0x61, 0x7A)]

def letterClass? (flags : Flags) (c : Char) : Option Charset :=
  let chars? :=
    match c.toLower with
    | 'd' => some (if flags.wide then digits else plainDigits)
    | 's' => some (if flags.wide then blankChars else plainBlanks)
    | 'w' => some (if flags.wide then wordChars else plainWordChars)
    | _ => none
  chars?.bind (flags.negated? c.isUpper)

def letterEscape? (flags : Flags) (c : Char) : Option Atom :=
  match c with
  | 'a' => some (.char '\x07') | 'f' => some (.char '\x0c') | 't' => some (.char '\t')
  | 'n' => some (.char '\n') | 'r' => some (.char '\r') | 'v' => some (.char '\x0b')
  | 'A' => some (.look .start) | 'z' => some (.look .stop)
  | 'B' => some (.look (.edge .noBoundary flags.wide))
  | '<' => some (.look (.edge .start flags.wide)) | '>' => some (.look (.edge .stop flags.wide))
  | c => (letterClass? flags c).map .set

def edgeNamed? (name : Text) : Option Edge :=
  match String.ofList name with
  | "start" => some .start
  | "end" => some .stop
  | "start-half" => some .startHalf
  | "end-half" => some .stopHalf
  | _ => none

def edge? (flags : Flags) (text : Text) : Option (Atom × Text) :=
  let isPart := fun c : Char => c.isAlpha || c = '-'
  match text with
  | '\x7b' :: inside =>
    match flags.takeWhile isPart inside.length (flags.skip inside) with
    | (_, []) => none
    | ([], _) => some (.look (.edge .boundary flags.wide), text)
    | (name, c :: rest) =>
      if c = '\x7d' then (edgeNamed? name).map fun e => (.look (.edge e flags.wide), rest) else none
  | _ => some (.look (.edge .boundary flags.wide), text)

-- The text after `\x`, `\u` or `\U`: a fixed number of digits, or any in braces. Two
-- digits alone name a byte where classes are not wide, and it has to be ASCII.
def hexEscape? (flags : Flags) (size : Nat) (text : Text) : Option (Atom × Text) :=
  match flags.skip text with
  | '\x7b' :: inside => do
    let (digits, rest) ← inBraces? flags inside
    let c ← hexChar? digits
    return (.char c, flags.skip rest)
  | body => do
    let (digits, rest) := flags.takeWhile isHex size body
    let c ← hexChar? digits
    if digits.length ≠ size || (size = 2 && !flags.wide && 0x7F < c.toNat) then none else some (.char c, rest)

def propertyEscape? (flags : Flags) (negated : Bool) (text : Text) : Option (Atom × Text) := do
  let (name, rest) ←
    match flags.skip text with
    | '\x7b' :: inside => inBraces? flags inside
    | '\\' :: _ | [] => none
    | c :: rest => some ([c], flags.skip rest)
  if !flags.wide then none
  else
    let chars ← property? name
    return (.set (if negated then (flags.folded chars).complement else flags.folded chars), rest)

def escape? (flags : Flags) (text : Text) : Option (Atom × Text) :=
  match text with
  | [] => none
  | 'x' :: rest => hexEscape? flags 2 rest
  | 'u' :: rest => hexEscape? flags 4 rest
  | 'U' :: rest => hexEscape? flags 8 rest
  | 'p' :: rest => propertyEscape? flags false rest
  | 'P' :: rest => propertyEscape? flags true rest
  | 'b' :: rest => edge? flags rest
  | c :: rest => if isEscapable c then some (.char c, rest) else (letterEscape? flags c).map (·, rest)

end ImportHooks.Pattern
