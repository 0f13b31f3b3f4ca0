import ImportHooks.Pattern.Atom

namespace ImportHooks.Pattern
open Text

inductive SetOperation where
  | meet | less | differ
  deriving DecidableEq, Repr

def SetOperation.apply : SetOperation → Charset → Charset → Charset
  | .meet => .meet
  | .less => .less
  | .differ => .differ

-- A set in brackets is read as a list of items; `held` is the left side of an
-- operation whose right side is being read.
structure Bracket where
  negated : Bool
  items : List Charset
  itemDepth : Nat
  held : Option (SetOperation × Charset)
  depth : Nat

namespace Bracket

def item (b : Bracket) (chars : Charset) (depth : Nat) : Bracket :=
  { b with items := chars :: b.items, itemDepth := max b.itemDepth depth }

def settled (flags : Flags) (b : Bracket) : Charset × Nat :=
  let right := Charset.unions b.items
  let rightDepth := if b.items.length ≤ 1 then b.itemDepth else b.itemDepth + 1
  match b.held with
  | none => (right, rightDepth)
  | some (operation, left) =>
    (operation.apply (flags.folded left) (flags.folded right), max b.depth rightDepth + 1)

def operate (flags : Flags) (b : Bracket) (operation : SetOperation) : Bracket :=
  let (chars, depth) := b.settled flags
  ⟨b.negated, [], 0, some (operation, chars), depth⟩

def close? (flags : Flags) (b : Bracket) : Option (Charset × Nat) :=
  let (chars, depth) := b.settled flags
  (flags.negated? b.negated (flags.folded chars)).map (·, depth + 1)

end Bracket

def openBracket? (flags : Flags) (text : Text) : Option (Bracket × Text) :=
  let text := flags.skip text
  let negated := text.head? = some '^'
  let text := if negated then flags.skip text.tail else text
  let (dashes, rest) := flags.takeWhile (· = '-') text.length text
  let b : Bracket := ⟨negated, dashes.map .char, 0, none, 0⟩
  match rest with
  | [] => none
  | ']' :: after =>
    if dashes.isEmpty then
      let after := flags.skip after
      if after.isEmpty then none else some (b.item (.char ']') 0, after)
    else some (b, rest)
  | _ => some (b, rest)

def asciiClasses : List (String × List Run) :=
  [("alnum", [(0x30, 0x39), (0x41, 0x5A), (0x61, 0x7A)]), ("alpha", [(0x41, 0x5A), (0x61, 0x7A)]),
    ("ascii", [(0, 0x7F)]), ("blank", [(0x09, 0x09), (0x20, 0x20)]), ("cntrl", [(0, 0x1F), (0x7F, 0x7F)]),
    ("digit", [(0x30, 0x39)]), ("graph", [(0x21, 0x7E)]), ("lower", [(0x61, 0x7A)]), ("print", [(0x20, 0x7E)]),
    ("punct", [(0x21, 0x2F), (0x3A, 0x40), (0x5B, 0x60), (0x7B, 0x7E)]),
    ("space", [(0x09, 0x0D), (0x20, 0x20)]), ("upper", [(0x41, 0x5A)]),
    ("word", [(0x30, 0x39), (0x41, 0x5A), (0x5F, 0x5F), (0x61, 0x7A)]),
    ("xdigit", [(0x30, 0x39), (0x41, 0x46), (0x61, 0x66)])]

def asciiClass? (text : Text) : Option ((Bool × Charset) × Text) :=
  match text with
  | ':' :: inside =>
    let negated := inside.head? = some '^'
    let body := if negated then inside.tail else inside
    match body.dropWhile (· ≠ ':') with
    | ':' :: ']' :: rest =>
      (asciiClasses.find? (·.1.toList = body.takeWhile (· ≠ ':'))).map fun (_, runs) =>
        ((negated, ⟨runs⟩), rest)
    | _ => none
  | _ => none

def bracketAtom? (flags : Flags) (text : Text) : Option (Atom × Text) :=
  match text with
  | [] => none
  | '\\' :: rest => escape? flags rest
  | c :: rest => some (.char c, rest)

def Flags.range? (flags : Flags) (first last : Char) : Option Charset :=
  if first ≤ last && (flags.wide || last.toNat < 128) then some (.range first last) else none

def bracketItem? (flags : Flags) (text : Text) : Option (Charset × Text) := do
  let (first, rest) ← bracketAtom? flags text
  match flags.skip rest with
  | [] => none
  | c :: after =>
    if c ≠ '-' ∨ flags.peek? after = some ']' ∨ flags.peek? after = some '-' then
      match first with
      | .char a => (flags.range? a a).map (·, c :: after)
      | .set chars => some (chars, c :: after)
      | .look _ => none
    else
      let (second, rest) ← bracketAtom? flags (flags.skip after)
      match first, second with
      | .char a, .char b => (flags.range? a b).map (·, rest)
      | _, _ => none

def readBracket (flags : Flags) : Nat → Bracket → List Bracket → Text → Option ((Charset × Nat) × Text)
  | 0, _, _, _ => none
  | room + 1, b, outer, text =>
    match flags.skip text with
    | [] => none
    | '[' :: rest =>
      match asciiClass? rest with
      | some ((negated, chars), rest) => do
        let chars ← flags.negated? negated (flags.folded chars)
        readBracket flags room (b.item chars 0) outer rest
      | none => do
        let (inner, rest) ← openBracket? flags rest
        readBracket flags room inner (b :: outer) rest
    | ']' :: rest => do
      let (chars, depth) ← b.close? flags
      match outer with
      | [] => some ((chars, depth), rest)
      | parent :: outer => readBracket flags room (parent.item chars depth) outer rest
    | '&' :: '&' :: rest => readBracket flags room (b.operate flags .meet) outer rest
    | '-' :: '-' :: rest => readBracket flags room (b.operate flags .less) outer rest
    | '~' :: '~' :: rest => readBracket flags room (b.operate flags .differ) outer rest
    | text => do
      let (chars, rest) ← bracketItem? flags text
      readBracket flags room (b.item chars 0) outer rest

end ImportHooks.Pattern
