import ImportHooks.Pattern.Bracket

namespace ImportHooks.Pattern
open Text

structure Piece where
  expr : Expr
  depth : Nat
  repeatable : Bool

def concatenated (items : List Piece) : Piece :=
  match items with
  | [] => ⟨.empty, 0, false⟩
  | [item] => ⟨item.expr, item.depth, true⟩
  | items => ⟨.row (items.reverse.map (·.expr)), items.foldl (fun d item => max d item.depth) 0 + 1, true⟩

structure Level where
  number : Option Nat
  branches : List Piece
  items : List Piece
  flags : Flags

namespace Level

def push (l : Level) (e : Expr) (depth : Nat) : Level := { l with items := ⟨e, depth, true⟩ :: l.items }

def branch (l : Level) : Level := { l with branches := concatenated l.items :: l.branches, items := [] }

def settled (l : Level) : Piece :=
  let last := concatenated l.items
  match l.branches with
  | [] => last
  | branches =>
    ⟨.choice ((last :: branches).reverse.map (·.expr)),
      branches.foldl (fun d b => max d b.depth) last.depth + 1, true⟩

def grouped (l : Level) : Expr :=
  match l.number with
  | some n => .group n l.settled.expr
  | none => l.settled.expr

def repeatLast? (l : Level) (least : Nat) (most : Option Nat) (lazyMark : Bool) : Option Level :=
  match l.items with
  | item :: earlier =>
    if item.repeatable then
      let expr := item.expr.repeated least most (lazyMark == l.flags.swapGreed)
      some { l with items := ⟨expr, item.depth + 1, true⟩ :: earlier }
    else none
  | [] => none

def atom (l : Level) (a : Atom) : Level :=
  match a with
  | .char c => l.push (l.flags.literal c) 0
  | .set chars => l.push (.ofSet chars l.flags.wide) 0
  | .look k => l.push (.look k) 0

def dot? (flags : Flags) : Option Charset :=
  if flags.dotAll then flags.complement? .none
  else if flags.returns then flags.complement? (.ofChars ['\n', '\r'])
  else flags.complement? (.char '\n')

def lineStart (flags : Flags) : Look :=
  if flags.multiline then if flags.returns then .lineStartReturn else .lineStart else .start
def lineStop (flags : Flags) : Look :=
  if flags.multiline then if flags.returns then .lineStopReturn else .lineStop else .stop

end Level

structure Reader where
  level : Level
  outer : List Level
  count : Nat
  names : List Text

def isNameStart (c : Char) : Bool :=
  c = '_' || if c.toNat < 128 then c.isAlpha else (derived? "alphabetic").any (·.mem c)
def isNameChar (c : Char) : Bool :=
  isNameStart c || ['.', '[', ']'].contains c ||
    if c.toNat < 128 then c.isDigit else (category? "n").any (·.mem c)

def groupName? (names : List Text) (text : Text) : Option (Text × Text) :=
  let name := text.takeWhile (· ≠ '>')
  match name, text.dropWhile (· ≠ '>') with
  | first :: more, _ :: rest =>
    if isNameStart first && more.all isNameChar && !names.contains name then some (name, rest) else none
  | _, _ => none

namespace Reader

def enter (r : Reader) (flags : Flags) : Reader :=
  { r with level := ⟨none, [], [], flags⟩, outer := r.level :: r.outer }

def enterNumbered (r : Reader) : Reader :=
  { r with
    level := ⟨some (r.count + 1), [], [], r.level.flags⟩, outer := r.level :: r.outer, count := r.count + 1 }

def openNamed? (r : Reader) (text : Text) : Option (Reader × Text) := do
  let (name, rest) ← groupName? r.names text
  return ({ r.enterNumbered with names := name :: r.names }, rest)

def openGroup? (r : Reader) (text : Text) : Option (Reader × Text) :=
  match r.level.flags.skip text with
  | '?' :: '=' :: _ | '?' :: '!' :: _ | '?' :: '<' :: '=' :: _ | '?' :: '<' :: '!' :: _ => none
  | '?' :: 'P' :: '<' :: rest => r.openNamed? rest
  | '?' :: '<' :: rest => r.openNamed? rest
  | '?' :: rest => do
    let letters := rest.takeWhile fun c => c ≠ ':' && c ≠ ')'
    let flags ← readFlags r.level.flags [] true letters
    match rest.dropWhile fun c => c ≠ ':' && c ≠ ')' with
    | ':' :: rest => some (r.enter flags, rest)
    | ')' :: rest =>
      if letters.isEmpty then none
      else
        let level : Level := { r.level with flags := flags, items := ⟨.empty, 0, false⟩ :: r.level.items }
        some ({ r with level := level }, rest)
    | _ => none
  | rest => some (r.enterNumbered, rest)

-- At a closing parenthesis the group becomes one part of the level around it.
def closeGroup? (r : Reader) : Option Reader :=
  match r.outer with
  | [] => none
  | level :: outer =>
    some { r with level := level.push r.level.grouped (r.level.settled.depth + 1), outer := outer }

def counted? (flags : Flags) (text : Text) : Option ((Nat × Option Nat) × Text) := do
  let (least, rest) ← count? flags (flags.skip text)
  match rest with
  | '\x7d' :: rest => some ((least, some least), rest)
  | ',' :: rest =>
    match flags.skip rest with
    | '\x7d' :: rest => some ((least, none), rest)
    | rest => do
      let (most, rest) ← count? flags rest
      match rest with
      | '\x7d' :: rest => if least ≤ most then some ((least, some most), rest) else none
      | _ => none
  | _ => none

def lazyMark (text : Text) : Bool × Text :=
  match text with
  | '?' :: rest => (true, rest)
  | _ => (false, text)

def repeated? (r : Reader) (least : Nat) (most : Option Nat) (text : Text) : Option (Reader × Text) := do
  let (isLazy, rest) := lazyMark text
  let level ← r.level.repeatLast? least most isLazy
  return ({ r with level := level }, rest)

def step? (r : Reader) (c : Char) (rest : Text) : Option (Reader × Text) :=
  let flags := r.level.flags
  match c with
  | '(' => r.openGroup? rest
  | ')' => r.closeGroup?.map (·, rest)
  | '|' => some ({ r with level := r.level.branch }, rest)
  | '[' => do
    let (b, rest) ← openBracket? flags rest
    let ((chars, depth), rest) ← readBracket flags (rest.length + 1) b [] rest
    return ({ r with level := r.level.push (.ofSet chars flags.wide) depth }, rest)
  | '?' => r.repeated? 0 (some 1) rest
  | '*' => r.repeated? 0 none rest
  | '+' => r.repeated? 1 none rest
  | '\x7b' => do
    let ((least, most), rest) ← counted? flags rest
    r.repeated? least most (flags.skip rest)
  | '.' => (Level.dot? flags).map fun chars => ({ r with level := r.level.atom (.set chars) }, rest)
  | '^' => some ({ r with level := r.level.push (.look (Level.lineStart flags)) 0 }, rest)
  | '$' => some ({ r with level := r.level.push (.look (Level.lineStop flags)) 0 }, rest)
  | '\\' => do
    let (a, rest) ← escape? flags rest
    return ({ r with level := r.level.atom a }, rest)
  | c => some ({ r with level := r.level.atom (.char c) }, rest)

-- Each round takes a character, so the text itself bounds them.
def run : Nat → Reader → Text → Option Reader
  | 0, _, _ => none
  | room + 1, r, text =>
    match r.level.flags.skip text with
    | [] => some r
    | c :: rest => do
      let (r, rest) ← r.step? c rest
      run room r rest

end Reader

def depthLimit : Nat := 250

def read? (text : Text) : Option Expr := do
  let r ← Reader.run (text.length + 1) ⟨⟨none, [], [], .initial⟩, [], 0, []⟩ text
  let whole := r.level.settled
  if r.outer.isEmpty && whole.depth ≤ depthLimit then some whole.expr else none

end ImportHooks.Pattern
