import ImportHooks.Url.Segments

namespace ImportHooks.Url
open Text

def scheme? (text : List Glyph) : Option (Text × List Glyph) :=
  match text with
  | first :: _ =>
    let isPart := fun g : Glyph => g.char.isAlphanum || g.char = '+' || g.char = '-' || g.char = '.'
    match text.dropWhile isPart with
    | mark :: rest =>
      if mark.char = ':' && first.char.isAlpha then
        some ((chars (text.takeWhile isPart)).map Char.toLower, rest)
      else none
    | [] => none
  | [] => none

structure Tail where
  path : List Glyph
  query : Option Text
  fragment : Option Text

def Tail.ofText (text : List Glyph) : Tail :=
  let front := text.takeWhile (·.char ≠ '#')
  let behind := text.dropWhile (·.char ≠ '#')
  let mark := front.dropWhile (·.char ≠ '?')
  ⟨front.takeWhile (·.char ≠ '?'), if mark.isEmpty then none else some (chars mark.tail),
    if behind.isEmpty then none else some (chars behind.tail)⟩

def Tail.query? (t : Tail) (scheme : Text) : Option Text :=
  t.query.map (escape (if isSpecial scheme then inSpecialQuery else inQuery))
def Tail.fragment? (t : Tail) : Option Text := t.fragment.map (escape inFragment)

def build (scheme : Text) (authority : Option Authority) (parts : List Text) (t : Tail) : Url :=
  ⟨scheme, authority, .segments parts, t.query? scheme, t.fragment?⟩

-- User name and password before the last `@`. A colon behind an empty name or
-- before an empty password is not kept when nothing is left to tell apart.
def credentials (text : Text) : Text :=
  let user := text.takeWhile (· ≠ ':')
  let password := (text.dropWhile (· ≠ ':')).drop 1
  escape inUserinfo user ++ if password.isEmpty then [] else ':' :: escape inUserinfo password

def cutHost : Bool → List Glyph → List Glyph × List Glyph
  | _, [] => ([], [])
  | inside, g :: rest =>
    if g.char = ':' && !inside then ([], g :: rest)
    else
      let (host, number) := cutHost (if g.char = '[' then true else if g.char = ']' then false else inside) rest
      (g :: host, number)

def portNumber? (scheme : Text) (text : Text) : Option (Option Nat) :=
  match text with
  | [] => some none
  | _ :: digits =>
    let n := digits.foldl (fun n c => n * 10 + hexValue c) 0
    if !digits.all Char.isDigit || 65535 < n then none
    else if digits.isEmpty || defaultPort? scheme = some n then some none else some (some n)

def cutUser (text : List Glyph) : Option (Text × List Glyph) :=
  let behind := (text.reverse.takeWhile (·.char ≠ '@')).reverse
  if behind.length = text.length then none
  else some (chars (text.take (text.length - behind.length - 1)), behind)

def authority? (scheme : Text) (user host number : Text) : Option Authority := do
  if host.isEmpty then
    if isSpecial scheme || !user.isEmpty || !number.isEmpty then none else some ⟨[], none, none⟩
  else
    let host ← if isSpecial scheme then Host.parse? host else Host.parsePlain? host
    let number ← portNumber? scheme number
    some ⟨user, some host, number⟩

def readPath (scheme : Text) (path : List Glyph) : Reading :=
  let begins := path.head?.any (isSlash (isSpecial scheme) ·.char)
  if path.isEmpty && !isSpecial scheme then ⟨[], false⟩
  else read scheme (if begins then [] else ['/']) path

def readAuthority? (scheme : Text) (text : List Glyph) : Option Url := do
  let isEnd := fun g : Glyph => isSlash (isSpecial scheme) g.char || g.char = '?' || g.char = '#'
  let front := text.takeWhile (!isEnd ·)
  let behind := text.dropWhile (!isEnd ·)
  if front.length = 1 && front.head?.any (·.char = '@') && !behind.isEmpty then none
  else
    let (user, place) := (cutUser front).getD ([], front)
    let (host, number) := cutHost false place
    let authority ← authority? scheme (credentials user) (chars host) (chars (number.takeWhile (·.char ≠ '\\')))
    let t := Tail.ofText (number.dropWhile (·.char ≠ '\\') ++ behind)
    some (build scheme (some authority) (readPath scheme t.path).parts t)

def localHost : Text := "localhost".toList

def fileAuthority (host : Option Host) : Authority := ⟨[], host, none⟩

def fileHost? (text : Text) : Option (Option Host) :=
  if text.isEmpty then some none
  else (Host.parse? text).map fun host => if host = .domain localHost then none else some host

def buildFile (host : Option Host) (parts : List Text) (t : Tail) : Url :=
  build fileScheme (some (fileAuthority host)) parts t

-- The text behind `file://`. A drive letter in the place of the host begins the
-- path, and behind a host one that begins the path leaves no host. Without a host
-- the slash behind it is an empty segment.
def readFileHost? (text : List Glyph) : Option Url := do
  let isEnd := fun g : Glyph => isSlash true g.char || g.char = '?' || g.char = '#'
  let name := chars (text.takeWhile (!isEnd ·))
  if isDriveLetter name then
    let t := Tail.ofText text
    some (buildFile none (read fileScheme ['/'] t.path).parts t)
  else
    let t := Tail.ofText (text.dropWhile (!isEnd ·))
    match ← fileHost? name with
    | none => some (buildFile none (read fileScheme ['/'] t.path).parts t)
    | some host =>
      let reading := readPath fileScheme t.path
      some (buildFile (if reading.drive then none else some host) reading.parts t)

def segmentsOf (u : Url) : List Text :=
  match u.route with
  | .segments parts => parts
  | .plain _ => []

def readFromRoot (base : Option Url) (text : List Glyph) : Url :=
  let t := Tail.ofText text
  match base with
  | none => buildFile none (read fileScheme [] t.path).parts t
  | some b =>
    if startsWithDrive (chars (text.drop 1)) then buildFile none (read fileScheme [] t.path).parts t
    else
      match (b.segmentsOf.take 1).filter isDrive with
      | [drive] => buildFile none (read fileScheme ('/' :: drive).reverse t.path).parts t
      | _ => buildFile b.host? (read fileScheme [] t.path).parts t

def readFile? (base : Option Url) (text : List Glyph) : Option Url :=
  let t := Tail.ofText text
  match text with
  | [] => some (match base with | some b => { b with fragment := none } | none => buildFile none [[]] t)
  | g :: rest =>
    if isSlash true g.char then
      if rest.head?.any (isSlash true ·.char) then readFileHost? rest.tail else some (readFromRoot base text)
    else match base with
      | none => some (buildFile none (read fileScheme ['/'] t.path).parts t)
      | some b =>
        if g.char = '?' then some { b with query := t.query? fileScheme, fragment := t.fragment? }
        else if g.char = '#' then some { b with fragment := t.fragment? }
        else if startsWithDrive (chars text) then some (buildFile none (read fileScheme ['/'] t.path).parts t)
        else some (buildFile b.host? (readBehind fileScheme b.segmentsOf t.path) t)

def readRelative? (b : Url) (text : List Glyph) : Option Url :=
  let special := isSpecial b.scheme
  let t := Tail.ofText text
  match text with
  | [] => some { b with fragment := none }
  | g :: rest =>
    if g.char = '?' then some { b with query := t.query? b.scheme, fragment := t.fragment? }
    else if g.char = '#' then some { b with fragment := t.fragment? }
    else if isSlash special g.char then
      if rest.head?.any (isSlash special ·.char) then
        readAuthority? b.scheme (if special then rest.dropWhile (isSlash true ·.char) else rest.tail)
      else some (build b.scheme b.authority (read b.scheme [] t.path).parts t)
    else some (build b.scheme b.authority (readBehind b.scheme b.segmentsOf t.path) t)

def readPlain (scheme : Text) (text : List Glyph) : Url :=
  let t := Tail.ofText text
  ⟨scheme, none, .plain (escape controls (chars t.path)), t.query? scheme, t.fragment?⟩

def readBehindScheme? (base : Option Url) (scheme : Text) (text : List Glyph) : Option Url :=
  if scheme = fileScheme then readFile? (base.filter (·.scheme = fileScheme)) text
  else if isSpecial scheme then
    let slashes := text.takeWhile (isSlash true ·.char)
    let behind := text.dropWhile (isSlash true ·.char)
    match base.filter (·.scheme = scheme) with
    | some b => if slashes.length < 2 then readRelative? b text else readAuthority? scheme behind
    | none => readAuthority? scheme behind
  else if text.head?.any (·.char = '/') then
    if text.tail.head?.any (·.char = '/') then readAuthority? scheme (text.drop 2)
    else
      let t := Tail.ofText text
      some (build scheme none (read scheme [] t.path).parts t)
  else some (readPlain scheme text)

def readWith? (base : Option Url) (input : Text) : Option Url :=
  let text := glyphs input
  match scheme? text with
  | some (scheme, rest) => readBehindScheme? base scheme rest
  | none =>
    match base with
    | none => none
    | some b =>
      if text.head?.any (·.char = '#') then some { b with fragment := (Tail.ofText text).fragment? }
      else match b.route with
        | .plain _ => none
        | .segments _ => if b.scheme = fileScheme then readFile? (some b) text else readRelative? b text

def parse? (input : Text) : Option Url := readWith? none input

def join? (base : Url) (reference : Text) : Option Url := readWith? (some base) reference

end ImportHooks.Url
