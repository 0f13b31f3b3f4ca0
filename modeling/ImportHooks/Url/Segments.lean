import ImportHooks.Url.Basic
import ImportHooks.Url.Glyph

namespace ImportHooks.Url
open Text

def isDriveLetter (text : Text) : Bool :=
  match text with
  | [letter, mark] => letter.isAlpha && (mark = ':' || mark = '|')
  | _ => false

def isDrive (text : Text) : Bool := isDriveLetter text && text.getLast? = some ':'

def startsWithDrive (text : Text) : Bool :=
  isDriveLetter (text.take 2) && (text.drop 2).head?.all fun c => c = '/' || c = '\\' || c = '?' || c = '#'

def isDot (segment : Text) : Bool := segment.map Char.toLower ∈ [".".toList, "%2e".toList]
def isDoubleDot (segment : Text) : Bool :=
  segment.map Char.toLower ∈ ["..".toList, ".%2e".toList, "%2e.".toList, "%2e%2e".toList]

def isSlash (special : Bool) (c : Char) : Bool := c = '/' || (special && c = '\\')

def cut (special : Bool) : List Glyph → List (List Glyph)
  | [] => [[]]
  | g :: rest =>
    if isSlash special g.char then [] :: cut special rest
    else match cut special rest with
      | [] => [[g]]
      | part :: parts => (g :: part) :: parts

abbrev Draft := Text

def Draft.segment (d : Draft) : Text := (List.takeWhile (· ≠ '/') d).reverse

def Draft.slashed (d : Draft) : Draft := if d.head? = some '/' then d else '/' :: d

def Draft.shorten (file : Bool) (d : Draft) : Draft :=
  if file && isDrive d.segment then d else List.dropWhile (· ≠ '/') d

def Draft.isHeld (d : Draft) : Bool := !(d.drop 1).contains '/' || startsWithDrive (Draft.segment (d.drop 1))

def Draft.climb (file : Bool) (d : Draft) : Draft :=
  Draft.shorten file (if d.head? = some '/' && !d.isHeld then d.drop 1 else d)

-- A drive letter that is all of a file path so far is closed by whatever follows. A break
-- behind its colon parts it: the colon and a slash begin the segment.
def Draft.begin (file : Bool) (d : Draft) (part : List Glyph) : Draft × Text :=
  let whole := (d, escape inPath (chars part))
  if !file then whole
  else match d, part with
    | [':', letter, '/'], _ :: _ => if letter.isAlpha then ('/' :: d, whole.2) else whole
    | ['/'], letter :: mark :: next :: rest =>
      if letter.char.isAlpha && mark.char = ':' && next.broken then
        ([letter.char, '/'], ':' :: '/' :: escape inPath (chars (next :: rest)))
      else whole
    | _, _ => whole

structure Trail where
  draft : Draft
  drive : Bool
  deriving DecidableEq, Repr

def Trail.take (file closed : Bool) (t : Trail) (part : List Glyph) : Trail :=
  let (draft, segment) := t.draft.begin file part
  let ending := if closed then ['/'] else []
  if isDoubleDot segment then
    let above := draft.climb file
    { t with draft := if closed then above.slashed else above }
  else if isDot segment then { t with draft := draft.slashed }
  else if file && draft = ['/'] && isDriveLetter segment then ⟨ending ++ ':' :: segment.take 1 ++ draft, true⟩
  else { t with draft := ending ++ segment.reverse ++ draft }

def Trail.follow (file : Bool) (t : Trail) : List (List Glyph) → Trail
  | [] => t
  | [last] => t.take file false last
  | part :: rest => (t.take file true part).follow file rest

def partsOf (text : Text) : List Text :=
  match text with
  | [] => []
  | _ :: rest => split '/' rest

structure Reading where
  parts : List Text
  drive : Bool

def read (scheme : Text) (start : Draft) (text : List Glyph) : Reading :=
  let file := scheme = fileScheme
  let trail := (Trail.mk start false).follow file (cut (isSpecial scheme) text)
  let path := trail.draft.reverse
  ⟨partsOf (if file then '/' :: path.dropWhile (· = '/') else path), trail.drive⟩

def readBehind (scheme : Text) (base : List Text) (text : List Glyph) : List Text :=
  let draft := Draft.shorten (scheme = fileScheme) (Route.segments base).text.reverse
  (read scheme (if draft.isEmpty then ['/'] else draft) text).parts

end ImportHooks.Url
