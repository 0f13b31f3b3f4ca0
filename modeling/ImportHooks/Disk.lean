import ImportHooks.Path

namespace ImportHooks
open Text

inductive Entry where
  | file (bytes : List UInt8)
  | directory
  | link (target : Path)
  deriving DecidableEq, Repr

-- A place is the list of names on the way from it back to the root.
abbrev Place := List Text

structure Disk where
  entries : List (Place × Entry)
  working : Place

inductive Failure where
  | missing | notDirectory | nameTooLong | pathTooLong | tooManyLinks | malformedName | isDirectory | notText
  deriving DecidableEq, Repr

namespace Disk

def nameLimit : Nat := 255
def pathLimit : Nat := 4095
def linkLimit : Nat := 40

def entry? (d : Disk) (place : Place) : Option Entry :=
  if place = [] then some .directory else (d.entries.find? (·.1 = place)).map (·.2)

-- Follows segments from a directory. `..` leads to the parent of the real place,
-- also behind a link. A link hands the rest of the walk to `follow`.
def walkWith (d : Disk) (follow : Place → List Text → Except Failure Place) : Place → List Text → Except Failure Place
  | place, [] => .ok place
  | place, segment :: rest =>
    if d.entry? place ≠ some .directory then .error .notDirectory
    else if Path.isIdle segment then walkWith d follow place rest
    else if segment = ['.', '.'] then walkWith d follow place.tail rest
    else if nameLimit < utf8Length segment then .error .nameTooLong
    else match d.entry? (segment :: place) with
      | none => .error .missing
      | some (.link target) => follow (if target.isAbsolute then [] else place) (split '/' target.text ++ rest)
      | some _ => walkWith d follow (segment :: place) rest

def walk (d : Disk) : Nat → Place → List Text → Except Failure Place
  | 0 => d.walkWith fun _ _ => .error .tooManyLinks
  | links + 1 => d.walkWith (d.walk links)

def origin (d : Disk) (p : Path) : Place := if p.isAbsolute then [] else d.working

def locate (d : Disk) (p : Path) : Except Failure Place :=
  if p.text.contains '\x00' then .error .malformedName
  else if p.text = [] then .error .missing
  else if pathLimit < utf8Length p.text then .error .pathTooLong
  else d.walk linkLimit (d.origin p) (split '/' p.text)

def find? (d : Disk) (p : Path) : Option Entry :=
  match d.locate p with
  | .ok place => d.entry? place
  | .error _ => none

def exists? (d : Disk) (p : Path) : Bool := (d.find? p).isSome

def isFile (d : Disk) (p : Path) : Bool :=
  match d.find? p with
  | some (.file _) => true
  | _ => false

def read (d : Disk) (p : Path) : Except Failure Text :=
  match d.locate p with
  | .error failure => .error failure
  | .ok place =>
    match d.entry? place with
    | some (.file bytes) => (ofUtf8? bytes).elim (.error .notText) .ok
    | some .directory => .error .isDirectory
    | _ => .error .missing

def put (d : Disk) (place : Place) (e : Entry) : Disk :=
  { d with entries := (place, e) :: d.entries.filter (·.1 ≠ place) }

def remove (d : Disk) (place : Place) : Disk := { d with entries := d.entries.filter (!place.isSuffixOf ·.1) }

def makeDirectories (d : Disk) : Place → List Text → Disk × Place
  | place, [] => (d, place)
  | place, segment :: rest =>
    if Path.isIdle segment then makeDirectories d place rest
    else if segment = ['.', '.'] then makeDirectories d place.tail rest
    else match d.entry? (segment :: place) with
      | none => makeDirectories (d.put (segment :: place) .directory) (segment :: place) rest
      | some (.link _) =>
        match d.walk linkLimit place [segment] with
        | .ok target => makeDirectories d target rest
        | .error _ => makeDirectories d (segment :: place) rest
      | some _ => makeDirectories d (segment :: place) rest

def bare (working : Path) : Disk :=
  let (d, place) := makeDirectories ⟨[], []⟩ [] (split '/' working.text)
  { d with working := place }

def holder (d : Disk) (p : Path) : Disk × Place :=
  let segments := Path.dropIdleEnd (split '/' p.text)
  let (d, place) := d.makeDirectories (d.origin p) segments.dropLast
  (d, segments.getLast?.toList ++ place)

def write (d : Disk) (p : Path) (e : Entry) : Disk :=
  if e = .directory then (d.makeDirectories (d.origin p) (split '/' p.text)).1
  else
    let (d, place) := d.holder p
    d.put place e

def named? (d : Disk) (p : Path) : Option Place :=
  match (split '/' p.text).reverse with
  | [] => none
  | name :: earlier =>
    if Path.isIdle name || name = ['.', '.'] || p.text.contains '\x00' || pathLimit < utf8Length p.text then none
    else match d.walk linkLimit (d.origin p) earlier.reverse with
      | .ok place =>
        if d.entry? place = some .directory && (d.entry? (name :: place)).isSome then some (name :: place) else none
      | .error _ => none

def clear (d : Disk) (place : Place) : Disk :=
  { d with entries := d.entries.filter fun e => e.1 = place || !place.isSuffixOf e.1 }

def dropSlashes (p : Path) : Path := ⟨(p.text.reverse.dropWhile (· = '/')).reverse⟩

-- Removes a file, a link itself, or a directory with all it holds. Slashes at the
-- end ask for a directory; a directory that is reached by dots or through a link
-- only loses what it holds.
def delete (d : Disk) (p : Path) : Disk :=
  match d.named? p with
  | some place => d.remove place
  | none =>
    match d.locate p with
    | .error _ => d
    | .ok place =>
      if d.entry? place ≠ some .directory then d
      else if d.named? (dropSlashes p) = some place then d.remove place
      else d.clear place

end Disk
end ImportHooks
