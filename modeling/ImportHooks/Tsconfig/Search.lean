import ImportHooks.Disk
import ImportHooks.Tsconfig.Config
import ImportHooks.Tsconfig.Target

namespace ImportHooks.Tsconfig
open Text

structure Files where
  read : Path → Except Failure Text
  isFile : Path → Bool

-- No path longer than `limit` can be read, so a search cannot go on under ever
-- longer spellings of its files.
structure Store extends Files where
  limit : Nat
  limited : ∀ p text, read p = .ok text → p.text.length ≤ limit

inductive Notice where
  | missing (path : Path)
  | unreadable (path : Path)
  | malformed (path : Path)
  | circular (path : Path)
  | unlocated (entry : Text) (path : Path)
  | unsupported (level : Text)
  deriving DecidableEq, Repr

def Notice.message : Notice → Text
  | .missing path => "DEBUG No project config at ".toList ++ path.text
  | .unreadable path => "WARN Cannot read ".toList ++ path.text
  | .malformed path => "WARN Ignoring malformed ".toList ++ path.text
  | .circular path => "DEBUG Skipping circular extends of ".toList ++ path.text
  | .unlocated entry path => "DEBUG Cannot find extends '".toList ++ entry ++ "' of ".toList ++ path.text
  | .unsupported level => "WARN Ignoring unsupported tsconfig target '".toList ++ level ++ ['\'']

inductive Event where
  | opened (path : Path)
  | probed (path : Path)
  | told (notice : Notice)
  deriving DecidableEq, Repr

def Event.notice? : Event → Option Notice
  | .told notice => some notice
  | _ => none

def notices (events : List Event) : List Notice := events.filterMap Event.notice?

namespace Config

def load (files : Files) (path : Path) : Option Config × List Event :=
  match files.read path with
  | .error .missing => (none, [.opened path, .told (.missing path)])
  | .error _ => (none, [.opened path, .told (.unreadable path)])
  | .ok text =>
    match parse? text with
    | some config => (some config, [.opened path])
    | none => (none, [.opened path, .told (.malformed path)])

end Config

def jsonEnding : Text := ".json".toList
def packages : Path := ⟨"node_modules".toList⟩
def packageConfig : Path := ⟨"tsconfig.json".toList⟩

def isLocal (entry : Text) : Bool :=
  ['.', '/'].isPrefixOf entry || ['.', '.', '/'].isPrefixOf entry || (Path.mk entry).isAbsolute

def spellings (path : Path) (entry : Text) : List Path :=
  path :: if jsonEnding.isSuffixOf entry then [] else [path.append jsonEnding]

-- Where an entry of a config in `directory` may be: beside it, or as a package of
-- the directory or one of its ancestors, nearest first.
def candidates (directory : Path) (entry : Text) : List Path :=
  if isLocal entry then spellings (directory.join ⟨entry⟩) entry
  else directory.ancestors.flatMap fun ancestor =>
    let package := (ancestor.join packages).join ⟨entry⟩
    spellings package entry ++ [package.join packageConfig]

def firstFile (files : Files) : List Path → Option Path × List Event
  | [] => (none, [])
  | path :: rest =>
    if files.isFile path then (some path, [.probed path])
    else
      let (found, events) := firstFile files rest
      (found, .probed path :: events)

def directoryOf (path : Path) : Path := path.parent?.getD ⟨['.']⟩

structure Visit where
  count : Nat
  anchor : Path.Anchor
  names : List Text
  deriving DecidableEq, Repr

def Visit.of (path : Path) : Visit := ⟨path.names.length, path.components.1, path.components.2⟩

structure Trail where
  visited : List Visit
  events : List Event

namespace Trail

def start : Trail := ⟨[], []⟩
def add (t : Trail) (events : List Event) : Trail := { t with events := t.events ++ events }
def visit (t : Trail) (path : Path) : Trail := { t with visited := .of path :: t.visited }
def hasVisited (t : Trail) (path : Path) : Bool := t.visited.contains (.of path)

end Trail

abbrev Outcome := Option (Option Text × Trail)

def firstBase (files : Files) (visit : Path → Trail → Outcome) (path : Path) : List Text → Trail → Outcome
  | [], trail => some (none, trail)
  | entry :: rest, trail =>
    let (located, events) := firstFile files (candidates (directoryOf path) entry)
    match located with
    | none => firstBase files visit path rest (trail.add (events ++ [.told (.unlocated entry path)]))
    | some base =>
      match visit base (trail.add events) with
      | none => none
      | some (some level, trail) => some (some level, trail)
      | some (none, trail) => firstBase files visit path rest trail

-- One visited set serves the whole search: a config is read at most once under
-- paths with the same components.
def seek (files : Files) : Nat → Path → Trail → Outcome
  | 0, _, _ => none
  | depth + 1, path, trail =>
    if trail.hasVisited path then some (none, trail.add [.told (.circular path)])
    else
      let (config, events) := Config.load files path
      let trail := (trail.visit path).add events
      match config with
      | none => some (none, trail)
      | some config =>
        match config.target with
        | some level => some (some level, trail)
        | none => firstBase files (seek files depth) path config.entries.reverse trail

def Store.depth (s : Store) : Nat := Nat.pow 0x110001 s.limit + 1

def findLevel (s : Store) (path : Path) : Option Text × Trail :=
  (seek s.toFiles s.depth path .start).getD (none, .start)

def readTarget (s : Store) (path : Path) : Option Target × List Event :=
  match findLevel s path with
  | (none, trail) => (none, trail.events)
  | (some level, trail) =>
    match Target.read? level with
    | some target => (some target, trail.events)
    | none => (none, trail.events ++ [.told (.unsupported level)])

theorem length_le_utf8Length (text : Text) : text.length ≤ utf8Length text := by
  induction text with
  | nil => simp
  | cons c rest ih => have := Char.utf8Size_pos c; simp; omega

def Files.ofDisk (d : Disk) : Files := ⟨d.read, d.isFile⟩

def Store.ofDisk (d : Disk) : Store where
  toFiles := .ofDisk d
  limit := Disk.pathLimit
  limited := by
    intro p text h
    have := length_le_utf8Length p.text
    simp only [Files.ofDisk, Disk.read, Disk.locate] at h
    split at h
    · cases h
    · rename_i located
      split at located
      · cases located
      · split at located
        · cases located
        · split at located
          · cases located
          · omega

end ImportHooks.Tsconfig
