import ImportHooks.Path
import ImportHooks.Json.Tree

namespace ImportHooks
open Json

def version : Text := "0.1.0".toList

structure Settings where
  projectRoot : Path
  tsconfig : Text
  deriving DecidableEq, Repr

namespace Settings

def projectRootVariable : Text := "SPACEY_HOOKS_PROJECT_ROOT".toList
def tsconfigVariable : Text := "SPACEY_HOOKS_TSCONFIG".toList
def defaultTsconfig : Text := "tsconfig.json".toList

def initial (workingDirectory : Path) : Settings := ⟨workingDirectory, defaultTsconfig⟩

-- Values are set by the names of environment variables; empty ones change nothing.
def set (s : Settings) (name value : Text) : Settings :=
  if value.isEmpty then s
  else if name = projectRootVariable then { s with projectRoot := ⟨value⟩ }
  else if name = tsconfigVariable then { s with tsconfig := value }
  else s

def load (workingDirectory : Path) (environment : List (Text × Text)) : Settings :=
  environment.foldl (fun s (name, value) => s.set name value) (initial workingDirectory)

def tsconfigPath (s : Settings) : Path := s.projectRoot.join ⟨s.tsconfig⟩

def same (s t : Settings) : Bool := s.projectRoot.same t.projectRoot && s.tsconfig = t.tsconfig

def projectRootKey : Text := "project_root".toList
def tsconfigKey : Text := "tsconfig".toList

def field? (value : Option Tree) (default : Text) : Option Text :=
  match value with
  | none => some default
  | some tree => tree.text?

def ofFields? (base : Settings) (root tsconfig : Option Tree) : Option Settings := do
  let root ← field? root base.projectRoot.text
  let tsconfig ← field? tsconfig base.tsconfig
  some ⟨⟨root⟩, tsconfig⟩

def ofTree? (base : Settings) : Tree → Option Settings
  | .object members => do
    let decoded ← Tree.decodeKeys? members
    let root ← Tree.single? projectRootKey decoded
    let tsconfig ← Tree.single? tsconfigKey decoded
    ofFields? base root tsconfig
  | .array [] => some base
  | .array [root] => ofFields? base (some root) none
  | .array [root, tsconfig] => ofFields? base (some root) (some tsconfig)
  | _ => none

def parse? (base : Settings) (text : Text) : Option Settings := (Tree.read? text).bind (ofTree? base)

end Settings
end ImportHooks
