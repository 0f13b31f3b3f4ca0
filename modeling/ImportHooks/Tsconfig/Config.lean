import ImportHooks.Jsonc
import ImportHooks.Json.Tree

namespace ImportHooks.Tsconfig
open Json

inductive Bases where
  | one (entry : Text)
  | many (entries : List Text)
  deriving DecidableEq, Repr

structure Config where
  bases : Option Bases
  target : Option Text
  deriving DecidableEq, Repr

namespace Config

def empty : Config := ⟨none, none⟩

def fieldDepth : Nat := 126

def extendsKey : Text := "extends".toList
def optionsKey : Text := "compilerOptions".toList
def targetKey : Text := "target".toList

def basesOf : Tree → Option Bases
  | .text raw => (Quoted.decode? raw).map .one
  | .array items => (items.mapM Tree.text?).map .many
  | _ => none

-- Options may be an object, where the last `target` counts, or the list of its
-- one field. Any other shape, a longer list included, is read as no options.
def targetOf : Tree → Option Text
  | .object members => do
    let decoded ← Tree.decodeKeys? members
    let member ← (decoded.filter (·.1 = targetKey)).getLast?
    member.2.text?
  | .array [target] => target.text?
  | _ => none

def ofFields? (bases options : Option Tree) : Option Config :=
  if (bases.all (Tree.holdable fieldDepth)) && (options.all (Tree.holdable fieldDepth)) then
    some ⟨bases.bind basesOf, options.bind targetOf⟩
  else none

def ofTree? : Tree → Option Config
  | .object members => do
    let decoded ← Tree.decodeKeys? members
    let bases ← Tree.single? extendsKey decoded
    let options ← Tree.single? optionsKey decoded
    ofFields? bases options
  | .array [] => ofFields? none none
  | .array [bases] => ofFields? (some bases) none
  | .array [bases, options] => ofFields? (some bases) (some options)
  | _ => none

def parse? (text : Text) : Option Config := (Tree.read? (Jsonc.strip text)).bind ofTree?

def entries (config : Config) : List Text :=
  match config.bases with
  | none => []
  | some (.one entry) => [entry]
  | some (.many entries) => entries

end Config
end ImportHooks.Tsconfig
