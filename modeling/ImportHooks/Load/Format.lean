import ImportHooks.Json.Tree

namespace ImportHooks.Load
open Json

inductive Format where
  | builtin | commonjs | json | module | wasm
  deriving DecidableEq, Repr

namespace Format

def all : List Format := [.builtin, .commonjs, .json, .module, .wasm]

def name : Format → String
  | .builtin => "builtin" | .commonjs => "commonjs" | .json => "json" | .module => "module" | .wasm => "wasm"

def ofName? (name : Text) : Option Format := all.find? (·.name.toList = name)

-- A tag is written as its name, or as an object whose one key is the name.
def ofTree? : Tree → Option Format
  | .text raw => (Quoted.decode? raw).bind ofName?
  | .object [(raw, .null)] => (Quoted.decode? raw).bind ofName?
  | _ => none

def parse? (text : Text) : Option Format := (Tree.read? text).bind ofTree?

def written (format : Format) : Text := '"' :: format.name.toList ++ ['"']

end Format
end ImportHooks.Load
