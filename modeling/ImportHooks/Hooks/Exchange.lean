import ImportHooks.Url.Basic
import ImportHooks.Load.Format
import ImportHooks.Hooks.Error

namespace ImportHooks.Hooks
open Load

abbrev Attributes := List (Text × Text)

structure ResolveContext where
  -- absent for an entry point
  parent : Option Url
  conditions : List Text
  attributes : Attributes
  deriving DecidableEq, Repr

structure ResolveOutput where
  url : Text
  format : Option Format
  shortCircuit : Bool
  deriving DecidableEq, Repr

structure LoadContext where
  format : Option Format
  conditions : List Text
  attributes : Attributes
  deriving DecidableEq, Repr

structure LoadOutput where
  format : Format
  -- absent when the host reads the source itself
  source : Option Text
  shortCircuit : Bool
  deriving DecidableEq, Repr

def LoadContext.ofFormat (format : Format) : LoadContext := ⟨some format, [], []⟩

def LoadOutput.ofSource (source : Text) : LoadOutput := ⟨.module, some source, false⟩

structure Host where
  resolve : Text → ResolveContext → Except HookError ResolveOutput
  load : Text → LoadContext → Except HookError LoadOutput

end ImportHooks.Hooks
