import ImportHooks.Tsconfig.Search
import ImportHooks.Load.Kind
import ImportHooks.Load.Options
import ImportHooks.Hooks.Exchange

namespace ImportHooks.Load
open Hooks Tsconfig

abbrev Engine := Text → Options → Except Text Text

def emptyStylesheet : Text := "export default '';".toList

-- A result, the calls that reached the host, and what engines were given, in order.
structure Run where
  result : Except HookError LoadOutput
  calls : List (Text × LoadContext)
  transforms : List (Text × Options)

abbrev Loader := Text → LoadContext → Run

structure Dispatcher where
  engine : Engine
  project : Path

namespace Dispatcher

def loadTyped (d : Dispatcher) (store : Store) (next : Loader) (url : Text) : Run :=
  let inner := next url (.ofFormat .module)
  match inner.result with
  | .error _ => inner
  | .ok raw =>
    let source := raw.source.getD []
    let options : Options := ⟨(readTarget store d.project).1⟩
    let result := match d.engine source options with
      | .ok code => .ok (LoadOutput.ofSource code)
      | .error reason => .error (.transform url reason)
    ⟨result, inner.calls, inner.transforms ++ [(source, options)]⟩

def jsonAttributes : Attributes := [("type".toList, "json".toList)]

def load (d : Dispatcher) (store : Store) (next : Loader) (url : Text) (context : LoadContext) : Run :=
  match Kind.ofUrl url with
  | .typescript => d.loadTyped store next url
  | .stylesheet => ⟨.ok { LoadOutput.ofSource emptyStylesheet with shortCircuit := true }, [], []⟩
  | .json => next url { context with attributes := jsonAttributes }
  | .other => next url context

end Dispatcher
end ImportHooks.Load
