import ImportHooks.Resolve.Resolver
import ImportHooks.Load.Dispatch

namespace ImportHooks.Hooks
open Resolve Load Tsconfig

structure Layer where
  resolver : Resolver
  fileExists : Path → Bool
  dispatcher : Dispatcher

-- The outermost layer comes first. `asked` holds the paths for each layer.
structure ResolveRun where
  result : Except HookError ResolveOutput
  layers : List Layer
  asked : List (List Path)
  calls : List (Text × ResolveContext)

def resolveThrough (host : Host) : List Layer → Text → ResolveContext → ResolveRun
  | [], specifier, context => ⟨host.resolve specifier context, [], [], [(specifier, context)]⟩
  | layer :: inner, specifier, context =>
    let answer := layer.resolver.resolve layer.fileExists (resolveThrough host inner) specifier context
    let layer := { layer with resolver := answer.resolver }
    match answer.value with
    | .error e => ⟨.error e, layer :: inner, answer.asked :: inner.map fun _ => [], []⟩
    | .ok run => ⟨run.result, layer :: run.layers, answer.asked :: run.asked, run.calls⟩

def loadThrough (host : Host) (store : Store) : List Layer → Loader
  | [], url, context => ⟨host.load url context, [(url, context)], []⟩
  | layer :: inner, url, context => layer.dispatcher.load store (loadThrough host store inner) url context

end ImportHooks.Hooks
