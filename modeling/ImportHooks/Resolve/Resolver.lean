import ImportHooks.Resolve.Rule
import ImportHooks.Resolve.Cache
import ImportHooks.Hooks.Exchange

namespace ImportHooks.Resolve
open Hooks

inductive Resolution where
  | completed (url : Url)
  | passthrough
  deriving DecidableEq, Repr

def Resolution.handedOn (specifier : Text) : Resolution → Text
  | .completed url => url.text
  | .passthrough => specifier

structure Resolver where
  rules : List Rule
  cache : Cache
  deriving DecidableEq, Repr

structure Answer (α : Type) where
  value : α
  resolver : Resolver
  asked : List Path

def isRelative (specifier : Text) : Bool := specifier.head? = some '.'

-- The first candidate that exists and has a URL. One that exists without a URL,
-- a relative path, is passed over.
def scan (fileExists : Path → Bool) (path : Text) : List Rule → Option Url × List Path
  | [] => (none, [])
  | rule :: rest =>
    let candidate : Path := ⟨rule.apply path⟩
    let found := if fileExists candidate then Url.ofFilePath? candidate else none
    match found with
    | some url => (some url, [candidate])
    | none =>
      let (found, asked) := scan fileExists path rest
      (found, candidate :: asked)

def scanUrl (fileExists : Path → Bool) (rules : List Rule) (url : Url) : Option Url × List Path :=
  match url.filePath? with
  | some path => scan fileExists path.text rules
  | none => (none, [])

namespace Resolver

def ofRules (rules : List Rule) : Resolver := ⟨rules, .empty⟩

def resolveUrl (r : Resolver) (fileExists : Path → Bool) (url : Url) : Answer (Option Url) :=
  match r.cache.get? url with
  | some found => ⟨some found, r, []⟩
  | none =>
    match scanUrl fileExists r.rules url with
    | (some found, asked) => ⟨some found, { r with cache := r.cache.set url found }, asked⟩
    | (none, asked) => ⟨none, r, asked⟩

def resolution (r : Resolver) (fileExists : Path → Bool) (specifier : Text) (context : ResolveContext) :
    Answer (Except HookError Resolution) :=
  if isRelative specifier then
    match context.parent with
    | none => ⟨.error (.missingParent specifier), r, []⟩
    | some parent =>
      match parent.join? specifier with
      | none => ⟨.ok .passthrough, r, []⟩
      | some url =>
        let answer := r.resolveUrl fileExists url
        ⟨.ok ((answer.value.map .completed).getD .passthrough), answer.resolver, answer.asked⟩
  else ⟨.ok .passthrough, r, []⟩

def resolve {α : Type} (r : Resolver) (fileExists : Path → Bool) (next : Text → ResolveContext → α)
    (specifier : Text) (context : ResolveContext) : Answer (Except HookError α) :=
  let answer := r.resolution fileExists specifier context
  ⟨answer.value.map fun resolution => next (resolution.handedOn specifier) context, answer.resolver, answer.asked⟩

end Resolver
end ImportHooks.Resolve
