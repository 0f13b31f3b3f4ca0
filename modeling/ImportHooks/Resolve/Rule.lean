import ImportHooks.Pattern.Reader
import ImportHooks.Pattern.Search
import ImportHooks.Pattern.Footprint

namespace ImportHooks.Resolve

structure Rule where
  ending : Pattern.Expr
  suffix : Text
  deriving DecidableEq, Repr

namespace Rule

def ofPattern? (pattern suffix : Text) : Option Rule := do
  let ending ← Pattern.read? pattern
  if ending.fits then some ⟨ending, suffix⟩ else none

-- The first match gives way to the suffix, taken literally. A path without a match stays.
def apply (rule : Rule) (path : Text) : Text := rule.ending.replaceFirst rule.suffix path

end Rule

def filePattern : Text := "(?:\\.[tj]s)?$".toList
def indexPattern : Text := "(?:[\\\\/]?(?:index(?:\\.[tj]s)?))?$".toList

def fileEnding : Pattern.Expr := (Pattern.read? filePattern).get (by decide +kernel)
def indexEnding : Pattern.Expr := (Pattern.read? indexPattern).get (by decide +kernel)

def defaultRules : List Rule :=
  [⟨fileEnding, ".js".toList⟩, ⟨fileEnding, ".ts".toList⟩,
    ⟨indexEnding, "/index.js".toList⟩, ⟨indexEnding, "/index.ts".toList⟩]

end ImportHooks.Resolve
