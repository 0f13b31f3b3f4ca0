import ImportHooks.Text.Utf8

namespace ImportHooks.Load

def typedEndings : List Text := [".ts".toList, ".tsx".toList, ".mts".toList, ".cts".toList]
def stylesheetEnding : Text := ".css".toList
def jsonEnding : Text := ".json".toList

inductive Kind where
  | typescript | stylesheet | json | other
  deriving DecidableEq, Repr

namespace Kind

def isTyped (url : Text) : Bool := typedEndings.any (·.isSuffixOf url)

-- A query or a fragment hides the ending.
def ofUrl (url : Text) : Kind :=
  if isTyped url then .typescript
  else if stylesheetEnding.isSuffixOf url then .stylesheet
  else if jsonEnding.isSuffixOf url then .json
  else .other

def name : Kind → String
  | .typescript => "typescript" | .stylesheet => "stylesheet" | .json => "json" | .other => "other"

end Kind
end ImportHooks.Load
