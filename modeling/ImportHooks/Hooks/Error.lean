import ImportHooks.Text.Utf8

namespace ImportHooks.Hooks

inductive HookError where
  | missingParent (specifier : Text)
  | transform (url reason : Text)
  | moduleNotFound (name : Text)
  | fileSystem (reason : Text)
  | other (message : Text)
  deriving DecidableEq, Repr

namespace HookError

def message : HookError → Text
  | .missingParent specifier =>
    "Cannot resolve relative specifier '".toList ++ specifier ++ "' without a parent module URL".toList
  | .transform url reason => "Failed to transform '".toList ++ url ++ "': ".toList ++ reason
  | .moduleNotFound name => "Cannot find module '".toList ++ name ++ ['\'']
  | .fileSystem reason => "File system error: ".toList ++ reason
  | .other message => message

def source? : HookError → Option Text
  | .transform _ reason | .fileSystem reason => some reason
  | _ => none

end HookError
end ImportHooks.Hooks
