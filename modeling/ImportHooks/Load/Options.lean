import ImportHooks.Tsconfig.Target

namespace ImportHooks.Load
open Tsconfig

structure Options where
  target : Option Target
  deriving DecidableEq, Repr

def Options.written (options : Options) : Text :=
  let level := match options.target with
    | none => []
    | some target => ",\"target\":\"".toList ++ target.name.toList ++ ['"']
  "\x7b\"format\":\"esm\",\"loader\":\"ts\"".toList ++ level ++ ['\x7d']

end ImportHooks.Load
