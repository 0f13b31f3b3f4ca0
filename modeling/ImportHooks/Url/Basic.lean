import ImportHooks.Url.Host

namespace ImportHooks
namespace Url

structure Authority where
  credentials : Text
  host : Option Host
  portNumber : Option Nat
  deriving DecidableEq, Repr

inductive Route where
  | plain (text : Text)
  | segments (parts : List Text)
  deriving DecidableEq, Repr

end Url

structure Url where
  scheme : Text
  authority : Option Url.Authority
  route : Url.Route
  query : Option Text
  fragment : Option Text
  deriving DecidableEq, Repr

namespace Url

def fileScheme : Text := "file".toList

def specialPorts : List (String × Nat) := [("http", 80), ("https", 443), ("ws", 80), ("wss", 443), ("ftp", 21)]

def defaultPort? (scheme : Text) : Option Nat := (specialPorts.find? (·.1.toList = scheme)).map (·.2)
def isSpecial (scheme : Text) : Bool := scheme = fileScheme || (defaultPort? scheme).isSome

def Authority.text (a : Authority) : Text :=
  let user := if a.credentials.isEmpty then [] else a.credentials ++ ['@']
  let service := (a.portNumber.map fun p => ':' :: Host.decimal p).getD []
  user ++ (a.host.map Host.text).getD [] ++ service

def Route.text : Route → Text
  | .plain text => text
  | .segments parts => parts.flatMap ('/' :: ·)

-- A dot segment keeps a path that begins with an empty one from reading as a host.
def shield (u : Url) : Text :=
  match u.authority, u.route with
  | none, .segments ([] :: _ :: _) => ['/', '.']
  | _, _ => []

def text (u : Url) : Text :=
  u.scheme ++ ':' :: (u.authority.map fun a => '/' :: '/' :: a.text).getD [] ++ u.shield ++ u.route.text ++
    (u.query.map ('?' :: ·)).getD [] ++ (u.fragment.map ('#' :: ·)).getD []

def host? (u : Url) : Option Host := u.authority.bind (·.host)

end Url
end ImportHooks
