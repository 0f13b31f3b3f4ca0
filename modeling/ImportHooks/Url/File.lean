import ImportHooks.Path
import ImportHooks.Url.Reader

namespace ImportHooks.Url
open Text

def endsInDrive (bytes : List UInt8) : Bool :=
  match bytes.reverse with
  | mark :: letter :: _ :: _ => (Char.ofNat letter.toNat).isAlpha && (mark = 0x3A || mark = 0x7C)
  | _ => false

def pathBytes (parts : List Text) : List UInt8 :=
  let bytes := parts.flatMap fun part => 0x2F :: unescape part
  if endsInDrive bytes then bytes ++ [0x2F] else bytes

-- Only the host decides whether a URL stands for a path: none, or `localhost`.
def filePath? (u : Url) : Option Path :=
  match u.route with
  | .segments parts =>
    if parts.isEmpty || !(u.host?.all (· = .domain localHost)) then none
    else (ofUtf8? (pathBytes parts)).map Path.mk
  | .plain _ => none

def ofFilePath? (p : Path) : Option Url :=
  if p.isAbsolute then
    let parts := p.names.map (escape inFileName)
    some ⟨fileScheme, some (fileAuthority none), .segments (if parts.isEmpty then [[]] else parts), none, none⟩
  else none

end ImportHooks.Url
