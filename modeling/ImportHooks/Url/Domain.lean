import ImportHooks.Text.Mark
import ImportHooks.Text.Normal
import ImportHooks.Text.Split
import ImportHooks.Url.Escape
import ImportHooks.Url.Punycode
import ImportHooks.Url.Domain.Joining
import ImportHooks.Url.Domain.Mapping

namespace ImportHooks.Url
open Text

-- Characters that no host may hold; a domain may hold no control and no percent sign either.
def isForbiddenInHost (c : Char) : Bool := "\x00\t\n\r #/:<>?@[\\]^|".toList.contains c
def isForbiddenInDomain (c : Char) : Bool := isForbiddenInHost c || c.toNat < 0x20 || c = '%' || c = '\x7f'

namespace Domain

def prepared? (text : Text) : Option Text := do
  let forms ← text.mapM form?
  let plain := composed forms.flatten
  if plain.any isForbiddenInDomain then none else some plain

structure Label where
  plain : Text
  ascii : Text

def isAscii (text : Text) : Bool := text.all fun c => c.toNat < 128

def asciiMark : Text := "xn--".toList

def plainLimit : Nat := 1000
def asciiLimit : Nat := 2000

def isSound (label : Text) : Bool :=
  !label.head?.any isMark && joinsWell [] label && (isAscii label || label.length ≤ plainLimit)

def ofAscii? (label : Text) : Option Label := do
  let digits := label.drop asciiMark.length
  if !isAscii label || label.getLast? = some '-' || asciiLimit < digits.length then none
  else
    let plain ← Punycode.decode? digits
    if prepared? plain = some plain && !plain.contains '.' && isSound plain then some ⟨plain, label⟩ else none

def label? (text : Text) : Option Label :=
  if asciiMark.isPrefixOf text then ofAscii? text
  else if isSound text then some ⟨text, if isAscii text then text else asciiMark ++ Punycode.encode text⟩
  else none

def name? (text : Text) : Option Text := do
  let labels ← (split '.' (← prepared? text)).mapM label?
  let isMixed := labels.any (·.plain.any (isRightward ∘ direction))
  let name := join '.' (labels.map (·.ascii))
  if name.isEmpty || (isMixed && !labels.all (keepsDirection ·.plain)) then none else some name

end Domain
end ImportHooks.Url
