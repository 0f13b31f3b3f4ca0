import ImportHooks.Pattern.Property
import ImportHooks.Pattern.Segment

namespace ImportHooks.Pattern
open Text

def plainName (name : Text) : String :=
  let isNamed := (name.take 2).map Char.toLower = ['i', 's']
  let body := if isNamed then name.drop 2 else name
  let plain := (body.filter fun c => c ≠ ' ' && c ≠ '_' && c ≠ '-' && c.toNat < 128).map Char.toLower
  if isNamed && plain = ['c'] then "isc" else String.ofList plain

-- A lone name is a property's, a category's or a script's. Three names are short for
-- a category and for a property that is no set, and stand for the category.
def propertyNamed? (name : Text) : Option Charset :=
  let plain := plainName name
  if ["cf", "sc", "lc"].contains plain then category? plain
  else (derived? plain) <|> (named? properties plain) <|> (category? plain) <|> (script? plain)

def propertyValued? (name value : Text) : Option Charset :=
  let value := plainName value
  match plainName name with
  | "gc" | "generalcategory" => category? value
  | "sc" | "script" => script? value
  | "scx" | "scriptextensions" => scriptExtension? value
  | "age" => age? value
  | "gcb" | "graphemeclusterbreak" => graphemePart? value
  | "wb" | "wordbreak" => wordPart? value
  | "sb" | "sentencebreak" => sentencePart? value
  | _ => none

def cutAt? (mark : Text) : Text → Option (Text × Text)
  | [] => none
  | c :: rest =>
    if mark.isPrefixOf (c :: rest) then some ([], (c :: rest).drop mark.length)
    else (cutAt? mark rest).map fun (before, after) => (c :: before, after)

def property? (text : Text) : Option Charset :=
  match (cutAt? ['!', '='] text) <|> (cutAt? [':'] text) <|> (cutAt? ['='] text) with
  | some (name, value) => propertyValued? name value
  | none => propertyNamed? text

end ImportHooks.Pattern
