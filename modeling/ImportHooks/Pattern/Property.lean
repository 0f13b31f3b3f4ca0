import ImportHooks.Text.Category
import ImportHooks.Text.Property
import ImportHooks.Text.Script
import ImportHooks.Text.Age
import ImportHooks.Pattern.Charset

namespace ImportHooks.Pattern
open Text

def rowRuns : Row → List Run
  | [only] => [(only, only)]
  | [first, last] => [(first, last)]
  | first :: last :: step :: _ =>
    (List.range ((last - first) / step + 1)).map fun i => (first + i * step, first + i * step)
  | [] => []

def Charset.ofRows (rows : String) : Charset := .ofRuns ((Table.ofText rows).toList.flatMap rowRuns)

def Charset.ofTables (tables : List NamedTable) : Charset :=
  .ofRuns (tables.flatMap fun t => (Table.ofText t.rows).toList.flatMap rowRuns)

def named? (tables : List NamedTable) (name : String) : Option Charset :=
  (tables.find? (·.names.contains name)).map (.ofRows ·.rows)

def hasName (names : List String) (t : NamedTable) : Bool := t.names.any names.contains

def within (names : List String) : Charset := .ofTables (categories.filter (hasName names))
def without (names : List String) : Charset := .ofTables (categories.filter (!hasName names ·))

def category? (name : String) : Option Charset :=
  match name with
  | "any" => some .all
  | "ascii" => some (.range '\x00' '\x7f')
  | "assigned" => some (without [])
  | "cn" | "unassigned" => some (without []).complement
  | "c" | "other" => some (without ["cc", "cf", "co"]).complement
  | _ =>
    match categoryGroups.find? (·.1.contains name) with
    | some (_, names) => some (within names)
    | none => named? categories name

def listed (names : List String) : Charset := .ofTables (properties.filter (hasName names))

def gathered (names properties : List String) (rows : String) : Charset :=
  .unions [within names, listed properties, .ofRows rows]

def letters : List String := ["lu", "ll", "lt", "lm", "lo"]

def identifiers (inside : Bool) : Charset :=
  let starts := gathered (letters ++ ["nl"]) ["oids"] ""
  let chars := if inside then starts.union (gathered ["mn", "mc", "nd", "pc"] ["oidc"] "") else starts
  chars.less (listed ["patsyn", "patws"])

def openParts : String := "37A 309B.309C FC5E.FC63 FDFA.FDFB FE70.FE7E.2"
def openStarts : String := openParts ++ " E33 EB3 FF9E.FF9F"

def derived? (name : String) : Option Charset :=
  match name with
  | "alphabetic" | "alpha" => some (gathered (letters ++ ["nl"]) ["oalpha"] "")
  | "lowercase" | "lower" => some (gathered ["ll"] ["olower"] "")
  | "uppercase" | "upper" => some (gathered ["lu"] ["oupper"] "")
  | "cased" => some (gathered ["lu", "ll", "lt"] ["olower", "oupper"] "")
  | "caseignorable" | "ci" =>
    some (gathered ["mn", "me", "cf", "lm", "sk"] []
      "27 2E 3A B7 387 55F 5F4 2018.2019 2024 2027 FE13 FE52 FE55 FF07 FF0E FF1A")
  | "changeswhencasemapped" | "cwcm" => some (listed ["cwl", "cwu", "cwt"])
  | "math" => some (gathered ["sm"] ["omath"] "")
  | "graphemeextend" | "grext" => some (gathered ["mn", "me"] ["ogrext"] "")
  | "graphemebase" | "grbase" =>
    some ((without ["cc", "cf", "co", "zl", "zp", "mn", "me"]).less (listed ["ogrext"]))
  | "idstart" | "ids" => some (identifiers false)
  | "idcontinue" | "idc" => some (identifiers true)
  | "xidstart" | "xids" => some ((identifiers false).less (.ofRows openStarts))
  | "xidcontinue" | "xidc" => some ((identifiers true).less (.ofRows openParts))
  | _ => none

def script? (name : String) : Option Charset := named? (scripts.map (·.toNamedTable)) name

-- The characters that a script uses. Those of no script of their own belong to
-- the scripts that share them, if there are any.
def scriptExtension? (name : String) : Option Charset := do
  let script ← scripts.find? (·.names.contains name)
  let own := Charset.ofRows script.rows
  if script.names.contains "common" || script.names.contains "inherited" then
    some (own.less (.unions (scripts.map (.ofRows ·.shared))))
  else some (own.union (.ofRows script.shared))

def age? (name : String) : Option Charset :=
  let older := ages.takeWhile fun t => !t.names.contains name
  match ages.drop older.length with
  | version :: _ => some (.unions ((version :: older).map (.ofRows ·.rows)))
  | [] => none

end ImportHooks.Pattern
