import ImportHooks.Text.Blank

namespace ImportHooks.Tsconfig

inductive Target where
  | es3 | es5 | es2015 | es2016 | es2017 | es2018 | es2019 | es2020 | es2021 | es2022 | es2023 | es2024 | esnext
  deriving DecidableEq, Repr

namespace Target

def all : List Target :=
  [.es3, .es5, .es2015, .es2016, .es2017, .es2018, .es2019, .es2020, .es2021, .es2022, .es2023, .es2024, .esnext]

def name : Target → String
  | .es3 => "es3" | .es5 => "es5" | .es2015 => "es2015" | .es2016 => "es2016" | .es2017 => "es2017"
  | .es2018 => "es2018" | .es2019 => "es2019" | .es2020 => "es2020" | .es2021 => "es2021"
  | .es2022 => "es2022" | .es2023 => "es2023" | .es2024 => "es2024" | .esnext => "esnext"

def spellings : Target → List String
  | .es2015 => ["es6", "es2015"]
  | .esnext => ["esnext", "latest"]
  | target => [target.name]

-- Blanks around a level and the case of ASCII letters do not matter.
def read? (text : Text) : Option Target :=
  let spelled := (Text.trim text).map Char.toLower
  all.find? fun target => target.spellings.any (·.toList = spelled)

end Target
end ImportHooks.Tsconfig
