/-!
# The environment

The environment gives values to variables.
-/

set_option autoImplicit false

namespace CounterCatalog

/-- The variables that have values, with their values; of two values for one variable the first counts. -/
structure Environment where
  /-- The variables and their values. -/
  entries : List (String × String)

namespace Environment

/-- The value of a variable. -/
def value? (environment : Environment) (name : String) : Option String :=
  (environment.entries.find? fun item => item.1 = name).map Prod.snd

/-- The variables with the values that count. -/
def settings (environment : Environment) : List (String × String) :=
  environment.entries.foldl (fun found item =>
    if found.any fun other => other.1 = item.1 then found else found ++ [item]) []

end Environment

end CounterCatalog
