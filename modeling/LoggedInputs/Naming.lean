/-!
# Naming

How log keys, accessor names, wrapper names and camel-case field names are formed. Case changes
touch ASCII letters only: `ünit` keeps its first letter.
-/

namespace LoggedInputs.Naming

/-- The name with its first character made ASCII uppercase. -/
def capitalize (s : String) : String :=
  match s.toList with
  | [] => ""
  | c :: cs => String.ofList (c.toUpper :: cs)

/-- The log key of a field: its name, capitalized. -/
def logKey (name : String) : String := capitalize name

/-- The getter of a field in accessor style. -/
def getter (name : String) : String := "get" ++ capitalize name

/-- The setter of a field in accessor style. -/
def setter (name : String) : String := "set" ++ capitalize name

/-- The suffix of every generated wrapper's name. -/
def wrapperSuffix : String := "AutoLogged"

/-- The name of the generated wrapper of a class. -/
def autoLoggedName (base : String) : String := base ++ wrapperSuffix

/-- Camel case over a character list: an underscore is dropped and makes the next character
uppercase, unless nothing has been written yet. -/
def camelChars : List Char → Bool → Bool → List Char
  | [], _, _ => []
  | c :: cs, started, up =>
    if c = '_' then camelChars cs started started
    else (if up then c.toUpper else c) :: camelChars cs true false

/-- A snake-case name in camel case: `angle_rad` is `angleRad`, `__private` is `private`. -/
def camelCase (s : String) : String :=
  String.ofList (camelChars s.toList false false)

end LoggedInputs.Naming
