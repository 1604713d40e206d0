import CardQuery.Text.CharClass

/-!
The debugging spelling of values: text between double quotes with everything invisible escaped,
lists between brackets, and optional values under `Some` and `None`.
-/

set_option autoImplicit false
set_option relaxedAutoImplicit false

namespace CardQuery.Text.Literal

/-- A character inside the quotes. What cannot be seen is given by its code point in
hexadecimal. -/
def spell (character : Char) : List Char :=
  if character = '"' then ['\\', '"']
  else if character = '\\' then ['\\', '\\']
  else if character = '\n' then ['\\', 'n']
  else if character = '\r' then ['\\', 'r']
  else if character = '\t' then ['\\', 't']
  else if character.toNat = 0 then ['\\', '0']
  else if isPrintable character then [character]
  else ['\\', 'u', '\x7b'] ++ Nat.toDigits 16 character.toNat ++ ['\x7d']

def text (value : String) : String :=
  String.ofList ('"' :: value.toList.flatMap spell ++ ['"'])

def list (values : List String) : String :=
  "[" ++ ", ".intercalate values ++ "]"

def texts (values : List String) : String := list (values.map text)

def option : Option String → String
  | none => "None"
  | some value => "Some(" ++ value ++ ")"

/-- A value with named fields. -/
def record (name : String) (fields : List (String × String)) : String :=
  name ++ " \x7b " ++ ", ".intercalate (fields.map fun field ↦ field.1 ++ ": " ++ field.2) ++
    " \x7d"

end CardQuery.Text.Literal
