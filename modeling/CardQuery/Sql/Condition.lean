/-!
Conditions on the rows of a table, and queries for the rows that meet one, as SQL text. Only
connectives that could be read in another way stand in parentheses.
-/

set_option autoImplicit false
set_option relaxedAutoImplicit false

namespace CardQuery.Sql

inductive Condition where
  | always
  | isTrue (column : String)
  | like (column pattern : String)
  | among (column : String) (values : List String)
  | negation (operand : Condition)
  | both (left right : Condition)
  | either (left right : Condition)
deriving DecidableEq

/-! ### Names and literals -/

/-- A name between double quotes, each quote in it written twice. -/
def quotedName (name : String) : String :=
  let spell (character : Char) : List Char :=
    if character = '"' then ['"', '"'] else [character]
  String.ofList ('"' :: name.toList.flatMap spell ++ ['"'])

/-- A character between the quotes of a literal. -/
def spellCharacter (character : Char) : List Char :=
  match character with
  | '\\' => ['\\', '\\']
  | '"' => ['\\', '"']
  | '\'' => ['\\', '\'']
  | '\x00' => ['\\', '0']
  | '\x08' => ['\\', 'b']
  | '\t' => ['\\', 't']
  | '\x1a' => ['\\', 'z']
  | '\n' => ['\\', 'n']
  | '\r' => ['\\', 'r']
  | _ => [character]

/-- A literal between single quotes. With a backslash in it, it is marked as one with escapes. -/
def literal (text : String) : String :=
  let body := text.toList.flatMap spellCharacter
  let quoted := '\'' :: body ++ ['\'']
  String.ofList (if '\\' ∈ body then 'E' :: quoted else quoted)

/-! ### Conditions -/

namespace Condition

/-- No connective stands outermost, so the condition is read in one way only wherever it
stands. -/
def IsPlain : Condition → Prop
  | negation _ | both _ _ | either _ _ => False
  | always | isTrue _ | like _ _ | among _ _ => True

instance (condition : Condition) : Decidable condition.IsPlain := by
  cases condition <;> simp only [IsPlain] <;> infer_instance

def IsBoth : Condition → Prop
  | both _ _ => True
  | _ => False

instance (condition : Condition) : Decidable condition.IsBoth := by
  cases condition <;> simp only [IsBoth] <;> infer_instance

def IsEither : Condition → Prop
  | either _ _ => True
  | _ => False

instance (condition : Condition) : Decidable condition.IsEither := by
  cases condition <;> simp only [IsEither] <;> infer_instance

/-- The text, in parentheses unless it may stand bare. -/
def enclose (bare : Bool) (text : String) : String :=
  if bare then text else "(" ++ text ++ ")"

/-- A list without values is written as a condition that no row meets. -/
def text : Condition → String
  | always => "TRUE"
  | isTrue column => quotedName column ++ " = TRUE"
  | like column pattern => quotedName column ++ " LIKE " ++ literal pattern
  | among _ [] => "1 = 2"
  | among column values =>
    quotedName column ++ " IN (" ++ ", ".intercalate (values.map literal) ++ ")"
  | negation operand => "NOT " ++ enclose operand.IsPlain operand.text
  | both left right =>
    enclose (left.IsPlain ∨ left.IsBoth) left.text ++ " AND " ++
      enclose right.IsPlain right.text
  | either left right =>
    enclose (left.IsPlain ∨ left.IsEither) left.text ++ " OR " ++
      enclose right.IsPlain right.text

end Condition

/-- The query for all columns of the rows that meet a condition. -/
def selectFrom (table : String) (condition : Condition) : String :=
  "SELECT * FROM " ++ quotedName table ++ " WHERE " ++ condition.text

end CardQuery.Sql
