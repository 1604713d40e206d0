import CardQuery.Filter
import CardQuery.Registry
import CardQuery.Sql.Condition

/-!
Conditions for filters. Each keyword becomes a condition on the columns that the registry gives for
it, and the connectives become those of SQL. The first leaf from the left that has no condition
decides the error.
-/

set_option autoImplicit false
set_option relaxedAutoImplicit false

namespace CardQuery.Sql

inductive CompileError where
  | unknownKeyword (keyword : String)
  | unbound (keyword variableName : String)
  | mismatched (keyword : String)
  | originColumnMissing (keyword : String)
deriving DecidableEq

def CompileError.message : CompileError → String
  | unknownKeyword keyword => "Unknown filter '" ++ keyword ++ "'"
  | unbound keyword variableName =>
    "Filter '" ++ keyword ++ "' has no value bound to " ++ variableName
  | mismatched keyword => "Filter '" ++ keyword ++ "' carries values of the wrong shape"
  | originColumnMissing keyword => "Filter '" ++ keyword ++ "' has no column for its FROM side"

/-- The pattern of the texts that have the given one in them. -/
def containing (text : String) : String := "%" ++ text ++ "%"

/-- The column contains one of the texts; there is no such condition without a text. -/
def containsSome (column : String) : List String → Option Condition
  | [] => none
  | first :: rest =>
    some ((rest.map fun text ↦ .like column (containing text)).foldl .either
      (.like column (containing first)))

/-- The condition of one side; a side that lets everything through has none. -/
def sideConditions (column : String) : Choice → List Condition
  | .any => []
  | .among values => [.among column values]

/-- All conditions together; none at all are met by every row. -/
def allOf : List Condition → Condition
  | [] => .always
  | first :: rest => rest.foldl .both first

/-- The condition of a leaf under the keyword it names. -/
def ofKeyword (keyword : Keyword) (leaf : Leaf) : Except CompileError Condition :=
  let unbound := .error (.unbound leaf.keyword (leaf.variableName.getD ""))
  match keyword.argument, leaf.selection with
  | .absent, _ => .ok (.isTrue keyword.column)
  | _, none => unbound
  | .text, some (.listed texts) =>
    match containsSome keyword.column texts with
    | none => unbound
    | some condition => .ok condition
  | .list _, some (.listed values) => .ok (.among keyword.column values)
  | .sourced _ _, some (.sourced values origins) =>
    match keyword.originColumn with
    | none => .error (.originColumnMissing leaf.keyword)
    | some originColumn =>
      .ok (allOf (sideConditions keyword.column values ++ sideConditions originColumn origins))
  | _, _ => .error (.mismatched leaf.keyword)

def ofLeaf (registry : Registry) (leaf : Leaf) : Except CompileError Condition :=
  match registry.lookup leaf.keyword with
  | none => .error (.unknownKeyword leaf.keyword)
  | some keyword => ofKeyword keyword leaf

def join : Connective → Condition → Condition → Condition
  | .and => .both
  | .or => .either

def ofFilter (registry : Registry) : Filter → Except CompileError Condition
  | .wrapped inner => ofFilter registry inner
  | .join left connective right => do
    let first ← ofFilter registry left
    let second ← ofFilter registry right
    return join connective first second
  | .negation operand => do return .negation (← ofFilter registry operand)
  | .leaf entry => ofLeaf registry entry

/-- The query for what a filter selects. -/
def compile (registry : Registry) (subject : Subject) (filter : Filter) :
    Except CompileError String := do
  return selectFrom (registry.tableName subject) (← ofFilter registry filter)

end CardQuery.Sql
