import CardQuery.Argument
import CardQuery.Selection

/-!
Filters as trees. The leaves are keywords with what is known of their values, the inner nodes are
the connectives of logic, and a whole filter read from text stands in one wrapper.
-/

set_option autoImplicit false
set_option relaxedAutoImplicit false

namespace CardQuery

inductive Connective where
  | and
  | or
deriving DecidableEq

/-- A keyword of a filter. Its values are selected, or left to a variable, or both, and an argument
that is `none` is one that nothing is known of. -/
structure Leaf where
  keyword : String
  description : String
  argument : Option Argument
  variableName : Option String
  selection : Option Selection
deriving DecidableEq

inductive Filter where
  | wrapped (inner : Filter)
  | join (left : Filter) (connective : Connective) (right : Filter)
  | negation (operand : Filter)
  | leaf (entry : Leaf)
deriving DecidableEq

/-- The capital letters in which a connective is written. -/
def Connective.text : Connective → String
  | and => "AND"
  | or => "OR"

/-- Puts a name into increasing names, once. -/
def insertName (name : String) : List String → List String
  | [] => [name]
  | first :: rest =>
    if name = first then first :: rest
    else if name < first then name :: first :: rest
    else first :: insertName name rest

@[simp] theorem mem_insertName {name other : String} {names : List String} :
    other ∈ insertName name names ↔ other = name ∨ other ∈ names := by
  induction names with
  | nil => simp [insertName]
  | cons first rest ih => grind [insertName]

namespace Filter

/-- The filter without the wrappers around the whole of it. -/
def unwrap : Filter → Filter
  | wrapped inner => inner.unwrap
  | other => other

/-- The kinds of nodes. -/
inductive Kind where
  | wrapper
  | join
  | negation
  | leaf
deriving DecidableEq

/-- The name that messages use. -/
def Kind.name : Kind → String
  | wrapper => "Filter"
  | join => "BinOp"
  | negation => "Not"
  | leaf => "FilterPart"

/-- The kind of the outermost node. -/
def kind : Filter → Kind
  | wrapped _ => .wrapper
  | join _ _ _ => .join
  | negation _ => .negation
  | leaf _ => .leaf

/-- The leaves from left to right. -/
def leaves : Filter → List Leaf
  | wrapped inner => inner.leaves
  | join left _ right => left.leaves ++ right.leaves
  | negation operand => operand.leaves
  | leaf entry => [entry]

/-- Every leaf put through a function, all else as it was. -/
def mapLeaves (change : Leaf → Leaf) : Filter → Filter
  | wrapped inner => wrapped (inner.mapLeaves change)
  | join left connective right =>
    join (left.mapLeaves change) connective (right.mapLeaves change)
  | negation operand => negation (operand.mapLeaves change)
  | leaf entry => leaf (change entry)

/-- The variables of the filter in increasing order, each once. -/
def variableNames (filter : Filter) : List String :=
  (filter.leaves.filterMap Leaf.variableName).foldr insertName []

theorem leaves_mapLeaves (change : Leaf → Leaf) (filter : Filter) :
    (filter.mapLeaves change).leaves = filter.leaves.map change := by
  induction filter with
  | wrapped inner ih => simpa [mapLeaves, leaves] using ih
  | join left connective right hleft hright => simp [mapLeaves, leaves, hleft, hright]
  | negation operand ih => simpa [mapLeaves, leaves] using ih
  | leaf entry => rfl

theorem mem_variableNames {filter : Filter} {name : String} :
    name ∈ filter.variableNames ↔ ∃ leaf ∈ filter.leaves, leaf.variableName = some name := by
  have hfold : ∀ names : List String, name ∈ names.foldr insertName [] ↔ name ∈ names := by
    intro names
    induction names with
    | nil => simp
    | cons first rest ih => simp [ih]
  simp [variableNames, hfold]

end Filter

end CardQuery
