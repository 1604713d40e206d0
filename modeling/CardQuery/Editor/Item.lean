import CardQuery.Filter.Bindings
import CardQuery.Keyword
import CardQuery.NamePool

/-!
Items of the editor. An item is one keyword, perhaps negated, with the argument that it takes, the
values that are selected for it at the moment, and the variable under which they are bound. Whether
enough is selected is decided by every view of the item for itself.
-/

set_option autoImplicit false
set_option relaxedAutoImplicit false

namespace CardQuery.Editor

/-- The identity of an element, whatever it holds. -/
structure ElementId where
  number : Nat
deriving DecidableEq

/-- The pool that the variables of a tree come from. -/
structure PoolId where
  number : Nat
deriving DecidableEq

/-! ### Current values -/

/-- What is selected at the moment. Free text is a list of at most one entry, and of values with
origins each side may be left open. -/
inductive CurrentValues where
  | flag
  | text (entries : List String)
  | list (values : List String)
  | sourced (values origins : Option (List String))
deriving DecidableEq

/-- The kind of values that an item takes. -/
inductive ValueKind where
  | flag
  | text
  | list
  | sourced
deriving DecidableEq

def ValueKind.name : ValueKind → String
  | flag => "None"
  | text => "Entry"
  | list => "List"
  | sourced => "ListFrom"

namespace CurrentValues

def kind : CurrentValues → ValueKind
  | flag => .flag
  | text _ => .text
  | list _ => .list
  | sourced _ _ => .sourced

/-- Nothing selected for an argument. -/
def ofArgument : Argument → CurrentValues
  | .absent => flag
  | .text => text []
  | .list _ => list []
  | .sourced _ _ => sourced none none

/-- Nothing selected any more. -/
def cleared : CurrentValues → CurrentValues
  | flag => flag
  | text _ => text []
  | list _ => list []
  | sourced _ _ => sourced none none

/-- One side of a selection. A side that lists nothing but wildcards is left open. -/
def loadedSide (choice : Choice) (wildcard : String) : Option (List String) :=
  match choice with
  | .any => none
  | .among values => (Choice.ofLiterals values wildcard).toOption

/-- The values with a selection in their place, if they are of a kind that can hold it. -/
def load? (current : CurrentValues) (selection : Selection) : Option CurrentValues :=
  match current, selection with
  | text _, .listed entries => if entries.length ≤ 1 then some (text entries) else none
  | list _, .listed values => some (list values)
  | sourced _ _, .sourced values origins =>
    some (sourced (loadedSide values Choice.valueWildcard)
      (loadedSide origins Choice.originWildcard))
  | _, _ => none

/-- What an item of the argument holds when it is made of a leaf with this selection. -/
def carried? (argument : Argument) : Option Selection → Option CurrentValues
  | none => some (ofArgument argument)
  | some selection => (ofArgument argument).load? selection

/-- A side that is given but lists nothing is left open. -/
def nonEmpty (side : Option (List String)) : Option (List String) := side.filter (· ≠ [])

/-- Values are taken and there is nothing to bind. Values with origins are empty if one of the
sides is open. -/
def IsEmpty : CurrentValues → Prop
  | flag => False
  | text values | list values => values = []
  | sourced values origins => values = none ∨ origins = none

instance : (current : CurrentValues) → Decidable current.IsEmpty
  | flag => inferInstanceAs (Decidable False)
  | text values | list values => inferInstanceAs (Decidable (values = []))
  | sourced values origins => inferInstanceAs (Decidable (values = none ∨ origins = none))

/-- The values that a variable is bound to. -/
def selection? : CurrentValues → Option Selection
  | flag => none
  | text values | list values => if values = [] then none else some (.listed values)
  | sourced (some values) (some origins) => some (.sourced (.among values) (.among origins))
  | sourced _ _ => none

/-- Neither values nor origins are selected where there are both. -/
def LacksBothSides (current : CurrentValues) : Prop := current = sourced none none

instance (current : CurrentValues) : Decidable current.LacksBothSides :=
  inferInstanceAs (Decidable (_ = _))

end CurrentValues

/-! ### Items -/

structure Item where
  id : ElementId
  keyword : String
  description : String
  variableName : String
  negated : Bool
  disabled : Bool
  shape : Argument
  current : CurrentValues
  pool : PoolId
deriving DecidableEq

/-- Values of another kind than the item takes. -/
structure EditError where
  keyword : String
  kind : ValueKind
deriving DecidableEq

def EditError.message (error : EditError) : String :=
  "Filter '" ++ error.keyword ++ "' holds " ++ error.kind.name ++ " values"

/-- Wraps a filter in a negation, if it is to be negated. -/
def negateIf (negated : Bool) (filter : Filter) : Filter :=
  if negated then .negation filter else filter

theorem leaves_negateIf (negated : Bool) (filter : Filter) :
    (negateIf negated filter).leaves = filter.leaves := by
  cases negated <;> rfl

namespace Item

/-! ### Edits -/

def mismatch (item : Item) : EditError := ⟨item.keyword, item.current.kind⟩

/-- Sets the free text; the empty text clears it. -/
def enterText (item : Item) (text : String) : Except EditError Item :=
  match item.current with
  | .text _ => .ok { item with current := .text (if text = "" then [] else [text]) }
  | _ => .error item.mismatch

def selectValues (item : Item) (values : List String) : Except EditError Item :=
  match item.current with
  | .list _ => .ok { item with current := .list values }
  | _ => .error item.mismatch

/-- Sets both sides; one that lists nothing is left open. -/
def selectSides (item : Item) (values origins : Option (List String)) : Except EditError Item :=
  if item.current.kind = .sourced then
    .ok { item with
      current := .sourced (CurrentValues.nonEmpty values) (CurrentValues.nonEmpty origins) }
  else .error item.mismatch

def clear (item : Item) : Item := { item with current := item.current.cleared }

/-- The item as an element of the tree that draws its variables from another pool. The variable is
kept unless the pool holds it already. -/
def join (item : Item) (target : PoolId) (pool : NamePool) : Item × NamePool :=
  if item.pool = target then (item, pool)
  else
    let (name, pool) := pool.obtain (some item.variableName)
    ({ item with variableName := name, pool := target }, pool)

/-! ### Views -/

/-- The leaf of the item with its variable, and no values. -/
def leaf (item : Item) : Leaf :=
  ⟨item.keyword, item.description, some item.shape, some item.variableName, none⟩

/-- What the item says, unless it is disabled or empty. -/
def filter? (item : Item) : Option Filter :=
  if item.disabled ∨ item.current.IsEmpty then none
  else some (negateIf item.negated (.leaf item.leaf))

/-- The binding of the variable of an item that takes values. -/
def bindings (item : Item) : Bindings :=
  if item.current.kind = .flag then .empty
  else Bindings.empty.insert item.variableName item.current.selection?

/-- What the item says before it is negated. Values with origins of which no side is selected are
not shown at all. -/
def plainText (item : Item) : String :=
  match item.current, item.current.selection? with
  | .flag, _ | .sourced none none, _ => item.keyword
  | _, none => item.keyword ++ " in " ++ item.variableName
  | .text values, some _ | .list values, some _ =>
    item.keyword ++ " in " ++ Text.Quoted.quoteAll values
  | .sourced _ _, some selection => item.keyword ++ " in " ++ selection.text

/-- What the item says; nothing if it is disabled. -/
def text (item : Item) : String :=
  if item.disabled then ""
  else if item.negated then "NOT (" ++ item.plainText ++ ")"
  else item.plainText

end Item

end CardQuery.Editor
