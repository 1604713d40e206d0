import CardQuery.Proofs.Sql.Rows

/-!
The meaning of queries. A record has in every column a text, a truth value or nothing, and SQL says
how true a basic condition is of it (`Record.row`). A filter has a meaning on records without its
condition: each keyword speaks of its column, texts and values are alternatives, and the two sides
of a selection restrict together (`Keyword.meaning`). Wherever a filter has a query, the condition
of the query is as true of every record as the filter, and it has a query unless a leaf has none by
itself, in which case the first such leaf from the left is the error (`compile_meaning`).
-/

set_option autoImplicit false
set_option relaxedAutoImplicit false

namespace CardQuery

/-! ### Many truths together -/

/-- The truth that settles a chain of the connective. -/
def Connective.decisive : Connective → Truth
  | and => .no
  | or => .yes

namespace Truth

def ofBool (value : Bool) : Truth := if value then yes else no

/-- Truths joined by a connective: the decisive one if it is among them, and otherwise unknown if
one of them is. -/
def joinAll (connective : Connective) (truths : List Truth) : Truth :=
  if connective.decisive ∈ truths then connective.decisive
  else if unknown ∈ truths then unknown
  else connective.decisive.not

theorem join_joinAll (connective : Connective) (first : Truth) (rest : List Truth) :
    join connective first (joinAll connective rest) = joinAll connective (first :: rest) := by
  by_cases hdecisive : connective.decisive ∈ rest <;> by_cases hunknown : unknown ∈ rest <;>
    cases connective <;> cases first <;>
      simp_all [joinAll, join, Connective.decisive, Truth.and, Truth.or, Truth.not]

theorem foldr_join (connective : Connective) (truths : List Truth) :
    truths.foldr (join connective) connective.decisive.not = joinAll connective truths := by
  induction truths with
  | nil => rfl
  | cons first rest ih => rw [List.foldr_cons, ih, join_joinAll]

theorem foldl_join (connective : Connective) (first : Truth) (rest : List Truth) :
    rest.foldl (join connective) first = joinAll connective (first :: rest) := by
  induction rest generalizing first with
  | nil => cases connective <;> cases first <;> rfl
  | cons second rest ih =>
    rw [List.foldl_cons, ih, ← join_joinAll, ← join_joinAll, ← join_joinAll, join_assoc]

end Truth

namespace Sql

/-! ### Patterns -/

/-- The text begins with a character as expected, and goes on as told. -/
def beginsWith (expected : Char → Bool) (goesOn : List Char → Bool) : List Char → Bool
  | [] => false
  | first :: rest => expected first && goesOn rest

/-- The text is like the pattern: a percent sign stands for any characters, an underscore for one,
and a backslash for the character behind it. A backslash at the end is like nothing. -/
def isLike : List Char → List Char → Bool
  | [], text => text.isEmpty
  | '%' :: pattern, text => text.tails.any (isLike pattern)
  | '_' :: pattern, text => beginsWith (fun _ ↦ true) (isLike pattern) text
  | ['\\'], _ => false
  | '\\' :: character :: pattern, text => beginsWith (· == character) (isLike pattern) text
  | character :: pattern, text => beginsWith (· == character) (isLike pattern) text

/-! ### Records -/

/-- What a column holds. A comparison with something of another kind does not hold, and of one that
holds nothing no comparison is known to hold. -/
inductive Cell where
  | null
  | flag (value : Bool)
  | text (value : String)
deriving DecidableEq

namespace Cell

def isTrue : Cell → Truth
  | null => .unknown
  | flag value => .ofBool value
  | text _ => .no

def like : Cell → String → Truth
  | null, _ => .unknown
  | flag _, _ => .no
  | text value, pattern => .ofBool (isLike pattern.toList value.toList)

def equals : Cell → String → Truth
  | null, _ => .unknown
  | flag _, _ => .no
  | text value, other => .ofBool (value == other)

/-- The cell contains one of the texts. -/
def containsOne (cell : Cell) (texts : List String) : Truth :=
  .joinAll .or (texts.map fun text ↦ cell.like (containing text))

/-- The cell is one of the values. -/
def isAmong (cell : Cell) (values : List String) : Truth :=
  .joinAll .or (values.map cell.equals)

/-- What one side of a selection says of the cell: nothing if it lets everything through. -/
def restrictedBy (cell : Cell) : Choice → List Truth
  | .any => []
  | .among values => [cell.isAmong values]

end Cell

/-- What stands in each column. -/
abbrev Record := String → Cell

namespace Record

def row (record : Record) : Row where
  isTrue column := (record column).isTrue
  like column pattern := (record column).like pattern
  equals column value := (record column).equals value

end Record

end Sql

open Sql

/-! ### The meaning of leaves -/

/-- How true a keyword with its values is of a record. Without values of the kind that the keyword
takes, nothing is known. -/
def Keyword.meaning (keyword : Keyword) (record : Record) (selection : Option Selection) : Truth :=
  match keyword.argument, selection with
  | .absent, _ => (record keyword.column).isTrue
  | .text, some (.listed texts) => (record keyword.column).containsOne texts
  | .list _, some (.listed values) => (record keyword.column).isAmong values
  | .sourced _ _, some (.sourced values origins) =>
    .joinAll .and ((record keyword.column).restrictedBy values ++
      (record (keyword.originColumn.getD "")).restrictedBy origins)
  | _, _ => .unknown

/-- How true what a leaf says is of a record, by its keyword and its values. -/
def Sql.Record.interpret (registry : Registry) (record : Record) (name : String)
    (selection : Option Selection) : Truth :=
  match registry.lookup name with
  | none => .unknown
  | some keyword => keyword.meaning record selection

namespace Sql

variable {registry : Registry}

/-! ### Conditions of records -/

/-- Conditions joined from the left are as true as their truths together. -/
theorem truth_foldl_join (row : Row) (connective : Connective) (first : Condition)
    (rest : List Condition) :
    (rest.foldl (join connective) first).truth row =
      .joinAll connective ((first :: rest).map (Condition.truth row)) := by
  rw [List.map_cons, ← Truth.foldl_join]
  induction rest generalizing first with
  | nil => rfl
  | cons second rest ih => rw [List.foldl_cons, ih, truth_join, List.map_cons, List.foldl_cons]

theorem truth_among (record : Record) (column : String) (values : List String) :
    (Condition.among column values).truth record.row = (record column).isAmong values :=
  Truth.foldr_join .or _

theorem truth_containsSome {column : String} {texts : List String} {condition : Condition}
    (hcondition : containsSome column texts = some condition) (record : Record) :
    condition.truth record.row = (record column).containsOne texts := by
  cases texts with
  | nil => cases hcondition
  | cons first rest =>
    obtain rfl := Option.some.inj hcondition
    refine (truth_foldl_join record.row .or _ _).trans ?_
    rw [Cell.containsOne, List.map_cons, List.map_map]
    rfl

theorem truth_allOf (row : Row) (conditions : List Condition) :
    (allOf conditions).truth row = .joinAll .and (conditions.map (Condition.truth row)) := by
  cases conditions with
  | nil => rfl
  | cons first rest => exact truth_foldl_join row .and first rest

theorem truth_sideConditions (record : Record) (column : String) (choice : Choice) :
    (sideConditions column choice).map (Condition.truth record.row) =
      (record column).restrictedBy choice := by
  cases choice with
  | any => rfl
  | among values => exact congrArg (fun truth ↦ [truth]) (truth_among record column values)

/-- The condition of a leaf is as true of a record as its keyword with its values. -/
theorem truth_ofKeyword {keyword : Keyword} {entry : Leaf} {condition : Condition}
    (hcondition : ofKeyword keyword entry = .ok condition) (record : Record) :
    condition.truth record.row = keyword.meaning record entry.selection := by
  unfold ofKeyword at hcondition
  unfold Keyword.meaning
  -- One case for each clause of the argument with the values; those that are errors fall away.
  split at hcondition
  · rename_i hargument
    simp only [hargument]
    obtain rfl := Except.ok.inj hcondition
    rfl
  · cases hcondition
  · rename_i texts hargument hselection
    simp only [hargument, hselection]
    cases htexts : containsSome keyword.column texts with
    | none => simp [htexts] at hcondition
    | some found =>
      simp only [htexts, Except.ok.injEq] at hcondition
      exact hcondition ▸ truth_containsSome htexts record
  · rename_i domain values hargument hselection
    simp only [hargument, hselection]
    obtain rfl := Except.ok.inj hcondition
    exact truth_among record keyword.column values
  · rename_i domain originDomain values origins hargument hselection
    simp only [hargument, hselection]
    cases hcolumn : keyword.originColumn with
    | none => simp [hcolumn] at hcondition
    | some column =>
      simp only [hcolumn, Except.ok.injEq] at hcondition
      rw [← hcondition, truth_allOf, List.map_append, truth_sideConditions, truth_sideConditions]
      rfl
  · cases hcondition

theorem truth_ofLeaf {entry : Leaf} {condition : Condition}
    (hcondition : ofLeaf registry entry = .ok condition) (record : Record) :
    condition.truth record.row = record.interpret registry entry.keyword entry.selection := by
  unfold ofLeaf at hcondition
  unfold Record.interpret
  cases hlookup : registry.lookup entry.keyword with
  | none => simp [hlookup] at hcondition
  | some keyword =>
    simp only [hlookup] at hcondition
    exact truth_ofKeyword hcondition record

/-! ### Queries -/

/-- A leaf has a query of its own exactly if it has a condition. -/
theorem of?_compile_leaf (registry : Registry) (subject : Subject) (entry : Leaf) :
    CompileError.of? (compile registry subject (.leaf entry)) =
      CompileError.of? (ofLeaf registry entry) := by
  rw [of?_compile, Filter.leaves, List.findSome?_singleton]

/-- A filter has a query exactly if each of its leaves has one by itself, and otherwise the error is
that of the first leaf from the left that has none. A query asks for one condition, and that is as
true of every record as the filter: connectives are those of SQL, and a leaf is as true as its
keyword with its values. -/
theorem compile_meaning (registry : Registry) (subject : Subject) (filter : Filter) :
    ((∃ query, compile registry subject filter = .ok query) ↔
      ∀ entry ∈ filter.leaves, ∃ query, compile registry subject (.leaf entry) = .ok query) ∧
    (∀ error, compile registry subject filter = .error error ↔
      ∃ before entry after, filter.leaves = before ++ entry :: after ∧
        (∀ earlier ∈ before, ∃ query, compile registry subject (.leaf earlier) = .ok query) ∧
        compile registry subject (.leaf entry) = .error error) ∧
    ∀ query, compile registry subject filter = .ok query →
      ∃ condition, ofFilter registry filter = .ok condition ∧
        query = selectFrom (registry.tableName subject) condition ∧
        ∀ record : Record,
          condition.truth record.row = filter.truth (record.interpret registry) := by
  have hleaf : ∀ entry, (∃ query, compile registry subject (.leaf entry) = .ok query) ↔
      ∃ condition, ofLeaf registry entry = .ok condition := fun entry ↦ by
    rw [← CompileError.of?_eq_none_iff, of?_compile_leaf, CompileError.of?_eq_none_iff]
  have hfails : ∀ entry error, compile registry subject (.leaf entry) = .error error ↔
      ofLeaf registry entry = .error error := fun entry error ↦ by
    rw [← CompileError.of?_eq_some_iff, of?_compile_leaf, CompileError.of?_eq_some_iff]
  simp only [hleaf, hfails]
  refine ⟨exists_compile_iff, fun error ↦ compile_eq_error_iff, fun query hquery ↦ ?_⟩
  rw [compile_eq_map] at hquery
  cases hcondition : ofFilter registry filter with
  | error error => simp [hcondition, Except.map] at hquery
  | ok condition =>
    simp only [hcondition, Except.map, Except.ok.injEq] at hquery
    exact ⟨condition, rfl, hquery.symm, fun record ↦ truth_ofFilter_of_leaves
      (fun entry found hfound ↦ truth_ofLeaf hfound record) hcondition⟩

end Sql

end CardQuery
