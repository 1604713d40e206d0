import CardQuery.Editor.View
import CardQuery.Proofs.Meaning.Truth

/-!
Readings of filters. A reading gives every filter a value, built up from its leaves, which does not
hang on variables and lets chains of one connective be grouped in any way; the row of leaves and
the truth of a filter are two of them. Parts of a chain may be missing, so the value of a chain is
that of a list of possible values (`Reading.chain`), and putting lists together puts chains
together (`chain_append`). A box is the chain of its children (`read_frame_filter?`), also where
some of the filters have no value (`Follows.frame_filter?`).
-/

set_option autoImplicit false
set_option relaxedAutoImplicit false

namespace CardQuery

open Editor

/-- What is known of a leaf apart from its variable. -/
def Leaf.anonymous (entry : Leaf) : Leaf := { entry with variableName := none }

/-- Values of filters that neither variables nor the grouping of a chain make a difference to. -/
structure Reading (α : Type) where
  leaf : Leaf → α
  join : Connective → α → α → α
  negation : α → α
  leaf_anonymous : ∀ entry, leaf entry.anonymous = leaf entry
  join_assoc : ∀ connective first second third,
    join connective (join connective first second) third =
      join connective first (join connective second third)

namespace Reading

variable {α : Type} (reading : Reading α)

/-- The value of a filter. -/
def read : Filter → α
  | .wrapped inner => read inner
  | .join left connective right => reading.join connective (read left) (read right)
  | .negation operand => reading.negation (read operand)
  | .leaf entry => reading.leaf entry

/-! ### Two readings -/

/-- The leaves from left to right, without their variables. -/
def leaves : Reading (List Leaf) where
  leaf entry := [entry.anonymous]
  join _ := (· ++ ·)
  negation := id
  leaf_anonymous _ := rfl
  join_assoc _ := List.append_assoc

def truth (interpret : String → Option Selection → Truth) : Reading Truth where
  leaf entry := interpret entry.keyword entry.selection
  join := Truth.join
  negation := Truth.not
  leaf_anonymous _ := rfl
  join_assoc := Truth.join_assoc

theorem read_leaves (filter : Filter) :
    leaves.read filter = filter.leaves.map Leaf.anonymous := by
  induction filter with
  | wrapped inner ih => exact ih
  | join left connective right hleft hright =>
    simp only [read, Filter.leaves, List.map_append, hleft, hright]
    rfl
  | negation operand ih => exact ih
  | leaf entry => rfl

theorem read_truth (interpret : String → Option Selection → Truth) (filter : Filter) :
    (truth interpret).read filter = filter.truth interpret := by
  induction filter with
  | wrapped inner ih => exact ih
  | join left connective right hleft hright =>
    simp only [read, Filter.truth, hleft, hright]
    rfl
  | negation operand ih =>
    simp only [read, Filter.truth, ih]
    rfl
  | leaf entry => rfl

/-! ### Chains with parts missing -/

/-- Two parts of a chain, either of which may be missing. -/
def combine (connective : Connective) : Option α → Option α → Option α
  | some first, some second => some (reading.join connective first second)
  | some first, none => some first
  | none, second => second

@[simp] theorem combine_none_left (connective : Connective) (part : Option α) :
    reading.combine connective none part = part := rfl

@[simp] theorem combine_none_right (connective : Connective) (part : Option α) :
    reading.combine connective part none = part := by
  cases part <;> rfl

theorem combine_assoc (connective : Connective) (first second third : Option α) :
    reading.combine connective (reading.combine connective first second) third =
      reading.combine connective first (reading.combine connective second third) := by
  cases first <;> cases second <;> cases third <;> simp [combine, reading.join_assoc]

/-- A chain of parts, of which any may be missing. -/
def chain (connective : Connective) (parts : List (Option α)) : Option α :=
  parts.foldr (reading.combine connective) none

@[simp] theorem chain_nil (connective : Connective) : reading.chain connective [] = none := rfl

@[simp] theorem chain_cons (connective : Connective) (part : Option α)
    (parts : List (Option α)) :
    reading.chain connective (part :: parts) =
      reading.combine connective part (reading.chain connective parts) := rfl

theorem chain_singleton (connective : Connective) (part : Option α) :
    reading.chain connective [part] = part := by
  simp

theorem chain_append (connective : Connective) (first second : List (Option α)) :
    reading.chain connective (first ++ second) =
      reading.combine connective (reading.chain connective first)
        (reading.chain connective second) := by
  induction first with
  | nil => rfl
  | cons part rest ih => rw [List.cons_append, chain_cons, chain_cons, ih, combine_assoc]

/-- A negated value, if there is a value and it is to be negated. -/
def negateIf (negated : Bool) (value : α) : α :=
  if negated then reading.negation value else value

theorem read_negateIf (negated : Bool) (filter : Filter) :
    reading.read (Editor.negateIf negated filter) =
      reading.negateIf negated (reading.read filter) := by
  cases negated <;> rfl

/-! ### Filters without a value -/

/-- The filters that have a value have one that follows the reading: a join of which one side has
none has the value of the other. -/
structure Follows (view : Filter → Option α) : Prop where
  join : ∀ left connective right,
    view (.join left connective right) = reading.combine connective (view left) (view right)
  negation : ∀ operand, view (.negation operand) = (view operand).map reading.negation

namespace Follows

variable {reading} {view : Filter → Option α} (hview : reading.Follows view)

include hview

theorem negateIf (negated : Bool) (filter : Filter) :
    view (Editor.negateIf negated filter) = (view filter).map (reading.negateIf negated) := by
  cases negated with
  | false => exact (congrFun Option.map_id _).symm
  | true => exact hview.negation filter

/-- Filters joined from the left have the value of the chain of their values. -/
theorem foldl_join (connective : Connective) (first : Filter) (rest : List Filter) :
    view (rest.foldl (fun left right ↦ .join left connective right) first) =
      reading.chain connective ((first :: rest).map view) := by
  induction rest generalizing first with
  | nil => exact (reading.chain_singleton connective _).symm
  | cons second rest ih =>
    rw [List.foldl_cons, ih]
    simp only [List.map_cons, chain_cons, hview.join, combine_assoc]

omit hview in
/-- Missing parts make no difference to a chain. -/
theorem chain_filterMap (connective : Connective) (parts : List (Option Filter)) :
    reading.chain connective ((parts.filterMap fun part ↦ part).map view) =
      reading.chain connective (parts.map fun part ↦ part.bind view) := by
  induction parts with
  | nil => rfl
  | cons part parts ih => cases part <;> simp [ih]

/-- A box has the value of the chain of its children. -/
theorem frame_filter? (frame : Frame) (parts : List (Option Filter)) :
    (frame.filter? parts).bind view =
      if frame.disabled then none
      else (reading.chain frame.connective (parts.map fun part ↦ part.bind view)).map
        (reading.negateIf frame.negated) := by
  unfold Frame.filter?
  split
  · rfl
  · rw [← chain_filterMap]
    split
    · rename_i hparts
      simp [hparts]
    · rename_i first rest hparts
      rw [hparts, ← hview.foldl_join, Option.bind_some, hview.negateIf]

end Follows

theorem follows_read : reading.Follows fun filter ↦ some (reading.read filter) :=
  ⟨fun _ _ _ ↦ rfl, fun _ ↦ rfl⟩

/-- What a box says is the chain of what its children say. -/
theorem read_frame_filter? (frame : Frame) (parts : List (Option Filter)) :
    (frame.filter? parts).map reading.read =
      if frame.disabled then none
      else (reading.chain frame.connective (parts.map (Option.map reading.read))).map
        (reading.negateIf frame.negated) := by
  have hmap : ∀ part : Option Filter,
      (part.bind fun filter ↦ some (reading.read filter)) = part.map reading.read :=
    fun part ↦ Option.map_eq_bind.symm
  have hframe := reading.follows_read.frame_filter? frame parts
  simp only [hmap] at hframe
  exact hframe

/-- Filters that are the same in every reading have the same leaves, up to variables, and are as
true as each other wherever leaves are true by keyword and values. -/
theorem same_of_read {first second : Option Filter}
    (hread : ∀ {α : Type} (reading : Reading α),
      first.map reading.read = second.map reading.read) :
    (first = none ↔ second = none) ∧
      ∀ before after, first = some before → second = some after →
        before.leaves.map Leaf.anonymous = after.leaves.map Leaf.anonymous ∧
        ∀ interpret, before.truth interpret = after.truth interpret := by
  refine ⟨?_, ?_⟩
  · have hpresent := congrArg Option.isNone (hread leaves)
    simp only [Option.isNone_map] at hpresent
    rw [← Option.isNone_iff_eq_none, ← Option.isNone_iff_eq_none, hpresent]
  · rintro before after rfl rfl
    have hsame : ∀ {α : Type} (reading : Reading α), reading.read before = reading.read after :=
      fun reading ↦ Option.some.inj (hread reading)
    refine ⟨?_, fun interpret ↦ ?_⟩
    · rw [← read_leaves, ← read_leaves, hsame]
    · rw [← read_truth, ← read_truth, hsame]

end Reading

end CardQuery
