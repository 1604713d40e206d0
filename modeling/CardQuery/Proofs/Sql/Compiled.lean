import CardQuery.Proofs.Registry.Lookup
import CardQuery.Sql.Compile

/-!
Which filters have a condition. The error of a filter is the first error of a leaf, from left to
right (`of?_ofFilter`), so a filter has a condition exactly if each of its leaves has
(`exists_ofFilter_iff`). A leaf has one if the registry knows it, without a fault of its own, and
the leaf carries what its argument takes (`exists_ofLeaf`).
-/

set_option autoImplicit false
set_option relaxedAutoImplicit false

namespace CardQuery

/-- The leaf carries values of the kind that its argument takes; a text is at least one. -/
def Leaf.IsFilled (entry : Leaf) : Prop :=
  match entry.argument, entry.selection with
  | some .absent, _ => True
  | some .text, some (.listed values) => values ≠ []
  | some (.list _), some (.listed _) => True
  | some (.sourced _ _), some (.sourced _ _) => True
  | _, _ => False

namespace Sql

variable {registry : Registry}

/-! ### Errors -/

namespace CompileError

variable {α : Type} {result : Except CompileError α}

/-- The error of a result, if it is one. -/
def of? : Except CompileError α → Option CompileError
  | .ok _ => none
  | .error error => some error

theorem of?_eq_some_iff {error : CompileError} :
    of? result = some error ↔ result = .error error := by
  cases result <;> simp [of?]

theorem of?_eq_none_iff : of? result = none ↔ ∃ value, result = .ok value := by
  cases result <;> simp [of?]

end CompileError

/-! ### From leaves to filters -/

theorem ofFilter_join_eq_ok {left right : Filter} {connective : Connective}
    {condition : Condition} :
    ofFilter registry (.join left connective right) = .ok condition ↔
      ∃ first second, ofFilter registry left = .ok first ∧ ofFilter registry right = .ok second ∧
        condition = join connective first second := by
  rw [ofFilter]
  cases ofFilter registry left with
  | error error => simp [bind, Except.bind]
  | ok first =>
    cases ofFilter registry right with
    | error error => simp [bind, Except.bind]
    | ok second => simp [bind, Except.bind, pure, Except.pure, eq_comm]

theorem ofFilter_negation_eq_ok {operand : Filter} {condition : Condition} :
    ofFilter registry (.negation operand) = .ok condition ↔
      ∃ inner, ofFilter registry operand = .ok inner ∧ condition = .negation inner := by
  rw [ofFilter]
  cases ofFilter registry operand with
  | error error => simp [bind, Except.bind]
  | ok inner => simp [bind, Except.bind, pure, Except.pure, eq_comm]

/-- The first error of a filter is that of the first leaf that has one. -/
theorem of?_ofFilter (registry : Registry) (filter : Filter) :
    CompileError.of? (ofFilter registry filter) =
      filter.leaves.findSome? fun entry ↦ CompileError.of? (ofLeaf registry entry) := by
  induction filter with
  | wrapped inner ih => exact ih
  | join left connective right hleft hright =>
    rw [ofFilter, Filter.leaves, List.findSome?_append, ← hleft, ← hright]
    cases ofFilter registry left with
    | error error => rfl
    | ok first => cases ofFilter registry right <;> rfl
  | negation operand ih =>
    rw [ofFilter, Filter.leaves, ← ih]
    cases ofFilter registry operand <;> rfl
  | leaf entry =>
    rw [ofFilter, Filter.leaves, List.findSome?_singleton]

/-- A filter has a condition exactly if each of its leaves has one. -/
theorem exists_ofFilter_iff {filter : Filter} :
    (∃ condition, ofFilter registry filter = .ok condition) ↔
      ∀ entry ∈ filter.leaves, ∃ condition, ofLeaf registry entry = .ok condition := by
  simp only [← CompileError.of?_eq_none_iff, of?_ofFilter, List.findSome?_eq_none_iff]

theorem compile_eq_map (registry : Registry) (subject : Subject) (filter : Filter) :
    compile registry subject filter =
      (ofFilter registry filter).map (selectFrom (registry.tableName subject)) := by
  unfold compile
  cases ofFilter registry filter <;> rfl

/-- A query has no errors but those of the condition. -/
theorem of?_compile (registry : Registry) (subject : Subject) (filter : Filter) :
    CompileError.of? (compile registry subject filter) =
      filter.leaves.findSome? fun entry ↦ CompileError.of? (ofLeaf registry entry) := by
  rw [compile_eq_map, ← of?_ofFilter]
  cases ofFilter registry filter <;> rfl

theorem exists_compile_iff {subject : Subject} {filter : Filter} :
    (∃ query, compile registry subject filter = .ok query) ↔
      ∀ entry ∈ filter.leaves, ∃ condition, ofLeaf registry entry = .ok condition := by
  simp only [← CompileError.of?_eq_none_iff, of?_compile, List.findSome?_eq_none_iff]

theorem compile_eq_error_iff {subject : Subject} {filter : Filter} {error : CompileError} :
    compile registry subject filter = .error error ↔
      ∃ before entry after, filter.leaves = before ++ entry :: after ∧
        (∀ earlier ∈ before, ∃ condition, ofLeaf registry earlier = .ok condition) ∧
        ofLeaf registry entry = .error error := by
  simp only [← CompileError.of?_eq_some_iff, ← CompileError.of?_eq_none_iff, of?_compile,
    List.findSome?_eq_some_iff]
  constructor
  · rintro ⟨before, entry, after, hleaves, hfails, hbefore⟩
    exact ⟨before, entry, after, hleaves, hbefore, hfails⟩
  · rintro ⟨before, entry, after, hleaves, hbefore, hfails⟩
    exact ⟨before, entry, after, hleaves, hfails, hbefore⟩

/-! ### Leaves -/

theorem containsSome_of_ne_nil {values : List String} (hpresent : values ≠ []) (column : String) :
    ∃ condition, containsSome column values = some condition := by
  cases values with
  | nil => exact absurd rfl hpresent
  | cons first rest => exact ⟨_, rfl⟩

/-- A leaf that is known and filled has a condition. -/
theorem exists_ofLeaf {entry : Leaf} (hfault : registry.fault = none)
    (hknown : entry.Known registry) (hfilled : entry.IsFilled) :
    ∃ condition, ofLeaf registry entry = .ok condition := by
  obtain ⟨keyword, hlookup, hargument⟩ := hknown
  have hsame : ofLeaf registry entry = ofKeyword keyword entry := by
    rw [ofLeaf, hlookup]
  have hkind : ∀ {argument}, entry.argument = some argument → keyword.argument = argument :=
    fun heq ↦ Option.some.inj (hargument.symm.trans heq)
  rw [hsame]
  unfold Leaf.IsFilled at hfilled
  split at hfilled
  · rename_i hentry
    exact ⟨.isTrue keyword.column, by simp only [ofKeyword, hkind hentry]⟩
  · rename_i values hentry hselection
    obtain ⟨condition, hcondition⟩ := containsSome_of_ne_nil hfilled keyword.column
    exact ⟨condition, by simp only [ofKeyword, hkind hentry, hselection, hcondition]⟩
  · rename_i domain values hentry hselection
    exact ⟨.among keyword.column values, by simp only [ofKeyword, hkind hentry, hselection]⟩
  · rename_i domain originDomain values origins hentry hselection
    have hsourced : keyword.argument.IsSourced := by
      rw [hkind hentry]
      exact trivial
    obtain ⟨column, hcolumn⟩ :=
      Registry.originColumn_of_fault hfault (Registry.mem_of_lookup hlookup) hsourced
    refine ⟨allOf (sideConditions keyword.column values ++ sideConditions column origins), ?_⟩
    simp only [ofKeyword, hkind hentry, hselection, hcolumn]
  · exact hfilled.elim

end Sql

end CardQuery
