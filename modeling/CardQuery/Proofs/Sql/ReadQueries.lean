import CardQuery.Proofs.Printing.FixedPoint

/-!
Queries for filters that have been read. What a leaf that has been read carries is what its keyword
takes, and a registry without fault has the columns for it, so the one thing that such a leaf can
lack is a value for its variable (`of?_ofLeaf_of_part`). A filter that has been read has a query
exactly if it has no variables, and otherwise the first variable from the left is the error
(`compile_of_read`).
-/

set_option autoImplicit false
set_option relaxedAutoImplicit false

namespace CardQuery

theorem Filter.variableNames_eq_nil_iff {filter : Filter} :
    filter.variableNames = [] ↔ ∀ entry ∈ filter.leaves, entry.variableName = none := by
  simp only [List.eq_nil_iff_forall_not_mem, mem_variableNames, Option.eq_none_iff_forall_ne_some]
  constructor
  · exact fun hnone entry hentry name hname ↦ hnone name ⟨entry, hentry, hname⟩
  · exact fun hnone name ⟨entry, hentry, hname⟩ ↦ hnone entry hentry name hname

namespace Sql

variable {registry : Registry} {subject : Subject}

/-- A leaf that takes values and has none names its variable. -/
theorem ofKeyword_unbound {keyword : Keyword} {entry : Leaf}
    (hargument : keyword.argument ≠ .absent) (hselection : entry.selection = none) :
    ofKeyword keyword entry =
      .error (.unbound entry.keyword (entry.variableName.getD "")) := by
  cases hkind : keyword.argument with
  | absent => exact absurd hkind hargument
  | text => simp only [ofKeyword, hkind, hselection]
  | list domain => simp only [ofKeyword, hkind, hselection]
  | sourced domain origins => simp only [ofKeyword, hkind, hselection]

/-- The only error of a leaf that has been read is its variable. -/
theorem of?_ofLeaf_of_part {word : List Symbol} {entry : Leaf}
    (hfault : registry.fault = none) (hknown : entry.Known registry)
    (hpart : Grammar.Part registry subject word entry) :
    CompileError.of? (ofLeaf registry entry) =
      entry.variableName.map (CompileError.unbound entry.keyword) := by
  rcases hpart.assigned with ⟨hnone, hfilled⟩ | ⟨name, hname, hselection, hother⟩
  · rw [hnone, Option.map_none, CompileError.of?_eq_none_iff]
    exact exists_ofLeaf hfault hknown hfilled
  · obtain ⟨keyword, hlookup, hargument⟩ := hknown
    have htakes : keyword.argument ≠ .absent := fun habsent ↦
      hother (hargument.trans (congrArg some habsent))
    rw [hname, Option.map_some, CompileError.of?_eq_some_iff, ofLeaf, hlookup]
    simp only [ofKeyword_unbound htakes hselection, hname, Option.getD_some]

section Read

variable {tokens : List Token} {filter : Filter} (hfault : registry.fault = none)
  (hread : Filter.ofTokens registry subject tokens = .ok filter)

include hfault hread

theorem of?_ofLeaf_of_read {entry : Leaf} (hentry : entry ∈ filter.leaves) :
    CompileError.of? (ofLeaf registry entry) =
      entry.variableName.map (CompileError.unbound entry.keyword) := by
  obtain ⟨part, hpart, -⟩ := Grammar.exists_part_of_ofTokens hread hentry
  exact of?_ofLeaf_of_part hfault (Grammar.known_of_ofTokens hread hentry) hpart

theorem exists_ofLeaf_iff_of_read {entry : Leaf} (hentry : entry ∈ filter.leaves) :
    (∃ condition, ofLeaf registry entry = .ok condition) ↔ entry.variableName = none := by
  rw [← CompileError.of?_eq_none_iff, of?_ofLeaf_of_read hfault hread hentry,
    Option.map_eq_none_iff]

theorem ofLeaf_eq_error_iff_of_read {entry : Leaf} (hentry : entry ∈ filter.leaves)
    {error : CompileError} :
    ofLeaf registry entry = .error error ↔
      ∃ name, entry.variableName = some name ∧ error = .unbound entry.keyword name := by
  rw [← CompileError.of?_eq_some_iff, of?_ofLeaf_of_read hfault hread hentry,
    Option.map_eq_some_iff]
  simp only [eq_comm]

/-- Under a registry without fault, a filter that has been read has a query, for whatever subject,
exactly if it has no variables. Otherwise the error names the keyword and the variable of the first
leaf that has a variable. -/
theorem compile_of_read (table : Subject) :
    ((∃ query, compile registry table filter = .ok query) ↔ filter.variableNames = []) ∧
      ∀ error, compile registry table filter = .error error ↔
        ∃ before entry after name, filter.leaves = before ++ entry :: after ∧
          (∀ earlier ∈ before, earlier.variableName = none) ∧
          entry.variableName = some name ∧ error = .unbound entry.keyword name := by
  constructor
  · rw [exists_compile_iff, Filter.variableNames_eq_nil_iff]
    exact forall₂_congr fun entry hentry ↦ exists_ofLeaf_iff_of_read hfault hread hentry
  · intro error
    rw [compile_eq_error_iff]
    refine exists₃_congr fun before entry after ↦ ?_
    simp only [exists_and_left]
    refine and_congr_right fun hleaves ↦ and_congr (forall₂_congr fun earlier hearlier ↦ ?_) ?_
    · exact exists_ofLeaf_iff_of_read hfault hread (by simp [hleaves, hearlier])
    · exact ofLeaf_eq_error_iff_of_read hfault hread (by simp [hleaves])

end Read

open Editor.Element in
/-- A value and a variable: the variable is the error. -/
theorem compile_of_vampiresOrOthers :
    Registry.builtin.fault = none ∧
      Filter.ofTokens Registry.builtin .card
        (Token.scan "CardType in \"Vampire\" OR CardType in $var0") = .ok vampiresOrOthers ∧
      vampiresOrOthers.variableNames = ["$var0"] ∧
      compile Registry.builtin .cardSet vampiresOrOthers =
        .error (.unbound "CardType" "$var0") := by
  obtain ⟨-, herrors⟩ := compile_of_read Registry.fault_builtin ofText_vampiresOrOthers .cardSet
  refine ⟨Registry.fault_builtin, ofText_vampiresOrOthers, rfl, (herrors _).mpr ?_⟩
  exact ⟨[Grammar.leafOf Editor.typeKeyword none (some (.listed ["Vampire"]))], _, [], "$var0", rfl,
    by simp [Grammar.leafOf], rfl, rfl⟩

end Sql

end CardQuery
