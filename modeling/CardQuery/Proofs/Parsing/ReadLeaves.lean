import CardQuery.Proofs.Lexing.Spelling
import CardQuery.Proofs.Meaning.RoundTrip
import CardQuery.Proofs.Parsing.Acceptance
import CardQuery.Proofs.Sql.Compiled

/-!
The leaves of filters that have been read. Each is a part of the grammar
(`exists_part_of_ofTokens`), so its keyword is one of the registry (`known_of_ofTokens`), and it
carries either a variable or what its argument takes, but never both (`Part.assigned`). The values
that it carries are usable unless one of two sides lets everything through
(`Part.isUsable_eq_false_iff`).
-/

set_option autoImplicit false
set_option relaxedAutoImplicit false

namespace CardQuery

/-- One of the two sides of the leaf lets everything through. -/
def Leaf.HasOpenSide (entry : Leaf) : Prop :=
  ∃ values origins, entry.selection = some (.sourced values origins) ∧
    (values = .any ∨ origins = .any)

namespace Grammar

variable {registry : Registry} {subject : Subject} {word : List Symbol} {entry : Leaf}

/-! ### Parts -/

theorem Names.lookup_name {name : String} {keyword : Keyword}
    (hname : Names registry subject name keyword) :
    registry.lookup keyword.name = some keyword := by
  exact Registry.lookup_name (names_iff_lookup.mp hname).1

/-- A part carries what its argument takes and no variable, or a variable and nothing else. -/
theorem Part.assigned (hpart : Part registry subject word entry) :
    (entry.variableName = none ∧ entry.IsFilled) ∨
      ∃ name, entry.variableName = some name ∧ entry.selection = none ∧
        entry.argument ≠ some .absent := by
  cases hpart with
  | bare hname hargument => exact .inl ⟨rfl, by simp [leafOf, Leaf.IsFilled, hargument]⟩
  | variableName hname hargument name =>
    exact .inr ⟨name, rfl, rfl, by simpa [leafOf] using hargument⟩
  | text hname hargument hliteral =>
    exact .inl ⟨rfl, by simp [leafOf, Leaf.IsFilled, hargument]⟩
  | list hname hargument hvalues => exact .inl ⟨rfl, by simp [leafOf, Leaf.IsFilled, hargument]⟩
  | sourced hname hargument hvalues horigins =>
    exact .inl ⟨rfl, by simp [leafOf, Leaf.IsFilled, hargument]⟩

/-- The values of a part without a variable are usable exactly if no side lets everything
through. -/
theorem Part.isUsable_eq_false_iff (hpart : Part registry subject word entry)
    (hnone : entry.variableName = none) : entry.isUsable = false ↔ entry.HasOpenSide := by
  cases hpart with
  | bare hname hargument => simp [leafOf, Leaf.isUsable, Leaf.HasOpenSide, hargument]
  | variableName hname hargument name => simp [leafOf] at hnone
  | text hname hargument hliteral =>
    simp [leafOf, Leaf.isUsable, Leaf.HasOpenSide, hargument]
  | list hname hargument hvalues =>
    simp [leafOf, Leaf.isUsable, Leaf.HasOpenSide, hargument, hvalues.ne_nil]
  | @sourced _ _ _ _ _ _ values origins hname hargument hvalues horigins =>
    simp only [leafOf, Leaf.isUsable, Leaf.HasOpenSide, hargument,
      Choice.ofLiterals_eq_ite]
    cases hvalueSide : values.any (· != Choice.valueWildcard) with
    | false => simp
    | true =>
      cases horiginSide : origins.any (· != Choice.originWildcard) with
      | false => simp
      | true => simp [hvalueSide, horiginSide]

/-! ### Leaves of filters that have been read -/

variable {tokens : List Token} {text : String} {whole : Filter}

theorem exists_part_of_ofTokens (hread : Filter.ofTokens registry subject tokens = .ok whole)
    (hentry : entry ∈ whole.leaves) :
    ∃ part, Part registry subject part entry ∧ part ⊆ symbols tokens := by
  obtain ⟨inner, rfl, hderives⟩ := derives_of_ofTokens hread
  exact hderives.part_of_mem hentry

/-- The registry knows every leaf that has been read under it. -/
theorem known_of_ofTokens (hread : Filter.ofTokens registry subject tokens = .ok whole)
    (hentry : entry ∈ whole.leaves) : entry.Known registry := by
  obtain ⟨part, hpart, -⟩ := exists_part_of_ofTokens hread hentry
  obtain ⟨name, keyword, -, hname, heq⟩ := hpart.names
  rw [heq]
  exact ⟨keyword, hname.lookup_name, rfl⟩

theorem exists_part_of_ofText (hread : Filter.ofText registry subject text = .ok whole)
    (hentry : entry ∈ whole.leaves) :
    ∃ part, Part registry subject part entry ∧ part ⊆ Lexer.symbolsOf text.toList :=
  exists_part_of_ofTokens hread hentry

end Grammar

end CardQuery
