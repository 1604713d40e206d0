import CardQuery.Proofs.Editor.Refusals
import CardQuery.Proofs.Printing.Printed

/-!
Filters that have been read are drawable. The parser puts its only wrapper around the whole filter,
and gives each keyword what its argument takes, so an item can hold every leaf it reads
(`Grammar.Part.exists_seed`, `Grammar.Derives.drawable`). Hence a build refuses a filter that has
been read exactly if it negates a negation (`Element.ofFilter_of_read`).
-/

set_option autoImplicit false
set_option relaxedAutoImplicit false

namespace CardQuery

open Editor

namespace Grammar

variable {registry : Registry} {subject : Subject}

/-- An item can hold every part of the grammar, negated or not. -/
theorem Part.exists_seed {word : List Symbol} {entry : Leaf}
    (hpart : Part registry subject word entry) (negated : Bool) :
    ∃ seed, Seed.ofLeaf negated entry = .ok seed := by
  -- The arguments of the keywords stand as equations; each of them decides what is loaded.
  cases hpart with
  | bare hname hargument => exact ⟨_, rfl⟩
  | variableName hname hargument name => exact ⟨_, rfl⟩
  | text hname hargument hliteral =>
    simp [Seed.ofLeaf, leafOf, hargument, CurrentValues.carried?, CurrentValues.ofArgument,
      CurrentValues.load?]
  | list hname hargument hvalues =>
    simp [Seed.ofLeaf, leafOf, hargument, CurrentValues.carried?, CurrentValues.ofArgument,
      CurrentValues.load?]
  | sourced hname hargument hvalues horigins =>
    simp [Seed.ofLeaf, leafOf, hargument, CurrentValues.carried?, CurrentValues.ofArgument,
      CurrentValues.load?]

/-- Each rule of the grammar keeps filters drawable. -/
theorem Derives.drawable {level : Level} {word : List Symbol} {filter : Filter}
    (hderives : Derives registry subject level word filter) : filter.Drawable := by
  induction hderives with
  | conjunction _ ih | term _ ih | primary _ ih | group _ ih => exact ih
  | or _ _ hleft hright | and _ _ hleft hright => exact ⟨hleft, hright⟩
  | not _ ih => exact ih
  | part hpart => exact hpart.exists_seed

end Grammar

namespace Filter

/-- No wrapper stands within the one around a filter that has been read. -/
theorem unwrap_eq_self_of_drawable {filter : Filter} (hdrawable : filter.Drawable) :
    filter.unwrap = filter := by
  cases filter with
  | wrapped inner => exact hdrawable.elim
  | _ => rfl

theorem drawable_of_ofTokens {registry : Registry} {subject : Subject} {tokens : List Token}
    {whole : Filter} (hread : ofTokens registry subject tokens = .ok whole) :
    whole.unwrap.Drawable := by
  obtain ⟨inner, rfl, hderives⟩ := Grammar.derives_of_ofTokens hread
  rw [unwrap, unwrap_eq_self_of_drawable hderives.drawable]
  exact hderives.drawable

end Filter

namespace Editor

/-- A build on any pool of a filter that has been read succeeds unless the filter negates a negation
somewhere. If it fails, the values of every leaf are classified all the same: a negation that is
negated as the outermost node cannot be a negated box, and one that stands further inside is no
leaf. -/
theorem Element.ofFilter_of_read {registry : Registry} {subject : Subject} {tokens : List Token}
    {whole : Filter} (hread : Filter.ofTokens registry subject tokens = .ok whole)
    (shown : Subject) (supply : Supply) :
    ((∃ element rest, ofFilter shown (some whole) supply = (.ok element, rest)) ↔
        ¬ whole.NegatesTwice) ∧
      ∀ error rest, ofFilter shown (some whole) supply = (.error error, rest) →
        (∀ keyword, error ≠ .unclassified keyword) ∧
        ((∃ operand, whole.unwrap = .negation (.negation operand)) →
          error = .negatedBoxOf .negation) ∧
        ((¬ ∃ operand, whole.unwrap = .negation (.negation operand)) →
          error = .noLeaf .negation) := by
  have hdrawable := Filter.drawable_of_ofTokens hread
  refine ⟨exists_ofFilter_iff hdrawable, fun error rest hbuild ↦ ?_⟩
  obtain rfl := error_of_ofFilter hdrawable hbuild
  refine ⟨fun keyword ↦ ?_, ?_, fun hinside ↦ ?_⟩
  · unfold Filter.refusal
    split <;> simp
  · rintro ⟨operand, houtermost⟩
    rw [houtermost]
    rfl
  · unfold Filter.refusal
    split
    · rename_i operand houtermost
      exact absurd ⟨operand, houtermost⟩ hinside
    · rfl

/-- The keyword of unique cards, which takes no values. -/
def uniqueKeyword : Keyword :=
  ⟨"Unique", "Unique", "Unique cards.", [.card, .cardSet], .absent, "is_unique", none⟩

def uniqueLeaf : Leaf := Grammar.leafOf uniqueKeyword none none

theorem writes_unique : Writes Registry.builtin .card .term "Unique" (.leaf uniqueLeaf) := by
  have hfound : Grammar.Names Registry.builtin .card uniqueKeyword.name uniqueKeyword :=
    Grammar.names_iff_lookupFor.mpr rfl
  have hword : Lexer.IsWord uniqueKeyword.name :=
    Lexer.isWord_of_symbol rfl (by decide) (by decide) (List.all_eq_true.mp (by decide))
      (by decide)
  exact ⟨_, .primary (.part (.bare hfound rfl)), hword.spells⟩

/-- Unique cards or unique cards: the parentheses stand between the negations in the text, and not
in the filter. -/
def uniqueTwice : Filter :=
  .wrapped (.join (.leaf uniqueLeaf) .or (.negation (.negation (.leaf uniqueLeaf))))

theorem ofFilter_of_read_uniqueTwice :
    Filter.ofTokens Registry.builtin .card (Token.scan "Unique OR NOT (NOT Unique)") =
        .ok uniqueTwice ∧
      uniqueTwice.NegatesTwice ∧
      (¬ ∃ element rest,
        Element.ofFilter .card (some uniqueTwice) ⟨⟨0⟩, .empty, 0⟩ = (.ok element, rest)) ∧
      ∀ error rest,
        Element.ofFilter .card (some uniqueTwice) ⟨⟨0⟩, .empty, 0⟩ = (.error error, rest) →
          error = .noLeaf .negation := by
  have hread : Filter.ofTokens Registry.builtin .card (Token.scan "Unique OR NOT (NOT Unique)") =
      .ok uniqueTwice := by
    have htwice := (writes_unique.not.chain .or).notGroup
    exact ((writes_unique.chain .or).grow htwice).ofText
  have htwice : uniqueTwice.NegatesTwice := by
    simp [uniqueTwice, Filter.negatesTwice_negation]
  obtain ⟨hbuilds, hfails⟩ := Element.ofFilter_of_read hread .card ⟨⟨0⟩, .empty, 0⟩
  refine ⟨hread, htwice, fun hbuilt ↦ hbuilds.mp hbuilt htwice, fun error rest hbuild ↦ ?_⟩
  refine (hfails error rest hbuild).2.2 ?_
  simp [uniqueTwice, Filter.unwrap]

end Editor

end CardQuery
