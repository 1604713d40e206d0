import CardQuery.Proofs.Editor.Offences

/-!
What builds refuse of filters that are drawable, which means that no wrapper stands inside them and
an item can hold each of their leaves. Of such a filter only a negation that is negated can offend
(`Filter.offence?_of_drawable`), and a build refuses it with one error if it is the outermost node,
and with another if it stands further inside (`Element.error_of_ofFilter`).
-/

set_option autoImplicit false
set_option relaxedAutoImplicit false

namespace CardQuery

open Editor

namespace Filter

/-! ### Negations of negations -/

/-- Somewhere in the filter a negation is negated. -/
def NegatesTwice (filter : Filter) : Prop :=
  ∃ operand, negation (negation operand) ∈ filter.subfilters

@[simp] theorem negatesTwice_wrapped {inner : Filter} :
    (wrapped inner).NegatesTwice ↔ inner.NegatesTwice := by
  simp [NegatesTwice, subfilters]

@[simp] theorem negatesTwice_join {left right : Filter} {connective : Connective} :
    (join left connective right).NegatesTwice ↔ left.NegatesTwice ∨ right.NegatesTwice := by
  simp [NegatesTwice, subfilters, exists_or]

@[simp] theorem not_negatesTwice_leaf {entry : Leaf} : ¬ (leaf entry).NegatesTwice := by
  simp [NegatesTwice, subfilters]

theorem negatesTwice_negation {operand : Filter} :
    (negation operand).NegatesTwice ↔
      (∃ inner, operand = negation inner) ∨ operand.NegatesTwice := by
  simp [NegatesTwice, subfilters, exists_or, eq_comm]

@[simp] theorem negatesTwice_negation_join {left right : Filter} {connective : Connective} :
    (negation (join left connective right)).NegatesTwice ↔
      left.NegatesTwice ∨ right.NegatesTwice := by
  simp [negatesTwice_negation]

/-- The error that a negation of a negation is refused with. -/
def refusal : Filter → BuildError
  | negation (negation _) => .negatedBoxOf .negation
  | _ => .noLeaf .negation

/-! ### Drawable filters -/

/-- No wrapper stands in the filter, and an item can hold each of its leaves. -/
def Drawable : Filter → Prop
  | wrapped _ => False
  | join left _ right => left.Drawable ∧ right.Drawable
  | negation operand => operand.Drawable
  | leaf entry => ∀ negated, ∃ seed, Seed.ofLeaf negated entry = .ok seed

theorem isClassifiable_of_drawable {entry : Leaf} (hdrawable : (leaf entry).Drawable) :
    entry.isClassifiable = true := by
  obtain ⟨seed, hseed⟩ := hdrawable false
  rcases Seed.ofLeaf_cases false entry with ⟨hknown, -⟩ | ⟨-, herror⟩
  · exact hknown
  · rw [herror] at hseed
    cases hseed

theorem negatesTwice_unwrap {filter : Filter} :
    filter.unwrap.NegatesTwice ↔ filter.NegatesTwice := by
  induction filter with
  | wrapped inner ih => rw [unwrap, ih, negatesTwice_wrapped]
  | join | negation | leaf => rfl

/-- Only a negation of a negation offends in a drawable filter. -/
theorem offence?_of_drawable {filter : Filter} (hdrawable : filter.Drawable) :
    ∀ node ∈ filter.subfilters,
      node.offence? = none ∨ ∃ operand, node = negation (negation operand) := by
  induction filter with
  | wrapped inner => exact hdrawable.elim
  | join left connective right hleft hright =>
    rw [subfilters, List.forall_mem_cons, List.forall_mem_append]
    exact ⟨.inl rfl, hleft hdrawable.1, hright hdrawable.2⟩
  | negation operand ih =>
    rw [subfilters, List.forall_mem_cons]
    refine ⟨?_, ih hdrawable⟩
    cases operand with
    | wrapped inner => exact hdrawable.elim
    | join | leaf => exact .inl rfl
    | negation inner => exact .inr ⟨inner, rfl⟩
  | leaf entry =>
    rw [subfilters, List.forall_mem_singleton]
    exact .inl (if_pos (isClassifiable_of_drawable hdrawable))

theorem firstOffence?_eq_none_iff_of_drawable {filter : Filter}
    (hdrawable : filter.unwrap.Drawable) :
    filter.firstOffence? = none ↔ ¬ filter.NegatesTwice := by
  rw [firstOffence?_eq_none_iff, ← negatesTwice_unwrap]
  constructor
  · rintro hnone ⟨operand, hoperand⟩
    exact nomatch hnone _ hoperand
  · intro honce node hnode
    rcases offence?_of_drawable hdrawable node hnode with hnone | ⟨operand, rfl⟩
    · exact hnone
    · exact absurd ⟨operand, hnode⟩ honce

theorem refusal_of_firstOffence? {filter : Filter} (hdrawable : filter.unwrap.Drawable)
    {error : BuildError} (hoffence : filter.firstOffence? = some error) :
    error = filter.unwrap.refusal := by
  have hsubfilters := offence?_of_drawable hdrawable
  rw [firstOffence?] at hoffence
  generalize filter.unwrap = outermost at hsubfilters hoffence
  rw [subfilters_eq_cons, List.forall_mem_cons] at hsubfilters
  rcases hsubfilters.1 with hnone | ⟨operand, rfl⟩
  · rw [outermostOffence?_eq_none_iff.mpr hnone, Option.none_or] at hoffence
    obtain ⟨node, hnode, hinside⟩ := List.exists_of_findSome?_eq_some hoffence
    rcases hsubfilters.2 node hnode with hfree | ⟨operand, rfl⟩
    · rw [hfree] at hinside
      cases hinside
    · obtain rfl := Option.some.inj hinside
      unfold refusal
      split
      · cases hnone
      · rfl
  · exact (Option.some.inj hoffence).symm

end Filter

namespace Editor.Element

variable {subject : Subject} {filter : Filter} {supply : Supply}

/-- A build of a filter that is drawable within its wrappers succeeds unless the filter negates a
negation. -/
theorem exists_ofFilter_iff (hdrawable : filter.unwrap.Drawable) :
    (∃ element rest, ofFilter subject (some filter) supply = (.ok element, rest)) ↔
      ¬ filter.NegatesTwice := by
  rw [exists_ofFilter_eq_ok_iff, Filter.firstOffence?_eq_none_iff_of_drawable hdrawable]

/-- A build of such a filter fails for this reason only. -/
theorem error_of_ofFilter (hdrawable : filter.unwrap.Drawable) {error : BuildError} {rest : Supply}
    (hbuild : ofFilter subject (some filter) supply = (.error error, rest)) :
    error = filter.unwrap.refusal :=
  Filter.refusal_of_firstOffence? hdrawable (exists_ofFilter_eq_error_iff.mp ⟨rest, hbuild⟩)

end Editor.Element

end CardQuery
