import CardQuery.Proofs.Editor.BoundLeaves
import CardQuery.Proofs.Parsing.Drawable
import CardQuery.Proofs.Printing.Reshown

/-!
What a tree says, built again. The values of a set item are such that another item can bind them, so
what a built tree says with its values is drawable and its leaves are usable
(`drawable_ownFilter?`, `isUsable_ownFilter?`). Boxes of one child are not shown, however, and where
a negated box keeps nothing but one negated child, the two negations meet; a build refuses that
(`not_reopened_of_metNegations`), and it refuses nothing else that a built tree says
(`reopened_of_build`).
-/

set_option autoImplicit false
set_option relaxedAutoImplicit false

namespace CardQuery.Editor

/-! ### Leaves with their own values -/

/-- Another item of the leaf of a set item holds what the item holds. -/
theorem Item.ofLeaf_ownLeaf {item : Item} (hset : ¬ item.current.IsEmpty)
    (hrereads : item.Rereads) (negated : Bool) :
    Seed.ofLeaf negated item.ownLeaf =
      .ok ⟨item.keyword, item.description, some item.variableName, negated, item.shape,
        item.current⟩ := by
  refine Seed.ofLeaf_eq_ok_iff.mpr ⟨item.shape, item.current, rfl, ?_, rfl⟩
  rcases CurrentValues.selection?_cases hset with hflag | ⟨selection, hselection⟩
  · rw [hrereads.suited.eq_flag_iff.mp hflag, ownLeaf, hflag]
    rfl
  · rw [ownLeaf, hselection]
    exact hrereads.suited.load?_selection hselection (hrereads.reread selection hselection)

theorem Item.isUsable_ownLeaf {item : Item} (hset : ¬ item.current.IsEmpty)
    (hrereads : item.Rereads) : item.ownLeaf.isUsable = true := by
  obtain ⟨argument, current, -, hseed, hheld⟩ :=
    Seed.holds_of_ofLeaf (Item.ofLeaf_ownLeaf hset hrereads false)
  obtain rfl : item.current = current := congrArg Seed.current hseed
  by_contra hother
  rw [if_neg hother] at hheld
  exact hset hheld

namespace Element

/-! ### Filters with their own values -/

theorem drawable_ownFilter? {element : Element} (hreread : ∀ item ∈ element.items, item.Rereads)
    {own : Filter} (hown : element.ownFilter? = some own) : own.Drawable := by
  induction element generalizing own with
  | hitem entry =>
    rw [ownFilter?_item] at hown
    unfold Item.ownFilter? at hown
    split at hown
    · simp at hown
    · rename_i hsaid
      have hleaf : (Filter.leaf entry.ownLeaf).Drawable := fun negated ↦
        ⟨_, Item.ofLeaf_ownLeaf (fun hunset ↦ hsaid (.inr hunset)) (hreread entry (by simp))
          negated⟩
      obtain rfl := Option.some.inj hown
      cases entry.negated <;> exact hleaf
  | hbox frame children ih =>
    rw [ownFilter?_box] at hown
    refine Frame.holds_filter? (fun hoperand ↦ hoperand) (fun hleft hright ↦ ⟨hleft, hright⟩)
      (fun part hpart ↦ ?_) hown
    obtain ⟨child, hchild, hsaid⟩ := List.mem_map.mp hpart
    exact ih child hchild (fun item hitem ↦ hreread item (mem_items_box hchild hitem)) hsaid

theorem isUsable_ownFilter? {element : Element}
    (hreread : ∀ item ∈ element.visibleItems, item.Rereads) {own : Filter}
    (hown : element.ownFilter? = some own) : ∀ entry ∈ own.leaves, entry.isUsable = true := by
  have hleaves := element.leavesOf_ownFilter?
  rw [hown, leavesOf_some] at hleaves
  intro entry hentry
  rw [hleaves] at hentry
  obtain ⟨item, hitem, rfl⟩ := List.mem_map.mp hentry
  obtain ⟨hvisible, hset⟩ := List.mem_filter.mp hitem
  exact Item.isUsable_ownLeaf (of_decide_eq_true hset) (hreread item hvisible)

theorem rereads_of_build {subject : Subject} {filter : Filter} {supply rest : Supply}
    {element : Element} (hbuild : ofFilter subject (some filter) supply = (.ok element, rest)) :
    ∀ item ∈ element.items, item.Rereads := by
  intro item hitem
  obtain ⟨seed, hoffers, hsown⟩ := sown_of_build hbuild item hitem
  exact hsown.rereads (offersOf_some.mp hoffers)

/-! ### Building again -/

/-- A tree has been built from a filter on any pool, and says something with its values. A build of
that, on any pool, is refused exactly if it negates a negation. Otherwise the tree that is built
says something with its values too: it has the same leaves in the same order, up to variables, and
is as true wherever leaves are true by keyword and values. -/
theorem reopened_of_build {subject : Subject} {filter bound : Filter} {supply rest : Supply}
    {element : Element} (hbuild : ofFilter subject (some filter) supply = (.ok element, rest))
    (hbound : element.boundFilter? = some bound) (otherSubject : Subject) (otherSupply : Supply) :
    ((∃ again otherRest,
        ofFilter otherSubject (some bound) otherSupply = (.ok again, otherRest)) ↔
          ¬ bound.NegatesTwice) ∧
      (∀ error otherRest,
        ofFilter otherSubject (some bound) otherSupply = (.error error, otherRest) →
          error = bound.refusal) ∧
      ∀ again otherRest,
        ofFilter otherSubject (some bound) otherSupply = (.ok again, otherRest) →
          ∃ rebound, again.boundFilter? = some rebound ∧
            rebound.leaves.map Leaf.anonymous = bound.leaves.map Leaf.anonymous ∧
            ∀ interpret, rebound.truth interpret = bound.truth interpret := by
  rw [boundFilter?_eq_ownFilter? (names_nodup_of_build hbuild)] at hbound
  have hreread := rereads_of_build hbuild
  have hdrawable := drawable_ownFilter? hreread hbound
  have hunwrap := Filter.unwrap_eq_self_of_drawable hdrawable
  rw [← hunwrap] at hdrawable
  refine ⟨exists_ofFilter_iff hdrawable, fun error otherRest hfails ↦ ?_,
    fun again otherRest hagain ↦ ?_⟩
  · rw [error_of_ofFilter hdrawable hfails, hunwrap]
  · have husable := isUsable_ownFilter?
      (fun item hitem ↦ hreread item (element.visibleItems_subset hitem)) hbound
    have hread : ∀ {α : Type} (reading : Reading α),
        again.boundFilter?.map reading.read = (some bound).map reading.read := fun reading ↦
      (reading.read_boundFilter? hagain).trans (reading.read_prune husable)
    obtain ⟨hnone, hsame⟩ := Reading.same_of_read hread
    obtain ⟨rebound, hrebound⟩ :=
      Option.ne_none_iff_exists'.mp fun hempty ↦ nomatch hnone.mp hempty
    exact ⟨rebound, hrebound, hsame rebound bound hrebound rfl⟩

/-- A negated alternative that keeps one of its sides says the negation of that side, and is built
again. -/
theorem reopened_of_halfSetAlternative :
    ∃ element rest bound again otherRest rebound,
      ofFilter .card (some halfSetAlternative) ⟨⟨0⟩, .empty, 0⟩ = (.ok element, rest) ∧
      element.boundFilter? = some bound ∧ ¬ bound.NegatesTwice ∧
      ofFilter .card (some bound) ⟨⟨1⟩, .empty, 0⟩ = (.ok again, otherRest) ∧
      again.boundFilter? = some rebound ∧
      rebound.leaves.map Leaf.anonymous = bound.leaves.map Leaf.anonymous ∧
      ∀ interpret, rebound.truth interpret = bound.truth interpret := by
  obtain ⟨element, rest, hbuild, hbound⟩ : ∃ element rest,
      ofFilter .card (some halfSetAlternative) ⟨⟨0⟩, .empty, 0⟩ = (.ok element, rest) ∧
        element.boundFilter? = some (.negation (.leaf
          ⟨"CardType", "Card Type", some (.list ["Vampire", "Imbued"]), some "$type",
            some (.listed ["Vampire"])⟩)) :=
    ⟨_, _, rfl, rfl⟩
  obtain ⟨hbuilds, -, hsame⟩ := reopened_of_build hbuild hbound .card ⟨⟨1⟩, .empty, 0⟩
  have honce : ¬ (Filter.negation (.leaf
      ⟨"CardType", "Card Type", some (.list ["Vampire", "Imbued"]), some "$type",
        some (.listed ["Vampire"])⟩)).NegatesTwice := by
    simp [Filter.negatesTwice_negation]
  obtain ⟨again, otherRest, hagain⟩ := hbuilds.mpr honce
  obtain ⟨rebound, hrebound, hleaves, htruth⟩ := hsame again otherRest hagain
  exact ⟨element, rest, _, again, otherRest, rebound, hbuild, hbound, honce, hagain, hrebound,
    hleaves, htruth⟩

/-- No card that is of a type yet to be selected and not unique. -/
def metNegations : Filter :=
  .wrapped (.negation (.join (.leaf (Grammar.leafOf typeKeyword (some "$var0") none)) .and
    (.negation (.leaf uniqueLeaf))))

/-- Where nothing is left of a negated box but a negated item, what the tree says is refused on
every pool of its own. -/
theorem not_reopened_of_metNegations :
    ∃ element rest bound, ofFilterAlone .card (some metNegations) ⟨0⟩ 0 = (.ok element, rest) ∧
      element.boundFilter? = some bound ∧
      (ofFilterAlone .card (some bound) ⟨1⟩ 0).1 = .error (.negatedBoxOf .negation) :=
  ⟨_, _, _, by rfl, by rfl, by rfl⟩

end Element

end CardQuery.Editor
