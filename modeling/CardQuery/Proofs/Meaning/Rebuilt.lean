import CardQuery.Proofs.Meaning.Reopened

/-!
Trees that are built again as they are. An item is kept if another one is made of it that wishes for
its variable and holds its values (`Item.kept`). On a pool that holds no variable of a tree, all
these wishes come true, since the variables differ, and the outline of the tree is drawn with the
same content (`ofOutline_kept`). If no item of a tree that has been built is unset, what the tree
says with its values has this outline, so building it gives the tree again (`rebuilt_of_set`).
-/

set_option autoImplicit false
set_option relaxedAutoImplicit false

namespace CardQuery.Editor

/-! ### Items -/

/-- What the item is made of with its variable and its values. -/
def Item.kept (item : Item) : Seed :=
  ⟨item.keyword, item.description, some item.variableName, item.negated, item.shape,
    item.current⟩

theorem Item.says_own {item : Item} (hset : ¬ item.current.IsEmpty) (hreread : item.Rereads) :
    item.Says Item.ownFilter? Item.kept :=
  fun henabled ↦ ⟨item.ownLeaf, by simp [ownFilter?, henabled, hset],
    Item.ofLeaf_ownLeaf hset hreread item.negated⟩

/-- An item that is kept has its variable, if nobody holds it. -/
theorem content_ofSeed_kept {item : Item} {again : Supply} (henabled : item.disabled = false)
    (hfree : item.variableName ∉ again.pool.claimed) :
    (Item.ofSeed item.kept again).1.content = item.content := by
  simp [Item.ofSeed, Supply.name, Supply.identity, Item.kept, Item.content,
    NamePool.obtain_of_notMem hfree, henabled]

namespace Element

/-! ### Drawing the outline of what has been drawn -/

section Drawing

variable (subject : Subject)

mutual

theorem ofOutline_kept (outline : Outline) (supply again : Supply)
    (hfree : ∀ entry ∈ (ofOutline subject outline supply).1.items,
      entry.variableName ∉ again.pool.claimed) :
    (ofOutline subject ((ofOutline subject outline supply).1.outlined Item.kept) again).1.content =
      (ofOutline subject outline supply).1.content := by
  cases outline with
  | item seed =>
    simp only [ofOutline, items_item, List.forall_mem_singleton] at hfree
    simp only [ofOutline, outlined_item, content_item]
    exact congrArg item (content_ofSeed_kept rfl hfree)
  | box connective negated children =>
    simp only [ofOutline, items_box] at hfree
    have hchildren := ofOutlines_kept children supply.identity.2 again.identity.2 hfree
    simp only [ofOutline, outlined_box, content_box, hchildren]
    rfl

theorem ofOutlines_kept (outlines : List Outline) (supply again : Supply)
    (hfree : ∀ entry ∈ (ofOutlines subject outlines supply).1.flatMap items,
      entry.variableName ∉ again.pool.claimed) :
    (ofOutlines subject ((ofOutlines subject outlines supply).1.map (outlined Item.kept))
        again).1.map content =
      (ofOutlines subject outlines supply).1.map content := by
  cases outlines with
  | nil => rfl
  | cons outline rest =>
    simp only [ofOutlines, List.flatMap_cons, List.forall_mem_append] at hfree
    have hfirst := ofOutline_kept outline supply again hfree.1
    have hgrants := (ofOutline_drawn subject outline supply).names
    have hagain := (ofOutline_drawn subject
      ((ofOutline subject outline supply).1.outlined Item.kept) again).names
    have hlater := (ofOutlines_drawn subject rest (ofOutline subject outline supply).2).names
    -- The variables of the first element are held on both pools, and the others differ from them.
    have hrest : ∀ entry ∈ (ofOutlines subject rest (ofOutline subject outline supply).2).1.flatMap
        items, entry.variableName ∉ (ofOutline subject
          ((ofOutline subject outline supply).1.outlined Item.kept) again).2.pool.claimed := by
      intro entry hentry hheld
      rw [hagain.claimed, Node.names_nodes, names_congr hfirst] at hheld
      rcases hheld with hsame | hbefore
      · refine hlater.fresh entry.variableName ?_ ?_
        · rw [Node.names_flatMap_nodes]
          exact List.mem_map_of_mem hentry
        · rw [hgrants.claimed, Node.names_nodes]
          exact .inl hsame
      · exact hfree.2 entry hentry hbefore
    simp only [ofOutlines, List.map_cons, hfirst, ofOutlines_kept rest _ _ hrest]

end

end Drawing

/-! ### Building again -/

/-- A tree has been built from a filter on any pool, and no item of it is unset. Then what it says
with its values is built again on a pool of its own, and gives the same boxes and the same items
with the same variables and values, in the same order, which say the same. -/
theorem rebuilt_of_set {subject : Subject} {filter : Filter} {supply rest : Supply}
    {element : Element} (hbuild : ofFilter subject (some filter) supply = (.ok element, rest))
    (hset : ∀ entry ∈ element.items, ¬ entry.current.IsEmpty) (otherPool : PoolId)
    (otherNext : Nat) :
    ∃ bound rebuilt otherRest, element.boundFilter? = some bound ∧
      ofFilterAlone subject (some bound) otherPool otherNext = (.ok rebuilt, otherRest) ∧
      rebuilt.content = element.content ∧ rebuilt.boundFilter? = some bound := by
  have hreread := rereads_of_build hbuild
  obtain ⟨bound, hown, houtline⟩ := (flatRoot_of_build hbuild).ofFilter_outlined
    fun entry hentry ↦ Item.says_own (hset entry hentry) (hreread entry hentry)
  have hbound : element.boundFilter? = some bound :=
    (boundFilter?_eq_ownFilter? (names_nodup_of_build hbuild)).trans hown
  obtain ⟨outline, -, hdrawn⟩ := ofFilter_eq_ok hbuild
  have hcontent : (ofOutline subject (element.outlined Item.kept)
      ⟨otherPool, reservedPool (some bound), otherNext⟩).1.content = element.content := by
    have hkept := ofOutline_kept subject outline supply
      ⟨otherPool, reservedPool (some bound), otherNext⟩ fun _ _ ↦ List.not_mem_nil
    rwa [hdrawn] at hkept
  refine ⟨bound, _, _, hbound, by simp only [ofFilterAlone, ofFilter, houtline]; rfl, hcontent, ?_⟩
  rw [boundFilter?_congr hcontent, hbound]

/-- Leaves of one variable inside and outside a negated alternative. One of them lists the wildcard
next to an origin. -/
def variableTwice : Filter :=
  .wrapped (.join
    (.negation (.join
      (.leaf (Grammar.leafOf typeKeyword (some "$type") (some (.listed ["Vampire"]))))
      .or
      (.negation (.leaf uniqueLeaf))))
    .and
    (.leaf (Grammar.leafOf countKeyword (some "$type")
      (some (.sourced (.among ["1", "-1"]) (.among ["", "Core"]))))))

theorem rebuilt_of_variableTwice :
    ∃ element rest bound rebuilt otherRest,
      ofFilterAlone .card (some variableTwice) ⟨0⟩ 0 = (.ok element, rest) ∧
      element.items.map Item.variableName = ["$type", "$var0", "$var1"] ∧
      element.boundFilter? = some bound ∧
      ofFilterAlone .card (some bound) ⟨1⟩ 0 = (.ok rebuilt, otherRest) ∧
      rebuilt.content = element.content ∧ rebuilt.boundFilter? = some bound := by
  obtain ⟨element, rest, hbuild, hnames, hset⟩ : ∃ element rest,
      ofFilterAlone .card (some variableTwice) ⟨0⟩ 0 = (.ok element, rest) ∧
        element.items.map Item.variableName = ["$type", "$var0", "$var1"] ∧
        ∀ entry ∈ element.items, ¬ entry.current.IsEmpty :=
    ⟨_, _, rfl, by decide +kernel, by decide +kernel⟩
  obtain ⟨bound, rebuilt, otherRest, hrebuilt⟩ := rebuilt_of_set hbuild hset ⟨1⟩ 0
  exact ⟨element, rest, bound, rebuilt, otherRest, hbuild, hnames, hrebuilt⟩

end Element

end CardQuery.Editor
