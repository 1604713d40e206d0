import CardQuery.Proofs.Editor.Effects

/-!
What is true of every item of a workspace. Items are made of seeds, edited, and given another
variable where they join another tree; nothing else happens to them. So what is true of new items,
and is kept by edits and by moves (`ItemInvariant`), is true of every item after every command
(`Becomes.items`).
-/

set_option autoImplicit false
set_option relaxedAutoImplicit false

namespace CardQuery.Editor

/-- What is true of an item whatever is done to it. -/
structure ItemInvariant (Holds : Item → Prop) : Prop where
  edit : ∀ {item edited : Item} {edit : ItemEdit}, Holds item → edit.apply item = .ok edited →
    Holds edited
  move : ∀ {item : Item} {name : String} {pool : PoolId}, Holds item →
    (name = item.variableName ∨ ∃ number, name = NamePool.numbered number) →
    Holds { item with variableName := name, pool }

variable {Holds : Item → Prop}

/-! ### Items that join another tree -/

theorem ItemInvariant.join (hinvariant : ItemInvariant Holds) {item : Item} (hitem : Holds item)
    (target : PoolId) (pool : NamePool) : Holds (item.join target pool).1 := by
  by_cases hsame : item.pool = target
  · have hself : item.join target pool = (item, pool) := by simp [Item.join, hsame]
    rw [hself]
    exact hitem
  · have hjoined : (item.join target pool).1 =
        { item with variableName := (pool.obtain (some item.variableName)).1, pool := target } := by
      simp [Item.join, hsame]
    rw [hjoined]
    refine hinvariant.move hitem ?_
    rcases pool.wished_or_numbered (some item.variableName) with hwished | hnumbered
    · exact .inl (Option.some.inj hwished).symm
    · exact .inr hnumbered

namespace Element

mutual

theorem join_items (hinvariant : ItemInvariant Holds) (target : PoolId) (element : Element)
    (pool : NamePool) (helement : ∀ item ∈ element.items, Holds item) :
    ∀ item ∈ (element.join target pool).1.items, Holds item := by
  cases element with
  | item entry =>
    simp only [join, items_item, List.mem_singleton, forall_eq] at helement ⊢
    exact hinvariant.join helement target pool
  | box frame children =>
    rw [join]
    split
    · exact helement
    · rw [items_box] at helement ⊢
      exact joinAll_items hinvariant target children pool helement

theorem joinAll_items (hinvariant : ItemInvariant Holds) (target : PoolId)
    (elements : List Element) (pool : NamePool)
    (helements : ∀ item ∈ elements.flatMap items, Holds item) :
    ∀ item ∈ (joinAll target elements pool).1.flatMap items, Holds item := by
  cases elements with
  | nil => simp [joinAll]
  | cons element rest =>
    simp only [List.flatMap_cons, List.forall_mem_append] at helements
    simp only [joinAll, List.flatMap_cons, List.forall_mem_append]
    exact ⟨join_items hinvariant target element pool helements.1,
      joinAll_items hinvariant target rest _ helements.2⟩

end

end Element

/-! ### Items around a place -/

/-- The items on both sides of a place. -/
def Place.items (place : Place) : List Item :=
  (place.before ++ place.after).filterMap Node.item?

theorem Place.mem_items_plug {place : Place} {element : Element} {item : Item} :
    item ∈ (place.plug element).items ↔ item ∈ element.items ∨ item ∈ place.items := by
  rw [Element.items_eq_filterMap, Element.items_eq_filterMap, place.nodes_plug, Place.items]
  simp only [List.filterMap_append, List.mem_append]
  tauto

/-- A tree is made of what stands at the place and what stands around it. -/
theorem Place.forall_items_plug {place : Place} {element : Element} :
    (∀ item ∈ (place.plug element).items, Holds item) ↔
      (∀ item ∈ element.items, Holds item) ∧ ∀ item ∈ place.items, Holds item := by
  simp only [Place.mem_items_plug, or_imp, forall_and]

namespace Workspace

variable {workspace after : Workspace} {Offered : Seed → Prop}

theorem forall_items_of_tree? {name : String} {root : Element}
    (hitems : ∀ item ∈ workspace.items, Holds item)
    (htree : workspace.tree? name = some root) : ∀ item ∈ root.items, Holds item :=
  fun item hitem ↦ hitems item (List.mem_flatMap_of_mem (mem_trees_of_tree? htree) hitem)

theorem forall_items_dropTree (hitems : ∀ item ∈ workspace.items, Holds item) (name : String) :
    ∀ item ∈ (workspace.dropTree name).items, Holds item := by
  intro item hitem
  obtain ⟨tree, htree, hinside⟩ := List.mem_flatMap.mp hitem
  exact hitems item (List.mem_flatMap_of_mem (List.mem_filter.mp htree).1 hinside)

theorem forall_items_setTree (hitems : ∀ item ∈ workspace.items, Holds item) {element : Element}
    (helement : ∀ item ∈ element.items, Holds item) (name : String) :
    ∀ item ∈ (workspace.setTree name element).items, Holds item := by
  have hsplit : (workspace.setTree name element).items =
      element.items ++ (workspace.dropTree name).items := rfl
  rw [hsplit, List.forall_mem_append]
  exact ⟨helement, forall_items_dropTree hitems name⟩

/-- A change at a place of a tree, where what comes to stand there is as it should be. -/
theorem forall_items_change (hitems : ∀ item ∈ workspace.items, Holds item) {tree : String}
    {place : Place} {member changed : Element}
    (hroot : workspace.tree? tree = some (place.plug member))
    (hchanged : (∀ item ∈ member.items, Holds item) → ∀ item ∈ changed.items, Holds item) :
    ∀ item ∈ (place.plug changed).items, Holds item := by
  have hplug := forall_items_of_tree? hitems hroot
  rw [Place.forall_items_plug] at hplug ⊢
  exact ⟨hchanged hplug.1, hplug.2⟩

theorem forall_items_attach (hinvariant : ItemInvariant Holds)
    (hitems : ∀ item ∈ workspace.items, Holds item) {tree child : String} {place : Place}
    {frame : Frame} {children : List Element} {element : Element} {pool : NamePool} {index : Nat}
    (hroot : workspace.tree? tree = some (place.plug (.box frame children)))
    (hchild : workspace.tree? child = some element) (hindex : index ≤ children.length) :
    ∀ item ∈ (((workspace.dropTree child).setPool frame.pool
      (element.join frame.pool pool).2).setTree tree (place.plug (.box frame
        (children.insertIdx index (element.join frame.pool pool).1)))).items, Holds item := by
  have hjoined := element.join_items hinvariant frame.pool pool
    (forall_items_of_tree? hitems hchild)
  have hperm := (List.perm_insertIdx (element.join frame.pool pool).1 children
    hindex).flatMap_right Element.items
  have hothers : ∀ item ∈ ((workspace.dropTree child).setPool frame.pool
      (element.join frame.pool pool).2).items, Holds item :=
    forall_items_dropTree hitems child
  refine forall_items_setTree hothers (forall_items_change hitems hroot fun hmember ↦ ?_) tree
  rw [Element.items_box] at hmember ⊢
  intro item hitem
  rw [hperm.mem_iff, List.flatMap_cons, List.mem_append] at hitem
  rcases hitem with hmoved | hstayed
  · exact hjoined item hmoved
  · exact hmember item hstayed

theorem forall_items_detach (hitems : ∀ item ∈ workspace.items, Holds item) {tree : String}
    {place : Place} {frame : Frame} {before after : List Element} {child : Element}
    (hroot : workspace.tree? tree = some (place.plug (.box frame (before ++ child :: after))))
    (keepAs : Option String) :
    ∀ item ∈ ((workspace.setTree tree (place.plug (.box frame (before ++ after)))).keep
      (some child) keepAs).items, Holds item := by
  have hroots := forall_items_of_tree? hitems hroot
  rw [Place.forall_items_plug, Element.items_box, List.flatMap_append, List.flatMap_cons,
    List.forall_mem_append, List.forall_mem_append] at hroots
  obtain ⟨⟨hbefore, hchild, hafter⟩, haround⟩ := hroots
  have htree : ∀ item ∈ (workspace.setTree tree
      (place.plug (.box frame (before ++ after)))).items, Holds item := by
    refine forall_items_setTree hitems ?_ tree
    rw [Place.forall_items_plug, Element.items_box, List.flatMap_append, List.forall_mem_append]
    exact ⟨⟨hbefore, hafter⟩, haround⟩
  cases keepAs with
  | none => exact htree
  | some name => exact forall_items_setTree htree hchild name

theorem Effect.items (hinvariant : ItemInvariant Holds)
    (hsown : ∀ item seed, Offered seed → item.Sown seed → Holds item)
    (hitems : ∀ item ∈ workspace.items, Holds item) (heffect : workspace.Effect Offered after) :
    ∀ item ∈ after.items, Holds item := by
  have hnew : ∀ element : Element,
      (∀ item ∈ element.items, ∃ seed, Offered seed ∧ item.Sown seed) →
        ∀ item ∈ element.items, Holds item := by
    intro element hseeds item hitem
    obtain ⟨seed, hoffered, hseed⟩ := hseeds item hitem
    exact hsown item seed hoffered hseed
  cases heffect with
  | plant hpool hdrawn hseeds =>
    exact forall_items_setTree hitems (hnew _ hseeds) _
  | editBox hroot =>
    refine forall_items_setTree hitems (forall_items_change hitems hroot fun hmember ↦ ?_) _
    rw [Element.items_box] at hmember ⊢
    exact hmember
  | editItem hroot hedit =>
    refine forall_items_setTree hitems (forall_items_change hitems hroot fun hmember ↦ ?_) _
    simp only [Element.items_item, List.mem_singleton, forall_eq] at hmember ⊢
    exact hinvariant.edit hmember hedit
  | addChild hroot hpool hdrawn hseeds =>
    refine forall_items_setTree hitems (forall_items_change hitems hroot fun hmember ↦ ?_) _
    rw [Element.items_box] at hmember ⊢
    rw [List.flatMap_append, List.forall_mem_append]
    exact ⟨hmember, by simpa using hnew _ hseeds⟩
  | attach hroot hother hchild hpool hindex =>
    exact forall_items_attach hinvariant hitems hroot hchild hindex
  | detach hroot => exact forall_items_detach hitems hroot _

/-- What is true of new items, and kept, is true of all items after a command. -/
theorem Becomes.items (hinvariant : ItemInvariant Holds)
    (hsown : ∀ item seed, Offered seed → item.Sown seed → Holds item)
    (hitems : ∀ item ∈ workspace.items, Holds item) (hbecomes : workspace.Becomes Offered after) :
    ∀ item ∈ after.items, Holds item := by
  obtain ⟨middle, hgrows, hend⟩ := hbecomes
  have hmiddle : ∀ item ∈ middle.items, Holds item := by
    rw [Workspace.items, hgrows.trees]
    exact hitems
  rcases hend with heq | heffect
  · exact heq ▸ hmiddle
  · exact heffect.items hinvariant hsown hmiddle

end Workspace

end CardQuery.Editor
