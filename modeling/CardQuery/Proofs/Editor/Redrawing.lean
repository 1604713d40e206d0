import CardQuery.Proofs.Editor.Contents
import CardQuery.Proofs.Editor.Effects
import CardQuery.Proofs.Names.Renewal

/-!
Trees that are drawn once more. The outline of an element wishes for the variables of unset items
only, since the others are not written down (`Element.redrawn`). Drawn again, it has the content of
the settled element, with the same variables for all items (`ofOutline_redrawn`): the items that
wished for their variables get them, and the others find the same numbers free.
-/

set_option autoImplicit false
set_option relaxedAutoImplicit false

namespace CardQuery.Editor

/-- What the item is made of again: it wishes for its variable if it is empty. -/
def Item.reseed (item : Item) : Seed :=
  ⟨item.keyword, item.description, if item.current.IsEmpty then some item.variableName else none,
    item.negated, item.shape, item.current.settled⟩

namespace Element

/-- The outline of the element, with a seed for each of its items. -/
def outlined (seedOf : Item → Seed) : Element → Outline :=
  fold (fun entry ↦ .item (seedOf entry)) fun frame parts ↦
    .box frame.connective frame.negated parts

@[simp] theorem outlined_item (seedOf : Item → Seed) (entry : Item) :
    (item entry).outlined seedOf = .item (seedOf entry) := by
  simp [outlined]

@[simp] theorem outlined_box (seedOf : Item → Seed) (frame : Frame) (children : List Element) :
    (box frame children).outlined seedOf =
      .box frame.connective frame.negated (children.map (outlined seedOf)) := by
  simp [outlined]

/-- The outline of the element, with what its items are made of again. -/
def redrawn : Element → Outline :=
  fold (fun entry ↦ .item entry.reseed) fun frame parts ↦
    .box frame.connective frame.negated parts

theorem redrawn_eq_outlined (element : Element) : element.redrawn = element.outlined Item.reseed :=
  rfl

@[simp] theorem redrawn_item (entry : Item) : (item entry).redrawn = .item entry.reseed := by
  simp [redrawn]

@[simp] theorem redrawn_box (frame : Frame) (children : List Element) :
    (box frame children).redrawn =
      .box frame.connective frame.negated (children.map redrawn) := by
  simp [redrawn]

theorem seeds_redrawn (element : Element) :
    element.redrawn.seeds = element.items.map Item.reseed := by
  induction element with
  | hitem entry => simp [Outline.seeds]
  | hbox frame children ih =>
    have hchildren : ∀ elements : List Element, elements ⊆ children →
        Outline.seedsOf (elements.map redrawn) = (elements.flatMap items).map Item.reseed := by
      intro elements hsubset
      induction elements with
      | nil => rfl
      | cons child rest ihRest =>
        rw [List.cons_subset] at hsubset
        simp only [List.map_cons, Outline.seedsOf, List.flatMap_cons, List.map_append,
          ih child hsubset.1, ihRest hsubset.2]
    rw [redrawn_box, Outline.seeds, items_box, hchildren children (List.Subset.refl _)]

/-! ### Wishes that come true -/

/-- On a pool that holds nothing yet, a name that is kept free goes to an item that wished for
it, if there is one. -/
theorem exists_item_of_wish (subject : Subject) {outline : Outline} (supply : Supply)
    (hempty : supply.pool.claimed = []) {seed : Seed} (hseed : seed ∈ outline.seeds) {name : String}
    (hwish : seed.wish = some name) (hreserved : name ∈ supply.pool.reserved) :
    ∃ entry ∈ (ofOutline subject outline supply).1.items, entry.variableName = name ∧
      ∃ own ∈ outline.seeds, own.wish = some name ∧ entry.current = own.current := by
  have hrow := row_ofOutline subject outline supply
  have hgrants := supply.pool.grants_obtainAll (outline.seeds.map Seed.wish)
  have hheld : name ∈ (supply.pool.obtainAll (outline.seeds.map Seed.wish)).2.claimed :=
    NamePool.claimed_of_obtainAll (List.mem_map.mpr ⟨seed, hseed, hwish⟩)
  rw [hgrants.claimed, hempty, hrow.names] at hheld
  obtain ⟨entry, hentry, hname⟩ : ∃ entry ∈ (ofOutline subject outline supply).1.items,
      entry.variableName = name := by
    simpa using hheld
  obtain ⟨own, hown, middle, hmiddle, rfl⟩ := hrow.exists_seed entry hentry
  have hkept : (Item.ofSeed own middle).1.variableName ∈ middle.pool.reserved := by
    rw [hmiddle, hname]
    exact hreserved
  have hwished : own.wish = some (Item.ofSeed own middle).1.variableName :=
    NamePool.wish_of_reserved hkept
  exact ⟨_, hentry, hname, own, hown, hwished.trans (congrArg some hname), rfl⟩

/-! ### The same variables -/

/-- An item that is drawn again has the name that it has, with a pool that follows the first. -/
theorem ofSeed_reseed {seed : Seed} {supply again : Supply}
    (hfollows : supply.pool.Follows again.pool)
    (hwish : ¬ seed.current.IsEmpty → seed.wish = none)
    (hfree : ¬ seed.current.IsEmpty → (supply.pool.obtain seed.wish).1 ∉ again.pool.reserved) :
    (Item.ofSeed (Item.ofSeed seed supply).1.reseed again).1.content =
        (Item.ofSeed seed supply).1.settled.content ∧
      (Item.ofSeed seed supply).2.pool.Follows
        (Item.ofSeed (Item.ofSeed seed supply).1.reseed again).2.pool := by
  obtain ⟨hname, hrest⟩ := hfollows.obtain fun hset ↦ ⟨hwish hset, hfree hset⟩
  refine ⟨?_, hrest⟩
  exact congrArg (fun name ↦ (⟨⟨0⟩, seed.keyword, seed.description, name, seed.negated, false,
    seed.shape, seed.current.settled, ⟨0⟩⟩ : Item)) hname

mutual

/-- An element that was drawn of an outline is drawn again with the same variables, if only empty
items had wishes, and nobody wishes for the variable of an item that is set. -/
theorem ofOutline_redrawn (subject : Subject) (outline : Outline) (supply again : Supply)
    (hfollows : supply.pool.Follows again.pool)
    (hwishes : ∀ seed ∈ outline.seeds, ¬ seed.current.IsEmpty → seed.wish = none)
    (hfree : ∀ entry ∈ (ofOutline subject outline supply).1.items, ¬ entry.current.IsEmpty →
      entry.variableName ∉ again.pool.reserved) :
    (ofOutline subject (ofOutline subject outline supply).1.redrawn again).1.content =
        (ofOutline subject outline supply).1.settled.content ∧
      (ofOutline subject outline supply).2.pool.Follows
        (ofOutline subject (ofOutline subject outline supply).1.redrawn again).2.pool := by
  cases outline with
  | item seed =>
    simp only [Outline.seeds, List.forall_mem_singleton] at hwishes
    simp only [ofOutline, items_item, List.forall_mem_singleton] at hfree
    obtain ⟨hcontent, hrest⟩ := ofSeed_reseed hfollows hwishes hfree
    simp only [ofOutline, redrawn_item, settled_item, content_item, hcontent]
    exact ⟨trivial, hrest⟩
  | box connective negated children =>
    simp only [Outline.seeds] at hwishes
    simp only [ofOutline, items_box] at hfree
    obtain ⟨hcontents, hrest⟩ := ofOutlines_redrawn subject children supply.identity.2
      again.identity.2 hfollows hwishes hfree
    simp only [ofOutline, redrawn_box, settled_box, content_box, hcontents]
    exact ⟨rfl, hrest⟩

theorem ofOutlines_redrawn (subject : Subject) (outlines : List Outline) (supply again : Supply)
    (hfollows : supply.pool.Follows again.pool)
    (hwishes : ∀ seed ∈ Outline.seedsOf outlines, ¬ seed.current.IsEmpty → seed.wish = none)
    (hfree : ∀ entry ∈ (ofOutlines subject outlines supply).1.flatMap items,
      ¬ entry.current.IsEmpty → entry.variableName ∉ again.pool.reserved) :
    (ofOutlines subject ((ofOutlines subject outlines supply).1.map redrawn) again).1.map content =
        ((ofOutlines subject outlines supply).1.map settled).map content ∧
      (ofOutlines subject outlines supply).2.pool.Follows
        (ofOutlines subject ((ofOutlines subject outlines supply).1.map redrawn) again).2.pool := by
  cases outlines with
  | nil => exact ⟨rfl, hfollows⟩
  | cons outline rest =>
    simp only [Outline.seedsOf, List.forall_mem_append] at hwishes
    simp only [ofOutlines, List.flatMap_cons, List.forall_mem_append] at hfree
    obtain ⟨hcontent, hmiddle⟩ := ofOutline_redrawn subject outline supply again hfollows hwishes.1
      hfree.1
    have hreserved := (ofOutline_drawn subject
      (ofOutline subject outline supply).1.redrawn again).names.reserved
    rw [← hreserved] at hfree
    obtain ⟨hcontents, hrest⟩ := ofOutlines_redrawn subject rest _ _ hmiddle hwishes.2 hfree.2
    simp only [ofOutlines, List.map_cons, hcontent, hcontents]
    exact ⟨trivial, hrest⟩

end

end Element

end CardQuery.Editor
