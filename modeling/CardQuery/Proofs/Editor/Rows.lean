import CardQuery.Editor.Build
import CardQuery.Proofs.Editor.Place
import CardQuery.Proofs.Names.Rows

/-!
The items of a tree as a row. However a tree is nested, its items are made of the seeds of its
outline one after another (`Element.row_ofOutline`), so their names are what the pool grants to the
row of wishes (`Item.Row.names`).
-/

set_option autoImplicit false
set_option relaxedAutoImplicit false

namespace CardQuery.Editor

@[simp] theorem Item.variableName_ofSeed (seed : Seed) (supply : Supply) :
    (ofSeed seed supply).1.variableName = (supply.pool.obtain seed.wish).1 := rfl

@[simp] theorem Item.pool_ofSeed (seed : Seed) (supply : Supply) :
    (ofSeed seed supply).2.pool = (supply.pool.obtain seed.wish).2 := rfl

/-- The items have been made of the seeds, from left to right, with names of the one pool, which has
become the other. -/
inductive Item.Row : NamePool → List Seed → List Item → NamePool → Prop
  | nil (pool : NamePool) : Row pool [] [] pool
  | cons {supply : Supply} {seed : Seed} {seeds : List Seed} {items : List Item} {after : NamePool}
      (hrest : Row (Item.ofSeed seed supply).2.pool seeds items after) :
      Row supply.pool (seed :: seeds) ((Item.ofSeed seed supply).1 :: items) after

namespace Item.Row

variable {before middle after : NamePool} {seeds others : List Seed} {items moreItems : List Item}

theorem append (hfirst : Row before seeds items middle)
    (hsecond : Row middle others moreItems after) :
    Row before (seeds ++ others) (items ++ moreItems) after := by
  induction hfirst with
  | nil => exact hsecond
  | cons _ ih => exact .cons (ih hsecond)

theorem names (hrow : Row before seeds items after) :
    before.obtainAll (seeds.map Seed.wish) = (items.map Item.variableName, after) := by
  induction hrow with
  | nil => rfl
  | cons _ ih =>
    rw [pool_ofSeed] at ih
    simp only [List.map_cons, NamePool.obtainAll_cons, ih, variableName_ofSeed]

/-- What is said of items is said of their seeds, where it is so for each item when it is made. -/
theorem map_eq {α : Type} {onItem : Item → α} {onSeed : Seed → α}
    (hmade : ∀ seed supply, onItem (ofSeed seed supply).1 = onSeed seed)
    (hrow : Row before seeds items after) : items.map onItem = seeds.map onSeed := by
  induction hrow with
  | nil => rfl
  | cons _ ih => rw [List.map_cons, List.map_cons, hmade, ih]

/-- Each item has been made of one of the seeds, with a pool that keeps the same names free. -/
theorem exists_seed (hrow : Row before seeds items after) :
    ∀ item ∈ items, ∃ seed ∈ seeds, ∃ supply : Supply,
      supply.pool.reserved = before.reserved ∧ item = (Item.ofSeed seed supply).1 := by
  induction hrow with
  | nil => simp
  | @cons supply own seeds items after _ ih =>
    intro item hitem
    rcases List.mem_cons.mp hitem with rfl | hlater
    · exact ⟨own, List.mem_cons_self, supply, rfl, rfl⟩
    · obtain ⟨seed, hseed, between, hreserved, hmade⟩ := ih item hlater
      have hkept := (supply.pool.grants_obtain own.wish).reserved
      exact ⟨seed, List.mem_cons_of_mem _ hseed, between, hreserved.trans hkept, hmade⟩

end Item.Row

namespace Element

mutual

/-- The items of a tree are made of the seeds of its outline. -/
theorem row_ofOutline (subject : Subject) (outline : Outline) (supply : Supply) :
    Item.Row supply.pool outline.seeds (ofOutline subject outline supply).1.items
      (ofOutline subject outline supply).2.pool := by
  cases outline with
  | item seed =>
    simp only [Outline.seeds, ofOutline, items_item]
    exact .cons (.nil _)
  | box connective negated children =>
    simp only [Outline.seeds, ofOutline, items_box]
    exact row_ofOutlines subject children supply.identity.2

theorem row_ofOutlines (subject : Subject) (outlines : List Outline) (supply : Supply) :
    Item.Row supply.pool (Outline.seedsOf outlines)
      ((ofOutlines subject outlines supply).1.flatMap items)
      (ofOutlines subject outlines supply).2.pool := by
  cases outlines with
  | nil => exact .nil _
  | cons outline rest =>
    simp only [Outline.seedsOf, ofOutlines, List.flatMap_cons]
    exact (row_ofOutline subject outline supply).append (row_ofOutlines subject rest _)

end

end Element

end CardQuery.Editor
