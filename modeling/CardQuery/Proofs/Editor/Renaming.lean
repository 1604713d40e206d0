import CardQuery.Proofs.Editor.Contents
import CardQuery.Proofs.Editor.Drawing
import CardQuery.Proofs.Editor.OwnValues
import CardQuery.Proofs.Names.Collisions

/-!
Elements with other variables. A renamed element is the element on another pool and with a change of
its variables (`Element.rename`), and it says with its values what the element has said, with the
same change of variables (`boundFilter?_rename`). Joining a pool is a renaming of this kind: the
variables become those that the pool grants to the row of them (`join_eq_rename`), and where they
differ the renaming is one to one (`exists_rename_of_join`).
-/

set_option autoImplicit false
set_option relaxedAutoImplicit false

namespace CardQuery

/-- The leaf with another variable in place of its own. -/
def Leaf.rename (rename : String → String) (leaf : Leaf) : Leaf :=
  { leaf with variableName := leaf.variableName.map rename }

/-- The filter with other variables in its leaves. -/
def Filter.rename (rename : String → String) (filter : Filter) : Filter :=
  filter.mapLeaves (Leaf.rename rename)

namespace Editor

/-- The item on another pool with another variable. -/
def Item.rename (target : PoolId) (rename : String → String) (item : Item) : Item :=
  { item with variableName := rename item.variableName, pool := target }

theorem Item.join_eq_rename {target : PoolId} {change : String → String} {entry : Item}
    {pool : NamePool} (hother : entry.pool ≠ target)
    (hname : change entry.variableName = (pool.obtain (some entry.variableName)).1) :
    entry.join target pool =
      (entry.rename target change, (pool.obtain (some entry.variableName)).2) := by
  simp only [join, if_neg hother, rename, hname]

namespace Element

/-- The element on another pool with other variables, all else as it was. -/
def rename (target : PoolId) (rename : String → String) : Element → Element :=
  map (Item.rename target rename) fun frame ↦ { frame with pool := target }

variable (target : PoolId) (change : String → String)

@[simp] theorem rename_item (entry : Item) :
    (item entry).rename target change = item (entry.rename target change) :=
  map_item ..

@[simp] theorem rename_box (frame : Frame) (children : List Element) :
    (box frame children).rename target change =
      box { frame with pool := target } (children.map (rename target change)) :=
  map_box ..

theorem items_rename (element : Element) :
    (element.rename target change).items = element.items.map (Item.rename target change) := by
  induction element with
  | hitem entry => simp
  | hbox frame children ih =>
    rw [rename_box, items_box, items_box, List.flatMap_map, List.map_flatMap]
    exact List.flatMap_congr ih

theorem names_rename (element : Element) :
    (element.rename target change).items.map Item.variableName =
      (element.items.map Item.variableName).map change := by
  rw [items_rename, List.map_map, List.map_map]
  rfl

/-! ### What a renamed element says -/

theorem ownFilter?_rename (element : Element) :
    (element.rename target change).ownFilter? = element.ownFilter?.map (Filter.rename change) := by
  induction element with
  | hitem entry =>
    rw [rename_item, ownFilter?_item, ownFilter?_item]
    change (if entry.disabled ∨ entry.current.IsEmpty then none else _) = _
    unfold Item.ownFilter?
    split
    · rfl
    · simp only [Option.map_some, Filter.rename, mapLeaves_negateIf, Filter.mapLeaves]
      rfl
  | hbox frame children ih =>
    rw [rename_box, ownFilter?_box, ownFilter?_box]
    change frame.filter? _ = (frame.filter? _).map (Filter.mapLeaves (Leaf.rename change))
    rw [Frame.filter?_mapLeaves, List.map_map, List.map_map]
    exact congrArg frame.filter? (List.map_congr_left ih)

/-- Where the variables differ before and after, each leaf keeps the values it had. -/
theorem boundFilter?_rename {element : Element}
    (hnodup : (element.items.map Item.variableName).Nodup)
    (hrenamed : ((element.items.map Item.variableName).map change).Nodup) :
    (element.rename target change).boundFilter? =
      element.boundFilter?.map (Filter.rename change) := by
  rw [← names_rename target] at hrenamed
  rw [boundFilter?_eq_ownFilter? hrenamed, boundFilter?_eq_ownFilter? hnodup, ownFilter?_rename]

/-! ### Joining a pool -/

variable {target change}

mutual

/-- An element of another pool takes the names that the pool grants to the row of its own. -/
theorem join_eq_rename {element : Element} {pool : NamePool}
    (hother : ∀ node ∈ element.nodes, node.pool ≠ target)
    (hnames : (element.items.map Item.variableName).map change =
      (pool.obtainAll ((element.items.map Item.variableName).map some)).1) :
    element.join target pool = (element.rename target change,
      (pool.obtainAll ((element.items.map Item.variableName).map some)).2) := by
  cases element with
  | item entry =>
    have hentry : entry.pool ≠ target := hother (.item entry) (by simp)
    have hname : change entry.variableName = (pool.obtain (some entry.variableName)).1 := by
      simpa using hnames
    simp [join, Item.join_eq_rename hentry hname]
  | box frame children =>
    simp only [nodes_box, List.mem_cons, forall_eq_or_imp] at hother
    have hframe : frame.pool ≠ target := hother.1
    rw [items_box] at hnames ⊢
    rw [join, if_neg hframe, joinAll_eq_rename hother.2 hnames, rename_box]

theorem joinAll_eq_rename {elements : List Element} {pool : NamePool}
    (hother : ∀ node ∈ elements.flatMap nodes, node.pool ≠ target)
    (hnames : ((elements.flatMap items).map Item.variableName).map change =
      (pool.obtainAll (((elements.flatMap items).map Item.variableName).map some)).1) :
    joinAll target elements pool = (elements.map (rename target change),
      (pool.obtainAll (((elements.flatMap items).map Item.variableName).map some)).2) := by
  cases elements with
  | nil => rfl
  | cons element rest =>
    simp only [List.flatMap_cons, List.forall_mem_append, List.map_append,
      NamePool.obtainAll_append] at hother hnames ⊢
    -- Each element takes as many names of the row as it has items.
    obtain ⟨hfirst, hrest⟩ := List.append_inj hnames (by simp [NamePool.length_obtainAll])
    simp only [joinAll, join_eq_rename hother.1 hfirst, joinAll_eq_rename hother.2 hrest,
      List.map_cons]

end

/-- An element whose variables differ joins another pool by a renaming that is one to one. -/
theorem exists_rename_of_join {element : Element} (pool : NamePool)
    (hother : ∀ node ∈ element.nodes, node.pool ≠ target)
    (hnodup : (element.items.map Item.variableName).Nodup) :
    ∃ change : String → String,
      (element.items.map Item.variableName).map change =
        (pool.obtainAll ((element.items.map Item.variableName).map some)).1 ∧
      ((element.items.map Item.variableName).map change).Nodup ∧
      element.join target pool = (element.rename target change,
        (pool.obtainAll ((element.items.map Item.variableName).map some)).2) := by
  have hlength : (pool.obtainAll ((element.items.map Item.variableName).map some)).1.length =
      (element.items.map Item.variableName).length := by
    rw [NamePool.length_obtainAll, List.length_map]
  have hgranted := NamePool.map_renamed hnodup hlength
  refine ⟨_, hgranted, ?_, join_eq_rename hother hgranted⟩
  rw [hgranted]
  exact (pool.grants_obtainAll _).nodup

end Element

end Editor

end CardQuery
