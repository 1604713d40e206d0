import Mathlib.Data.List.InsertIdx
import CardQuery.Proofs.Editor.AtPlaces
import CardQuery.Proofs.Editor.BoundLeaves
import CardQuery.Proofs.Editor.Renaming

/-!
Trees that come from another pool. The whole tree is moved into a box, and its variables become
those that the pool of the box grants to them (`exists_graft`). What stood around it stays as it
was, the tree itself is renamed one to one, and what it says with its values is put in where it
stands (`Grafted`, `grafted_of_run`). A variable that the pool did not use changes all the same if
an item before it in the tree has just been given it (`renamed_of_graft`); the pool then has two
more variables in use where one would have been enough (`renamed_of_rivals`).
-/

set_option autoImplicit false
set_option relaxedAutoImplicit false

namespace CardQuery.Editor

/-! ### What is said around a place -/

/-- What a tree says with its values, if this is said at the place. -/
def Place.boundFilter? : Place → Option Filter → Option Filter
  | [], part => part
  | layer :: inner, part =>
    layer.frame.filter? (layer.before.map Element.boundFilter? ++
      boundFilter? inner part :: layer.after.map Element.boundFilter?)

theorem Place.boundFilter?_plug {place : Place} {element : Element}
    (hnodup : ((place.plug element).items.map Item.variableName).Nodup) :
    (place.plug element).boundFilter? = place.boundFilter? element.boundFilter? := by
  induction place with
  | nil => rfl
  | cons layer inner ih =>
    have hinside : plug inner element ∈ (plug (layer :: inner) element).all :=
      Element.mem_all_box (by simp) (Element.mem_all_self _)
    have hinner := hnodup.sublist ((Element.items_sublist hinside).map Item.variableName)
    rw [plug] at hnodup ⊢
    rw [Element.boundFilter?_box hnodup, List.map_append, List.map_cons, ih hinner]
    rfl

theorem Frame.leaves_sublist {frame : Frame} {parts more : List (Option Filter)}
    (hparts : (parts.flatMap leavesOf).Sublist (more.flatMap leavesOf)) :
    (leavesOf (frame.filter? parts)).Sublist (leavesOf (frame.filter? more)) := by
  rw [Frame.leavesOf_filter?, Frame.leavesOf_filter?]
  split
  · exact .refl _
  · exact hparts

/-- Leaves that are added at a place are added to those of the tree. -/
theorem Place.leaves_sublist {place : Place} {part more : Option Filter}
    (hparts : (leavesOf part).Sublist (leavesOf more)) :
    (leavesOf (place.boundFilter? part)).Sublist (leavesOf (place.boundFilter? more)) := by
  induction place with
  | nil => exact hparts
  | cons layer inner ih =>
    refine Frame.leaves_sublist ?_
    simp only [List.flatMap_append, List.flatMap_cons]
    exact (ih.append_right _).append_left _

/-! ### Moving a tree into a box of another pool -/

/-- An element of another pool has come to stand at the index in the box at the place. All around
it is as it was, and the element is as it was but for its pool and its variables, which have been
changed one to one. With its values it says what it has said, with the same change of variables, and
the tree says this on top of what it has said, at the index, and has kept all its leaves. -/
structure Grafted (place : Place) (frame : Frame) (children : List Element) (index : Nat)
    (element grown : Element) (change : String → String) : Prop where
  injective : Set.InjOn change {name | name ∈ element.items.map Item.variableName}
  tree : grown =
    place.plug (.box frame (children.insertIdx index (element.rename frame.pool change)))
  contribution : (element.rename frame.pool change).boundFilter? =
    element.boundFilter?.map (Filter.rename change)
  before : (place.plug (.box frame children)).boundFilter? =
    place.boundFilter? (frame.filter? (children.map Element.boundFilter?))
  after : grown.boundFilter? = place.boundFilter? (frame.filter?
    ((children.map Element.boundFilter?).insertIdx index
      (element.boundFilter?.map (Filter.rename change))))
  leaves : (leavesOf (place.plug (.box frame children)).boundFilter?).Sublist
    (leavesOf grown.boundFilter?)

theorem grafted {place : Place} {frame : Frame} {children : List Element} {index : Nat}
    {element : Element} {change : String → String}
    (hnodup : (element.items.map Item.variableName).Nodup)
    (hchanged : ((element.items.map Item.variableName).map change).Nodup)
    (hbefore : ((place.plug (.box frame children)).items.map Item.variableName).Nodup)
    (hafter : ((place.plug (.box frame (children.insertIdx index
      (element.rename frame.pool change)))).items.map Item.variableName).Nodup) :
    Grafted place frame children index element
      (place.plug (.box frame (children.insertIdx index (element.rename frame.pool change))))
      change := by
  have hbox : ∀ {inside : List Element},
      ((place.plug (.box frame inside)).items.map Item.variableName).Nodup →
        (place.plug (.box frame inside)).boundFilter? =
          place.boundFilter? (frame.filter? (inside.map Element.boundFilter?)) := by
    intro inside hinside
    have hmember := place.mem_all_plug (Element.mem_all_self (.box frame inside))
    have hnames := hinside.sublist ((Element.items_sublist hmember).map Item.variableName)
    rw [Place.boundFilter?_plug hinside, Element.boundFilter?_box hnames]
  have hcontribution := Element.boundFilter?_rename frame.pool change hnodup hchanged
  have hgrown := hbox hafter
  rw [List.map_insertIdx, hcontribution] at hgrown
  refine ⟨NamePool.injOn_of_map_nodup hchanged, rfl, hcontribution, hbox hbefore, hgrown, ?_⟩
  rw [hbox hbefore, hgrown]
  exact Place.leaves_sublist
    (Frame.leaves_sublist ((List.sublist_insertIdx _ index _).flatMap leavesOf))

namespace Workspace

variable {workspace : Workspace} {tree other : String} {root element : Element} {frame : Frame}
  {children : List Element}

theorem tree?_dropTree_self (workspace : Workspace) (name : String) :
    (workspace.dropTree name).tree? name = none := by
  simpa [tree?, dropTree] using fun label _ _ hlabel hname ↦ hlabel hname.symm

/-- A tree on another pool can be moved into a box. It takes the names that the pool of the box
grants to it, at the place of the box it is one child more, and no other tree changes. -/
theorem exists_graft (htidy : workspace.Tidy) (hstocked : workspace.Stocked)
    (hroot : workspace.tree? tree = some root) (hbox : .box frame children ∈ root.all)
    (helement : workspace.tree? other = some element) (hpool : element.pool ≠ frame.pool)
    (index : Option Nat) :
    ∃ (place : Place) (pool : NamePool) (change : String → String) (after : Workspace),
      root = place.plug (.box frame children) ∧
      workspace.pools[frame.pool.number]? = some pool ∧
      (element.items.map Item.variableName).map change =
        (pool.obtainAll ((element.items.map Item.variableName).map some)).1 ∧
      ((element.items.map Item.variableName).map change).Nodup ∧
      workspace.perform (.attach tree frame.id other index) = (.ok .done, after) ∧
      after.tree? tree = some (place.plug (.box frame
        (children.insertIdx (min (index.getD children.length) children.length)
          (element.rename frame.pool change)))) ∧
      ∀ name, name ≠ tree →
        after.tree? name = if name = other then none else workspace.tree? name := by
  obtain ⟨place, rfl⟩ := Element.exists_place hbox
  have hframe : frame.pool = (place.plug (.box frame children)).pool :=
    htidy.pool_eq (mem_trees_of_tree? hroot) hbox
  -- The tree is another one, because everything in the tree of the box is on its pool.
  have hother : other ≠ tree := by
    rintro rfl
    rw [hroot, Option.some.injEq] at helement
    exact hpool (helement ▸ hframe.symm)
  obtain ⟨pool, hheld⟩ := hstocked.exists_pool hroot
  rw [← hframe] at hheld
  have honPool : ∀ node ∈ element.nodes, node.pool ≠ frame.pool := by
    obtain ⟨common, hcommon⟩ := htidy.onePool_of_tree? helement
    have hself : element.pool = common := element.pool_root ▸ hcommon _ element.root_mem_nodes
    exact fun node hnode ↦ (hcommon node hnode).trans hself.symm ▸ hpool
  have hnodup := htidy.names_nodup (mem_trees_of_tree? helement)
  obtain ⟨change, hgranted, hchanged, hjoined⟩ :=
    Element.exists_rename_of_join pool honPool hnodup
  have hattach := attachTree_plug htidy.settled.ids hroot hother helement hheld index
  rw [hjoined] at hattach
  refine ⟨place, pool, change, _, rfl, hheld, hgranted, hchanged, hattach, ?_, fun name hname ↦ ?_⟩
  · exact tree?_setTree_self ..
  · rw [tree?_setTree, if_neg hname]
    change (workspace.dropTree other).tree? name = _
    by_cases hmoved : name = other
    · rw [if_pos hmoved, hmoved, tree?_dropTree_self]
    · rw [if_neg hmoved, tree?_dropTree (Ne.symm hmoved)]

/-- Whatever has been done, a tree on another pool can be moved into any box of any tree. It is
grafted there, and no other tree changes. -/
theorem grafted_of_run (commands : List Command)
    (hroot : (empty.run commands).tree? tree = some root) (hbox : .box frame children ∈ root.all)
    (helement : (empty.run commands).tree? other = some element)
    (hpool : element.pool ≠ frame.pool) (index : Option Nat) :
    ∃ (place : Place) (grown : Element) (change : String → String) (after : Workspace),
      root = place.plug (.box frame children) ∧
      (empty.run commands).perform (.attach tree frame.id other index) = (.ok .done, after) ∧
      after.tree? tree = some grown ∧
      (∀ name, name ≠ tree → after.tree? name =
        if name = other then none else (empty.run commands).tree? name) ∧
      Grafted place frame children (min (index.getD children.length) children.length) element
        grown change := by
  have htidy := tidy_empty.run commands
  have hstocked := stocked_empty.run tidy_empty commands
  obtain ⟨place, pool, change, after, rfl, -, -, hchanged, hattach, hgrown, hothers⟩ :=
    exists_graft htidy hstocked hroot hbox helement hpool index
  have hafter := htidy.performed hattach
  refine ⟨place, _, change, after, rfl, hattach, hgrown, hothers, ?_⟩
  exact grafted (htidy.names_nodup (mem_trees_of_tree? helement)) hchanged
    (htidy.names_nodup (mem_trees_of_tree? hroot)) (hafter.names_nodup (mem_trees_of_tree? hgrown))

/-! ### Two trees that both have a first variable -/

/-- A keyword of two values that carries the first variable. -/
def firstVariable (value : String) : Filter :=
  .leaf ⟨"CardType", "Card Type", some (.list ["Vampire", "Imbued"]), some "$var0",
    some (.listed [value])⟩

/-- A tree of the first variable, and another one of the first two. -/
def rivals : List Command :=
  [.build "main" .card none (some (firstVariable "Vampire")),
    .build "other" .card none (some (.join (firstVariable "Imbued") .or
      (.leaf ⟨"CardText", "Card Text", some .text, some "$var1", some (.listed ["blood"])⟩)))]

def rivalFrame : Frame := ⟨⟨0⟩, .and, false, false, .card, ⟨0⟩⟩

def rivalItem : Item :=
  ⟨⟨1⟩, "CardType", "Card Type", "$var0", false, false, .list ["Vampire", "Imbued"],
    .list ["Vampire"], ⟨0⟩⟩

/-- The other one of the two trees. -/
def rivalTree : Element :=
  .box ⟨⟨2⟩, .or, false, false, .card, ⟨1⟩⟩
    [.item ⟨⟨3⟩, "CardType", "Card Type", "$var0", false, false,
        .list ["Vampire", "Imbued"], .list ["Imbued"], ⟨1⟩⟩,
      .item ⟨⟨4⟩, "CardText", "Card Text", "$var1", false, false, .text, .text ["blood"],
        ⟨1⟩⟩]

theorem tree?_rivals :
    (empty.run rivals).tree? "main" = some (.box rivalFrame [.item rivalItem]) ∧
      (empty.run rivals).tree? "other" = some rivalTree := ⟨rfl, rfl⟩

theorem grafted_of_rivals :
    (empty.run rivals).tree? "main" = some (.box rivalFrame [.item rivalItem]) ∧
      (empty.run rivals).tree? "other" = some rivalTree ∧
      ∃ (place : Place) (grown : Element) (change : String → String) (after : Workspace),
        .box rivalFrame [.item rivalItem] = place.plug (.box rivalFrame [.item rivalItem]) ∧
        (empty.run rivals).perform (.attach "main" ⟨0⟩ "other" (some 0)) = (.ok .done, after) ∧
        after.tree? "main" = some grown ∧
        (∀ name, name ≠ "main" → after.tree? name =
          if name = "other" then none else (empty.run rivals).tree? name) ∧
        Grafted place rivalFrame [.item rivalItem] 0 rivalTree grown change := by
  obtain ⟨hmain, hother⟩ := tree?_rivals
  exact ⟨hmain, hother, grafted_of_run rivals hmain (Element.mem_all_self _) hother (by decide)
    (some 0)⟩

/-! ### Which variables change -/

/-- Whatever has been done, an item of a tree that is moved to another pool keeps its variable
exactly if the pool does not hold it and no item before it in the tree has just been given it. Who
is given another variable is given one that was not in use before the move. So the variables that
were not in use are all kept, if none of the new ones is a variable of the tree. -/
theorem renamed_of_graft (commands : List Command)
    (hroot : (empty.run commands).tree? tree = some root) (hbox : .box frame children ∈ root.all)
    (helement : (empty.run commands).tree? other = some element)
    (hpool : element.pool ≠ frame.pool) (index : Option Nat) :
    ∃ (place : Place) (pool : NamePool) (change : String → String) (after : Workspace),
      root = place.plug (.box frame children) ∧
      (empty.run commands).pools[frame.pool.number]? = some pool ∧
      (empty.run commands).perform (.attach tree frame.id other index) = (.ok .done, after) ∧
      after.tree? tree = some (place.plug (.box frame
        (children.insertIdx (min (index.getD children.length) children.length)
          (element.rename frame.pool change)))) ∧
      (∀ position name, (element.items.map Item.variableName)[position]? = some name →
        (change name = name ↔ name ∉ pool.claimed ∧
          name ∉ ((element.items.map Item.variableName).take position).map change) ∧
        (change name ≠ name → ¬ pool.IsUsed (change name))) ∧
      ((∀ name ∈ element.items.map Item.variableName, change name ≠ name →
          change name ∉ element.items.map Item.variableName) →
        ∀ name ∈ element.items.map Item.variableName, ¬ pool.IsUsed name →
          change name = name) := by
  obtain ⟨place, pool, change, after, rfl, hheld, hgranted, -, hattach, hgrown, -⟩ :=
    exists_graft (tidy_empty.run commands) (stocked_empty.run tidy_empty commands) hroot hbox
      helement hpool index
  have hnodup := (tidy_empty.run commands).names_nodup (mem_trees_of_tree? helement)
  have hkept : ∀ position name, (element.items.map Item.variableName)[position]? = some name →
      (change name = name ↔ name ∉ pool.claimed ∧
        name ∉ ((element.items.map Item.variableName).take position).map change) ∧
      (change name ≠ name → ¬ pool.IsUsed (change name)) := by
    intro position name hname
    have hat : (pool.obtainAll ((element.items.map Item.variableName).map some)).1[position]? =
        some (change name) := by
      rw [← hgranted, List.getElem?_map, hname, Option.map_some]
    rw [NamePool.granted_eq_iff hname hat, ← hgranted, List.map_take]
    exact ⟨Iff.rfl, NamePool.not_isUsed_of_granted_ne hname hat⟩
  refine ⟨place, pool, change, after, rfl, hheld, hattach, hgrown, hkept, ?_⟩
  intro hapart name hname hunused
  obtain ⟨position, hposition⟩ := List.mem_iff_getElem?.mp hname
  refine (hkept position name hposition).1.mpr ⟨fun hclaimed ↦ hunused (.inr hclaimed), ?_⟩
  intro hearlier
  obtain ⟨earlier, hbefore, hgiven⟩ := List.mem_map.mp hearlier
  have hmember := List.mem_of_mem_take hbefore
  -- Whoever has been given the variable before had another one, since the variables differ.
  have hdiffers : change earlier ≠ earlier := by
    intro hsame
    obtain rfl : earlier = name := hsame.symm.trans hgiven
    obtain ⟨sooner, hsooner, hfound⟩ := List.mem_take_iff_getElem.mp hbefore
    obtain ⟨hbound, hlast⟩ := List.getElem?_eq_some_iff.mp hposition
    have htwice := (hnodup.getElem_inj_iff).mp (hfound.trans hlast.symm)
    omega
  exact hapart earlier hmember hdiffers (hgiven ▸ hname)

theorem renamed_of_graft_rivals :
    (empty.run rivals).tree? "main" = some (.box rivalFrame [.item rivalItem]) ∧
      (empty.run rivals).tree? "other" = some rivalTree ∧
      ∃ (place : Place) (pool : NamePool) (change : String → String) (after : Workspace),
        .box rivalFrame [.item rivalItem] = place.plug (.box rivalFrame [.item rivalItem]) ∧
        (empty.run rivals).pools[0]? = some pool ∧
        (empty.run rivals).perform (.attach "main" ⟨0⟩ "other" none) = (.ok .done, after) ∧
        after.tree? "main" = some (place.plug
          (.box rivalFrame [.item rivalItem, rivalTree.rename ⟨0⟩ change])) ∧
        (∀ position name, ["$var0", "$var1"][position]? = some name →
          (change name = name ↔
            name ∉ pool.claimed ∧ name ∉ (["$var0", "$var1"].take position).map change) ∧
          (change name ≠ name → ¬ pool.IsUsed (change name))) ∧
        ((∀ name ∈ ["$var0", "$var1"], change name ≠ name →
            change name ∉ ["$var0", "$var1"]) →
          ∀ name ∈ ["$var0", "$var1"], ¬ pool.IsUsed name → change name = name) := by
  obtain ⟨hmain, hother⟩ := tree?_rivals
  exact ⟨hmain, hother, renamed_of_graft rivals hmain (Element.mem_all_self _) hother (by decide)
    none⟩

/-- The pool of the box does not use the second variable of the other tree. But the item before it
is given this variable when the tree is moved, and the item that had it is given a third one. -/
theorem renamed_of_rivals :
    ((empty.run rivals).pools[0]?.map fun pool ↦ decide (pool.IsUsed "$var1")) = some false ∧
      (rivalTree.items.map fun item ↦ (item.id.number, item.variableName)) =
        [(3, "$var0"), (4, "$var1")] ∧
      ((((empty.run rivals).perform (.attach "main" ⟨0⟩ "other" none)).2.tree? "main").map
          fun root ↦ root.items.map fun item ↦ (item.id.number, item.variableName)) =
        some [(1, "$var0"), (3, "$var1"), (4, "$var2")] := by
  decide +kernel

end Workspace

end CardQuery.Editor
