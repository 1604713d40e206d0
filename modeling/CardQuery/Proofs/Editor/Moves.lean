import Mathlib.Data.List.InsertIdx
import Mathlib.Logic.Relation
import CardQuery.Proofs.Editor.AtPlaces
import CardQuery.Proofs.Editor.BoundLeaves

/-!
Moves within a tree. An element is taken out of a box into the hand, which is a tree of its own for
the time being, and is put into a box of what remains. It is on the pool of the tree all the while,
so it is put there as it is and no pool changes (`attached_eq`). One move therefore leaves the nodes
of the tree what they are, in another order (`rearranged_of_move`), and so do any number of moves
(`Rearranged.of_moves`). Every child of every box can be moved to every box that remains, and a
child that is put back where it was restores the tree (`movable_of_run`).
-/

set_option autoImplicit false
set_option relaxedAutoImplicit false

namespace CardQuery.Editor.Workspace

variable {workspace : Workspace} {tree hand : String} {root child : Element} {place : Place}
  {frame : Frame} {children rest : List Element}

/-- An element that is taken out of a box of the tree, a child of some identity or the last child,
and put into a box of what remains, at an index or behind all children. -/
inductive Move (tree hand : String) (before : Workspace) : Workspace → Prop
  | detach {source target id : ElementId} {index : Option Nat} {child : Element}
      {taken after : Workspace}
      (htaken : before.perform (.detach tree source id (some hand)) =
        (.ok (.detached (some child)), taken))
      (hput : taken.perform (.attach tree target hand index) = (.ok .done, after)) :
      Move tree hand before after
  | detachLast {source target : ElementId} {index : Option Nat} {child : Element}
      {taken after : Workspace}
      (htaken : before.perform (.detachLast tree source (some hand)) =
        (.ok (.detached (some child)), taken))
      (hput : taken.perform (.attach tree target hand index) = (.ok .done, after)) :
      Move tree hand before after

/-- Nothing but the order of the nodes of the tree has changed, and what is in the hand. -/
structure Rearranged (tree hand : String) (before after : Workspace) : Prop where
  pools : after.pools = before.pools
  nextId : after.nextId = before.nextId
  others : ∀ name, name ≠ tree → name ≠ hand → after.tree? name = before.tree? name
  nodes : ∀ root, before.tree? tree = some root →
    ∃ moved, after.tree? tree = some moved ∧ moved.nodes.Perm root.nodes

namespace Rearranged

theorem refl (tree hand : String) (workspace : Workspace) :
    Rearranged tree hand workspace workspace :=
  ⟨rfl, rfl, fun _ _ _ ↦ rfl, fun root hroot ↦ ⟨root, hroot, .refl _⟩⟩

theorem trans {first second third : Workspace} (hfirst : Rearranged tree hand first second)
    (hsecond : Rearranged tree hand second third) : Rearranged tree hand first third := by
  refine ⟨hsecond.pools.trans hfirst.pools, hsecond.nextId.trans hfirst.nextId,
    fun name htree hhand ↦ ?_, fun root hroot ↦ ?_⟩
  · exact (hsecond.others name htree hhand).trans (hfirst.others name htree hhand)
  · obtain ⟨moved, hmoved, hperm⟩ := hfirst.nodes root hroot
    obtain ⟨final, hfinal, hlater⟩ := hsecond.nodes moved hmoved
    exact ⟨final, hfinal, hlater.trans hperm⟩

end Rearranged

/-! ### Taking and putting -/

/-- The workspace with a child of the tree in the hand. -/
def inHand (workspace : Workspace) (tree hand : String) (remaining child : Element) : Workspace :=
  (workspace.setTree tree remaining).setTree hand child

theorem tree?_inHand_tree (workspace : Workspace) (hhand : hand ≠ tree)
    (remaining child : Element) :
    (workspace.inHand tree hand remaining child).tree? tree = some remaining := by
  rw [inHand, tree?_setTree, if_neg hhand.symm, tree?_setTree_self]

theorem tree?_inHand_hand (workspace : Workspace) (tree hand : String)
    (remaining child : Element) :
    (workspace.inHand tree hand remaining child).tree? hand = some child := by
  rw [inHand, tree?_setTree_self]

/-- An element that is on the pool of the box is put there as it is, and the pool stays as it
is. -/
theorem attached_eq {pool : NamePool} {index : Nat} (hpool : child.pool = frame.pool)
    (hheld : workspace.pools[frame.pool.number]? = some pool) :
    ((workspace.dropTree hand).setPool frame.pool (child.join frame.pool pool).2).setTree tree
        (place.plug (.box frame (children.insertIdx index (child.join frame.pool pool).1))) =
      (workspace.dropTree hand).setTree tree
        (place.plug (.box frame (children.insertIdx index child))) := by
  have hsame : workspace.pools.set frame.pool.number pool = workspace.pools := by
    obtain ⟨hbound, rfl⟩ := List.getElem?_eq_some_iff.mp hheld
    exact List.set_getElem_self hbound
  rw [Element.join_eq_self hpool]
  simp only [setPool, dropTree, setTree, hsame]

theorem tree?_attached {remaining grown : Element} :
    (((workspace.inHand tree hand remaining child).dropTree hand).setTree tree grown).tree? tree =
        some grown ∧
      ∀ name, name ≠ tree → name ≠ hand →
        (((workspace.inHand tree hand remaining child).dropTree hand).setTree tree grown).tree?
          name = workspace.tree? name := by
  refine ⟨tree?_setTree_self .., fun name htree hother ↦ ?_⟩
  rw [tree?_setTree, if_neg htree, tree?_dropTree hother.symm, inHand, tree?_setTree,
    if_neg hother, tree?_setTree, if_neg htree]

/-- A child of a box is on the pool of the tree. -/
theorem pool_of_child (htidy : workspace.Tidy)
    (hroot : workspace.tree? tree = some (place.plug (.box frame children)))
    (hchild : child ∈ children) : child.pool = (place.plug (.box frame children)).pool := by
  have hmember := place.mem_all_plug (Element.mem_all_of_mem_children frame hchild)
  exact htidy.pool_eq (mem_trees_of_tree? hroot) hmember

section InHand

variable {inner : Place} {outer : Frame} {inside : List Element} (htidy : workspace.Tidy)
  (hhand : hand ≠ tree) (hroot : workspace.tree? tree = some (place.plug (.box frame children)))
  (hchild : child ∈ children)
  (hplug : place.plug (.box frame rest) = inner.plug (.box outer inside))
  (hlater : (workspace.inHand tree hand (inner.plug (.box outer inside)) child).Tidy)

include htidy hhand hroot hchild hplug hlater

/-- What is taken out of a box is on the pool of every box that remains. -/
theorem pool_inHand : child.pool = outer.pool := by
  have hbox := inner.mem_all_plug (Element.mem_all_self (.box outer inside))
  have hremaining := mem_trees_of_tree?
    (workspace.tree?_inHand_tree hhand (inner.plug (.box outer inside)) child)
  calc child.pool
    _ = (place.plug (.box frame children)).pool := pool_of_child htidy hroot hchild
    _ = (place.plug (.box frame rest)).pool := place.pool_plug rfl
    _ = (inner.plug (.box outer inside)).pool := by rw [hplug]
    _ = outer.pool := (hlater.pool_eq hremaining hbox).symm

/-- What is in the hand can be put into every box that remains. -/
theorem perform_put (hstocked : workspace.Stocked) (index : Option Nat) :
    (workspace.inHand tree hand (inner.plug (.box outer inside)) child).perform
        (.attach tree outer.id hand index) =
      (.ok .done, ((workspace.inHand tree hand (inner.plug (.box outer inside)) child).dropTree
        hand).setTree tree (inner.plug (.box outer
          (inside.insertIdx (min (index.getD inside.length) inside.length) child)))) := by
  have hpool := pool_inHand htidy hhand hroot hchild hplug hlater
  obtain ⟨pool, hheld⟩ := hstocked.exists_pool hroot
  rw [← pool_of_child htidy hroot hchild, hpool] at hheld
  change (workspace.inHand tree hand (inner.plug (.box outer inside)) child).pools[_]? = _ at hheld
  rw [← attached_eq hpool hheld]
  exact attachTree_plug hlater.settled.ids (workspace.tree?_inHand_tree hhand _ child) hhand
    (workspace.tree?_inHand_hand tree hand _ child) hheld index

end InHand

/-- One move, whatever chooses the child that is taken out. -/
theorem rearranged_of_taken {before taken after : Workspace} {source target : ElementId}
    {index : Option Nat} {choose : List Element → Option (Element × List Element)}
    (hchooses : ∀ children child rest, choose children = some (child, rest) →
      ∃ front back, children = front ++ child :: back ∧ rest = front ++ back)
    (hbefore : before.Tidy) (htidy : taken.Tidy)
    (htaken : before.detachChild tree source choose (some hand) =
      (.ok (.detached (some child)), taken))
    (hput : taken.perform (.attach tree target hand index) = (.ok .done, after)) :
    Rearranged tree hand before after := by
  obtain ⟨place, frame, children, rest, hroot, hchosen, rfl⟩ :=
    detachChild_eq_detached hbefore.settled.ids htaken
  obtain ⟨front, back, rfl, rfl⟩ := hchooses _ _ _ hchosen
  change (before.inHand tree hand (place.plug (.box frame (front ++ back))) child).Tidy at htidy
  obtain ⟨inner, outer, inside, element, pool, hremaining, hhand, helement, hheld, rfl⟩ :=
    attachTree_eq_done htidy.settled.ids hput
  -- What remains is the same tree seen from two places, and the child in the hand is on its pool.
  have hplug : place.plug (.box frame (front ++ back)) = inner.plug (.box outer inside) :=
    Option.some.inj ((before.tree?_inHand_tree hhand _ _).symm.trans hremaining)
  obtain rfl : child = element :=
    Option.some.inj ((before.tree?_inHand_hand tree hand _ _).symm.trans helement)
  have hpool : child.pool = outer.pool :=
    pool_inHand hbefore hhand hroot (by simp) hplug (hplug ▸ htidy)
  rw [attached_eq hpool hheld]
  obtain ⟨hgrown, hothers⟩ := tree?_attached
  refine ⟨rfl, rfl, hothers, fun root hbegin ↦ ⟨_, hgrown, ?_⟩⟩
  rw [hroot, Option.some.injEq] at hbegin
  subst hbegin
  have hinserted := List.perm_insertIdx child inside (Nat.min_le_right (index.getD inside.length) _)
  refine (inner.nodes_plug_perm hinserted).trans ?_
  rw [← hplug]
  exact (place.nodes_plug_perm List.perm_middle).symm

theorem Tidy.move {before after : Workspace} (htidy : before.Tidy)
    (hmove : Move tree hand before after) : after.Tidy := by
  cases hmove with
  | detach htaken hput | detachLast htaken hput => exact (htidy.performed htaken).performed hput

/-- One move. -/
theorem rearranged_of_move {before after : Workspace} (htidy : before.Tidy)
    (hmove : Move tree hand before after) : Rearranged tree hand before after := by
  cases hmove with
  | detach htaken hput =>
    exact rearranged_of_taken (fun _ _ _ ↦ Element.extract?_eq_some) htidy
      (htidy.performed htaken) htaken hput
  | detachLast htaken hput =>
    exact rearranged_of_taken (fun _ _ _ ↦ lastChild_eq_some) htidy (htidy.performed htaken)
      htaken hput

/-- Any number of moves. -/
theorem Rearranged.of_moves {before after : Workspace} (htidy : before.Tidy)
    (hmoves : Relation.ReflTransGen (Move tree hand) before after) :
    Rearranged tree hand before after := by
  induction hmoves using Relation.ReflTransGen.head_induction_on with
  | refl => exact .refl tree hand after
  | head hmove _ ih => exact (rearranged_of_move htidy hmove).trans (ih (htidy.move hmove))

/-! ### What can be moved -/

/-- The commands that take the child at a position of a box into the hand. -/
inductive Takes (tree hand : String) (frame : Frame) (children : List Element) (position : Nat)
    (child : Element) : Command → Prop
  | detach : Takes tree hand frame children position child
      (.detach tree frame.id child.id (some hand))
  | detachLast (hlast : position + 1 = children.length) :
      Takes tree hand frame children position child (.detachLast tree frame.id (some hand))

theorem perform_takes {position : Nat} {take : Command}
    (hids : (workspace.nodes.map Node.id).Nodup)
    (hroot : workspace.tree? tree = some (place.plug (.box frame children)))
    (hchild : children[position]? = some child)
    (htakes : Takes tree hand frame children position child take) :
    workspace.perform take = (.ok (.detached (some child)),
      workspace.inHand tree hand (place.plug (.box frame (children.eraseIdx position))) child) := by
  obtain ⟨hbound, rfl⟩ := List.getElem?_eq_some_iff.mp hchild
  cases htakes with
  | detach =>
    have hsplit : children =
        children.take position ++ children[position] :: children.drop (position + 1) := by simp
    rw [hsplit] at hroot
    rw [List.eraseIdx_eq_take_drop_succ]
    exact perform_detach_plug hids hroot (some hand)
  | detachLast hlast =>
    refine detachChild_plug hids hroot ?_ _
    have hend : children.length - 1 = position := by omega
    simp only [lastChild, List.getLast?_eq_getElem?, hend, hchild, Option.map_some,
      List.dropLast_eq_eraseIdx hlast]

/-- What can be done by moves in the tree. -/
structure Movable (workspace : Workspace) (tree hand : String) (root : Element) : Prop where
  /-- Any number of moves only rearranges the tree. -/
  rearranged : ∀ after, Relation.ReflTransGen (Move tree hand) workspace after →
    Rearranged tree hand workspace after
  /-- Any child of any box can be taken into the hand, and put into any box that remains. Put back
  to where it was, it restores the tree. -/
  moves : ∀ frame children position child take, .box frame children ∈ root.all →
    children[position]? = some child → Takes tree hand frame children position child take →
      ∃ (place : Place) (taken : Workspace),
        root = place.plug (.box frame children) ∧
        workspace.perform take = (.ok (.detached (some child)), taken) ∧
        taken.tree? tree = some (place.plug (.box frame (children.eraseIdx position))) ∧
        taken.tree? hand = some child ∧
        (∀ outer inside index,
          .box outer inside ∈ (place.plug (.box frame (children.eraseIdx position))).all →
            ∃ (inner : Place) (after : Workspace),
              place.plug (.box frame (children.eraseIdx position)) =
                inner.plug (.box outer inside) ∧
              taken.perform (.attach tree outer.id hand index) = (.ok .done, after) ∧
              after.tree? tree = some (inner.plug (.box outer
                (inside.insertIdx (min (index.getD inside.length) inside.length) child))) ∧
              Rearranged tree hand workspace after) ∧
        ∃ after, taken.perform (.attach tree frame.id hand (some position)) = (.ok .done, after) ∧
          after.tree? tree = some root ∧ Rearranged tree hand workspace after

theorem Takes.move {position : Nat} {take : Command} {target : ElementId} {index : Option Nat}
    {taken after : Workspace} (htakes : Takes tree hand frame children position child take)
    (htaken : workspace.perform take = (.ok (.detached (some child)), taken))
    (hput : taken.perform (.attach tree target hand index) = (.ok .done, after)) :
    Move tree hand workspace after := by
  cases htakes with
  | detach => exact .detach htaken hput
  | detachLast hlast => exact .detachLast htaken hput

/-- Whatever has been done, moves within a tree lose and rename nothing: they keep all its boxes and
items, with their variables and values, and every pool. Every child of every box can be moved, and
one that is put back restores the tree. -/
theorem movable_of_run (commands : List Command)
    (hroot : (empty.run commands).tree? tree = some root) (hhand : hand ≠ tree) :
    Movable (empty.run commands) tree hand root := by
  have htidy := tidy_empty.run commands
  have hstocked := stocked_empty.run tidy_empty commands
  refine ⟨fun after hmoves ↦ .of_moves htidy hmoves, ?_⟩
  intro frame children position child take hbox hchild htakes
  obtain ⟨place, rfl⟩ := Element.exists_place hbox
  obtain ⟨hbound, hat⟩ := List.getElem?_eq_some_iff.mp hchild
  have htaken := perform_takes htidy.settled.ids hroot hchild htakes
  have hlater := htidy.performed htaken
  have hmember := List.mem_of_getElem? hchild
  refine ⟨place, _, rfl, htaken, tree?_inHand_tree _ hhand _ child, tree?_inHand_hand .., ?_, ?_⟩
  · intro outer inside index houter
    obtain ⟨inner, hplug⟩ := Element.exists_place houter
    rw [hplug] at htaken hlater ⊢
    have hafter := perform_put htidy hhand hroot hmember hplug hlater hstocked index
    exact ⟨inner, _, rfl, hafter, tree?_setTree_self ..,
      rearranged_of_move htidy (htakes.move htaken hafter)⟩
  · have hafter := perform_put htidy hhand hroot hmember rfl hlater hstocked (some position)
    refine ⟨_, hafter, ?_, rearranged_of_move htidy (htakes.move htaken hafter)⟩
    have hmin : min position (children.eraseIdx position).length = position := by
      rw [List.length_eraseIdx_of_lt hbound]
      omega
    rw [tree?_setTree_self, Option.getD_some, hmin, ← hat,
      List.insertIdx_eraseIdx_getElem hbound]

theorem movable_of_movedTree :
    ∃ root, (empty.run movedTree).tree? "main" = some root ∧
      root.items.map (fun item ↦ item.id.number) = [1, 2, 4, 5] ∧ "hand" ≠ "main" ∧
      Movable (empty.run movedTree) "main" "hand" root := by
  have hitems : ((empty.run movedTree).tree? "main").map (fun root ↦
      root.items.map fun item ↦ item.id.number) = some [1, 2, 4, 5] := by
    decide +kernel
  obtain ⟨root, hroot, hnumbers⟩ := Option.map_eq_some_iff.mp hitems
  exact ⟨root, hroot, hnumbers, by decide, movable_of_run movedTree hroot (by decide)⟩

end CardQuery.Editor.Workspace
