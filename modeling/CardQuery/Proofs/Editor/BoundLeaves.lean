import CardQuery.Proofs.Editor.OwnValues
import CardQuery.Proofs.Editor.UniqueNames

/-!
The leaves that a tree says with its values. They are the leaves of the items that are visible and
set, in their order, each with the values of its own item (`leavesOf_ownFilter?`), and a box says
what its children say with their own values, put together (`boundFilter?_box`). Both take that
variables differ, so they hold of every element of a workspace, whatever has been done to it
(`boundFilter?_of_run`).
-/

set_option autoImplicit false
set_option relaxedAutoImplicit false

namespace CardQuery.Editor

theorem Item.leavesOf_ownFilter? (item : Item) :
    leavesOf item.ownFilter? =
      if item.disabled ∨ item.current.IsEmpty then [] else [item.ownLeaf] := by
  unfold ownFilter?
  split
  · rfl
  · rw [leavesOf_some, leaves_negateIf, Filter.leaves]

namespace Element

/-- Where each item puts its own values into its leaf, the leaves are those of the items that are
visible and set. -/
theorem leavesOf_ownFilter? (element : Element) :
    leavesOf element.ownFilter? =
      (element.visibleItems.filter fun item ↦ ¬ item.current.IsEmpty).map Item.ownLeaf := by
  induction element with
  | hitem entry =>
    rw [ownFilter?_item, Item.leavesOf_ownFilter?, visibleItems_item]
    by_cases hdisabled : entry.disabled
    · simp [hdisabled]
    · by_cases hunset : entry.current.IsEmpty <;> simp [hdisabled, hunset]
  | hbox frame children ih =>
    rw [ownFilter?_box, Frame.leavesOf_filter?, visibleItems_box]
    split
    · rfl
    · rw [List.flatMap_map, List.filter_flatMap, List.map_flatMap]
      exact List.flatMap_congr ih

/-- The items of an element stand next to each other among those of its tree. -/
theorem items_sublist {root member : Element} (hmember : member ∈ root.all) :
    member.items.Sublist root.items := by
  obtain ⟨place, rfl⟩ := exists_place hmember
  rw [items_eq_filterMap, items_eq_filterMap, place.nodes_plug]
  exact ((List.sublist_append_right _ _).trans (List.sublist_append_left _ _)).filterMap _

theorem mem_all_of_mem_children (frame : Frame) {children : List Element} {child : Element}
    (hchild : child ∈ children) : child ∈ (box frame children).all := by
  rw [all_box]
  exact List.mem_cons_of_mem _ (List.mem_flatMap_of_mem hchild child.mem_all_self)

/-- A box whose items have different variables says the same whether the values of all its items
are bound together, or those of each child in the child alone. -/
theorem boundFilter?_box {frame : Frame} {children : List Element}
    (hnodup : ((box frame children).items.map Item.variableName).Nodup) :
    (box frame children).boundFilter? = frame.filter? (children.map boundFilter?) := by
  rw [boundFilter?_eq_ownFilter? hnodup, ownFilter?_box]
  refine congrArg frame.filter? (List.map_congr_left fun child hchild ↦ ?_)
  have hinside := items_sublist (mem_all_of_mem_children frame hchild)
  exact (boundFilter?_eq_ownFilter? (hnodup.sublist (hinside.map _))).symm

end Element

namespace Workspace

/-- Whatever has been done, the leaves of an element with its values are those of its items that
are visible and set, in their order, each with the keyword, the argument, the variable and the
values of its own item. A box says what its children say with nothing but their own values, joined
from the left. -/
theorem boundFilter?_of_run (commands : List Command) :
    ∀ tree ∈ (empty.run commands).trees, ∀ element ∈ tree.2.all,
      leavesOf element.boundFilter? =
        (element.visibleItems.filter fun item ↦ ¬ item.current.IsEmpty).map (fun item ↦
          ⟨item.keyword, item.description, some item.shape, some item.variableName,
            item.current.selection?⟩) ∧
      ∀ frame children, element = .box frame children →
        element.boundFilter? = frame.filter? (children.map Element.boundFilter?) := by
  intro tree htree element helement
  have hnames := (tidy_empty.run commands).names_nodup htree
  have hnodup := hnames.sublist ((Element.items_sublist helement).map Item.variableName)
  refine ⟨?_, fun frame children hbox ↦ ?_⟩
  · rw [Element.boundFilter?_eq_ownFilter? hnodup, Element.leavesOf_ownFilter?]
    rfl
  · subst hbox
    exact Element.boundFilter?_box hnodup

/-- Two keywords that carry one variable, the first of them with values. -/
def sharedVariable : Filter :=
  .join
    (.leaf ⟨"CardType", "Card Type", some (.list ["Vampire", "Imbued"]), some "$type",
      some (.listed ["Vampire"])⟩)
    .or
    (.leaf ⟨"CardText", "Card Text", some .text, some "$type", some (.listed ["blood"])⟩)

/-- Two trees of the same variables, of which one is moved into the other. An item that came along
is set to other values there, and another one is disabled. -/
def movedTree : List Command :=
  [.build "main" .card none (some sharedVariable), .build "other" .card none (some sharedVariable),
    .attach "main" ⟨0⟩ "other" none, .editItem "main" ⟨4⟩ (.selectValues ["Imbued"]),
    .editItem "main" ⟨2⟩ (.setDisabled true)]

theorem boundFilter?_of_movedTree :
    ∃ root, ("main", root) ∈ (empty.run movedTree).trees ∧ root ∈ root.all ∧
      (leavesOf root.boundFilter?).map (fun entry ↦ (entry.keyword, entry.selection)) =
        [("CardType", some (.listed ["Vampire"])), ("CardType", some (.listed ["Imbued"])),
          ("CardText", some (.listed ["blood"]))] ∧
      leavesOf root.boundFilter? =
        (root.visibleItems.filter fun item ↦ ¬ item.current.IsEmpty).map (fun item ↦
          ⟨item.keyword, item.description, some item.shape, some item.variableName,
            item.current.selection?⟩) ∧
      ∀ frame children, root = .box frame children →
        root.boundFilter? = frame.filter? (children.map Element.boundFilter?) := by
  have hrun : (empty.run movedTree).trees.map (fun tree ↦
        (tree.1, (tree.2.visibleItems.filter fun item ↦ ¬ item.current.IsEmpty).map
          fun item ↦ (item.keyword, item.current.selection?))) =
      [("main", [("CardType", some (.listed ["Vampire"])), ("CardType", some (.listed ["Imbued"])),
        ("CardText", some (.listed ["blood"]))])] := by
    decide +kernel
  obtain ⟨⟨name, root⟩, htrees, hpair⟩ := List.map_eq_singleton_iff.mp hrun
  obtain ⟨rfl, hleaves⟩ := Prod.mk.inj hpair
  have hroot : ("main", root) ∈ (empty.run movedTree).trees := by simp [htrees]
  obtain ⟨hbound, hboxes⟩ := boundFilter?_of_run movedTree _ hroot root root.mem_all_self
  refine ⟨root, hroot, root.mem_all_self, ?_, hbound, hboxes⟩
  rw [hbound, List.map_map]
  exact hleaves

end Workspace

end CardQuery.Editor
