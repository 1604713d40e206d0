import Mathlib.Data.List.Nodup
import CardQuery.Editor.Search

/-!
Places in a tree. The nodes of a tree are its boxes without their children, and its items, from
left to right (`Element.nodes`). A place is a tree with one element cut out, and every element of a
tree stands at one (`exists_place`): the nodes at a place lie between those before it and those
after it (`Place.nodes_plug`). Where no two nodes have one identity, changing the element of an
identity changes what stands at its place and nothing else (`update_plug`).
-/

set_option autoImplicit false
set_option relaxedAutoImplicit false

namespace CardQuery.Editor

/-! ### Nodes -/

/-- A box without its children, or an item. -/
inductive Node where
  | box (frame : Frame)
  | item (entry : Item)

namespace Node

def id : Node → ElementId
  | box frame => frame.id
  | item entry => entry.id

def pool : Node → PoolId
  | box frame => frame.pool
  | item entry => entry.pool

def item? : Node → Option Item
  | box _ => none
  | item entry => some entry

end Node

namespace Element

/-- The nodes of the tree, each box before its children. -/
def nodes : Element → List Node :=
  fold (fun entry ↦ [.item entry]) fun frame parts ↦ .box frame :: parts.flatten

@[simp] theorem nodes_item (entry : Item) : (item entry).nodes = [.item entry] := by
  simp [nodes]

@[simp] theorem nodes_box (frame : Frame) (children : List Element) :
    (box frame children).nodes = .box frame :: children.flatMap nodes := by
  simp [nodes, List.flatMap_def]

@[simp] theorem items_item (entry : Item) : (item entry).items = [entry] := by
  simp [items]

@[simp] theorem items_box (frame : Frame) (children : List Element) :
    (box frame children).items = children.flatMap items := by
  simp [items, List.flatMap_def]

theorem mem_items_box {frame : Frame} {children : List Element} {child : Element} {entry : Item}
    (hchild : child ∈ children) (hentry : entry ∈ child.items) :
    entry ∈ (box frame children).items := by
  rw [items_box]
  exact List.mem_flatMap_of_mem hchild hentry

theorem items_eq_filterMap (element : Element) :
    element.items = element.nodes.filterMap Node.item? := by
  induction element with
  | hitem entry => simp [Node.item?]
  | hbox frame children ih =>
    simp only [items_box, nodes_box, List.filterMap_cons, Node.item?, List.filterMap_flatMap]
    exact List.flatMap_congr ih

/-- The node at the root. -/
def root : Element → Node
  | item entry => .item entry
  | box frame _ => .box frame

theorem nodes_eq_cons (element : Element) : ∃ rest, element.nodes = element.root :: rest := by
  cases element with
  | item entry => exact ⟨[], nodes_item entry⟩
  | box frame children => exact ⟨_, nodes_box frame children⟩

@[simp] theorem id_root (element : Element) : element.root.id = element.id := by
  cases element <;> rfl

@[simp] theorem pool_root (element : Element) : element.root.pool = element.pool := by
  cases element <;> rfl

theorem root_mem_nodes (element : Element) : element.root ∈ element.nodes := by
  obtain ⟨rest, hnodes⟩ := element.nodes_eq_cons
  simp [hnodes]

end Element

/-! ### Places -/

/-- A box around a place, with its children on both sides of it. -/
structure Layer where
  frame : Frame
  before : List Element
  after : List Element

/-- The boxes around a place from the root inwards. -/
abbrev Place := List Layer

namespace Place

/-- The tree with an element at the place. -/
def plug : Place → Element → Element
  | [], element => element
  | layer :: inner, element =>
    .box layer.frame (layer.before ++ plug inner element :: layer.after)

/-- The nodes on the way to the place and to the left of it. -/
def before : Place → List Node
  | [] => []
  | layer :: inner => .box layer.frame :: (layer.before.flatMap Element.nodes ++ before inner)

/-- The nodes to the right of the place. -/
def after : Place → List Node
  | [] => []
  | layer :: inner => after inner ++ layer.after.flatMap Element.nodes

theorem nodes_plug (place : Place) (element : Element) :
    (place.plug element).nodes = place.before ++ element.nodes ++ place.after := by
  induction place with
  | nil => simp [plug, before, after]
  | cons layer inner ih => simp [plug, before, after, ih]

end Place

namespace Element

/-- Every element of a tree stands at a place of it. -/
theorem exists_place {root member : Element} (hmember : member ∈ root.all) :
    ∃ place : Place, root = place.plug member := by
  induction root with
  | hitem entry =>
    obtain rfl : member = item entry := by simpa [all] using hmember
    exact ⟨[], rfl⟩
  | hbox frame children ih =>
    rw [all_box, List.mem_cons, List.mem_flatMap] at hmember
    rcases hmember with rfl | ⟨child, hchild, hinside⟩
    · exact ⟨[], rfl⟩
    · obtain ⟨place, hplace⟩ := ih child hchild hinside
      obtain ⟨before, after, rfl⟩ := List.append_of_mem hchild
      exact ⟨⟨frame, before, after⟩ :: place, by rw [Place.plug, ← hplace]⟩

theorem mem_all_self (element : Element) : element ∈ element.all := by
  cases element <;> simp [all]

/-- Everything below an element of a tree is in the tree. -/
theorem nodes_subset {root member : Element} (hmember : member ∈ root.all) :
    member.nodes ⊆ root.nodes := by
  obtain ⟨place, rfl⟩ := exists_place hmember
  intro node hnode
  rw [place.nodes_plug]
  exact List.mem_append_left _ (List.mem_append_right _ hnode)

/-! ### Changing one element -/

/-- A tree without the identity is left as it is. -/
theorem update_eq_self {element : Element} {target : ElementId} {change : Element → Element}
    (habsent : target ∉ element.nodes.map Node.id) : element.update target change = element := by
  induction element with
  | hitem entry =>
    have hother : entry.id ≠ target := by
      rintro rfl
      exact habsent (by simp [Node.id])
    rw [update, if_neg hother]
  | hbox frame children ih =>
    simp only [nodes_box, List.map_cons, List.map_flatMap, List.mem_cons, List.mem_flatMap,
      not_or, not_exists, not_and] at habsent
    have hother : frame.id ≠ target := fun heq ↦ habsent.1 heq.symm
    rw [update, if_neg hother, updateAll_eq_map]
    congr 1
    refine (List.map_congr_left fun child hchild ↦ ?_).trans (List.map_id children)
    exact ih child hchild (habsent.2 child hchild)

theorem updateAll_eq_self {elements : List Element} {target : ElementId}
    {change : Element → Element}
    (habsent : ∀ element ∈ elements, target ∉ element.nodes.map Node.id) :
    elements.map (update target change) = elements :=
  (List.map_congr_left fun element helement ↦ update_eq_self (habsent element helement)).trans
    (List.map_id elements)

/-- Changing the element at a place changes nothing around it, if identities are unique. -/
theorem update_plug {place : Place} {member : Element} {change : Element → Element}
    (hnodup : ((place.plug member).nodes.map Node.id).Nodup) :
    (place.plug member).update member.id change = place.plug (change member) := by
  induction place with
  | nil =>
    cases member <;> simp [Place.plug, update, id]
  | cons layer inner ih =>
    have hinside : member.id ∈ (Place.plug inner member).nodes.map Node.id := by
      rw [Place.nodes_plug]
      have hroot := List.mem_map_of_mem (f := Node.id) member.root_mem_nodes
      simp only [List.map_append, List.mem_append]
      exact .inl (.inr (member.id_root ▸ hroot))
    simp only [Place.plug, nodes_box, List.map_cons, List.flatMap_append, List.flatMap_cons,
      List.map_append, List.nodup_cons, List.nodup_append, List.mem_append, not_or] at hnodup
    obtain ⟨hframe, hbefore, ⟨hmiddle, hafter, hright⟩, hleft⟩ := hnodup
    have hother : layer.frame.id ≠ member.id := by
      intro heq
      refine hframe.2.1 ?_
      rwa [Node.id, heq]
    have hsmaller : ∀ element ∈ layer.before, member.id ∉ element.nodes.map Node.id := by
      intro element helement hmember
      refine hleft _ ?_ _ (.inl hinside) rfl
      rw [List.map_flatMap]
      exact List.mem_flatMap_of_mem helement hmember
    have hlarger : ∀ element ∈ layer.after, member.id ∉ element.nodes.map Node.id := by
      intro element helement hmember
      refine hright _ hinside _ ?_ rfl
      rw [List.map_flatMap]
      exact List.mem_flatMap_of_mem helement hmember
    rw [Place.plug, update, if_neg hother, updateAll_eq_map, List.map_append, List.map_cons,
      ih hmiddle, updateAll_eq_self hsmaller, updateAll_eq_self hlarger, Place.plug]

/-! ### Finding an element -/

theorem mem_all_box {frame : Frame} {children : List Element} {child member : Element}
    (hchild : child ∈ children) (hmember : member ∈ child.all) :
    member ∈ (box frame children).all := by
  rw [all_box]
  exact List.mem_cons_of_mem _ (List.mem_flatMap_of_mem hchild hmember)

theorem findBox?_eq_some {root : Element} {id : ElementId} {frame : Frame}
    {children : List Element} (hfound : root.findBox? id = some (frame, children)) :
    frame.id = id ∧ box frame children ∈ root.all := by
  induction root with
  | hitem entry => cases hfound
  | hbox outer inside ih =>
    rw [findBox?_box] at hfound
    split at hfound
    · rename_i hid
      obtain ⟨rfl, rfl⟩ := Prod.mk.inj (Option.some.inj hfound)
      exact ⟨hid, mem_all_self _⟩
    · obtain ⟨child, hchild, hinside⟩ := List.exists_of_findSome?_eq_some hfound
      obtain ⟨hid, hmember⟩ := ih child hchild hinside
      exact ⟨hid, mem_all_box hchild hmember⟩

theorem findItem?_eq_some {root : Element} {id : ElementId} {entry : Item}
    (hfound : root.findItem? id = some entry) : entry.id = id ∧ item entry ∈ root.all := by
  induction root with
  | hitem other =>
    rw [findItem?, Option.ite_none_right_eq_some, Option.some.injEq] at hfound
    obtain ⟨hid, rfl⟩ := hfound
    exact ⟨hid, mem_all_self _⟩
  | hbox frame children ih =>
    rw [findItem?_box] at hfound
    obtain ⟨child, hchild, hinside⟩ := List.exists_of_findSome?_eq_some hfound
    obtain ⟨hid, hmember⟩ := ih child hchild hinside
    exact ⟨hid, mem_all_box hchild hmember⟩

end Element

end CardQuery.Editor
