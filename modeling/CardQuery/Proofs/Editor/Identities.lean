import CardQuery.Proofs.Editor.UniqueNames

/-!
What is found by an identity. A search that finds nothing has met no element of the identity
(`ne_of_findBox?_eq_none`), so where no two elements of a tree have one identity, each search finds
exactly the element that has it: `findBox?` and `findItem?` in the whole tree
(`findBox?_eq_some_iff`, `findItem?_eq_some_iff`), `Contains` below its root (`contains_iff`), and
`extract?` among the children of one box (`extract?_eq_some_iff`). A change of what has been found
is a change at one place. Identities differ in every workspace, whatever has been done to it, so the
searches agree there (`Workspace.searches_agree_of_run`).
-/

set_option autoImplicit false
set_option relaxedAutoImplicit false

namespace CardQuery.Editor

namespace Element

/-! ### Elements of a tree -/

/-- A tree is its root and what is below it. -/
theorem all_eq_cons (element : Element) : element.all = element :: element.descendants := by
  cases element with
  | item entry => simp [all, descendants, children]
  | box frame children => rw [all_box, descendants, Element.children]

/-- The elements of a tree have the identities of its nodes. -/
theorem map_id_all (element : Element) : element.all.map id = element.nodes.map Node.id := by
  induction element with
  | hitem entry => simp [all, id, Node.id]
  | hbox frame children ih =>
    rw [all_box, nodes_box, List.map_cons, List.map_cons, List.map_flatMap, List.map_flatMap]
    exact congrArg _ (List.flatMap_congr ih)

/-- The nodes below an element stand next to each other in the tree. -/
theorem nodes_sublist {root member : Element} (hmember : member ∈ root.all) :
    member.nodes.Sublist root.nodes := by
  obtain ⟨place, rfl⟩ := exists_place hmember
  rw [place.nodes_plug]
  exact (List.sublist_append_right _ _).trans (List.sublist_append_left _ _)

theorem children_sublist_descendants (element : Element) :
    element.children.Sublist element.descendants := by
  have hbelow : ∀ elements : List Element, elements.Sublist (elements.flatMap all) := by
    intro elements
    induction elements with
    | nil => exact .slnil
    | cons first rest ih =>
      rw [List.flatMap_cons, all_eq_cons, List.cons_append]
      exact (ih.trans (List.sublist_append_right _ _)).cons_cons first
  exact hbelow element.children

/-! ### Searches that find nothing -/

theorem ne_of_findBox?_eq_none {root : Element} {id : ElementId} (hnone : root.findBox? id = none)
    {frame : Frame} {children : List Element} (hmember : box frame children ∈ root.all) :
    frame.id ≠ id := by
  induction root with
  | hitem entry => simp [all] at hmember
  | hbox outer inside ih =>
    rw [findBox?_box] at hnone
    split at hnone
    · cases hnone
    · rename_i hother
      rw [all_box, List.mem_cons, List.mem_flatMap] at hmember
      rcases hmember with hroot | ⟨child, hchild, hinside⟩
      · obtain ⟨rfl, rfl⟩ := Element.box.inj hroot
        exact hother
      · exact ih child hchild (List.findSome?_eq_none_iff.mp hnone child hchild) hinside

theorem ne_of_findItem?_eq_none {root : Element} {id : ElementId}
    (hnone : root.findItem? id = none) {entry : Item} (hmember : item entry ∈ root.all) :
    entry.id ≠ id := by
  induction root with
  | hitem other =>
    obtain rfl : entry = other := by simpa [all] using hmember
    simpa [findItem?] using hnone
  | hbox frame children ih =>
    rw [findItem?_box, List.findSome?_eq_none_iff] at hnone
    rw [all_box, List.mem_cons, List.mem_flatMap] at hmember
    rcases hmember with hroot | ⟨child, hchild, hinside⟩
    · cases hroot
    · exact ih child hchild (hnone child hchild) hinside

theorem extract?_eq_none_iff {id : ElementId} {children : List Element} :
    extract? id children = none ↔ ∀ child ∈ children, child.id ≠ id := by
  induction children with
  | nil => simp [extract?]
  | cons first rest ih =>
    rw [extract?, List.forall_mem_cons, ← ih]
    split
    · rename_i hid
      simp [hid]
    · rename_i hother
      simp [hother]

/-! ### What is below an element -/

/-- The search goes through everything below the element, and through nothing else. -/
theorem contains_iff {element : Element} {id : ElementId} :
    element.Contains id ↔ ∃ member ∈ element.descendants, member.id = id := by
  induction element with
  | hitem entry => simp [Contains, isBelow, descendants, children]
  | hbox frame children ih =>
    have hchild : ∀ child ∈ children,
        (child.id = id ∨ child.Contains id) ↔ ∃ member ∈ child.all, member.id = id := by
      intro child hchild
      rw [ih child hchild, child.all_eq_cons, List.exists_mem_cons_iff]
    simp only [contains_box, descendants, Element.children, List.mem_flatMap]
    constructor
    · rintro ⟨child, hmember, hfound⟩
      obtain ⟨member, hinside, hid⟩ := (hchild child hmember).mp hfound
      exact ⟨member, ⟨child, hmember, hinside⟩, hid⟩
    · rintro ⟨member, ⟨child, hmember, hinside⟩, hid⟩
      exact ⟨child, hmember, (hchild child hmember).mpr ⟨member, hinside, hid⟩⟩

/-! ### Searches in trees of different identities -/

section Distinct

variable {root : Element} (hids : (root.all.map Element.id).Nodup)

include hids

/-- An element is known by its identity. -/
theorem eq_of_id_eq {first second : Element} (hfirst : first ∈ root.all)
    (hsecond : second ∈ root.all) (hid : first.id = second.id) : first = second :=
  List.inj_on_of_nodup_map hids hfirst hsecond hid

theorem findBox?_eq_some_iff {id : ElementId} {frame : Frame} {children : List Element} :
    root.findBox? id = some (frame, children) ↔
      box frame children ∈ root.all ∧ frame.id = id := by
  refine ⟨fun hfound ↦ (findBox?_eq_some hfound).symm, fun ⟨hmember, hid⟩ ↦ ?_⟩
  cases hfound : root.findBox? id with
  | none => exact absurd hid (ne_of_findBox?_eq_none hfound hmember)
  | some found =>
    -- Whatever box has been found has the identity too, so it is the same one.
    obtain ⟨other, inside⟩ := found
    obtain ⟨hother, hin⟩ := findBox?_eq_some hfound
    have hsame : box other inside = box frame children :=
      eq_of_id_eq hids hin hmember (hother.trans hid.symm)
    obtain ⟨rfl, rfl⟩ := Element.box.inj hsame
    rfl

theorem findItem?_eq_some_iff {id : ElementId} {entry : Item} :
    root.findItem? id = some entry ↔ item entry ∈ root.all ∧ entry.id = id := by
  refine ⟨fun hfound ↦ (findItem?_eq_some hfound).symm, fun ⟨hmember, hid⟩ ↦ ?_⟩
  cases hfound : root.findItem? id with
  | none => exact absurd hid (ne_of_findItem?_eq_none hfound hmember)
  | some other =>
    obtain ⟨hother, hin⟩ := findItem?_eq_some hfound
    have hsame : item other = item entry :=
      eq_of_id_eq hids hin hmember (hother.trans hid.symm)
    rw [Element.item.inj hsame]

theorem not_contains_self : ¬ root.Contains root.id := by
  rw [all_eq_cons, List.map_cons, List.nodup_cons] at hids
  rw [contains_iff]
  rintro ⟨member, hmember, hid⟩
  exact hids.1 (hid ▸ List.mem_map_of_mem hmember)

theorem children_ids_nodup : (root.children.map Element.id).Nodup := by
  rw [all_eq_cons, List.map_cons, List.nodup_cons] at hids
  exact hids.2.sublist (root.children_sublist_descendants.map _)

end Distinct

/-! ### Taking out a child -/

theorem id_of_extract? {id : ElementId} {children rest : List Element} {child : Element}
    (hextract : extract? id children = some (child, rest)) : child.id = id := by
  induction children generalizing rest with
  | nil => cases hextract
  | cons first others ih =>
    unfold extract? at hextract
    split at hextract
    · rename_i hid
      rwa [(Prod.mk.inj (Option.some.inj hextract)).1] at hid
    · obtain ⟨⟨found, remaining⟩, hrest, heq⟩ := Option.map_eq_some_iff.mp hextract
      obtain ⟨rfl, -⟩ := Prod.mk.inj heq
      exact ih hrest

theorem extract?_append {id : ElementId} {before after : List Element} {child : Element}
    (hid : child.id = id) (hbefore : ∀ other ∈ before, other.id ≠ id) :
    extract? id (before ++ child :: after) = some (child, before ++ after) := by
  induction before with
  | nil => simp [extract?, hid]
  | cons first rest ih =>
    rw [List.forall_mem_cons] at hbefore
    simp [extract?, hbefore.1, ih hbefore.2]

/-- Of children that differ in their identities, the one of an identity is taken out from among the
others, which stay in their order. -/
theorem extract?_eq_some_iff {id : ElementId} {children rest : List Element} {child : Element}
    (hids : (children.map Element.id).Nodup) :
    extract? id children = some (child, rest) ↔ child.id = id ∧
      ∃ before after, children = before ++ child :: after ∧ rest = before ++ after := by
  refine ⟨fun hextract ↦ ⟨id_of_extract? hextract, extract?_eq_some hextract⟩, ?_⟩
  rintro ⟨hid, before, after, rfl, rfl⟩
  refine extract?_append hid fun other hother hsame ↦ ?_
  rw [List.map_append, List.map_cons, List.nodup_append] at hids
  exact hids.2.2 _ (List.mem_map_of_mem hother) _ (List.mem_cons_self ..) (hsame.trans hid.symm)

/-! ### Boxes -/

/-- Each search in a box finds what has the identity, and only that: a box among the box itself and
those below it, an item below it, anything below it but not the box itself, and a child. -/
structure FindsById (frame : Frame) (children : List Element) : Prop where
  findBox : ∀ id inner inside, (box frame children).findBox? id = some (inner, inside) ↔
    box inner inside ∈ (box frame children).all ∧ inner.id = id
  findItem : ∀ id entry, (box frame children).findItem? id = some entry ↔
    item entry ∈ (box frame children).descendants ∧ entry.id = id
  contains : ∀ id, (box frame children).Contains id ↔
    ∃ member ∈ (box frame children).descendants, member.id = id
  notSelf : ¬ (box frame children).Contains frame.id
  extract : ∀ id child rest, extract? id children = some (child, rest) ↔ child.id = id ∧
    ∃ before after, children = before ++ child :: after ∧ rest = before ++ after
  extractNone : ∀ id, extract? id children = none ↔ ∀ child ∈ children, child.id ≠ id

theorem findsById {frame : Frame} {children : List Element}
    (hids : ((box frame children).all.map Element.id).Nodup) : FindsById frame children where
  findBox _ _ _ := findBox?_eq_some_iff hids
  findItem id entry := by
    rw [findItem?_eq_some_iff hids, all_eq_cons, List.mem_cons]
    simp
  contains _ := contains_iff
  notSelf := not_contains_self hids
  extract _ _ _ := extract?_eq_some_iff (children_ids_nodup hids)
  extractNone _ := extract?_eq_none_iff

end Element

/-! ### Workspaces -/

namespace Workspace

variable {workspace : Workspace} {tree : String} {id : ElementId}

theorem tree?_setTree (workspace : Workspace) (tree other : String) (element : Element) :
    (workspace.setTree tree element).tree? other =
      if other = tree then some element else workspace.tree? other := by
  unfold tree? setTree
  rw [List.lookup_cons]
  by_cases hother : other = tree
  · simp [hother]
  · rw [if_neg hother, beq_false_of_ne hother]
    exact tree?_dropTree (Ne.symm hother)

/-- What is done to the box of an identity is done at one place of the tree, and nothing changes
around it. -/
structure BoxStands (workspace : Workspace) (tree : String) (id : ElementId) (place : Place)
    (frame : Frame) (children : List Element) : Prop where
  update : ∀ change, (place.plug (.box frame children)).update id change =
    place.plug (change (.box frame children))
  edit : ∀ edit, workspace.perform (.editBox tree id edit) =
    (.ok .done, workspace.setTree tree (place.plug (.box (edit.apply frame) children)))
  detach : ∀ target keepAs, workspace.perform (.detach tree id target keepAs) =
    match Element.extract? target children with
    | none => (.ok (.detached none), workspace)
    | some (child, rest) => (.ok (.detached (some child)),
        (workspace.setTree tree (place.plug (.box frame rest))).keep (some child) keepAs)

/-- What is done to the item of an identity is done at one place of the tree, and nothing changes
around it. -/
structure ItemStands (workspace : Workspace) (tree : String) (id : ElementId) (place : Place)
    (entry : Item) : Prop where
  update : ∀ change, (place.plug (.item entry)).update id change =
    place.plug (change (.item entry))
  edit : ∀ edit, workspace.perform (.editItem tree id edit) =
    match edit.apply entry with
    | .error error => (.error (.edit error), workspace)
    | .ok edited => (.ok .done, workspace.setTree tree (place.plug (.item edited)))

section Distinct

variable (hids : (workspace.nodes.map Node.id).Nodup) {root : Element}

include hids

theorem element_ids_nodup {tree : String × Element} (htree : tree ∈ workspace.trees)
    {member : Element} (hmember : member ∈ tree.2.all) : (member.all.map Element.id).Nodup := by
  rw [member.map_id_all]
  have hnodes := (Element.nodes_sublist hmember).trans (nodes_sublist htree)
  exact hids.sublist (hnodes.map Node.id)

theorem boxStands {frame : Frame} {children : List Element}
    (hroot : workspace.tree? tree = some root)
    (hfound : root.findBox? id = some (frame, children)) :
    ∃ place : Place, root = place.plug (.box frame children) ∧
      workspace.BoxStands tree id place frame children := by
  have hbox : workspace.box? tree id = .ok (root, frame, children) := by
    simp [box?, hroot, hfound]
  obtain ⟨-, hid, place, rfl⟩ := box?_eq_ok hbox
  have hnodup := nodup_of_tree? hids hroot
  refine ⟨place, rfl, fun change ↦ ?_, fun edit ↦ ?_, fun target keepAs ↦ ?_⟩
  · rw [← hid, Element.update_plug hnodup]
  · simp only [perform, hbox, proceed, replace_plug hid hnodup]
  · cases hextract : Element.extract? target children with
    | none => simp only [perform, detachChild, hbox, proceed, hextract]
    | some found =>
      simp only [perform, detachChild, hbox, proceed, hextract, replace_plug hid hnodup]

theorem itemStands {entry : Item} (hroot : workspace.tree? tree = some root)
    (hfound : root.findItem? id = some entry) :
    ∃ place : Place, root = place.plug (.item entry) ∧
      workspace.ItemStands tree id place entry := by
  have hitem : workspace.item? tree id = .ok (root, entry) := by
    simp [item?, hroot, hfound]
  obtain ⟨-, hid, place, rfl⟩ := item?_eq_ok hitem
  have hnodup := nodup_of_tree? hids hroot
  refine ⟨place, rfl, fun change ↦ ?_, fun edit ↦ ?_⟩
  · rw [← hid, Element.update_plug hnodup]
  · simp only [perform, hitem, proceed]
    cases edit.apply entry with
    | error error => rfl
    | ok edited => simp only [replace_plug hid hnodup]

end Distinct

/-- Whatever has been done, no two elements have one identity. So in every box of every tree each
search finds exactly what has the identity, and what is done to a box or an item that has been found
leaves the rest of its tree, and the other trees, as they are. -/
theorem searches_agree_of_run (commands : List Command) :
    ((empty.run commands).nodes.map Node.id).Nodup ∧
    (∀ tree ∈ (empty.run commands).trees, ∀ frame children,
      .box frame children ∈ tree.2.all → Element.FindsById frame children) ∧
    (∀ tree root, (empty.run commands).tree? tree = some root →
      (∀ id frame children, root.findBox? id = some (frame, children) →
        ∃ place : Place, root = place.plug (.box frame children) ∧
          (empty.run commands).BoxStands tree id place frame children) ∧
      ∀ id entry, root.findItem? id = some entry →
        ∃ place : Place, root = place.plug (.item entry) ∧
          (empty.run commands).ItemStands tree id place entry) ∧
    ∀ tree other element, ((empty.run commands).setTree tree element).tree? other =
      if other = tree then some element else (empty.run commands).tree? other := by
  have hids := (tidy_empty.run commands).settled.ids
  refine ⟨hids, fun tree htree frame children hmember ↦ ?_, fun tree root hroot ↦ ⟨?_, ?_⟩,
    tree?_setTree _⟩
  · exact Element.findsById (element_ids_nodup hids htree hmember)
  · exact fun id frame children hfound ↦ boxStands hids hroot hfound
  · exact fun id entry hfound ↦ itemStands hids hroot hfound

end Workspace

end CardQuery.Editor
