import CardQuery.Proofs.Editor.Identities

/-!
Commands at a place. In a workspace whose elements differ in their identities, a command finds the
box or the item that it names at one place of the tree, and what comes to stand there is all that
changes: `editBox_plug`, `editItem_plug`, `detachChild_plug` and `attachTree_plug` say what each
command does, and `detachChild_eq_detached` and `attachTree_eq_done` what has been found where a
child has been taken out or a tree put in. That the pool of a box is always at hand is an invariant
of its own (`Stocked`).
-/

set_option autoImplicit false
set_option relaxedAutoImplicit false

namespace CardQuery.Editor

namespace Place

/-- What is in the element at a place is in the tree. -/
theorem mem_all_plug (place : Place) {member inside : Element} (hinside : inside ∈ member.all) :
    inside ∈ (place.plug member).all := by
  induction place with
  | nil => exact hinside
  | cons layer inner ih => exact Element.mem_all_box (by simp) ih

/-- The pool of a tree is that of its root. -/
theorem pool_plug {first second : Element} (place : Place) (hpool : first.pool = second.pool) :
    (place.plug first).pool = (place.plug second).pool := by
  cases place with
  | nil => exact hpool
  | cons layer inner => rfl

end Place

namespace Workspace

variable {workspace : Workspace}

theorem Tidy.performed {command : Command} {answer : Except Refusal Answer} {after : Workspace}
    (htidy : workspace.Tidy) (hperform : workspace.perform command = (answer, after)) :
    after.Tidy := by
  have hafter := htidy.perform command
  rwa [hperform] at hafter

theorem tree?_setTree_self (workspace : Workspace) (tree : String) (element : Element) :
    (workspace.setTree tree element).tree? tree = some element := by
  rw [tree?_setTree, if_pos rfl]

/-! ### Pools of trees -/

/-- The workspace has the pool of every tree. -/
def Stocked (workspace : Workspace) : Prop :=
  ∀ tree ∈ workspace.trees, tree.2.pool.number < workspace.pools.length

theorem stocked_empty : empty.Stocked := by simp [Stocked, empty]

/-- No pool goes away. -/
theorem PoolsGrow.lt_length {before after : List NamePool} (hgrow : PoolsGrow before after)
    {number : Nat} (hlt : number < before.length) : number < after.length := by
  obtain ⟨later, hlater, -⟩ := hgrow number _ (List.getElem?_eq_getElem hlt)
  exact (List.getElem?_eq_some_iff.mp hlater).1

namespace Stocked

theorem exists_pool (hstocked : workspace.Stocked) {name : String} {root : Element}
    (hroot : workspace.tree? name = some root) :
    ∃ pool, workspace.pools[root.pool.number]? = some pool :=
  ⟨_, List.getElem?_eq_getElem (hstocked _ (mem_trees_of_tree? hroot))⟩

theorem grow {after : Workspace} (hstocked : workspace.Stocked) (hgrows : workspace.Grows after) :
    after.Stocked :=
  fun tree htree ↦ hgrows.pools.lt_length (hstocked tree (hgrows.trees ▸ htree))

theorem setTree (hstocked : workspace.Stocked) {element : Element}
    (hpool : element.pool.number < workspace.pools.length) (name : String) :
    (workspace.setTree name element).Stocked := by
  intro tree htree
  rcases List.mem_cons.mp htree with rfl | hother
  · exact hpool
  · exact hstocked tree (List.mem_filter.mp hother).1

/-- A change at a place that leaves the pool there. -/
theorem change (hstocked : workspace.Stocked) {tree : String} {place : Place}
    {member changed : Element} (hroot : workspace.tree? tree = some (place.plug member))
    (hpool : changed.pool = member.pool) :
    (workspace.setTree tree (place.plug changed)).Stocked := by
  have hheld := hstocked _ (mem_trees_of_tree? hroot)
  rw [place.pool_plug hpool.symm] at hheld
  exact hstocked.setTree hheld tree

theorem effect {Offered : Seed → Prop} {after : Workspace} (hstocked : workspace.Stocked)
    (htidy : workspace.Tidy) (heffect : workspace.Effect Offered after) : after.Stocked := by
  cases heffect with
  | @plant tree id pool element rest hpool hdrawn hsown =>
    have hid : element.pool = id := element.pool_root ▸ hdrawn.pools _ element.root_mem_nodes
    have hheld : id.number < workspace.pools.length := (List.getElem?_eq_some_iff.mp hpool).1
    have hgrows := grows_restock hpool hdrawn
    exact (hstocked.grow hgrows).setTree (hid ▸ hgrows.pools.lt_length hheld) tree
  | @editBox tree place frame children edit hroot =>
    exact hstocked.change hroot (by cases edit <;> rfl)
  | editItem hroot hedit => exact hstocked.change hroot (ItemEdit.keeps_of_apply hedit).pool
  | addChild hroot hpool hdrawn hsown =>
    exact (hstocked.grow (grows_restock hpool hdrawn)).change hroot rfl
  | @attach tree child place frame children element pool index hroot hother hchild hpool hindex =>
    have hdropped : ((workspace.dropTree child).setPool frame.pool
        (element.join frame.pool pool).2).Stocked := by
      intro other hin
      simpa [setPool, dropTree] using hstocked other (List.mem_filter.mp hin).1
    exact hdropped.change ((tree?_dropTree hother).trans hroot) rfl
  | @detach tree place frame before after child keepAs hroot =>
    have hsmaller : (workspace.setTree tree (place.plug (.box frame (before ++ after)))).Stocked :=
      hstocked.change hroot rfl
    cases keepAs with
    | none => exact hsmaller
    | some name =>
      refine hsmaller.setTree ?_ name
      have hinside : child ∈ (Element.box frame (before ++ child :: after)).all :=
        Element.mem_all_box (by simp) child.mem_all_self
      have hpool := htidy.pool_eq (mem_trees_of_tree? hroot) (place.mem_all_plug hinside)
      exact hpool ▸ hstocked _ (mem_trees_of_tree? hroot)

theorem perform (hstocked : workspace.Stocked) (htidy : workspace.Tidy) (command : Command) :
    (workspace.perform command).2.Stocked := by
  obtain ⟨middle, hgrows, hend⟩ := perform_becomes htidy.settled.ids command
  rcases hend with heq | heffect
  · exact heq ▸ hstocked.grow hgrows
  · exact (hstocked.grow hgrows).effect (htidy.grow hgrows) heffect

theorem run (hstocked : workspace.Stocked) (htidy : workspace.Tidy) (commands : List Command) :
    (workspace.run commands).Stocked := by
  induction commands generalizing workspace with
  | nil => exact hstocked
  | cons command rest ih => exact ih (hstocked.perform htidy command) (htidy.perform command)

end Stocked

/-! ### What a command does at a place -/

section Distinct

variable (hids : (workspace.nodes.map Node.id).Nodup) {tree : String} {place : Place}

include hids

theorem box?_plug {frame : Frame} {children : List Element}
    (hroot : workspace.tree? tree = some (place.plug (.box frame children))) :
    workspace.box? tree frame.id =
      .ok (place.plug (.box frame children), frame, children) := by
  have hall := element_ids_nodup hids (mem_trees_of_tree? hroot) (Element.mem_all_self _)
  have hfound := (Element.findBox?_eq_some_iff hall).mpr
    ⟨place.mem_all_plug (Element.mem_all_self _), rfl⟩
  simp [box?, hroot, hfound]

theorem item?_plug {entry : Item}
    (hroot : workspace.tree? tree = some (place.plug (.item entry))) :
    workspace.item? tree entry.id = .ok (place.plug (.item entry), entry) := by
  have hall := element_ids_nodup hids (mem_trees_of_tree? hroot) (Element.mem_all_self _)
  have hfound := (Element.findItem?_eq_some_iff hall).mpr
    ⟨place.mem_all_plug (Element.mem_all_self _), rfl⟩
  simp [item?, hroot, hfound]

theorem editBox_plug {frame : Frame} {children : List Element}
    (hroot : workspace.tree? tree = some (place.plug (.box frame children))) (edit : BoxEdit) :
    workspace.perform (.editBox tree frame.id edit) =
      (.ok .done, workspace.setTree tree (place.plug (.box (edit.apply frame) children))) := by
  have hid : (Element.box frame children).id = frame.id := rfl
  simp only [perform, box?_plug hids hroot, proceed, replace_plug hid (nodup_of_tree? hids hroot)]

theorem editItem_plug {entry edited : Item} {edit : ItemEdit}
    (hroot : workspace.tree? tree = some (place.plug (.item entry)))
    (hedit : edit.apply entry = .ok edited) :
    workspace.perform (.editItem tree entry.id edit) =
      (.ok .done, workspace.setTree tree (place.plug (.item edited))) := by
  have hid : (Element.item entry).id = entry.id := rfl
  simp only [perform, item?_plug hids hroot, proceed, hedit,
    replace_plug hid (nodup_of_tree? hids hroot)]

theorem detachChild_plug {frame : Frame} {children rest : List Element} {child : Element}
    {choose : List Element → Option (Element × List Element)}
    (hroot : workspace.tree? tree = some (place.plug (.box frame children)))
    (hchoose : choose children = some (child, rest)) (keepAs : Option String) :
    workspace.detachChild tree frame.id choose keepAs =
      (.ok (.detached (some child)),
        (workspace.setTree tree (place.plug (.box frame rest))).keep (some child) keepAs) := by
  have hid : (Element.box frame children).id = frame.id := rfl
  simp only [detachChild, box?_plug hids hroot, proceed, hchoose,
    replace_plug hid (nodup_of_tree? hids hroot)]

/-- A child of a box is taken out from among the others. -/
theorem perform_detach_plug {frame : Frame} {before after : List Element} {child : Element}
    (hroot : workspace.tree? tree = some (place.plug (.box frame (before ++ child :: after))))
    (keepAs : Option String) :
    workspace.perform (.detach tree frame.id child.id keepAs) = (.ok (.detached (some child)),
      (workspace.setTree tree (place.plug (.box frame (before ++ after)))).keep (some child)
        keepAs) := by
  have hbox := place.mem_all_plug (Element.mem_all_self (.box frame (before ++ child :: after)))
  have hdiffer : ((before ++ child :: after).map Element.id).Nodup :=
    Element.children_ids_nodup (element_ids_nodup hids (mem_trees_of_tree? hroot) hbox)
  refine detachChild_plug hids hroot ?_ keepAs
  exact (Element.extract?_eq_some_iff hdiffer).mpr ⟨rfl, before, after, rfl, rfl⟩

theorem attachTree_plug {child : String} {frame : Frame} {children : List Element}
    {element : Element} {pool : NamePool}
    (hroot : workspace.tree? tree = some (place.plug (.box frame children)))
    (hother : child ≠ tree) (hchild : workspace.tree? child = some element)
    (hpool : workspace.pools[frame.pool.number]? = some pool) (index : Option Nat) :
    workspace.attachTree tree frame.id child index =
      (.ok .done, ((workspace.dropTree child).setPool frame.pool
        (element.join frame.pool pool).2).setTree tree (place.plug (.box frame
          (children.insertIdx (min (index.getD children.length) children.length)
            (element.join frame.pool pool).1)))) := by
  have hid : (Element.box frame children).id = frame.id := rfl
  simp only [attachTree, box?_plug hids hroot, proceed, movedTree?, if_neg hother, hchild, pool?,
    hpool, replace_plug hid (nodup_of_tree? hids hroot)]

end Distinct

/-! ### What a command has found -/

section Distinct

variable (hids : (workspace.nodes.map Node.id).Nodup) {tree : String} {id : ElementId}
  {after : Workspace}

include hids

theorem detachChild_eq_detached {choose : List Element → Option (Element × List Element)}
    {keepAs : Option String} {child : Element}
    (hdetached : workspace.detachChild tree id choose keepAs =
      (.ok (.detached (some child)), after)) :
    ∃ (place : Place) (frame : Frame) (children rest : List Element),
      workspace.tree? tree = some (place.plug (.box frame children)) ∧
      choose children = some (child, rest) ∧
      after = (workspace.setTree tree (place.plug (.box frame rest))).keep (some child) keepAs := by
  cases hbox : workspace.box? tree id with
  | error refusal => simp [detachChild, hbox, proceed] at hdetached
  | ok found =>
    obtain ⟨root, frame, children⟩ := found
    obtain ⟨hroot, rfl, place, rfl⟩ := box?_eq_ok hbox
    cases hchoose : choose children with
    | none => simp [detachChild, hbox, proceed, hchoose] at hdetached
    | some chosen =>
      obtain ⟨taken, rest⟩ := chosen
      have hplug := detachChild_plug hids hroot hchoose keepAs
      have hsame := hdetached.symm.trans hplug
      simp only [Prod.mk.injEq, Except.ok.injEq, Answer.detached.injEq, Option.some.injEq] at hsame
      obtain ⟨rfl, rfl⟩ := hsame
      exact ⟨place, frame, children, rest, hroot, hchoose, rfl⟩

theorem attachTree_eq_done {child : String} {index : Option Nat}
    (hattached : workspace.attachTree tree id child index = (.ok .done, after)) :
    ∃ (place : Place) (frame : Frame) (children : List Element) (element : Element)
      (pool : NamePool),
      workspace.tree? tree = some (place.plug (.box frame children)) ∧ child ≠ tree ∧
      workspace.tree? child = some element ∧
      workspace.pools[frame.pool.number]? = some pool ∧
      after = ((workspace.dropTree child).setPool frame.pool
        (element.join frame.pool pool).2).setTree tree (place.plug (.box frame
          (children.insertIdx (min (index.getD children.length) children.length)
            (element.join frame.pool pool).1))) := by
  cases hbox : workspace.box? tree id with
  | error refusal => simp [attachTree, hbox, proceed] at hattached
  | ok found =>
    obtain ⟨root, frame, children⟩ := found
    obtain ⟨hroot, rfl, place, rfl⟩ := box?_eq_ok hbox
    cases hmoved : workspace.movedTree? tree child with
    | error refusal => simp [attachTree, hbox, proceed, hmoved] at hattached
    | ok element =>
      obtain ⟨hother, hchild⟩ := movedTree?_eq_ok hmoved
      cases hpool : workspace.pool? frame.pool with
      | error refusal => simp [attachTree, hbox, proceed, hmoved, hpool] at hattached
      | ok pool =>
        have hheld := pool?_eq_ok hpool
        have hplug := attachTree_plug hids hroot hother hchild hheld index
        have hsame := (Prod.mk.inj (hattached.symm.trans hplug)).2
        exact ⟨place, frame, children, element, pool, hroot, hother, hchild, hheld, hsame⟩

end Distinct

end Workspace

end CardQuery.Editor
