import Mathlib.Data.List.Flatten
import Mathlib.Data.List.Perm.Subperm
import CardQuery.Editor.View
import CardQuery.Proofs.Editor.Effects

/-!
Variables stay unique. In a tidy workspace every tree draws from one pool, all identities differ,
and the variables of the items on a pool are held by it and differ, whatever trees they are in
(`Workspace.Tidy`). All but the first of this is about the row of all nodes, whatever their order
(`Settled`), so elements may be moved between trees, and it is kept where nodes draw from a pool or
join one, because a pool grants no name that it holds. Every command keeps a workspace tidy.
-/

set_option autoImplicit false
set_option relaxedAutoImplicit false

namespace CardQuery.Editor

open Workspace (PoolsGrow)

/-! ### Seats -/

/-- The pool and the variable of an item. -/
def Node.seat? : Node → Option (PoolId × String)
  | box _ => none
  | item entry => some (entry.pool, entry.variableName)

/-- The pools and the variables of the items among nodes. -/
def seats (nodes : List Node) : List (PoolId × String) := nodes.filterMap Node.seat?

@[simp] theorem seats_box (frame : Frame) (nodes : List Node) :
    seats (.box frame :: nodes) = seats nodes := rfl

@[simp] theorem seats_item (entry : Item) (nodes : List Node) :
    seats (.item entry :: nodes) = (entry.pool, entry.variableName) :: seats nodes := rfl

theorem seats_append (first second : List Node) :
    seats (first ++ second) = seats first ++ seats second :=
  List.filterMap_append

theorem seats_eq_map {target : PoolId} {nodes : List Node}
    (hpools : ∀ node ∈ nodes, node.pool = target) :
    seats nodes = (Node.names nodes).map (Prod.mk target) := by
  induction nodes with
  | nil => rfl
  | cons node rest ih =>
    rw [List.forall_mem_cons] at hpools
    have hrest := ih hpools.2
    cases node with
    | box frame => simpa using hrest
    | item entry =>
      have hpool : entry.pool = target := hpools.1
      simpa [hpool] using hrest

/-- The seats are taken by one item each, and their pools know it. -/
structure Seated (pools : List NamePool) (seats : List (PoolId × String)) : Prop where
  held : ∀ seat ∈ seats, ∃ pool, pools[seat.1.number]? = some pool ∧ seat.2 ∈ pool.claimed
  nodup : seats.Nodup

namespace Seated

variable {pools : List NamePool} {taken others : List (PoolId × String)}

theorem subperm (hseated : Seated pools taken) (hsub : others.Subperm taken) :
    Seated pools others where
  held seat hseat := hseated.held seat (hsub.subset hseat)
  nodup := by
    obtain ⟨middle, hperm, hsublist⟩ := hsub
    exact (hseated.nodup.sublist hsublist).perm hperm

theorem grow {later : List NamePool} (hseated : Seated pools taken)
    (hgrow : PoolsGrow pools later) : Seated later taken where
  held seat hseat := by
    obtain ⟨pool, hpool, hclaimed⟩ := hseated.held seat hseat
    obtain ⟨grown, hgrown, hkept⟩ := hgrow _ pool hpool
    exact ⟨grown, hgrown, hkept hclaimed⟩
  nodup := hseated.nodup

/-- Names that a pool grants are seats that nobody has taken. -/
theorem grant {target : PoolId} {pool after : NamePool} {names : List String}
    (hseated : Seated pools taken) (hpool : pools[target.number]? = some pool)
    (hgrants : pool.Grants names after) :
    Seated (pools.set target.number after) (names.map (Prod.mk target) ++ taken) where
  held seat hseat := by
    rcases List.mem_append.mp hseat with hnew | hold
    · obtain ⟨name, hname, rfl⟩ := List.mem_map.mp hnew
      exact ⟨after, List.getElem?_set_self (List.getElem?_eq_some_iff.mp hpool).1,
        (hgrants.claimed name).mpr (.inl hname)⟩
    · exact (hseated.grow (.set hpool fun _ hheld ↦ hgrants.mono hheld)).held seat hold
  nodup := by
    have hnames : (names.map (Prod.mk target)).Nodup :=
      hgrants.nodup.map fun _ _ heq ↦ (Prod.mk.inj heq).2
    refine hnames.append hseated.nodup fun seat hnew hold ↦ ?_
    obtain ⟨name, hname, rfl⟩ := List.mem_map.mp hnew
    obtain ⟨found, hfound, hclaimed⟩ := hseated.held _ hold
    obtain rfl := Option.some.inj (hpool.symm.trans hfound)
    exact hgrants.fresh name hname hclaimed

end Seated

/-! ### Nodes -/

/-- The nodes differ in their identities, which have been handed out, and their items have taken
seats of their own. -/
structure Settled (pools : List NamePool) (nextId : Nat) (nodes : List Node) : Prop where
  ids : (nodes.map Node.id).Nodup
  bounded : ∀ node ∈ nodes, node.id.number < nextId
  seated : Seated pools (seats nodes)

namespace Settled

variable {pools : List NamePool} {nextId : Nat} {nodes others : List Node}

theorem subperm (hsettled : Settled pools nextId nodes) (hsub : others.Subperm nodes) :
    Settled pools nextId others where
  ids := by
    obtain ⟨middle, hperm, hsublist⟩ := hsub
    exact (hsettled.ids.sublist (hsublist.map _)).perm (hperm.map _)
  bounded node hnode := hsettled.bounded node (hsub.subset hnode)
  seated := by
    obtain ⟨middle, hperm, hsublist⟩ := hsub
    exact hsettled.seated.subperm ⟨_, hperm.filterMap _, hsublist.filterMap _⟩

theorem grow {later : List NamePool} {laterId : Nat} (hsettled : Settled pools nextId nodes)
    (hgrow : PoolsGrow pools later) (hnext : nextId ≤ laterId) : Settled later laterId nodes where
  ids := hsettled.ids
  bounded node hnode := Nat.lt_of_lt_of_le (hsettled.bounded node hnode) hnext
  seated := hsettled.seated.grow hgrow

/-- Only identities, pools and variables matter. -/
theorem congr (hsettled : Settled pools nextId nodes)
    (hids : others.map Node.id = nodes.map Node.id) (hseats : seats others = seats nodes) :
    Settled pools nextId others where
  ids := hids ▸ hsettled.ids
  bounded node hnode := by
    have hid := List.mem_map_of_mem (f := Node.id) hnode
    rw [hids] at hid
    obtain ⟨other, hother, heq⟩ := List.mem_map.mp hid
    exact heq ▸ hsettled.bounded other hother
  seated := hseats ▸ hsettled.seated

theorem draw {id : PoolId} {pool : NamePool} {drawn : List Node} {rest : Supply}
    (hsettled : Settled pools nextId nodes) (hpool : pools[id.number]? = some pool)
    (hdrawn : Drawn ⟨id, pool, nextId⟩ drawn rest) :
    Settled (pools.set id.number rest.pool) rest.nextId (drawn ++ nodes) where
  ids := by
    rw [List.map_append]
    refine hdrawn.ids_nodup.append hsettled.ids fun id hnew hold ↦ ?_
    obtain ⟨node, hnode, rfl⟩ := List.mem_map.mp hnew
    obtain ⟨other, hother, heq⟩ := List.mem_map.mp hold
    have hlower : nextId ≤ node.id.number := (hdrawn.id_bounds hnode).1
    have hupper := hsettled.bounded other hother
    rw [heq] at hupper
    omega
  bounded node hnode := by
    rcases List.mem_append.mp hnode with hnew | hold
    · exact (hdrawn.id_bounds hnew).2
    · have hnext : rest.nextId = nextId + drawn.length := hdrawn.nextId
      have hupper := hsettled.bounded node hold
      omega
  seated := by
    rw [seats_append, seats_eq_map hdrawn.pools]
    exact hsettled.seated.grant hpool hdrawn.names

theorem joins {target : PoolId} {pool after : NamePool} {moved joined : List Node}
    (hsettled : Settled pools nextId (moved ++ nodes))
    (hpool : pools[target.number]? = some pool) (hjoins : Joins target pool moved joined after) :
    Settled (pools.set target.number after) nextId (joined ++ nodes) where
  ids := by
    rw [List.map_append, hjoins.ids, ← List.map_append]
    exact hsettled.ids
  bounded node hnode := by
    have hid := List.mem_map_of_mem (f := Node.id) hnode
    rw [List.map_append, hjoins.ids, ← List.map_append] at hid
    obtain ⟨other, hother, heq⟩ := List.mem_map.mp hid
    exact heq ▸ hsettled.bounded other hother
  seated := by
    have hothers := hsettled.subperm (List.sublist_append_right moved nodes).subperm
    rw [seats_append, seats_eq_map hjoins.pools]
    exact hothers.seated.grant hpool hjoins.names

end Settled

/-! ### Places -/

/-- One child more in a box is as many nodes more in the tree. -/
theorem Place.nodes_plug_perm (place : Place) {frame : Frame} {children more : List Element}
    {child : Element} (hperm : more.Perm (child :: children)) :
    (place.plug (.box frame more)).nodes.Perm
      (child.nodes ++ (place.plug (.box frame children)).nodes) := by
  have hmore : (more.flatMap Element.nodes).Perm
      (child.nodes ++ children.flatMap Element.nodes) := by
    simpa using hperm.flatMap_right Element.nodes
  simp only [Place.nodes_plug, Element.nodes_box, List.append_assoc, List.cons_append]
  refine List.Perm.trans (.append_left _ (.cons _ (hmore.append_right _))) ?_
  rw [List.append_assoc]
  exact (List.perm_middle.symm.append_left _).trans (List.perm_append_comm_assoc ..)

theorem Place.mem_nodes_plug (place : Place) {member : Element} {node : Node}
    (hnode : node ∈ member.nodes) : node ∈ (place.plug member).nodes := by
  rw [place.nodes_plug]
  exact List.mem_append_left _ (List.mem_append_right _ hnode)

/-! ### Workspaces -/

/-- All nodes of the element are on one pool. -/
def Element.OnOnePool (element : Element) : Prop :=
  ∃ pool, ∀ node ∈ element.nodes, node.pool = pool

/-- An element of one pool that joins the pool of other nodes comes to be settled among them. -/
theorem Settled.join {pools : List NamePool} {nextId : Nat} {nodes : List Node}
    {element : Element} {target : PoolId} {pool : NamePool}
    (hsettled : Settled pools nextId (element.nodes ++ nodes)) (honePool : element.OnOnePool)
    (hpool : pools[target.number]? = some pool) :
    (∀ node ∈ (element.join target pool).1.nodes, node.pool = target) ∧
      Settled (pools.set target.number (element.join target pool).2) nextId
        ((element.join target pool).1.nodes ++ nodes) := by
  obtain ⟨common, hcommon⟩ := honePool
  by_cases hsame : common = target
  · subst hsame
    have hroot : element.pool = common :=
      element.pool_root ▸ hcommon _ element.root_mem_nodes
    rw [Element.join_eq_self hroot]
    exact ⟨hcommon, hsettled.grow (.set hpool fun _ hname ↦ hname) (Nat.le_refl _)⟩
  · have hjoins := element.join_joins target pool fun node hnode ↦
      (hcommon node hnode).symm ▸ hsame
    exact ⟨hjoins.pools, hsettled.joins hpool hjoins⟩

namespace Workspace

structure Tidy (workspace : Workspace) : Prop where
  onePool : ∀ tree ∈ workspace.trees, tree.2.OnOnePool
  settled : Settled workspace.pools workspace.nextId workspace.nodes

theorem tidy_empty : empty.Tidy :=
  ⟨by simp [empty], by simp [empty, nodes], by simp [empty, nodes],
    ⟨by simp [empty, nodes, seats], by simp [empty, nodes, seats]⟩⟩

variable {workspace : Workspace}

/-- A tree and the others are the nodes of the workspace, or fewer if the name occurs again. -/
theorem subperm_of_tree? {name : String} {root : Element}
    (htree : workspace.tree? name = some root) :
    (root.nodes ++ (workspace.dropTree name).nodes).Subperm workspace.nodes := by
  obtain ⟨before, after, hsplit, hbefore⟩ := List.lookup_eq_some_iff.mp htree
  have hkept : (before.filter (·.1 ≠ name) ++ after.filter (·.1 ≠ name)).Sublist
      (before ++ after) :=
    List.filter_sublist.append List.filter_sublist
  have hdrop : (workspace.dropTree name).nodes =
      (before.filter (·.1 ≠ name) ++ after.filter (·.1 ≠ name)).flatMap (·.2.nodes) := by
    simp [nodes, dropTree, hsplit, List.filter_append]
  have hall : workspace.nodes.Perm (root.nodes ++ (before ++ after).flatMap (·.2.nodes)) := by
    simp only [nodes, hsplit, List.flatMap_append, List.flatMap_cons]
    exact List.perm_append_comm_assoc ..
  rw [hdrop]
  exact ((hkept.flatMap _).append_left root.nodes).subperm.trans hall.symm.subperm

theorem dropTree_subperm (name : String) :
    (workspace.dropTree name).nodes.Subperm workspace.nodes :=
  (List.filter_sublist.flatMap _).subperm

theorem tree?_dropTree {name other : String} (hother : other ≠ name) :
    (workspace.dropTree other).tree? name = workspace.tree? name := by
  unfold tree? dropTree
  induction workspace.trees with
  | nil => rfl
  | cons tree rest ih =>
    obtain ⟨label, element⟩ := tree
    by_cases hdropped : label = other
    · have hnot : (name == label) = false := by simp [hdropped, hother.symm]
      rw [List.filter_cons_of_neg (by simp [hdropped]), ih, List.lookup_cons, hnot]
    · rw [List.filter_cons_of_pos (by simp [hdropped]), List.lookup_cons, List.lookup_cons, ih]

namespace Tidy

theorem grow {after : Workspace} (htidy : workspace.Tidy) (hgrows : workspace.Grows after) :
    after.Tidy where
  onePool tree htree := htidy.onePool tree (hgrows.trees ▸ htree)
  settled := by
    have hnodes : after.nodes = workspace.nodes := by rw [nodes, hgrows.trees, nodes]
    exact hnodes ▸ htidy.settled.grow hgrows.pools hgrows.nextId

/-- A tree may take the place of another one if it is on one pool and leaves all nodes settled. -/
theorem setTree {name : String} {element : Element}
    (honePool : ∀ tree ∈ workspace.trees, tree.2.OnOnePool) (helement : element.OnOnePool)
    (hsettled : Settled workspace.pools workspace.nextId
      (element.nodes ++ (workspace.dropTree name).nodes)) :
    (workspace.setTree name element).Tidy where
  onePool tree htree := by
    rcases List.mem_cons.mp htree with rfl | hother
    · exact helement
    · exact honePool tree (List.mem_filter.mp hother).1
  settled := hsettled

theorem onePool_of_tree? (htidy : workspace.Tidy) {name : String} {root : Element}
    (htree : workspace.tree? name = some root) : root.OnOnePool :=
  htidy.onePool _ (mem_trees_of_tree? htree)

/-- One tree next to the others. -/
theorem settled_of_tree? (htidy : workspace.Tidy) {name : String} {root : Element}
    (htree : workspace.tree? name = some root) :
    Settled workspace.pools workspace.nextId
      (root.nodes ++ (workspace.dropTree name).nodes) :=
  htidy.settled.subperm (subperm_of_tree? htree)

/-- A change of one element that leaves identities, pools and variables as they are. -/
theorem change (htidy : workspace.Tidy) {tree : String} {place : Place}
    {member changed : Element} (hroot : workspace.tree? tree = some (place.plug member))
    (hids : changed.nodes.map Node.id = member.nodes.map Node.id)
    (hpools : changed.nodes.map Node.pool = member.nodes.map Node.pool)
    (hseats : seats changed.nodes = seats member.nodes) :
    (workspace.setTree tree (place.plug changed)).Tidy := by
  refine setTree htidy.onePool ?_ ((htidy.settled_of_tree? hroot).congr ?_ ?_)
  · obtain ⟨pool, hpool⟩ := htidy.onePool_of_tree? hroot
    refine ⟨pool, fun node hnode ↦ ?_⟩
    have hsame : (place.plug changed).nodes.map Node.pool =
        (place.plug member).nodes.map Node.pool := by
      simp only [Place.nodes_plug, List.map_append, hpools]
    have hmem := List.mem_map_of_mem (f := Node.pool) hnode
    rw [hsame] at hmem
    obtain ⟨other, hother, heq⟩ := List.mem_map.mp hmem
    exact heq ▸ hpool other hother
  · simp only [Place.nodes_plug, List.map_append, hids]
  · simp only [Place.nodes_plug, seats_append, hseats]

theorem plant (htidy : workspace.Tidy) {id : PoolId} {pool : NamePool}
    {element : Element} {rest : Supply} (hpool : workspace.pools[id.number]? = some pool)
    (hdrawn : Drawn ⟨id, pool, workspace.nextId⟩ element.nodes rest) (tree : String) :
    ((workspace.restock rest).setTree tree element).Tidy := by
  refine setTree htidy.onePool ⟨id, hdrawn.pools⟩ ?_
  rw [pools_restock hdrawn]
  exact (htidy.settled.subperm (dropTree_subperm tree)).draw hpool hdrawn

theorem editBox (htidy : workspace.Tidy) {tree : String} {place : Place} {frame : Frame}
    {children : List Element}
    (hroot : workspace.tree? tree = some (place.plug (.box frame children))) (edit : BoxEdit) :
    (workspace.setTree tree (place.plug (.box (edit.apply frame) children))).Tidy := by
  refine htidy.change hroot ?_ ?_ (by simp)
  · cases edit <;> simp [BoxEdit.apply, Node.id]
  · cases edit <;> simp [BoxEdit.apply, Node.pool]

theorem editItem (htidy : workspace.Tidy) {tree : String} {place : Place} {item edited : Item}
    (hroot : workspace.tree? tree = some (place.plug (.item item))) (hkeeps : item.Keeps edited) :
    (workspace.setTree tree (place.plug (.item edited))).Tidy := by
  refine htidy.change hroot ?_ ?_ ?_
  · simp [Node.id, hkeeps.id]
  · simp [Node.pool, hkeeps.pool]
  · simp [hkeeps.pool, hkeeps.variableName]

/-- A box is on the pool of its tree. -/
theorem onPool_of_box (htidy : workspace.Tidy) {tree : String} {place : Place} {frame : Frame}
    {children : List Element}
    (hroot : workspace.tree? tree = some (place.plug (.box frame children))) :
    ∀ node ∈ (place.plug (.box frame children)).nodes, node.pool = frame.pool := by
  obtain ⟨common, hcommon⟩ := htidy.onePool_of_tree? hroot
  have hframe : frame.pool = common := hcommon (.box frame) (place.mem_nodes_plug (by simp))
  exact fun node hnode ↦ (hcommon node hnode).trans hframe.symm

/-- A box with one child more, where the child is on the pool of the box. -/
theorem onOnePool_of_insert (htidy : workspace.Tidy) {tree : String} {place : Place}
    {frame : Frame} {children more : List Element} {child : Element}
    (hroot : workspace.tree? tree = some (place.plug (.box frame children)))
    (hperm : more.Perm (child :: children))
    (hchild : ∀ node ∈ child.nodes, node.pool = frame.pool) :
    (place.plug (.box frame more)).OnOnePool := by
  refine ⟨frame.pool, fun node hnode ↦ ?_⟩
  rcases List.mem_append.mp ((place.nodes_plug_perm hperm).subset hnode) with hnew | hold
  · exact hchild node hnew
  · exact htidy.onPool_of_box hroot node hold

theorem addChild (htidy : workspace.Tidy) {tree : String} {place : Place} {frame : Frame}
    {children : List Element} {pool : NamePool} {child : Element} {rest : Supply}
    (hroot : workspace.tree? tree = some (place.plug (.box frame children)))
    (hpool : workspace.pools[frame.pool.number]? = some pool)
    (hdrawn : Drawn ⟨frame.pool, pool, workspace.nextId⟩ child.nodes rest) :
    ((workspace.restock rest).setTree tree
      (place.plug (.box frame (children ++ [child])))).Tidy := by
  have hperm : (children ++ [child]).Perm (child :: children) := List.perm_append_comm
  refine setTree htidy.onePool (htidy.onOnePool_of_insert hroot hperm hdrawn.pools) ?_
  rw [pools_restock hdrawn]
  refine ((htidy.settled_of_tree? hroot).draw hpool hdrawn).subperm ?_
  rw [← List.append_assoc]
  exact ((place.nodes_plug_perm hperm).append_right _).subperm

theorem attach (htidy : workspace.Tidy) {tree child : String} {place : Place} {frame : Frame}
    {children : List Element} {element : Element} {pool : NamePool} {index : Nat}
    (hroot : workspace.tree? tree = some (place.plug (.box frame children)))
    (hother : child ≠ tree) (hchild : workspace.tree? child = some element)
    (hpool : workspace.pools[frame.pool.number]? = some pool)
    (hindex : index ≤ children.length) :
    (((workspace.dropTree child).setPool frame.pool (element.join frame.pool pool).2).setTree tree
      (place.plug (.box frame
        (children.insertIdx index (element.join frame.pool pool).1)))).Tidy := by
  have hperm := List.perm_insertIdx (element.join frame.pool pool).1 children hindex
  -- The tree that is moved stands apart from the tree it is moved into.
  have hapart : (element.nodes ++ ((place.plug (.box frame children)).nodes ++
      ((workspace.dropTree child).dropTree tree).nodes)).Subperm workspace.nodes := by
    refine List.Subperm.trans ?_ (subperm_of_tree? hchild)
    rw [List.subperm_append_left]
    exact subperm_of_tree? ((tree?_dropTree hother).trans hroot)
  obtain ⟨honPool, hsettled⟩ := Settled.join (htidy.settled.subperm hapart)
    (htidy.onePool_of_tree? hchild) hpool
  refine setTree (fun other hin ↦ htidy.onePool other (List.mem_filter.mp hin).1)
    (htidy.onOnePool_of_insert hroot hperm honPool) (hsettled.subperm ?_)
  rw [← List.append_assoc]
  exact ((place.nodes_plug_perm hperm).append_right _).subperm

theorem detach (htidy : workspace.Tidy) {tree : String} {place : Place} {frame : Frame}
    {before after : List Element} {child : Element}
    (hroot : workspace.tree? tree = some (place.plug (.box frame (before ++ child :: after))))
    (keepAs : Option String) :
    ((workspace.setTree tree (place.plug (.box frame (before ++ after)))).keep (some child)
      keepAs).Tidy := by
  have hchildren : (before ++ child :: after).Perm (child :: (before ++ after)) :=
    List.perm_middle
  have hperm : (place.plug (.box frame (before ++ child :: after))).nodes.Perm
      (child.nodes ++ (place.plug (.box frame (before ++ after))).nodes) :=
    place.nodes_plug_perm hchildren
  have hsettled := (htidy.settled_of_tree? hroot).subperm (hperm.symm.append_right _).subperm
  have hcommon := htidy.onPool_of_box hroot
  have htree : (workspace.setTree tree (place.plug (.box frame (before ++ after)))).Tidy := by
    refine setTree htidy.onePool ⟨frame.pool, fun node hnode ↦ ?_⟩ (hsettled.subperm ?_)
    · exact hcommon node (hperm.symm.subset (List.mem_append_right _ hnode))
    · rw [List.append_assoc]
      exact (List.sublist_append_right _ _).subperm
  cases keepAs with
  | none => exact htree
  | some name =>
    refine setTree htree.onePool ⟨frame.pool, fun node hnode ↦ ?_⟩ (hsettled.subperm ?_)
    · exact hcommon node (hperm.symm.subset (List.mem_append_left _ hnode))
    · rw [List.append_assoc, List.subperm_append_left]
      exact dropTree_subperm name

theorem effect {Offered : Seed → Prop} {after : Workspace} (htidy : workspace.Tidy)
    (heffect : workspace.Effect Offered after) : after.Tidy := by
  cases heffect with
  | plant hpool hdrawn hsown => exact htidy.plant hpool hdrawn _
  | editBox hroot => exact htidy.editBox hroot _
  | editItem hroot hedit => exact htidy.editItem hroot (ItemEdit.keeps_of_apply hedit)
  | addChild hroot hpool hdrawn hsown => exact htidy.addChild hroot hpool hdrawn
  | attach hroot hother hchild hpool hindex =>
    exact htidy.attach hroot hother hchild hpool hindex
  | detach hroot => exact htidy.detach hroot _

theorem perform (htidy : workspace.Tidy) (command : Command) :
    (workspace.perform command).2.Tidy := by
  obtain ⟨middle, hgrows, hend⟩ := perform_becomes htidy.settled.ids command
  rcases hend with heq | heffect
  · exact heq ▸ htidy.grow hgrows
  · exact (htidy.grow hgrows).effect heffect

theorem run (htidy : workspace.Tidy) (commands : List Command) :
    (workspace.run commands).Tidy := by
  induction commands generalizing workspace with
  | nil => exact htidy
  | cons command rest ih => exact ih (htidy.perform command)

end Tidy

/-! ### What is seen of it -/

theorem seats_nodes (workspace : Workspace) :
    seats workspace.nodes = workspace.items.map fun item ↦ (item.pool, item.variableName) := by
  rw [items_eq_filterMap, seats, List.map_filterMap]
  refine List.filterMap_congr fun node _ ↦ ?_
  cases node <;> rfl

theorem Tidy.pool_eq (htidy : workspace.Tidy) {tree : String × Element}
    (htree : tree ∈ workspace.trees) {member : Element} (hmember : member ∈ tree.2.all) :
    member.pool = tree.2.pool := by
  obtain ⟨common, hcommon⟩ := htidy.onePool tree htree
  have hinside := hcommon _ (Element.nodes_subset hmember member.root_mem_nodes)
  have hroot := hcommon _ tree.2.root_mem_nodes
  rw [← member.pool_root, ← tree.2.pool_root, hinside, hroot]

theorem Tidy.names_nodup (htidy : workspace.Tidy) {tree : String × Element}
    (htree : tree ∈ workspace.trees) : (tree.2.items.map Item.variableName).Nodup := by
  obtain ⟨common, hcommon⟩ := htidy.onePool tree htree
  have hnodup := (htidy.settled.subperm (nodes_sublist htree).subperm).seated.nodup
  rw [seats_eq_map hcommon, Node.names_nodes] at hnodup
  exact hnodup.of_map

end Workspace

/-! ### The variables of a tree -/

theorem length_insertName {name : String} {names : List String} (hnew : name ∉ names) :
    (insertName name names).length = names.length + 1 := by
  induction names with
  | nil => rfl
  | cons first rest ih =>
    rw [List.mem_cons, not_or] at hnew
    rw [insertName, if_neg hnew.1]
    split
    · rfl
    · rw [List.length_cons, ih hnew.2, List.length_cons]

theorem mem_foldr_insertName {name : String} {names : List String} :
    name ∈ names.foldr insertName [] ↔ name ∈ names := by
  induction names with
  | nil => rfl
  | cons first rest ih => rw [List.foldr_cons, mem_insertName, ih, List.mem_cons]

/-- Names that differ are all kept where each is listed once. -/
theorem length_foldr_insertName {names : List String} (hnodup : names.Nodup) :
    (names.foldr insertName []).length = names.length := by
  induction names with
  | nil => rfl
  | cons first rest ih =>
    rw [List.nodup_cons] at hnodup
    rw [List.foldr_cons, length_insertName (mem_foldr_insertName.not.mpr hnodup.1), ih hnodup.2,
      List.length_cons]

/-- Whatever has been done, every tree is on one pool, the variable of every item is held by its
pool, and no two items on a pool have the same variable. So a tree has as many variables as
items. -/
theorem Workspace.variables_unique_of_run (commands : List Command) :
    (∀ tree ∈ (empty.run commands).trees, ∀ member ∈ tree.2.all, member.pool = tree.2.pool) ∧
    (∀ item ∈ (empty.run commands).items, ∃ pool,
      (empty.run commands).pools[item.pool.number]? = some pool ∧
        item.variableName ∈ pool.claimed) ∧
    ((empty.run commands).items.map fun item ↦ (item.pool, item.variableName)).Nodup ∧
    ∀ tree ∈ (empty.run commands).trees,
      tree.2.variableNames.length = tree.2.items.length := by
  have htidy := tidy_empty.run commands
  have hseated := htidy.settled.seated
  rw [seats_nodes] at hseated
  refine ⟨fun tree htree member hmember ↦ htidy.pool_eq htree hmember, fun item hitem ↦ ?_,
    hseated.nodup, fun tree htree ↦ ?_⟩
  · exact hseated.held (item.pool, item.variableName)
      (List.mem_map_of_mem (f := fun item : Item ↦ (item.pool, item.variableName)) hitem)
  · rw [Element.variableNames, length_foldr_insertName (htidy.names_nodup htree),
      List.length_map]

end CardQuery.Editor
