import CardQuery.Editor.Workspace
import CardQuery.Proofs.Editor.Drawing
import CardQuery.Proofs.Editor.Rows
import CardQuery.Proofs.Editor.Sketches

/-!
What a command does to a workspace. First pools may come into being or grow (`Workspace.Grows`), and
then at most one of a few things happens to the trees (`Workspace.Effect`): a tree is planted, an
element of a tree is edited, or a child is added, attached or taken out at a place of a tree. Items
come from seeds that the command offers and from nowhere else. `perform_becomes` is what invariants
of runs are proved from; it takes that no two elements have one identity, since otherwise a change
of one element might change another.
-/

set_option autoImplicit false
set_option relaxedAutoImplicit false

namespace CardQuery.Editor

/-! ### Where items come from -/

/-- The item has just been made of the seed. -/
structure Item.Sown (item : Item) (seed : Seed) : Prop where
  keyword : item.keyword = seed.keyword
  description : item.description = seed.description
  negated : item.negated = seed.negated
  disabled : item.disabled = false
  shape : item.shape = seed.shape
  current : item.current = seed.current
  variableName : seed.wish = some item.variableName ∨
    ∃ number, item.variableName = NamePool.numbered number

theorem Item.sown_ofSeed (seed : Seed) (supply : Supply) :
    (Item.ofSeed seed supply).1.Sown seed :=
  ⟨rfl, rfl, rfl, rfl, rfl, rfl, supply.pool.wished_or_numbered seed.wish⟩

/-- The item is still the same one: at most its values and its switches have changed. -/
structure Item.Keeps (before after : Item) : Prop where
  id : after.id = before.id
  keyword : after.keyword = before.keyword
  description : after.description = before.description
  variableName : after.variableName = before.variableName
  shape : after.shape = before.shape
  pool : after.pool = before.pool

theorem ItemEdit.keeps_of_apply {item edited : Item} {edit : ItemEdit}
    (hedit : edit.apply item = .ok edited) : item.Keeps edited := by
  cases edit with
  | setNegated | setDisabled | clear =>
    obtain rfl := Except.ok.inj hedit
    exact ⟨rfl, rfl, rfl, rfl, rfl, rfl⟩
  | enterText text =>
    simp only [apply, Item.enterText] at hedit
    split at hedit
    · obtain rfl := Except.ok.inj hedit
      exact ⟨rfl, rfl, rfl, rfl, rfl, rfl⟩
    · cases hedit
  | selectValues values =>
    simp only [apply, Item.selectValues] at hedit
    split at hedit
    · obtain rfl := Except.ok.inj hedit
      exact ⟨rfl, rfl, rfl, rfl, rfl, rfl⟩
    · cases hedit
  | selectSides values origins =>
    simp only [apply, Item.selectSides] at hedit
    split at hedit
    · obtain rfl := Except.ok.inj hedit
      exact ⟨rfl, rfl, rfl, rfl, rfl, rfl⟩
    · cases hedit

/-- A seed of the filter, if there is a filter. -/
def OffersOf (filter : Option Filter) (seed : Seed) : Prop :=
  ∃ inner, filter = some inner ∧ Offers inner seed

theorem offersOf_some {filter : Filter} {seed : Seed} :
    OffersOf (some filter) seed ↔ Offers filter seed := by
  simp [OffersOf]

theorem Element.sown_of_build {subject : Subject} {filter : Option Filter}
    {supply rest : Supply} {element : Element}
    (hbuild : ofFilter subject filter supply = (.ok element, rest)) :
    ∀ item ∈ element.items, ∃ seed, OffersOf filter seed ∧ item.Sown seed := by
  cases filter with
  | none =>
    simp only [ofFilter, emptyBox, Prod.mk.injEq, Except.ok.injEq] at hbuild
    simp [← hbuild.1]
  | some filter =>
    obtain ⟨outline, houtline, hdrawn⟩ := ofFilter_eq_ok hbuild
    have hseeds := (row_ofOutline subject outline supply).exists_seed
    rw [hdrawn] at hseeds
    intro item hitem
    obtain ⟨seed, hseed, middle, -, rfl⟩ := hseeds item hitem
    exact ⟨seed, ⟨filter, rfl, (Outline.whole_of_complete houtline).offers seed hseed⟩,
      Item.sown_ofSeed seed middle⟩

/-- The seed of a keyword with nothing selected. -/
def Seed.ofKeyword (keyword : Keyword) : Seed :=
  ⟨keyword.name, keyword.description, none, false, keyword.argument,
    .ofArgument keyword.argument⟩

theorem drawn_ofKeyword (keyword : Keyword) (supply : Supply) :
    Drawn supply (Element.item (Item.ofKeyword keyword supply).1).nodes
      (Item.ofKeyword keyword supply).2 := by
  rw [Element.nodes_item]
  exact drawn_item (.ofKeyword keyword) supply

theorem sown_ofKeyword (keyword : Keyword) (supply : Supply) :
    ∀ item ∈ (Element.item (Item.ofKeyword keyword supply).1).items,
      ∃ seed, seed = Seed.ofKeyword keyword ∧ item.Sown seed := by
  intro item hitem
  rw [Element.items_item, List.mem_singleton] at hitem
  exact ⟨_, rfl, hitem ▸ Item.sown_ofSeed (.ofKeyword keyword) supply⟩

/-- The seeds that a command may make items of. -/
def Command.Offered : Command → Seed → Prop
  | .newBox _ _, seed => OffersOf none seed
  | .build _ _ _ filter, seed => OffersOf filter seed
  | .takeItem _ _ filter, seed => Offers filter seed
  | .newItem _ _ keyword, seed | .addItem _ _ keyword, seed =>
    seed = .ofKeyword keyword
  | _, _ => False

namespace Workspace

/-! ### Growing pools -/

/-- Every pool is still there and holds the names that it held. -/
def PoolsGrow (before after : List NamePool) : Prop :=
  ∀ (number : Nat) (pool : NamePool), before[number]? = some pool →
    ∃ later, after[number]? = some later ∧ pool.claimed ⊆ later.claimed

theorem PoolsGrow.refl (pools : List NamePool) : PoolsGrow pools pools :=
  fun _ pool hpool ↦ ⟨pool, hpool, fun _ hname ↦ hname⟩

theorem PoolsGrow.trans {first second third : List NamePool} (hfirst : PoolsGrow first second)
    (hsecond : PoolsGrow second third) : PoolsGrow first third := by
  intro number pool hpool
  obtain ⟨middle, hmiddle, hclaimed⟩ := hfirst number pool hpool
  obtain ⟨later, hlater, hagain⟩ := hsecond number middle hmiddle
  exact ⟨later, hlater, fun _ hname ↦ hagain (hclaimed hname)⟩

theorem PoolsGrow.append (pools more : List NamePool) : PoolsGrow pools (pools ++ more) := by
  intro number pool hpool
  have hbound : number < pools.length := (List.getElem?_eq_some_iff.mp hpool).1
  refine ⟨pool, ?_, fun _ hname ↦ hname⟩
  rw [List.getElem?_append_left hbound, hpool]

theorem PoolsGrow.set {pools : List NamePool} {number : Nat} {pool later : NamePool}
    (hpool : pools[number]? = some pool) (hclaimed : pool.claimed ⊆ later.claimed) :
    PoolsGrow pools (pools.set number later) := by
  intro other found hfound
  by_cases heq : number = other
  · subst heq
    obtain rfl := Option.some.inj (hpool.symm.trans hfound)
    exact ⟨later, List.getElem?_set_self (List.getElem?_eq_some_iff.mp hpool).1, hclaimed⟩
  · exact ⟨found, by rw [List.getElem?_set_ne heq, hfound], fun _ hname ↦ hname⟩

/-- The trees are as they were, and what is handed out has grown. -/
structure Grows (before after : Workspace) : Prop where
  trees : after.trees = before.trees
  nextId : before.nextId ≤ after.nextId
  pools : PoolsGrow before.pools after.pools

theorem Grows.refl (workspace : Workspace) : workspace.Grows workspace :=
  ⟨rfl, Nat.le_refl _, .refl _⟩

theorem Grows.trans {first second third : Workspace} (hfirst : first.Grows second)
    (hsecond : second.Grows third) : first.Grows third :=
  ⟨hsecond.trees.trans hfirst.trees, Nat.le_trans hfirst.nextId hsecond.nextId,
    hfirst.pools.trans hsecond.pools⟩

theorem grows_addPool (workspace : Workspace) (pool : NamePool) :
    workspace.Grows (workspace.addPool pool).2 :=
  ⟨rfl, Nat.le_refl _, .append _ _⟩

theorem grows_setPool {workspace : Workspace} {id : PoolId} {pool later : NamePool}
    (hpool : workspace.pools[id.number]? = some pool) (hclaimed : pool.claimed ⊆ later.claimed) :
    workspace.Grows (workspace.setPool id later) :=
  ⟨rfl, Nat.le_refl _, .set hpool hclaimed⟩

theorem pools_restock {workspace : Workspace} {id : PoolId} {pool : NamePool} {nodes : List Node}
    {rest : Supply} (hdrawn : Drawn ⟨id, pool, workspace.nextId⟩ nodes rest) :
    (workspace.restock rest).pools = workspace.pools.set id.number rest.pool := by
  have hid : rest.poolId = id := hdrawn.poolId
  rw [← hid]
  rfl

/-- Whatever has been drawn from a supply of the workspace, the rest is a grown one. -/
theorem grows_restock {workspace : Workspace} {id : PoolId} {pool : NamePool}
    {nodes : List Node} {rest : Supply} (hpool : workspace.pools[id.number]? = some pool)
    (hdrawn : Drawn ⟨id, pool, workspace.nextId⟩ nodes rest) :
    workspace.Grows (workspace.restock rest) where
  trees := rfl
  nextId := by
    have hnext : rest.nextId = workspace.nextId + nodes.length := hdrawn.nextId
    change workspace.nextId ≤ rest.nextId
    omega
  pools := by
    have hclaimed : pool.claimed ⊆ rest.pool.claimed := fun name hname ↦ hdrawn.names.mono hname
    rw [pools_restock hdrawn]
    exact .set hpool hclaimed

/-! ### Finding -/

theorem pool?_eq_ok {workspace : Workspace} {id : PoolId} {pool : NamePool}
    (hfound : workspace.pool? id = .ok pool) : workspace.pools[id.number]? = some pool := by
  unfold pool? at hfound
  split at hfound
  · cases hfound
  · rename_i found heq
    rwa [Except.ok.inj hfound] at heq

theorem supply?_eq_ok {workspace : Workspace} {id : PoolId} {supply : Supply}
    (hfound : workspace.supply? id = .ok supply) :
    ∃ pool, workspace.pools[id.number]? = some pool ∧ supply = ⟨id, pool, workspace.nextId⟩ := by
  unfold supply? at hfound
  cases hpool : workspace.pool? id with
  | error refusal => simp [hpool, Except.map] at hfound
  | ok pool =>
    simp only [hpool, Except.map, Except.ok.injEq] at hfound
    exact ⟨pool, pool?_eq_ok hpool, hfound.symm⟩

theorem box?_eq_ok {workspace : Workspace} {tree : String} {id : ElementId} {root : Element}
    {frame : Frame} {children : List Element}
    (hfound : workspace.box? tree id = .ok (root, frame, children)) :
    workspace.tree? tree = some root ∧ (Element.box frame children).id = id ∧
      ∃ place : Place, root = place.plug (.box frame children) := by
  unfold box? at hfound
  split at hfound
  · cases hfound
  · rename_i found htree
    split at hfound
    · cases hfound
    · rename_i inside hbox
      simp only [Except.ok.injEq, Prod.mk.injEq] at hfound
      obtain ⟨rfl, rfl⟩ := hfound
      obtain ⟨hid, hmember⟩ := Element.findBox?_eq_some hbox
      exact ⟨htree, hid, Element.exists_place hmember⟩

theorem item?_eq_ok {workspace : Workspace} {tree : String} {id : ElementId} {root : Element}
    {item : Item} (hfound : workspace.item? tree id = .ok (root, item)) :
    workspace.tree? tree = some root ∧ (Element.item item).id = id ∧
      ∃ place : Place, root = place.plug (.item item) := by
  unfold item? at hfound
  split at hfound
  · cases hfound
  · rename_i found htree
    split at hfound
    · cases hfound
    · rename_i inside hitem
      simp only [Except.ok.injEq, Prod.mk.injEq] at hfound
      obtain ⟨rfl, rfl⟩ := hfound
      obtain ⟨hid, hmember⟩ := Element.findItem?_eq_some hitem
      exact ⟨htree, hid, Element.exists_place hmember⟩

theorem movedTree?_eq_ok {workspace : Workspace} {tree child : String} {element : Element}
    (hfound : workspace.movedTree? tree child = .ok element) :
    child ≠ tree ∧ workspace.tree? child = some element := by
  unfold movedTree? at hfound
  split at hfound
  · cases hfound
  · rename_i hother
    split at hfound
    · cases hfound
    · rename_i found htree
      exact ⟨hother, htree.trans (congrArg some (Except.ok.inj hfound))⟩

end Workspace

/-- The child that is taken out stood among the others, which keep their order. -/
theorem Element.extract?_eq_some {id : ElementId} {children rest : List Element}
    {child : Element} (hextract : Element.extract? id children = some (child, rest)) :
    ∃ before after, children = before ++ child :: after ∧ rest = before ++ after := by
  induction children generalizing rest with
  | nil => cases hextract
  | cons first others ih =>
    unfold extract? at hextract
    split at hextract
    · simp only [Option.some.injEq, Prod.mk.injEq] at hextract
      obtain ⟨rfl, rfl⟩ := hextract
      exact ⟨[], others, rfl, rfl⟩
    · obtain ⟨⟨found, remaining⟩, hrest, heq⟩ := Option.map_eq_some_iff.mp hextract
      simp only [Prod.mk.injEq] at heq
      obtain ⟨rfl, rfl⟩ := heq
      obtain ⟨before, after, rfl, rfl⟩ := ih hrest
      exact ⟨first :: before, after, rfl, rfl⟩

theorem Workspace.lastChild_eq_some {children rest : List Element} {child : Element}
    (hlast : Workspace.lastChild children = some (child, rest)) :
    ∃ before after, children = before ++ child :: after ∧ rest = before ++ after := by
  obtain ⟨last, hend, heq⟩ := Option.map_eq_some_iff.mp hlast
  simp only [Prod.mk.injEq] at heq
  obtain ⟨rfl, rfl⟩ := heq
  exact ⟨children.dropLast, [], (List.dropLast_append_getLast? _ hend).symm, by simp⟩

namespace Workspace

/-! ### Effects -/

/-- The nodes of all trees. -/
def nodes (workspace : Workspace) : List Node :=
  workspace.trees.flatMap fun tree ↦ tree.2.nodes

/-- The items of all trees. -/
def items (workspace : Workspace) : List Item :=
  workspace.trees.flatMap fun tree ↦ tree.2.items

theorem items_eq_filterMap (workspace : Workspace) :
    workspace.items = workspace.nodes.filterMap Node.item? := by
  rw [items, nodes, List.filterMap_flatMap]
  exact List.flatMap_congr fun tree _ ↦ tree.2.items_eq_filterMap

theorem nodes_sublist {workspace : Workspace} {tree : String × Element}
    (htree : tree ∈ workspace.trees) : tree.2.nodes.Sublist workspace.nodes := by
  rw [nodes, List.flatMap_def]
  exact List.sublist_flatten_of_mem (List.mem_map_of_mem (f := fun tree ↦ tree.2.nodes) htree)

theorem mem_trees_of_tree? {workspace : Workspace} {name : String} {root : Element}
    (htree : workspace.tree? name = some root) : (name, root) ∈ workspace.trees := by
  obtain ⟨before, after, hsplit, -⟩ := List.lookup_eq_some_iff.mp htree
  simp [hsplit]

/-- What can happen to the trees of a workspace, where new items are made of seeds on offer. -/
inductive Effect (Offered : Seed → Prop) (workspace : Workspace) : Workspace → Prop
  | plant {tree : String} {id : PoolId} {pool : NamePool} {element : Element} {rest : Supply}
      (hpool : workspace.pools[id.number]? = some pool)
      (hdrawn : Drawn ⟨id, pool, workspace.nextId⟩ element.nodes rest)
      (hsown : ∀ item ∈ element.items, ∃ seed, Offered seed ∧ item.Sown seed) :
      Effect Offered workspace ((workspace.restock rest).setTree tree element)
  | editBox {tree : String} {place : Place} {frame : Frame} {children : List Element}
      {edit : BoxEdit} (hroot : workspace.tree? tree = some (place.plug (.box frame children))) :
      Effect Offered workspace
        (workspace.setTree tree (place.plug (.box (edit.apply frame) children)))
  | editItem {tree : String} {place : Place} {item edited : Item} {edit : ItemEdit}
      (hroot : workspace.tree? tree = some (place.plug (.item item)))
      (hedit : edit.apply item = .ok edited) :
      Effect Offered workspace (workspace.setTree tree (place.plug (.item edited)))
  | addChild {tree : String} {place : Place} {frame : Frame} {children : List Element}
      {pool : NamePool} {child : Element} {rest : Supply}
      (hroot : workspace.tree? tree = some (place.plug (.box frame children)))
      (hpool : workspace.pools[frame.pool.number]? = some pool)
      (hdrawn : Drawn ⟨frame.pool, pool, workspace.nextId⟩ child.nodes rest)
      (hsown : ∀ item ∈ child.items, ∃ seed, Offered seed ∧ item.Sown seed) :
      Effect Offered workspace ((workspace.restock rest).setTree tree
        (place.plug (.box frame (children ++ [child]))))
  | attach {tree child : String} {place : Place} {frame : Frame} {children : List Element}
      {element : Element} {pool : NamePool} {index : Nat}
      (hroot : workspace.tree? tree = some (place.plug (.box frame children)))
      (hother : child ≠ tree) (hchild : workspace.tree? child = some element)
      (hpool : workspace.pools[frame.pool.number]? = some pool)
      (hindex : index ≤ children.length) :
      Effect Offered workspace (((workspace.dropTree child).setPool frame.pool
        (element.join frame.pool pool).2).setTree tree
          (place.plug (.box frame (children.insertIdx index (element.join frame.pool pool).1))))
  | detach {tree : String} {place : Place} {frame : Frame} {before after : List Element}
      {child : Element} {keepAs : Option String}
      (hroot : workspace.tree? tree =
        some (place.plug (.box frame (before ++ child :: after)))) :
      Effect Offered workspace
        ((workspace.setTree tree (place.plug (.box frame (before ++ after)))).keep (some child)
          keepAs)

/-- The workspace grows, and then at most one thing happens to its trees. -/
def Becomes (Offered : Seed → Prop) (before after : Workspace) : Prop :=
  ∃ middle, before.Grows middle ∧ (after = middle ∨ middle.Effect Offered after)

section Becomes

variable {Offered : Seed → Prop} {workspace after : Workspace}

theorem Grows.becomes (hgrows : workspace.Grows after) : workspace.Becomes Offered after :=
  ⟨after, hgrows, .inl rfl⟩

theorem Effect.becomes (heffect : workspace.Effect Offered after) :
    workspace.Becomes Offered after :=
  ⟨workspace, .refl workspace, .inr heffect⟩

theorem Grows.trans_becomes {middle : Workspace} (hgrows : workspace.Grows middle)
    (hbecomes : middle.Becomes Offered after) : workspace.Becomes Offered after := by
  obtain ⟨last, hmore, hend⟩ := hbecomes
  exact ⟨last, hgrows.trans hmore, hend⟩

theorem proceed_becomes {α : Type} {found : Except Refusal α}
    {next : α → Except Refusal Answer × Workspace}
    (hnext : ∀ value, found = .ok value → workspace.Becomes Offered (next value).2) :
    workspace.Becomes Offered (workspace.proceed found next).2 := by
  cases found with
  | error refusal => exact (Grows.refl workspace).becomes
  | ok value => exact hnext value rfl

end Becomes

/-- In a tree without repeated identities, replacing an element changes what stands at its
place. -/
theorem replace_plug {workspace : Workspace} {tree : String} {place : Place}
    {member element : Element} {id : ElementId} (hid : member.id = id)
    (hnodup : ((place.plug member).nodes.map Node.id).Nodup) :
    workspace.replace tree (place.plug member) id element =
      workspace.setTree tree (place.plug element) := by
  rw [replace, ← hid, Element.update_plug hnodup]

variable {workspace : Workspace}

theorem buildTree_becomes (workspace : Workspace) (tree : String) (subject : Subject)
    (filter : Option Filter) (id : PoolId) :
    workspace.Becomes (OffersOf filter) (workspace.buildTree tree subject filter id).2 := by
  refine proceed_becomes fun supply hsupply ↦ ?_
  obtain ⟨pool, hpool, rfl⟩ := supply?_eq_ok hsupply
  split
  · rename_i element rest hbuild
    exact (Effect.plant hpool (Element.ofFilter_drawn hbuild)
      (Element.sown_of_build hbuild)).becomes
  · rename_i error rest hbuild
    obtain ⟨nodes, hdrawn⟩ := Element.ofFilter_drawn_of_error hbuild
    exact (grows_restock hpool hdrawn).becomes

theorem claim_becomes {Offered : Seed → Prop} (workspace : Workspace) (id : PoolId)
    (name : String) : workspace.Becomes Offered (workspace.perform (.claim id name)).2 := by
  refine proceed_becomes fun pool hpool ↦ ?_
  cases hclaim : pool.claim? name with
  | none => exact (Grows.refl workspace).becomes
  | some claimed =>
    exact (grows_setPool (pool?_eq_ok hpool) fun name hname ↦
      (NamePool.grants_claim? hclaim).mono hname).becomes

theorem newItem_becomes (workspace : Workspace) (tree : String) (id : PoolId)
    (keyword : Keyword) :
    workspace.Becomes (Command.newItem tree id keyword).Offered
      (workspace.perform (.newItem tree id keyword)).2 := by
  refine proceed_becomes fun supply hsupply ↦ ?_
  obtain ⟨pool, hpool, rfl⟩ := supply?_eq_ok hsupply
  exact (Effect.plant hpool (drawn_ofKeyword keyword _) (sown_ofKeyword keyword _)).becomes

theorem takeItem_becomes (workspace : Workspace) (tree : String) (id : PoolId)
    (filter : Filter) :
    workspace.Becomes (Command.takeItem tree id filter).Offered
      (workspace.perform (.takeItem tree id filter)).2 := by
  refine proceed_becomes fun supply hsupply ↦ ?_
  obtain ⟨pool, hpool, rfl⟩ := supply?_eq_ok hsupply
  unfold Item.ofFilter
  cases hseed : Seed.ofFilter filter with
  | error error => exact (grows_restock hpool (.refl _)).becomes
  | ok seed =>
    refine (Effect.plant hpool (Element.nodes_item _ ▸ drawn_item seed _) ?_).becomes
    intro item hitem
    rw [Element.items_item, List.mem_singleton] at hitem
    exact ⟨seed, offers_of_seed hseed, hitem ▸ Item.sown_ofSeed seed _⟩

section NoRepetition

variable (hids : (workspace.nodes.map Node.id).Nodup)

include hids

theorem nodup_of_tree? {name : String} {root : Element}
    (htree : workspace.tree? name = some root) : (root.nodes.map Node.id).Nodup :=
  hids.sublist ((nodes_sublist (mem_trees_of_tree? htree)).map _)

theorem addChild_becomes {Offered : Seed → Prop} {tree : String} {id : ElementId}
    {make : Frame → Supply → Element × Supply}
    (hmake : ∀ frame supply, Drawn supply (make frame supply).1.nodes (make frame supply).2 ∧
      ∀ item ∈ (make frame supply).1.items, ∃ seed, Offered seed ∧ item.Sown seed) :
    workspace.Becomes Offered (workspace.addChild tree id make).2 := by
  refine proceed_becomes fun (root, frame, children) hbox ↦ ?_
  obtain ⟨hroot, hid, place, rfl⟩ := box?_eq_ok hbox
  refine proceed_becomes fun supply hsupply ↦ ?_
  obtain ⟨pool, hpool, rfl⟩ := supply?_eq_ok hsupply
  obtain ⟨hdrawn, hsown⟩ := hmake frame ⟨frame.pool, pool, workspace.nextId⟩
  simp only [replace_plug hid (nodup_of_tree? hids hroot)]
  exact (Effect.addChild hroot hpool hdrawn hsown).becomes

theorem attachTree_becomes {Offered : Seed → Prop} (tree : String) (id : ElementId)
    (child : String) (index : Option Nat) :
    workspace.Becomes Offered (workspace.attachTree tree id child index).2 := by
  refine proceed_becomes fun (root, frame, children) hbox ↦ ?_
  obtain ⟨hroot, hid, place, rfl⟩ := box?_eq_ok hbox
  refine proceed_becomes fun element hmoved ↦ ?_
  obtain ⟨hother, hchild⟩ := movedTree?_eq_ok hmoved
  refine proceed_becomes fun pool hpool ↦ ?_
  simp only [replace_plug hid (nodup_of_tree? hids hroot)]
  exact (Effect.attach hroot hother hchild (pool?_eq_ok hpool) (Nat.min_le_right ..)).becomes

theorem detachChild_becomes {Offered : Seed → Prop} {tree : String} {id : ElementId}
    {choose : List Element → Option (Element × List Element)} {keepAs : Option String}
    (hchoose : ∀ {children child rest}, choose children = some (child, rest) →
      ∃ before after, children = before ++ child :: after ∧ rest = before ++ after) :
    workspace.Becomes Offered (workspace.detachChild tree id choose keepAs).2 := by
  refine proceed_becomes fun (root, frame, children) hbox ↦ ?_
  obtain ⟨hroot, hid, place, rfl⟩ := box?_eq_ok hbox
  cases hfound : choose children with
  | none =>
    simp only [hfound]
    exact (Grows.refl workspace).becomes
  | some found =>
    obtain ⟨child, rest⟩ := found
    obtain ⟨before, after, rfl, rfl⟩ := hchoose hfound
    simp only [hfound, replace_plug hid (nodup_of_tree? hids hroot)]
    exact (Effect.detach hroot).becomes

theorem editBox_becomes {Offered : Seed → Prop} (tree : String) (id : ElementId)
    (edit : BoxEdit) :
    workspace.Becomes Offered (workspace.perform (.editBox tree id edit)).2 := by
  refine proceed_becomes fun (root, frame, children) hbox ↦ ?_
  obtain ⟨hroot, hid, place, rfl⟩ := box?_eq_ok hbox
  simp only [replace_plug hid (nodup_of_tree? hids hroot)]
  exact (Effect.editBox hroot).becomes

theorem editItem_becomes {Offered : Seed → Prop} (tree : String) (id : ElementId)
    (edit : ItemEdit) :
    workspace.Becomes Offered (workspace.perform (.editItem tree id edit)).2 := by
  refine proceed_becomes fun (root, item) hitem ↦ ?_
  obtain ⟨hroot, hid, place, rfl⟩ := item?_eq_ok hitem
  cases hedit : edit.apply item with
  | error error =>
    simp only [hedit]
    exact (Grows.refl workspace).becomes
  | ok edited =>
    simp only [hedit, replace_plug hid (nodup_of_tree? hids hroot)]
    exact (Effect.editItem hroot hedit).becomes

theorem perform_becomes (command : Command) :
    workspace.Becomes command.Offered (workspace.perform command).2 := by
  cases command with
  | openPool => exact (grows_addPool workspace .empty).becomes
  | register id names =>
    refine proceed_becomes fun pool hpool ↦ ?_
    have hclaimed : pool.claimed ⊆ (pool.register names).claimed := fun _ hname ↦ hname
    exact (grows_setPool (pool?_eq_ok hpool) hclaimed).becomes
  | generate id =>
    refine proceed_becomes fun pool hpool ↦ ?_
    exact (grows_setPool (pool?_eq_ok hpool) fun name hname ↦
      pool.grants_generate.mono hname).becomes
  | claim id name => exact claim_becomes workspace id name
  | newBox tree subject =>
    exact (grows_addPool workspace .empty).trans_becomes (buildTree_becomes _ tree subject none _)
  | build tree subject pool filter =>
    cases pool with
    | some id => exact buildTree_becomes workspace tree subject filter id
    | none =>
      exact (grows_addPool workspace _).trans_becomes (buildTree_becomes _ tree subject filter _)
  | newItem tree id keyword => exact newItem_becomes workspace tree id keyword
  | takeItem tree id filter => exact takeItem_becomes workspace tree id filter
  | editBox tree id edit => exact editBox_becomes hids tree id edit
  | editItem tree id edit => exact editItem_becomes hids tree id edit
  | addBox tree id connective =>
    refine addChild_becomes hids fun frame supply ↦ ⟨?_, by simp [Element.emptyBox]⟩
    exact Element.nodes_box _ _ ▸ drawn_box supply rfl rfl
  | addItem tree id keyword =>
    exact addChild_becomes hids fun _ supply ↦
      ⟨drawn_ofKeyword keyword supply, sown_ofKeyword keyword supply⟩
  | attach tree id child index => exact attachTree_becomes hids tree id child index
  | detachLast tree id keepAs => exact detachChild_becomes hids lastChild_eq_some
  | detach tree id child keepAs => exact detachChild_becomes hids Element.extract?_eq_some

end NoRepetition

end Workspace

end CardQuery.Editor
