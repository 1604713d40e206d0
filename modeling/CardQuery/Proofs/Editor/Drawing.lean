import CardQuery.Editor.Build
import CardQuery.Editor.Join
import CardQuery.Proofs.Editor.Place
import CardQuery.Proofs.Names.Grants

/-!
What new and joining elements draw. A tree that is built takes the next identities in order and
names that its pool grants, and so do the items that a failed build has drawn (`Drawn`). An element
that joins another tree keeps its identities, and its names are granted by the pool it joins
(`Joins`). Both relations are about rows of nodes, and follow the recursion over trees by putting
rows together.
-/

set_option autoImplicit false
set_option relaxedAutoImplicit false

namespace CardQuery.Editor

/-- The variables of the items among nodes. -/
def Node.names (nodes : List Node) : List String :=
  (nodes.filterMap Node.item?).map Item.variableName

namespace Node

@[simp] theorem names_nil : names [] = [] := rfl

@[simp] theorem names_box (frame : Frame) (nodes : List Node) :
    names (.box frame :: nodes) = names nodes := rfl

@[simp] theorem names_item (entry : Item) (nodes : List Node) :
    names (.item entry :: nodes) = entry.variableName :: names nodes := rfl

@[simp] theorem names_append (first second : List Node) :
    names (first ++ second) = names first ++ names second := by
  simp [names]

theorem names_nodes (element : Element) :
    names element.nodes = element.items.map Item.variableName := by
  rw [names, ← element.items_eq_filterMap]

theorem names_flatMap_nodes (elements : List Element) :
    names (elements.flatMap Element.nodes) =
      (elements.flatMap Element.items).map Item.variableName := by
  rw [names, List.filterMap_flatMap]
  simp only [← Element.items_eq_filterMap]

end Node

/-! ### Drawing from a supply -/

/-- The nodes are new: they have the next identities and names that the pool has granted. -/
structure Drawn (before : Supply) (nodes : List Node) (after : Supply) : Prop where
  poolId : after.poolId = before.poolId
  pools : ∀ node ∈ nodes, node.pool = before.poolId
  ids : nodes.map Node.id = (List.range' before.nextId nodes.length).map ElementId.mk
  nextId : after.nextId = before.nextId + nodes.length
  names : before.pool.Grants (Node.names nodes) after.pool

namespace Drawn

variable {before middle after : Supply} {nodes others : List Node}

theorem refl (supply : Supply) : Drawn supply [] supply :=
  ⟨rfl, by simp, rfl, rfl, .refl _⟩

theorem trans (hfirst : Drawn before nodes middle) (hsecond : Drawn middle others after) :
    Drawn before (nodes ++ others) after where
  poolId := hsecond.poolId.trans hfirst.poolId
  pools node hnode := by
    rcases List.mem_append.mp hnode with hin | hin
    · exact hfirst.pools node hin
    · exact (hsecond.pools node hin).trans hfirst.poolId
  ids := by
    rw [List.map_append, hfirst.ids, hsecond.ids, hfirst.nextId, ← List.map_append,
      List.length_append, List.range'_append_1]
  nextId := by
    rw [hsecond.nextId, hfirst.nextId, List.length_append, Nat.add_assoc]
  names := by
    rw [Node.names_append]
    exact hfirst.names.trans hsecond.names

/-- New identities are numbers from the next one on. -/
theorem id_bounds (hdrawn : Drawn before nodes after) {node : Node} (hnode : node ∈ nodes) :
    before.nextId ≤ node.id.number ∧ node.id.number < after.nextId := by
  have hid := List.mem_map_of_mem (f := Node.id) hnode
  rw [hdrawn.ids] at hid
  obtain ⟨number, hnumber, heq⟩ := List.mem_map.mp hid
  rw [List.mem_range'_1] at hnumber
  rw [← heq, hdrawn.nextId]
  exact hnumber

theorem ids_nodup (hdrawn : Drawn before nodes after) : (nodes.map Node.id).Nodup := by
  rw [hdrawn.ids]
  refine List.Nodup.map (fun first second heq ↦ ?_) (List.nodup_range' ..)
  exact congrArg ElementId.number heq

end Drawn

/-- A box takes one identity, before its children take any. -/
theorem drawn_box (supply : Supply) {frame : Frame} (hid : frame.id = supply.identity.1)
    (hpool : frame.pool = supply.poolId) :
    Drawn supply [.box frame] supply.identity.2 where
  poolId := rfl
  pools node hnode := by
    obtain rfl := List.mem_singleton.mp hnode
    exact hpool
  ids := by simp [Node.id, hid, Supply.identity]
  nextId := rfl
  names := .refl _

theorem drawn_item (seed : Seed) (supply : Supply) :
    Drawn supply [.item (Item.ofSeed seed supply).1] (Item.ofSeed seed supply).2 where
  poolId := rfl
  pools node hnode := by
    obtain rfl := List.mem_singleton.mp hnode
    rfl
  ids := by simp [Node.id, Item.ofSeed, Supply.identity, Supply.name]
  nextId := rfl
  names := supply.pool.grants_obtain seed.wish

namespace Element

mutual

theorem ofOutline_drawn (subject : Subject) (outline : Outline) (supply : Supply) :
    Drawn supply (ofOutline subject outline supply).1.nodes
      (ofOutline subject outline supply).2 := by
  cases outline with
  | item seed =>
    rw [ofOutline, nodes_item]
    exact drawn_item seed supply
  | box connective negated children =>
    have hchildren := ofOutlines_drawn subject children supply.identity.2
    simp only [ofOutline, nodes_box]
    exact (drawn_box supply rfl hchildren.poolId).trans hchildren

theorem ofOutlines_drawn (subject : Subject) (outlines : List Outline) (supply : Supply) :
    Drawn supply ((ofOutlines subject outlines supply).1.flatMap nodes)
      (ofOutlines subject outlines supply).2 := by
  cases outlines with
  | nil => exact .refl supply
  | cons outline rest =>
    simp only [ofOutlines, List.flatMap_cons]
    exact (ofOutline_drawn subject outline supply).trans (ofOutlines_drawn subject rest _)

end

/-- A build that returns a tree has drawn the outline of the filter. -/
theorem ofFilter_eq_ok {subject : Subject} {filter : Filter} {supply rest : Supply}
    {element : Element} (hbuild : ofFilter subject (some filter) supply = (.ok element, rest)) :
    ∃ outline, Outline.ofFilter filter = .complete outline ∧
      ofOutline subject outline supply = (element, rest) := by
  cases houtline : Outline.ofFilter filter with
  | complete outline =>
    simp only [ofFilter, houtline, Prod.mk.injEq, Except.ok.injEq] at hbuild
    exact ⟨outline, rfl, Prod.ext hbuild.1 hbuild.2⟩
  | broken drawn error => simp [ofFilter, houtline] at hbuild

/-- A build draws for the tree it returns. -/
theorem ofFilter_drawn {subject : Subject} {filter : Option Filter} {supply rest : Supply}
    {element : Element} (hbuild : ofFilter subject filter supply = (.ok element, rest)) :
    Drawn supply element.nodes rest := by
  cases filter with
  | none =>
    simp only [ofFilter, emptyBox, Prod.mk.injEq, Except.ok.injEq] at hbuild
    obtain ⟨rfl, rfl⟩ := hbuild
    exact drawn_box supply rfl rfl
  | some filter =>
    obtain ⟨outline, -, hdrawn⟩ := ofFilter_eq_ok hbuild
    have houtline := ofOutline_drawn subject outline supply
    rwa [hdrawn] at houtline

/-- A build that fails has drawn for items that nothing holds any more. -/
theorem ofFilter_drawn_of_error {subject : Subject} {filter : Option Filter}
    {supply rest : Supply} {error : BuildError}
    (hbuild : ofFilter subject filter supply = (.error error, rest)) :
    ∃ nodes, Drawn supply nodes rest := by
  cases filter with
  | none => simp [ofFilter, emptyBox] at hbuild
  | some filter =>
    cases houtline : Outline.ofFilter filter with
    | complete outline => simp [ofFilter, houtline] at hbuild
    | broken drawn error =>
      simp only [ofFilter, houtline, Prod.mk.injEq] at hbuild
      obtain ⟨-, rfl⟩ := hbuild
      exact ⟨_, ofOutlines_drawn subject (drawn.map .item) supply⟩

end Element

/-! ### Joining a tree -/

/-- The nodes have come to another pool: they are who they were, and that pool has granted their
names. -/
structure Joins (target : PoolId) (before : NamePool) (nodes joined : List Node)
    (after : NamePool) : Prop where
  ids : joined.map Node.id = nodes.map Node.id
  pools : ∀ node ∈ joined, node.pool = target
  names : before.Grants (Node.names joined) after

namespace Joins

variable {target : PoolId} {before middle after : NamePool}

theorem refl (target : PoolId) (pool : NamePool) : Joins target pool [] [] pool :=
  ⟨rfl, by simp, .refl pool⟩

theorem trans {nodes joined others othersJoined : List Node}
    (hfirst : Joins target before nodes joined middle)
    (hsecond : Joins target middle others othersJoined after) :
    Joins target before (nodes ++ others) (joined ++ othersJoined) after where
  ids := by rw [List.map_append, List.map_append, hfirst.ids, hsecond.ids]
  pools node hnode := by
    rcases List.mem_append.mp hnode with hin | hin
    · exact hfirst.pools node hin
    · exact hsecond.pools node hin
  names := by
    rw [Node.names_append]
    exact hfirst.names.trans hsecond.names

end Joins

/-- A box without its children has no name to ask for. -/
theorem box_joins {target : PoolId} (pool : NamePool) (frame : Frame) :
    Joins target pool [.box frame] [.box { frame with pool := target }] pool := by
  refine ⟨rfl, fun node hnode ↦ ?_, .refl pool⟩
  obtain rfl := List.mem_singleton.mp hnode
  rfl

theorem Item.join_joins {target : PoolId} {entry : Item} (hother : entry.pool ≠ target)
    (pool : NamePool) :
    Joins target pool [.item entry] [.item (entry.join target pool).1]
      (entry.join target pool).2 := by
  simp only [Item.join, if_neg hother]
  refine ⟨rfl, fun node hnode ↦ ?_, pool.grants_obtain (some entry.variableName)⟩
  obtain rfl := List.mem_singleton.mp hnode
  rfl

namespace Element

mutual

theorem join_joins (target : PoolId) (element : Element) (pool : NamePool)
    (hother : ∀ node ∈ element.nodes, node.pool ≠ target) :
    Joins target pool element.nodes (element.join target pool).1.nodes
      (element.join target pool).2 := by
  cases element with
  | item entry =>
    simp only [join, nodes_item]
    exact Item.join_joins (hother (.item entry) (by simp)) pool
  | box frame children =>
    simp only [nodes_box, List.mem_cons, forall_eq_or_imp] at hother
    have hframe : frame.pool ≠ target := hother.1
    have hchildren := joinAll_joins target children pool hother.2
    rw [join, if_neg hframe, nodes_box]
    simp only [nodes_box]
    exact (box_joins pool frame).trans hchildren

theorem joinAll_joins (target : PoolId) (elements : List Element) (pool : NamePool)
    (hother : ∀ node ∈ elements.flatMap nodes, node.pool ≠ target) :
    Joins target pool (elements.flatMap nodes) ((joinAll target elements pool).1.flatMap nodes)
      (joinAll target elements pool).2 := by
  cases elements with
  | nil => exact .refl target pool
  | cons element rest =>
    simp only [List.flatMap_cons, List.mem_append] at hother
    simp only [joinAll, List.flatMap_cons]
    exact (join_joins target element pool fun node hnode ↦ hother node (.inl hnode)).trans
      (joinAll_joins target rest _ fun node hnode ↦ hother node (.inr hnode))

end

/-- An element that is on the pool already is left as it is. -/
theorem join_eq_self {target : PoolId} {element : Element} (hpool : element.pool = target)
    (pool : NamePool) : element.join target pool = (element, pool) := by
  cases element with
  | item entry =>
    have hentry : entry.pool = target := hpool
    simp [join, Item.join, hentry]
  | box frame children =>
    have hframe : frame.pool = target := hpool
    simp [join, hframe]

end Element

end CardQuery.Editor
