import CardQuery.Editor.View
import CardQuery.Proofs.Editor.Place

/-!
The views of an element from those of its children, and what boxes do to the filters they put
together: a change of leaves goes through a box (`Frame.filter?_mapLeaves`), and the leaves of a box
are those of its children in their order (`Frame.leavesOf_filter?`).
-/

set_option autoImplicit false
set_option relaxedAutoImplicit false

namespace CardQuery.Editor

namespace Element

@[simp] theorem filter?_item (entry : Item) :
    (item entry).filter? = entry.filter? := by
  simp [Element.filter?]

@[simp] theorem filter?_box (frame : Frame) (children : List Element) :
    (box frame children).filter? = frame.filter? (children.map filter?) := by
  simp [Element.filter?]

@[simp] theorem bindings_item (entry : Item) : (item entry).bindings = entry.bindings := by
  simp [bindings]

@[simp] theorem bindings_box (frame : Frame) (children : List Element) :
    (box frame children).bindings = Bindings.mergeAll (children.map bindings) := by
  simp [bindings]

@[simp] theorem text_item (entry : Item) : (item entry).text = entry.text := by
  simp [text]

@[simp] theorem text_box (frame : Frame) (children : List Element) :
    (box frame children).text = frame.text (children.map text) := by
  simp [text]

/-- The items that are enabled and stand in enabled boxes only. -/
def visibleItems : Element → List Item :=
  fold (fun item ↦ if item.disabled then [] else [item])
    fun frame parts ↦ if frame.disabled then [] else parts.flatten

@[simp] theorem visibleItems_item (entry : Item) :
    (item entry).visibleItems = if entry.disabled then [] else [entry] := by
  simp [visibleItems]

@[simp] theorem visibleItems_box (frame : Frame) (children : List Element) :
    (box frame children).visibleItems =
      if frame.disabled then [] else children.flatMap visibleItems := by
  simp [visibleItems, List.flatMap_def]

end Element

/-! ### Leaves changed -/

theorem mapLeaves_negateIf (change : Leaf → Leaf) (negated : Bool) (filter : Filter) :
    (negateIf negated filter).mapLeaves change = negateIf negated (filter.mapLeaves change) := by
  cases negated <;> rfl

theorem mapLeaves_foldl_join (change : Leaf → Leaf) (connective : Connective)
    (first : Filter) (rest : List Filter) :
    (rest.foldl (fun left right ↦ .join left connective right) first).mapLeaves change =
      (rest.map (Filter.mapLeaves change)).foldl (fun left right ↦ .join left connective right)
        (first.mapLeaves change) := by
  induction rest generalizing first with
  | nil => rfl
  | cons second rest ih => exact ih (.join first connective second)

/-- A box puts together changed leaves as it puts together unchanged ones. -/
theorem Frame.filter?_mapLeaves (frame : Frame) (change : Leaf → Leaf)
    (parts : List (Option Filter)) :
    (frame.filter? parts).map (Filter.mapLeaves change) =
      frame.filter? (parts.map (Option.map (Filter.mapLeaves change))) := by
  have hpresent : (parts.map (Option.map (Filter.mapLeaves change))).filterMap (fun part ↦ part) =
      (parts.filterMap fun part ↦ part).map (Filter.mapLeaves change) := by
    rw [List.filterMap_map, List.map_filterMap]
    rfl
  unfold filter?
  by_cases hdisabled : frame.disabled
  · simp [hdisabled]
  · rw [if_neg hdisabled, if_neg hdisabled, hpresent]
    cases parts.filterMap fun part ↦ part with
    | nil => rfl
    | cons first rest =>
      simp only [List.map_cons, Option.map_some, mapLeaves_negateIf, mapLeaves_foldl_join]

/-! ### What boxes keep -/

section Keeping

variable {Holds : Filter → Prop}
  (hnegation : ∀ {operand : Filter}, Holds operand → Holds (.negation operand))
  (hjoin : ∀ {left right : Filter} {connective : Connective}, Holds left → Holds right →
    Holds (.join left connective right))

include hjoin in
theorem holds_foldl_join {connective : Connective} {first : Filter} (hfirst : Holds first)
    {rest : List Filter} (hrest : ∀ filter ∈ rest, Holds filter) :
    Holds (rest.foldl (fun left right ↦ .join left connective right) first) := by
  induction rest generalizing first with
  | nil => exact hfirst
  | cons second rest ih =>
    rw [List.forall_mem_cons] at hrest
    exact ih (hjoin hfirst hrest.1) hrest.2

include hnegation hjoin in
/-- What negations and joins keep is true of a box if it is true of its children. -/
theorem Frame.holds_filter? {frame : Frame} {parts : List (Option Filter)}
    (hparts : ∀ part, some part ∈ parts → Holds part) {filter : Filter}
    (hfilter : frame.filter? parts = some filter) : Holds filter := by
  have hpresent : ∀ part ∈ parts.filterMap fun part ↦ part, Holds part := by
    intro part hpart
    obtain ⟨_, hmember, rfl⟩ := List.mem_filterMap.mp hpart
    exact hparts part hmember
  unfold filter? at hfilter
  split at hfilter
  · simp at hfilter
  · split at hfilter
    · simp at hfilter
    · rename_i first rest heq
      rw [heq, List.forall_mem_cons] at hpresent
      have hjoined :
          Holds (rest.foldl (fun left right ↦ .join left frame.connective right) first) :=
        holds_foldl_join hjoin hpresent.1 hpresent.2
      obtain rfl := Option.some.inj hfilter
      cases frame.negated with
      | false => exact hjoined
      | true => exact hnegation hjoined

end Keeping

/-! ### Leaves and where they come from -/

theorem leaves_foldl_join (connective : Connective) (first : Filter) (rest : List Filter) :
    (rest.foldl (fun left right ↦ .join left connective right) first).leaves =
      (first :: rest).flatMap Filter.leaves := by
  induction rest generalizing first with
  | nil => simp
  | cons second rest ih =>
    rw [List.foldl_cons, ih]
    simp [Filter.leaves]

/-- The leaves of a filter, none if there is no filter. -/
def leavesOf (filter : Option Filter) : List Leaf := (filter.map Filter.leaves).getD []

@[simp] theorem leavesOf_none : leavesOf none = [] := rfl

@[simp] theorem leavesOf_some (filter : Filter) : leavesOf (some filter) = filter.leaves := rfl

theorem flatMap_filterMap_leaves (parts : List (Option Filter)) :
    (parts.filterMap fun part ↦ part).flatMap Filter.leaves = parts.flatMap leavesOf := by
  induction parts with
  | nil => rfl
  | cons part rest ih => cases part <;> simp [ih]

/-- The leaves of a box are those of its children, one child after another. -/
theorem Frame.leavesOf_filter? (frame : Frame) (parts : List (Option Filter)) :
    leavesOf (frame.filter? parts) =
      if frame.disabled then [] else parts.flatMap leavesOf := by
  unfold filter?
  split
  · rfl
  · rw [← flatMap_filterMap_leaves]
    cases parts.filterMap fun part ↦ part with
    | nil => rfl
    | cons first rest =>
      rw [leavesOf_some, leaves_negateIf, leaves_foldl_join]

/-- A leaf of a box is a leaf of one of its children. -/
theorem Frame.mem_leaves_filter? {frame : Frame} {parts : List (Option Filter)} {filter : Filter}
    (hfilter : frame.filter? parts = some filter) {entry : Leaf} (hentry : entry ∈ filter.leaves) :
    ∃ part, some part ∈ parts ∧ entry ∈ part.leaves := by
  have hleaves := frame.leavesOf_filter? parts
  rw [hfilter, leavesOf_some] at hleaves
  rw [hleaves] at hentry
  split at hentry
  · simp at hentry
  · obtain ⟨part, hpart, hleaf⟩ := List.mem_flatMap.mp hentry
    cases part with
    | none => simp at hleaf
    | some inner => exact ⟨inner, hpart, hleaf⟩

namespace Element

/-- The leaves of what a tree says are those of its items. -/
theorem mem_leaves_filter? {element : Element} {filter : Filter}
    (hfilter : element.filter? = some filter) {entry : Leaf} (hentry : entry ∈ filter.leaves) :
    ∃ item ∈ element.items, entry = item.leaf := by
  induction element generalizing filter with
  | hitem item =>
    rw [filter?_item] at hfilter
    unfold Item.filter? at hfilter
    split at hfilter
    · simp at hfilter
    · obtain rfl := Option.some.inj hfilter
      rw [leaves_negateIf] at hentry
      exact ⟨item, by simp, List.mem_singleton.mp hentry⟩
  | hbox frame children ih =>
    rw [filter?_box] at hfilter
    obtain ⟨part, hpart, hleaf⟩ := Frame.mem_leaves_filter? hfilter hentry
    obtain ⟨child, hchild, hsays⟩ := List.mem_map.mp hpart
    obtain ⟨item, hitem, heq⟩ := ih child hchild hsays hleaf
    exact ⟨item, mem_items_box hchild hitem, heq⟩

/-- With values or without, a leaf is that of an item of the tree. -/
theorem item_of_view {element : Element} {view : Filter}
    (hview : element.filter? = some view ∨ element.boundFilter? = some view) {entry : Leaf}
    (hentry : entry ∈ view.leaves) :
    ∃ item ∈ element.items, entry = { item.leaf with selection := entry.selection } := by
  rcases hview with hfilter | hbound
  · obtain ⟨item, hitem, rfl⟩ := mem_leaves_filter? hfilter hentry
    exact ⟨item, hitem, rfl⟩
  · obtain ⟨filter, hfilter, rfl⟩ := Option.map_eq_some_iff.mp hbound
    rw [Filter.bind, Filter.leaves_mapLeaves] at hentry
    obtain ⟨leaf, hleaf, rfl⟩ := List.mem_map.mp hentry
    obtain ⟨item, hitem, rfl⟩ := mem_leaves_filter? hfilter hleaf
    refine ⟨item, hitem, ?_⟩
    unfold Leaf.bind
    split <;> rfl

/-- What is visible is in the tree. -/
theorem visibleItems_subset (element : Element) : element.visibleItems ⊆ element.items := by
  induction element with
  | hitem entry =>
    rw [visibleItems_item, items_item]
    split <;> simp
  | hbox frame children ih =>
    rw [visibleItems_box, items_box]
    split
    · simp
    · intro item hitem
      obtain ⟨child, hchild, hinside⟩ := List.mem_flatMap.mp hitem
      exact List.mem_flatMap_of_mem hchild (ih child hchild hinside)

end Element

end CardQuery.Editor
