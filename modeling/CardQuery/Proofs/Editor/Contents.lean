import CardQuery.Proofs.Editor.Views

/-!
What elements hold. A change of items and of boxes goes through a tree (`Element.map`), and what is
said of the changed tree is said of the tree itself by making the change first (`fold_map`). The
content of an element is the element without identities and pools, which neither its text nor its
values nor what it says with them hang on (`text_congr`, `bindings_congr`, `boundFilter?_congr`). A
settled element has lost what does not count in it: a side that is selected while the other one is
open.
-/

set_option autoImplicit false
set_option relaxedAutoImplicit false

namespace CardQuery.Editor

/-! ### Changes of items and boxes -/

namespace Element

/-- Every item and every box changed, each on its own. -/
def map (onItem : Item → Item) (onFrame : Frame → Frame) : Element → Element :=
  fold (fun entry ↦ item (onItem entry)) fun frame parts ↦ box (onFrame frame) parts

variable (onItem : Item → Item) (onFrame : Frame → Frame)

@[simp] theorem map_item (entry : Item) :
    (item entry).map onItem onFrame = item (onItem entry) := by
  simp [map]

@[simp] theorem map_box (frame : Frame) (children : List Element) :
    (box frame children).map onItem onFrame =
      box (onFrame frame) (children.map fun child ↦ child.map onItem onFrame) := by
  simp [map]

/-- What is said of a changed tree is said of the tree by changing items and boxes first. -/
theorem fold_map {α : Type} (say : Item → α) (join : Frame → List α → α) (element : Element) :
    fold say join (element.map onItem onFrame) =
      fold (fun entry ↦ say (onItem entry)) (fun frame ↦ join (onFrame frame)) element := by
  induction element with
  | hitem entry => simp
  | hbox frame children ih =>
    rw [map_box, fold_box, fold_box, List.map_map]
    exact congrArg (join (onFrame frame)) (List.map_congr_left ih)

variable {onItem}

theorem map_eq_self {element : Element} (hitems : ∀ entry ∈ element.items, onItem entry = entry) :
    element.map onItem (fun frame ↦ frame) = element := by
  induction element with
  | hitem entry => simp [hitems entry]
  | hbox frame children ih =>
    have hchildren : ∀ child ∈ children, child.map onItem (fun frame ↦ frame) = child := by
      intro child hchild
      exact ih child hchild fun entry hentry ↦ hitems entry (mem_items_box hchild hentry)
    rw [map_box, List.map_congr_left hchildren, List.map_id']

end Element

/-! ### Contents -/

/-- The item without its identity and its pool. -/
def Item.content (item : Item) : Item := { item with id := ⟨0⟩, pool := ⟨0⟩ }

/-- The box without its identity and its pool. -/
def Frame.content (frame : Frame) : Frame := { frame with id := ⟨0⟩, pool := ⟨0⟩ }

namespace Element

/-- The element without identities and pools. -/
def content : Element → Element := map Item.content Frame.content

@[simp] theorem content_item (entry : Item) : (item entry).content = item entry.content :=
  map_item ..

@[simp] theorem content_box (frame : Frame) (children : List Element) :
    (box frame children).content = box frame.content (children.map content) :=
  map_box ..

theorem text_content (element : Element) : element.content.text = element.text :=
  fold_map ..

theorem bindings_content (element : Element) : element.content.bindings = element.bindings :=
  fold_map ..

theorem filter?_content (element : Element) : element.content.filter? = element.filter? :=
  fold_map ..

theorem names_content (element : Element) :
    element.content.items.map Item.variableName = element.items.map Item.variableName := by
  induction element with
  | hitem entry => simp [Item.content]
  | hbox frame children ih =>
    rw [content_box, items_box, items_box, List.map_flatMap, List.map_flatMap, List.flatMap_map]
    exact List.flatMap_congr ih

theorem text_congr {element other : Element} (hcontent : element.content = other.content) :
    element.text = other.text := by
  rw [← text_content, hcontent, text_content]

theorem bindings_congr {element other : Element} (hcontent : element.content = other.content) :
    element.bindings = other.bindings := by
  rw [← bindings_content, hcontent, bindings_content]

theorem names_congr {element other : Element} (hcontent : element.content = other.content) :
    element.items.map Item.variableName = other.items.map Item.variableName := by
  rw [← names_content, hcontent, names_content]

theorem boundFilter?_congr {element other : Element} (hcontent : element.content = other.content) :
    element.boundFilter? = other.boundFilter? := by
  rw [boundFilter?, ← filter?_content, bindings_congr hcontent, hcontent, filter?_content,
    boundFilter?]

end Element

/-! ### Settled elements -/

namespace CurrentValues

variable {current : CurrentValues}

/-- Of the two sides one is selected and the other is open. -/
def IsHalfSet : CurrentValues → Prop
  | sourced values origins => ¬ (values = none ↔ origins = none)
  | _ => False

/-- The values, but with nothing selected if not enough is. -/
def settled (current : CurrentValues) : CurrentValues :=
  if current.selection? = none then current.cleared else current

@[simp] theorem selection?_cleared (current : CurrentValues) :
    current.cleared.selection? = none := by
  cases current <;> rfl

@[simp] theorem kind_cleared (current : CurrentValues) : current.cleared.kind = current.kind := by
  cases current <;> rfl

@[simp] theorem selection?_settled (current : CurrentValues) :
    current.settled.selection? = current.selection? := by
  unfold settled
  split
  · rw [selection?_cleared, ‹current.selection? = none›]
  · rfl

@[simp] theorem kind_settled (current : CurrentValues) : current.settled.kind = current.kind := by
  unfold settled
  split
  · exact kind_cleared current
  · rfl

/-- Values hold nothing that does not count, unless one of two sides is selected alone. -/
theorem settled_eq_self (hhalf : ¬ current.IsHalfSet) : current.settled = current := by
  unfold settled
  split
  · rename_i hnone
    cases current with
    | flag => rfl
    | text entries =>
      obtain rfl : entries = [] := by simpa [selection?] using hnone
      rfl
    | list values =>
      obtain rfl : values = [] := by simpa [selection?] using hnone
      rfl
    | sourced values origins =>
      have hsides : values = none ↔ origins = none := by simpa [IsHalfSet] using hhalf
      cases values with
      | none =>
        obtain rfl := hsides.mp rfl
        rfl
      | some values =>
        cases origins with
        | none => cases hsides.mpr rfl
        | some origins => cases hnone
  · rfl

end CurrentValues

def Item.settled (item : Item) : Item := { item with current := item.current.settled }

namespace Element

/-- The element, but with nothing selected in the items where not enough is. -/
def settled : Element → Element := map Item.settled fun frame ↦ frame

@[simp] theorem settled_item (entry : Item) : (item entry).settled = item entry.settled :=
  map_item ..

@[simp] theorem settled_box (frame : Frame) (children : List Element) :
    (box frame children).settled = box frame (children.map settled) :=
  map_box ..

/-- What does not count has not been bound to a variable either. -/
theorem bindings_settled (element : Element) : element.settled.bindings = element.bindings := by
  have hitem : ∀ entry : Item, entry.settled.bindings = entry.bindings := by
    intro entry
    simp [Item.bindings, Item.settled]
  rw [bindings, settled, fold_map]
  simp only [hitem]

theorem settled_eq_self {element : Element}
    (hhalf : ∀ entry ∈ element.items, ¬ entry.current.IsHalfSet) : element.settled = element := by
  refine map_eq_self fun entry hentry ↦ ?_
  rw [Item.settled, CurrentValues.settled_eq_self (hhalf entry hentry)]

end Element

end CardQuery.Editor
