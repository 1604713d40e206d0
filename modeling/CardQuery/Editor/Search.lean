import CardQuery.Editor.Element

/-!
Finding elements in a tree by their place or by their identity, and changing the one that is
found.
-/

set_option autoImplicit false
set_option relaxedAutoImplicit false

namespace CardQuery.Editor.Element

/-- The element that is reached by going down to the child of each index in turn. -/
def atPath? (element : Element) : List Nat → Option Element
  | [] => some element
  | index :: path =>
    match element.children[index]? with
    | none => none
    | some child => child.atPath? path

mutual

/-- The box of an identity: the element itself if it is that box, and otherwise the first one below
it. -/
def findBox? (id : ElementId) : Element → Option (Frame × List Element)
  | item _ => none
  | box frame children =>
    if frame.id = id then some (frame, children) else findBoxAmong? id children

def findBoxAmong? (id : ElementId) : List Element → Option (Frame × List Element)
  | [] => none
  | child :: rest => (findBox? id child).or (findBoxAmong? id rest)

end

mutual

/-- The item of an identity: the element itself if it is that item, and otherwise the first one
below it. -/
def findItem? (id : ElementId) : Element → Option Item
  | item entry => if entry.id = id then some entry else none
  | box _ children => findItemAmong? id children

def findItemAmong? (id : ElementId) : List Element → Option Item
  | [] => none
  | child :: rest => (findItem? id child).or (findItemAmong? id rest)

end

mutual

/-- The identity is that of a child of the element, or of an element below a child. The identity of
the element itself is not looked at. -/
def isBelow (id : ElementId) : Element → Bool
  | item _ => false
  | box _ children => isAmong id children

def isAmong (id : ElementId) : List Element → Bool
  | [] => false
  | child :: rest => child.id = id || isBelow id child || isAmong id rest

end

def Contains (element : Element) (id : ElementId) : Prop := element.isBelow id = true

instance (element : Element) (id : ElementId) : Decidable (element.Contains id) :=
  inferInstanceAs (Decidable (_ = true))

theorem findBoxAmong?_eq_findSome? (id : ElementId) (elements : List Element) :
    findBoxAmong? id elements = elements.findSome? (findBox? id) := by
  induction elements with
  | nil => rfl
  | cons element rest ih =>
    rw [findBoxAmong?, ih, List.findSome?_cons]
    cases findBox? id element <;> rfl

theorem findBox?_box (id : ElementId) (frame : Frame) (children : List Element) :
    (box frame children).findBox? id =
      if frame.id = id then some (frame, children) else children.findSome? (findBox? id) := by
  rw [findBox?, findBoxAmong?_eq_findSome?]

theorem findItemAmong?_eq_findSome? (id : ElementId) (elements : List Element) :
    findItemAmong? id elements = elements.findSome? (findItem? id) := by
  induction elements with
  | nil => rfl
  | cons element rest ih =>
    rw [findItemAmong?, ih, List.findSome?_cons]
    cases findItem? id element <;> rfl

theorem findItem?_box (id : ElementId) (frame : Frame) (children : List Element) :
    (box frame children).findItem? id = children.findSome? (findItem? id) := by
  rw [findItem?, findItemAmong?_eq_findSome?]

theorem isAmong_eq_any (id : ElementId) (elements : List Element) :
    isAmong id elements = elements.any fun element ↦ element.id = id || element.isBelow id := by
  induction elements with
  | nil => rfl
  | cons element rest ih => rw [isAmong, ih, List.any_cons]

theorem contains_box {frame : Frame} {children : List Element} {id : ElementId} :
    (box frame children).Contains id ↔ ∃ child ∈ children, child.id = id ∨ child.Contains id := by
  simp [Contains, isBelow, isAmong_eq_any]

mutual

/-- The tree with the element of an identity changed. -/
def update (target : ElementId) (change : Element → Element) : Element → Element
  | item entry => if entry.id = target then change (item entry) else item entry
  | box frame children =>
    if frame.id = target then change (box frame children)
    else box frame (updateAll target change children)

def updateAll (target : ElementId) (change : Element → Element) : List Element → List Element
  | [] => []
  | child :: rest => update target change child :: updateAll target change rest

end

theorem updateAll_eq_map (target : ElementId) (change : Element → Element)
    (elements : List Element) :
    updateAll target change elements = elements.map (update target change) := by
  induction elements with
  | nil => rfl
  | cons element rest ih => rw [updateAll, ih, List.map_cons]

/-- The children without the first one of an identity, and that one. -/
def extract? (id : ElementId) : List Element → Option (Element × List Element)
  | [] => none
  | child :: rest =>
    if child.id = id then some (child, rest)
    else (extract? id rest).map fun (found, others) ↦ (found, child :: others)

end CardQuery.Editor.Element
