import CardQuery.Editor.Item

/-!
Elements of the editor: items, and boxes of elements that are joined by one connective. A box owns
its children, and `Element.fold` says something of every element from what is said of its children.
-/

set_option autoImplicit false
set_option relaxedAutoImplicit false

namespace CardQuery.Editor

/-- What a box is apart from its children. -/
structure Frame where
  id : ElementId
  connective : Connective
  negated : Bool
  disabled : Bool
  subject : Subject
  pool : PoolId
deriving DecidableEq

inductive Element where
  | item (entry : Item)
  | box (frame : Frame) (children : List Element)

namespace Element

/-- Induction over elements: a box has a property if all its children have it. -/
@[elab_as_elim, induction_eliminator]
theorem induction {motive : Element → Prop} (hitem : ∀ entry, motive (item entry))
    (hbox : ∀ frame children, (∀ child ∈ children, motive child) → motive (box frame children)) :
    ∀ element, motive element
  | item entry => hitem entry
  | box frame children =>
    hbox frame children fun child _ ↦ induction hitem hbox child

variable {α : Type}

mutual

/-- What is said of an element, from what is said of items and how boxes put it together. -/
def fold (onItem : Item → α) (onBox : Frame → List α → α) : Element → α
  | item entry => onItem entry
  | box frame children => onBox frame (foldAll onItem onBox children)

def foldAll (onItem : Item → α) (onBox : Frame → List α → α) : List Element → List α
  | [] => []
  | child :: rest => fold onItem onBox child :: foldAll onItem onBox rest

end

theorem foldAll_eq_map (onItem : Item → α) (onBox : Frame → List α → α)
    (elements : List Element) :
    foldAll onItem onBox elements = elements.map (fold onItem onBox) := by
  induction elements with
  | nil => rfl
  | cons element rest ih => rw [foldAll, ih, List.map_cons]

@[simp] theorem fold_item (onItem : Item → α) (onBox : Frame → List α → α) (entry : Item) :
    fold onItem onBox (item entry) = onItem entry := by
  rw [fold]

@[simp] theorem fold_box (onItem : Item → α) (onBox : Frame → List α → α) (frame : Frame)
    (children : List Element) :
    fold onItem onBox (box frame children) =
      onBox frame (children.map (fold onItem onBox)) := by
  rw [fold, foldAll_eq_map]

def id : Element → ElementId
  | item entry => entry.id
  | box frame _ => frame.id

def pool : Element → PoolId
  | item entry => entry.pool
  | box frame _ => frame.pool

def children : Element → List Element
  | item _ => []
  | box _ children => children

mutual

/-- The element and everything below it, each box before its children. -/
def all : Element → List Element
  | item entry => [item entry]
  | box frame children => box frame children :: allOf children

def allOf : List Element → List Element
  | [] => []
  | child :: rest => all child ++ allOf rest

end

theorem allOf_eq_flatMap (elements : List Element) : allOf elements = elements.flatMap all := by
  induction elements with
  | nil => rfl
  | cons element rest ih => rw [allOf, ih, List.flatMap_cons]

theorem all_box (frame : Frame) (children : List Element) :
    (box frame children).all = box frame children :: children.flatMap all := by
  rw [all, allOf_eq_flatMap]

/-- Everything below the element. -/
def descendants (element : Element) : List Element :=
  element.children.flatMap all

/-- The items from left to right. -/
def items : Element → List Item :=
  fold (fun entry ↦ [entry]) fun _ parts ↦ parts.flatten

end Element

end CardQuery.Editor
