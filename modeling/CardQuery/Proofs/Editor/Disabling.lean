import CardQuery.Proofs.Editor.AtPlaces
import CardQuery.Proofs.Editor.BoundLeaves

/-!
Disabled elements. What a tree says is put together from what its elements say, so it depends on an
element only through what is said at its place (`Place.fold_plug_congr`). A disabled element says
nothing, and what says nothing may as well not be there (`Frame.text_append_empty`,
`Frame.filter?_append_none`): a tree with a disabled element says the same as the tree without it,
while its variables and their values are still those of the whole tree (`hidden_of_run`).
-/

set_option autoImplicit false
set_option relaxedAutoImplicit false

namespace CardQuery.Editor

/-! ### What is said at a place -/

namespace Place

/-- What is said of a tree depends on an element only through what is said of the element. -/
theorem fold_plug_congr {α : Type} {onItem : Item → α} {onBox : Frame → List α → α}
    {first second : Element} (place : Place)
    (hsame : first.fold onItem onBox = second.fold onItem onBox) :
    (place.plug first).fold onItem onBox = (place.plug second).fold onItem onBox := by
  induction place with
  | nil => exact hsame
  | cons layer inner ih =>
    rw [plug, plug, Element.fold_box, Element.fold_box, List.map_append, List.map_append,
      List.map_cons, List.map_cons, ih]

/-- The place of a child of the box at a place. -/
theorem plug_append_singleton (place : Place) (frame : Frame) (before after : List Element)
    (child : Element) :
    plug (place ++ [⟨frame, before, after⟩]) child =
      place.plug (.box frame (before ++ child :: after)) := by
  induction place with
  | nil => rfl
  | cons layer inner ih => rw [List.cons_append, plug, ih, plug]

end Place

namespace Frame

variable (frame : Frame)

/-- A child that has no text is as good as none. -/
theorem text_append_empty (before after : List String) :
    frame.text (before ++ "" :: after) = frame.text (before ++ after) := by
  simp [text]

/-- A child that has no filter is as good as none. -/
theorem filter?_append_none (before after : List (Option Filter)) :
    frame.filter? (before ++ none :: after) = frame.filter? (before ++ after) := by
  simp [filter?]

end Frame

/-! ### Enabling and disabling -/

namespace Element

def disabled : Element → Bool
  | item entry => entry.disabled
  | box frame _ => frame.disabled

/-- The element enabled or disabled, and all else as it was. -/
def withDisabled (disabled : Bool) : Element → Element
  | item entry => item { entry with disabled }
  | box frame children => box { frame with disabled } children

/-- The command that enables or disables an element of a tree. -/
def switch (tree : String) (disabled : Bool) : Element → Command
  | item entry => .editItem tree entry.id (.setDisabled disabled)
  | box frame _ => .editBox tree frame.id (.setDisabled disabled)

theorem withDisabled_self (element : Element) :
    element.withDisabled element.disabled = element := by
  cases element <;> rfl

theorem withDisabled_withDisabled (element : Element) (first second : Bool) :
    (element.withDisabled first).withDisabled second = element.withDisabled second := by
  cases element <;> rfl

theorem switch_withDisabled (element : Element) (tree : String) (first second : Bool) :
    (element.withDisabled first).switch tree second = element.switch tree second := by
  cases element <;> rfl

theorem bindings_withDisabled (element : Element) (disabled : Bool) :
    (element.withDisabled disabled).bindings = element.bindings := by
  cases element <;> simp [withDisabled, Item.bindings]

theorem names_withDisabled (element : Element) (disabled : Bool) :
    (element.withDisabled disabled).items.map Item.variableName =
      element.items.map Item.variableName := by
  cases element <;> simp [withDisabled]

/-! ### A disabled element says nothing -/

theorem text_withDisabled_true (element : Element) : (element.withDisabled true).text = "" := by
  cases element <;> simp [withDisabled, Item.text, Frame.text]

theorem filter?_withDisabled_true (element : Element) :
    (element.withDisabled true).filter? = none := by
  cases element <;> simp [withDisabled, Item.filter?, Frame.filter?]

theorem ownFilter?_withDisabled_true (element : Element) :
    (element.withDisabled true).ownFilter? = none := by
  cases element <;> simp [withDisabled, Item.ownFilter?, Frame.filter?]

/-- The variables of the items, said of every element. -/
theorem names_eq_fold (element : Element) :
    element.items.map Item.variableName =
      element.fold (fun entry ↦ [entry.variableName]) fun _ parts ↦ parts.flatten := by
  induction element with
  | hitem entry => simp
  | hbox frame children ih =>
    rw [items_box, List.map_flatMap, fold_box, ← List.flatMap_def]
    exact List.flatMap_congr ih

end Element

theorem Place.names_plug_congr {first second : Element} (place : Place)
    (hsame : first.items.map Item.variableName = second.items.map Item.variableName) :
    (place.plug first).items.map Item.variableName =
      (place.plug second).items.map Item.variableName := by
  rw [Element.names_eq_fold, Element.names_eq_fold] at hsame ⊢
  exact place.fold_plug_congr hsame

/-! ### Trees with a disabled element -/

/-- A tree in which an element has been disabled says, with values and without, what the tree says
from which the element has been removed, and has the variables and the values of the whole tree. -/
structure Hidden (whole disabled removed : Element) : Prop where
  text : disabled.text = removed.text
  filter : disabled.filter? = removed.filter?
  boundFilter : disabled.boundFilter? = removed.boundFilter?
  variableNames : disabled.variableNames = whole.variableNames
  bindings : disabled.bindings = whole.bindings

section Hidden

variable {place : Place} {frame : Frame} {before after : List Element} {child : Element}

/-- What boxes put together they put together without the disabled child. -/
theorem fold_hidden {α : Type} {onItem : Item → α} {onBox : Frame → List α → α} {nothing : α}
    (hnothing : (child.withDisabled true).fold onItem onBox = nothing)
    (hbox : ∀ frame before after, onBox frame (before ++ nothing :: after) =
      onBox frame (before ++ after)) :
    (place.plug (.box frame (before ++ child.withDisabled true :: after))).fold onItem onBox =
      (place.plug (.box frame (before ++ after))).fold onItem onBox := by
  refine place.fold_plug_congr ?_
  rw [Element.fold_box, Element.fold_box, List.map_append, List.map_append, List.map_cons,
    hnothing, hbox]

theorem hidden
    (hdisabled : ((place.plug (.box frame (before ++ child.withDisabled true :: after))).items.map
      Item.variableName).Nodup)
    (hremoved : ((place.plug (.box frame (before ++ after))).items.map
      Item.variableName).Nodup) :
    Hidden (place.plug (.box frame (before ++ child :: after)))
      (place.plug (.box frame (before ++ child.withDisabled true :: after)))
      (place.plug (.box frame (before ++ after))) where
  text := fold_hidden child.text_withDisabled_true Frame.text_append_empty
  filter := fold_hidden child.filter?_withDisabled_true Frame.filter?_append_none
  boundFilter := by
    rw [Element.boundFilter?_eq_ownFilter? hdisabled, Element.boundFilter?_eq_ownFilter? hremoved]
    exact fold_hidden child.ownFilter?_withDisabled_true Frame.filter?_append_none
  variableNames := by
    refine congrArg (List.foldr insertName []) (place.names_plug_congr ?_)
    simp [Element.names_withDisabled]
  bindings := by
    refine place.fold_plug_congr ?_
    change Element.bindings _ = Element.bindings _
    simp [Element.bindings_withDisabled]

end Hidden

namespace Workspace

variable {workspace : Workspace} {tree : String} {root child : Element} {place : Place}
  {frame : Frame} {children before after : List Element}

/-- An element is enabled or disabled at its place, and nothing changes around it. -/
theorem perform_switch (hids : (workspace.nodes.map Node.id).Nodup)
    (hroot : workspace.tree? tree = some (place.plug child)) (disabled : Bool) :
    workspace.perform (child.switch tree disabled) =
      (.ok .done, workspace.setTree tree (place.plug (child.withDisabled disabled))) := by
  cases child with
  | item entry => exact editItem_plug hids hroot rfl
  | box frame children => exact editBox_plug hids hroot (.setDisabled disabled)

/-- A child is enabled or disabled in its box. -/
theorem perform_switch_child (hids : (workspace.nodes.map Node.id).Nodup)
    (hroot : workspace.tree? tree = some (place.plug (.box frame (before ++ child :: after))))
    (disabled : Bool) :
    workspace.perform (child.switch tree disabled) = (.ok .done, workspace.setTree tree
      (place.plug (.box frame (before ++ child.withDisabled disabled :: after)))) := by
  rw [← place.plug_append_singleton] at hroot ⊢
  exact perform_switch hids hroot disabled

/-- Whatever has been done, disabling an element below the root of a tree makes the tree say what it
says with the element removed, and changes no variable and no value. Enabling the element again
restores the tree. -/
theorem hidden_of_run (commands : List Command)
    (hroot : (empty.run commands).tree? tree = some root) (hbox : .box frame children ∈ root.all)
    (hchild : child ∈ children) (henabled : child.disabled = false) :
    ∃ (place : Place) (before after : List Element) (closed reduced reopened : Workspace),
      root = place.plug (.box frame children) ∧ children = before ++ child :: after ∧
      (empty.run commands).perform (child.switch tree true) = (.ok .done, closed) ∧
      closed.tree? tree =
        some (place.plug (.box frame (before ++ child.withDisabled true :: after))) ∧
      (empty.run commands).perform (.detach tree frame.id child.id none) =
        (.ok (.detached (some child)), reduced) ∧
      reduced.tree? tree = some (place.plug (.box frame (before ++ after))) ∧
      Hidden root (place.plug (.box frame (before ++ child.withDisabled true :: after)))
        (place.plug (.box frame (before ++ after))) ∧
      closed.perform (child.switch tree false) = (.ok .done, reopened) ∧
      reopened.tree? tree = some root := by
  have htidy := tidy_empty.run commands
  have hids := htidy.settled.ids
  obtain ⟨place, rfl⟩ := Element.exists_place hbox
  obtain ⟨before, after, rfl⟩ := List.append_of_mem hchild
  -- The element is disabled in the one workspace, and taken out in the other.
  have hclosed := perform_switch_child hids hroot true
  have hreduced := perform_detach_plug hids hroot none
  have hdisabled := (empty.run commands).tree?_setTree_self tree
    (place.plug (.box frame (before ++ child.withDisabled true :: after)))
  have hremoved := (empty.run commands).tree?_setTree_self tree
    (place.plug (.box frame (before ++ after)))
  have hlater := htidy.performed hclosed
  have hreopened := perform_switch_child hlater.settled.ids hdisabled false
  rw [child.switch_withDisabled, child.withDisabled_withDisabled, ← henabled,
    child.withDisabled_self, henabled] at hreopened
  refine ⟨place, before, after, _, _, _, rfl, rfl, hclosed, hdisabled, hreduced, hremoved, ?_,
    hreopened, tree?_setTree_self ..⟩
  exact hidden (hlater.names_nodup (mem_trees_of_tree? hdisabled))
    ((htidy.performed hreduced).names_nodup (mem_trees_of_tree? hremoved))

/-- A keyword next to a box of two others, each with a variable of its own. -/
def nested : List Command :=
  [.build "main" .card none (some (.join
    (.leaf ⟨"Unique", "Unique", some .absent, some "$unique", none⟩) .and
    (.join
      (.leaf ⟨"CardType", "Card Type", some (.list ["Vampire", "Imbued"]), some "$type",
        some (.listed ["Vampire"])⟩)
      .or
      (.leaf ⟨"CardText", "Card Text", some .text, some "$text", some (.listed ["blood"])⟩))))]

def nestedFrame : Frame := ⟨⟨2⟩, .or, false, false, .card, ⟨0⟩⟩

def nestedItem : Item :=
  ⟨⟨3⟩, "CardType", "Card Type", "$type", false, false, .list ["Vampire", "Imbued"],
    .list ["Vampire"], ⟨0⟩⟩

/-- The children of the inner box. -/
def nestedChildren : List Element :=
  [.item nestedItem,
    .item ⟨⟨4⟩, "CardText", "Card Text", "$text", false, false, .text, .text ["blood"], ⟨0⟩⟩]

def nestedRoot : Element :=
  .box ⟨⟨0⟩, .and, false, false, .card, ⟨0⟩⟩
    [.item ⟨⟨1⟩, "Unique", "Unique", "$unique", false, false, .absent, .flag, ⟨0⟩⟩,
      .box nestedFrame nestedChildren]

theorem hidden_of_nested :
    (empty.run nested).tree? "main" = some nestedRoot ∧
      .box nestedFrame nestedChildren ∈ nestedRoot.all ∧ .item nestedItem ∈ nestedChildren ∧
      (Element.item nestedItem).disabled = false ∧
      ∃ (place : Place) (before after : List Element) (closed reduced reopened : Workspace),
        nestedRoot = place.plug (.box nestedFrame nestedChildren) ∧
        nestedChildren = before ++ .item nestedItem :: after ∧
        (empty.run nested).perform ((Element.item nestedItem).switch "main" true) =
          (.ok .done, closed) ∧
        closed.tree? "main" = some (place.plug
          (.box nestedFrame (before ++ (Element.item nestedItem).withDisabled true :: after))) ∧
        (empty.run nested).perform
            (.detach "main" nestedFrame.id (Element.item nestedItem).id none) =
          (.ok (.detached (some (.item nestedItem))), reduced) ∧
        reduced.tree? "main" = some (place.plug (.box nestedFrame (before ++ after))) ∧
        Hidden nestedRoot
          (place.plug
            (.box nestedFrame (before ++ (Element.item nestedItem).withDisabled true :: after)))
          (place.plug (.box nestedFrame (before ++ after))) ∧
        closed.perform ((Element.item nestedItem).switch "main" false) =
          (.ok .done, reopened) ∧
        reopened.tree? "main" = some nestedRoot := by
  have hroot : (empty.run nested).tree? "main" = some nestedRoot := rfl
  have hbox : .box nestedFrame nestedChildren ∈ nestedRoot.all :=
    Element.mem_all_box (by simp) (Element.mem_all_self _)
  have hchild : .item nestedItem ∈ nestedChildren := List.mem_cons_self ..
  exact ⟨hroot, hbox, hchild, rfl, hidden_of_run nested hroot hbox hchild rfl⟩

end Workspace

end CardQuery.Editor
