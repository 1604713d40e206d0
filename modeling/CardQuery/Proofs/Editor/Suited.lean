import CardQuery.Proofs.Editor.ItemInvariants
import CardQuery.Proofs.Editor.UniqueNames

/-!
What is selected in an item belongs to its argument, at every point. It does when the item is made,
every edit keeps it so (`ItemEdit.suited_of_apply`), and no other command touches what is selected.
So it is true of every item after every run of commands (`Workspace.suited_of_run`).
-/

set_option autoImplicit false
set_option relaxedAutoImplicit false

namespace CardQuery.Editor

/-! ### New items -/

theorem Item.Sown.suited {item : Item} {seed : Seed} (hsown : item.Sown seed)
    (hsuited : seed.Suited) : item.Suited := by
  unfold Suited
  rw [hsown.current, hsown.shape]
  exact hsuited

theorem Seed.suited_ofKeyword (keyword : Keyword) : (Seed.ofKeyword keyword).Suited :=
  CurrentValues.suits_ofArgument keyword.argument

theorem OffersOf.suited {filter : Option Filter} {seed : Seed} (hoffers : OffersOf filter seed) :
    seed.Suited := by
  obtain ⟨inner, -, hinner⟩ := hoffers
  exact hinner.suited

theorem Element.suited_of_build {subject : Subject} {filter : Option Filter}
    {supply rest : Supply} {element : Element}
    (hbuild : ofFilter subject filter supply = (.ok element, rest)) :
    ∀ item ∈ element.items, item.Suited := by
  intro item hitem
  obtain ⟨seed, hoffers, hsown⟩ := sown_of_build hbuild item hitem
  exact hsown.suited hoffers.suited

/-- A command makes no items but those whose values belong to their arguments. -/
theorem Command.suited_of_offered {command : Command} {seed : Seed}
    (hoffered : command.Offered seed) : seed.Suited := by
  cases command with
  | newBox | build => exact OffersOf.suited hoffered
  | takeItem => exact Offers.suited hoffered
  | newItem tree pool keyword | addItem tree box keyword =>
    obtain rfl : seed = .ofKeyword keyword := hoffered
    exact Seed.suited_ofKeyword keyword
  | _ => exact hoffered.elim

/-! ### Edited items -/

/-- An edit puts nothing into an item that does not belong to its argument. -/
theorem ItemEdit.suited_of_apply {item edited : Item} {edit : ItemEdit} (hsuited : item.Suited)
    (hedit : edit.apply item = .ok edited) : edited.Suited := by
  obtain ⟨id, keyword, description, variableName, negated, disabled, shape, current, pool⟩ := item
  change current.Suits shape at hsuited
  cases edit with
  | setNegated | setDisabled =>
    obtain rfl := Except.ok.inj hedit
    exact hsuited
  | clear =>
    obtain rfl := Except.ok.inj hedit
    exact hsuited.cleared
  | enterText text =>
    cases hsuited with
    | text =>
      obtain rfl := Except.ok.inj hedit
      exact .text (by split <;> simp)
    | flag | list | sourced => cases hedit
  | selectValues values =>
    cases hsuited with
    | list domain =>
      obtain rfl := Except.ok.inj hedit
      exact .list domain values
    | flag | text | sourced => cases hedit
  | selectSides values origins =>
    cases hsuited with
    | sourced _ _ domain originDomain =>
      obtain rfl := Except.ok.inj hedit
      exact .sourced (CurrentValues.nonEmpty_ne_some_nil values)
        (CurrentValues.nonEmpty_ne_some_nil origins) domain originDomain
    | flag | text | list => cases hedit

theorem itemInvariant_suited : ItemInvariant Item.Suited where
  edit := ItemEdit.suited_of_apply
  move hitem _ := hitem

/-! ### Items of a workspace -/

namespace Workspace

variable {workspace : Workspace}

theorem suited_perform (htidy : workspace.Tidy) (hsuited : ∀ item ∈ workspace.items, item.Suited)
    (command : Command) : ∀ item ∈ (workspace.perform command).2.items, item.Suited :=
  (perform_becomes htidy.settled.ids command).items itemInvariant_suited
    (fun _ _ hoffered hsown ↦ hsown.suited (Command.suited_of_offered hoffered)) hsuited

theorem suited_run (htidy : workspace.Tidy) (hsuited : ∀ item ∈ workspace.items, item.Suited)
    (commands : List Command) : ∀ item ∈ (workspace.run commands).items, item.Suited := by
  induction commands generalizing workspace with
  | nil => exact hsuited
  | cons command rest ih => exact ih (htidy.perform command) (suited_perform htidy hsuited command)

/-- After any run of commands, what is selected in each item belongs to the argument of the item. -/
theorem suited_of_run (commands : List Command) :
    ∀ item ∈ (empty.run commands).items, item.Suited :=
  suited_run tidy_empty (by simp [items, empty]) commands

end Workspace

end CardQuery.Editor
