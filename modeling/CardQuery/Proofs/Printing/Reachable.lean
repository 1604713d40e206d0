import CardQuery.Proofs.Editor.Suited
import CardQuery.Proofs.Editor.Views
import CardQuery.Proofs.Lexing.Spelling
import CardQuery.Proofs.Parsing.Acceptance

/-!
Workspaces that are filled from texts and from each other. `Reachable` is about commands one after
another, where a filter that a command reads comes from a text or from what an element of such a
workspace says. In these workspaces a variable is one that can be written down: it has been read
from a text, or it has a number (`Reachable.isVariable`).
-/

set_option autoImplicit false
set_option relaxedAutoImplicit false

namespace CardQuery.Editor

open Lexer (IsVariable)

/-- The filter that a command makes items of. -/
def Command.filter? : Command → Option Filter
  | .build _ _ _ filter => filter
  | .takeItem _ _ filter => some filter
  | _ => none

/-- The keyword that a command makes an item of. -/
def Command.keyword? : Command → Option Keyword
  | .newItem _ _ keyword | .addItem _ _ keyword => some keyword
  | _ => none

/-- What a command makes items of is its keyword or the leaves of its filter. -/
theorem Command.offered_cases {command : Command} {seed : Seed} (hoffered : command.Offered seed) :
    (∃ keyword, command.keyword? = some keyword ∧ seed = .ofKeyword keyword) ∨
      ∃ filter, command.filter? = some filter ∧ Offers filter seed := by
  cases command with
  | build tree subject pool filter => exact .inr hoffered
  | takeItem tree pool filter => exact .inr ⟨filter, rfl, hoffered⟩
  | newItem tree pool keyword => exact .inl ⟨keyword, rfl, hoffered⟩
  | addItem tree box keyword => exact .inl ⟨keyword, rfl, hoffered⟩
  | newBox =>
    obtain ⟨filter, hnone, -⟩ := hoffered
    cases hnone
  | _ => exact hoffered.elim

namespace Workspace

/-- The element is in one of the trees. -/
def Has (workspace : Workspace) (element : Element) : Prop :=
  ∃ tree ∈ workspace.trees, element ∈ tree.2.all

/-- Some commands lead to the workspace from the empty one, and the leaves of every filter that
they make items of have been read from text, or are those of what an element says with or without
its values. -/
inductive Reachable (registry : Registry) (subject : Subject) : Workspace → Prop
  | empty : Reachable registry subject empty
  | edit {workspace : Workspace} {command : Command}
      (hreachable : Reachable registry subject workspace) (hnone : command.filter? = none) :
      Reachable registry subject (workspace.perform command).2
  | read {workspace : Workspace} {command : Command} {text : String} {whole : Filter}
      (hreachable : Reachable registry subject workspace)
      (hread : Filter.ofText registry subject text = .ok whole)
      (hleaves : ∀ filter, command.filter? = some filter → filter.leaves ⊆ whole.leaves) :
      Reachable registry subject (workspace.perform command).2
  | view {workspace other : Workspace} {command : Command} {element : Element} {view : Filter}
      (hreachable : Reachable registry subject workspace)
      (hother : Reachable registry subject other) (helement : other.Has element)
      (hview : element.filter? = some view ∨ element.boundFilter? = some view)
      (hleaves : ∀ filter, command.filter? = some filter → filter.leaves ⊆ view.leaves) :
      Reachable registry subject (workspace.perform command).2

end Workspace

/-! ### Variables -/

theorem isVariable_numbered (number : Nat) : IsVariable (NamePool.numbered number) := by
  refine ⟨'v' :: 'a' :: 'r' :: Text.Decimal.digits number, rfl, by simp, ?_⟩
  have hdigit : ∀ character ∈ Text.Decimal.digits number,
      Lexer.continuesName character = true := by
    intro character hcharacter
    have hdigit := Text.Decimal.isDigit_of_mem_digits hcharacter
    have halphanumeric := Text.isAlphanumeric_of_isDigit hdigit
    simp [Lexer.continuesName, halphanumeric]
  simp only [List.forall_mem_cons]
  exact ⟨by decide, by decide, by decide, hdigit⟩

theorem itemInvariant_isVariable : ItemInvariant fun item ↦ IsVariable item.variableName where
  edit := by
    intro item edited edit hitem hedit
    rw [(ItemEdit.keeps_of_apply hedit).variableName]
    exact hitem
  move := by
    intro item name pool hitem hname
    rcases hname with rfl | ⟨number, rfl⟩
    · exact hitem
    · exact isVariable_numbered number

/-- A leaf that has been read from text has a variable that was written there. -/
theorem isVariable_of_ofText {registry : Registry} {subject : Subject} {text : String}
    {whole : Filter} (hread : Filter.ofText registry subject text = .ok whole) {entry : Leaf}
    (hentry : entry ∈ whole.leaves) {name : String} (hname : entry.variableName = some name) :
    IsVariable name := by
  obtain ⟨inner, rfl, hderives⟩ := Grammar.derives_of_ofTokens hread
  exact Lexer.isVariable_of_mem (hderives.variableName_mem hentry hname)

/-- A command only makes items whose variables its filter has, or that have a number. -/
theorem Command.isVariable_of_offered {command : Command} {item : Item} {seed : Seed}
    (hvariables : ∀ filter, command.filter? = some filter → ∀ entry ∈ filter.leaves,
      ∀ name, entry.variableName = some name → IsVariable name)
    (hoffered : command.Offered seed) (hsown : item.Sown seed) :
    IsVariable item.variableName := by
  rcases hsown.variableName with hwished | ⟨number, hnumbered⟩
  · rcases Command.offered_cases hoffered with ⟨keyword, -, rfl⟩ | ⟨filter, hfilter, hoffers⟩
    · simp [Seed.ofKeyword] at hwished
    · obtain ⟨entry, hentry, hwish⟩ := hoffers.wish
      exact hvariables filter hfilter entry hentry _ (hwish.symm.trans hwished)
  · rw [hnumbered]
    exact isVariable_numbered number

namespace Workspace

variable {registry : Registry} {subject : Subject} {workspace : Workspace}

/-- Some commands lead from the empty workspace to the one after one more command. -/
theorem exists_run_perform (hrun : ∃ commands, workspace = empty.run commands)
    (command : Command) : ∃ commands, (workspace.perform command).2 = empty.run commands := by
  obtain ⟨commands, rfl⟩ := hrun
  exact ⟨commands ++ [command], by simp [Workspace.run]⟩

theorem Reachable.exists_run (hreachable : Reachable registry subject workspace) :
    ∃ commands, workspace = Workspace.empty.run commands := by
  induction hreachable with
  | empty => exact ⟨[], rfl⟩
  | edit _ _ ih => exact exists_run_perform ih _
  | read _ _ _ ih => exact exists_run_perform ih _
  | view _ _ _ _ _ ih _ => exact exists_run_perform ih _

theorem Reachable.tidy (hreachable : Reachable registry subject workspace) : workspace.Tidy := by
  obtain ⟨commands, rfl⟩ := hreachable.exists_run
  exact tidy_empty.run commands

theorem Reachable.suited (hreachable : Reachable registry subject workspace) :
    ∀ item ∈ workspace.items, item.Suited := by
  obtain ⟨commands, rfl⟩ := hreachable.exists_run
  exact suited_of_run commands

/-- Commands that read no filter lead from one reachable workspace to another. -/
theorem Reachable.run (hreachable : Reachable registry subject workspace)
    {commands : List Command} (hnone : ∀ command ∈ commands, command.filter? = none) :
    Reachable registry subject (workspace.run commands) := by
  induction commands generalizing workspace with
  | nil => exact hreachable
  | cons command rest ih =>
    rw [List.forall_mem_cons] at hnone
    exact ih (hreachable.edit hnone.1) hnone.2

theorem Has.items_subset {element : Element} (helement : workspace.Has element) :
    element.items ⊆ workspace.items := by
  obtain ⟨tree, htree, hmember⟩ := helement
  intro item hitem
  refine List.mem_flatMap_of_mem htree ?_
  rw [Element.items_eq_filterMap] at hitem ⊢
  obtain ⟨node, hnode, hsame⟩ := List.mem_filterMap.mp hitem
  exact List.mem_filterMap.mpr ⟨node, Element.nodes_subset hmember hnode, hsame⟩

/-- Every variable of a reachable workspace can be written down. -/
theorem Reachable.isVariable (hreachable : Reachable registry subject workspace) :
    ∀ item ∈ workspace.items, IsVariable item.variableName := by
  have hstep : ∀ {workspace : Workspace} {command : Command}, workspace.Tidy →
      (∀ item ∈ workspace.items, IsVariable item.variableName) →
      (∀ filter, command.filter? = some filter → ∀ entry ∈ filter.leaves,
        ∀ name, entry.variableName = some name → IsVariable name) →
      ∀ item ∈ (workspace.perform command).2.items, IsVariable item.variableName := by
    intro workspace command htidy hitems hvariables
    exact (perform_becomes htidy.settled.ids command).items itemInvariant_isVariable
      (fun item seed ↦ Command.isVariable_of_offered hvariables) hitems
  induction hreachable with
  | empty => simp [items, Workspace.empty]
  | edit hreachable hnone ih =>
    refine hstep hreachable.tidy ih fun filter hfilter ↦ ?_
    simp [hnone] at hfilter
  | read hreachable hread hleaves ih =>
    refine hstep hreachable.tidy ih fun filter hfilter entry hentry name hname ↦ ?_
    exact isVariable_of_ofText hread (hleaves filter hfilter hentry) hname
  | view hreachable hother helement hview hleaves ih ihOther =>
    refine hstep hreachable.tidy ih fun filter hfilter entry hentry name hname ↦ ?_
    obtain ⟨item, hitem, hsame⟩ := Element.item_of_view hview (hleaves filter hfilter hentry)
    obtain rfl : item.variableName = name := by
      rw [hsame] at hname
      exact Option.some.inj hname
    exact ihOther item (helement.items_subset hitem)

end Workspace

end CardQuery.Editor
