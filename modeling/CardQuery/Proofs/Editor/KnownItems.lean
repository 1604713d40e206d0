import CardQuery.Proofs.Parsing.ReadLeaves
import CardQuery.Proofs.Printing.Reachable

/-!
Workspaces that are filled under one registry. `Workspace.Furnished` is about commands one after
another, where a new item is of a keyword that the registry finds, and a filter that a command reads
comes from a text, for whatever subject, or from what an element of such a workspace says. Then
every item is that of a keyword of the registry, and has a variable that can be written down
(`Workspace.Furnished.leaf`), so its argument is the one that the registry gives for its keyword
(`Workspace.Furnished.known`).
-/

set_option autoImplicit false
set_option relaxedAutoImplicit false

namespace CardQuery

namespace Editor

/-- An item that has been made of a seed of a filter is that of one of its leaves. -/
theorem Item.Sown.exists_leaf {filter : Filter} {seed : Seed} {item : Item}
    (hsown : item.Sown seed) (hoffers : Offers filter seed) :
    ∃ entry ∈ filter.leaves, item.keyword = entry.keyword ∧
      item.description = entry.description ∧ entry.argument = some item.shape := by
  obtain ⟨negated, entry, hentry, hseed⟩ := hoffers
  obtain ⟨argument, current, hargument, -, rfl⟩ := Seed.ofLeaf_eq_ok_iff.mp hseed
  refine ⟨entry, hentry, hsown.keyword, hsown.description, ?_⟩
  rw [hargument, hsown.shape]

namespace Workspace

/-- Some commands lead to the workspace from the empty one. The keywords that they make items of are
found in the registry, and the leaves of the filters that they make items of have been read from
text under it, or are those of what an element says with or without its values. -/
inductive Furnished (registry : Registry) : Workspace → Prop
  | empty : Furnished registry empty
  | edit {workspace : Workspace} {command : Command} (hfurnished : Furnished registry workspace)
      (hnone : command.filter? = none)
      (hkeyword : ∀ keyword, command.keyword? = some keyword →
        ∃ name, registry.lookup name = some keyword) :
      Furnished registry (workspace.perform command).2
  | read {workspace : Workspace} {command : Command} {subject : Subject} {text : String}
      {filter whole : Filter} (hfurnished : Furnished registry workspace)
      (hfilter : command.filter? = some filter)
      (hread : Filter.ofText registry subject text = .ok whole)
      (hleaves : filter.leaves ⊆ whole.leaves) :
      Furnished registry (workspace.perform command).2
  | view {workspace other : Workspace} {command : Command} {element : Element}
      {filter view : Filter} (hfurnished : Furnished registry workspace)
      (hfilter : command.filter? = some filter) (hother : Furnished registry other)
      (helement : other.Has element)
      (hview : element.filter? = some view ∨ element.boundFilter? = some view)
      (hleaves : filter.leaves ⊆ view.leaves) :
      Furnished registry (workspace.perform command).2

end Workspace

end Editor

open Editor

/-! ### Furnished leaves -/

/-- The leaf is that of a keyword of the registry, and its variable, if it has one, can be written
down. -/
structure Leaf.Furnished (registry : Registry) (entry : Leaf) : Prop where
  keyword : ∃ keyword, registry.lookup keyword.name = some keyword ∧
    entry.keyword = keyword.name ∧ entry.description = keyword.description ∧
    entry.argument = some keyword.argument
  isVariable : ∀ name, entry.variableName = some name → Lexer.IsVariable name

namespace Leaf.Furnished

variable {registry : Registry} {entry : Leaf}

theorem known (hfurnished : entry.Furnished registry) : entry.Known registry := by
  obtain ⟨keyword, hlookup, hname, -, hargument⟩ := hfurnished.keyword
  exact ⟨keyword, (congrArg registry.lookup hname).trans hlookup, hargument⟩

/-- The values of a leaf make no difference. -/
theorem select (hfurnished : entry.Furnished registry) (selection : Option Selection) :
    Leaf.Furnished registry { entry with selection } :=
  ⟨hfurnished.keyword, hfurnished.isVariable⟩

/-- Any variable that can be written down will do. -/
theorem rename (hfurnished : entry.Furnished registry) {name : String}
    (hname : Lexer.IsVariable name) :
    Leaf.Furnished registry { entry with variableName := some name } :=
  ⟨hfurnished.keyword, fun _ hsame ↦ Option.some.inj hsame ▸ hname⟩

end Leaf.Furnished

/-- A leaf that has been read under a registry is furnished. -/
theorem Grammar.furnished_of_ofText {registry : Registry} {subject : Subject} {text : String}
    {whole : Filter} {entry : Leaf} (hread : Filter.ofText registry subject text = .ok whole)
    (hentry : entry ∈ whole.leaves) : entry.Furnished registry where
  keyword := by
    obtain ⟨part, hpart, -⟩ := exists_part_of_ofText hread hentry
    obtain ⟨name, keyword, -, hname, heq⟩ := hpart.names
    rw [heq]
    exact ⟨keyword, hname.lookup_name, rfl, rfl, rfl⟩
  isVariable _ hname := isVariable_of_ofText hread hentry hname

namespace Editor

variable {registry : Registry}

theorem itemInvariant_furnished : ItemInvariant fun item ↦ item.leaf.Furnished registry where
  edit := by
    intro item edited edit hitem hedit
    have hkeeps := ItemEdit.keeps_of_apply hedit
    have hleaf : edited.leaf = item.leaf := by
      simp only [Item.leaf, hkeeps.keyword, hkeeps.description, hkeeps.shape,
        hkeeps.variableName]
    rw [hleaf]
    exact hitem
  move := by
    intro item name pool hitem hname
    refine hitem.rename ?_
    rcases hname with rfl | ⟨number, rfl⟩
    · exact hitem.isVariable _ rfl
    · exact isVariable_numbered number

/-- An item that has been made of a seed of a filter has a furnished leaf if the filter has. -/
theorem Item.Sown.furnished {filter : Filter} {seed : Seed} {item : Item} (hsown : item.Sown seed)
    (hoffers : Offers filter seed)
    (hfurnished : ∀ entry ∈ filter.leaves, entry.Furnished registry) :
    item.leaf.Furnished registry := by
  obtain ⟨entry, hentry, hname, hdescription, hargument⟩ := hsown.exists_leaf hoffers
  have hleaf : item.leaf =
      { entry with variableName := some item.variableName, selection := none } := by
    simp only [Item.leaf, hname, hdescription, hargument]
  rw [hleaf]
  refine ((hfurnished entry hentry).select none).rename ?_
  rcases hsown.variableName with hwished | ⟨number, hnumbered⟩
  · obtain ⟨other, hother, hwish⟩ := hoffers.wish
    exact (hfurnished other hother).isVariable _ (hwish.symm.trans hwished)
  · rw [hnumbered]
    exact isVariable_numbered number

/-- No command makes both an item of a keyword and items of a filter. -/
theorem Command.keyword?_of_filter? {command : Command} {filter : Filter}
    (hfilter : command.filter? = some filter) : command.keyword? = none := by
  cases command <;> first | rfl | cases hfilter

/-- A command that makes items of what is furnished makes items that are furnished. -/
theorem Command.furnished_of_offered {command : Command} {item : Item} {seed : Seed}
    (hkeyword : ∀ keyword, command.keyword? = some keyword →
      ∃ name, registry.lookup name = some keyword)
    (hfurnished : ∀ filter, command.filter? = some filter →
      ∀ entry ∈ filter.leaves, entry.Furnished registry)
    (hoffered : command.Offered seed) (hsown : item.Sown seed) :
    item.leaf.Furnished registry := by
  rcases Command.offered_cases hoffered with ⟨keyword, hsome, rfl⟩ | ⟨filter, hfilter, hoffers⟩
  · obtain ⟨name, hlookup⟩ := hkeyword keyword hsome
    refine ⟨⟨keyword, Registry.lookup_name hlookup, hsown.keyword, hsown.description,
      congrArg some hsown.shape⟩, ?_⟩
    rintro _ ⟨rfl⟩
    rcases hsown.variableName with hwished | ⟨number, hnumbered⟩
    · cases hwished
    · rw [hnumbered]
      exact isVariable_numbered number
  · exact hsown.furnished hoffers (hfurnished filter hfilter)

namespace Workspace

variable {workspace : Workspace}

theorem Furnished.exists_run (hfurnished : Furnished registry workspace) :
    ∃ commands, workspace = Workspace.empty.run commands := by
  induction hfurnished with
  | empty => exact ⟨[], rfl⟩
  | edit _ _ _ ih => exact exists_run_perform ih _
  | read _ _ _ _ ih => exact exists_run_perform ih _
  | view _ _ _ _ _ _ ih _ => exact exists_run_perform ih _

theorem Furnished.tidy (hfurnished : Furnished registry workspace) : workspace.Tidy := by
  obtain ⟨commands, rfl⟩ := hfurnished.exists_run
  exact tidy_empty.run commands

theorem Furnished.suited (hfurnished : Furnished registry workspace) :
    ∀ item ∈ workspace.items, item.Suited := by
  obtain ⟨commands, rfl⟩ := hfurnished.exists_run
  exact suited_of_run commands

/-- Commands that make no items of filters lead from one furnished workspace to another, if their
keywords are found. -/
theorem Furnished.run (hfurnished : Furnished registry workspace) {commands : List Command}
    (hnone : ∀ command ∈ commands, command.filter? = none)
    (hkeywords : ∀ command ∈ commands, ∀ keyword, command.keyword? = some keyword →
      ∃ name, registry.lookup name = some keyword) :
    Furnished registry (workspace.run commands) := by
  induction commands generalizing workspace with
  | nil => exact hfurnished
  | cons command rest ih =>
    rw [List.forall_mem_cons] at hnone hkeywords
    exact ih (hfurnished.edit hnone.1 hkeywords.1) hnone.2 hkeywords.2

/-- Every item of a furnished workspace is that of a keyword of the registry, with a variable that
can be written down. -/
theorem Furnished.leaf (hfurnished : Furnished registry workspace) :
    ∀ item ∈ workspace.items, item.leaf.Furnished registry := by
  have hstep : ∀ {workspace : Workspace} {command : Command}, workspace.Tidy →
      (∀ item ∈ workspace.items, item.leaf.Furnished registry) →
      (∀ keyword, command.keyword? = some keyword →
        ∃ name, registry.lookup name = some keyword) →
      (∀ filter, command.filter? = some filter →
        ∀ entry ∈ filter.leaves, entry.Furnished registry) →
      ∀ item ∈ (workspace.perform command).2.items, item.leaf.Furnished registry := by
    intro workspace command htidy hitems hkeyword hleaves
    exact (perform_becomes htidy.settled.ids command).items itemInvariant_furnished
      (fun item seed ↦ Command.furnished_of_offered hkeyword hleaves) hitems
  induction hfurnished with
  | empty => simp [items, Workspace.empty]
  | edit hfurnished hnone hkeyword ih =>
    exact hstep hfurnished.tidy ih hkeyword (by simp [hnone])
  | read hfurnished hfilter hread hleaves ih =>
    refine hstep hfurnished.tidy ih (by simp [Command.keyword?_of_filter? hfilter]) ?_
    rintro filter hsame entry hentry
    obtain rfl := Option.some.inj (hfilter.symm.trans hsame)
    exact Grammar.furnished_of_ofText hread (hleaves hentry)
  | view hfurnished hfilter hother helement hview hleaves ih ihOther =>
    refine hstep hfurnished.tidy ih (by simp [Command.keyword?_of_filter? hfilter]) ?_
    rintro filter hsame entry hentry
    obtain rfl := Option.some.inj (hfilter.symm.trans hsame)
    obtain ⟨item, hitem, heq⟩ := Element.item_of_view hview (hleaves hentry)
    rw [heq]
    exact (ihOther item (helement.items_subset hitem)).select _

/-- The registry gives the argument of every item of a furnished workspace. -/
theorem Furnished.known (hfurnished : Furnished registry workspace) :
    ∀ item ∈ workspace.items, item.leaf.Known registry :=
  fun item hitem ↦ (hfurnished.leaf item hitem).known

end Workspace

/-! ### Trees that have been built from text -/

/-- The registry gives the argument of every item of a tree that was built from a text. -/
theorem Element.known_of_build {subject : Subject} {text : String} {whole : Filter}
    {supply rest : Supply} {element : Element}
    (hread : Filter.ofText registry subject text = .ok whole)
    (hbuild : ofFilter subject (some whole) supply = (.ok element, rest)) :
    ∀ item ∈ element.items, item.leaf.Known registry := by
  intro item hitem
  obtain ⟨seed, hoffers, hsown⟩ := sown_of_build hbuild item hitem
  have hfurnished := hsown.furnished (offersOf_some.mp hoffers)
    fun entry ↦ Grammar.furnished_of_ofText hread
  exact hfurnished.known

end Editor

end CardQuery
