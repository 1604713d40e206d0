import CardQuery.Console
import CardQuery.Proofs.Editor.BoundLeaves
import CardQuery.Proofs.Editor.KnownItems
import CardQuery.Proofs.Editor.Offences
import CardQuery.Proofs.Printing.Printed

/-!
Queries for what the editor says. Where the registry has no fault and gives the argument of every
item, an item that is set has a condition (`Item.isFilled_ownLeaf`), and so has every element whose
variables differ (`exists_ofFilter_boundFilter?`). So no element of a furnished workspace fails to
compile, and at the console a filter that has been read and built is answered without an error
(`compile_of_furnished`).
-/

set_option autoImplicit false
set_option relaxedAutoImplicit false

namespace CardQuery.Editor

variable {registry : Registry}

/-! ### Conditions of elements -/

/-- Values that the argument takes are enough for a leaf. -/
theorem isFilled_of_fits {argument : Argument} {selection : Selection}
    (hfits : selection.Fits argument) (keyword description : String) (name : Option String) :
    Leaf.IsFilled ⟨keyword, description, some argument, name, some selection⟩ := by
  cases argument with
  | absent => trivial
  | text =>
    cases selection with
    | listed values =>
      have hlength : values.length = 1 := hfits
      exact List.ne_nil_of_length_eq_add_one hlength
    | sourced => exact hfits.elim
  | list domain => cases selection with
    | listed => trivial
    | sourced => exact hfits.elim
  | sourced domain origins => cases selection with
    | listed => exact hfits.elim
    | sourced => trivial

/-- An item that is set carries what its argument takes. -/
theorem Item.isFilled_ownLeaf {item : Item} (hsuited : item.Suited)
    (hset : ¬ item.current.IsEmpty) : item.ownLeaf.IsFilled := by
  rw [ownLeaf, leaf]
  rcases CurrentValues.selection?_cases hset with hflag | ⟨selection, hselection⟩
  · rw [hsuited.eq_flag_iff.mp hflag]
    trivial
  · rw [hselection]
    exact isFilled_of_fits (hsuited.fits hselection) _ _ _

/-- What an element says with its values has a condition, if its variables differ and the registry
knows its items. -/
theorem Element.exists_ofFilter_boundFilter? {element : Element} {bound : Filter}
    (hfault : registry.fault = none) (hsuited : ∀ item ∈ element.items, item.Suited)
    (hknown : ∀ item ∈ element.items, item.leaf.Known registry)
    (hnodup : (element.items.map Item.variableName).Nodup)
    (hbound : element.boundFilter? = some bound) :
    ∃ condition, Sql.ofFilter registry bound = .ok condition := by
  rw [Sql.exists_ofFilter_iff]
  intro entry hentry
  have hleaves := element.leavesOf_ownFilter?
  rw [← boundFilter?_eq_ownFilter? hnodup, hbound, leavesOf_some] at hleaves
  rw [hleaves] at hentry
  obtain ⟨item, hitem, rfl⟩ := List.mem_map.mp hentry
  obtain ⟨hvisible, hset⟩ := List.mem_filter.mp hitem
  have hinside := element.visibleItems_subset hvisible
  have hleaf : item.ownLeaf.Known registry := hknown item hinside
  exact Sql.exists_ofLeaf hfault hleaf
    (Item.isFilled_ownLeaf (hsuited item hinside) (of_decide_eq_true hset))

theorem Element.exists_compile {element : Element} {bound : Filter}
    (hfault : registry.fault = none) (hsuited : ∀ item ∈ element.items, item.Suited)
    (hknown : ∀ item ∈ element.items, item.leaf.Known registry)
    (hnodup : (element.items.map Item.variableName).Nodup)
    (hbound : element.boundFilter? = some bound) (subject : Subject) :
    ∃ query, Sql.compile registry subject bound = .ok query := by
  obtain ⟨condition, hcondition⟩ := exists_ofFilter_boundFilter? hfault hsuited hknown hnodup hbound
  exact ⟨Sql.selectFrom (registry.tableName subject) condition, by
    rw [Sql.compile_eq_map, hcondition, Except.map]⟩

/-! ### At the console -/

open Console

/-- A registry that has been loaded has no fault. -/
theorem fault_of_load {path : String} {contents : Registry.FileContents}
    (hload : Registry.load path contents = .ok registry) : registry.fault = none := by
  cases contents with
  | missing => cases hload
  | unreadable => cases hload
  | text content =>
    rw [Registry.load] at hload
    cases hread : Json.read? content >>= Registry.ofJson? with
    | none => simp [hread] at hload
    | some loaded =>
      cases hfault : loaded.fault with
      | some fault => simp [hread, hfault] at hload
      | none =>
        obtain rfl : loaded = registry := by simpa [hread, hfault] using hload
        exact hfault

/-- The registry that a dialogue works with has no fault. -/
theorem fault_openRegistry (path : String) (contents : Registry.FileContents) :
    (openRegistry path contents).1.fault = none := by
  rw [openRegistry]
  cases hload : Registry.load path contents with
  | ok registry => exact fault_of_load hload
  | error error => exact Registry.fault_builtin

/-- A query is shown for what an element says, if it says something and that has a query. -/
theorem queryLines_cases {subject : Subject} {filter? : Option Filter}
    (hquery : ∀ filter, filter? = some filter →
      ∃ query, Sql.compile registry subject filter = .ok query) :
    filter? = none ∧ queryLines registry subject filter? = ["Filter 为空"] ∨
      ∃ filter query, filter? = some filter ∧
        queryLines registry subject filter? =
          ["[AST]: " ++ filter.describe, "[SQL]: " ++ query] := by
  cases filter? with
  | none => exact .inl ⟨rfl, rfl⟩
  | some filter =>
    obtain ⟨query, hcompile⟩ := hquery filter rfl
    exact .inr ⟨filter, query, rfl, by simp [queryLines, hcompile]⟩

/-- Under a registry without fault, what an element of a furnished workspace says with its values
has a query for every subject. So at the console, whatever registry is opened, a line that can be
read and built is answered with the text of its tree, its variables, and either the notice that
nothing is selected or the tree and the query. -/
theorem Workspace.compile_of_furnished :
    (∀ registry : Registry, registry.fault = none → ∀ workspace, Furnished registry workspace →
      ∀ element, workspace.Has element → ∀ bound, element.boundFilter? = some bound →
        ∀ subject, ∃ query, Sql.compile registry subject bound = .ok query) ∧
    ∀ path contents registry notice, openRegistry path contents = (registry, notice) →
      ∀ subject line filter, Filter.ofText registry subject line = .ok filter →
        ∀ element rest,
          Element.ofFilterAlone subject (some filter) ⟨0⟩ 0 = (.ok element, rest) →
          ∃ answer, filterLines registry subject line =
              ("[Box model 文本]: " ++ element.text) :: bindingLines element.bindings ++ answer ∧
            (element.boundFilter? = none ∧ answer = ["Filter 为空"] ∨
              ∃ bound query, element.boundFilter? = some bound ∧
                answer = ["[AST]: " ++ bound.describe, "[SQL]: " ++ query]) := by
  constructor
  · intro registry hfault workspace hfurnished element helement bound hbound subject
    obtain ⟨tree, htree, hmember⟩ := helement
    have hnames := (hfurnished.tidy.names_nodup htree).sublist
      ((Element.items_sublist hmember).map Item.variableName)
    have hinside := Has.items_subset ⟨tree, htree, hmember⟩
    exact Element.exists_compile hfault (fun item hitem ↦ hfurnished.suited item (hinside hitem))
      (fun item hitem ↦ hfurnished.known item (hinside hitem)) hnames hbound subject
  · intro path contents registry notice hopen subject line filter hread element rest hbuild
    have hfault : registry.fault = none := by
      have hopened := fault_openRegistry path contents
      rwa [hopen] at hopened
    have hquery : ∀ bound, element.boundFilter? = some bound →
        ∃ query, Sql.compile registry subject bound = .ok query := fun bound hbound ↦
      Element.exists_compile hfault (Element.suited_of_build hbuild)
        (Element.known_of_build hread hbuild)
        (Element.names_nodup_of_build hbuild) hbound subject
    refine ⟨queryLines registry subject element.boundFilter?, ?_, ?_⟩
    · simp [filterLines, hread, hbuild]
    · exact queryLines_cases hquery

/-- Single copies, wherever they are. -/
def copiesAnywhere : Selection := .sourced (.among ["1"]) (.among [Choice.originWildcard])

/-- A tree of a line that has been read, in which an origin is chosen afterwards. -/
def copiesAfterwards : List Command :=
  [.build "main" .card none (some (nestedFilter copiesAnywhere.reread)),
    .editItem "main" ⟨6⟩ (.selectSides (some ["1"]) (some ["My Deck"]))]

theorem compile_of_copiesAfterwards :
    (∃ root bound query, (Workspace.empty.run copiesAfterwards).Has root ∧
      root.text =
        "(NOT (CardType in \"Vampire\" OR NOT (CardCount in \"2\" FROM \"My Deck\")) AND " ++
          "(CardType in \"Imbued\" OR CardCount in \"1\" FROM \"My Deck\"))" ∧
      root.boundFilter? = some bound ∧
      Sql.compile Registry.builtin .cardSet bound = .ok query) ∧
    ∃ (element : Element) (bound : Filter) (query : String),
      filterLines Registry.builtin .card (nestedLine copiesAnywhere) =
        ("[Box model 文本]: " ++ element.text) :: bindingLines element.bindings ++
          ["[AST]: " ++ bound.describe, "[SQL]: " ++ query] := by
  obtain ⟨hfurnishedCompiles, hlineCompiles⟩ := Workspace.compile_of_furnished
  have hfits : copiesAnywhere.Fits countKeyword.argument := ⟨by decide, by decide⟩
  have hread := ofText_nestedLine hfits
  constructor
  · obtain ⟨tree, htrees⟩ : ∃ tree, (Workspace.empty.run copiesAfterwards).trees = [tree] :=
      List.length_eq_one_iff.mp (by decide +kernel)
    have hseen : (Workspace.empty.run copiesAfterwards).trees.map (fun tree ↦
        (tree.2.text, tree.2.boundFilter?.isSome)) =
          [("(NOT (CardType in \"Vampire\" OR NOT (CardCount in \"2\" FROM \"My Deck\")) AND " ++
            "(CardType in \"Imbued\" OR CardCount in \"1\" FROM \"My Deck\"))", true)] := by
      decide +kernel
    rw [htrees, List.map_singleton, List.singleton_inj, Prod.mk.injEq] at hseen
    obtain ⟨htext, hsaid⟩ := hseen
    obtain ⟨bound, hbound⟩ := Option.isSome_iff_exists.mp hsaid
    have hbuilt : Workspace.Furnished Registry.builtin (Workspace.empty.perform
        (.build "main" .card none (some (nestedFilter copiesAnywhere.reread)))).2 :=
      .read .empty rfl hread (List.Subset.refl _)
    have hfurnished : Workspace.Furnished Registry.builtin
        (Workspace.empty.run copiesAfterwards) :=
      hbuilt.edit rfl (by simp [Command.keyword?])
    have hroot : (Workspace.empty.run copiesAfterwards).Has tree.2 :=
      ⟨tree, by simp [htrees], tree.2.mem_all_self⟩
    obtain ⟨query, hquery⟩ := hfurnishedCompiles Registry.builtin Registry.fault_builtin _
      hfurnished tree.2 hroot bound hbound .cardSet
    exact ⟨tree.2, bound, query, hroot, htext, hbound, hquery⟩
  · have hsaid : (Element.ofFilterAlone .card (some (nestedFilter copiesAnywhere.reread)) ⟨0⟩
        0).1.map (fun element ↦ element.boundFilter?.isSome) = .ok true := by
      decide +kernel
    obtain ⟨element, rest, hbuild⟩ : ∃ element rest, Element.ofFilterAlone .card
        (some (nestedFilter copiesAnywhere.reread)) ⟨0⟩ 0 = (.ok element, rest) :=
      Element.exists_ofFilter_eq_ok_iff.mpr rfl
    rw [hbuild] at hsaid
    have hpresent : element.boundFilter?.isSome = true := Except.ok.inj hsaid
    obtain ⟨answer, hanswer, hcases⟩ :=
      hlineCompiles usualPath .missing _ _ rfl .card _ _ hread _ _ hbuild
    rcases hcases with ⟨hnone, -⟩ | ⟨bound, query, -, rfl⟩
    · simp [hnone] at hpresent
    · exact ⟨element, bound, query, hanswer⟩

end CardQuery.Editor
