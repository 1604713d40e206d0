import CardQuery.Proofs.Editor.Flatness
import CardQuery.Proofs.Editor.Offences
import CardQuery.Proofs.Editor.Rows
import CardQuery.Proofs.Printing.Printed

/-!
What a build makes of a filter. No leaf is lost, doubled or moved: the items are those of the leaves
in their order, each with the values of its leaf in the form in which values are read again, and
negated exactly if the leaf stands directly under a negation. No box could be left out: a box inside
another has several children, and another connective than the one around it unless it is negated.
Nothing is disabled. The build of a filter has this form whatever its pool holds
(`canonical_of_build`).
-/

set_option autoImplicit false
set_option relaxedAutoImplicit false

namespace CardQuery

/-! ### Values in one form -/

/-- What is selected for the argument. Without a selection nothing is listed, or both sides let
everything through. -/
def Argument.normalised : Argument → Option Selection → Option Selection
  | absent, none => none
  | text, none | list _, none => some (.listed [])
  | sourced _ _, none => some (.sourced .any .any)
  | _, some selection => some selection.reread

/-- The leaf without its variable, and with its values in the form in which values are read
again. -/
def Leaf.normalised (entry : Leaf) : Leaf :=
  { entry with
    variableName := none
    selection := entry.argument.bind fun argument ↦ argument.normalised entry.selection }

namespace Editor

namespace CurrentValues

/-- A side that is open lets everything through. -/
def side : Option (List String) → Choice
  | none => .any
  | some values => .among values

/-- What is selected, whether it is enough to be bound or not. -/
def held : CurrentValues → Option Selection
  | flag => none
  | text values | list values => some (.listed values)
  | sourced values origins => some (.sourced (side values) (side origins))

theorem side_toOption (choice : Choice) : side choice.toOption = choice := by
  cases choice <;> rfl

theorem side_loadedSide (choice : Choice) (wildcard : String) :
    side (loadedSide choice wildcard) = choice.reread wildcard := by
  cases choice with
  | any => rfl
  | among values => exact side_toOption _

theorem held_ofArgument (argument : Argument) :
    (ofArgument argument).held = argument.normalised none := by
  cases argument <;> rfl

theorem held_load? {current loaded : CurrentValues} {selection : Selection}
    (hload : current.load? selection = some loaded) : loaded.held = some selection.reread := by
  unfold load? at hload
  split at hload
  · obtain ⟨-, hloaded⟩ := Option.ite_none_right_eq_some.mp hload
    obtain rfl := Option.some.inj hloaded
    rfl
  · obtain rfl := Option.some.inj hload
    rfl
  · obtain rfl := Option.some.inj hload
    simp only [held, side_loadedSide, Selection.reread]
  · cases hload

/-- What a leaf carries is held in the form in which values are read again. -/
theorem held_carried? {argument : Argument} {selection : Option Selection}
    {current : CurrentValues} (hcarried : carried? argument selection = some current) :
    current.held = argument.normalised selection := by
  cases selection with
  | none =>
    obtain rfl := Option.some.inj hcarried
    exact held_ofArgument argument
  | some selection =>
    rw [held_load? hcarried]
    cases argument <;> rfl

end CurrentValues

/-! ### Items as leaves -/

/-- The item as a leaf without a variable, and whether it is negated. -/
def Item.signedLeaf (item : Item) : Bool × Leaf :=
  (item.negated, ⟨item.keyword, item.description, some item.shape, none, item.current.held⟩)

/-- The item that the seed will be as a leaf, and whether it will be negated. -/
def Seed.signedLeaf (seed : Seed) : Bool × Leaf :=
  (seed.negated, ⟨seed.keyword, seed.description, some seed.shape, none, seed.current.held⟩)

theorem Seed.signedLeaf_ofLeaf {negated : Bool} {entry : Leaf} {seed : Seed}
    (hseed : Seed.ofLeaf negated entry = .ok seed) :
    seed.signedLeaf = (negated, entry.normalised) := by
  obtain ⟨argument, current, hargument, hcarried, rfl⟩ := ofLeaf_eq_ok_iff.mp hseed
  simp only [signedLeaf, Leaf.normalised, hargument, CurrentValues.held_carried? hcarried,
    Option.bind_some]

/-- The items of a tree that was built are the leaves of the filter. -/
theorem Element.signedLeaves_of_build {subject : Subject} {filter : Filter}
    {supply rest : Supply} {element : Element}
    (hbuild : ofFilter subject (some filter) supply = (.ok element, rest)) :
    element.items.map Item.signedLeaf =
      filter.signedLeaves.map fun (negated, entry) ↦ (negated, entry.normalised) := by
  obtain ⟨outline, houtline, hdrawn⟩ := ofFilter_eq_ok hbuild
  have hrow := row_ofOutline subject outline supply
  rw [hdrawn] at hrow
  have hitems : element.items.map Item.signedLeaf = outline.seeds.map Seed.signedLeaf :=
    hrow.map_eq fun _ _ ↦ rfl
  rw [hitems]
  exact (Outline.whole_of_complete houtline).map_seeds fun _ _ _ ↦ Seed.signedLeaf_ofLeaf

/-! ### Boxes -/

namespace Element

/-- Whatever stands in a flat element has its place in the box around it. -/
theorem Flat.of_mem_all {outer : Connective} {element member : Element}
    (hflat : Flat outer element) (hmember : member ∈ element.all) :
    ∃ around, Flat around member := by
  induction hflat with
  | @item outer entry henabled =>
    obtain rfl := List.mem_singleton.mp hmember
    exact ⟨outer, .item henabled⟩
  | @box outer frame children henabled hgroup hmany hchildren ih =>
    rw [all_box, List.mem_cons, List.mem_flatMap] at hmember
    rcases hmember with rfl | ⟨child, hchild, hinside⟩
    · exact ⟨outer, .box henabled hgroup hmany hchildren⟩
    · exact ih child hchild hinside

/-- What is in a flat tree is the whole of it, or has its place in the box around it. -/
theorem FlatRoot.of_mem_all {root member : Element} (hflat : FlatRoot root)
    (hmember : member ∈ root.all) : member = root ∨ ∃ around, Flat around member := by
  cases hflat with
  | several henabled hmany hchildren =>
    rw [all_box, List.mem_cons, List.mem_flatMap] at hmember
    refine hmember.imp_right fun ⟨child, hchild, hinside⟩ ↦ ?_
    exact (hchildren child hchild).of_mem_all hinside
  | single hframe _ _ hentry =>
    rw [all_box, List.mem_cons, List.flatMap_singleton] at hmember
    have hitem : Flat .and (item _) := .item hentry
    exact hmember.imp_right hitem.of_mem_all

/-- A box in a flat tree is enabled, and what is in it has its place there. -/
theorem FlatRoot.box_of_mem_all {root : Element} {frame : Frame} {children : List Element}
    (hflat : FlatRoot root) (hmember : box frame children ∈ root.all) :
    frame.disabled = false ∧ ∀ child ∈ children, Flat frame.connective child := by
  rcases hflat.of_mem_all hmember with rfl | ⟨around, hbox⟩
  · cases hflat with
    | several henabled _ hchildren => exact ⟨henabled, hchildren⟩
    | single hframe _ _ hentry => exact ⟨hframe, by simpa using Flat.item hentry⟩
  · cases hbox with
    | box henabled _ _ hchildren => exact ⟨henabled, hchildren⟩

theorem FlatRoot.item_of_mem_all {root : Element} {entry : Item} (hflat : FlatRoot root)
    (hmember : item entry ∈ root.all) : entry.disabled = false := by
  rcases hflat.of_mem_all hmember with rfl | ⟨around, hitem⟩
  · cases hflat
  · cases hitem with
    | item henabled => exact henabled

/-- The form in which builds show a filter. -/
structure Canonical (filter : Filter) (element : Element) : Prop where
  /-- The items are the leaves in their order, and negated as they are. -/
  leaves : element.items.map Item.signedLeaf =
    filter.signedLeaves.map fun (negated, entry) ↦ (negated, entry.normalised)
  /-- A box inside another could not be left out. -/
  nested : ∀ frame children, box frame children ∈ element.all →
    ∀ inner inside, box inner inside ∈ children →
      2 ≤ inside.length ∧ (inner.negated = false → inner.connective ≠ frame.connective)
  /-- The outermost element is a box with children; a child that is alone in it is an item. -/
  outermost : ∃ frame children, element = box frame children ∧ children ≠ [] ∧
    ∀ child, children = [child] →
      frame.negated = false ∧ frame.connective = .and ∧ ∃ entry, child = item entry
  boxesEnabled : ∀ frame children, box frame children ∈ element.all → frame.disabled = false
  itemsEnabled : ∀ entry, item entry ∈ element.all → entry.disabled = false

/-- A tree that was built is the canonical one of its filter, whatever its pool holds. -/
theorem canonical_of_build {subject : Subject} {filter : Filter} {supply rest : Supply}
    {element : Element} (hbuild : ofFilter subject (some filter) supply = (.ok element, rest)) :
    element.Canonical filter := by
  have hflat := flatRoot_of_build hbuild
  refine ⟨signedLeaves_of_build hbuild, fun frame children hmember inner inside hinner ↦ ?_, ?_,
    fun _ _ hmember ↦ (hflat.box_of_mem_all hmember).1, fun _ ↦ hflat.item_of_mem_all⟩
  · cases (hflat.box_of_mem_all hmember).2 _ hinner with
    | box _ hgroup hmany _ =>
      refine ⟨hmany, fun hplain hsame ↦ ?_⟩
      exact Bool.false_ne_true (hplain.symm.trans (hgroup hsame))
  · cases hflat with
    | @several frame children _ hmany _ =>
      refine ⟨frame, children, rfl, ?_, ?_⟩
      · rintro rfl
        simp at hmany
      · rintro child rfl
        simp at hmany
    | @single frame entry _ hconnective hnegated _ =>
      refine ⟨frame, _, rfl, List.cons_ne_nil _ _, fun child hchild ↦ ?_⟩
      obtain rfl := List.singleton_inj.mp hchild
      exact ⟨hnegated, hconnective, entry, rfl⟩

/-- A chain and a negated chain of the same connective in it. The origins of the last leaf are
nothing but the wildcard. -/
def chainsInside : Filter :=
  let typed (value : String) : Filter :=
    .leaf ⟨"CardType", "Card Type", some (.list ["Imbued", "Vampire"]), none,
      some (.listed [value])⟩
  .wrapped (.join
    (.join (typed "Vampire") .and (.negation (.join (typed "Imbued") .and
      (.negation (.leaf ⟨"CardName", "Card Name", some .text, some "$name", none⟩)))))
    .and
    (.leaf ⟨"CardCount", "Card Count", some (.sourced ["1", "2"] ["Core"]), some "$count",
      some (.sourced (.among ["2"]) (.among [Choice.originWildcard]))⟩))

theorem canonical_of_chainsInside :
    ∃ element rest, ofFilterAlone .card (some chainsInside) ⟨0⟩ 0 = (.ok element, rest) ∧
      element.Canonical chainsInside ∧
      element.items.map Item.signedLeaf =
        [(false, ⟨"CardType", "Card Type", some (.list ["Imbued", "Vampire"]), none,
            some (.listed ["Vampire"])⟩),
          (false, ⟨"CardType", "Card Type", some (.list ["Imbued", "Vampire"]), none,
            some (.listed ["Imbued"])⟩),
          (true, ⟨"CardName", "Card Name", some .text, none, some (.listed [])⟩),
          (false, ⟨"CardCount", "Card Count", some (.sourced ["1", "2"] ["Core"]), none,
            some (.sourced (.among ["2"]) .any)⟩)] := by
  obtain ⟨element, rest, hbuild⟩ : ∃ element rest,
      ofFilterAlone .card (some chainsInside) ⟨0⟩ 0 = (.ok element, rest) :=
    exists_ofFilter_eq_ok_iff.mpr rfl
  have hcanonical := canonical_of_build hbuild
  exact ⟨element, rest, hbuild, hcanonical, hcanonical.leaves.trans rfl⟩

end Element

end Editor

end CardQuery
