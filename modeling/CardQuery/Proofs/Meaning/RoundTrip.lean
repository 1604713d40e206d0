import CardQuery.Proofs.Editor.Drawing
import CardQuery.Proofs.Editor.OwnValues
import CardQuery.Proofs.Editor.Sketches
import CardQuery.Proofs.Meaning.Reading

/-!
From a filter into the editor and back. A leaf is usable if an item can bind its values, and
pruning a filter leaves out the other leaves together with all that is empty without them. What a
tree says that was built from a filter, with its values bound, is the pruned filter in every
reading: the outline of a filter reads as the pruned filter does (`outline?_ofFilter`), the tree of
an outline reads as the outline (`read_ofOutline`), and variables that are unique bring every value
back to its leaf. `boundFilter?_of_build` says it of leaves and of truths.
-/

set_option autoImplicit false
set_option relaxedAutoImplicit false

namespace CardQuery

open Editor

/-! ### Pruning -/

/-- The leaf takes no values, or carries values that let something through and not everything. -/
def Leaf.isUsable (entry : Leaf) : Bool :=
  match entry.argument, entry.selection with
  | some .absent, _ => true
  | some .text, some (.listed values) => !values.isEmpty
  | some (.list _), some (.listed values) => !values.isEmpty
  | some (.sourced _ _), some (.sourced (.among values) (.among origins)) =>
    values.any (· != Choice.valueWildcard) && origins.any (· != Choice.originWildcard)
  | _, _ => false

/-- The filter without its wrappers and without leaves that are not usable; nothing if no leaf
remains. -/
def Filter.prune : Filter → Option Filter
  | wrapped inner => inner.prune
  | join left connective right =>
    match left.prune, right.prune with
    | some first, some second => some (join first connective second)
    | some first, none => some first
    | none, second => second
  | negation operand => operand.prune.map negation
  | leaf entry => if entry.isUsable then some (leaf entry) else none

theorem Reading.read_prune_join {α : Type} (reading : Reading α) (left right : Filter)
    (connective : Connective) :
    (Filter.prune (.join left connective right)).map reading.read =
      reading.combine connective (left.prune.map reading.read)
        (right.prune.map reading.read) := by
  rw [Filter.prune]
  cases left.prune <;> cases right.prune <;> rfl

/-- Pruned filters are read as filters of which some have no value. -/
theorem Reading.follows_prune {α : Type} (reading : Reading α) :
    reading.Follows fun filter ↦ filter.prune.map reading.read where
  join left connective right := reading.read_prune_join left right connective
  negation operand := by
    change (operand.prune.map .negation).map reading.read = _
    rw [Option.map_map, Option.map_map]
    rfl

theorem Reading.read_prune_negateIf {α : Type} (reading : Reading α) (negated : Bool)
    (filter : Filter) :
    (Editor.negateIf negated filter).prune.map reading.read =
      (filter.prune.map reading.read).map (reading.negateIf negated) :=
  reading.follows_prune.negateIf negated filter

theorem Filter.leaves_prune (filter : Filter) :
    leavesOf filter.prune = filter.leaves.filter Leaf.isUsable := by
  induction filter with
  | wrapped inner ih => exact ih
  | join left connective right hleft hright =>
    rw [leaves, List.filter_append, ← hleft, ← hright, prune]
    cases left.prune <;> cases right.prune <;> simp [leaves]
  | negation operand ih =>
    rw [leaves, ← ih, prune]
    cases operand.prune <;> simp [leaves]
  | leaf entry =>
    rw [prune]
    split <;> simp_all [leaves]

/-- Pruning makes no difference to a filter of usable leaves. -/
theorem Reading.read_prune {α : Type} (reading : Reading α) {filter : Filter}
    (husable : ∀ entry ∈ filter.leaves, entry.isUsable = true) :
    filter.prune.map reading.read = some (reading.read filter) := by
  induction filter with
  | wrapped inner ih => exact ih husable
  | join left connective right hleft hright =>
    rw [Filter.leaves, List.forall_mem_append] at husable
    rw [reading.read_prune_join, hleft husable.1, hright husable.2]
    rfl
  | negation operand ih =>
    have hoperand := congrArg (Option.map reading.negation) (ih husable)
    rw [Filter.prune, Option.map_map]
    rwa [Option.map_map] at hoperand
  | leaf entry => simp [Filter.prune, husable entry (by simp [Filter.leaves])]

/-! ### Seeds -/

namespace Editor

namespace CurrentValues

variable {current : CurrentValues} {argument : Argument} {selection : Selection}

/-- A side with a literal that is no wildcard is kept, and any other is left open. -/
theorem loadedSide_among (literals : List String) (wildcard : String) :
    loadedSide (.among literals) wildcard =
      if literals.any (· != wildcard) then some literals else none := by
  simp only [loadedSide, Choice.ofLiterals_eq_ite]
  split <;> rfl

/-- Both sides are set if each has a literal that is no wildcard, and otherwise not enough is. -/
theorem selection?_loadedSides (values origins : List String) :
    (sourced (loadedSide (.among values) Choice.valueWildcard)
        (loadedSide (.among origins) Choice.originWildcard)).selection? =
      if values.any (· != Choice.valueWildcard) ∧ origins.any (· != Choice.originWildcard) then
        some (.sourced (.among values) (.among origins))
      else none := by
  rw [loadedSide_among, loadedSide_among]
  by_cases hvalues : values.any (· != Choice.valueWildcard)
  · by_cases horigins : origins.any (· != Choice.originWildcard)
    · rw [if_pos hvalues, if_pos horigins, if_pos ⟨hvalues, horigins⟩]
      rfl
    · rw [if_pos hvalues, if_neg horigins, if_neg (not_and_of_not_right _ horigins)]
      rfl
  · rw [if_neg hvalues, if_neg (not_and_of_not_left _ hvalues)]
    rfl

/-- What has been loaded from a leaf are its values if they are usable, and otherwise it is
empty. -/
theorem load?_ofArgument (hload : (ofArgument argument).load? selection = some current)
    (keyword description : String) (name : Option String) :
    if Leaf.isUsable ⟨keyword, description, some argument, name, some selection⟩ then
      ¬ current.IsEmpty ∧ current.selection? = some selection
    else current.IsEmpty := by
  cases argument with
  | absent => cases hload
  | text =>
    cases selection with
    | sourced values origins => cases hload
    | listed values =>
      obtain ⟨hfew, rfl⟩ : values.length ≤ 1 ∧ .text values = current := by
        simpa [ofArgument, load?] using hload
      cases values with
      | nil => simp [Leaf.isUsable, IsEmpty]
      | cons value others =>
        obtain rfl : others = [] := by simpa using hfew
        simp [Leaf.isUsable, IsEmpty, selection?]
  | list domain =>
    cases selection with
    | sourced values origins => cases hload
    | listed values =>
      obtain rfl := Option.some.inj hload
      cases values <;> simp [Leaf.isUsable, IsEmpty, selection?]
  | sourced domain originDomain =>
    cases selection with
    | listed values => cases hload
    | sourced values origins =>
      obtain rfl := Option.some.inj hload
      cases values with
      | any => simp [Leaf.isUsable, IsEmpty, loadedSide]
      | among values =>
        cases origins with
        | any => simp [Leaf.isUsable, IsEmpty, loadedSide]
        | among origins =>
          rw [isEmpty_iff, selection?_loadedSides]
          simp only [Leaf.isUsable, Bool.and_eq_true]
          split <;> simp

end CurrentValues

/-- The item of a leaf holds the values of the leaf if they are usable, and is empty otherwise. -/
theorem Seed.holds_of_ofLeaf {negated : Bool} {entry : Leaf} {seed : Seed}
    (hseed : Seed.ofLeaf negated entry = .ok seed) :
    ∃ argument current, entry.argument = some argument ∧
      seed = ⟨entry.keyword, entry.description, entry.variableName, negated, argument, current⟩ ∧
      if entry.isUsable then ¬ current.IsEmpty ∧ current.selection? = entry.selection
      else current.IsEmpty := by
  obtain ⟨argument, current, hargument, hcarried, rfl⟩ := ofLeaf_eq_ok_iff.mp hseed
  refine ⟨argument, current, hargument, rfl, ?_⟩
  obtain ⟨keyword, description, _, name, selection⟩ := entry
  obtain rfl := hargument
  cases selection with
  | none =>
    obtain rfl := Option.some.inj hcarried
    cases argument <;> simp [Leaf.isUsable, CurrentValues.ofArgument, CurrentValues.IsEmpty,
      CurrentValues.selection?]
  | some selection => exact CurrentValues.load?_ofArgument hcarried keyword description name

end Editor

/-! ### Outlines in a reading -/

namespace Reading

variable {α : Type} (reading : Reading α)

/-- What an item of the seed says before it is edited. -/
def seed? (seed : Seed) : Option α :=
  if seed.current.IsEmpty then none
  else
    some (reading.negateIf seed.negated
      (reading.leaf ⟨seed.keyword, seed.description, some seed.shape, none,
        seed.current.selection?⟩))

mutual

/-- What an outline says: a box is the chain of its children. -/
def outline? : Outline → Option α
  | .item seed => reading.seed? seed
  | .box connective negated children =>
    (reading.chain connective (outlines children)).map (reading.negateIf negated)

def outlines : List Outline → List (Option α)
  | [] => []
  | outline :: rest => outline? outline :: outlines rest

end

theorem outlines_append (first second : List Outline) :
    reading.outlines (first ++ second) = reading.outlines first ++ reading.outlines second := by
  induction first with
  | nil => rfl
  | cons outline rest ih => simp only [List.cons_append, outlines, ih]

/-- The item of a leaf says what the leaf does if it is usable, and nothing otherwise. -/
theorem seed?_ofLeaf {negated : Bool} {entry : Leaf} {seed : Seed}
    (hseed : Seed.ofLeaf negated entry = .ok seed) :
    reading.seed? seed =
      ((Filter.leaf entry).prune.map reading.read).map (reading.negateIf negated) := by
  obtain ⟨argument, current, hargument, rfl, hheld⟩ := Seed.holds_of_ofLeaf hseed
  rw [Filter.prune]
  by_cases husable : entry.isUsable
  · rw [if_pos husable] at hheld ⊢
    rw [seed?, if_neg hheld.1, hheld.2, ← hargument]
    exact congrArg (fun value ↦ some (reading.negateIf negated value))
      (reading.leaf_anonymous entry)
  · rw [if_neg husable] at hheld ⊢
    rw [seed?, if_pos hheld]
    rfl

theorem seed?_ofFilter {filter : Filter} {seed : Seed} (hseed : Seed.ofFilter filter = .ok seed) :
    reading.seed? seed = filter.prune.map reading.read := by
  obtain ⟨negated, entry, rfl, hleaf⟩ := exists_leaf_of_ofFilter hseed
  rw [reading.seed?_ofLeaf hleaf, read_prune_negateIf]

/-- Two sides of a connective put next to each other are a chain that says what their join does. -/
theorem chain_outlines_append {connective : Connective} {left right : Filter}
    {first second : List Outline}
    (hleft : reading.chain connective (reading.outlines first) = left.prune.map reading.read)
    (hright : reading.chain connective (reading.outlines second) = right.prune.map reading.read) :
    reading.chain connective (reading.outlines (first ++ second)) =
      (Filter.prune (.join left connective right)).map reading.read := by
  rw [outlines_append, chain_append, hleft, hright, read_prune_join]

/-- A box of outlines that say what a filter does says it too, or its negation. -/
theorem outline?_box {connective : Connective} {filter : Filter} {children : List Outline}
    (hchildren : reading.chain connective (reading.outlines children) =
      filter.prune.map reading.read) (negated : Bool) :
    reading.outline? (.box connective negated children) =
      (Editor.negateIf negated filter).prune.map reading.read := by
  rw [outline?, hchildren, read_prune_negateIf]

/-- What a filter adds to a box is, as a chain of the connective of the box, the pruned filter. -/
theorem chain_operands {outer : Connective} {filter : Filter} {outlines : List Outline}
    (hoperands : Outline.Operands outer filter outlines) :
    reading.chain outer (reading.outlines outlines) = filter.prune.map reading.read := by
  induction hoperands with
  | item hseed =>
    simp only [Reading.outlines, outline?, chain_singleton]
    exact reading.seed?_ofFilter hseed
  | chain _ _ ihLeft ihRight => exact reading.chain_outlines_append ihLeft ihRight
  | box negated _ _ _ ihLeft ihRight =>
    simp only [Reading.outlines, chain_singleton]
    exact reading.outline?_box (reading.chain_outlines_append ihLeft ihRight) negated

/-- The outline of a filter says what the pruned filter does. -/
theorem outline?_ofFilter {filter : Filter} {outline : Outline}
    (hwhole : Outline.Whole filter outline) :
    reading.outline? outline = filter.prune.map reading.read := by
  induction hwhole with
  | wrapped _ ih => exact ih
  | box negated hleft hright =>
    exact reading.outline?_box (reading.chain_outlines_append (reading.chain_operands hleft)
      (reading.chain_operands hright)) negated
  | @item negated entry seed hseed =>
    have hseed? := reading.seed?_ofLeaf hseed
    rw [← read_prune_negateIf] at hseed?
    simp only [outline?, outlines, chain_singleton, hseed?]
    exact congrFun Option.map_id _

/-! ### Trees in a reading -/

theorem read_ofSeed (seed : Seed) (supply : Supply) :
    (Item.ofSeed seed supply).1.ownFilter?.map reading.read = reading.seed? seed := by
  have hleaf := reading.leaf_anonymous (Item.ofSeed seed supply).1.ownLeaf
  unfold Item.ownFilter? seed?
  simp only [Item.ofSeed, Bool.false_eq_true, false_or]
  split
  · rfl
  · rw [Option.map_some, read_negateIf]
    exact congrArg (fun value ↦ some (reading.negateIf seed.negated value)) hleaf.symm

mutual

/-- The tree of an outline says what the outline does, if its items are given their values. -/
theorem read_ofOutline (subject : Subject) (outline : Outline) (supply : Supply) :
    (Element.ofOutline subject outline supply).1.ownFilter?.map reading.read =
      reading.outline? outline := by
  cases outline with
  | item seed =>
    rw [outline?, ← reading.read_ofSeed seed supply]
    rfl
  | box connective negated children =>
    simp only [Element.ofOutline, Element.ownFilter?_box, read_frame_filter?, List.map_map,
      Bool.false_eq_true, if_false, outline?]
    rw [← read_ofOutlines subject children supply.identity.2]
    rfl

theorem read_ofOutlines (subject : Subject) (several : List Outline) (supply : Supply) :
    (Element.ofOutlines subject several supply).1.map
        (fun element ↦ element.ownFilter?.map reading.read) =
      reading.outlines several := by
  cases several with
  | nil => rfl
  | cons outline rest =>
    simp only [Element.ofOutlines, List.map_cons, outlines]
    rw [read_ofOutline subject outline supply, read_ofOutlines subject rest]

end

end Reading

/-! ### A filter that has been built -/

theorem Editor.Element.names_nodup_of_build {subject : Subject} {filter : Option Filter}
    {supply rest : Supply} {element : Element}
    (hbuild : ofFilter subject filter supply = (.ok element, rest)) :
    (element.items.map Item.variableName).Nodup := by
  rw [← Node.names_nodes]
  exact (ofFilter_drawn hbuild).names.nodup

/-- In every reading, a tree that was built from a filter says with its values what the pruned
filter says. -/
theorem Reading.read_boundFilter? {α : Type} (reading : Reading α) {subject : Subject}
    {filter : Filter} {supply rest : Supply} {element : Element}
    (hbuild : Element.ofFilter subject (some filter) supply = (.ok element, rest)) :
    element.boundFilter?.map reading.read = filter.prune.map reading.read := by
  rw [Element.boundFilter?_eq_ownFilter? (Element.names_nodup_of_build hbuild)]
  obtain ⟨outline, houtline, hdrawn⟩ := Element.ofFilter_eq_ok hbuild
  have hread := reading.read_ofOutline subject outline supply
  rw [hdrawn] at hread
  rw [hread, reading.outline?_ofFilter (Outline.whole_of_complete houtline)]

/-- A tree built from a filter on any pool says, with its values, what the pruned filter does. It
says nothing if nothing is left of the filter, and otherwise it has the leaves of the pruned filter
in their order, up to variables, and is as true wherever leaves are true by keyword and values. -/
theorem boundFilter?_of_build {subject : Subject} {filter : Filter} {supply rest : Supply}
    {element : Element}
    (hbuild : Element.ofFilter subject (some filter) supply = (.ok element, rest)) :
    (element.boundFilter? = none ↔ filter.prune = none) ∧
      ∀ bound, element.boundFilter? = some bound → ∃ pruned, filter.prune = some pruned ∧
        bound.leaves.map Leaf.anonymous = pruned.leaves.map Leaf.anonymous ∧
        ∀ interpret, bound.truth interpret = pruned.truth interpret := by
  have hread : ∀ {α : Type} (reading : Reading α),
      element.boundFilter?.map reading.read = filter.prune.map reading.read :=
    fun reading ↦ reading.read_boundFilter? hbuild
  refine ⟨?_, fun bound hbound ↦ ?_⟩
  · have hpresent := congrArg Option.isNone (hread Reading.leaves)
    simp only [Option.isNone_map] at hpresent
    rw [← Option.isNone_iff_eq_none, ← Option.isNone_iff_eq_none, hpresent]
  · cases hprune : filter.prune with
    | none =>
      have hleaves := hread Reading.leaves
      simp [hbound, hprune] at hleaves
    | some pruned =>
      rw [hbound, hprune] at hread
      refine ⟨pruned, rfl, ?_, fun interpret ↦ ?_⟩
      · rw [← Reading.read_leaves, ← Reading.read_leaves]
        exact Option.some.inj (hread Reading.leaves)
      · rw [← Reading.read_truth, ← Reading.read_truth]
        exact Option.some.inj (hread (Reading.truth interpret))

/-- A negated alternative of which only the first side has values. -/
def halfSetAlternative : Filter :=
  .wrapped (.negation (.join
    (.leaf ⟨"CardType", "Card Type", some (.list ["Vampire", "Imbued"]), some "$type",
      some (.listed ["Vampire"])⟩)
    .or
    (.leaf ⟨"CardName", "Card Name", some .text, some "$name", none⟩)))

theorem boundFilter?_of_halfSetAlternative :
    ∃ element rest,
      Element.ofFilter .card (some halfSetAlternative) ⟨⟨0⟩, .empty, 0⟩ = (.ok element, rest) ∧
      (element.boundFilter? = none ↔ halfSetAlternative.prune = none) ∧
      ∀ bound, element.boundFilter? = some bound → ∃ pruned,
        halfSetAlternative.prune = some pruned ∧
        bound.leaves.map Leaf.anonymous = pruned.leaves.map Leaf.anonymous ∧
        ∀ interpret, bound.truth interpret = pruned.truth interpret := by
  obtain ⟨element, rest, hbuild⟩ : ∃ element rest,
      Element.ofFilter .card (some halfSetAlternative) ⟨⟨0⟩, .empty, 0⟩ = (.ok element, rest) :=
    ⟨_, _, rfl⟩
  exact ⟨element, rest, hbuild, boundFilter?_of_build hbuild⟩

end CardQuery
