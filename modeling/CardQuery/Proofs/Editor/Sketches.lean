import CardQuery.Proofs.Editor.Values

/-!
Sketches of filters. A sketch is complete only where its parts are, so a complete sketch is put
together from those of the parts (`operands_of_complete`, `whole_of_complete`). Its seeds are those
of the leaves, one for each in their order (`Whole.map_seeds`), so whatever holds of the seed of
every leaf can be said of the whole row.
-/

set_option autoImplicit false
set_option relaxedAutoImplicit false

namespace CardQuery

namespace Filter

/-- The leaves from left to right, each with whether it stands directly under a negation. -/
def signedLeaves : Filter → List (Bool × Leaf)
  | wrapped inner => inner.signedLeaves
  | join left _ right => left.signedLeaves ++ right.signedLeaves
  | negation (leaf entry) => [(true, entry)]
  | negation operand => operand.signedLeaves
  | leaf entry => [(false, entry)]

theorem map_snd_signedLeaves (filter : Filter) :
    filter.signedLeaves.map Prod.snd = filter.leaves := by
  fun_induction signedLeaves filter <;> simp_all [leaves]

@[simp] theorem signedLeaves_negateIf_join (negated : Bool) (left : Filter)
    (connective : Connective) (right : Filter) :
    (Editor.negateIf negated (join left connective right)).signedLeaves =
      left.signedLeaves ++ right.signedLeaves := by
  cases negated <;> simp [Editor.negateIf, signedLeaves]

@[simp] theorem signedLeaves_negateIf_leaf (negated : Bool) (entry : Leaf) :
    (Editor.negateIf negated (leaf entry)).signedLeaves = [(negated, entry)] := by
  cases negated <;> rfl

end Filter

namespace Editor

/-! ### Complete sketches -/

namespace Sketch

theorem map_eq_complete {α β : Type} {change : α → β} {sketch : Sketch α} {drawing : β}
    (hmap : sketch.map change = .complete drawing) :
    ∃ inner, sketch = .complete inner ∧ change inner = drawing := by
  cases sketch with
  | complete inner => exact ⟨inner, rfl, Sketch.complete.inj hmap⟩
  | broken drawn error => cases hmap

theorem append_eq_complete {left right : Sketch (List Outline)}
    {outlines : List Outline} (happend : left.append right = .complete outlines) :
    ∃ first second, left = .complete first ∧ right = .complete second ∧
      outlines = first ++ second := by
  cases left with
  | broken drawn error => cases happend
  | complete first =>
    cases right with
    | broken drawn error => cases happend
    | complete second => exact ⟨first, second, rfl, rfl, (Sketch.complete.inj happend).symm⟩

theorem ofExcept_eq_complete {result : Except BuildError Seed} {outlines : List Outline}
    (hresult : Sketch.ofExcept result = .complete outlines) :
    ∃ seed, result = .ok seed ∧ outlines = [.item seed] := by
  cases result with
  | error error => cases hresult
  | ok seed => exact ⟨seed, rfl, (Sketch.complete.inj hresult).symm⟩

end Sketch

/-! ### The seeds of a filter -/

/-- The seed is that of a leaf of the filter. -/
def Offers (filter : Filter) (seed : Seed) : Prop :=
  ∃ negated, ∃ entry ∈ filter.leaves, Seed.ofLeaf negated entry = .ok seed

theorem Seed.wish_ofLeaf {negated : Bool} {entry : Leaf} {seed : Seed}
    (hseed : Seed.ofLeaf negated entry = .ok seed) : seed.wish = entry.variableName := by
  obtain ⟨-, -, -, -, rfl⟩ := ofLeaf_eq_ok_iff.mp hseed
  rfl

/-- The variable that a seed would like is that of its leaf. -/
theorem Offers.wish {filter : Filter} {seed : Seed} (hoffers : Offers filter seed) :
    ∃ entry ∈ filter.leaves, seed.wish = entry.variableName := by
  obtain ⟨negated, entry, hentry, hseed⟩ := hoffers
  exact ⟨entry, hentry, Seed.wish_ofLeaf hseed⟩

/-- Every seed of a filter has values that belong to its argument. -/
theorem Offers.suited {filter : Filter} {seed : Seed} (hoffers : Offers filter seed) :
    seed.Suited := by
  obtain ⟨negated, entry, -, hseed⟩ := hoffers
  exact Seed.suited_of_ofLeaf hseed

/-- Only a leaf or a negated leaf has a seed. -/
theorem exists_leaf_of_ofFilter {filter : Filter} {seed : Seed}
    (hseed : Seed.ofFilter filter = .ok seed) :
    ∃ negated entry, filter = negateIf negated (.leaf entry) ∧
      Seed.ofLeaf negated entry = .ok seed := by
  unfold Seed.ofFilter at hseed
  split at hseed
  · exact ⟨false, _, rfl, hseed⟩
  · exact ⟨true, _, rfl, hseed⟩
  · cases hseed
  · cases hseed

theorem offers_of_seed {filter : Filter} {seed : Seed} (hseed : Seed.ofFilter filter = .ok seed) :
    Offers filter seed := by
  obtain ⟨negated, entry, rfl, hleaf⟩ := exists_leaf_of_ofFilter hseed
  exact ⟨negated, entry, by simp [leaves_negateIf, Filter.leaves], hleaf⟩

namespace Outline

theorem seedsOf_eq_flatMap (outlines : List Outline) :
    seedsOf outlines = outlines.flatMap seeds := by
  induction outlines with
  | nil => rfl
  | cons outline rest ih => rw [seedsOf, ih, List.flatMap_cons]

/-! ### How outlines are put together -/

/-- What a filter adds to a box of the connective, put together from its parts. -/
inductive Operands : Connective → Filter → List Outline → Prop
  | item {outer : Connective} {filter : Filter} {seed : Seed}
      (hseed : Seed.ofFilter filter = .ok seed) : Operands outer filter [.item seed]
  | chain {connective : Connective} {left right : Filter} {first second : List Outline}
      (hleft : Operands connective left first) (hright : Operands connective right second) :
      Operands connective (.join left connective right) (first ++ second)
  | box {outer inner : Connective} (negated : Bool) {left right : Filter}
      {first second : List Outline} (hgroup : inner = outer → negated = true)
      (hleft : Operands inner left first) (hright : Operands inner right second) :
      Operands outer (negateIf negated (.join left inner right))
        [.box inner negated (first ++ second)]

/-- The box of a whole filter, put together from its parts. -/
inductive Whole : Filter → Outline → Prop
  | wrapped {inner : Filter} {outline : Outline} (hinner : Whole inner outline) :
      Whole (.wrapped inner) outline
  | box {connective : Connective} {left right : Filter} {first second : List Outline}
      (negated : Bool) (hleft : Operands connective left first)
      (hright : Operands connective right second) :
      Whole (negateIf negated (.join left connective right))
        (.box connective negated (first ++ second))
  | item {negated : Bool} {entry : Leaf} {seed : Seed}
      (hseed : Seed.ofLeaf negated entry = .ok seed) :
      Whole (negateIf negated (.leaf entry)) (.box .and false [.item seed])

theorem operands_of_complete {outer : Connective} {filter : Filter} {outlines : List Outline}
    (hoperands : operands outer filter = .complete outlines) :
    Operands outer filter outlines := by
  induction outer, filter using operands.induct generalizing outlines with
  | case1 left inner right hleft hright =>
    rw [operands, if_pos rfl] at hoperands
    obtain ⟨first, second, hfirst, hsecond, rfl⟩ := Sketch.append_eq_complete hoperands
    exact .chain (hleft hfirst) (hright hsecond)
  | case2 outer left inner right hother hleft hright =>
    rw [operands, if_neg hother] at hoperands
    obtain ⟨children, hparts, rfl⟩ := Sketch.map_eq_complete hoperands
    obtain ⟨first, second, hfirst, hsecond, rfl⟩ := Sketch.append_eq_complete hparts
    exact .box false (fun hsame ↦ absurd hsame hother) (hleft hfirst) (hright hsecond)
  | case3 outer left inner right hleft hright =>
    rw [operands] at hoperands
    obtain ⟨children, hparts, rfl⟩ := Sketch.map_eq_complete hoperands
    obtain ⟨first, second, hfirst, hsecond, rfl⟩ := Sketch.append_eq_complete hparts
    exact .box true (fun _ ↦ rfl) (hleft hfirst) (hright hsecond)
  | case4 =>
    rw [operands] at hoperands
    cases hoperands
  | case5 outer other hjoin hnegation hwrapped =>
    simp only [operands] at hoperands
    obtain ⟨seed, hseed, rfl⟩ := Sketch.ofExcept_eq_complete hoperands
    exact .item hseed

theorem whole_of_complete {filter : Filter} {outline : Outline}
    (houtline : ofFilter filter = .complete outline) : Whole filter outline := by
  have hbox : ∀ {left right : Filter} {connective : Connective} {negated : Bool},
      ((operands connective left).append (operands connective right)).map
        (.box connective negated) = .complete outline →
      Whole (negateIf negated (.join left connective right)) outline := by
    intro left right connective negated hmap
    obtain ⟨children, hparts, rfl⟩ := Sketch.map_eq_complete hmap
    obtain ⟨first, second, hfirst, hsecond, rfl⟩ := Sketch.append_eq_complete hparts
    exact .box negated (operands_of_complete hfirst) (operands_of_complete hsecond)
  have hitem : ∀ {negated : Bool} {entry : Leaf},
      (Sketch.ofExcept (Seed.ofLeaf negated entry)).map (.box .and false) = .complete outline →
      Whole (negateIf negated (.leaf entry)) outline := by
    intro negated entry hmap
    obtain ⟨children, hparts, rfl⟩ := Sketch.map_eq_complete hmap
    obtain ⟨seed, hseed, rfl⟩ := Sketch.ofExcept_eq_complete hparts
    exact .item hseed
  fun_induction ofFilter filter with
  | case1 inner ih => exact .wrapped (ih houtline)
  | case2 left connective right => exact hbox houtline
  | case3 left connective right => exact hbox houtline
  | case4 entry => exact hitem houtline
  | case5 => cases houtline
  | case6 entry => exact hitem houtline

/-! ### The seeds of an outline -/

@[simp] theorem seedsOf_append (first second : List Outline) :
    seedsOf (first ++ second) = seedsOf first ++ seedsOf second := by
  simp [seedsOf_eq_flatMap]

@[simp] theorem seedsOf_map_item (several : List Seed) : seedsOf (several.map item) = several := by
  simp [seedsOf_eq_flatMap, List.flatMap_map, seeds]

@[simp] theorem seedsOf_singleton (outline : Outline) : seedsOf [outline] = outline.seeds := by
  simp [seedsOf]

section Row

variable {α : Type} {onSeed : Seed → α} {onLeaf : Bool → Leaf → α}
  (hmade : ∀ negated entry seed, Seed.ofLeaf negated entry = .ok seed →
    onSeed seed = onLeaf negated entry)

include hmade

theorem Operands.map_seeds {outer : Connective} {filter : Filter} {outlines : List Outline}
    (hoperands : Operands outer filter outlines) :
    (seedsOf outlines).map onSeed = filter.signedLeaves.map fun (negated, entry) ↦
      onLeaf negated entry := by
  induction hoperands with
  | item hseed =>
    obtain ⟨negated, entry, rfl, hleaf⟩ := exists_leaf_of_ofFilter hseed
    simp [seeds, hmade negated entry _ hleaf]
  | chain _ _ ihLeft ihRight =>
    rw [seedsOf_append, List.map_append, ihLeft, ihRight, Filter.signedLeaves, List.map_append]
  | box _ _ _ _ ihLeft ihRight =>
    rw [seedsOf_singleton, seeds, seedsOf_append, List.map_append, ihLeft, ihRight,
      Filter.signedLeaves_negateIf_join, List.map_append]

/-- What is said of seeds is said of the leaves, where it is so for the seed of each leaf. -/
theorem Whole.map_seeds {filter : Filter} {outline : Outline} (hwhole : Whole filter outline) :
    outline.seeds.map onSeed = filter.signedLeaves.map fun (negated, entry) ↦
      onLeaf negated entry := by
  induction hwhole with
  | wrapped _ ih => exact ih
  | box _ hleft hright =>
    rw [seeds, seedsOf_append, List.map_append, hleft.map_seeds hmade, hright.map_seeds hmade,
      Filter.signedLeaves_negateIf_join, List.map_append]
  | item hseed => simp [seeds, hmade _ _ _ hseed]

end Row

theorem Whole.offers {filter : Filter} {outline : Outline} (hwhole : Whole filter outline) :
    ∀ seed ∈ outline.seeds, Offers filter seed := by
  intro seed hseed
  have hrow : outline.seeds.map Except.ok = filter.signedLeaves.map fun (negated, entry) ↦
      Seed.ofLeaf negated entry :=
    hwhole.map_seeds fun _ _ _ hleaf ↦ hleaf.symm
  have hmember : Except.ok seed ∈ filter.signedLeaves.map fun (negated, entry) ↦
      Seed.ofLeaf negated entry :=
    hrow ▸ List.mem_map_of_mem hseed
  obtain ⟨⟨negated, entry⟩, hentry, hleaf⟩ := List.mem_map.mp hmember
  exact ⟨negated, entry, filter.map_snd_signedLeaves ▸ List.mem_map_of_mem hentry, hleaf⟩

/-- The seeds wish for the variables of the leaves, one for each in their order. -/
theorem Whole.wishes {filter : Filter} {outline : Outline} (hwhole : Whole filter outline) :
    outline.seeds.map Seed.wish = filter.leaves.map Leaf.variableName := by
  rw [hwhole.map_seeds fun _ _ _ ↦ Seed.wish_ofLeaf, ← filter.map_snd_signedLeaves, List.map_map]
  rfl

/-- The variables of a filter are what the seeds of its outline wish for. -/
theorem Whole.mem_variableNames {filter : Filter} {outline : Outline}
    (hwhole : Whole filter outline) {name : String} :
    name ∈ filter.variableNames ↔ ∃ seed ∈ outline.seeds, seed.wish = some name := by
  rw [Filter.mem_variableNames, ← List.mem_map, ← List.mem_map, hwhole.wishes]

end Outline

end Editor

end CardQuery
