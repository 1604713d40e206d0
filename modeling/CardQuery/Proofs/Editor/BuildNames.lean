import CardQuery.Proofs.Editor.Drawing
import CardQuery.Proofs.Editor.Offences
import CardQuery.Proofs.Editor.Rows

/-!
The names that builds ask their pools for. Whether a build succeeds or not, its pool ends as one
that has been asked for the variables of the leaves before the first node that offends
(`pool_ofFilter`). A tree that is built on a pool of its own has names that answer the variables of
all leaves: each variable stays with the first leaf that carries it, and the others are numbered
(`assigns_of_ofFilterAlone`).
-/

set_option autoImplicit false
set_option relaxedAutoImplicit false

namespace CardQuery.Editor.Element

/-- What a build asks its pool for. -/
theorem pool_ofFilter (subject : Subject) (filter : Filter) (supply : Supply) :
    (ofFilter subject (some filter) supply).2.pool =
      (supply.pool.obtainAll (filter.drawnLeaves.map Leaf.variableName)).2 := by
  have hwishes := (Outline.sketch_ofFilter filter).2
  cases houtline : Outline.ofFilter filter with
  | complete outline =>
    have hrow := (row_ofOutline subject outline supply).names
    simp only [houtline, Sketch.drawn] at hwishes
    simp only [ofFilter, houtline]
    rw [← hwishes, hrow]
  | broken drawn error =>
    have hrow := (row_ofOutlines subject (drawn.map .item) supply).names
    simp only [houtline, Sketch.drawn] at hwishes
    simp only [ofFilter, houtline]
    rw [Outline.seedsOf_map_item, hwishes] at hrow
    rw [hrow]

variable {subject : Subject} {filter : Filter} {supply rest : Supply} {element : Element}

/-- A build that is refused before it has come to a leaf has drawn nothing. -/
theorem supply_eq_of_refused {error : BuildError}
    (hbuild : ofFilter subject (some filter) supply = (.error error, rest))
    (hnone : filter.drawnLeaves = []) : rest = supply := by
  have hwishes := (Outline.sketch_ofFilter filter).2
  cases houtline : Outline.ofFilter filter with
  | complete outline => simp [ofFilter, houtline] at hbuild
  | broken drawn found =>
    simp only [houtline, Sketch.drawn, hnone, List.map_nil, List.map_eq_nil_iff] at hwishes
    simp only [ofFilter, houtline, hwishes, List.map_nil, ofOutlines, Prod.mk.injEq] at hbuild
    exact hbuild.2.symm

/-- The names of a tree that was built are those that its pool has given to the variables of the
leaves. -/
theorem names_of_build (hbuild : ofFilter subject (some filter) supply = (.ok element, rest)) :
    element.items.map Item.variableName =
      (supply.pool.obtainAll (filter.leaves.map Leaf.variableName)).1 := by
  obtain ⟨outline, houtline, hdrawn⟩ := ofFilter_eq_ok hbuild
  have hrow := row_ofOutline subject outline supply
  rw [hdrawn] at hrow
  rw [← (Outline.whole_of_complete houtline).wishes, hrow.names]

theorem reserved_reservedPool (filter : Filter) :
    (reservedPool (some filter)).reserved = filter.variableNames := by
  simp [reservedPool, NamePool.register, NamePool.empty]

/-- The names of a tree that was built on a pool of its own answer the variables of the leaves. A
variable of the filter is the name of the first leaf that carries it and of no other. All other
leaves have numbers, which increase from left to right, and each is the least one, above the one
before it, whose name is no variable of the filter. -/
theorem assigns_of_ofFilterAlone {poolId : PoolId} {nextId : Nat}
    (hbuild : ofFilterAlone subject (some filter) poolId nextId = (.ok element, rest)) :
    NamePool.Assigns (filter.leaves.map Leaf.variableName)
      (element.items.map Item.variableName) := by
  rw [names_of_build hbuild]
  refine NamePool.assigns_obtainAll (fun name ↦ ?_) rfl rfl
  rw [reserved_reservedPool, Filter.mem_variableNames, List.mem_map]

/-- Five leaves without values, of which one is alone, two carry one variable, and the last carries
the variable that a tree of its own would begin with. -/
def rivalVariables : Filter :=
  let named (name : Option String) : Filter :=
    .leaf ⟨"CardName", "Card Name", some .text, name, none⟩
  .wrapped (.join (named none) .and (.negation (.join
    (.join (named (some "$var1")) .and (named (some "$var1"))) .or
    (.join (named none) .and (named (some "$var0"))))))

theorem assigns_of_rivalVariables :
    ∃ element rest, ofFilterAlone .card (some rivalVariables) ⟨0⟩ 0 = (.ok element, rest) ∧
      element.items.map Item.variableName = ["$var2", "$var1", "$var3", "$var4", "$var0"] ∧
      NamePool.Assigns [none, some "$var1", some "$var1", none, some "$var0"]
        (element.items.map Item.variableName) := by
  obtain ⟨element, rest, hbuild⟩ : ∃ element rest,
      ofFilterAlone .card (some rivalVariables) ⟨0⟩ 0 = (.ok element, rest) :=
    exists_ofFilter_eq_ok_iff.mpr rfl
  have hnames : (NamePool.obtainAll (reservedPool (some rivalVariables))
      (rivalVariables.leaves.map Leaf.variableName)).1 =
        ["$var2", "$var1", "$var3", "$var4", "$var0"] := by
    decide +kernel
  exact ⟨element, rest, hbuild, (names_of_build hbuild).trans hnames,
    assigns_of_ofFilterAlone hbuild⟩

end CardQuery.Editor.Element
