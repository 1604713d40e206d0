import CardQuery.Proofs.Editor.BuildNames
import CardQuery.Proofs.Editor.Effects
import CardQuery.Proofs.Parsing.Drawable

/-!
What a refused build leaves behind. The trees are as they were, but the pool that was to be built on
has been asked for the variables of the leaves before the node that offends. So it is as it was
exactly if there is no such leaf, and then nothing at all has changed (`leavings_of_refusedBuild`).
Where there is one, names that come later may differ (`nextName_of_uniqueTwice`).
-/

set_option autoImplicit false
set_option relaxedAutoImplicit false

namespace CardQuery.Editor.Workspace

variable {workspace after : Workspace} {tree : String} {subject : Subject} {id : PoolId}
  {filter : Filter} {error : BuildError}

theorem restock_eq_self {pool : NamePool} (hpool : workspace.pools[id.number]? = some pool) :
    workspace.restock ⟨id, pool, workspace.nextId⟩ = workspace := by
  obtain ⟨hlt, rfl⟩ := List.getElem?_eq_some_iff.mp hpool
  simp [restock, setPool]

theorem set_eq_self_iff {pools : List NamePool} {number : Nat} {pool later : NamePool}
    (hpool : pools[number]? = some pool) : pools.set number later = pools ↔ later = pool := by
  obtain ⟨hlt, rfl⟩ := List.getElem?_eq_some_iff.mp hpool
  refine ⟨fun hsame ↦ ?_, fun hlater ↦ ?_⟩
  · have hset : (pools.set number later)[number]? = some later := List.getElem?_set_self hlt
    rw [hsame, hpool] at hset
    exact (Option.some.inj hset).symm
  · rw [hlater, List.set_getElem_self hlt]

theorem supply?_eq_error {refusal : Refusal} (hmissing : workspace.supply? id = .error refusal) :
    refusal = .noPool := by
  unfold supply? pool? at hmissing
  split at hmissing
  · exact (Except.error.inj hmissing).symm
  · cases hmissing

/-- A build on a pool of the workspace that is refused has drawn from that pool and changed nothing
else. -/
theorem perform_build_eq_error
    (hrefused : workspace.perform (.build tree subject (some id) (some filter)) =
      (.error (.build error), after)) :
    ∃ pool rest, workspace.pools[id.number]? = some pool ∧
      Element.ofFilter subject (some filter) ⟨id, pool, workspace.nextId⟩ = (.error error, rest) ∧
      after = workspace.restock rest := by
  simp only [perform, buildTree] at hrefused
  cases hsupply : workspace.supply? id with
  | error refusal =>
    obtain rfl := supply?_eq_error hsupply
    simp [hsupply, proceed] at hrefused
  | ok supply =>
    obtain ⟨pool, hpool, rfl⟩ := supply?_eq_ok hsupply
    simp only [hsupply, proceed] at hrefused
    split at hrefused
    · simp at hrefused
    · rename_i found rest hbuild
      simp only [Prod.mk.injEq, Except.error.injEq, Refusal.build.injEq] at hrefused
      obtain ⟨rfl, rfl⟩ := hrefused
      exact ⟨pool, rest, hpool, hbuild, rfl⟩

/-- A refused build keeps what its pool has given to the leaves before the node that offends. -/
theorem leavings_of_refusedBuild
    (hrefused : workspace.perform (.build tree subject (some id) (some filter)) =
      (.error (.build error), after)) :
    after.trees = workspace.trees ∧
      (∃ pool, workspace.pools[id.number]? = some pool ∧
        after.pools = workspace.pools.set id.number
          (pool.obtainAll (filter.drawnLeaves.map Leaf.variableName)).2) ∧
      (after.pools = workspace.pools ↔ filter.drawnLeaves = []) ∧
      (filter.drawnLeaves = [] → after = workspace) := by
  obtain ⟨pool, rest, hpool, hbuild, rfl⟩ := perform_build_eq_error hrefused
  obtain ⟨nodes, hdrawn⟩ := Element.ofFilter_drawn_of_error hbuild
  have hrest := Element.pool_ofFilter subject filter ⟨id, pool, workspace.nextId⟩
  rw [hbuild] at hrest
  have hpools := pools_restock hdrawn
  rw [hrest] at hpools
  refine ⟨rfl, ⟨pool, hpool, hpools⟩, ?_, fun hnone ↦ ?_⟩
  · rw [hpools, set_eq_self_iff hpool, NamePool.obtainAll_eq_self_iff, List.map_eq_nil_iff]
  · rw [Element.supply_eq_of_refused hbuild hnone, restock_eq_self hpool]

/-- A workspace of nothing but a new pool. -/
def opened : Workspace := (empty.perform .openPool).2

/-- The new pool after a build on it that has come to one leaf before it was refused. -/
def openedOnce : Workspace :=
  (opened.perform (.build "main" .card (some ⟨0⟩) (some uniqueTwice))).2

theorem perform_uniqueTwice : opened.perform (.build "main" .card (some ⟨0⟩) (some uniqueTwice)) =
    (.error (.build (.noLeaf .negation)), openedOnce) := rfl

theorem leavings_of_uniqueTwice :
    opened.perform (.build "main" .card (some ⟨0⟩) (some uniqueTwice)) =
        (.error (.build (.noLeaf .negation)), openedOnce) ∧
      uniqueTwice.drawnLeaves = [uniqueLeaf] ∧
      openedOnce.trees = opened.trees ∧
      (∃ pool, opened.pools[0]? = some pool ∧ openedOnce.pools = opened.pools.set 0
        (pool.obtainAll (uniqueTwice.drawnLeaves.map Leaf.variableName)).2) ∧
      (openedOnce.pools = opened.pools ↔ uniqueTwice.drawnLeaves = []) ∧
      (uniqueTwice.drawnLeaves = [] → openedOnce = opened) :=
  ⟨perform_uniqueTwice, rfl, leavings_of_refusedBuild perform_uniqueTwice⟩

theorem answer_generate {pool : NamePool} (hpool : workspace.pools[id.number]? = some pool) :
    (workspace.perform (.generate id)).1 = .ok (.name pool.generate.1) := by
  simp [perform, pool?, hpool, proceed]

/-- After a refused build the pool goes on with another name than it would have gone on with
otherwise. -/
theorem nextName_of_uniqueTwice :
    opened.perform (.build "main" .card (some ⟨0⟩) (some uniqueTwice)) =
        (.error (.build (.noLeaf .negation)), openedOnce) ∧
      (opened.perform (.generate ⟨0⟩)).1 = .ok (.name "$var0") ∧
      (openedOnce.perform (.generate ⟨0⟩)).1 = .ok (.name "$var1") := by
  have hbefore : opened.pools[0]? = some .empty := rfl
  have hafter : openedOnce.pools[0]? = some (NamePool.empty.obtainAll [none]).2 := rfl
  have hfirst : NamePool.empty.generate.1 = "$var0" := by decide +kernel
  have hsecond : (NamePool.empty.obtainAll [none]).2.generate.1 = "$var1" := by decide +kernel
  exact ⟨perform_uniqueTwice, hfirst ▸ answer_generate hbefore, hsecond ▸ answer_generate hafter⟩

end CardQuery.Editor.Workspace
