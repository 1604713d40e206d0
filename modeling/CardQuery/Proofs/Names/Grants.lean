import Mathlib.Data.List.Nodup
import CardQuery.NamePool

/-!
What a pool of names grants. A new name is not in use, since the search for a number goes on until
its name is free (`numbered_firstFree_notMem`). `Grants` says that a pool has given away a row of
names: they are pairwise different, none was held before, and exactly they are held on top of what
was held. A wish and a row of wishes after another are granted in this sense.
-/

set_option autoImplicit false
set_option relaxedAutoImplicit false

namespace CardQuery.NamePool

/-! ### The search for a free number -/

theorem le_firstFree (names : List String) (number : Nat) : number ≤ firstFree names number := by
  fun_induction firstFree names number with
  | case1 names number _ ih => omega
  | case2 names number _ => exact Nat.le_refl _

/-- The number that is found has a name that is not among the names. -/
theorem numbered_firstFree_notMem (names : List String) (number : Nat) :
    numbered (firstFree names number) ∉ names := by
  fun_induction firstFree names number with
  | case1 names number _ ih =>
    intro hmember
    -- The name that was passed has a smaller number, so leaving it out loses nothing.
    have hother : numbered (firstFree (names.erase (numbered number)) (number + 1)) ≠
        numbered number := by
      intro hname
      have hnumber := numbered_injective hname
      have hbound := le_firstFree (names.erase (numbered number)) (number + 1)
      omega
    exact ih ((List.mem_erase_of_ne hother).mpr hmember)
  | case2 names number hfree => exact hfree

theorem generate_not_isUsed (pool : NamePool) : ¬ pool.IsUsed pool.generate.1 := by
  have hfree := numbered_firstFree_notMem (pool.reserved ++ pool.claimed) pool.counter
  simpa [IsUsed, generate, not_or] using hfree

/-! ### Names that are given away -/

/-- The pool has given away the names and knows it. -/
structure Grants (before : NamePool) (names : List String) (after : NamePool) : Prop where
  nodup : names.Nodup
  fresh : ∀ name ∈ names, name ∉ before.claimed
  claimed : ∀ name, name ∈ after.claimed ↔ name ∈ names ∨ name ∈ before.claimed
  reserved : after.reserved = before.reserved

variable {before middle after : NamePool}

theorem Grants.refl (pool : NamePool) : pool.Grants [] pool :=
  ⟨List.nodup_nil, by simp, by simp, rfl⟩

theorem Grants.trans {first second : List String} (hfirst : before.Grants first middle)
    (hsecond : middle.Grants second after) : before.Grants (first ++ second) after where
  nodup := by
    refine hfirst.nodup.append hsecond.nodup fun name hin hagain ↦ ?_
    exact hsecond.fresh name hagain ((hfirst.claimed name).mpr (.inl hin))
  fresh name hname := by
    rcases List.mem_append.mp hname with hin | hagain
    · exact hfirst.fresh name hin
    · exact fun hheld ↦ hsecond.fresh name hagain ((hfirst.claimed name).mpr (.inr hheld))
  claimed name := by
    rw [hsecond.claimed, hfirst.claimed, List.mem_append]
    tauto
  reserved := hsecond.reserved.trans hfirst.reserved

theorem Grants.mono {names : List String} (hgrants : before.Grants names after) {name : String}
    (hheld : name ∈ before.claimed) : name ∈ after.claimed :=
  (hgrants.claimed name).mpr (.inr hheld)

theorem grants_generate (pool : NamePool) : pool.Grants [pool.generate.1] pool.generate.2 where
  nodup := List.nodup_singleton _
  fresh name hname := by
    obtain rfl := List.mem_singleton.mp hname
    exact fun hheld ↦ pool.generate_not_isUsed (.inr hheld)
  claimed name := by simp [generate]
  reserved := rfl

/-- A name that nobody holds yet can be held on top of what is. -/
theorem grants_cons {pool : NamePool} {name : String} (hfree : name ∉ pool.claimed) :
    pool.Grants [name] { pool with claimed := name :: pool.claimed } :=
  ⟨List.nodup_singleton _, by simpa using hfree, by simp, rfl⟩

theorem grants_claim? {pool claimed : NamePool} {name : String}
    (hclaim : pool.claim? name = some claimed) : pool.Grants [name] claimed := by
  unfold claim? at hclaim
  split at hclaim
  · simp at hclaim
  · rename_i hfree
    obtain rfl := Option.some.inj hclaim
    exact grants_cons hfree

/-- A wish is granted if nobody holds it, and otherwise gives way to a new name. -/
theorem obtain_cases (pool : NamePool) (wish : Option String) :
    (∃ name, wish = some name ∧ name ∉ pool.claimed ∧
      pool.obtain wish = (name, { pool with claimed := name :: pool.claimed })) ∨
    (∀ name, wish = some name → name ∈ pool.claimed) ∧ pool.obtain wish = pool.generate := by
  cases wish with
  | none => exact .inr ⟨by simp, rfl⟩
  | some name =>
    by_cases hheld : name ∈ pool.claimed
    · exact .inr ⟨by simpa using hheld, by simp [obtain, claim?, hheld]⟩
    · exact .inl ⟨name, rfl, hheld, by simp [obtain, claim?, hheld]⟩

theorem wished_or_numbered (pool : NamePool) (wish : Option String) :
    wish = some (pool.obtain wish).1 ∨
      ∃ number, (pool.obtain wish).1 = numbered number := by
  rcases pool.obtain_cases wish with ⟨name, rfl, -, heq⟩ | ⟨-, heq⟩
  · exact .inl (by rw [heq])
  · exact .inr ⟨_, by rw [heq]; rfl⟩

theorem grants_obtain (pool : NamePool) (wish : Option String) :
    pool.Grants [(pool.obtain wish).1] (pool.obtain wish).2 := by
  rcases pool.obtain_cases wish with ⟨name, -, hfree, heq⟩ | ⟨-, heq⟩
  · rw [heq]
    exact grants_cons hfree
  · rw [heq]
    exact pool.grants_generate

end CardQuery.NamePool
