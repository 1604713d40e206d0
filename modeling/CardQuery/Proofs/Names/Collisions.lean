import Mathlib.Data.Set.Function
import CardQuery.Proofs.Names.Rows

/-!
Names that come to a pool from elsewhere. A row of names is wished for one after another, and each
is kept exactly if the pool did not hold it and nobody earlier in the row has been given it
(`granted_eq_iff`); whoever is given another name is given one that was not in use before the first
of them (`not_isUsed_of_granted_ne`). Where the names of the row differ, what happens to them is a
renaming, and it is one to one (`map_renamed`, `injOn_of_map_nodup`).
-/

set_option autoImplicit false
set_option relaxedAutoImplicit false

namespace CardQuery.NamePool

/-- Two rows of wishes after another. -/
theorem obtainAll_append (pool : NamePool) (first second : List (Option String)) :
    pool.obtainAll (first ++ second) =
      ((pool.obtainAll first).1 ++ ((pool.obtainAll first).2.obtainAll second).1,
        ((pool.obtainAll first).2.obtainAll second).2) := by
  induction first generalizing pool with
  | nil => rfl
  | cons wish rest ih => simp [ih]

/-! ### Who keeps a name -/

variable {pool : NamePool} {name granted : String} {names : List String} {position : Nat}

theorem obtain_eq_self_iff : (pool.obtain (some name)).1 = name ↔ name ∉ pool.claimed := by
  rcases pool.obtain_cases (some name) with ⟨wished, hwished, hfree, heq⟩ | ⟨hheld, heq⟩
  · obtain rfl := Option.some.inj hwished
    rw [heq]
    exact iff_of_true rfl hfree
  · have hclaimed := hheld name rfl
    rw [heq]
    refine iff_of_false (fun hname ↦ ?_) (not_not.mpr hclaimed)
    exact pool.generate_not_isUsed (hname ▸ .inr hclaimed)

/-- What is in use stays so when a name is obtained. -/
theorem IsUsed.obtain (hused : pool.IsUsed name) (wish : Option String) :
    (pool.obtain wish).2.IsUsed name := by
  have hgrants := pool.grants_obtain wish
  exact hused.imp (fun hreserved ↦ hgrants.reserved.symm ▸ hreserved) hgrants.mono

/-- A name is kept if the pool does not hold it, and nobody before has been given it. -/
theorem granted_eq_iff (hname : names[position]? = some name)
    (hgranted : (pool.obtainAll (names.map some)).1[position]? = some granted) :
    granted = name ↔
      name ∉ pool.claimed ∧ name ∉ (pool.obtainAll (names.map some)).1.take position := by
  induction names generalizing pool position with
  | nil => simp at hname
  | cons first rest ih =>
    rw [List.map_cons, obtainAll_cons] at hgranted ⊢
    cases position with
    | zero =>
      obtain rfl : first = name := by simpa using hname
      obtain rfl : (pool.obtain (some first)).1 = granted := by simpa using hgranted
      simpa using obtain_eq_self_iff
    | succ position =>
      rw [List.getElem?_cons_succ] at hname hgranted
      rw [ih hname hgranted, (pool.grants_obtain (some first)).claimed, List.take_succ_cons,
        List.mem_singleton, List.mem_cons]
      tauto

/-- Another name than the one that was wished for was not in use before. -/
theorem not_isUsed_of_granted_ne (hname : names[position]? = some name)
    (hgranted : (pool.obtainAll (names.map some)).1[position]? = some granted)
    (hother : granted ≠ name) : ¬ pool.IsUsed granted := by
  induction names generalizing pool position with
  | nil => simp at hname
  | cons first rest ih =>
    rw [List.map_cons, obtainAll_cons] at hgranted
    cases position with
    | zero =>
      obtain rfl : first = name := by simpa using hname
      obtain rfl : (pool.obtain (some first)).1 = granted := by simpa using hgranted
      rcases pool.obtain_cases (some first) with ⟨wished, hwished, -, heq⟩ | ⟨-, heq⟩
      · rw [heq] at hother
        exact absurd (Option.some.inj hwished).symm hother
      · rw [heq]
        exact pool.generate_not_isUsed
    | succ position =>
      rw [List.getElem?_cons_succ] at hname hgranted
      exact fun hused ↦ ih hname hgranted (hused.obtain (some first))

/-! ### Renamings -/

/-- Each name of a row becomes the one at its place in another row; any other name stays as it
is. -/
def renamed (names granted : List String) (name : String) : String :=
  (granted[names.idxOf name]?).getD name

theorem map_renamed {granted : List String} (hnodup : names.Nodup)
    (hlength : granted.length = names.length) : names.map (renamed names granted) = granted := by
  refine List.ext_getElem (by rw [List.length_map, hlength]) fun position hposition hbound ↦ ?_
  rw [List.getElem_map, renamed, hnodup.idxOf_getElem, List.getElem?_eq_getElem hbound,
    Option.getD_some]

/-- A renaming to names that differ is one to one. -/
theorem injOn_of_map_nodup {rename : String → String} (hnodup : (names.map rename).Nodup) :
    Set.InjOn rename {name | name ∈ names} :=
  fun _ hfirst _ hsecond heq ↦ List.inj_on_of_nodup_map hnodup hfirst hsecond heq

end CardQuery.NamePool
