import CardQuery.Proofs.Names.Grants

/-!
Names that are granted once more. One pool has granted names, to some of those who asked because
they wished for them and to the others as new ones. A second pool is asked in the same order, but
now everyone in the first group and some in the second wish for the name they have. It grants the
same names (`Follows.obtain`): as it keeps more names free, it finds fewer numbers free, and those
it has passed over less often are in use all the same.
-/

set_option autoImplicit false
set_option relaxedAutoImplicit false

namespace CardQuery.NamePool

/-! ### The number that is found -/

/-- The number that is found is the least one from the start on whose name is free. -/
theorem firstFree_eq_iff {names : List String} {start number : Nat} :
    firstFree names start = number ↔
      start ≤ number ∧ numbered number ∉ names ∧
        ∀ passed, start ≤ passed → passed < number → numbered passed ∈ names := by
  have hpassed : ∀ passed, start ≤ passed → passed < firstFree names start →
      numbered passed ∈ names := by
    fun_induction firstFree names start with
    | case1 names start hmember ih =>
      intro passed hstart hlt
      rcases Nat.eq_or_lt_of_le hstart with rfl | hlater
      · exact hmember
      · exact List.mem_of_mem_erase (ih passed hlater hlt)
    | case2 names start hfree =>
      intro passed hstart hlt
      omega
  constructor
  · rintro rfl
    exact ⟨le_firstFree names start, numbered_firstFree_notMem names start, hpassed⟩
  · rintro ⟨hstart, hfree, hbefore⟩
    rcases Nat.lt_trichotomy (firstFree names start) number with hlt | heq | hgt
    · exact absurd (hbefore _ (le_firstFree names start) hlt)
        (numbered_firstFree_notMem names start)
    · exact heq
    · exact absurd (hpassed number hstart hgt) hfree

theorem generate_eq (pool : NamePool) :
    pool.generate =
      (numbered (firstFree (pool.reserved ++ pool.claimed) pool.counter),
        { pool with
          claimed := numbered (firstFree (pool.reserved ++ pool.claimed) pool.counter) ::
            pool.claimed
          counter := firstFree (pool.reserved ++ pool.claimed) pool.counter + 1 }) := rfl

/-- A name that was kept free goes only to one who wishes for it. -/
theorem wish_of_reserved {pool : NamePool} {wish : Option String}
    (hreserved : (pool.obtain wish).1 ∈ pool.reserved) : wish = some (pool.obtain wish).1 := by
  rcases pool.obtain_cases wish with ⟨name, rfl, -, heq⟩ | ⟨-, heq⟩
  · rw [heq]
  · rw [heq] at hreserved
    exact absurd (.inl hreserved) pool.generate_not_isUsed

/-- A wish is held after it has been heard, whether it has been granted or not. -/
theorem claimed_of_obtain {pool : NamePool} {wish : Option String} {name : String}
    (hwish : wish = some name) : name ∈ (pool.obtain wish).2.claimed := by
  rw [(pool.grants_obtain wish).claimed]
  rcases pool.obtain_cases wish with ⟨granted, hsome, -, heq⟩ | ⟨hheld, -⟩
  · obtain rfl : granted = name := Option.some.inj (hsome.symm.trans hwish)
    exact .inl (by rw [heq]; exact List.mem_singleton_self _)
  · exact .inr (hheld name hwish)

theorem obtain_of_notMem {pool : NamePool} {name : String} (hfree : name ∉ pool.claimed) :
    pool.obtain (some name) = (name, { pool with claimed := name :: pool.claimed }) := by
  simp [obtain, claim?, hfree]

/-! ### A pool behind another -/

/-- The second pool holds the same names as the first and keeps free what the first does. It has
counted less far, but the numbers that it lags behind are in use. -/
structure Follows (pool again : NamePool) : Prop where
  reserved : pool.reserved ⊆ again.reserved
  claimed : ∀ name, name ∈ again.claimed ↔ name ∈ pool.claimed
  counter_le : again.counter ≤ pool.counter
  used : ∀ number, again.counter ≤ number → number < pool.counter →
    again.IsUsed (numbered number)

namespace Follows

variable {pool again : NamePool}

/-- What is in use in the first pool is so in the second. -/
theorem isUsed (hfollows : pool.Follows again) {name : String} (hused : pool.IsUsed name) :
    again.IsUsed name :=
  hused.imp (fun hmember ↦ hfollows.reserved hmember) (hfollows.claimed name).mpr

/-- Every number before the one that the first pool finds is in use in the second, from the one on
that the second has counted to. -/
theorem isUsed_of_lt_firstFree (hfollows : pool.Follows again) {number : Nat}
    (hstart : again.counter ≤ number)
    (hlt : number < firstFree (pool.reserved ++ pool.claimed) pool.counter) :
    again.IsUsed (numbered number) := by
  rcases Nat.lt_or_ge number pool.counter with hcounted | hlater
  · exact hfollows.used number hstart hcounted
  · obtain ⟨-, -, hpassed⟩ := firstFree_eq_iff.mp (Eq.refl
      (firstFree (pool.reserved ++ pool.claimed) pool.counter))
    exact hfollows.isUsed (List.mem_append.mp (hpassed number hlater hlt))

/-- The second pool finds the same new name, unless it has been told to keep it free. -/
theorem generate (hfollows : pool.Follows again) (hfree : pool.generate.1 ∉ again.reserved) :
    again.generate.1 = pool.generate.1 ∧ pool.generate.2.Follows again.generate.2 := by
  have hnumber : firstFree (again.reserved ++ again.claimed) again.counter =
      firstFree (pool.reserved ++ pool.claimed) pool.counter := by
    refine firstFree_eq_iff.mpr ⟨?_, ?_, fun number hstart hlt ↦ ?_⟩
    · exact Nat.le_trans hfollows.counter_le (le_firstFree _ _)
    -- A name that is new in the first pool is held in neither.
    · have hunclaimed : pool.generate.1 ∉ again.claimed := by
        rw [hfollows.claimed]
        exact fun hclaimed ↦ pool.generate_not_isUsed (.inr hclaimed)
      exact List.mem_append.not.mpr (not_or.mpr ⟨hfree, hunclaimed⟩)
    · exact List.mem_append.mpr (hfollows.isUsed_of_lt_firstFree hstart hlt)
  rw [again.generate_eq, pool.generate_eq, hnumber]
  refine ⟨rfl, hfollows.reserved, fun name ↦ ?_, Nat.le_refl _, fun number hstart hlt ↦ ?_⟩
  · simp only [List.mem_cons, hfollows.claimed]
  · exact absurd hlt (Nat.not_lt.mpr hstart)

/-- The numbers that the first pool has counted over when it has granted a name are in use in the
second, or that is their name. -/
theorem passed_obtain (hfollows : pool.Follows again) (wish : Option String) :
    pool.counter ≤ (pool.obtain wish).2.counter ∧
      ∀ number, again.counter ≤ number → number < (pool.obtain wish).2.counter →
        numbered number = (pool.obtain wish).1 ∨ again.IsUsed (numbered number) := by
  rcases pool.obtain_cases wish with ⟨name, -, -, heq⟩ | ⟨-, heq⟩
  · rw [heq]
    exact ⟨Nat.le_refl _, fun number hstart hlt ↦ .inr (hfollows.used number hstart hlt)⟩
  · rw [heq, generate_eq]
    refine ⟨Nat.le_succ_of_le (le_firstFree _ _), fun number hstart hlt ↦ ?_⟩
    rcases Nat.lt_succ_iff_lt_or_eq.mp hlt with hbefore | rfl
    · exact .inr (hfollows.isUsed_of_lt_firstFree hstart hbefore)
    · exact .inl rfl

/-- The second pool grants what the first has granted, if it is wished for. -/
theorem keep (hfollows : pool.Follows again) (wish : Option String) :
    (again.obtain (some (pool.obtain wish).1)).1 = (pool.obtain wish).1 ∧
      (pool.obtain wish).2.Follows (again.obtain (some (pool.obtain wish).1)).2 := by
  have hgrants := pool.grants_obtain wish
  obtain ⟨hcounter, hpassed⟩ := hfollows.passed_obtain wish
  have hfree : (pool.obtain wish).1 ∉ again.claimed := by
    rw [hfollows.claimed]
    exact hgrants.fresh _ (List.mem_singleton_self _)
  rw [obtain_of_notMem hfree]
  refine ⟨rfl, ?_, fun name ↦ ?_, Nat.le_trans hfollows.counter_le hcounter,
    fun number hstart hlt ↦ ?_⟩
  · rw [hgrants.reserved]
    exact hfollows.reserved
  · simp only [hgrants.claimed, List.mem_cons, List.not_mem_nil, or_false, hfollows.claimed]
  · rcases hpassed number hstart hlt with hname | hused
    · exact .inr (List.mem_cons.mpr (.inl hname))
    · exact hused.imp_right (List.mem_cons_of_mem _)

/-- The second pool grants the name that the first has granted. Who does not wish for it had no wish
before either, and has a name that nobody else keeps free. -/
theorem obtain {wish : Option String} {kept : Prop} [Decidable kept]
    (hfollows : pool.Follows again)
    (hrenewed : ¬ kept → wish = none ∧ (pool.obtain wish).1 ∉ again.reserved) :
    (again.obtain (if kept then some (pool.obtain wish).1 else none)).1 = (pool.obtain wish).1 ∧
      (pool.obtain wish).2.Follows
        (again.obtain (if kept then some (pool.obtain wish).1 else none)).2 := by
  by_cases hkept : kept
  · rw [if_pos hkept]
    exact hfollows.keep wish
  · obtain ⟨rfl, hfree⟩ := hrenewed hkept
    rw [if_neg hkept]
    exact hfollows.generate hfree

end Follows

end CardQuery.NamePool
