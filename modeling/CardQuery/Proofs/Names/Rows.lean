import Mathlib.Data.List.Chain
import Mathlib.Order.Bounds.Basic
import CardQuery.Proofs.Names.Renewal

/-!
Names for a row of wishes. The wishes are heard one after another (`obtainAll`). A name that was
kept free and that nobody holds yet goes to the first who wishes for it, and to nobody else
(`getElem?_obtainAll_eq_some_iff`). Everyone else gets a number: in their order, each the least one
above the one before it whose name was not kept free (`exists_numbers_obtainAll`). A new pool that
has been told of all wishes assigns names to them in this way (`assigns_obtainAll`).
-/

set_option autoImplicit false
set_option relaxedAutoImplicit false

namespace CardQuery.NamePool

/-- The names that are obtained for the wishes, and the pool that has given them away. -/
def obtainAll (pool : NamePool) : List (Option String) → List String × NamePool
  | [] => ([], pool)
  | wish :: rest =>
    let (name, middle) := pool.obtain wish
    let (names, after) := middle.obtainAll rest
    (name :: names, after)

@[simp] theorem obtainAll_nil (pool : NamePool) : pool.obtainAll [] = ([], pool) := rfl

@[simp] theorem obtainAll_cons (pool : NamePool) (wish : Option String)
    (rest : List (Option String)) :
    pool.obtainAll (wish :: rest) =
      ((pool.obtain wish).1 :: ((pool.obtain wish).2.obtainAll rest).1,
        ((pool.obtain wish).2.obtainAll rest).2) := rfl

theorem length_obtainAll (pool : NamePool) (wishes : List (Option String)) :
    (pool.obtainAll wishes).1.length = wishes.length := by
  induction wishes generalizing pool with
  | nil => rfl
  | cons wish rest ih => simp [ih]

theorem grants_obtainAll (pool : NamePool) (wishes : List (Option String)) :
    pool.Grants (pool.obtainAll wishes).1 (pool.obtainAll wishes).2 := by
  induction wishes generalizing pool with
  | nil => exact .refl pool
  | cons wish rest ih => exact (pool.grants_obtain wish).trans (ih (pool.obtain wish).2)

/-- Every wish is held in the end, if not by the one who has it. -/
theorem claimed_of_obtainAll {pool : NamePool} {wishes : List (Option String)} {name : String}
    (hwished : some name ∈ wishes) : name ∈ (pool.obtainAll wishes).2.claimed := by
  induction wishes generalizing pool with
  | nil => simp at hwished
  | cons wish rest ih =>
    rcases List.mem_cons.mp hwished with hfirst | hlater
    · exact ((pool.obtain wish).2.grants_obtainAll rest).mono (claimed_of_obtain hfirst.symm)
    · exact ih hlater

/-- A pool holds one more name for each wish. -/
theorem length_claimed_obtain (pool : NamePool) (wish : Option String) :
    (pool.obtain wish).2.claimed.length = pool.claimed.length + 1 := by
  rcases pool.obtain_cases wish with ⟨name, -, -, heq⟩ | ⟨-, heq⟩
  · rw [heq, List.length_cons]
  · rw [heq, generate_eq, List.length_cons]

theorem length_claimed_obtainAll (pool : NamePool) (wishes : List (Option String)) :
    (pool.obtainAll wishes).2.claimed.length = pool.claimed.length + wishes.length := by
  induction wishes generalizing pool with
  | nil => rfl
  | cons wish rest ih =>
    rw [obtainAll_cons, ih, length_claimed_obtain, List.length_cons]
    omega

/-- Only a pool that nobody has asked is as it was. -/
theorem obtainAll_eq_self_iff {pool : NamePool} {wishes : List (Option String)} :
    (pool.obtainAll wishes).2 = pool ↔ wishes = [] := by
  constructor
  · intro hsame
    have hlength := pool.length_claimed_obtainAll wishes
    rw [hsame] at hlength
    exact List.eq_nil_of_length_eq_zero (by omega)
  · rintro rfl
    rfl

/-! ### Names that were kept free -/

variable {pool : NamePool} {wish : Option String} {wishes : List (Option String)} {name : String}

/-- A name that was kept free and is not held goes to who wishes for it. -/
theorem obtain_eq_iff (hreserved : name ∈ pool.reserved) (hfree : name ∉ pool.claimed) :
    (pool.obtain wish).1 = name ↔ wish = some name := by
  constructor
  · rintro rfl
    exact wish_of_reserved hreserved
  · rintro rfl
    rw [obtain_of_notMem hfree]

/-- The first who wishes for such a name holds it, and nobody else does. -/
theorem getElem?_obtainAll_eq_some_iff (hreserved : name ∈ pool.reserved)
    (hfree : name ∉ pool.claimed) (hwished : some name ∈ wishes) {position : Nat} :
    (pool.obtainAll wishes).1[position]? = some name ↔ position = wishes.idxOf (some name) := by
  induction wishes generalizing pool position with
  | nil => simp at hwished
  | cons wish rest ih =>
    have hgrants := pool.grants_obtain wish
    by_cases hwish : wish = some name
    · -- Once the name is held, nobody in the rest of the row gets it.
      subst hwish
      have hname := (obtain_eq_iff hreserved hfree).mpr rfl
      have hheld : name ∈ (pool.obtain (some name)).2.claimed := claimed_of_obtain rfl
      have hlater : name ∉ ((pool.obtain (some name)).2.obtainAll rest).1 := fun hagain ↦
        ((pool.obtain (some name)).2.grants_obtainAll rest).fresh name hagain hheld
      rw [obtainAll_cons, hname, List.idxOf_cons_self]
      cases position with
      | zero => simp
      | succ position =>
        rw [List.getElem?_cons_succ]
        exact iff_of_false (fun hat ↦ hlater (List.mem_of_getElem? hat)) (Nat.succ_ne_zero position)
    · have hname : (pool.obtain wish).1 ≠ name := fun heq ↦
        hwish ((obtain_eq_iff hreserved hfree).mp heq)
      have hstill : name ∉ (pool.obtain wish).2.claimed := by
        rw [hgrants.claimed]
        simpa [hfree] using hname.symm
      rw [obtainAll_cons, List.idxOf_cons_ne _ hwish]
      cases position with
      | zero => simp [hname]
      | succ position =>
        rw [List.getElem?_cons_succ, Nat.succ_inj]
        exact ih (by rwa [hgrants.reserved]) hstill
          ((List.mem_cons.mp hwished).resolve_left (Ne.symm hwish))

/-! ### Numbers -/

/-- Every name that the pool holds was kept free, or its number has been passed. -/
def Orderly (pool : NamePool) : Prop :=
  ∀ name ∈ pool.claimed, name ∈ pool.reserved ∨ ∃ number < pool.counter, name = numbered number

/-- An orderly pool finds the least number that it has not passed and whose name was not kept
free. -/
theorem Orderly.isLeast_firstFree (horderly : pool.Orderly) :
    IsLeast {number | pool.counter ≤ number ∧ numbered number ∉ pool.reserved}
      (firstFree (pool.reserved ++ pool.claimed) pool.counter) := by
  obtain ⟨hstart, hfree, hpassed⟩ := firstFree_eq_iff.mp
    (Eq.refl (firstFree (pool.reserved ++ pool.claimed) pool.counter))
  refine ⟨⟨hstart, fun hreserved ↦ hfree (List.mem_append_left _ hreserved)⟩, ?_⟩
  rintro number ⟨hlater, hunreserved⟩
  by_contra hbefore
  have hused := hpassed number hlater (Nat.lt_of_not_le hbefore)
  have hheld := (List.mem_append.mp hused).resolve_left hunreserved
  rcases horderly _ hheld with hreserved | ⟨passed, hlt, hname⟩
  · exact hunreserved hreserved
  · rw [numbered_injective hname] at hlater
    omega

/-- A pool stays orderly if it had been told of the wish. -/
theorem Orderly.obtain (horderly : pool.Orderly)
    (hwish : ∀ name, wish = some name → name ∈ pool.reserved) : (pool.obtain wish).2.Orderly := by
  rcases pool.obtain_cases wish with ⟨granted, hsome, -, heq⟩ | ⟨-, heq⟩
  · rw [heq]
    intro name hname
    rcases List.mem_cons.mp hname with rfl | hheld
    · exact .inl (hwish name hsome)
    · exact horderly name hheld
  · rw [heq, generate_eq]
    intro name hname
    rcases List.mem_cons.mp hname with rfl | hheld
    · exact .inr ⟨_, Nat.lt_succ_self _, rfl⟩
    · have hcount := le_firstFree (pool.reserved ++ pool.claimed) pool.counter
      refine (horderly name hheld).imp_right ?_
      rintro ⟨number, hlt, rfl⟩
      exact ⟨number, by simp only; omega, rfl⟩

/-- The names that were not kept free are numbers in the order of the row. The first is the least
number that the pool has not passed, and each other one the least above the one before it, leaving
out the numbers whose names were kept free. -/
theorem exists_numbers_obtainAll (horderly : pool.Orderly)
    (hwishes : ∀ name, some name ∈ wishes → name ∈ pool.reserved) :
    ∃ numbers : List Nat,
      (pool.obtainAll wishes).1.filter (· ∉ pool.reserved) = numbers.map numbered ∧
      (∀ first ∈ numbers.head?,
        IsLeast {number | pool.counter ≤ number ∧ numbered number ∉ pool.reserved} first) ∧
      numbers.IsChain fun previous next ↦
        IsLeast {number | previous < number ∧ numbered number ∉ pool.reserved} next := by
  induction wishes generalizing pool with
  | nil => exact ⟨[], rfl, by simp, .nil⟩
  | cons wish rest ih =>
    have hmiddle : (pool.obtain wish).2.Orderly :=
      horderly.obtain fun name hname ↦ hwishes name (hname ▸ List.mem_cons_self)
    have hreserved := (pool.grants_obtain wish).reserved
    obtain ⟨numbers, hnames, hhead, hchain⟩ := ih hmiddle fun name hname ↦ by
      rw [hreserved]
      exact hwishes name (List.mem_cons_of_mem _ hname)
    rw [hreserved] at hnames hhead hchain
    rw [obtainAll_cons]
    rcases pool.obtain_cases wish with ⟨granted, hsome, -, heq⟩ | ⟨-, heq⟩
    · -- A wish that is granted is a name that was kept free, and no number is passed.
      have hkept : granted ∈ pool.reserved := hwishes granted (hsome ▸ List.mem_cons_self)
      rw [heq] at hnames hhead ⊢
      exact ⟨numbers, by simpa [hkept] using hnames, hhead, hchain⟩
    · have hleast := horderly.isLeast_firstFree
      rw [heq, generate_eq] at hnames hhead ⊢
      refine ⟨_ :: numbers, ?_, ?_, List.isChain_cons.mpr ⟨hhead, hchain⟩⟩
      · rw [List.filter_cons_of_pos (by simpa using hleast.1.2), hnames, List.map_cons]
      · rintro first ⟨⟩
        exact hleast

/-! ### New pools -/

/-- The names answer the wishes in their order. A name that is wished for is that of the first who
wishes for it, and of nobody else. The others have numbers, which increase, and each is the least
one, above the one before it, whose name nobody wishes for. -/
structure Assigns (wishes : List (Option String)) (names : List String) : Prop where
  length : names.length = wishes.length
  kept : ∀ name, some name ∈ wishes →
    ∀ position, names[position]? = some name ↔ position = wishes.idxOf (some name)
  numbers : ∃ numbers : List Nat,
    names.filter (some · ∉ wishes) = numbers.map numbered ∧
    numbers.Pairwise (· < ·) ∧
    (∀ first ∈ numbers.head?, IsLeast {number | some (numbered number) ∉ wishes} first) ∧
    numbers.IsChain fun previous next ↦
      IsLeast {number | previous < number ∧ some (numbered number) ∉ wishes} next

theorem assigns_obtainAll (hreserved : ∀ name, name ∈ pool.reserved ↔ some name ∈ wishes)
    (hclaimed : pool.claimed = []) (hcounter : pool.counter = 0) :
    Assigns wishes (pool.obtainAll wishes).1 where
  length := pool.length_obtainAll wishes
  kept name hwished position :=
    getElem?_obtainAll_eq_some_iff ((hreserved name).mpr hwished) (by simp [hclaimed]) hwished
  numbers := by
    have horderly : pool.Orderly := by simp [Orderly, hclaimed]
    obtain ⟨numbers, hnames, hhead, hchain⟩ := exists_numbers_obtainAll horderly fun name hwished ↦
      (hreserved name).mpr hwished
    simp only [hreserved, hcounter, Nat.zero_le, true_and] at hnames hhead hchain
    refine ⟨numbers, hnames, ?_, hhead, hchain⟩
    exact List.isChain_iff_pairwise.mp (hchain.imp fun previous next hleast ↦ hleast.1.1)

end CardQuery.NamePool
