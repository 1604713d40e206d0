import Mathlib.Order.Bounds.Basic
import CardQuery.Proofs.Names.Renewal

/-!
The history of a pool. A pool is asked for new names, told of names that occur elsewhere, asked to
give a name away, and asked whether a name is in use, in any order. What it answers depends only on
what has happened before (`Records.answers`): a new name has the least number whose name is not in
use and that is not below any number that has been looked at, and a name is given away once. Every
search for a number comes to an end (`searches_looked`), and as no number is looked at twice, the
numbers of the new names increase (`answers_of_history`).
-/

set_option autoImplicit false
set_option relaxedAutoImplicit false

namespace CardQuery.NamePool

/-! ### The search for a number, as it goes -/

/-- From a number on, one number after another is looked at, up to the first whose name is not in
use. -/
inductive Searches (used : String → Prop) : Nat → List Nat → Nat → Prop where
  | stop {number : Nat} (free : ¬ used (numbered number)) : Searches used number [number] number
  | goOn {number found : Nat} {looked : List Nat} (taken : used (numbered number))
      (next : Searches used (number + 1) looked found) :
      Searches used number (number :: looked) found

theorem searches_range' {used : String → Prop} {start count : Nat}
    (hpassed : ∀ passed, start ≤ passed → passed < start + count → used (numbered passed))
    (hfree : ¬ used (numbered (start + count))) :
    Searches used start (List.range' start (count + 1)) (start + count) := by
  induction count generalizing start with
  | zero => exact .stop hfree
  | succ count ih =>
    have hsum : start + 1 + count = start + (count + 1) := by omega
    rw [← hsum] at hpassed hfree ⊢
    rw [List.range'_succ]
    refine .goOn (hpassed start (Nat.le_refl _) (by omega)) (ih (fun passed hstart hlt ↦ ?_) hfree)
    exact hpassed passed (Nat.le_of_succ_le hstart) hlt

variable {pool : NamePool}

/-- The number of the next new name. -/
def nextNumber (pool : NamePool) : Nat :=
  firstFree (pool.reserved ++ pool.claimed) pool.counter

/-- The numbers that are looked at for the next new name. -/
def looked (pool : NamePool) : List Nat :=
  List.range' pool.counter (pool.nextNumber - pool.counter + 1)

theorem counter_le_nextNumber (pool : NamePool) : pool.counter ≤ pool.nextNumber :=
  le_firstFree _ _

theorem mem_looked {number : Nat} :
    number ∈ pool.looked ↔ pool.counter ≤ number ∧ number ≤ pool.nextNumber := by
  have hbound := pool.counter_le_nextNumber
  rw [looked, List.mem_range'_1]
  omega

/-- A number that is looked at and passed is in use. -/
theorem isUsed_of_lt_nextNumber {number : Nat} (hstart : pool.counter ≤ number)
    (hlt : number < pool.nextNumber) : pool.IsUsed (numbered number) := by
  obtain ⟨-, -, hpassed⟩ := firstFree_eq_iff.mp (Eq.refl pool.nextNumber)
  exact List.mem_append.mp (hpassed number hstart hlt)

/-- The search for the next new name ends, and finds its number. -/
theorem searches_looked (pool : NamePool) :
    Searches pool.IsUsed pool.counter pool.looked pool.nextNumber := by
  have hsum : pool.counter + (pool.nextNumber - pool.counter) = pool.nextNumber :=
    Nat.add_sub_cancel' pool.counter_le_nextNumber
  have hfree : ¬ pool.IsUsed (numbered pool.nextNumber) := pool.generate_not_isUsed
  have hsearch := @searches_range' pool.IsUsed pool.counter (pool.nextNumber - pool.counter)
  rw [hsum] at hsearch
  exact hsearch (fun passed ↦ isUsed_of_lt_nextNumber) hfree

/-! ### What happens to a pool -/

/-- What a pool is asked to do. -/
inductive Call where
  | generate
  | register (names : List String)
  | claim (name : String)
  | ask (name : String)

/-- A call with its answer. For a new name, the numbers that were looked at are kept as well. -/
inductive Event where
  | generated (looked : List Nat) (name : String)
  | registered (names : List String)
  | claimed (name : String) (success : Bool)
  | asked (name : String) (used : Bool)
deriving DecidableEq

/-- What a call brings about, and the pool after it. -/
def respond (pool : NamePool) : Call → Event × NamePool
  | .generate => (.generated pool.looked pool.generate.1, pool.generate.2)
  | .register names => (.registered names, pool.register names)
  | .claim name =>
    match pool.claim? name with
    | none => (.claimed name false, pool)
    | some after => (.claimed name true, after)
  | .ask name => (.asked name (decide (pool.IsUsed name)), pool)

/-- What calls after another bring about. -/
def history (pool : NamePool) : List Call → List Event
  | [] => []
  | call :: rest => (pool.respond call).1 :: (pool.respond call).2.history rest

namespace Event

/-- The names that are given away, as new ones or to one who claims them. -/
def given : Event → List String
  | generated _ name | claimed name true => [name]
  | registered _ | claimed _ false | asked _ _ => []

/-- The names that the pool is told of. -/
def told : Event → List String
  | registered names => names
  | generated _ _ | claimed _ _ | asked _ _ => []

/-- The numbers that are looked at for a new name. -/
def tried : Event → List Nat
  | generated looked _ => looked
  | registered _ | claimed _ _ | asked _ _ => []

/-- The new name. -/
def newName? : Event → Option String
  | generated _ name => some name
  | registered _ | claimed _ _ | asked _ _ => none

end Event

/-! ### What the past demands -/

/-- The name has been given away. -/
def Held (past : List Event) (name : String) : Prop := ∃ event ∈ past, name ∈ event.given

/-- The pool has been told of the name. -/
def Told (past : List Event) (name : String) : Prop := ∃ event ∈ past, name ∈ event.told

/-- The number has been looked at. -/
def Tried (past : List Event) (number : Nat) : Prop := ∃ event ∈ past, number ∈ event.tried

/-- The name has been given away, or the pool has been told of it. -/
def Met (past : List Event) (name : String) : Prop := Held past name ∨ Told past name

/-- The event is what should come after the past. A new name comes at the end of a search among the
names that have not been met, and has the least number that is not below any number tried and whose
name has not been met. A name is given to one who claims it if nobody holds it. -/
def Answers (past : List Event) : Event → Prop
  | .generated looked name => ∃ number, name = numbered number ∧
      (∃ start, Searches (Met past) start looked number) ∧
      IsLeast {other | (∀ tried, Tried past tried → tried ≤ other) ∧
        ¬ Met past (numbered other)} number
  | .registered _ => True
  | .claimed name success => success = true ↔ ¬ Held past name
  | .asked name used => used = true ↔ Met past name

/-! ### The pool knows the past -/

variable {past : List Event} {call : Call} {name : String} {number : Nat}

theorem mem_claimed_respond (pool : NamePool) (call : Call) (name : String) :
    name ∈ (pool.respond call).2.claimed ↔
      name ∈ pool.claimed ∨ name ∈ (pool.respond call).1.given := by
  cases call with
  | generate => simp [respond, generate, Event.given, or_comm]
  | register names => simp [respond, register, Event.given]
  | claim other =>
    by_cases hheld : other ∈ pool.claimed <;> simp [respond, claim?, hheld, Event.given, or_comm]
  | ask other => simp [respond, Event.given]

theorem mem_reserved_respond (pool : NamePool) (call : Call) (name : String) :
    name ∈ (pool.respond call).2.reserved ↔
      name ∈ pool.reserved ∨ name ∈ (pool.respond call).1.told := by
  cases call with
  | generate => simp [respond, generate, Event.told]
  | register names => simp [respond, register, Event.told, or_comm]
  | claim other =>
    by_cases hheld : other ∈ pool.claimed <;> simp [respond, claim?, hheld, Event.told]
  | ask other => simp [respond, Event.told]

theorem lt_counter_respond (pool : NamePool) (call : Call) (number : Nat) :
    number < (pool.respond call).2.counter ↔
      number < pool.counter ∨ number ∈ (pool.respond call).1.tried := by
  cases call with
  | generate =>
    have hstart := pool.counter_le_nextNumber
    change number < pool.nextNumber + 1 ↔ number < pool.counter ∨ number ∈ pool.looked
    rw [mem_looked]
    omega
  | register names => simp [respond, register, Event.tried]
  | claim other =>
    by_cases hheld : other ∈ pool.claimed <;> simp [respond, claim?, hheld, Event.tried]
  | ask other => simp [respond, Event.tried]

/-- What is in use stays in use. -/
theorem IsUsed.respond (hused : pool.IsUsed name) (call : Call) :
    (pool.respond call).2.IsUsed name :=
  hused.imp (fun hreserved ↦ (pool.mem_reserved_respond call name).mpr (.inl hreserved))
    (fun hclaimed ↦ (pool.mem_claimed_respond call name).mpr (.inl hclaimed))

/-- The name of a number that has been looked at is in use afterwards: it was in use before, or it
is the new name. -/
theorem isUsed_of_mem_tried (htried : number ∈ (pool.respond call).1.tried) :
    (pool.respond call).2.IsUsed (numbered number) := by
  cases call with
  | generate =>
    obtain ⟨hstart, hstop⟩ := mem_looked.mp htried
    rcases Nat.lt_or_eq_of_le hstop with hlt | rfl
    · exact (isUsed_of_lt_nextNumber hstart hlt).respond .generate
    · exact .inr List.mem_cons_self
  | register names => simp [NamePool.respond, Event.tried] at htried
  | claim other =>
    by_cases hheld : other ∈ pool.claimed <;>
      simp [NamePool.respond, claim?, hheld, Event.tried] at htried
  | ask other => simp [NamePool.respond, Event.tried] at htried

/-- The pool holds what has been given away, keeps free what it has been told of, and has counted
over the numbers that have been tried. The name of each of these numbers is in use. -/
structure Records (past : List Event) (pool : NamePool) : Prop where
  held : ∀ name, name ∈ pool.claimed ↔ Held past name
  told : ∀ name, name ∈ pool.reserved ↔ Told past name
  tried : ∀ number, number < pool.counter ↔ Tried past number
  passed : ∀ number < pool.counter, pool.IsUsed (numbered number)

namespace Records

theorem empty : Records [] empty where
  held name := by simp [Held, NamePool.empty]
  told name := by simp [Told, NamePool.empty]
  tried number := by simp [Tried, NamePool.empty]
  passed number hlt := absurd hlt (Nat.not_lt_zero number)

theorem met (hrecords : Records past pool) (name : String) : pool.IsUsed name ↔ Met past name := by
  rw [IsUsed, hrecords.held, hrecords.told, Met, or_comm]

/-- What a call brings about is known afterwards. -/
theorem respond (hrecords : Records past pool) (call : Call) :
    Records (past ++ [(pool.respond call).1]) (pool.respond call).2 where
  held name := by
    rw [mem_claimed_respond, hrecords.held]
    simp [Held, or_and_right, exists_or]
  told name := by
    rw [mem_reserved_respond, hrecords.told]
    simp [Told, or_and_right, exists_or]
  tried number := by
    rw [lt_counter_respond, hrecords.tried]
    simp [Tried, or_and_right, exists_or]
  passed number hlt := by
    rcases (pool.lt_counter_respond call number).mp hlt with hbefore | htried
    · exact (hrecords.passed number hbefore).respond call
    · exact isUsed_of_mem_tried htried

/-- A call is answered as the past demands. -/
theorem answers (hrecords : Records past pool) (call : Call) :
    Answers past (pool.respond call).1 := by
  cases call with
  | generate =>
    have hused : pool.IsUsed = Met past := funext fun name ↦ propext (hrecords.met name)
    have hsearch := pool.searches_looked
    have hfree : ¬ pool.IsUsed (numbered pool.nextNumber) := pool.generate_not_isUsed
    rw [hused] at hsearch hfree
    refine ⟨pool.nextNumber, rfl, ⟨_, hsearch⟩, ⟨fun tried htried ↦ ?_, hfree⟩, ?_⟩
    · have hcounted := (hrecords.tried tried).mpr htried
      exact Nat.le_of_lt (Nat.lt_of_lt_of_le hcounted pool.counter_le_nextNumber)
    -- Of the numbers below the one that is found, those that had been tried are in use since then,
    -- and the search has just passed the others.
    · rintro other ⟨-, hother⟩
      by_contra hlt
      rw [← hused] at hother
      rcases Nat.lt_or_ge other pool.counter with hbefore | hlater
      · exact hother (hrecords.passed other hbefore)
      · exact hother (isUsed_of_lt_nextNumber hlater (Nat.lt_of_not_le hlt))
  | register names => trivial
  | claim name =>
    by_cases hheld : name ∈ pool.claimed
    · simpa [NamePool.respond, claim?, hheld, Answers] using (hrecords.held name).mp hheld
    · simpa [NamePool.respond, claim?, hheld, Answers] using (hrecords.held name).not.mp hheld
  | ask name => simpa [NamePool.respond, Answers] using hrecords.met name

/-- Every call of a row is answered as the past demands. -/
theorem answers_event {calls : List Call} (hrecords : Records past pool)
    {before later : List Event} {event : Event}
    (hhistory : pool.history calls = before ++ event :: later) :
    Answers (past ++ before) event := by
  induction calls generalizing pool past before with
  | nil => simp [history] at hhistory
  | cons call rest ih =>
    cases before with
    | nil =>
      obtain ⟨rfl, -⟩ := List.cons_eq_cons.mp hhistory
      simpa using hrecords.answers call
    | cons first before =>
      obtain ⟨rfl, hrest⟩ := List.cons_eq_cons.mp hhistory
      simpa using ih (hrecords.respond call) hrest

end Records

/-- A pool never counts back. -/
theorem counter_le_respond (pool : NamePool) (call : Call) :
    pool.counter ≤ (pool.respond call).2.counter := by
  by_contra hlt
  have hcounted := (pool.lt_counter_respond call _).mpr (.inl (Nat.lt_of_not_le hlt))
  exact Nat.lt_irrefl _ hcounted

/-- The numbers of the new names increase, from the counter of the pool on. -/
theorem exists_newNumbers (pool : NamePool) (calls : List Call) :
    ∃ numbers : List Nat,
      (pool.history calls).filterMap Event.newName? = numbers.map numbered ∧
        numbers.Pairwise (· < ·) ∧ ∀ number ∈ numbers, pool.counter ≤ number := by
  induction calls generalizing pool with
  | nil => exact ⟨[], rfl, .nil, by simp⟩
  | cons call rest ih =>
    obtain ⟨numbers, hnames, hincrease, hbound⟩ := ih (pool.respond call).2
    have hlater : ∀ number ∈ numbers, pool.counter ≤ number := fun number hnumber ↦
      Nat.le_trans (pool.counter_le_respond call) (hbound number hnumber)
    rw [history, List.filterMap_cons]
    cases call with
    | generate =>
      -- The counter is one above the new number, and the numbers of later names are not below it.
      refine ⟨pool.nextNumber :: numbers, ?_, List.pairwise_cons.mpr ⟨hbound, hincrease⟩, ?_⟩
      · exact congrArg (List.cons _) hnames
      · exact List.forall_mem_cons.mpr ⟨pool.counter_le_nextNumber, hlater⟩
    | register names => exact ⟨numbers, hnames, hincrease, hlater⟩
    | claim name =>
      refine ⟨numbers, ?_, hincrease, hlater⟩
      by_cases hheld : name ∈ pool.claimed <;>
        simpa [respond, claim?, hheld, Event.newName?] using hnames
    | ask name => exact ⟨numbers, hnames, hincrease, hlater⟩

/-- Whatever a new pool is asked, every call is answered as the ones before it demand, and the
numbers of the new names increase. -/
theorem answers_of_history (calls : List Call) :
    (∀ past event later, empty.history calls = past ++ event :: later → Answers past event) ∧
      ∃ numbers : List Nat,
        (empty.history calls).filterMap Event.newName? = numbers.map numbered ∧
          numbers.Pairwise (· < ·) := by
  obtain ⟨numbers, hnames, hincrease, -⟩ := empty.exists_newNumbers calls
  exact ⟨fun _past _event _later hhistory ↦ Records.empty.answers_event hhistory,
    numbers, hnames, hincrease⟩

/-- A name that the pool has only been told of can be claimed, and numbers whose names are in use on
either side of the counter are passed. -/
theorem answers_of_history_claimedAhead :
    empty.history [.register ["$var0", "$var2"], .claim "$var2", .generate, .claim "$var1",
        .generate, .ask "$var0"] =
      [.registered ["$var0", "$var2"], .claimed "$var2" true, .generated [0, 1] "$var1",
        .claimed "$var1" false, .generated [2, 3] "$var3", .asked "$var0" true] ∧
      Answers [.registered ["$var0", "$var2"], .claimed "$var2" true, .generated [0, 1] "$var1",
        .claimed "$var1" false] (.generated [2, 3] "$var3") := by
  have hhistory : empty.history [.register ["$var0", "$var2"], .claim "$var2", .generate,
      .claim "$var1", .generate, .ask "$var0"] =
      [.registered ["$var0", "$var2"], .claimed "$var2" true, .generated [0, 1] "$var1",
        .claimed "$var1" false, .generated [2, 3] "$var3", .asked "$var0" true] := by
    decide +kernel
  exact ⟨hhistory, (answers_of_history _).1 _ _ [.asked "$var0" true] hhistory⟩

end CardQuery.NamePool
