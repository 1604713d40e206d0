import CardQuery.Text.Decimal

/-!
Pools of variable names. A pool knows the names that occur elsewhere and are kept free, the names
that are held, and the first number it has not tried yet. A new name takes the least number from
there on whose name is not in use, so it differs from every name that the pool has been told of.
-/

set_option autoImplicit false
set_option relaxedAutoImplicit false

namespace CardQuery

open Text

structure NamePool where
  reserved : List String
  claimed : List String
  counter : Nat
deriving DecidableEq

namespace NamePool

def empty : NamePool := ⟨[], [], 0⟩

/-- The characters before the number of a variable. -/
def marker : List Char := ['$', 'v', 'a', 'r']

/-- The variable of a number. -/
def numbered (number : Nat) : String :=
  String.ofList (marker ++ Decimal.digits number)

theorem numbered_injective {first second : Nat} (hnames : numbered first = numbered second) :
    first = second := by
  have hdigits : Decimal.digits first = Decimal.digits second :=
    List.append_cancel_left (String.ofList_injective hnames)
  rw [← Decimal.value_digits first, hdigits, Decimal.value_digits]

/-- The least number from `number` on whose variable is not among the names. A name that has been
passed is not met again, so it need not be kept. -/
def firstFree (names : List String) (number : Nat) : Nat :=
  if numbered number ∈ names then firstFree (names.erase (numbered number)) (number + 1)
  else number
termination_by names.length
decreasing_by
  rename_i hmember
  rw [List.length_erase_of_mem hmember]
  have := List.length_pos_of_mem hmember
  omega

def IsUsed (pool : NamePool) (name : String) : Prop :=
  name ∈ pool.reserved ∨ name ∈ pool.claimed

instance (pool : NamePool) (name : String) : Decidable (pool.IsUsed name) :=
  inferInstanceAs (Decidable (_ ∨ _))

/-- Keeps names free that occur elsewhere. -/
def register (pool : NamePool) (names : List String) : NamePool :=
  { pool with reserved := names ++ pool.reserved }

/-- A name that was not in use, and the pool that holds it. -/
def generate (pool : NamePool) : String × NamePool :=
  let number := firstFree (pool.reserved ++ pool.claimed) pool.counter
  let name := numbered number
  (name, { pool with claimed := name :: pool.claimed, counter := number + 1 })

/-- The pool that holds a name on top of what it holds, unless it holds the name already. That the
name is reserved is no hindrance. -/
def claim? (pool : NamePool) (name : String) : Option NamePool :=
  if name ∈ pool.claimed then none
  else some { pool with claimed := name :: pool.claimed }

/-- The name that is wished for if it can be claimed, and otherwise a new one. -/
def obtain (pool : NamePool) (wish : Option String) : String × NamePool :=
  match wish.bind fun name ↦ (pool.claim? name).map (name, ·) with
  | some granted => granted
  | none => pool.generate

end NamePool

end CardQuery
