/-!
Sets of characters given by closed ranges of code points. Membership is what a table of ranges
says, so two tables are compared by the characters they contain.
-/

set_option autoImplicit false
set_option relaxedAutoImplicit false

namespace CardQuery.Text

/-- The closed ranges of code points that make up the set. -/
structure CodePointSet where
  ranges : List (Nat × Nat)

def CodePointSet.contains (set : CodePointSet) (character : Char) : Bool :=
  set.ranges.any fun range ↦
    Nat.ble range.1 character.toNat && Nat.ble character.toNat range.2

theorem CodePointSet.contains_iff (set : CodePointSet) (character : Char) :
    set.contains character = true ↔
      ∃ range ∈ set.ranges, range.1 ≤ character.toNat ∧ character.toNat ≤ range.2 := by
  simp [CodePointSet.contains]

end CardQuery.Text
