/-!
Rounding to double precision. A whole number is rounded to 53 binary digits, to the nearest number
that has no more and of two that are equally near to the even one.
-/

set_option autoImplicit false
set_option relaxedAutoImplicit false

namespace CardQuery.Double

/-- The distance between neighbours of a number that have 53 binary digits. -/
def spacing (number : Nat) : Nat := Nat.pow 2 (number.log2 + 1 - 53)

/-- The nearest number that has 53 binary digits. -/
def round (number : Nat) : Nat :=
  let unit := spacing number
  let below := number / unit
  let excess := number % unit
  if unit < 2 * excess ∨ unit = 2 * excess ∧ below % 2 = 1 then (below + 1) * unit
  else below * unit

/-- From here on magnitudes are rounded to infinity: the largest finite one is
`2 ^ 1024 - 2 ^ 971`, and this is half a step above it. -/
def overflow : Nat := Nat.pow 2 1024 - Nat.pow 2 970

end CardQuery.Double
