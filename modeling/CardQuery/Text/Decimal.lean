import CardQuery.Text.CharClass

/-!
Decimal numerals of integers. A numeral is an optional minus sign and digits; leading zeros are
read but never written, so each integer has one written form and `read_write` returns it.
-/

set_option autoImplicit false
set_option relaxedAutoImplicit false

namespace CardQuery.Text.Decimal

/-- The digits of a number, without leading zeros. -/
def digits (number : Nat) : List Char := Nat.toDigits 10 number

/-- The number that a row of digits stands for; no digits stand for zero. -/
def value (row : List Char) : Nat := Nat.ofDigitChars 10 row 0

/-- The written form of an integer. -/
def write : Int → List Char
  | .ofNat number => digits number
  | .negSucc number => '-' :: digits (number + 1)

/-- The integer that a sign and digits stand for. -/
def read : List Char → Int
  | '-' :: row => -(value row : Int)
  | row => value row

theorem value_digits (number : Nat) : value (digits number) = number := by
  simp [value, digits, Nat.ofDigitChars_toDigits]

theorem isDigit_of_mem_digits {number : Nat} {character : Char}
    (hmember : character ∈ digits number) : isDigit character = true := by
  have hdigit := Nat.isDigit_of_mem_toDigits (by decide) (by decide) hmember
  simp only [Char.isDigit, Bool.and_eq_true, decide_eq_true_eq] at hdigit
  simp only [isDigit, Bool.and_eq_true, Nat.ble_eq]
  exact ⟨hdigit.1, hdigit.2⟩

theorem read_write (number : Int) : read (write number) = number := by
  cases number with
  | ofNat number =>
    have hhead : ∀ row, digits number ≠ '-' :: row := by
      intro row hrow
      have hmember : '-' ∈ digits number := by simp [hrow]
      exact absurd (isDigit_of_mem_digits hmember) (by decide)
    unfold write read
    split
    · rename_i row hrow
      exact absurd hrow (hhead row)
    · simp [value_digits]
  | negSucc number =>
    simp only [write, read, value_digits]
    omega

end CardQuery.Text.Decimal
