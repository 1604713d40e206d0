import Mathlib.Data.List.Induction
import Mathlib.Data.Nat.Digits.Defs
import CardQuery.Proofs.Lexing.Breaks

/-!
Numerals of any length. A spelling of an integer is a minus sign or none and a row of digits, with
any number of zeros in front; what it counts is said by the places of its digits
(`Spelling.value`), and its canonical spelling has no zeros in front and no sign before zero. The
digits of a canonical spelling are those that are written for its value (`Spelling.write_value`). In
front of anything but a digit a spelling is the first lexeme of a text, and it is a number exactly if
its value fits into 64 bits (`scan_spelling`).
-/

set_option autoImplicit false
set_option relaxedAutoImplicit false

namespace CardQuery

namespace Text.Decimal

/-! ### Spellings -/

def digitValue (digit : Char) : Nat := digit.toNat - 0x30

/-- A way to write an integer: a minus sign or none, and digits, of which there is at least one. -/
structure Spelling where
  negative : Bool
  row : List Char
  present : row ≠ []
  digits : ∀ digit ∈ row, isDigit digit = true

namespace Spelling

variable (spelling : Spelling)

def characters : List Char :=
  if spelling.negative then '-' :: spelling.row else spelling.row

def text : String := String.ofList spelling.characters

/-- The last digit counts ones, the one before it tens, and so on. -/
def magnitude : Nat := Nat.ofDigits 10 (spelling.row.reverse.map digitValue)

def value : Int := if spelling.negative then -spelling.magnitude else spelling.magnitude

/-- The digits from the first one on that is not zero. -/
def significant : List Char := spelling.row.dropWhile (· == '0')

/-- The spelling without zeros in front, where zero is a single digit without a sign. -/
def canonical : Spelling where
  negative := spelling.negative && !spelling.significant.isEmpty
  row := if spelling.significant = [] then ['0'] else spelling.significant
  present := by split <;> simp_all
  digits := by
    split
    · exact List.forall_mem_singleton.mpr (by decide)
    · exact fun digit hdigit ↦ spelling.digits digit ((List.dropWhile_sublist _).mem hdigit)

end Spelling

/-! ### Values of rows -/

theorem value_append_singleton (row : List Char) (digit : Char) :
    value (row ++ [digit]) = 10 * value row + digitValue digit := by
  rw [value, Nat.ofDigitChars_append, Nat.ofDigitChars_cons, Nat.ofDigitChars_nil]
  rfl

/-- The digits are counted up from the left as by their places. -/
theorem value_eq_ofDigits (row : List Char) :
    value row = Nat.ofDigits 10 (row.reverse.map digitValue) := by
  induction row using List.reverseRecOn with
  | nil => rfl
  | append_singleton row digit ih =>
    rw [value_append_singleton, List.reverse_append, List.reverse_singleton, List.singleton_append,
      List.map_cons, Nat.ofDigits_cons, ← ih, Nat.add_comm]

theorem value_dropWhile_zero (row : List Char) : value (row.dropWhile (· == '0')) = value row := by
  induction row with
  | nil => rfl
  | cons digit row ih =>
    by_cases hzero : digit = '0'
    · subst hzero
      rw [List.dropWhile_cons_of_pos (by decide), ih, value, value, Nat.ofDigitChars_cons]
      rfl
    · rw [List.dropWhile_cons_of_neg (by simpa using hzero)]

theorem digitValue_lt {digit : Char} (hdigit : isDigit digit = true) : digitValue digit < 10 := by
  simp only [isDigit, Bool.and_eq_true, Nat.ble_eq] at hdigit
  unfold digitValue
  omega

theorem digitChar_digitValue {digit : Char} (hdigit : isDigit digit = true) :
    (digitValue digit).digitChar = digit := by
  have hchars : ∀ count < 10, (Nat.digitChar count).toNat = 0x30 + count := by decide
  rw [← Char.toNat_inj, hchars _ (digitValue_lt hdigit)]
  simp only [isDigit, Bool.and_eq_true, Nat.ble_eq] at hdigit
  unfold digitValue
  omega

/-- A row of digits that does not begin with a zero is the row of its value. -/
theorem digits_value {row : List Char} (hpresent : row ≠ [])
    (hdigits : ∀ digit ∈ row, isDigit digit = true) (hzero : row.head? ≠ some '0') :
    digits (value row) = row := by
  induction row using List.reverseRecOn with
  | nil => exact absurd rfl hpresent
  | append_singleton row digit ih =>
    obtain ⟨hrow, hdigit⟩ := List.forall_mem_append.mp hdigits
    have hlast : isDigit digit = true := hdigit digit (List.mem_singleton_self digit)
    have hones : digits (digitValue digit) = [digit] := by
      rw [digits, Nat.toDigits_of_lt_base (digitValue_lt hlast), digitChar_digitValue hlast]
    rw [value_append_singleton]
    by_cases hempty : row = []
    · subst hempty
      simpa [value] using hones
    · rw [List.head?_append, List.head?_eq_some_head hempty, Option.some_or,
        ← List.head?_eq_some_head hempty] at hzero
      have hfront := ih hempty hrow hzero
      have hpositive : 0 < value row := by
        refine Nat.pos_of_ne_zero fun hnone ↦ hzero ?_
        rw [← hfront, hnone]
        rfl
      rw [digits, ← Nat.toDigits_append_toDigits (by decide) hpositive (digitValue_lt hlast)]
      exact congrArg₂ (· ++ ·) hfront hones

namespace Spelling

variable (spelling : Spelling)

theorem magnitude_eq : spelling.magnitude = Decimal.value spelling.row :=
  (value_eq_ofDigits _).symm

theorem magnitude_eq_significant : spelling.magnitude = Decimal.value spelling.significant := by
  rw [significant, value_dropWhile_zero, magnitude_eq]

theorem digits_significant (hpresent : spelling.significant ≠ []) :
    Decimal.digits spelling.magnitude = spelling.significant := by
  rw [magnitude_eq_significant]
  refine digits_value hpresent
    (fun digit hdigit ↦ spelling.digits digit ((List.dropWhile_sublist _).mem hdigit)) ?_
  intro hzero
  have hnot := List.head?_dropWhile_not (· == '0') spelling.row
  rw [significant] at hzero
  simp [hzero] at hnot

theorem magnitude_pos (hpresent : spelling.significant ≠ []) : 0 < spelling.magnitude := by
  refine Nat.pos_of_ne_zero fun hnone ↦ ?_
  have hdigits := spelling.digits_significant hpresent
  have hnot := List.head?_dropWhile_not (· == '0') spelling.row
  rw [← significant, ← hdigits, hnone] at hnot
  simp [Decimal.digits] at hnot

/-- What is written for the value of a spelling is its canonical spelling. -/
theorem write_value : write spelling.value = spelling.canonical.characters := by
  by_cases hzero : spelling.significant = []
  · have hnone : spelling.magnitude = 0 := by
      rw [magnitude_eq_significant, hzero]
      rfl
    simp [value, characters, canonical, hzero, hnone, write, Decimal.digits]
  have hdigits := spelling.digits_significant hzero
  by_cases hnegative : spelling.negative = true
  · obtain ⟨number, hnumber⟩ := Nat.exists_eq_succ_of_ne_zero (spelling.magnitude_pos hzero).ne'
    have hvalue : spelling.value = Int.negSucc number := by
      rw [value, if_pos hnegative, hnumber]
      rfl
    have hcanonical : spelling.canonical.characters = '-' :: spelling.significant := by
      simp [characters, canonical, hzero, hnegative]
    rw [hvalue, write, hcanonical, ← hdigits, hnumber]
  · have hvalue : spelling.value = Int.ofNat spelling.magnitude := by
      rw [value, if_neg hnegative]
      rfl
    have hcanonical : spelling.canonical.characters = spelling.significant := by
      simp [characters, canonical, hzero, hnegative]
    rw [hvalue, write, hcanonical, hdigits]

theorem head_row : ∃ digit more, spelling.row = digit :: more ∧ isDigit digit = true ∧
    ∀ other ∈ more, isDigit other = true := by
  obtain ⟨digit, more, hrow⟩ := List.exists_cons_of_ne_nil spelling.present
  have hdigits := spelling.digits
  rw [hrow, List.forall_mem_cons] at hdigits
  exact ⟨digit, more, hrow, hdigits⟩

/-- A spelling is read as its value. -/
theorem read_characters : read spelling.characters = spelling.value := by
  by_cases hnegative : spelling.negative = true
  · rw [characters, if_pos hnegative, value, if_pos hnegative, magnitude_eq]
    rfl
  · obtain ⟨digit, more, hrow, hdigit, -⟩ := spelling.head_row
    have hsign : digit ≠ '-' := by
      rintro rfl
      exact absurd hdigit (by decide)
    rw [characters, if_neg hnegative, value, if_neg hnegative, magnitude_eq, hrow, read.eq_2]
    exact fun _ heq ↦ hsign (List.cons_eq_cons.mp heq).1

/-- The canonical spelling has the same value. -/
theorem value_canonical : spelling.canonical.value = spelling.value := by
  rw [← read_characters, ← write_value, read_write]

end Spelling

end Text.Decimal

/-! ### Numerals in a text -/

namespace Lexer

open Text
open Text.Decimal (Spelling)

variable {character : Char} {rest : List Char}

theorem mark_of_isDigit (hdigit : isDigit character = true) : character ∉ marks :=
  notMem_marks (by decide) hdigit

/-- A digit starts a numeral that goes on up to the first character that is no digit. -/
theorem first_of_isDigit {more : List Char} (hdigit : isDigit character = true)
    (hmore : ∀ other ∈ more, isDigit other = true)
    (hrest : ∀ other ∈ rest.head?, isDigit other = false) :
    first character (more ++ rest) =
      ⟨numberSymbol (character :: more), character :: more, rest⟩ := by
  have hstarts : startsNumeral character (more ++ rest) = true := by simp [startsNumeral, hdigit]
  rw [first_of_startsNumeral (mark_of_isDigit hdigit) hstarts]
  exact run_append hmore hrest

/-- So does a sign in front of a digit. -/
theorem first_of_sign {row : List Char} (hpresent : row ≠ [])
    (hdigits : ∀ digit ∈ row, isDigit digit = true)
    (hrest : ∀ other ∈ rest.head?, isDigit other = false) :
    first '-' (row ++ rest) = ⟨numberSymbol ('-' :: row), '-' :: row, rest⟩ := by
  have hstarts : startsNumeral '-' (row ++ rest) = true := by
    obtain ⟨digit, more, rfl⟩ := List.exists_cons_of_ne_nil hpresent
    simp [startsNumeral, hdigits digit List.mem_cons_self]
  rw [first_of_startsNumeral (by decide) hstarts]
  exact run_append hdigits hrest

/-- A spelling that no further digit follows is a lexeme. -/
theorem first_spelling (spelling : Spelling)
    (hrest : ∀ other ∈ rest.head?, isDigit other = false) :
    ∃ character more, spelling.characters = character :: more ∧ isBlank character = false ∧
      first character (more ++ rest) =
        ⟨numberSymbol spelling.characters, spelling.characters, rest⟩ := by
  by_cases hnegative : spelling.negative = true
  · rw [Spelling.characters, if_pos hnegative]
    exact ⟨'-', spelling.row, rfl, by decide, first_of_sign spelling.present spelling.digits hrest⟩
  · obtain ⟨digit, more, hrow, hdigit, hmore⟩ := spelling.head_row
    have hblank : isBlank digit = false :=
      Bool.eq_false_iff.mpr fun hblank ↦ by simp [isDigit_of_isBlank hblank] at hdigit
    rw [Spelling.characters, if_neg hnegative, hrow]
    exact ⟨digit, more, rfl, hblank, first_of_isDigit hdigit hmore hrest⟩

/-- A spelling means its value, if that fits into 64 bits. -/
theorem numberSymbol_characters (spelling : Spelling) :
    numberSymbol spelling.characters =
      if -2 ^ 63 ≤ spelling.value ∧ spelling.value ≤ 2 ^ 63 - 1 then .number spelling.value
      else .illegal := by
  simp only [numberSymbol, Spelling.read_characters, InRange]
  norm_num

end Lexer

namespace Token

open Text
open Text.Decimal (Spelling)

/-- In front of anything but a digit a spelling is the first token of a text: a number, if its value
fits into 64 bits, and otherwise illegal. -/
theorem scan_spelling (spelling : Spelling) {rest : String}
    (hrest : ∀ other ∈ rest.toList.head?, isDigit other = false) :
    scan (spelling.text ++ rest) =
      ⟨if -2 ^ 63 ≤ spelling.value ∧ spelling.value ≤ 2 ^ 63 - 1 then .number spelling.value
          else .illegal, ⟨0, spelling.text.utf8ByteSize⟩⟩ ::
        (scan rest).map (·.shift spelling.text.utf8ByteSize) := by
  obtain ⟨character, more, hcharacters, hblank, hfirst⟩ := Lexer.first_spelling spelling hrest
  have htext : (spelling.text ++ rest).toList = character :: (more ++ rest.toList) := by
    rw [String.toList_append, Spelling.text, String.toList_ofList, hcharacters, List.cons_append]
  have hsize : utf8Length spelling.characters = spelling.text.utf8ByteSize := utf8Length_eq _
  rw [scan, htext, scanFrom_lexeme (Bool.eq_false_iff.mp hblank), hfirst, hsize, scanFrom_add,
    Nat.zero_add, Lexer.numberSymbol_characters]
  rfl

end Token

end CardQuery
