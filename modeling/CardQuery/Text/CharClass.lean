import CardQuery.Text.Alphabetic
import CardQuery.Text.GraphemeExtend
import CardQuery.Text.Numeric
import CardQuery.Text.Unprintable

/-!
Classes of characters. ASCII is decided by comparison alone and the rest by the tables of Unicode
properties, so a statement about ASCII characters needs no table.
-/

set_option autoImplicit false
set_option relaxedAutoImplicit false

namespace CardQuery.Text

/-- The Unicode property White_Space. -/
def isBlank (character : Char) : Bool :=
  let code := character.toNat
  (Nat.ble 0x9 code && Nat.ble code 0xd) || code == 0x20 || code == 0x85 || code == 0xa0 ||
    code == 0x1680 || (Nat.ble 0x2000 code && Nat.ble code 0x200a) || code == 0x2028 ||
    code == 0x2029 || code == 0x202f || code == 0x205f || code == 0x3000

/-- The ten digits of ASCII. -/
def isDigit (character : Char) : Bool :=
  Nat.ble 0x30 character.toNat && Nat.ble character.toNat 0x39

/-- The letters of ASCII. -/
def isLetter (character : Char) : Bool :=
  let code := character.toNat
  (Nat.ble 0x41 code && Nat.ble code 0x5a) || (Nat.ble 0x61 code && Nat.ble code 0x7a)

def isAlphabetic (character : Char) : Bool :=
  if character.toNat < 0x80 then isLetter character else alphabetic.contains character

/-- Alphabetic, or a number of any script: a decimal digit, a letter number or another number. -/
def isAlphanumeric (character : Char) : Bool :=
  if character.toNat < 0x80 then isLetter character || isDigit character
  else alphabetic.contains character || numeric.contains character

/-- The sound marks of halfwidth Katakana. They extend a cluster, but they are letters and show
without anything before them. -/
def halfwidthSoundMark : CodePointSet := ⟨[(0xff9e, 0xff9f)]⟩

/-- The letters of Hangul that have no shape, and stand for a letter that is missing. -/
def hangulFiller : CodePointSet :=
  ⟨[(0x115f, 0x1160), (0x3164, 0x3164), (0xffa0, 0xffa0)]⟩

/-- Marks that show on the character before them only. -/
def isAttached (character : Char) : Bool :=
  graphemeExtend.contains character && !halfwidthSoundMark.contains character

/-- The characters that a debugging spelling shows as themselves: those with a visible shape that
do not attach to the character before them, and the ASCII space. -/
def isPrintable (character : Char) : Bool :=
  if character.toNat < 0x80 then Nat.ble 0x20 character.toNat && character.toNat != 0x7f
  else
    !(isAttached character || hangulFiller.contains character || unprintable.contains character)

/-! ### How the classes lie to each other -/

theorem isAlphanumeric_of_isAlphabetic {character : Char}
    (halphabetic : isAlphabetic character = true) : isAlphanumeric character = true := by
  unfold isAlphabetic at halphabetic
  unfold isAlphanumeric
  split <;> simp_all

theorem isAlphanumeric_of_isDigit {character : Char} (hdigit : isDigit character = true) :
    isAlphanumeric character = true := by
  have hcode : character.toNat < 0x80 := by
    simp only [isDigit, Bool.and_eq_true, Nat.ble_eq] at hdigit
    omega
  simp [isAlphanumeric, hcode, hdigit]

end CardQuery.Text
