import CardQuery.Json.Reader

/-!
The spellings of strings. A character of a string is written as itself, with a letter behind a
backslash, or by its number in hexadecimal digits of either case, which takes a pair of surrogates
beyond the first 65536 characters. `SpellsText` says which rows of characters spell a text, each
character in a way of its own, and every one of them is read as that text (`codes?_of_spells`).
-/

set_option autoImplicit false
set_option relaxedAutoImplicit false

namespace CardQuery.Json

/-! ### Characters -/

/-- A hexadecimal digit, as a small or a capital letter if it is one, and what it counts. -/
def HexDigit (digit : Char) (count : Nat) : Prop :=
  "0123456789abcdef".toList[count]? = some digit ∨ "0123456789ABCDEF".toList[count]? = some digit

/-- Four hexadecimal digits behind `\u`, and their number. -/
inductive SpellsCode : List Char → Nat → Prop
  | digits {first second third fourth : Char} {one two three four : Nat}
      (hfirst : HexDigit first one) (hsecond : HexDigit second two) (hthird : HexDigit third three)
      (hfourth : HexDigit fourth four) :
      SpellsCode ['\\', 'u', first, second, third, fourth]
        (((one * 16 + two) * 16 + three) * 16 + four)

/-- The characters that have a letter of their own, each behind its letter. -/
def shortEscapes : List (Char × Char) :=
  [('"', '"'), ('\\', '\\'), ('/', '/'), ('b', '\x08'), ('f', '\x0c'), ('n', '\n'), ('r', '\r'),
    ('t', '\t')]

/-- The character is no control character, and neither closes a string nor begins an escape. -/
def IsPlain (character : Char) : Prop :=
  0x20 ≤ character.toNat ∧ character ≠ '"' ∧ character ≠ '\\'

instance (character : Char) : Decidable (IsPlain character) :=
  inferInstanceAs (Decidable (_ ∧ _))

/-- The ways to write a character in a string. -/
inductive SpellsCharacter : Char → List Char → Prop
  | plain {character : Char} (hplain : IsPlain character) : SpellsCharacter character [character]
  | short {letter character : Char} (hescape : (letter, character) ∈ shortEscapes) :
      SpellsCharacter character ['\\', letter]
  | code {character : Char} {word : List Char} (hcode : SpellsCode word character.toNat) :
      SpellsCharacter character word
  | surrogates {character : Char} {leading trailing : List Char} {high low : Nat}
      (hleading : SpellsCode leading (0xd800 + high))
      (htrailing : SpellsCode trailing (0xdc00 + low))
      (hhigh : high < 0x400) (hlow : low < 0x400)
      (hcharacter : character.toNat = 0x10000 + high * 0x400 + low) :
      SpellsCharacter character (leading ++ trailing)

/-- The characters of a text are spelled one after the other. -/
inductive SpellsText : List Char → List Char → Prop
  | nil : SpellsText [] []
  | cons {character : Char} {text word rest : List Char}
      (hcharacter : SpellsCharacter character word) (htext : SpellsText text rest) :
      SpellsText (character :: text) (word ++ rest)

variable {character : Char} {word text after : List Char} {code count : Nat}

theorem hexDigit?_of_hexDigit (hdigit : HexDigit character count) :
    hexDigit? character = some count := by
  have hall : ∀ count < 16, "0123456789abcdef".toList[count]?.bind hexDigit? = some count ∧
      "0123456789ABCDEF".toList[count]?.bind hexDigit? = some count := by
    decide
  rcases hdigit with hsmall | hcapital
  · have hcount := hall count (List.getElem?_eq_some_iff.mp hsmall).1
    rw [hsmall] at hcount
    exact hcount.1
  · have hcount := hall count (List.getElem?_eq_some_iff.mp hcapital).1
    rw [hcapital] at hcount
    exact hcount.2

theorem spellsText_self (hplain : text.all (IsPlain ·) = true) : SpellsText text text := by
  induction text with
  | nil => exact .nil
  | cons character text ih =>
    obtain ⟨hcharacter, hrest⟩ := Bool.and_eq_true_iff.mp hplain
    exact .cons (.plain (of_decide_eq_true hcharacter)) (ih hrest)

theorem exists_hexDigit (hcount : count < 16) : ∃ digit, HexDigit digit count :=
  ⟨"0123456789abcdef".toList[count], .inl (List.getElem?_eq_getElem hcount)⟩

/-- A character that is not plain has a letter of its own or two hexadecimal digits. -/
theorem exists_spellsCharacter (character : Char) : ∃ word, SpellsCharacter character word := by
  by_cases hplain : IsPlain character
  · exact ⟨_, .plain hplain⟩
  by_cases hquote : character = '"'
  · exact ⟨_, @SpellsCharacter.short '"' _ (by rw [hquote]; decide)⟩
  by_cases hbackslash : character = '\\'
  · exact ⟨_, @SpellsCharacter.short '\\' _ (by rw [hbackslash]; decide)⟩
  have hcontrol : character.toNat < 0x20 :=
    Nat.lt_of_not_le fun hlarge ↦ hplain ⟨hlarge, hquote, hbackslash⟩
  obtain ⟨third, hthird⟩ := exists_hexDigit (show character.toNat / 16 < 16 by omega)
  obtain ⟨fourth, hfourth⟩ := exists_hexDigit (show character.toNat % 16 < 16 by omega)
  have hcode := @SpellsCode.digits '0' '0' third fourth 0 0 _ _ (.inl rfl) (.inl rfl) hthird hfourth
  have hnumber : ((0 * 16 + 0) * 16 + character.toNat / 16) * 16 + character.toNat % 16 =
      character.toNat := by
    omega
  exact ⟨_, .code (hnumber ▸ hcode)⟩

theorem exists_spellsText (text : List Char) : ∃ word, SpellsText text word := by
  induction text with
  | nil => exact ⟨[], .nil⟩
  | cons character text ih =>
    obtain ⟨word, hcharacter⟩ := exists_spellsCharacter character
    obtain ⟨rest, hrest⟩ := ih
    exact ⟨word ++ rest, .cons hcharacter hrest⟩

/-! ### Reading what is spelled -/

/-- The codes, and then those that are read behind them. -/
def withCodes (front : List Nat) (read : Option (List Nat × List Char)) :
    Option (List Nat × List Char) :=
  read.map fun (codes, after) ↦ (front ++ codes, after)

theorem codes?_spellsCode (hcode : SpellsCode word code) :
    codes? (word ++ after) = withCodes [code] (codes? after) := by
  obtain ⟨hfirst, hsecond, hthird, hfourth⟩ := hcode
  simp only [List.cons_append, List.nil_append, codes?, codeUnit?, hexDigit?_of_hexDigit hfirst,
    hexDigit?_of_hexDigit hsecond, hexDigit?_of_hexDigit hthird, hexDigit?_of_hexDigit hfourth]
  cases codes? after <;> rfl

theorem codes?_plain (hplain : IsPlain character) :
    codes? (character :: after) = withCodes [character.toNat] (codes? after) := by
  obtain ⟨hcontrol, hquote, hbackslash⟩ := hplain
  have hallowed : ¬ (character.toNat < 0x20 ∨ character = '\\') := by
    rintro (hlow | hsame)
    · omega
    · exact hbackslash hsame
  rw [codes?, if_neg hquote, if_neg hallowed]
  · rfl
  · exact fun _ _ _ _ _ heq _ ↦ hbackslash heq
  · exact fun _ _ heq _ ↦ hbackslash heq

theorem codes?_short {letter : Char} (hescape : (letter, character) ∈ shortEscapes) :
    codes? ('\\' :: letter :: after) = withCodes [character.toNat] (codes? after) := by
  have hletters : ∀ escape ∈ shortEscapes, escape.1 ≠ 'u' ∧ escape? escape.1 = some escape.2 := by
    decide
  obtain ⟨hletter, hmeant⟩ := hletters _ hescape
  rw [codes?, hmeant]
  · cases codes? after <;> rfl
  · exact fun _ _ _ _ _ heq _ ↦ hletter heq

theorem withCodes_withCodes (front back : List Nat) (read : Option (List Nat × List Char)) :
    withCodes front (withCodes back read) = withCodes (front ++ back) read := by
  cases read <;> simp [withCodes]

/-- No character has the number of a surrogate. -/
theorem not_surrogate_toNat (character : Char) :
    isLeading character.toNat = false ∧ isTrailing character.toNat = false := by
  have hvalid : character.toNat < 0xd800 ∨
      0xdfff < character.toNat ∧ character.toNat < 0x110000 := character.valid
  rw [← Bool.not_eq_true, ← Bool.not_eq_true]
  simp only [isLeading, isTrailing, Bool.and_eq_true, Nat.ble_eq]
  omega

theorem textOfCodes_toNat (character : Char) (codes : List Nat) :
    textOfCodes (character.toNat :: codes) = (textOfCodes codes).map (character :: ·) := by
  obtain ⟨hleading, htrailing⟩ := not_surrogate_toNat character
  cases codes with
  | nil => simp [textOfCodes, hleading, htrailing, Char.ofNat_toNat]
  | cons next rest => simp [textOfCodes, hleading, htrailing, Char.ofNat_toNat]

theorem textOfCodes_surrogates {high low : Nat} (hhigh : high < 0x400) (hlow : low < 0x400)
    (hcharacter : character.toNat = 0x10000 + high * 0x400 + low) (codes : List Nat) :
    textOfCodes ((0xd800 + high) :: (0xdc00 + low) :: codes) =
      (textOfCodes codes).map (character :: ·) := by
  have hleading : isLeading (0xd800 + high) = true := by
    simp only [isLeading, Bool.and_eq_true, Nat.ble_eq]
    omega
  have htrailing : isTrailing (0xdc00 + low) = true := by
    simp only [isTrailing, Bool.and_eq_true, Nat.ble_eq]
    omega
  have hcode : 0x10000 + (0xd800 + high - 0xd800) * 0x400 + (0xdc00 + low - 0xdc00) =
      character.toNat := by
    rw [Nat.add_sub_cancel_left, Nat.add_sub_cancel_left, hcharacter]
  rw [textOfCodes, if_pos hleading, if_pos htrailing, hcode, Char.ofNat_toNat]

/-- However a character is spelled, its codes are read, and they are those of the character. -/
theorem exists_codes_of_spells (hcharacter : SpellsCharacter character word) :
    ∃ front, (∀ after, codes? (word ++ after) = withCodes front (codes? after)) ∧
      ∀ codes, textOfCodes (front ++ codes) = (textOfCodes codes).map (character :: ·) := by
  cases hcharacter with
  | plain hplain =>
    exact ⟨[character.toNat], fun after ↦ codes?_plain hplain, textOfCodes_toNat character⟩
  | short hescape =>
    exact ⟨[character.toNat], fun after ↦ codes?_short hescape, textOfCodes_toNat character⟩
  | code hcode =>
    exact ⟨[character.toNat], fun after ↦ codes?_spellsCode hcode, textOfCodes_toNat character⟩
  | surrogates hleading htrailing hhigh hlow hnumber =>
    refine ⟨[_, _], fun after ↦ ?_, textOfCodes_surrogates hhigh hlow hnumber⟩
    rw [List.append_assoc, codes?_spellsCode hleading, codes?_spellsCode htrailing,
      withCodes_withCodes]
    rfl

/-- However a text is spelled, it is read up to the quote behind it. -/
theorem codes?_of_spells (htext : SpellsText text word) (after : List Char) :
    ∃ codes, codes? (word ++ '"' :: after) = some (codes, after) ∧
      textOfCodes codes = some text := by
  induction htext with
  | nil => exact ⟨[], by simp [codes?], rfl⟩
  | cons hcharacter _ ih =>
    obtain ⟨front, hread, hmeaning⟩ := exists_codes_of_spells hcharacter
    obtain ⟨codes, hcodes, hrest⟩ := ih
    exact ⟨front ++ codes, by rw [List.append_assoc, hread, hcodes]; rfl,
      by rw [hmeaning, hrest]; rfl⟩

end CardQuery.Json
