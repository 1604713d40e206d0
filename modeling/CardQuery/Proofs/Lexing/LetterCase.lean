import CardQuery.Proofs.Lexing.Spelling

/-!
Words in capital and in small letters. A class of characters that all letters of ASCII are in, or
none of them, does not tell a capital from its small letter (`class_toLower`), and neither do the
words of the language. So what differs from a word in the case of its letters only is a word of its
own as well (`isWord_of_foldCase`).
-/

set_option autoImplicit false
set_option relaxedAutoImplicit false

namespace CardQuery.Lexer

open Text

/-! ### Capitals and small letters -/

/-- The small letters of ASCII stand as far behind one another as the capitals. -/
theorem toNat_toLower (character : Char) :
    character.toLower.toNat =
      if 0x41 ≤ character.toNat ∧ character.toNat ≤ 0x5a then character.toNat + 0x20
      else character.toNat := by
  unfold Char.toLower
  split
  · rename_i hcapital
    have hlow : 0x41 ≤ character.toNat := hcapital.1
    have hhigh : character.toNat ≤ 0x5a := hcapital.2
    rw [if_pos ⟨hlow, hhigh⟩]
    change (character.val + 32).toNat = character.toNat + 0x20
    rw [UInt32.toNat_add]
    exact Nat.mod_eq_of_lt (by change character.toNat + 32 < 2 ^ 32; omega)
  · rename_i hother
    exact (if_neg fun hcapital ↦ hother hcapital).symm

/-- A character is its own small letter, unless it is a capital of ASCII. -/
theorem toLower_cases (character : Char) :
    character.toLower = character ∨
      isLetter character = true ∧ isLetter character.toLower = true := by
  have hplace := toNat_toLower character
  split at hplace
  · refine .inr ?_
    simp only [isLetter, hplace, Bool.or_eq_true, Bool.and_eq_true, Nat.ble_eq]
    omega
  · exact .inl (Char.toNat_inj.mp hplace)

/-- A class does not tell a capital from its small letter, if it does not tell letters apart. -/
theorem class_toLower {property : Char → Bool} {value : Bool}
    (hletters : ∀ character, isLetter character = true → property character = value)
    (character : Char) : property character.toLower = property character := by
  rcases toLower_cases character with hsame | ⟨hcapital, hsmall⟩
  · rw [hsame]
  · rw [hletters _ hcapital, hletters _ hsmall]

theorem toNat_lt_of_isLetter {character : Char} (hletter : isLetter character = true) :
    character.toNat < 0x80 := by
  simp only [isLetter, Bool.or_eq_true, Bool.and_eq_true, Nat.ble_eq] at hletter
  omega

theorem isAlphabetic_of_isLetter {character : Char} (hletter : isLetter character = true) :
    isAlphabetic character = true := by
  rw [isAlphabetic, if_pos (toNat_lt_of_isLetter hletter), hletter]

theorem isBlank_of_isLetter {character : Char} (hletter : isLetter character = true) :
    isBlank character = false := by
  simp only [isLetter, Bool.or_eq_true, Bool.and_eq_true, Nat.ble_eq] at hletter
  rw [← Bool.not_eq_true]
  simp only [isBlank, Bool.or_eq_true, Bool.and_eq_true, Nat.ble_eq, beq_iff_eq]
  omega

theorem continuesWord_of_isLetter {character : Char} (hletter : isLetter character = true) :
    continuesWord character = true := by
  have halphanumeric := isAlphanumeric_of_isAlphabetic (isAlphabetic_of_isLetter hletter)
  simp [continuesWord, halphanumeric]

/-! ### Words -/

/-- What differs from a character of a class in case only is in the class too. -/
theorem class_of_toLower {property : Char → Bool} {value : Bool}
    (hletters : ∀ character, isLetter character = true → property character = value)
    {first second : Char} (hsame : first.toLower = second.toLower) :
    property first = property second := by
  rw [← class_toLower hletters first, hsame, class_toLower hletters second]

/-- A text is a word of its own, unless it is one of the language in some case. -/
theorem wordSymbol_toList_iff {word : String} :
    wordSymbol word.toList = .word word ↔
      foldCase word ∉ ["and", "or", "not", "in", "from"] := by
  simp only [wordSymbol, String.ofList_toList]
  repeat' split
  all_goals simp_all

/-- What differs from a word only in the case of its letters is a word of its own. -/
theorem isWord_of_foldCase {name word : String} {characters : List Char}
    (hword : .word word ∈ symbolsOf characters) (hsame : foldCase name = foldCase word) :
    IsWord name := by
  obtain ⟨character, more, htext, hblank, halphabetic, hmore, hsymbol⟩ := exists_of_word_mem hword
  have hletters : name.toList.map Char.toLower = (character :: more).map Char.toLower := by
    rw [← htext]
    exact String.ofList_injective hsame
  rw [List.map_cons, List.map_eq_cons_iff] at hletters
  obtain ⟨first, others, hname, hfirst, hothers⟩ := hletters
  refine isWord_of_symbol hname ?_ ?_ ?_ ?_
  · rw [class_of_toLower (fun _ ↦ isBlank_of_isLetter) hfirst, hblank]
  · rw [class_of_toLower (fun _ ↦ isAlphabetic_of_isLetter) hfirst, halphabetic]
  · intro other hother
    have hmember := List.mem_map_of_mem (f := Char.toLower) hother
    rw [hothers] at hmember
    obtain ⟨origin, horigin, heq⟩ := List.mem_map.mp hmember
    rw [class_of_toLower (fun _ ↦ continuesWord_of_isLetter) heq.symm, hmore origin horigin]
  · rw [← htext, wordSymbol_toList_iff] at hsymbol
    rw [wordSymbol_toList_iff, hsame]
    exact hsymbol

end CardQuery.Lexer
