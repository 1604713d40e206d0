import CardQuery.Text.Quoted
import CardQuery.Token.Lexer

/-!
Texts whose symbols are known. A text is `Delimited` if its symbols are the same whatever follows
it, and `Spells` its symbols if they are the same in front of everything that does not go on with a
word. Such texts can be put next to each other, so the symbols of a text that is printed piece by
piece are those of the pieces. Words, variables and quoted literals are pieces, and conversely a
word or a variable among the symbols of a text is written in that text as such a piece
(`exists_of_word_mem`, `isVariable_of_mem`).
-/

set_option autoImplicit false
set_option relaxedAutoImplicit false

namespace CardQuery.Lexer

open Text

/-! ### Symbols of a row of characters -/

/-- The symbols of characters, wherever they stand. -/
def symbolsOf (characters : List Char) : List Symbol :=
  (Token.scanFrom 0 characters).map Token.symbol

theorem map_symbol_scanFrom (offset other : Nat) (characters : List Char) :
    (Token.scanFrom offset characters).map Token.symbol =
      (Token.scanFrom other characters).map Token.symbol := by
  fun_induction Token.scanFrom offset characters generalizing other with
  | case1 => rw [Token.scanFrom_nil]
  | case2 offset character rest hblank ih =>
    rw [Token.scanFrom_blank hblank]
    exact ih _
  | case3 offset character rest hblank _ _ ih =>
    rw [Token.scanFrom_lexeme hblank, List.map_cons, List.map_cons]
    exact congrArg _ (ih _)

theorem symbolsOf_nil : symbolsOf [] = [] := by
  rw [symbolsOf, Token.scanFrom_nil, List.map_nil]

theorem symbolsOf_blank {character : Char} (hblank : isBlank character = true)
    (rest : List Char) : symbolsOf (character :: rest) = symbolsOf rest := by
  rw [symbolsOf, Token.scanFrom_blank hblank]
  exact map_symbol_scanFrom _ _ rest

theorem symbolsOf_cons {character : Char} (hblank : isBlank character = false)
    (rest : List Char) :
    symbolsOf (character :: rest) =
      (first character rest).symbol :: symbolsOf (first character rest).rest := by
  rw [symbolsOf, Token.scanFrom_lexeme (Bool.eq_false_iff.mp hblank), List.map_cons]
  exact congrArg _ (map_symbol_scanFrom _ _ _)

theorem symbolsOf_toList (text : String) :
    symbolsOf text.toList = (Token.scan text).map Token.symbol := rfl

/-! ### Delimited texts -/

/-- The text has these symbols, whatever follows it. -/
def Delimited (text : List Char) (word : List Symbol) : Prop :=
  ∀ rest, symbolsOf (text ++ rest) = word ++ symbolsOf rest

/-- Nothing follows, or something that does not go on with a word or a variable. -/
def Detached (rest : List Char) : Prop :=
  ∀ character ∈ rest.head?, continuesWord character = false

instance (rest : List Char) : Decidable (Detached rest) :=
  decidable_of_iff ((rest.head?.all fun character ↦ !continuesWord character) = true)
    (by cases rest <;> simp [Detached])

/-- The text has these symbols if what follows it is detached. -/
def Spells (text : List Char) (word : List Symbol) : Prop :=
  ∀ rest, Detached rest → symbolsOf (text ++ rest) = word ++ symbolsOf rest

variable {text more : List Char} {word others : List Symbol}

theorem detached_nil : Detached [] := by
  simp [Detached]

theorem Delimited.spells (htext : Delimited text word) : Spells text word :=
  fun rest _ ↦ htext rest

theorem Delimited.append (htext : Delimited text word) (hmore : Delimited more others) :
    Delimited (text ++ more) (word ++ others) := by
  intro rest
  rw [List.append_assoc, htext, hmore, List.append_assoc]

theorem Delimited.append_spells (htext : Delimited text word) (hmore : Spells more others) :
    Spells (text ++ more) (word ++ others) := by
  intro rest hrest
  rw [List.append_assoc, htext, hmore rest hrest, List.append_assoc]

/-- What is there and does not go on with a word delimits what stands before it. -/
theorem Spells.append_delimited (htext : Spells text word) (hmore : Delimited more others)
    (hpresent : more ≠ []) (hdetached : Detached more) :
    Delimited (text ++ more) (word ++ others) := by
  intro rest
  have hfollow : Detached (more ++ rest) := by
    cases more with
    | nil => exact absurd rfl hpresent
    | cons character after => exact hdetached
  rw [List.append_assoc, htext _ hfollow, hmore, List.append_assoc]

theorem Spells.symbolsOf_eq (htext : Spells text word) : symbolsOf text = word := by
  have halone := htext [] detached_nil
  simpa [symbolsOf_nil] using halone

/-! ### Single characters -/

theorem delimited_blank {character : Char} (hblank : isBlank character = true) :
    Delimited [character] [] :=
  symbolsOf_blank hblank

theorem delimited_opening : Delimited ['('] [.opening] := by
  intro rest
  rw [List.singleton_append, symbolsOf_cons (by decide)]
  rfl

theorem delimited_closing : Delimited [')'] [.closing] := by
  intro rest
  rw [List.singleton_append, symbolsOf_cons (by decide)]
  rfl

theorem delimited_comma : Delimited [','] [.comma] := by
  intro rest
  rw [List.singleton_append, symbolsOf_cons (by decide)]
  rfl

/-! ### Words and variables -/

theorem continuesWord_of_continuesName {character : Char}
    (hname : continuesName character = true) : continuesWord character = true := by
  simp only [continuesName, Bool.or_eq_true] at hname
  simp only [continuesWord, Bool.or_eq_true]
  rcases hname with halphanumeric | hunderscore
  · exact .inl (.inl halphanumeric)
  · exact .inr hunderscore

/-- A run takes all that continues it, up to a rest that does not. -/
theorem run_append {continues : Char → Bool} {meaning : List Char → Symbol} {start : List Char}
    (hmore : ∀ character ∈ more, continues character = true) {rest : List Char}
    (hrest : ∀ character ∈ rest.head?, continues character = false) :
    run continues meaning start (more ++ rest) =
      ⟨meaning (start ++ more), start ++ more, rest⟩ := by
  have htake : rest.takeWhile continues = [] := by
    cases rest with
    | nil => rfl
    | cons character after => simp [hrest character rfl]
  have hdrop : rest.dropWhile continues = rest := by
    cases rest with
    | nil => rfl
    | cons character after => simp [hrest character rfl]
  simp [run, List.takeWhile_append_of_pos hmore, List.dropWhile_append_of_pos hmore, htake, hdrop]

theorem run_symbol (continues : Char → Bool) (meaning : List Char → Symbol)
    (character : Char) (rest : List Char) :
    (run continues meaning [character] rest).symbol =
      meaning (character :: rest.takeWhile continues) := rfl

theorem isDigit_eq_false_of_isAlphabetic {character : Char}
    (halphabetic : isAlphabetic character = true) : isDigit character = false := by
  refine Bool.eq_false_iff.mpr fun hdigit ↦ ?_
  have hcode : 0x30 ≤ character.toNat ∧ character.toNat ≤ 0x39 := by
    simpa [isDigit, Nat.ble_eq] using hdigit
  have hascii : character.toNat < 0x80 := by omega
  simp only [isAlphabetic, hascii, if_true, isLetter, Bool.or_eq_true, Bool.and_eq_true,
    Nat.ble_eq] at halphabetic
  omega

/-- The characters that are a lexeme, or start one, whatever follows them. -/
def marks : List Char := ['(', ')', ',', '"', '\'', '$']

theorem notMem_marks {holds : Char → Bool} (hmarks : marks.any holds = false) {character : Char}
    (hcharacter : holds character = true) : character ∉ marks :=
  fun hmark ↦ List.any_eq_false.mp hmarks character hmark hcharacter

/-- Any other character starts a numeral or a word, or is illegal. -/
theorem first_of_notMem_marks {character : Char} (hmark : character ∉ marks) (rest : List Char) :
    first character rest =
      if startsNumeral character rest then run isDigit numberSymbol [character] rest
      else if isAlphabetic character then run continuesWord wordSymbol [character] rest
      else ⟨.illegal, [character], rest⟩ := by
  simp only [marks, List.mem_cons, List.not_mem_nil, or_false, not_or] at hmark
  simp [first, hmark]

/-- A letter starts a word. -/
theorem first_of_isAlphabetic {character : Char} (halphabetic : isAlphabetic character = true)
    (rest : List Char) :
    first character rest = run continuesWord wordSymbol [character] rest := by
  have hsign : character ≠ '-' := by
    rintro rfl
    exact absurd halphabetic (by decide)
  have hnumeral : startsNumeral character rest = false := by
    simp [startsNumeral, isDigit_eq_false_of_isAlphabetic halphabetic, hsign]
  rw [first_of_notMem_marks (notMem_marks (by decide) halphabetic), hnumeral,
    if_neg Bool.false_ne_true, if_pos halphabetic]

theorem spells_word {character : Char} (hblank : isBlank character = false)
    (halphabetic : isAlphabetic character = true)
    (hmore : ∀ character ∈ more, continuesWord character = true) :
    Spells (character :: more) [wordSymbol (character :: more)] := by
  intro rest hrest
  rw [List.cons_append, symbolsOf_cons hblank, first_of_isAlphabetic halphabetic,
    run_append hmore hrest]
  simp only [List.cons_append, List.nil_append]

theorem spells_variable (hmore : ∀ character ∈ more, continuesName character = true)
    (hpresent : more ≠ []) :
    Spells ('$' :: more) [.variableName (String.ofList ('$' :: more))] := by
  intro rest hrest
  have hstart : first '$' (more ++ rest) =
      run continuesName variableSymbol ['$'] (more ++ rest) := rfl
  have hname : ∀ character ∈ rest.head?, continuesName character = false := by
    intro character hcharacter
    refine Bool.eq_false_iff.mpr fun hcontinues ↦ ?_
    have hword := continuesWord_of_continuesName hcontinues
    simp [hrest character hcharacter] at hword
  have hlength : ¬ ('$' :: more).length ≤ 1 := by
    have hpositive := List.length_pos_iff.mpr hpresent
    rw [List.length_cons]
    omega
  rw [List.cons_append, symbolsOf_cons (by decide), hstart, run_append hmore hname]
  simp only [variableSymbol, if_neg hlength, List.cons_append, List.nil_append]

/-! ### Quoted literals -/

/-- The body of a literal is closed by the first quote that has no backslash before it. -/
theorem splitLiteral_body (value rest : List Char) :
    splitLiteral '"' (Quoted.body value ++ '"' :: rest) = some (Quoted.body value, rest) := by
  induction value with
  | nil => rfl
  | cons character others ih =>
    have hbody : Quoted.body (character :: others) =
        Quoted.spell character ++ Quoted.body others := rfl
    by_cases hspecial : character = '"' ∨ character = '\\'
    · rw [hbody, Quoted.spell, if_pos hspecial]
      simp [splitLiteral, ih]
    · have hquote : character ≠ '"' := fun heq ↦ hspecial (.inl heq)
      have hbackslash : character ≠ '\\' := fun heq ↦ hspecial (.inr heq)
      rw [hbody, Quoted.spell, if_neg hspecial, List.singleton_append, List.cons_append]
      rw [splitLiteral, if_neg hquote, ih]
      · rfl
      · exact fun _ _ heq _ ↦ hbackslash heq

theorem delimited_quote (value : String) :
    Delimited (Quoted.quote value).toList
      [.quoted (String.ofList (Quoted.body value.toList))] := by
  intro rest
  have htext : (Quoted.quote value).toList ++ rest =
      '"' :: (Quoted.body value.toList ++ '"' :: rest) := by
    simp [Quoted.quote]
  have hfirst : first '"' (Quoted.body value.toList ++ '"' :: rest) =
      literal '"' (Quoted.body value.toList ++ '"' :: rest) := rfl
  rw [htext, symbolsOf_cons (by decide), hfirst, literal, splitLiteral_body]
  rfl

/-! ### Words and variables among the symbols of a text -/

/-- Every symbol is that of a lexeme. -/
theorem exists_of_mem {symbol : Symbol} {offset : Nat} {characters : List Char}
    (hsymbol : symbol ∈ (Token.scanFrom offset characters).map Token.symbol) :
    ∃ character rest, isBlank character = false ∧ symbol = (first character rest).symbol := by
  fun_induction Token.scanFrom offset characters with
  | case1 => simp at hsymbol
  | case2 offset character rest hblank ih => exact ih hsymbol
  | case3 offset character rest hblank _ _ ih =>
    rcases List.mem_cons.mp hsymbol with hfirst | hlater
    · exact ⟨character, rest, Bool.eq_false_iff.mpr hblank, hfirst⟩
    · exact ih hlater

/-- The symbol is neither a word nor a variable. -/
def Nameless (symbol : Symbol) : Prop :=
  ∀ text, symbol ≠ .word text ∧ symbol ≠ .variableName text

theorem nameless_literal (quote : Char) (rest : List Char) :
    Nameless (literal quote rest).symbol := by
  intro text
  unfold literal
  split <;> simp

theorem nameless_numberSymbol (text : List Char) : Nameless (numberSymbol text) := by
  intro name
  by_cases hrange : InRange (Decimal.read text) <;> simp [numberSymbol, hrange]

/-- Only a letter starts a word, and only a dollar sign a variable. -/
theorem first_cases (character : Char) (rest : List Char) :
    isAlphabetic character = true ∨
      character = '$' ∨ Nameless (first character rest).symbol := by
  by_cases halphabetic : isAlphabetic character = true
  · exact .inl halphabetic
  by_cases hdollar : character = '$'
  · exact .inr (.inl hdollar)
  refine .inr (.inr ?_)
  unfold first
  rw [if_neg hdollar, if_neg halphabetic]
  split
  · exact fun text ↦ by simp
  split
  · exact fun text ↦ by simp
  split
  · exact fun text ↦ by simp
  split
  · exact nameless_literal character rest
  split
  · rw [run_symbol]
    exact nameless_numberSymbol _
  · exact fun text ↦ by simp

theorem wordSymbol_ne_variableName (text : List Char) (name : String) :
    wordSymbol text ≠ .variableName name := by
  simp only [wordSymbol]
  repeat' split
  all_goals simp

theorem eq_ofList_of_wordSymbol {text : List Char} {word : String}
    (hword : wordSymbol text = .word word) : word = String.ofList text := by
  simp only [wordSymbol] at hword
  repeat' split at hword
  all_goals first | exact (Symbol.word.inj hword).symm | cases hword

/-- A word among the symbols of a text is a letter and characters that go on with it. -/
theorem exists_of_word_mem {text : String} {characters : List Char}
    (hword : .word text ∈ symbolsOf characters) :
    ∃ character more, text.toList = character :: more ∧ isBlank character = false ∧
      isAlphabetic character = true ∧ (∀ other ∈ more, continuesWord other = true) ∧
      wordSymbol (character :: more) = .word text := by
  obtain ⟨character, rest, hblank, hfirst⟩ := exists_of_mem hword
  rcases first_cases character rest with halphabetic | hdollar | hnameless
  · rw [first_of_isAlphabetic halphabetic, run_symbol] at hfirst
    have htext : text = String.ofList (character :: rest.takeWhile continuesWord) :=
      eq_ofList_of_wordSymbol hfirst.symm
    have hmore : ∀ other ∈ rest.takeWhile continuesWord, continuesWord other = true :=
      List.all_eq_true.mp List.all_takeWhile
    refine ⟨character, rest.takeWhile continuesWord, ?_, hblank, halphabetic, hmore, ?_⟩
    · rw [htext, String.toList_ofList]
    · exact hfirst.symm
  · subst hdollar
    have hname : Symbol.word text = variableSymbol (['$'] ++ rest.takeWhile continuesName) := hfirst
    unfold variableSymbol at hname
    split at hname <;> cases hname
  · exact absurd hfirst.symm (hnameless text).1

/-- The variable is a dollar sign and at least one character that goes on with it. -/
def IsVariable (name : String) : Prop :=
  ∃ more, name = String.ofList ('$' :: more) ∧ more ≠ [] ∧
    ∀ character ∈ more, continuesName character = true

theorem isVariable_of_mem {name : String} {characters : List Char}
    (hname : .variableName name ∈ symbolsOf characters) : IsVariable name := by
  obtain ⟨character, rest, hblank, hfirst⟩ := exists_of_mem hname
  rcases first_cases character rest with halphabetic | hdollar | hnameless
  · rw [first_of_isAlphabetic halphabetic, run_symbol] at hfirst
    exact absurd hfirst.symm (wordSymbol_ne_variableName _ name)
  · subst hdollar
    have hsymbol : Symbol.variableName name =
        variableSymbol (['$'] ++ rest.takeWhile continuesName) := hfirst
    unfold variableSymbol at hsymbol
    split at hsymbol
    · cases hsymbol
    · rename_i hlength
      refine ⟨rest.takeWhile continuesName, Symbol.variableName.inj hsymbol, ?_,
        List.all_eq_true.mp List.all_takeWhile⟩
      intro hempty
      simp [hempty] at hlength
  · exact absurd hfirst.symm (hnameless name).2

theorem IsVariable.spells {name : String} (hname : IsVariable name) :
    Spells name.toList [.variableName name] := by
  obtain ⟨more, rfl, hpresent, hmore⟩ := hname
  rw [String.toList_ofList]
  exact spells_variable hmore hpresent

/-- The name is a word of its own. -/
def IsWord (name : String) : Prop := (Token.scan name).map Token.symbol = [.word name]

/-- A letter and characters that go on with it are a word, unless they are one of the language. -/
theorem isWord_of_symbol {name : String} {character : Char}
    (htext : name.toList = character :: more) (hblank : isBlank character = false)
    (halphabetic : isAlphabetic character = true)
    (hmore : ∀ character ∈ more, continuesWord character = true)
    (hsymbol : wordSymbol name.toList = .word name) : IsWord name := by
  have hspells := (spells_word hblank halphabetic hmore).symbolsOf_eq
  rw [← htext, hsymbol] at hspells
  exact hspells

theorem IsWord.spells {name : String} (hname : IsWord name) : Spells name.toList [.word name] := by
  have hmember : .word name ∈ symbolsOf name.toList := by
    rw [symbolsOf_toList, hname]
    exact List.mem_singleton_self _
  obtain ⟨character, more, htext, hblank, halphabetic, hmore, hword⟩ := exists_of_word_mem hmember
  rw [htext, ← hword]
  exact spells_word hblank halphabetic hmore

/-! ### The words and marks between other texts -/

/-- A word of the language with blanks around it. -/
theorem delimited_between {character : Char} {symbol : Symbol}
    (hblank : isBlank character = false) (halphabetic : isAlphabetic character = true)
    (hmore : more.all continuesWord = true) (hsymbol : wordSymbol (character :: more) = symbol) :
    Delimited (' ' :: character :: (more ++ [' '])) [symbol] := by
  have hgap : Delimited [' '] [] := delimited_blank (by decide)
  have hword : Spells (character :: more) [symbol] :=
    hsymbol ▸ spells_word hblank halphabetic (List.all_eq_true.mp hmore)
  exact hgap.append (hword.append_delimited hgap (by decide) (by decide))

theorem delimited_within : Delimited " in ".toList [.within] := by
  show Delimited (' ' :: 'i' :: (['n'] ++ [' '])) [.within]
  exact delimited_between (by decide) (by decide) (by decide) rfl

theorem delimited_origin : Delimited " FROM ".toList [.origin] := by
  show Delimited (' ' :: 'F' :: (['R', 'O', 'M'] ++ [' '])) [.origin]
  exact delimited_between (by decide) (by decide) (by decide) rfl

theorem delimited_and : Delimited " AND ".toList [.and] := by
  show Delimited (' ' :: 'A' :: (['N', 'D'] ++ [' '])) [.and]
  exact delimited_between (by decide) (by decide) (by decide) rfl

theorem delimited_or : Delimited " OR ".toList [.or] := by
  show Delimited (' ' :: 'O' :: (['R'] ++ [' '])) [.or]
  exact delimited_between (by decide) (by decide) (by decide) rfl

theorem delimited_not : Delimited "NOT ".toList [.not] := by
  have hword : Spells ['N', 'O', 'T'] [.not] :=
    spells_word (by decide) (by decide) (List.all_eq_true.mp (by decide))
  exact hword.append_delimited (delimited_blank (by decide)) (by decide) (by decide)

theorem delimited_separator : Delimited ", ".toList [.comma] :=
  delimited_comma.append (delimited_blank (by decide))

end CardQuery.Lexer
