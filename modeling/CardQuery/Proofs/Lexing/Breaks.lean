import CardQuery.Proofs.Lexing.Spans

/-!
Texts with a blank between them. No lexeme goes on over a blank, but for a literal that has not been
closed yet. So a lexeme is the same in front of a blank as at the end of a text
(`first_append_blank`), and a text is read before a blank as it is read on its own. An unclosed
literal is the one exception: it takes all that follows, up to the end of the text
(`IsUnclosed.stop_eq`), so a text with one in it never keeps its tokens (`scan_append_blank_iff`).
-/

set_option autoImplicit false
set_option relaxedAutoImplicit false

namespace CardQuery

open Text

/-! ### Lexemes in front of a blank -/

/-- The lexeme with more text behind it. -/
def Lexeme.extend (lexeme : Lexeme) (others : List Char) : Lexeme :=
  { lexeme with rest := lexeme.rest ++ others }

namespace Lexer

variable {character blank quote : Char} {rest : List Char}

/-- The code points with the property White_Space. -/
def blankCodes : List Nat :=
  [0x9, 0xa, 0xb, 0xc, 0xd, 0x20, 0x85, 0xa0, 0x1680, 0x2000, 0x2001, 0x2002, 0x2003, 0x2004,
    0x2005, 0x2006, 0x2007, 0x2008, 0x2009, 0x200a, 0x2028, 0x2029, 0x202f, 0x205f, 0x3000]

theorem toNat_mem_blankCodes (hblank : isBlank blank = true) : blank.toNat ∈ blankCodes := by
  simp only [isBlank, Bool.or_eq_true, Bool.and_eq_true, Nat.ble_eq, beq_iff_eq] at hblank
  simp only [blankCodes, List.mem_cons, List.not_mem_nil, or_false]
  omega

/-- No word goes on with a blank. -/
theorem continuesWord_of_isBlank (hblank : isBlank blank = true) :
    continuesWord blank = false := by
  have hcodes : ∀ code ∈ blankCodes, continuesWord (Char.ofNat code) = false := by
    decide +kernel
  simpa only [Char.ofNat_toNat] using hcodes _ (toNat_mem_blankCodes hblank)

theorem continuesName_of_isBlank (hblank : isBlank blank = true) :
    continuesName blank = false := by
  refine Bool.eq_false_iff.mpr fun hname ↦ ?_
  exact absurd (continuesWord_of_continuesName hname)
    (Bool.eq_false_iff.mp (continuesWord_of_isBlank hblank))

theorem isDigit_of_isBlank (hblank : isBlank blank = true) : isDigit blank = false := by
  refine Bool.eq_false_iff.mpr fun hdigit ↦ ?_
  have hname : continuesName blank = true := by
    simp [continuesName, isAlphanumeric_of_isDigit hdigit]
  exact absurd hname (Bool.eq_false_iff.mp (continuesName_of_isBlank hblank))

/-- A run ends at a character that does not go on with it, as it does at the end of a text. -/
theorem run_extend {continues : Char → Bool} (hblank : continues blank = false)
    (meaning : List Char → Symbol) (start rest others : List Char) :
    run continues meaning start (rest ++ blank :: others) =
      (run continues meaning start rest).extend (blank :: others) := by
  have hmore : ∀ other ∈ rest.takeWhile continues, continues other = true :=
    List.all_eq_true.mp List.all_takeWhile
  have hstop : ∀ other ∈ (rest.dropWhile continues ++ blank :: others).head?,
      continues other = false := by
    intro other hother
    cases hrest : rest.dropWhile continues with
    | nil =>
      obtain rfl : blank = other := by simpa [hrest] using hother
      exact hblank
    | cons next after =>
      obtain rfl : next = other := by simpa [hrest] using hother
      have hnext := List.head?_dropWhile_not continues rest
      simpa [hrest] using hnext
  have hrun := @run_append _ continues meaning start hmore _ hstop
  rw [← List.append_assoc, List.takeWhile_append_dropWhile] at hrun
  exact hrun

/-- The character is a quote, and nothing behind it closes the literal that it opens. -/
def Opens (quote : Char) (rest : List Char) : Prop :=
  (quote = '"' ∨ quote = '\'') ∧ splitLiteral quote rest = none

/-- A literal that is closed is read in front of anything as it is on its own. -/
theorem literal_extend (hquote : quote ≠ '\\') (hclosed : splitLiteral quote rest ≠ none)
    (others : List Char) : literal quote (rest ++ others) = (literal quote rest).extend others := by
  obtain ⟨⟨body, after⟩, hsplit⟩ := Option.ne_none_iff_exists'.mp hclosed
  have hagain := splitLiteral_of_eq_some hquote hsplit (after ++ others)
  have hrest : body ++ quote :: (after ++ others) = rest ++ others := by
    rw [← splitLiteral_eq_some hsplit]
    simp
  rw [hrest] at hagain
  simp [literal, hsplit, hagain, Lexeme.extend]

/-- What starts a numeral at the end of a text starts one in front of a blank, and nothing else
does. -/
theorem startsNumeral_append_blank (hblank : isBlank blank = true) (character : Char)
    (rest others : List Char) :
    startsNumeral character (rest ++ blank :: others) = startsNumeral character rest := by
  cases rest with
  | nil => simp [startsNumeral, isDigit_of_isBlank hblank]
  | cons next after => simp [startsNumeral]

/-- The first lexeme of a text is the same in front of a blank, unless it is a literal that is not
closed. -/
theorem first_append_blank (hblank : isBlank blank = true) (hclosed : ¬ Opens character rest)
    (others : List Char) :
    first character (rest ++ blank :: others) =
      (first character rest).extend (blank :: others) := by
  by_cases hmark : character ∈ marks
  · simp only [marks, List.mem_cons, List.not_mem_nil, or_false] at hmark
    rcases hmark with rfl | rfl | rfl | rfl | rfl | rfl
    · rfl
    · rfl
    · rfl
    · exact literal_extend (by decide) (fun hsplit ↦ hclosed ⟨.inl rfl, hsplit⟩) _
    · exact literal_extend (by decide) (fun hsplit ↦ hclosed ⟨.inr rfl, hsplit⟩) _
    · exact run_extend (continuesName_of_isBlank hblank) variableSymbol ['$'] rest others
  rw [first_of_notMem_marks hmark, first_of_notMem_marks hmark,
    startsNumeral_append_blank hblank]
  split
  · exact run_extend (isDigit_of_isBlank hblank) _ _ _ _
  split
  · exact run_extend (continuesWord_of_isBlank hblank) _ _ _ _
  · rfl

/-- An illegal lexeme that begins with a quote is a literal that is not closed. -/
theorem opens_of_illegal (hquote : quote = '"' ∨ quote = '\'')
    (hillegal : (first quote rest).symbol = .illegal) : Opens quote rest := by
  have hfirst : first quote rest = literal quote rest := by
    rcases hquote with rfl | rfl <;> rfl
  refine ⟨hquote, ?_⟩
  cases hsplit : splitLiteral quote rest with
  | none => rfl
  | some parts => simp [hfirst, literal, hsplit] at hillegal

/-- A literal that is not closed takes all the text. -/
theorem Opens.first_eq (hopens : Opens quote rest) :
    first quote rest = ⟨.illegal, quote :: rest, []⟩ := by
  obtain ⟨rfl | rfl, hsplit⟩ := hopens
  all_goals
    change literal _ rest = _
    simp [literal, hsplit]

end Lexer

/-! ### Places in a text -/

/-- A place in a text is known by the bytes before it. -/
theorem Text.append_inj_of_utf8Length {before after other later : List Char}
    (htext : before ++ after = other ++ later) (hlength : utf8Length before = utf8Length other) :
    before = other ∧ after = later := by
  rcases List.append_eq_append_iff.mp htext with ⟨gap, rfl, rfl⟩ | ⟨gap, rfl, rfl⟩
  all_goals
    have hgap : utf8Length gap = 0 := by
      rw [utf8Length_append] at hlength
      omega
    cases gap with
    | nil => simp
    | cons character rest =>
      have hwidth := character.utf8Size_pos
      simp only [utf8Length] at hgap
      omega

namespace Token

open Lexer (first text_append_rest Opens)

variable {offset : Nat} {blank : Char} {characters : List Char} {token : Token}

/-- Every token is the first lexeme of what stands from it on. -/
theorem exists_first_of_mem (htoken : token ∈ scanFrom offset characters) :
    ∃ before character rest, characters = before ++ character :: rest ∧
      token = ⟨(first character rest).symbol, ⟨offset + utf8Length before,
        offset + utf8Length before + utf8Length (first character rest).text⟩⟩ := by
  fun_induction scanFrom offset characters with
  | case1 => simp at htoken
  | case2 offset character rest hblank ih =>
    obtain ⟨before, start, after, rfl, rfl⟩ := ih htoken
    exact ⟨character :: before, start, after, rfl, by simp only [utf8Length, Nat.add_assoc]⟩
  | case3 offset character rest hblank lexeme stop ih =>
    rcases List.mem_cons.mp htoken with rfl | hlater
    · exact ⟨[], character, rest, rfl, rfl⟩
    · obtain ⟨before, start, after, hrest, rfl⟩ := ih hlater
      refine ⟨lexeme.text ++ before, start, after, ?_, ?_⟩
      · rw [← text_append_rest character rest, List.append_assoc, ← hrest]
      · simp only [stop, utf8Length_append, Nat.add_assoc]

/-- A token is known by the place where it starts. -/
theorem eq_first_of_start {before rest : List Char} {character : Char}
    (htoken : token ∈ scanFrom offset (before ++ character :: rest))
    (hstart : token.span.start = offset + utf8Length before) :
    token = ⟨(first character rest).symbol, ⟨offset + utf8Length before,
      offset + utf8Length before + utf8Length (first character rest).text⟩⟩ := by
  obtain ⟨front, head, after, htext, rfl⟩ := exists_first_of_mem htoken
  obtain ⟨rfl, hrest⟩ := append_inj_of_utf8Length htext (Nat.add_left_cancel hstart).symm
  obtain ⟨rfl, rfl⟩ := List.cons_eq_cons.mp hrest
  rfl

/-- A literal that is not closed stands where the token starts. -/
def OpensAt (offset : Nat) (characters : List Char) (token : Token) : Prop :=
  ∃ before quote rest, characters = before ++ quote :: rest ∧ Opens quote rest ∧
    token.span.start = offset + utf8Length before

theorem OpensAt.append {rest : List Char} (front : List Char)
    (hopens : token.OpensAt (offset + utf8Length front) rest) :
    token.OpensAt offset (front ++ rest) := by
  obtain ⟨before, quote, after, rfl, hquote, hstart⟩ := hopens
  refine ⟨front ++ before, quote, after, (List.append_assoc _ _ _).symm, hquote, ?_⟩
  rw [hstart, utf8Length_append, Nat.add_assoc]

/-- Characters in front of a blank are read as they are on their own, if all literals among them are
closed. What follows the blank is read from there on. -/
theorem scanFrom_append_blank (hblank : isBlank blank = true) (others : List Char)
    (hclosed : ∀ token ∈ scanFrom offset characters, ¬ token.OpensAt offset characters) :
    scanFrom offset (characters ++ blank :: others) =
      scanFrom offset characters ++
        scanFrom (offset + utf8Length characters + blank.utf8Size) others := by
  fun_induction scanFrom offset characters with
  | case1 offset => rw [List.nil_append, scanFrom_blank hblank]; rfl
  | case2 offset character rest hspace ih =>
    have hrest := ih fun token htoken hopens ↦
      hclosed token htoken (OpensAt.append [character] hopens)
    rw [List.cons_append, scanFrom_blank hspace, hrest, utf8Length, Nat.add_assoc offset]
  | case3 offset character rest hletter lexeme stop ih =>
    have hopens : ¬ Opens character rest := fun hopens ↦
      hclosed _ List.mem_cons_self ⟨[], character, rest, rfl, hopens, rfl⟩
    have htext : lexeme.text ++ lexeme.rest = character :: rest := text_append_rest character rest
    have hrest := ih fun token htoken hopens ↦ by
      refine hclosed token (List.mem_cons_of_mem _ htoken) ?_
      rw [← htext]
      exact OpensAt.append lexeme.text hopens
    have hlength : stop + utf8Length lexeme.rest = offset + utf8Length (character :: rest) := by
      rw [← htext, utf8Length_append, Nat.add_assoc]
    rw [List.cons_append, scanFrom_lexeme hletter, Lexer.first_append_blank hblank hopens,
      ← hlength]
    exact congrArg _ hrest

/-- Tokens keep their distances wherever the characters begin. -/
theorem scanFrom_add (offset distance : Nat) (characters : List Char) :
    scanFrom (offset + distance) characters =
      (scanFrom offset characters).map (·.shift distance) := by
  fun_induction scanFrom offset characters with
  | case1 => rw [scanFrom_nil, List.map_nil]
  | case2 offset character rest hblank ih =>
    rw [scanFrom_blank hblank, ← ih, Nat.add_right_comm]
  | case3 offset character rest hblank lexeme stop ih =>
    have hstop : offset + distance + utf8Length lexeme.text = stop + distance :=
      Nat.add_right_comm _ _ _
    rw [scanFrom_lexeme hblank, List.map_cons, ← ih, hstop]
    rfl

/-! ### Texts -/

variable {text : String}

/-- The token is illegal and starts at a quote, as a literal does that is never closed. -/
def IsUnclosed (text : String) (token : Token) : Prop :=
  token.symbol = .illegal ∧ ∃ before quote after, text = before ++ String.singleton quote ++ after ∧
    (quote = '"' ∨ quote = '\'') ∧ token.span.start = before.utf8ByteSize

theorem isUnclosed_iff (htoken : token ∈ scan text) :
    token.IsUnclosed text ↔ token.OpensAt 0 text.toList := by
  constructor
  · rintro ⟨hillegal, before, quote, after, rfl, hquote, hstart⟩
    have hcharacters : (before ++ String.singleton quote ++ after).toList =
        before.toList ++ quote :: after.toList := by
      simp
    have hplace : token.span.start = 0 + utf8Length before.toList := by
      rw [hstart, utf8Length_toList, Nat.zero_add]
    rw [scan, hcharacters] at htoken
    have hfirst := congrArg Token.symbol (eq_first_of_start htoken hplace)
    exact ⟨before.toList, quote, after.toList, hcharacters,
      Lexer.opens_of_illegal hquote (hfirst.symm.trans hillegal), hplace⟩
  · rintro ⟨before, quote, rest, hcharacters, hopens, hstart⟩
    rw [scan, hcharacters] at htoken
    have hfirst := eq_first_of_start htoken hstart
    refine ⟨?_, String.ofList before, quote, String.ofList rest, ?_, hopens.1, ?_⟩
    · rw [hfirst, hopens.first_eq]
    · rw [← String.toList_inj, hcharacters]
      simp
    · rw [hstart, Nat.zero_add, utf8Length_eq]

/-- A literal that is never closed ends where the text does. -/
theorem IsUnclosed.stop_eq (htoken : token ∈ scan text) (hunclosed : token.IsUnclosed text) :
    token.span.stop = text.utf8ByteSize := by
  obtain ⟨before, quote, rest, hcharacters, hopens, hstart⟩ := (isUnclosed_iff htoken).mp hunclosed
  rw [scan, hcharacters] at htoken
  rw [eq_first_of_start htoken hstart, hopens.first_eq, ← utf8Length_toList, hcharacters,
    utf8Length_append, Nat.zero_add]

/-- An unclosed literal of a text that has more text behind it is no token of the whole. -/
theorem IsUnclosed.notMem_scan_append (htoken : token ∈ scan text)
    (hunclosed : token.IsUnclosed text) {more : String} (hmore : more ≠ "") :
    token ∉ scan (text ++ more) := by
  intro hwhole
  have hagain : token.IsUnclosed (text ++ more) := by
    obtain ⟨hillegal, before, quote, after, rfl, hquote, hstart⟩ := hunclosed
    refine ⟨hillegal, before, quote, after ++ more, ?_, hquote, hstart⟩
    rw [String.append_assoc]
  have hstop := (hagain.stop_eq hwhole).symm.trans (hunclosed.stop_eq htoken)
  have hlength : more.utf8ByteSize ≠ 0 := by simpa using hmore
  rw [String.utf8ByteSize_append] at hstop
  omega

/-- A text with a blank and more text behind it has its own tokens, followed by those of the other
text, exactly if all its literals are closed. -/
theorem scan_append_blank_iff (first second : String) {blank : Char}
    (hblank : isBlank blank = true) :
    (∀ token ∈ scan first, ¬ token.IsUnclosed first) ↔
      scan (first ++ String.singleton blank ++ second) =
        scan first ++ (scan second).map (·.shift (first.utf8ByteSize + blank.utf8Size)) := by
  constructor
  · intro hclosed
    have hcharacters : (first ++ String.singleton blank ++ second).toList =
        first.toList ++ blank :: second.toList := by
      simp
    have hscan := @scanFrom_append_blank 0 _ _ hblank second.toList fun token htoken hopens ↦
      hclosed token htoken ((isUnclosed_iff htoken).mpr hopens)
    rw [Nat.zero_add, utf8Length_toList, ← Nat.zero_add (first.utf8ByteSize + _),
      scanFrom_add] at hscan
    rw [scan, hcharacters, hscan]
    rfl
  · intro hscan token htoken hunclosed
    have hwhole : token ∈ scan (first ++ (String.singleton blank ++ second)) := by
      rw [← String.append_assoc, hscan]
      exact List.mem_append_left _ htoken
    exact hunclosed.notMem_scan_append htoken (by simp) hwhole

/-- An ideographic space, of three bytes, keeps a literal and a word apart. -/
theorem scan_append_blank_ideographicSpace :
    isBlank '\u3000' = true ∧
      (∀ token ∈ scan "Clan in \"é\"", ¬ token.IsUnclosed "Clan in \"é\"") ∧
      scan ("Clan in \"é\"" ++ String.singleton '\u3000' ++ "FROM -1") =
        scan "Clan in \"é\"" ++ (scan "FROM -1").map (·.shift 15) := by
  have hblank : isBlank '\u3000' = true := by decide
  have hlegal : ∀ token ∈ scan "Clan in \"é\"", token.symbol ≠ .illegal := by decide +kernel
  have hclosed : ∀ token ∈ scan "Clan in \"é\"", ¬ token.IsUnclosed "Clan in \"é\"" :=
    fun token htoken hunclosed ↦ hlegal token htoken hunclosed.1
  have hscan := (scan_append_blank_iff "Clan in \"é\"" "FROM -1" hblank).mp hclosed
  exact ⟨hblank, hclosed, hscan⟩

end Token

end CardQuery
