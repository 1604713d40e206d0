import CardQuery.Proofs.Lexing.Spelling

/-!
Tokens tile a text. Each token covers a slice of the text that is not empty and begins and ends
between characters (`exists_covers`), no token begins before the one in front of it ends
(`pairwise_scanFrom`), and a character that no token covers is blank (`isBlank_or_covers`). The
slice says all there is to say about its token: on its own it is read as that token again, since
which lexeme a character starts, and how far it goes, is up to the characters of that lexeme
(`standalone_first`).
-/

set_option autoImplicit false
set_option relaxedAutoImplicit false

namespace CardQuery

open Text

/-! ### Bytes -/

/-- Characters take up as many bytes as the text that they make up. -/
theorem Text.utf8Length_eq (characters : List Char) :
    utf8Length characters = (String.ofList characters).utf8ByteSize := by
  induction characters with
  | nil => rfl
  | cons character rest ih =>
    rw [String.ofList_cons, String.utf8ByteSize_append, String.utf8ByteSize_singleton, ← ih]
    rfl

theorem Text.utf8Length_toList (text : String) : utf8Length text.toList = text.utf8ByteSize := by
  rw [utf8Length_eq, String.ofList_toList]

/-! ### Lexemes on their own -/

namespace Lexer

variable {character : Char} {rest : List Char}

/-- A lexeme that begins with a character is read in the same way without what is behind it. -/
def Standalone (read : List Char → Lexeme) (character : Char) (rest : List Char) : Prop :=
  ∃ more, (read rest).text = character :: more ∧
    read more = ⟨(read rest).symbol, character :: more, []⟩

theorem standalone_run (continues : Char → Bool) (meaning : List Char → Symbol) (character : Char)
    (rest : List Char) : Standalone (run continues meaning [character]) character rest := by
  have hall : ∀ other ∈ rest.takeWhile continues, continues other = true :=
    List.all_eq_true.mp List.all_takeWhile
  have hagain := @run_append _ continues meaning [character] hall [] (by simp)
  rw [List.append_nil] at hagain
  exact ⟨rest.takeWhile continues, rfl, hagain⟩

/-- The body of a literal ends at its closing quote, whatever stood behind that. -/
theorem splitLiteral_of_eq_some {quote : Char} (hquote : quote ≠ '\\')
    {characters body after : List Char}
    (hsplit : splitLiteral quote characters = some (body, after)) (others : List Char) :
    splitLiteral quote (body ++ quote :: others) = some (body, others) := by
  fun_induction splitLiteral quote characters generalizing body after with
  | case1 => simp at hsplit
  | case2 character rest ih =>
    obtain ⟨inner, hinner, rfl⟩ := map_eq_some_split ('\\' :: character :: ·) hsplit
    simp [splitLiteral, ih hinner]
  | case3 rest _ =>
    simp only [Option.some.injEq, Prod.mk.injEq] at hsplit
    obtain ⟨rfl, rfl⟩ := hsplit
    rw [List.nil_append, splitLiteral, if_pos rfl]
    exact fun _ _ heq _ ↦ hquote heq
  | case4 character rest hother hcharacter ih =>
    obtain ⟨inner, hinner, rfl⟩ := map_eq_some_split (character :: ·) hsplit
    have hbackslash : character ≠ '\\' := by
      rintro rfl
      cases rest with
      | nil => simp [splitLiteral] at hinner
      | cons next rest => exact hother next rest rfl rfl
    rw [List.cons_append, splitLiteral, if_neg hcharacter, ih hinner]
    · rfl
    · exact fun _ _ heq _ ↦ hbackslash heq

theorem standalone_literal {quote : Char} (hquote : quote ≠ '\\') (rest : List Char) :
    Standalone (literal quote) quote rest := by
  cases hsplit : splitLiteral quote rest with
  | none => exact ⟨rest, by simp [literal, hsplit], by simp [literal, hsplit]⟩
  | some parts =>
    obtain ⟨body, after⟩ := parts
    have hagain := splitLiteral_of_eq_some hquote hsplit []
    exact ⟨body ++ [quote], by simp [literal, hsplit], by simp [literal, hsplit, hagain]⟩

/-- A digit, or a sign in front of a digit, starts a numeral. -/
theorem first_of_startsNumeral (hmark : character ∉ marks)
    (hnumeral : startsNumeral character rest = true) :
    first character rest = run isDigit numberSymbol [character] rest := by
  rw [first_of_notMem_marks hmark, if_pos hnumeral]

/-- A numeral starts with the digits that belong to it. -/
theorem startsNumeral_takeWhile (hnumeral : startsNumeral character rest = true) :
    startsNumeral character (rest.takeWhile isDigit) = true := by
  simp only [startsNumeral, Bool.or_eq_true, Bool.and_eq_true] at hnumeral ⊢
  refine hnumeral.imp_right ?_
  rintro ⟨hsign, hdigit⟩
  refine ⟨hsign, ?_⟩
  cases rest with
  | nil => simp at hdigit
  | cons next after =>
    have hnext : isDigit next = true := by simpa using hdigit
    simp [hnext]

/-- The first lexeme of a text depends on nothing behind it. Which lexeme a character starts is up
to the character alone, but for a sign, which looks at the character after it. -/
theorem standalone_first (character : Char) (rest : List Char) :
    Standalone (first character) character rest := by
  by_cases hmark : character ∈ marks
  · simp only [marks, List.mem_cons, List.not_mem_nil, or_false] at hmark
    rcases hmark with rfl | rfl | rfl | rfl | rfl | rfl
    · exact ⟨[], rfl, rfl⟩
    · exact ⟨[], rfl, rfl⟩
    · exact ⟨[], rfl, rfl⟩
    · exact standalone_literal (by decide) rest
    · exact standalone_literal (by decide) rest
    · exact standalone_run continuesName variableSymbol '$' rest
  by_cases hnumeral : startsNumeral character rest = true
  · obtain ⟨more, htext, hagain⟩ := standalone_run isDigit numberSymbol character rest
    obtain rfl : rest.takeWhile isDigit = more := List.tail_eq_of_cons_eq htext
    rw [← first_of_startsNumeral hmark (startsNumeral_takeWhile hnumeral),
      ← first_of_startsNumeral hmark hnumeral] at hagain
    rw [← first_of_startsNumeral hmark hnumeral] at htext
    exact ⟨_, htext, hagain⟩
  by_cases halphabetic : isAlphabetic character = true
  · have hfirst : first character = run continuesWord wordSymbol [character] :=
      funext (first_of_isAlphabetic halphabetic)
    rw [hfirst]
    exact standalone_run continuesWord wordSymbol character rest
  have halone : startsNumeral character [] = false := by
    simp only [startsNumeral, Bool.or_eq_true, not_or, Bool.not_eq_true] at hnumeral
    simp [startsNumeral, hnumeral.1]
  have hillegal : ∀ others, ¬ startsNumeral character others = true →
      first character others = ⟨.illegal, [character], others⟩ := by
    intro others hothers
    rw [first_of_notMem_marks hmark, if_neg hothers, if_neg halphabetic]
  refine ⟨[], by rw [hillegal rest hnumeral], ?_⟩
  rw [hillegal rest hnumeral, hillegal [] (Bool.eq_false_iff.mp halone)]

end Lexer

/-! ### Tokens of a text -/

/-- The span begins and ends between characters of the text, and the slice is what is between. -/
def Span.Covers (span : Span) (text slice : String) : Prop :=
  ∃ before after, text = before ++ slice ++ after ∧
    span = ⟨before.utf8ByteSize, (before ++ slice).utf8ByteSize⟩

namespace Token

/-- Tokens tile a text. Each of them covers a slice that is not empty and is read as that token on
its own, none begins before the one in front of it ends, and what they leave uncovered is blank. -/
structure Tile (tokens : List Token) (text : String) : Prop where
  cover : ∀ token ∈ tokens, ∃ slice, token.span.Covers text slice ∧ slice ≠ "" ∧
    (scan slice).map (·.shift token.span.start) = [token]
  apart : tokens.Pairwise fun earlier later ↦ earlier.span.stop ≤ later.span.start
  blank : ∀ before other after, text = before ++ String.singleton other ++ after →
    isBlank other = true ∨ ∃ token ∈ tokens,
      token.span.start ≤ before.utf8ByteSize ∧ before.utf8ByteSize < token.span.stop

open Lexer (first text_append_rest standalone_first)

variable {offset : Nat} {character : Char} {rest characters : List Char} {token : Token}

/-- The characters of a lexeme are read as one token. -/
theorem scanFrom_text (hblank : ¬ isBlank character = true) (rest : List Char) :
    scanFrom 0 (first character rest).text =
      [⟨(first character rest).symbol, ⟨0, utf8Length (first character rest).text⟩⟩] := by
  obtain ⟨more, htext, hagain⟩ := standalone_first character rest
  rw [htext, scanFrom_lexeme hblank, hagain, scanFrom_nil, Nat.zero_add]

/-- A token covers a slice that is read as that token. -/
theorem exists_slice_of_mem (htoken : token ∈ scanFrom offset characters) :
    ∃ before slice after, characters = before ++ slice ++ after ∧ slice ≠ [] ∧
      token.span = ⟨offset + utf8Length before, offset + utf8Length (before ++ slice)⟩ ∧
      scanFrom 0 slice = [⟨token.symbol, ⟨0, utf8Length slice⟩⟩] := by
  fun_induction scanFrom offset characters with
  | case1 => simp at htoken
  | case2 offset character rest hblank ih =>
    obtain ⟨before, slice, after, rfl, hpresent, hspan, hslice⟩ := ih htoken
    refine ⟨character :: before, slice, after, rfl, hpresent, ?_, hslice⟩
    simp only [hspan, List.cons_append, utf8Length, Nat.add_assoc]
  | case3 offset character rest hblank lexeme stop ih =>
    have htext := text_append_rest character rest
    rcases List.mem_cons.mp htoken with rfl | hlater
    · refine ⟨[], lexeme.text, lexeme.rest, ?_, Lexer.text_ne_nil character rest, rfl,
        scanFrom_text hblank rest⟩
      rw [List.nil_append, htext]
    · obtain ⟨before, slice, after, hrest, hpresent, hspan, hslice⟩ := ih hlater
      refine ⟨lexeme.text ++ before, slice, after, ?_, hpresent, ?_, hslice⟩
      · rw [← htext, hrest]
        simp only [lexeme, List.append_assoc]
      · simp only [hspan, stop, List.append_assoc, utf8Length_append, Nat.add_assoc]

theorem le_start_of_mem (htoken : token ∈ scanFrom offset characters) :
    offset ≤ token.span.start := by
  obtain ⟨before, slice, after, -, -, hspan, -⟩ := exists_slice_of_mem htoken
  rw [hspan]
  exact Nat.le_add_right _ _

/-- A token ends before the next one begins. -/
theorem pairwise_scanFrom (offset : Nat) (characters : List Char) :
    (scanFrom offset characters).Pairwise
      (fun earlier later ↦ earlier.span.stop ≤ later.span.start) := by
  fun_induction scanFrom offset characters with
  | case1 => exact .nil
  | case2 offset character rest hblank ih => exact ih
  | case3 offset character rest hblank _ _ ih =>
    exact List.pairwise_cons.mpr ⟨fun later hlater ↦ le_start_of_mem hlater, ih⟩

/-- A character is blank unless a token covers it. -/
theorem isBlank_or_covered {before after : List Char} {other : Char}
    (hcharacters : characters = before ++ other :: after) :
    isBlank other = true ∨ ∃ token ∈ scanFrom offset characters,
      token.span.start ≤ offset + utf8Length before ∧
        offset + utf8Length before < token.span.stop := by
  fun_induction scanFrom offset characters generalizing before with
  | case1 => simp at hcharacters
  | case2 offset character rest hblank ih =>
    cases before with
    | nil =>
      obtain ⟨rfl, -⟩ := List.cons_eq_cons.mp hcharacters
      exact .inl hblank
    | cons head before =>
      obtain ⟨rfl, hrest⟩ := List.cons_eq_cons.mp hcharacters
      refine (ih hrest).imp_right ?_
      rintro ⟨token, htoken, hcovers⟩
      refine ⟨token, htoken, ?_⟩
      simpa only [utf8Length, Nat.add_assoc] using hcovers
  | case3 offset character rest hblank lexeme stop =>
    rename_i ih
    have hbehind : ∀ gap, before = lexeme.text ++ gap → lexeme.rest = gap ++ other :: after →
        isBlank other = true ∨
          ∃ token ∈ ⟨lexeme.symbol, ⟨offset, stop⟩⟩ :: scanFrom stop lexeme.rest,
            token.span.start ≤ offset + utf8Length before ∧
              offset + utf8Length before < token.span.stop := by
      rintro gap rfl hrest
      refine (ih hrest).imp_right ?_
      rintro ⟨token, htoken, hcovers⟩
      refine ⟨token, List.mem_cons_of_mem _ htoken, ?_⟩
      simpa only [stop, utf8Length_append, Nat.add_assoc] using hcovers
    have htext : before ++ other :: after = lexeme.text ++ lexeme.rest := by
      rw [← hcharacters, text_append_rest]
    rcases List.append_eq_append_iff.mp htext with ⟨inside, hlexeme, hinside⟩ | ⟨gap, hgap, hrest⟩
    · cases inside with
      | nil => exact hbehind [] (by simpa using hlexeme.symm) (by simpa using hinside.symm)
      | cons head inside =>
        obtain ⟨rfl, -⟩ := List.cons_eq_cons.mp hinside
        refine .inr ⟨_, List.mem_cons_self, Nat.le_add_right _ _, ?_⟩
        have hwidth := other.utf8Size_pos
        simp only [stop, hlexeme, utf8Length_append, utf8Length]
        omega
    · exact hbehind gap hgap hrest

/-! ### Slices of a text -/

variable {text : String}

/-- A token covers a slice of the text that is not empty, and the slice on its own is read as that
token alone. -/
theorem exists_covers (htoken : token ∈ scan text) :
    ∃ slice, token.span.Covers text slice ∧ slice ≠ "" ∧
      (scan slice).map (·.shift token.span.start) = [token] := by
  obtain ⟨before, slice, after, htext, hpresent, hspan, hslice⟩ := exists_slice_of_mem htoken
  rw [Nat.zero_add, Nat.zero_add, utf8Length_eq, utf8Length_eq, String.ofList_append] at hspan
  refine ⟨String.ofList slice, ⟨String.ofList before, String.ofList after, ?_, hspan⟩, ?_, ?_⟩
  · rw [← String.ofList_append, ← String.ofList_append, ← htext, String.ofList_toList]
  · simpa using hpresent
  · have hstop : token.span.stop = utf8Length slice + token.span.start := by
      rw [hspan, String.utf8ByteSize_append, utf8Length_eq]
      exact Nat.add_comm _ _
    rw [scan, String.toList_ofList, hslice, List.map_singleton, shift, Span.shift, Nat.zero_add,
      ← hstop]

/-- A character of the text is blank unless a token covers it. -/
theorem isBlank_or_covers (before : String) (other : Char) (after : String)
    (htext : text = before ++ String.singleton other ++ after) :
    isBlank other = true ∨ ∃ token ∈ scan text,
      token.span.start ≤ before.utf8ByteSize ∧ before.utf8ByteSize < token.span.stop := by
  have hcharacters : text.toList = before.toList ++ other :: after.toList := by
    rw [htext]
    simp
  have hcovered := @isBlank_or_covered 0 _ _ _ _ hcharacters
  rwa [Nat.zero_add, utf8Length_toList] at hcovered

end Token

end CardQuery
