import CardQuery.Proofs.Lexing.Breaks

/-!
Literals and their backslashes. A character is escaped if it stands behind an odd number of
backslashes (`Escapes`). In the body of a literal every quote of its own kind is escaped and the end
is not, and a quote that starts a token opens a literal unless all quotes of its kind behind it are
escaped (`splitLiteral_eq_none_iff`). So the backslashes of a body come in pairs with what they
escape, and reading the body drops one character of each pair and nothing else
(`unescapes_read`). What has been read can be written again, and is then read as before
(`literals_of_scan`).
-/

set_option autoImplicit false
set_option relaxedAutoImplicit false

namespace CardQuery

open Text

/-! ### Backslashes -/

namespace Text.Quoted

variable {character quote : Char} {text body : List Char}

def finalBackslashes (text : List Char) : Nat := (text.reverse.takeWhile (· == '\\')).length

/-- An odd number of backslashes stands at the end, so a character behind the text is escaped. -/
def Escapes (text : List Char) : Prop := finalBackslashes text % 2 = 1

/-- Every quote in the text is escaped. -/
def AllEscaped (quote : Char) (text : List Char) : Prop :=
  ∀ front back, text = front ++ quote :: back → Escapes front

/-- The quote ends the literal behind the body and nowhere in it. -/
structure IsBody (quote : Char) (body : List Char) : Prop where
  escaped : AllEscaped quote body
  closed : ¬ Escapes body

/-- Of each backslash and the character behind it the character is left, and all else is kept. -/
inductive Unescapes : List Char → List Char → Prop
  | nil : Unescapes [] []
  | plain {character : Char} {raw value : List Char} (hplain : character ≠ '\\')
      (hrest : Unescapes raw value) : Unescapes (character :: raw) (character :: value)
  | pair {character : Char} {raw value : List Char} (hrest : Unescapes raw value) :
      Unescapes ('\\' :: character :: raw) (character :: value)

theorem finalBackslashes_append_cons (hcharacter : character ≠ '\\') (front text : List Char) :
    finalBackslashes (front ++ character :: text) = finalBackslashes text := by
  have hstop : (character :: front.reverse).takeWhile (· == '\\') = [] :=
    List.takeWhile_cons_of_neg (by simpa using hcharacter)
  have hreverse : (front ++ character :: text).reverse =
      text.reverse ++ character :: front.reverse := by simp
  rw [finalBackslashes, hreverse, List.takeWhile_append, hstop, List.append_nil]
  split
  · rename_i hall
    rw [finalBackslashes, hall]
  · rfl

theorem finalBackslashes_pair (text : List Char) :
    finalBackslashes ('\\' :: '\\' :: text) % 2 = finalBackslashes text % 2 := by
  have hreverse : ('\\' :: '\\' :: text).reverse = text.reverse ++ ['\\', '\\'] := by simp
  rw [finalBackslashes, hreverse, List.takeWhile_append, finalBackslashes]
  split
  · rename_i hall
    rw [hall, List.length_append]
    exact Nat.add_mod_right _ 2
  · rfl

/-- A character that is no backslash has no influence on what is escaped behind it. -/
theorem escapes_cons (hcharacter : character ≠ '\\') :
    Escapes (character :: text) ↔ Escapes text := by
  rw [Escapes, ← List.nil_append (character :: text), finalBackslashes_append_cons hcharacter]
  rfl

/-- Neither has a backslash together with the character that it escapes. -/
theorem escapes_pair : Escapes ('\\' :: character :: text) ↔ Escapes text := by
  by_cases hcharacter : character = '\\'
  · rw [hcharacter, Escapes, finalBackslashes_pair]
    rfl
  · rw [Escapes, ← List.singleton_append, finalBackslashes_append_cons hcharacter]
    rfl

theorem not_escapes_nil : ¬ Escapes [] := by
  simp [Escapes, finalBackslashes]

theorem escapes_backslash : Escapes ['\\'] := rfl

/-- A body whose end is not escaped is made of pairs and of characters that stand for themselves. -/
theorem unescapes_read (hclosed : ¬ Escapes body) : Unescapes body (read body) := by
  fun_induction read body with
  | case1 character rest ih => exact .pair (ih ((not_congr escapes_pair).mp hclosed))
  | case2 => exact absurd escapes_backslash hclosed
  | case3 character rest hpair hlast ih =>
    have hplain : character ≠ '\\' := by
      rintro rfl
      cases rest with
      | nil => exact hlast rfl rfl
      | cons next rest => exact hpair next rest rfl rfl
    exact .plain hplain (ih ((not_congr (escapes_cons hplain)).mp hclosed))
  | case4 => exact .nil

/-! ### Where every quote is escaped -/

theorem allEscaped_of_notMem (hquote : quote ∉ text) : AllEscaped quote text := by
  rintro front back rfl
  simp at hquote

theorem allEscaped_cons (hquote : character ≠ quote) (hcharacter : character ≠ '\\') :
    AllEscaped quote (character :: text) ↔ AllEscaped quote text := by
  constructor
  · rintro hall front back rfl
    exact (escapes_cons hcharacter).mp (hall (character :: front) back rfl)
  · intro hall front back htext
    cases front with
    | nil => exact absurd (List.cons_eq_cons.mp htext).1 hquote
    | cons head front =>
      obtain ⟨rfl, rfl⟩ := List.cons_eq_cons.mp htext
      exact (escapes_cons hcharacter).mpr (hall front back rfl)

theorem allEscaped_pair (hquote : quote ≠ '\\') :
    AllEscaped quote ('\\' :: character :: text) ↔ AllEscaped quote text := by
  constructor
  · rintro hall front back rfl
    exact escapes_pair.mp (hall ('\\' :: character :: front) back rfl)
  · intro hall front back htext
    match front with
    | [] => exact absurd (List.cons_eq_cons.mp htext).1.symm hquote
    | [head] =>
      obtain ⟨rfl, -⟩ := List.cons_eq_cons.mp htext
      exact escapes_backslash
    | head :: next :: front =>
      obtain ⟨rfl, hrest⟩ := List.cons_eq_cons.mp htext
      obtain ⟨rfl, rfl⟩ := List.cons_eq_cons.mp hrest
      exact escapes_pair.mpr (hall front back rfl)

end Text.Quoted

namespace Lexer

open Quoted (AllEscaped Escapes IsBody)

variable {quote character : Char} {characters rest body after : List Char}

/-- A character that the search for the closing quote passes over on its own is no backslash. -/
theorem ne_backslash_of_splitLiteral {split : List Char × List Char}
    (hpair : ∀ next others, character = '\\' → rest = next :: others → False)
    (hinner : splitLiteral quote rest = some split) : character ≠ '\\' := by
  rintro rfl
  cases rest with
  | nil => simp [splitLiteral] at hinner
  | cons next others => exact hpair next others rfl rfl

/-- What stands before the closing quote is the body. -/
theorem isBody_of_splitLiteral (hquote : quote ≠ '\\')
    (hsplit : splitLiteral quote characters = some (body, after)) : IsBody quote body := by
  fun_induction splitLiteral quote characters generalizing body after with
  | case1 => simp at hsplit
  | case2 character rest ih =>
    obtain ⟨inner, hinner, rfl⟩ := map_eq_some_split ('\\' :: character :: ·) hsplit
    obtain ⟨hall, hclosed⟩ := ih hinner
    exact ⟨(Quoted.allEscaped_pair hquote).mpr hall, (not_congr Quoted.escapes_pair).mpr hclosed⟩
  | case3 rest _ =>
    simp only [Option.some.injEq, Prod.mk.injEq] at hsplit
    obtain ⟨rfl, -⟩ := hsplit
    exact ⟨Quoted.allEscaped_of_notMem List.not_mem_nil, Quoted.not_escapes_nil⟩
  | case4 character rest hpair hcharacter ih =>
    obtain ⟨inner, hinner, rfl⟩ := map_eq_some_split (character :: ·) hsplit
    obtain ⟨hall, hclosed⟩ := ih hinner
    have hplain := ne_backslash_of_splitLiteral hpair hinner
    exact ⟨(Quoted.allEscaped_cons hcharacter hplain).mpr hall,
      (not_congr (Quoted.escapes_cons hplain)).mpr hclosed⟩

/-- A literal is never closed exactly if every quote behind the opening one is escaped. -/
theorem splitLiteral_eq_none_iff (hquote : quote ≠ '\\') :
    splitLiteral quote characters = none ↔ AllEscaped quote characters := by
  constructor
  · intro hnone
    fun_induction splitLiteral quote characters with
    | case1 => exact Quoted.allEscaped_of_notMem List.not_mem_nil
    | case2 character rest ih =>
      exact (Quoted.allEscaped_pair hquote).mpr (ih (Option.map_eq_none_iff.mp hnone))
    | case3 => simp at hnone
    | case4 character rest hpair hcharacter ih =>
      have hrest := ih (Option.map_eq_none_iff.mp hnone)
      by_cases hplain : character = '\\'
      · -- A backslash that is passed over on its own stands at the very end.
        subst hplain
        cases rest with
        | nil => exact Quoted.allEscaped_of_notMem (by simpa using hquote)
        | cons next others => exact (hpair next others rfl rfl).elim
      · exact (Quoted.allEscaped_cons hcharacter hplain).mpr hrest
  · intro hall
    cases hsplit : splitLiteral quote characters with
    | none => rfl
    | some parts =>
      obtain ⟨body, after⟩ := parts
      have hescapes := hall body after (splitLiteral_eq_some hsplit).symm
      exact absurd hescapes (isBody_of_splitLiteral hquote hsplit).closed

theorem literal_eq_of_quote (hquote : character = '"' ∨ character = '\'') :
    first character rest = literal character rest := by
  rcases hquote with rfl | rfl <;> rfl

theorem ne_backslash_of_quote (hquote : character = '"' ∨ character = '\'') :
    character ≠ '\\' := by
  rcases hquote with rfl | rfl <;> decide

theorem numberSymbol_ne_quoted (text : List Char) (raw : String) :
    numberSymbol text ≠ .quoted raw := by
  by_cases hrange : InRange (Decimal.read text) <;> simp [numberSymbol, hrange]

theorem wordSymbol_ne_quoted (text : List Char) (raw : String) : wordSymbol text ≠ .quoted raw := by
  simp only [wordSymbol]
  repeat' split
  all_goals simp

theorem variableSymbol_ne_quoted (text : List Char) (raw : String) :
    variableSymbol text ≠ .quoted raw := by
  by_cases hlength : text.length ≤ 1 <;> simp [variableSymbol, hlength]

/-- Only a quote starts a literal. -/
theorem symbol_ne_quoted (hother : ¬ (character = '"' ∨ character = '\'')) (rest : List Char)
    (raw : String) : (first character rest).symbol ≠ .quoted raw := by
  by_cases hmark : character ∈ marks
  · simp only [marks, List.mem_cons, List.not_mem_nil, or_false] at hmark
    rcases hmark with rfl | rfl | rfl | rfl | rfl | rfl
    · simp [first]
    · simp [first]
    · simp [first]
    · exact absurd (.inl rfl) hother
    · exact absurd (.inr rfl) hother
    · have hname : first '$' rest = run continuesName variableSymbol ['$'] rest := rfl
      rw [hname, run_symbol]
      exact variableSymbol_ne_quoted _ raw
  rw [first_of_notMem_marks hmark]
  split
  · rw [run_symbol]
    exact numberSymbol_ne_quoted _ raw
  split
  · rw [run_symbol]
    exact wordSymbol_ne_quoted _ raw
  · simp

/-- A literal is a body between two quotes of a kind. -/
theorem exists_body_of_first {raw : String}
    (hquoted : (first character rest).symbol = .quoted raw) :
    (character = '"' ∨ character = '\'') ∧
      (first character rest).text = character :: raw.toList ++ [character] ∧
      IsBody character raw.toList := by
  by_cases hquote : character = '"' ∨ character = '\''
  · refine ⟨hquote, ?_⟩
    rw [literal_eq_of_quote hquote] at hquoted ⊢
    cases hsplit : splitLiteral character rest with
    | none => simp [literal, hsplit] at hquoted
    | some parts =>
      obtain ⟨body, after⟩ := parts
      obtain rfl : String.ofList body = raw := by simpa [literal, hsplit] using hquoted
      rw [String.toList_ofList]
      exact ⟨by simp [literal, hsplit],
        isBody_of_splitLiteral (ne_backslash_of_quote hquote) hsplit⟩
  · exact absurd hquoted (symbol_ne_quoted hquote rest raw)

end Lexer

/-! ### Literals among the tokens of a text -/

namespace Token

open Lexer (first text_append_rest)
open Quoted (AllEscaped IsBody Unescapes)

variable {text : String} {token : Token}

/-- A literal among the tokens of a text stands there between two quotes of a kind. -/
theorem exists_body_of_mem {raw : String} (htoken : token ∈ scan text)
    (hquoted : token.symbol = .quoted raw) :
    ∃ quote, (quote = '"' ∨ quote = '\'') ∧
      token.span.Covers text (String.singleton quote ++ raw ++ String.singleton quote) ∧
      IsBody quote raw.toList := by
  obtain ⟨before, quote, rest, htext, rfl⟩ := exists_first_of_mem htoken
  obtain ⟨hquote, hlexeme, hbody⟩ := Lexer.exists_body_of_first hquoted
  have hslice : String.ofList (first quote rest).text =
      String.singleton quote ++ raw ++ String.singleton quote := by
    rw [← String.toList_inj, hlexeme]
    simp
  refine ⟨quote, hquote, ?_, hbody⟩
  rw [← hslice]
  refine ⟨String.ofList before, String.ofList (first quote rest).rest, ?_, ?_⟩
  · rw [← String.toList_inj, htext, ← text_append_rest quote rest]
    simp
  · rw [String.utf8ByteSize_append, ← utf8Length_eq, ← utf8Length_eq, Nat.zero_add]

/-- What is written for a value is the first token in front of any text. -/
theorem scan_quote (value rest : String) :
    scan (Quoted.quote value ++ rest) =
      ⟨.quoted (String.ofList (Quoted.body value.toList)),
          ⟨0, (Quoted.quote value).utf8ByteSize⟩⟩ ::
        (scan rest).map (·.shift (Quoted.quote value).utf8ByteSize) := by
  have htext : (Quoted.quote value ++ rest).toList =
      '"' :: (Quoted.body value.toList ++ '"' :: rest.toList) := by
    simp [Quoted.quote]
  have hfirst : first '"' (Quoted.body value.toList ++ '"' :: rest.toList) =
      ⟨.quoted (String.ofList (Quoted.body value.toList)), (Quoted.quote value).toList,
        rest.toList⟩ := by
    rw [Lexer.literal_eq_of_quote (.inl rfl), Lexer.literal, Lexer.splitLiteral_body]
    simp [Quoted.quote]
  rw [scan, htext, scanFrom_lexeme (by decide), hfirst, utf8Length_toList, scanFrom_add,
    Nat.zero_add]
  rfl

/-- No token follows one that ends where the text does. -/
theorem exists_scan_eq_concat (htoken : token ∈ scan text)
    (hstop : token.span.stop = text.utf8ByteSize) : ∃ earlier, scan text = earlier ++ [token] := by
  obtain ⟨earlier, later, hscan⟩ := List.append_of_mem htoken
  refine ⟨earlier, ?_⟩
  cases later with
  | nil => exact hscan
  | cons next others =>
    have happart := pairwise_scanFrom 0 text.toList
    rw [← scan, hscan] at happart
    have hafter : token.span.stop ≤ next.span.start :=
      (List.pairwise_cons.mp (List.pairwise_append.mp happart).2.1).1 next List.mem_cons_self
    have hnext : next ∈ scan text := by simp [hscan]
    obtain ⟨slice, ⟨before, after, rfl, hspan⟩, hpresent, -⟩ := exists_covers hnext
    have hwidth : slice.utf8ByteSize ≠ 0 := by simpa using hpresent
    simp only [hstop, hspan, String.utf8ByteSize_append] at hafter
    omega

/-- A literal that is never closed is the last token, up to the end of the text. -/
theorem exists_scan_eq_of_allEscaped {before after : String} {quote : Char}
    (htext : text = before ++ String.singleton quote ++ after)
    (hquote : quote = '"' ∨ quote = '\'') (htoken : token ∈ scan text)
    (hstart : token.span.start = before.utf8ByteSize) (hall : AllEscaped quote after.toList) :
    ∃ earlier, scan text =
      earlier ++ [⟨.illegal, ⟨before.utf8ByteSize, text.utf8ByteSize⟩⟩] := by
  have hnone := (Lexer.splitLiteral_eq_none_iff (Lexer.ne_backslash_of_quote hquote)).mpr hall
  have hopens : token.OpensAt 0 text.toList := by
    refine ⟨before.toList, quote, after.toList, by simp [htext], ⟨hquote, hnone⟩, ?_⟩
    rw [hstart, utf8Length_toList, Nat.zero_add]
  have hunclosed := (isUnclosed_iff htoken).mpr hopens
  have hstop := hunclosed.stop_eq htoken
  obtain ⟨earlier, hscan⟩ := exists_scan_eq_concat htoken hstop
  have heq : token = ⟨.illegal, ⟨before.utf8ByteSize, text.utf8ByteSize⟩⟩ := by
    rw [← hstart, ← hstop, ← hunclosed.1]
  exact ⟨earlier, heq ▸ hscan⟩

/-- A literal among the tokens of a text has a body between quotes of a kind: in the body every such
quote is escaped, and its end is not, so reading it drops one backslash of each pair and nothing
else. What has been read can be written in front of any text, and is read there again. A quote that
starts a token and is never closed makes the last token, which is illegal and ends with the text. -/
theorem literals_of_scan (text : String) :
    (∀ token ∈ scan text, ∀ raw, token.symbol = .quoted raw →
      (∃ quote, (quote = '"' ∨ quote = '\'') ∧
        token.span.Covers text (String.singleton quote ++ raw ++ String.singleton quote) ∧
        IsBody quote raw.toList) ∧
      Unescapes raw.toList (Quoted.unquote raw).toList ∧
      ∀ rest, ∃ again others,
        scan (Quoted.quote (Quoted.unquote raw) ++ rest) =
          ⟨.quoted again, ⟨0, (Quoted.quote (Quoted.unquote raw)).utf8ByteSize⟩⟩ :: others ∧
        Quoted.unquote again = Quoted.unquote raw) ∧
    ∀ before quote after, text = before ++ String.singleton quote ++ after →
      (quote = '"' ∨ quote = '\'') →
      (∃ token ∈ scan text, token.span.start = before.utf8ByteSize) →
      AllEscaped quote after.toList →
      ∃ earlier, scan text =
        earlier ++ [⟨.illegal, ⟨before.utf8ByteSize, text.utf8ByteSize⟩⟩] := by
  constructor
  · intro token htoken raw hquoted
    obtain ⟨quote, hquote, hcovers, hbody⟩ := exists_body_of_mem htoken hquoted
    refine ⟨⟨quote, hquote, hcovers, hbody⟩, ?_, fun rest ↦ ?_⟩
    · rw [Quoted.unquote, String.toList_ofList]
      exact Quoted.unescapes_read hbody.closed
    · exact ⟨_, _, scan_quote (Quoted.unquote raw) rest, Quoted.unquote_body _⟩
  · rintro before quote after htext hquote ⟨token, htoken, hstart⟩ hall
    exact exists_scan_eq_of_allEscaped htext hquote htoken hstart hall

/-- A literal in single quotes with an escaped quote and a pair of backslashes, and behind it one
that is not closed, as the only further quote is escaped. -/
def escapedQuotes : String := "'x\\'y\\\\' \"\\\""

theorem literals_of_scan_escapedQuotes :
    (⟨.quoted "x\\'y\\\\", ⟨0, 8⟩⟩ : Token) ∈ scan escapedQuotes ∧
      Quoted.unquote "x\\'y\\\\" = "x'y\\" ∧
      Unescapes "x\\'y\\\\".toList "x'y\\".toList ∧
      AllEscaped '"' "\\\"".toList ∧
      ∃ earlier, scan escapedQuotes = earlier ++ [⟨.illegal, ⟨9, 12⟩⟩] := by
  have hliteral : (⟨.quoted "x\\'y\\\\", ⟨0, 8⟩⟩ : Token) ∈ scan escapedQuotes := by decide +kernel
  have hopened : ∃ token ∈ scan escapedQuotes, token.span.start = 9 := by decide +kernel
  have hall : AllEscaped '"' "\\\"".toList :=
    (Lexer.splitLiteral_eq_none_iff (by decide)).mp (by decide)
  have hunquote : Quoted.unquote "x\\'y\\\\" = "x'y\\" := by decide
  obtain ⟨hliterals, hunclosed⟩ := literals_of_scan escapedQuotes
  have hunescapes := (hliterals _ hliteral _ rfl).2.1
  rw [hunquote] at hunescapes
  exact ⟨hliteral, hunquote, hunescapes, hall,
    hunclosed "'x\\'y\\\\' " '"' "\\\"" (by decide) (.inl rfl) hopened hall⟩

end Token

end CardQuery
