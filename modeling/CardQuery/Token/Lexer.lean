import CardQuery.Text.CaseFold
import CardQuery.Text.CharClass
import CardQuery.Text.Utf8
import CardQuery.Token

/-!
Reading tokens from text. A lexeme is the longest run of characters that the first character
starts: a numeral, a quoted literal, a variable, a word, or that character alone. Blanks between
lexemes are skipped, and every other character belongs to exactly one lexeme
(`Lexeme.text_append_rest`).
-/

set_option autoImplicit false
set_option relaxedAutoImplicit false

namespace CardQuery

open Text

/-- The first symbol of a text, the characters it is written with, and the text after it. -/
structure Lexeme where
  symbol : Symbol
  text : List Char
  rest : List Char

namespace Lexer

/-! ### Characters that continue a lexeme -/

def continuesName (character : Char) : Bool :=
  isAlphanumeric character || character == '_'

def continuesWord (character : Char) : Bool :=
  isAlphanumeric character || character == '-' || character == '_'

/-! ### What a lexeme means -/

/-- The words of the language itself are recognised in any case. -/
def wordSymbol (text : List Char) : Symbol :=
  let word := String.ofList text
  let folded := foldCase word
  if folded = "and" then .and
  else if folded = "or" then .or
  else if folded = "not" then .not
  else if folded = "in" then .within
  else if folded = "from" then .origin
  else .word word

/-- Numbers of the language fit into 64 bits with a sign. -/
def InRange (value : Int) : Prop :=
  -9223372036854775808 ≤ value ∧ value ≤ 9223372036854775807

instance (value : Int) : Decidable (InRange value) :=
  inferInstanceAs (Decidable (_ ∧ _))

def numberSymbol (text : List Char) : Symbol :=
  let value := Decimal.read text
  if InRange value then .number value else .illegal

/-- A dollar sign alone names nothing. -/
def variableSymbol (text : List Char) : Symbol :=
  if text.length ≤ 1 then .illegal else .variableName (String.ofList text)

/-! ### The first lexeme -/

/-- The lexeme that begins with `start` and takes in every following character that may
continue it. -/
def run (continues : Char → Bool) (meaning : List Char → Symbol) (start rest : List Char) :
    Lexeme :=
  let text := start ++ rest.takeWhile continues
  ⟨meaning text, text, rest.dropWhile continues⟩

/-- The body of a literal up to its closing quote, and the text after that quote. A backslash
takes the character after it along, whatever it is. -/
def splitLiteral (quote : Char) : List Char → Option (List Char × List Char)
  | [] => none
  | '\\' :: character :: rest =>
    (splitLiteral quote rest).map fun (body, after) ↦ ('\\' :: character :: body, after)
  | character :: rest =>
    if character = quote then some ([], rest)
    else (splitLiteral quote rest).map fun (body, after) ↦ (character :: body, after)

/-- A literal that is never closed makes the whole remaining text illegal. -/
def literal (quote : Char) (rest : List Char) : Lexeme :=
  match splitLiteral quote rest with
  | some (body, after) => ⟨.quoted (String.ofList body), quote :: body ++ [quote], after⟩
  | none => ⟨.illegal, quote :: rest, []⟩

def startsNumeral (character : Char) (rest : List Char) : Bool :=
  isDigit character || character == '-' && rest.head?.any isDigit

/-- The lexeme that a character starts in front of the rest of the text. -/
def first (character : Char) (rest : List Char) : Lexeme :=
  if character = '(' then ⟨.opening, [character], rest⟩
  else if character = ')' then ⟨.closing, [character], rest⟩
  else if character = ',' then ⟨.comma, [character], rest⟩
  else if character = '"' ∨ character = '\'' then literal character rest
  else if character = '$' then run continuesName variableSymbol [character] rest
  else if startsNumeral character rest then run isDigit numberSymbol [character] rest
  else if isAlphabetic character then run continuesWord wordSymbol [character] rest
  else ⟨.illegal, [character], rest⟩

/-! ### Every character belongs to the lexeme or follows it -/

/-- A body that is grown is split where the body itself is. -/
theorem map_eq_some_split (grow : List Char → List Char) {split : Option (List Char × List Char)}
    {body after : List Char}
    (hsplit : split.map (fun (body, after) ↦ (grow body, after)) = some (body, after)) :
    ∃ inner, split = some (inner, after) ∧ grow inner = body := by
  obtain ⟨⟨inner, tail⟩, hinner, hparts⟩ := Option.map_eq_some_iff.mp hsplit
  obtain ⟨hbody, rfl⟩ := Prod.mk.inj hparts
  exact ⟨inner, hinner, hbody⟩

theorem splitLiteral_eq_some {quote : Char} {characters body after : List Char}
    (hsplit : splitLiteral quote characters = some (body, after)) :
    body ++ quote :: after = characters := by
  fun_induction splitLiteral quote characters generalizing body after with
  | case1 => simp at hsplit
  | case2 character rest ih =>
    obtain ⟨inner, hinner, rfl⟩ := map_eq_some_split ('\\' :: character :: ·) hsplit
    simp [ih hinner]
  | case3 rest _ =>
    simp only [Option.some.injEq, Prod.mk.injEq] at hsplit
    obtain ⟨rfl, rfl⟩ := hsplit
    simp
  | case4 character rest _ _ ih =>
    obtain ⟨inner, hinner, rfl⟩ := map_eq_some_split (character :: ·) hsplit
    simp [ih hinner]

theorem run_text_append_rest (continues : Char → Bool) (meaning : List Char → Symbol)
    (start rest : List Char) :
    (run continues meaning start rest).text ++ (run continues meaning start rest).rest =
      start ++ rest := by
  simp [run, List.takeWhile_append_dropWhile]

theorem literal_text_append_rest (quote : Char) (rest : List Char) :
    (literal quote rest).text ++ (literal quote rest).rest = quote :: rest := by
  unfold literal
  split
  · rename_i body after hsplit
    simp [← splitLiteral_eq_some hsplit]
  · simp

theorem text_append_rest (character : Char) (rest : List Char) :
    (first character rest).text ++ (first character rest).rest = character :: rest := by
  unfold first
  repeat' split
  all_goals simp [run_text_append_rest, literal_text_append_rest]

theorem literal_text_ne_nil (quote : Char) (rest : List Char) :
    (literal quote rest).text ≠ [] := by
  unfold literal
  split <;> simp

/-- A lexeme has at least its first character. -/
theorem text_ne_nil (character : Char) (rest : List Char) :
    (first character rest).text ≠ [] := by
  unfold first
  repeat' split
  all_goals simp [run, literal_text_ne_nil]

theorem length_rest_lt (character : Char) (rest : List Char) :
    (first character rest).rest.length < (character :: rest).length := by
  have hlength := congrArg List.length (text_append_rest character rest)
  have htext := List.length_pos_iff.mpr (text_ne_nil character rest)
  simp only [List.length_append] at hlength
  omega

end Lexer

namespace Token

/-- The tokens of a text that begins `offset` bytes into the whole. -/
def scanFrom (offset : Nat) : List Char → List Token
  | [] => []
  | character :: rest =>
    if isBlank character then scanFrom (offset + character.utf8Size) rest
    else
      let lexeme := Lexer.first character rest
      let stop := offset + utf8Length lexeme.text
      ⟨lexeme.symbol, ⟨offset, stop⟩⟩ :: scanFrom stop lexeme.rest
termination_by characters => characters.length
decreasing_by
  · simp
  · exact Lexer.length_rest_lt character rest

theorem scanFrom_nil (offset : Nat) : scanFrom offset [] = [] := by
  rw [scanFrom]

theorem scanFrom_blank {character : Char} (hblank : isBlank character = true) (offset : Nat)
    (rest : List Char) :
    scanFrom offset (character :: rest) = scanFrom (offset + character.utf8Size) rest := by
  rw [scanFrom, if_pos hblank]

theorem scanFrom_lexeme {character : Char} (hblank : ¬ isBlank character = true) (offset : Nat)
    (rest : List Char) :
    scanFrom offset (character :: rest) =
      ⟨(Lexer.first character rest).symbol,
          ⟨offset, offset + utf8Length (Lexer.first character rest).text⟩⟩ ::
        scanFrom (offset + utf8Length (Lexer.first character rest).text)
          (Lexer.first character rest).rest := by
  rw [scanFrom, if_neg hblank]

/-- The tokens of a text. -/
def scan (text : String) : List Token := scanFrom 0 text.toList

end Token

end CardQuery
