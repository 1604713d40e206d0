/-!
Quoted literals. A literal is written between double quotes, with a backslash before each double
quote and each backslash; reading its body drops every backslash and keeps what follows it.
`unquote_body` says that reading undoes writing.
-/

set_option autoImplicit false
set_option relaxedAutoImplicit false

namespace CardQuery.Text.Quoted

/-- A character of a literal as it is written between the quotes. -/
def spell (character : Char) : List Char :=
  if character = '"' ∨ character = '\\' then ['\\', character] else [character]

/-- What is written between the quotes. -/
def body (text : List Char) : List Char := text.flatMap spell

def quote (text : String) : String :=
  String.ofList ('"' :: body text.toList ++ ['"'])

/-- Drops each backslash and keeps the character after it; a backslash at the very end stands for
nothing. -/
def read : List Char → List Char
  | '\\' :: character :: rest => character :: read rest
  | ['\\'] => []
  | character :: rest => character :: read rest
  | [] => []

def unquote (raw : String) : String := String.ofList (read raw.toList)

/-- The literals of a list, separated by a comma and a space. -/
def quoteAll (texts : List String) : String :=
  ", ".intercalate (texts.map quote)

theorem read_body (text : List Char) : read (body text) = text := by
  induction text with
  | nil => rfl
  | cons character rest ih =>
    by_cases hspecial : character = '"' ∨ character = '\\'
    · simpa [body, spell, hspecial, read] using ih
    · have hbackslash : character ≠ '\\' := fun h ↦ hspecial (.inr h)
      have hstep : body (character :: rest) = character :: body rest := by
        simp [body, spell, hspecial]
      rw [hstep, read.eq_3 _ _ (by simp [hbackslash]) (by simp [hbackslash]), ih]

theorem unquote_body (text : String) :
    unquote (String.ofList (body text.toList)) = text := by
  simp [unquote, read_body]

end CardQuery.Text.Quoted
