import CardQuery.Text.Literal
import CardQuery.Text.Quoted

/-!
The values selected for a keyword. A selection with origins has two sides, and each side either
restricts to the values it lists or lets everything through. In text, a side that lets everything
through is written as its wildcard, so a side that lists nothing but wildcards restricts nothing
either (`Choice.ofLiterals`).
-/

set_option autoImplicit false
set_option relaxedAutoImplicit false

namespace CardQuery

open Text

/-- One side of a selection. -/
inductive Choice where
  | any
  | among (values : List String)
deriving DecidableEq

/-- Selected values, or selected values and the origins they are counted in. -/
inductive Selection where
  | listed (values : List String)
  | sourced (values origins : Choice)
deriving DecidableEq

namespace Choice

/-- The literal that stands for every value. -/
def valueWildcard : String := "-1"

/-- The literal that stands for every origin. -/
def originWildcard : String := ""

/-- The side that a list of literals means: everything if it has no literal but the wildcard. -/
def ofLiterals (literals : List String) (wildcard : String) : Choice :=
  if literals.all (· == wildcard) then any else among literals

def toOption : Choice → Option (List String)
  | any => none
  | among values => some values

theorem ofLiterals_eq_any_iff {literals : List String} {wildcard : String} :
    ofLiterals literals wildcard = any ↔ ∀ literal ∈ literals, literal = wildcard := by
  simp [ofLiterals]

theorem ofLiterals_eq_among_iff {literals values : List String} {wildcard : String} :
    ofLiterals literals wildcard = among values ↔
      values = literals ∧ ∃ literal ∈ literals, literal ≠ wildcard := by
  cases hall : literals.all (· == wildcard) with
  | true =>
    have hwild : ∀ literal ∈ literals, literal = wildcard := by simpa using hall
    simp only [ofLiterals, hall, if_true, reduceCtorEq, false_iff]
    rintro ⟨-, literal, hliteral, hother⟩
    exact hother (hwild literal hliteral)
  | false =>
    obtain ⟨literal, hliteral, hother⟩ : ∃ literal ∈ literals, literal ≠ wildcard := by
      simpa using hall
    simp only [ofLiterals, hall, Bool.false_eq_true, if_false, among.injEq]
    exact ⟨fun heq ↦ ⟨heq.symm, literal, hliteral, hother⟩, fun heq ↦ heq.1.symm⟩

/-- Literals restrict a side if one of them is not the wildcard. -/
theorem ofLiterals_eq_ite (literals : List String) (wildcard : String) :
    ofLiterals literals wildcard =
      if literals.any (· != wildcard) then among literals else any := by
  cases hany : literals.any (· != wildcard) with
  | true =>
    rw [if_pos rfl, ofLiterals_eq_among_iff]
    exact ⟨rfl, by simpa using hany⟩
  | false =>
    rw [if_neg Bool.false_ne_true, ofLiterals_eq_any_iff]
    simpa using hany

/-- Written as the literals it lists, or as its wildcard. -/
def text (wildcard : String) : Choice → String
  | any => Quoted.quote wildcard
  | among values => Quoted.quoteAll values

def describe : Choice → String
  | any => "Any"
  | among values => "Values(" ++ Literal.texts values ++ ")"

end Choice

namespace Selection

/-- The text after the keyword and `in`. -/
def text : Selection → String
  | listed values => Quoted.quoteAll values
  | sourced values origins =>
    values.text Choice.valueWildcard ++ " FROM " ++ origins.text Choice.originWildcard

def describe : Selection → String
  | listed values => "List(" ++ Literal.texts values ++ ")"
  | sourced values origins =>
    Literal.record "From" [("values", values.describe), ("from", origins.describe)]

end Selection

end CardQuery
