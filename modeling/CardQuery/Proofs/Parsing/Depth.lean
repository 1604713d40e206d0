import CardQuery.Filter.Parser

/-!
The depth of a reader of filters matters only to rows of tokens that it does not exceed in number.
Readers that agree on all rows shorter than a bound are put together to readers that do, and a
filter in parentheses has one token more before it than the filter inside
(`Reader.AgreeBelow.primary`), so all readers of enough depth agree (`agreeBelow_expression`). That
gives one reader for filters of any depth, `Parser.anyDepth`, which reads its own filters inside
parentheses (`anyDepth_run`).
-/

set_option autoImplicit false
set_option relaxedAutoImplicit false

namespace CardQuery

variable {α β : Type} {bound : Nat}

namespace Reader

/-- Both readers make the same of every row of fewer tokens than the bound. -/
def AgreeBelow (bound : Nat) (first second : Reader α) : Prop :=
  ∀ tokens : List Token, tokens.length < bound → first.run tokens = second.run tokens

variable {first second : Reader α}

theorem AgreeBelow.map (hagree : AgreeBelow bound first second) (change : α → β) :
    AgreeBelow bound (first.map change) (second.map change) := by
  intro tokens hfew
  simp only [Reader.map, hagree tokens hfew]

theorem AgreeBelow.more (hagree : AgreeBelow bound first second) (separator : Symbol)
    {tokens : List Token} (hfew : tokens.length < bound) :
    more separator first tokens = more separator second tokens := by
  match tokens with
  | [] => simp only [Reader.more]
  | token :: rest =>
    simp only [List.length_cons] at hfew
    rw [more_cons_eq_ite, more_cons_eq_ite, ← hagree rest (by omega)]
    split
    · cases hread : first.run rest with
      | read value after =>
        have hconsumed := first.consumes hread
        simp only [Outcome.bind, hagree.more separator (show after.length < bound by omega)]
      | fail error after => rfl
    · rfl
termination_by tokens.length
decreasing_by
  simp only [List.length_cons]
  omega

theorem AgreeBelow.separated (hagree : AgreeBelow bound first second) (separator : Symbol) :
    AgreeBelow bound (separated separator first) (separated separator second) := by
  intro tokens hfew
  simp only [Reader.separated, ← hagree tokens hfew]
  cases hread : first.run tokens with
  | read value rest =>
    have hconsumed := first.consumes hread
    simp only [Outcome.bind, hagree.more separator (show rest.length < bound by omega)]
  | fail error rest => rfl

/-! ### Readers of filters -/

variable {registry : Registry} {subject : Subject} {filters others : Reader Filter}

/-- A parenthesis takes a token before the filter inside it is read. -/
theorem AgreeBelow.primary (hagree : AgreeBelow bound filters others) :
    AgreeBelow (bound + 1) (Parser.primary registry subject filters)
      (Parser.primary registry subject others) := by
  intro tokens hfew
  show Parser.runPrimary registry subject filters tokens =
    Parser.runPrimary registry subject others tokens
  cases tokens with
  | nil => rfl
  | cons token rest =>
    have hinner := hagree rest (Nat.lt_of_succ_lt_succ hfew)
    simp only [Parser.runPrimary, hinner]

theorem AgreeBelow.term (hagree : AgreeBelow bound filters others) :
    AgreeBelow bound (Parser.term filters) (Parser.term others) := by
  intro tokens hfew
  show Parser.runTerm filters tokens = Parser.runTerm others tokens
  induction tokens with
  | nil => exact hagree [] hfew
  | cons token rest ih =>
    simp only [Parser.runTerm, ih (Nat.lt_of_succ_lt hfew), hagree _ hfew]

theorem AgreeBelow.joined (hagree : AgreeBelow bound filters others) (symbol : Symbol)
    (connective : Connective) :
    AgreeBelow bound (Parser.joined symbol connective filters)
      (Parser.joined symbol connective others) :=
  (hagree.separated symbol).map _

end Reader

namespace Parser

open Reader (AgreeBelow)

variable {registry : Registry} {subject : Subject}

/-- The connectives around filters in parentheses. -/
def filtersAround (registry : Registry) (subject : Subject) (inner : Reader Filter) :
    Reader Filter :=
  joined .or .or (joined .and .and (term (primary registry subject inner)))

theorem agreeBelow_filtersAround {first second : Reader Filter}
    (hagree : AgreeBelow bound first second) :
    AgreeBelow (bound + 1) (filtersAround registry subject first)
      (filtersAround registry subject second) :=
  (hagree.primary.term.joined .and .and).joined .or .or

/-- Readers agree on the rows that neither of their depths falls short of. -/
theorem agreeBelow_expression {depth other : Nat} (hdepth : bound ≤ depth)
    (hother : bound ≤ other) :
    AgreeBelow bound (expression registry subject depth) (expression registry subject other) := by
  induction bound generalizing depth other with
  | zero => exact fun _ hfew ↦ absurd hfew (Nat.not_lt_zero _)
  | succ bound ih =>
    obtain ⟨lower, rfl⟩ := Nat.exists_eq_add_of_lt hdepth
    obtain ⟨otherLower, rfl⟩ := Nat.exists_eq_add_of_lt hother
    exact agreeBelow_filtersAround (ih (Nat.le_add_right _ _) (Nat.le_add_right _ _))

/-- Filters of any depth. -/
def anyDepth (registry : Registry) (subject : Subject) : Reader Filter where
  run tokens := (expression registry subject (tokens.length + 1)).run tokens
  consumes hrun := (expression registry subject _).consumes hrun

theorem agreeBelow_anyDepth (depth : Nat) :
    AgreeBelow depth (expression registry subject depth) (anyDepth registry subject) := by
  intro tokens hfew
  have hagree : AgreeBelow (tokens.length + 1) (expression registry subject depth)
      (expression registry subject (tokens.length + 1)) :=
    agreeBelow_expression hfew (Nat.le_refl _)
  exact hagree tokens (Nat.lt_succ_self _)

/-- What stands in parentheses in a filter of any depth is a filter of any depth. -/
theorem anyDepth_run (tokens : List Token) :
    (anyDepth registry subject).run tokens =
      (filtersAround registry subject (anyDepth registry subject)).run tokens := by
  have hagree : AgreeBelow (tokens.length + 1) (expression registry subject (tokens.length + 1))
      (filtersAround registry subject (anyDepth registry subject)) :=
    agreeBelow_filtersAround (agreeBelow_anyDepth tokens.length)
  exact hagree tokens (Nat.lt_succ_self _)

end Parser

end CardQuery
