import CardQuery.Filter.SyntaxError

/-!
Readers take something off the front of a list of tokens. A reader that succeeds has taken at
least one token, which is what lets a list of any length be read by `Reader.separated`; one that
fails tells how far it came, so that reading can be resumed there.
-/

set_option autoImplicit false
set_option relaxedAutoImplicit false

namespace CardQuery

/-- A value and the tokens after it, or an error and the tokens not yet taken. -/
inductive Outcome (α : Type) where
  | read (value : α) (rest : List Token)
  | fail (error : SyntaxError) (rest : List Token)

namespace Outcome

variable {α β : Type}

def map (change : α → β) : Outcome α → Outcome β
  | read value rest => read (change value) rest
  | fail error rest => fail error rest

/-- What comes after a value is read from the tokens after it. -/
def bind (outcome : Outcome α) (next : α → List Token → Outcome β) : Outcome β :=
  match outcome with
  | read value rest => next value rest
  | fail error rest => fail error rest

/-- The tokens that are left. -/
def rest : Outcome α → List Token
  | read _ rest | fail _ rest => rest

def toExcept : Outcome α → Except SyntaxError α
  | read value _ => .ok value
  | fail error _ => .error error

theorem map_eq_read {change : α → β} {outcome : Outcome α} {value : β} {rest : List Token} :
    outcome.map change = read value rest ↔
      ∃ first, outcome = read first rest ∧ change first = value := by
  cases outcome with
  | read first middle =>
    constructor
    · intro heq
      injection heq with hvalue hrest
      exact ⟨first, by rw [hrest], hvalue⟩
    · rintro ⟨_, heq, hvalue⟩
      injection heq with hfirst hrest
      subst hfirst hrest hvalue
      rfl
  | fail error middle => simp [map]

theorem bind_eq_read {outcome : Outcome α} {next : α → List Token → Outcome β} {value : β}
    {rest : List Token} :
    outcome.bind next = read value rest ↔
      ∃ first middle, outcome = read first middle ∧ next first middle = read value rest := by
  cases outcome with
  | read first middle =>
    constructor
    · exact fun hnext ↦ ⟨first, middle, rfl, hnext⟩
    · rintro ⟨_, _, heq, hnext⟩
      injection heq with hvalue hrest
      subst hvalue hrest
      exact hnext
  | fail error middle => simp [bind]

end Outcome

/-- A function that takes at least one token off the front wherever it succeeds. -/
structure Reader (α : Type) where
  run : List Token → Outcome α
  consumes : ∀ {tokens : List Token} {value : α} {rest : List Token},
    run tokens = .read value rest → rest.length < tokens.length

namespace Reader

variable {α β : Type}

def map (change : α → β) (reader : Reader α) : Reader β where
  run tokens := (reader.run tokens).map change
  consumes hrun := by
    obtain ⟨_, hread, -⟩ := Outcome.map_eq_read.mp hrun
    exact reader.consumes hread

/-- Reads nothing and always fails. -/
def failing (fault : SyntaxFault) : Reader α where
  run tokens := .fail ⟨fault, none⟩ tokens
  consumes hrun := by simp at hrun

/-! ### Lists with separators -/

/-- Elements as long as each has a separator before it. -/
def more (separator : Symbol) (element : Reader α) (tokens : List Token) : Outcome (List α) :=
  match tokens with
  | [] => .read [] []
  | token :: after =>
    if token.symbol = separator then
      match _hread : element.run after with
      | .read value rest => (more separator element rest).map (value :: ·)
      | .fail error rest => .fail error rest
    else .read [] (token :: after)
termination_by tokens.length
decreasing_by
  have := element.consumes _hread
  simp only [List.length_cons]
  omega

/-- What the loop makes of its first token. -/
theorem more_cons_eq_ite (separator : Symbol) (element : Reader α) (token : Token)
    (rest : List Token) :
    more separator element (token :: rest) =
      if token.symbol = separator then
        (element.run rest).bind fun value rest ↦ (more separator element rest).map (value :: ·)
      else .read [] (token :: rest) := by
  rw [more]
  split
  · split <;> rename_i hread <;> rw [hread] <;> rfl
  · rfl

theorem length_more {separator : Symbol} {element : Reader α} {tokens : List Token}
    {values : List α} {rest : List Token}
    (hmore : more separator element tokens = .read values rest) :
    rest.length ≤ tokens.length := by
  fun_induction more separator element tokens generalizing values with
  | case1 => simp_all
  | case2 token after _ value middle hread ih =>
    obtain ⟨tail, htail, -⟩ := Outcome.map_eq_read.mp hmore
    have := ih htail
    have := element.consumes hread
    simp only [List.length_cons]
    omega
  | case3 => simp at hmore
  | case4 => simp_all

/-- One element, and further ones with separators between them. -/
def separated (separator : Symbol) (element : Reader α) : Reader (α × List α) where
  run tokens := (element.run tokens).bind fun first rest ↦
    (more separator element rest).map (first, ·)
  consumes hrun := by
    obtain ⟨first, middle, hfirst, hnext⟩ := Outcome.bind_eq_read.mp hrun
    obtain ⟨tail, htail, -⟩ := Outcome.map_eq_read.mp hnext
    exact Nat.lt_of_le_of_lt (length_more htail) (element.consumes hfirst)

end Reader

end CardQuery
