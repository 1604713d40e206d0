import CardQuery.Proofs.Parsing.Grammar

/-!
The keywords at the heads of terms. A term begins at the start of a filter, in a parenthesis, and
after a negation or a connective; none of these symbols occurs in the values of a keyword
(`Part.closed`). So the words that stand where a term begins are found by going over the symbols
once (`headsFrom`), and where the symbols derive a filter, each of them names a keyword, which takes
no values if none are assigned to it (`Derives.means_of_mem`).
-/

set_option autoImplicit false
set_option relaxedAutoImplicit false

namespace CardQuery

/-- A term begins after the symbol. -/
def Symbol.opensTerm : Symbol → Bool
  | .opening | .not | .and | .or => true
  | _ => false

namespace Grammar

variable {registry : Registry} {subject : Subject}

/-- A word where a term begins, and whether something is assigned to it. -/
structure Head where
  name : String
  assigned : Bool

/-- The words that stand where a term begins, if one begins at the start or not. -/
def headsFrom : Bool → List Symbol → List Head
  | true, .word name :: rest => ⟨name, decide (rest.head? = some .within)⟩ :: headsFrom false rest
  | _, symbol :: rest => headsFrom symbol.opensTerm rest
  | _, [] => []

theorem headsFrom_eq_nil {word : List Symbol}
    (hclosed : ∀ symbol ∈ word, symbol.opensTerm = false) : headsFrom false word = [] := by
  induction word with
  | nil => rfl
  | cons symbol rest ih =>
    rw [List.forall_mem_cons] at hclosed
    simp only [headsFrom, hclosed.1]
    exact ih hclosed.2

/-- A symbol that a term begins after divides the heads, and so does the end of a group. -/
theorem headsFrom_append {symbol : Symbol}
    (hdivides : symbol.opensTerm = true ∨ symbol = .closing) (begins : Bool)
    (left right : List Symbol) :
    headsFrom begins (left ++ symbol :: right) =
      headsFrom begins left ++ headsFrom symbol.opensTerm right := by
  have hwithin : symbol ≠ .within := by
    rintro rfl
    simp [Symbol.opensTerm] at hdivides
  induction left generalizing begins with
  | nil => cases symbol <;> cases begins <;> simp_all [headsFrom, Symbol.opensTerm]
  | cons first rest ih =>
    -- Whether something is assigned to the first word is told by what follows it at once.
    have hnext : decide ((rest ++ symbol :: right).head? = some .within) =
        decide (rest.head? = some .within) := by
      cases rest <;> simp [hwithin]
    cases begins with
    | false => exact ih first.opensTerm
    | true =>
      cases first with
      | word name => simp only [List.cons_append, headsFrom, hnext, ih]
      | _ => exact ih _

/-! ### Parts -/

theorem Literal.closed {word : List Symbol} {text : String} (hliteral : Literal word text) :
    ∀ symbol ∈ word, symbol.opensTerm = false := by
  cases hliteral <;> simp [Symbol.opensTerm]

theorem Values.closed {word : List Symbol} {texts : List String} (hvalues : Values word texts) :
    ∀ symbol ∈ word, symbol.opensTerm = false := by
  induction hvalues with
  | single hliteral => exact hliteral.closed
  | more hliteral _ ih =>
    rw [List.forall_mem_append, List.forall_mem_cons]
    exact ⟨hliteral.closed, rfl, ih⟩

/-- No term begins within a part. -/
theorem Part.closed {word : List Symbol} {entry : Leaf}
    (hpart : Part registry subject word entry) : ∀ symbol ∈ word, symbol.opensTerm = false := by
  cases hpart with
  | bare | variableName => simp [Symbol.opensTerm]
  | text _ _ hliteral =>
    simp only [List.forall_mem_cons]
    exact ⟨rfl, rfl, hliteral.closed⟩
  | list _ _ hvalues =>
    simp only [List.forall_mem_cons]
    exact ⟨rfl, rfl, hvalues.closed⟩
  | sourced _ _ hvalues horigins =>
    simp only [List.forall_mem_cons, List.forall_mem_append]
    exact ⟨rfl, rfl, hvalues.closed, rfl, horigins.closed⟩

/-- The word of a keyword with what is assigned to it is the one head of them. -/
theorem headsFrom_assigned {name : String} {word : List Symbol}
    (hclosed : ∀ symbol ∈ word, symbol.opensTerm = false) :
    headsFrom true (.word name :: .within :: word) = [⟨name, true⟩] := by
  simp [headsFrom, Symbol.opensTerm, headsFrom_eq_nil hclosed]

/-! ### Derivations -/

/-- The head names a keyword, and one without an argument if nothing is assigned to it. -/
def Head.Means (registry : Registry) (subject : Subject) (head : Head) : Prop :=
  ∃ keyword, Names registry subject head.name keyword ∧
    (head.assigned = false → keyword.argument = .absent)

theorem Part.means_of_mem {word : List Symbol} {entry : Leaf}
    (hpart : Part registry subject word entry) :
    ∀ head ∈ headsFrom true word, head.Means registry subject := by
  have hclosed := hpart.closed
  cases hpart with
  | bare hname hargument =>
    simp only [headsFrom, List.mem_singleton, forall_eq]
    exact ⟨_, hname, fun _ ↦ hargument⟩
  | variableName hname | text hname | list hname | sourced hname =>
    rw [List.forall_mem_cons, List.forall_mem_cons] at hclosed
    rw [headsFrom_assigned hclosed.2.2]
    simp only [List.mem_singleton, forall_eq]
    exact ⟨_, hname, by simp⟩

/-- Every head among symbols that derive a filter means a keyword. -/
theorem Derives.means_of_mem {level : Level} {word : List Symbol} {filter : Filter}
    (hderives : Derives registry subject level word filter) :
    ∀ head ∈ headsFrom true word, head.Means registry subject := by
  induction hderives with
  | conjunction _ ih | term _ ih | primary _ ih => exact ih
  | or _ _ hleft hright | and _ _ hleft hright =>
    rw [headsFrom_append (.inl rfl), List.forall_mem_append]
    exact ⟨hleft, hright⟩
  | not _ ih => exact ih
  | @group word filter _ ih =>
    have hheads : headsFrom true (.opening :: (word ++ [.closing])) = headsFrom true word := by
      change headsFrom true (word ++ [.closing]) = _
      rw [headsFrom_append (.inr rfl)]
      exact List.append_nil _
    rw [hheads]
    exact ih
  | part hpart => exact hpart.means_of_mem

end Grammar

end CardQuery
