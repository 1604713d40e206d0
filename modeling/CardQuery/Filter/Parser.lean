import CardQuery.Filter
import CardQuery.Filter.Reader
import CardQuery.Registry
import CardQuery.Token.Lexer

/-!
Filters from tokens. A filter is a disjunction of conjunctions of terms; a term is a keyword with
its values, a filter in parentheses, or the negation of a term. Connectives of one kind join from
the left, and parentheses leave no trace. Which values a keyword takes is decided by its argument
in the registry.
-/

set_option autoImplicit false
set_option relaxedAutoImplicit false

namespace CardQuery

open Text

/-- The error of a fault that is seen at a token. -/
def Token.error (token : Token) (fault : SyntaxFault) : SyntaxError := ⟨fault, some token.span⟩

namespace Parser

/-! ### Literals -/

/-- The words at the front of the tokens, and the tokens after them. -/
def leadingWords : List Token → List String × List Token
  | [] => ([], [])
  | token :: rest =>
    match token.symbol with
    | .word text => let (words, after) := leadingWords rest; (text :: words, after)
    | _ => ([], token :: rest)

theorem length_leadingWords (tokens : List Token) :
    (leadingWords tokens).2.length ≤ tokens.length := by
  induction tokens with
  | nil => simp [leadingWords]
  | cons token rest ih =>
    unfold leadingWords
    split
    · exact Nat.le_succ_of_le ih
    · simp

/-- A quoted literal, a number, or words, between which one space is put. -/
def runLiteral : List Token → Outcome String
  | [] => .fail ⟨.literalExpected none, none⟩ []
  | token :: rest =>
    match token.symbol with
    | .quoted raw => .read (Quoted.unquote raw) rest
    | .number value => .read (String.ofList (Decimal.write value)) rest
    | .word text =>
      let (words, after) := leadingWords rest
      .read (" ".intercalate (text :: words)) after
    | other => .fail (token.error (.literalExpected (some other))) rest

def literal : Reader String where
  run := runLiteral
  consumes {tokens value rest} hrun := by
    unfold runLiteral at hrun
    split at hrun
    · simp at hrun
    · rename_i token after
      have hwords := length_leadingWords after
      split at hrun
      case h_3 =>
        injection hrun with _ hrest
        exact Nat.lt_succ_of_le (hrest ▸ hwords)
      all_goals simp_all

/-- One literal or more, with commas between them. -/
def literals : Reader (List String) :=
  (Reader.separated .comma literal).map fun (first, others) ↦ first :: others

/-! ### Keywords -/

/-- The leaf of a keyword, with no values yet. -/
def bareLeaf (keyword : Keyword) : Leaf :=
  ⟨keyword.name, keyword.description, some keyword.argument, none, none⟩

/-- The values after the literals of one side, where the keyword stands at `token`: the literals
themselves, or both sides of a selection with origins. -/
def selection (keyword : Keyword) (token : Token) (values : List String) (tokens : List Token) :
    Outcome Selection :=
  match tokens with
  | next :: rest =>
    if next.symbol = .origin then
      if keyword.argument.IsSourced then
        (literals.run rest).map fun origins ↦
          .sourced (.ofLiterals values Choice.valueWildcard)
            (.ofLiterals origins Choice.originWildcard)
      else .fail (next.error (.originsGiven keyword.name)) rest
    else alone (next :: rest)
  | [] => alone []
where
  /-- The literals are all there is. -/
  alone (rest : List Token) : Outcome Selection :=
    match keyword.argument with
    | .sourced _ _ => .fail (token.error (.originsMissing keyword.name)) rest
    | .text =>
      if values.length > 1 then .fail (token.error (.manyTexts keyword.name)) rest
      else .read (.listed values) rest
    | _ => .read (.listed values) rest

/-- What follows `in`: a variable, or values. -/
def assigned (keyword : Keyword) (token : Token) (tokens : List Token) : Outcome Leaf :=
  match tokens with
  | [] => values []
  | first :: rest =>
    match first.symbol with
    | .variableName name => .read { bareLeaf keyword with variableName := some name } rest
    | _ => values (first :: rest)
where
  values (tokens : List Token) : Outcome Leaf :=
    ((literals.run tokens).bind (selection keyword token)).map fun selection ↦
      { bareLeaf keyword with selection := some selection }

/-- What follows a keyword that stands at `token`. -/
def afterKeyword (keyword : Keyword) (token : Token) (tokens : List Token) : Outcome Leaf :=
  match tokens with
  | [] => bare []
  | next :: rest =>
    if next.symbol = .within then
      if keyword.argument = .absent then
        .fail (token.error (.valuesGiven keyword.name)) (next :: rest)
      else assigned keyword token rest
    else bare (next :: rest)
where
  bare (rest : List Token) : Outcome Leaf :=
    if keyword.argument = .absent then .read (bareLeaf keyword) rest
    else .fail (token.error (.valuesMissing keyword.name)) rest

/-- The leaf of a name that stands at `token`. -/
def named (registry : Registry) (subject : Subject) (name : String) (token : Token)
    (rest : List Token) : Outcome Leaf :=
  match registry.lookupFor subject name with
  | none => .fail (token.error (.unknownKeyword name subject)) rest
  | some keyword => afterKeyword keyword token rest

theorem length_literals {tokens rest : List Token} {values : List String}
    (hrun : literals.run tokens = .read values rest) : rest.length ≤ tokens.length :=
  Nat.le_of_lt (literals.consumes hrun)

theorem length_selection {keyword : Keyword} {token : Token} {values : List String}
    {tokens rest : List Token} {value : Selection}
    (hrun : selection keyword token values tokens = .read value rest) :
    rest.length ≤ tokens.length := by
  have halone : ∀ tokens, selection.alone keyword token values tokens = .read value rest →
      rest.length ≤ tokens.length := by
    intro tokens halone
    unfold selection.alone at halone
    repeat' split at halone
    all_goals simp_all
  unfold selection at hrun
  repeat' split at hrun
  · obtain ⟨origins, horigins, -⟩ := Outcome.map_eq_read.mp hrun
    exact Nat.le_succ_of_le (length_literals horigins)
  · simp at hrun
  · exact halone _ hrun
  · exact halone _ hrun

theorem length_assigned {keyword : Keyword} {token : Token} {tokens rest : List Token}
    {leaf : Leaf} (hrun : assigned keyword token tokens = .read leaf rest) :
    rest.length ≤ tokens.length := by
  have hvalues : ∀ tokens, assigned.values keyword token tokens = .read leaf rest →
      rest.length ≤ tokens.length := by
    intro tokens hvalues
    obtain ⟨_, hread, -⟩ := Outcome.map_eq_read.mp hvalues
    obtain ⟨values, middle, hliterals, hselection⟩ := Outcome.bind_eq_read.mp hread
    exact Nat.le_trans (length_selection hselection) (length_literals hliterals)
  unfold assigned at hrun
  repeat' split at hrun
  · exact hvalues _ hrun
  · simp_all
  · exact hvalues _ hrun

theorem length_named {registry : Registry} {subject : Subject} {name : String} {token : Token}
    {tokens rest : List Token} {leaf : Leaf}
    (hrun : named registry subject name token tokens = .read leaf rest) :
    rest.length ≤ tokens.length := by
  have hbare : ∀ keyword tokens, afterKeyword.bare keyword token tokens = .read leaf rest →
      rest.length ≤ tokens.length := by
    intro keyword tokens hbare
    unfold afterKeyword.bare at hbare
    split at hbare <;> simp_all
  unfold named at hrun
  split at hrun
  · simp at hrun
  · unfold afterKeyword at hrun
    repeat' split at hrun
    · exact hbare _ _ hrun
    · simp at hrun
    · exact Nat.le_succ_of_le (length_assigned hrun)
    · exact hbare _ _ hrun

/-! ### Expressions -/

/-- The closing parenthesis after a filter. -/
def closed (filter : Filter) : List Token → Outcome Filter
  | [] => .fail ⟨.closingExpected none, none⟩ []
  | token :: rest =>
    if token.symbol = .closing then .read filter rest
    else .fail (token.error (.closingExpected (some token.symbol))) (token :: rest)

theorem length_closed {filter result : Filter} {tokens rest : List Token}
    (hrun : closed filter tokens = .read result rest) : rest.length ≤ tokens.length := by
  unfold closed at hrun
  repeat' split at hrun
  all_goals simp_all

/-- A filter in parentheses, or a keyword with its values. -/
def runPrimary (registry : Registry) (subject : Subject) (inner : Reader Filter) :
    List Token → Outcome Filter
  | [] => .fail ⟨.endOfTokens, none⟩ []
  | token :: rest =>
    match token.symbol with
    | .opening => (inner.run rest).bind closed
    | .word name => (named registry subject name token rest).map .leaf
    | other => .fail (token.error (.keywordExpected other)) (token :: rest)

def primary (registry : Registry) (subject : Subject) (inner : Reader Filter) : Reader Filter where
  run := runPrimary registry subject inner
  consumes {tokens value rest} hrun := by
    unfold runPrimary at hrun
    repeat' split at hrun
    · simp at hrun
    · obtain ⟨filter, middle, hinner, hclosed⟩ := Outcome.bind_eq_read.mp hrun
      have := inner.consumes hinner
      have := length_closed hclosed
      simp only [List.length_cons]
      omega
    · obtain ⟨leaf, hleaf, -⟩ := Outcome.map_eq_read.mp hrun
      exact Nat.lt_succ_of_le (length_named hleaf)
    · simp at hrun

/-- A term and the negations before it. -/
def runTerm (primary : Reader Filter) : List Token → Outcome Filter
  | [] => primary.run []
  | token :: rest =>
    if token.symbol = .not then (runTerm primary rest).map .negation
    else primary.run (token :: rest)

def term (primary : Reader Filter) : Reader Filter where
  run := runTerm primary
  consumes {tokens value rest} hrun := by
    induction tokens generalizing value with
    | nil => exact primary.consumes hrun
    | cons token after ih =>
      unfold runTerm at hrun
      split at hrun
      · obtain ⟨_, hread, -⟩ := Outcome.map_eq_read.mp hrun
        exact Nat.lt_succ_of_lt (ih hread)
      · exact primary.consumes hrun

/-- Operands with one connective between them, joined from the left. -/
def joined (symbol : Symbol) (connective : Connective) (operand : Reader Filter) :
    Reader Filter :=
  (Reader.separated symbol operand).map fun (first, others) ↦
    others.foldl (fun left right ↦ .join left connective right) first

/-- Filters with parentheses up to some depth. -/
def expression (registry : Registry) (subject : Subject) : Nat → Reader Filter
  | 0 => .failing .endOfTokens
  | depth + 1 =>
    joined .or .or (joined .and .and
      (term (primary registry subject (expression registry subject depth))))

/-- A filter that takes up all the tokens. Each parenthesis takes a token, so the tokens bound the
depth. -/
def complete (registry : Registry) (subject : Subject) (tokens : List Token) : Outcome Filter :=
  ((expression registry subject (tokens.length + 1)).run tokens).bind fun filter rest ↦
    match rest with
    | [] => .read (.wrapped filter) []
    | token :: _ => .fail (token.error (.unexpected token.symbol)) rest

/-- A filter that takes up all the tokens, of which there has to be one. -/
def run (registry : Registry) (subject : Subject) (tokens : List Token) : Outcome Filter :=
  if tokens = [] then .fail ⟨.emptyFilter, none⟩ [] else complete registry subject tokens

/-- The results of so many readings of the tokens, each of which begins where the one before it
stopped. -/
def resumed (registry : Registry) (subject : Subject) (tokens : List Token) :
    Nat → List (Except SyntaxError Filter)
  | 0 => []
  | times + 1 =>
    let outcome := complete registry subject tokens
    outcome.toExcept :: resumed registry subject outcome.rest times

/-- As `resumed`, where a list without any token is an error of its own every time. -/
def readings (registry : Registry) (subject : Subject) (tokens : List Token) (times : Nat) :
    List (Except SyntaxError Filter) :=
  if tokens = [] then List.replicate times (.error ⟨.emptyFilter, none⟩)
  else resumed registry subject tokens times

end Parser

namespace Filter

def ofTokens (registry : Registry) (subject : Subject) (tokens : List Token) :
    Except SyntaxError Filter :=
  (Parser.run registry subject tokens).toExcept

/-- The filter that a text says. -/
def ofText (registry : Registry) (subject : Subject) (text : String) :
    Except SyntaxError Filter :=
  ofTokens registry subject (Token.scan text)

end Filter

end CardQuery
