import CardQuery.Proofs.Parsing.Depth

/-!
Reading looks one token ahead. What a run makes of its tokens rests on those that it takes and on
the first that it leaves, and it fails without a place only where none is left (`LooksAhead`). The
rules for a first token that is taken or only looked at, and for one run after another, carry this
through everything that a filter is put together with. Filters in parentheses are one token
shorter, so it is shown for rows of tokens below a bound, and from there for all
(`Parser.looksAhead_complete`).
-/

set_option autoImplicit false
set_option relaxedAutoImplicit false

namespace CardQuery

variable {α β : Type} {tokens rest : List Token} {token : Token} {bound : Nat}

namespace Outcome

/-- The outcome with this result and these tokens left. -/
def ending (result : Except SyntaxError α) (rest : List Token) : Outcome α :=
  match result with
  | .ok value => read value rest
  | .error error => fail error rest

theorem ending_toExcept_rest (outcome : Outcome α) :
    ending outcome.toExcept outcome.rest = outcome := by
  cases outcome <;> rfl

@[simp] theorem toExcept_ending (result : Except SyntaxError α) (rest : List Token) :
    (ending result rest).toExcept = result := by
  cases result <;> rfl

@[simp] theorem rest_ending (result : Except SyntaxError α) (tokens : List Token) :
    (ending result tokens).rest = tokens := by
  cases result <;> rfl

theorem map_ending (change : α → β) (result : Except SyntaxError α) (rest : List Token) :
    (ending result rest).map change = ending (result.map change) rest := by
  cases result <;> rfl

end Outcome

/-- What stands behind the same tokens begins alike if it does so without them. -/
theorem head?_append_congr {rest others : List Token} (hhead : others.head? = rest.head?)
    (taken : List Token) : (taken ++ others).head? = (taken ++ rest).head? := by
  rw [List.head?_append, List.head?_append, hhead]

/-- The run takes some of the tokens off the front. Whatever tokens come after these, its result is
the same and it leaves them all, if they begin with the token that it leaves first here, or are
none if it leaves none. An error at no place leaves none. -/
def LooksAhead (run : List Token → Outcome α) (tokens : List Token) : Prop :=
  ∃ taken rest result, tokens = taken ++ rest ∧
    (∀ error, result = .error error → error.span = none → rest = []) ∧
    ∀ others, others.head? = rest.head? → run (taken ++ others) = .ending result others

namespace LooksAhead

variable {run whole : List Token → Outcome α}

theorem nil (hrest : (run []).rest = []) : LooksAhead run [] := by
  refine ⟨[], [], (run []).toExcept, rfl, fun _ _ _ ↦ rfl, fun others hothers ↦ ?_⟩
  obtain rfl : others = [] := List.head?_eq_none_iff.mp hothers
  calc run []
    _ = .ending (run []).toExcept (run []).rest := (Outcome.ending_toExcept_rest _).symm
    _ = .ending (run []).toExcept [] := by rw [hrest]

theorem read (value : α) (tokens : List Token) : LooksAhead (.read value) tokens :=
  ⟨[], tokens, .ok value, rfl, fun _ herror ↦ (nomatch herror), fun _ _ ↦ rfl⟩

theorem error (token : Token) (fault : SyntaxFault) (tokens : List Token) :
    LooksAhead (.fail (token.error fault) : List Token → Outcome α) tokens := by
  refine ⟨[], tokens, .error (token.error fault), rfl, fun error herror hspan ↦ ?_, fun _ _ ↦ rfl⟩
  obtain rfl := Except.error.inj herror
  cases hspan

/-- A run may stand for another wherever their tokens begin alike. -/
theorem of_head (hlook : LooksAhead run tokens)
    (hwhole : ∀ others, others.head? = tokens.head? → whole others = run others) :
    LooksAhead whole tokens := by
  obtain ⟨taken, rest, result, rfl, hplaced, hrun⟩ := hlook
  refine ⟨taken, rest, result, rfl, hplaced, fun others hothers ↦ ?_⟩
  rw [hwhole _ (head?_append_congr hothers taken), hrun others hothers]

theorem of_nil (hlook : LooksAhead run []) (hwhole : whole [] = run []) : LooksAhead whole [] := by
  refine hlook.of_head fun others hothers ↦ ?_
  obtain rfl : others = [] := List.head?_eq_none_iff.mp hothers
  exact hwhole

/-- A first token that is only looked at. -/
theorem of_cons (hlook : LooksAhead run (token :: rest))
    (hwhole : ∀ rest, whole (token :: rest) = run (token :: rest)) :
    LooksAhead whole (token :: rest) := by
  refine hlook.of_head fun others hothers ↦ ?_
  obtain ⟨after, rfl⟩ := List.head?_eq_some_iff.mp hothers
  exact hwhole after

/-- A first token that is taken. -/
theorem cons (hlook : LooksAhead run rest) (hwhole : ∀ rest, whole (token :: rest) = run rest) :
    LooksAhead whole (token :: rest) := by
  obtain ⟨taken, after, result, rfl, hplaced, hrun⟩ := hlook
  refine ⟨token :: taken, after, result, rfl, hplaced, fun others hothers ↦ ?_⟩
  rw [List.cons_append, hwhole, hrun others hothers]

theorem map (hlook : LooksAhead run tokens) (change : α → β) :
    LooksAhead (fun tokens ↦ (run tokens).map change) tokens := by
  obtain ⟨taken, rest, result, rfl, hplaced, hrun⟩ := hlook
  refine ⟨taken, rest, result.map change, rfl, fun error herror ↦ ?_, fun others hothers ↦ ?_⟩
  · cases result with
    | ok value => cases herror
    | error fault => exact hplaced error (congrArg Except.error (Except.error.inj herror))
  · simp only [hrun others hothers, Outcome.map_ending]

/-- What a run leaves, the next one takes up. -/
theorem bind {next : α → List Token → Outcome β} (hlook : LooksAhead run tokens)
    (hnext : ∀ value rest, run tokens = .read value rest → LooksAhead (next value) rest) :
    LooksAhead (fun tokens ↦ (run tokens).bind next) tokens := by
  obtain ⟨taken, rest, result, rfl, hplaced, hrun⟩ := hlook
  cases result with
  | ok value =>
    obtain ⟨further, last, result, rfl, hlast, hfurther⟩ := hnext value rest (hrun rest rfl)
    refine ⟨taken ++ further, last, result, by rw [List.append_assoc], hlast,
      fun others hothers ↦ ?_⟩
    simp only [List.append_assoc, hrun _ (head?_append_congr hothers further)]
    exact hfurther others hothers
  | error fault =>
    refine ⟨taken, rest, .error fault, rfl, fun error herror ↦ ?_, fun others hothers ↦ ?_⟩
    · exact hplaced error (congrArg Except.error (Except.error.inj herror))
    · simp only [hrun others hothers]
      rfl

end LooksAhead

/-! ### Readers -/

namespace Reader

/-- The reader looks one token ahead on every row of fewer tokens than the bound. -/
def LooksAheadBelow (bound : Nat) (reader : Reader α) : Prop :=
  ∀ tokens : List Token, tokens.length < bound → LooksAhead reader.run tokens

variable {element reader : Reader α}

theorem LooksAheadBelow.map (hreader : reader.LooksAheadBelow bound) (change : α → β) :
    (reader.map change).LooksAheadBelow bound :=
  fun tokens hfew ↦ (hreader tokens hfew).map change

/-- Each turn of a loop takes a token, so what is left of a row below the bound is below it. -/
theorem LooksAheadBelow.more (helement : element.LooksAheadBelow bound) (separator : Symbol)
    {tokens : List Token} (hfew : tokens.length < bound) :
    LooksAhead (more separator element) tokens := by
  match tokens with
  | [] => exact .nil (by rw [Reader.more]; rfl)
  | token :: rest =>
    simp only [List.length_cons] at hfew
    by_cases hseparator : token.symbol = separator
    · have hturn : LooksAhead (fun rest ↦ (element.run rest).bind fun value rest ↦
          (Reader.more separator element rest).map (value :: ·)) rest :=
        (helement rest (by omega)).bind fun value after hread ↦
          have hconsumed := element.consumes hread
          (helement.more separator (show after.length < bound by omega)).map _
      exact hturn.cons fun rest ↦ by rw [more_cons_eq_ite, if_pos hseparator]
    · exact (LooksAhead.read [] _).of_cons fun rest ↦ by rw [more_cons_eq_ite, if_neg hseparator]
termination_by tokens.length
decreasing_by
  simp only [List.length_cons]
  omega

theorem LooksAheadBelow.separated (helement : element.LooksAheadBelow bound) (separator : Symbol) :
    (separated separator element).LooksAheadBelow bound :=
  fun tokens hfew ↦ (helement tokens hfew).bind fun _ _ hread ↦
    (helement.more separator (Nat.lt_trans (element.consumes hread) hfew)).map _

end Reader

/-! ### Parts of a filter -/

namespace Parser

open Reader (LooksAheadBelow)
open Text

theorem looksAhead_leadingWords (tokens : List Token) :
    LooksAhead (fun tokens ↦ .read (leadingWords tokens).1 (leadingWords tokens).2) tokens := by
  induction tokens with
  | nil => exact .nil rfl
  | cons token rest ih =>
    cases hsymbol : token.symbol with
    | word text =>
      exact (ih.map (text :: ·)).cons fun rest ↦ by simp only [leadingWords, hsymbol, Outcome.map]
    | _ => exact (LooksAhead.read [] _).of_cons fun rest ↦ by simp only [leadingWords, hsymbol]

theorem looksAhead_literal (tokens : List Token) : LooksAhead literal.run tokens := by
  show LooksAhead runLiteral tokens
  match tokens with
  | [] => exact .nil rfl
  | token :: rest =>
    cases hsymbol : token.symbol with
    | quoted raw =>
      exact (LooksAhead.read (Quoted.unquote raw) rest).cons fun rest ↦ by
        simp only [runLiteral, hsymbol]
    | number value =>
      exact (LooksAhead.read (String.ofList (Decimal.write value)) rest).cons fun rest ↦ by
        simp only [runLiteral, hsymbol]
    | word text =>
      have hwords := (looksAhead_leadingWords rest).map fun words ↦ " ".intercalate (text :: words)
      exact hwords.cons fun rest ↦ by simp only [runLiteral, hsymbol, Outcome.map]
    | _ =>
      exact (LooksAhead.error token (.literalExpected (some token.symbol)) rest).cons fun rest ↦ by
        simp only [runLiteral, hsymbol]

theorem looksAhead_literals (tokens : List Token) : LooksAhead literals.run tokens := by
  have hliteral : literal.LooksAheadBelow (tokens.length + 1) :=
    fun tokens _ ↦ looksAhead_literal tokens
  exact (hliteral.separated .comma).map _ tokens (Nat.lt_succ_self _)

variable (keyword : Keyword) (token : Token)

theorem looksAhead_selection (values : List String) (tokens : List Token) :
    LooksAhead (selection keyword token values) tokens := by
  have halone : ∀ tokens, LooksAhead (selection.alone keyword token values) tokens := by
    intro tokens
    cases hargument : keyword.argument with
    | sourced domain origins =>
      exact (LooksAhead.error token (.originsMissing keyword.name) tokens).of_head fun _ _ ↦ by
        simp only [selection.alone, hargument]
    | text =>
      by_cases hmany : values.length > 1
      · exact (LooksAhead.error token (.manyTexts keyword.name) tokens).of_head fun _ _ ↦ by
          simp only [selection.alone, hargument, if_pos hmany]
      · exact (LooksAhead.read (.listed values) tokens).of_head fun _ _ ↦ by
          simp only [selection.alone, hargument, if_neg hmany]
    | _ =>
      exact (LooksAhead.read (.listed values) tokens).of_head fun _ _ ↦ by
        simp only [selection.alone, hargument]
  match tokens with
  | [] => exact (halone []).of_nil rfl
  | next :: rest =>
    by_cases horigin : next.symbol = .origin
    · by_cases hsourced : keyword.argument.IsSourced
      · have horigins := (looksAhead_literals rest).map fun origins ↦
          Selection.sourced (.ofLiterals values Choice.valueWildcard)
            (.ofLiterals origins Choice.originWildcard)
        exact horigins.cons fun rest ↦ by
          simp only [selection, if_pos horigin, if_pos hsourced]
      · exact (LooksAhead.error next (.originsGiven keyword.name) rest).cons fun rest ↦ by
          simp only [selection, if_pos horigin, if_neg hsourced]
    · exact (halone _).of_cons fun rest ↦ by simp only [selection, if_neg horigin]

theorem looksAhead_assigned (tokens : List Token) :
    LooksAhead (assigned keyword token) tokens := by
  have hvalues : ∀ tokens, LooksAhead (assigned.values keyword token) tokens :=
    fun tokens ↦ ((looksAhead_literals tokens).bind fun values rest _ ↦
      looksAhead_selection keyword token values rest).map _
  match tokens with
  | [] => exact (hvalues []).of_nil rfl
  | first :: rest =>
    cases hsymbol : first.symbol with
    | variableName name =>
      exact (LooksAhead.read { bareLeaf keyword with variableName := some name } rest).cons
        fun rest ↦ by simp only [assigned, hsymbol]
    | _ => exact (hvalues _).of_cons fun rest ↦ by simp only [assigned, hsymbol]

theorem looksAhead_afterKeyword (tokens : List Token) :
    LooksAhead (afterKeyword keyword token) tokens := by
  have hbare : ∀ tokens, LooksAhead (afterKeyword.bare keyword token) tokens := by
    intro tokens
    by_cases habsent : keyword.argument = .absent
    · exact (LooksAhead.read (bareLeaf keyword) tokens).of_head fun _ _ ↦ by
        simp only [afterKeyword.bare, if_pos habsent]
    · exact (LooksAhead.error token (.valuesMissing keyword.name) tokens).of_head fun _ _ ↦ by
        simp only [afterKeyword.bare, if_neg habsent]
  match tokens with
  | [] => exact (hbare []).of_nil rfl
  | next :: rest =>
    by_cases hwithin : next.symbol = .within
    · by_cases habsent : keyword.argument = .absent
      · exact (LooksAhead.error token (.valuesGiven keyword.name) _).of_cons fun rest ↦ by
          simp only [afterKeyword, if_pos hwithin, if_pos habsent]
      · exact (looksAhead_assigned keyword token rest).cons fun rest ↦ by
          simp only [afterKeyword, if_pos hwithin, if_neg habsent]
    · exact (hbare _).of_cons fun rest ↦ by simp only [afterKeyword, if_neg hwithin]

theorem looksAhead_named (registry : Registry) (subject : Subject) (name : String)
    (tokens : List Token) : LooksAhead (named registry subject name token) tokens := by
  cases hlookup : registry.lookupFor subject name with
  | none =>
    exact (LooksAhead.error token (.unknownKeyword name subject) tokens).of_head fun _ _ ↦ by
      simp only [named, hlookup]
  | some keyword =>
    exact (looksAhead_afterKeyword keyword token tokens).of_head fun _ _ ↦ by
      simp only [named, hlookup]

/-! ### Filters -/

theorem looksAhead_closed (filter : Filter) (tokens : List Token) :
    LooksAhead (closed filter) tokens := by
  match tokens with
  | [] => exact .nil rfl
  | token :: rest =>
    by_cases hclosing : token.symbol = .closing
    · exact (LooksAhead.read filter rest).cons fun rest ↦ by simp only [closed, if_pos hclosing]
    · exact (LooksAhead.error token (.closingExpected (some token.symbol)) _).of_cons fun rest ↦ by
        simp only [closed, if_neg hclosing]

end Parser

namespace Reader

open CardQuery.Parser

variable {registry : Registry} {subject : Subject} {filters : Reader Filter}

theorem LooksAheadBelow.primary (hfilters : filters.LooksAheadBelow bound) :
    (primary registry subject filters).LooksAheadBelow (bound + 1) := by
  intro tokens hfew
  show LooksAhead (runPrimary registry subject filters) tokens
  match tokens with
  | [] => exact .nil rfl
  | token :: rest =>
    cases hsymbol : token.symbol with
    | opening =>
      have hinner := (hfilters rest (Nat.lt_of_succ_lt_succ hfew)).bind
        fun filter rest _ ↦ looksAhead_closed filter rest
      exact hinner.cons fun rest ↦ by simp only [runPrimary, hsymbol]
    | word name =>
      have hnamed := (looksAhead_named token registry subject name rest).map Filter.leaf
      exact hnamed.cons fun rest ↦ by simp only [runPrimary, hsymbol]
    | _ =>
      exact (LooksAhead.error token (.keywordExpected token.symbol) _).of_cons fun rest ↦ by
        simp only [runPrimary, hsymbol]

theorem LooksAheadBelow.term (hfilters : filters.LooksAheadBelow bound) :
    (term filters).LooksAheadBelow bound := by
  intro tokens hfew
  show LooksAhead (runTerm filters) tokens
  induction tokens with
  | nil => exact (hfilters [] hfew).of_nil rfl
  | cons token rest ih =>
    by_cases hnot : token.symbol = .not
    · exact ((ih (Nat.lt_of_succ_lt hfew)).map Filter.negation).cons fun rest ↦ by
        simp only [runTerm, if_pos hnot]
    · exact (hfilters _ hfew).of_cons fun rest ↦ by simp only [runTerm, if_neg hnot]

theorem LooksAheadBelow.joined (hfilters : filters.LooksAheadBelow bound) (symbol : Symbol)
    (connective : Connective) : (joined symbol connective filters).LooksAheadBelow bound :=
  (hfilters.separated symbol).map _

end Reader

namespace Parser

open Reader (LooksAheadBelow)

/-- The filters in parentheses are read from fewer tokens. -/
theorem looksAheadBelow_anyDepth (registry : Registry) (subject : Subject) (bound : Nat) :
    (anyDepth registry subject).LooksAheadBelow bound := by
  induction bound with
  | zero => exact fun _ hfew ↦ absurd hfew (Nat.not_lt_zero _)
  | succ bound ih =>
    intro tokens hfew
    have haround : (filtersAround registry subject (anyDepth registry subject)).LooksAheadBelow
        (bound + 1) :=
      (ih.primary.term.joined .and .and).joined .or .or
    exact (haround tokens hfew).of_head fun others _ ↦ anyDepth_run others

theorem looksAhead_complete (registry : Registry) (subject : Subject) (tokens : List Token) :
    LooksAhead (complete registry subject) tokens := by
  have hfilters : LooksAhead (anyDepth registry subject).run tokens :=
    looksAheadBelow_anyDepth registry subject (tokens.length + 1) tokens (Nat.lt_succ_self _)
  refine hfilters.bind fun filter rest _ ↦ ?_
  match rest with
  | [] => exact .nil rfl
  | token :: rest =>
    exact (LooksAhead.error token (.unexpected token.symbol) _).of_cons fun _ ↦ rfl

variable {registry : Registry} {subject : Subject}

theorem suffix_complete (tokens : List Token) :
    (complete registry subject tokens).rest <:+ tokens := by
  obtain ⟨taken, rest, result, rfl, -, hrun⟩ := looksAhead_complete registry subject tokens
  rw [hrun rest rfl, Outcome.rest_ending]
  exact List.suffix_append taken rest

end Parser

end CardQuery
