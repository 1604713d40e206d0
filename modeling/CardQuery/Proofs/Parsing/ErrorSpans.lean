import CardQuery.Filter.Parser
import CardQuery.Proofs.Lexing.Spans
import CardQuery.Registry.Builtin

/-!
Where errors are seen. A reader that begins among some tokens leaves some of them, and an error of
it is seen at one of them or at no place (`Outcome.Within`). This is kept by everything that
readers are put together with, so it holds of filters of any depth, and an error of a text is seen
at a token of that text (`within_run`). With the tokens tiling the text, every place that an error
names is a slice of it (`Token.scan_tiles`).
-/

set_option autoImplicit false
set_option relaxedAutoImplicit false

namespace CardQuery

variable {α β : Type} {tokens rest : List Token} {token : Token}

/-! ### Outcomes -/

namespace Outcome

/-- What is left are some of the tokens, and an error is seen at one of them or at no place. -/
def Within (tokens : List Token) : Outcome α → Prop
  | read _ rest => rest ⊆ tokens
  | fail error _ => ∀ span ∈ error.span, ∃ token ∈ tokens, token.span = span

theorem within_error (htoken : token ∈ tokens) (fault : SyntaxFault) (rest : List Token) :
    (fail (token.error fault) rest : Outcome α).Within tokens := by
  intro span hspan
  exact ⟨token, htoken, Option.some.inj hspan⟩

theorem within_nowhere (fault : SyntaxFault) (rest : List Token) :
    (fail ⟨fault, none⟩ rest : Outcome α).Within tokens := by
  intro span hspan
  cases hspan

theorem Within.map {outcome : Outcome α} (houtcome : outcome.Within tokens) (change : α → β) :
    (outcome.map change).Within tokens := by
  cases outcome <;> exact houtcome

theorem Within.bind {outcome : Outcome α} {next : α → List Token → Outcome β}
    (houtcome : outcome.Within tokens)
    (hnext : ∀ value rest, rest ⊆ tokens → (next value rest).Within tokens) :
    (outcome.bind next).Within tokens := by
  cases outcome with
  | read value rest => exact hnext value rest houtcome
  | fail error rest => exact houtcome

end Outcome

/-! ### Readers -/

namespace Reader

/-- Wherever the reader begins among some tokens, it stays among them. -/
def Within (reader : Reader α) : Prop :=
  ∀ ⦃tokens begun : List Token⦄, begun ⊆ tokens → (reader.run begun).Within tokens

theorem Within.map {reader : Reader α} (hreader : reader.Within) (change : α → β) :
    (reader.map change).Within :=
  fun _ _ hbegun ↦ (hreader hbegun).map change

theorem within_failing (fault : SyntaxFault) : (failing fault : Reader α).Within :=
  fun _ _ _ ↦ Outcome.within_nowhere fault _

theorem within_more {element : Reader α} (helement : element.Within) (separator : Symbol)
    (hrest : rest ⊆ tokens) : (more separator element rest).Within tokens := by
  fun_induction more separator element rest with
  | case1 => exact List.nil_subset tokens
  | case2 token after hseparator value middle hread ih =>
    have hmiddle : (Outcome.read value middle).Within tokens :=
      hread ▸ helement (List.subset_of_cons_subset hrest)
    exact (ih hmiddle).map _
  | case3 token after hseparator error middle hread =>
    have hfailed : (element.run after).Within tokens := helement (List.subset_of_cons_subset hrest)
    rw [hread] at hfailed
    exact hfailed
  | case4 => exact hrest

theorem Within.separated {element : Reader α} (helement : element.Within) (separator : Symbol) :
    (separated separator element).Within :=
  fun _ _ hbegun ↦
    (helement hbegun).bind fun _ _ hrest ↦ (within_more helement separator hrest).map _

end Reader

/-! ### Parts of a filter -/

namespace Parser

open Outcome (within_error within_nowhere)

variable {registry : Registry} {subject : Subject}

theorem leadingWords_subset (tokens : List Token) : (leadingWords tokens).2 ⊆ tokens := by
  induction tokens with
  | nil => exact List.Subset.refl _
  | cons token rest ih =>
    unfold leadingWords
    split
    · exact List.subset_cons_of_subset token ih
    · exact List.Subset.refl _

theorem within_literal : literal.Within := by
  intro tokens begun hbegun
  show (runLiteral begun).Within tokens
  unfold runLiteral
  split
  · exact within_nowhere _ _
  · rename_i token rest
    obtain ⟨htoken, hrest⟩ := List.cons_subset.mp hbegun
    split
    · exact hrest
    · exact hrest
    · exact List.Subset.trans (leadingWords_subset rest) hrest
    · exact within_error htoken _ _

theorem within_literals : literals.Within :=
  (within_literal.separated .comma).map _

theorem within_selection (keyword : Keyword) (htoken : token ∈ tokens) (values : List String)
    (hrest : rest ⊆ tokens) : (selection keyword token values rest).Within tokens := by
  have halone : ∀ rest, rest ⊆ tokens →
      (selection.alone keyword token values rest).Within tokens := by
    intro rest hrest
    unfold selection.alone
    split
    · exact within_error htoken _ _
    · split
      · exact within_error htoken _ _
      · exact hrest
    · exact hrest
  unfold selection
  split
  · rename_i next after
    obtain ⟨hnext, hafter⟩ := List.cons_subset.mp hrest
    split
    · split
      · exact (within_literals hafter).map _
      · exact within_error hnext _ _
    · exact halone _ hrest
  · exact halone _ hrest

theorem within_assigned (keyword : Keyword) (htoken : token ∈ tokens) (hrest : rest ⊆ tokens) :
    (assigned keyword token rest).Within tokens := by
  have hvalues : (assigned.values keyword token rest).Within tokens :=
    ((within_literals hrest).bind fun values _ ↦ within_selection keyword htoken values).map _
  unfold assigned
  split
  · exact hvalues
  · split
    · exact List.subset_of_cons_subset hrest
    · exact hvalues

theorem within_named (name : String) (htoken : token ∈ tokens) (hrest : rest ⊆ tokens) :
    (named registry subject name token rest).Within tokens := by
  have hbare : ∀ keyword, (afterKeyword.bare keyword token rest).Within tokens := by
    intro keyword
    unfold afterKeyword.bare
    split
    · exact hrest
    · exact within_error htoken _ _
  unfold named
  split
  · exact within_error htoken _ _
  · unfold afterKeyword
    split
    · exact hbare _
    · split
      · split
        · exact within_error htoken _ _
        · exact within_assigned _ htoken (List.subset_of_cons_subset hrest)
      · exact hbare _

/-! ### Filters -/

theorem within_closed (filter : Filter) (hrest : rest ⊆ tokens) :
    (closed filter rest).Within tokens := by
  unfold closed
  split
  · exact within_nowhere _ _
  · obtain ⟨htoken, hafter⟩ := List.cons_subset.mp hrest
    split
    · exact hafter
    · exact within_error htoken _ _

theorem within_primary {inner : Reader Filter} (hinner : inner.Within) :
    (primary registry subject inner).Within := by
  intro tokens begun hbegun
  show (runPrimary registry subject inner begun).Within tokens
  unfold runPrimary
  split
  · exact within_nowhere _ _
  · obtain ⟨htoken, hrest⟩ := List.cons_subset.mp hbegun
    split
    · exact (hinner hrest).bind fun filter _ ↦ within_closed filter
    · exact (within_named _ htoken hrest).map _
    · exact within_error htoken _ _

theorem within_term {primary : Reader Filter} (hprimary : primary.Within) :
    (term primary).Within := by
  intro tokens begun hbegun
  show (runTerm primary begun).Within tokens
  induction begun with
  | nil => exact hprimary hbegun
  | cons token rest ih =>
    unfold runTerm
    split
    · exact (ih (List.subset_of_cons_subset hbegun)).map _
    · exact hprimary hbegun

theorem within_joined (symbol : Symbol) (connective : Connective) {operand : Reader Filter}
    (hoperand : operand.Within) : (joined symbol connective operand).Within :=
  (hoperand.separated symbol).map _

/-- Whatever its depth, a filter is read among the tokens where it begins. -/
theorem within_expression (depth : Nat) : (expression registry subject depth).Within := by
  induction depth with
  | zero => exact Reader.within_failing _
  | succ depth ih =>
    exact within_joined .or .or (within_joined .and .and (within_term (within_primary ih)))

theorem within_run (registry : Registry) (subject : Subject) (tokens : List Token) :
    (run registry subject tokens).Within tokens := by
  unfold run
  split
  · exact within_nowhere _ _
  · refine (within_expression _ (List.Subset.refl tokens)).bind fun filter rest hrest ↦ ?_
    split
    · exact List.nil_subset tokens
    · exact within_error (List.cons_subset.mp hrest).1 _ _

end Parser

/-! ### Texts -/

/-- An error of tokens is seen at one of them. -/
theorem Filter.exists_token_of_ofTokens {registry : Registry} {subject : Subject}
    {error : SyntaxError} {span : Span} (hread : ofTokens registry subject tokens = .error error)
    (hspan : error.span = some span) : ∃ token ∈ tokens, token.span = span := by
  have hwithin := Parser.within_run registry subject tokens
  rw [ofTokens] at hread
  cases hrun : Parser.run registry subject tokens with
  | read filter rest => simp [hrun, Outcome.toExcept] at hread
  | fail fault rest =>
    obtain rfl : fault = error := by simpa [hrun, Outcome.toExcept] using hread
    rw [hrun] at hwithin
    exact hwithin span hspan

/-- An error of a text is seen at a token of the text. -/
theorem Filter.exists_token_of_error {registry : Registry} {subject : Subject} {text : String}
    {error : SyntaxError} {span : Span} (hread : ofText registry subject text = .error error)
    (hspan : error.span = some span) : ∃ token ∈ Token.scan text, token.span = span :=
  exists_token_of_ofTokens hread hspan

/-- The place at which an error is seen. -/
def Filter.errorSpan? : Except SyntaxError Filter → Option Span
  | .error error => error.span
  | .ok _ => none

namespace Token

/-- The tokens of a text tile it, and every error of the text is seen at one of them if it is seen
at a place. -/
theorem scan_tiles (registry : Registry) (subject : Subject) (text : String) :
    Tile (scan text) text ∧
      ∀ error span, Filter.ofText registry subject text = .error error → error.span = some span →
        ∃ token ∈ scan text, token.span = span where
  left :=
    { cover _token htoken := exists_covers htoken
      apart := pairwise_scanFrom 0 text.toList
      blank := isBlank_or_covers }
  right _error _span hread hspan := Filter.exists_token_of_error hread hspan

/-- A literal after a keyword that takes none is seen where it stands, at the bytes of the literal
with both its quotes. -/
theorem scan_tiles_strayLiteral :
    ∃ error, Filter.ofText Registry.builtin .card "Unique \"é\"" = .error error ∧
      error.span = some ⟨7, 11⟩ ∧
      ∃ token ∈ scan "Unique \"é\"", token.span = ⟨7, 11⟩ ∧
        ∃ slice, token.span.Covers "Unique \"é\"" slice ∧ slice ≠ "" := by
  have hseen : Filter.errorSpan? (Filter.ofText Registry.builtin .card "Unique \"é\"") =
      some ⟨7, 11⟩ := by
    decide +kernel
  cases hread : Filter.ofText Registry.builtin .card "Unique \"é\"" with
  | ok filter => simp [hread, Filter.errorSpan?] at hseen
  | error error =>
    have hspan : error.span = some ⟨7, 11⟩ := by simpa [hread, Filter.errorSpan?] using hseen
    obtain ⟨htiles, herrors⟩ := scan_tiles Registry.builtin .card "Unique \"é\""
    obtain ⟨token, htoken, hplace⟩ := herrors error ⟨7, 11⟩ hread hspan
    obtain ⟨slice, hcovers, hpresent, -⟩ := htiles.cover token htoken
    exact ⟨error, rfl, hspan, token, htoken, hplace, slice, hcovers, hpresent⟩

end Token

end CardQuery
