import CardQuery.Proofs.Parsing.ErrorSpans
import CardQuery.Proofs.Parsing.Lookahead

/-!
A parser that is asked for a filter again and again. A `Cursor` holds the tokens and how many of
them are taken; each reading begins where the one before it stopped, and what the readings give is
what `Parser.readings` lists (`Cursor.results_start`). As reading looks one token ahead, a reading
that fails is local (`Cursor.FailsLocally`): the tokens up to the one it stops at decide it, its
error is seen among them, and from there on the parser is as good as new.
-/

set_option autoImplicit false
set_option relaxedAutoImplicit false

namespace CardQuery

/-- A parser: the tokens that it was given, and the number of those that it has taken. -/
structure Cursor where
  tokens : List Token
  position : Nat

namespace Cursor

/-- A parser that has taken nothing. -/
def start (tokens : List Token) : Cursor := ⟨tokens, 0⟩

section Readings

variable (registry : Registry) (subject : Subject)

/-- One reading of a filter that takes up all the tokens, and the parser after it. -/
def parse (cursor : Cursor) : Except SyntaxError Filter × Cursor :=
  if cursor.tokens = [] then (.error ⟨.emptyFilter, none⟩, cursor)
  else
    let outcome := Parser.complete registry subject (cursor.tokens.drop cursor.position)
    (outcome.toExcept, ⟨cursor.tokens, cursor.tokens.length - outcome.rest.length⟩)

/-- The results of so many readings. -/
def results (cursor : Cursor) : Nat → List (Except SyntaxError Filter)
  | 0 => []
  | times + 1 =>
    (cursor.parse registry subject).1 :: (cursor.parse registry subject).2.results times

end Readings

variable {registry : Registry} {subject : Subject} {tokens : List Token}

/-! ### Readings and where they stop -/

theorem parse_of_ne_nil (hpresent : tokens ≠ []) (position : Nat) :
    parse registry subject ⟨tokens, position⟩ =
      ((Parser.complete registry subject (tokens.drop position)).toExcept,
        ⟨tokens, tokens.length -
          (Parser.complete registry subject (tokens.drop position)).rest.length⟩) :=
  if_neg hpresent

theorem parse_snd (cursor : Cursor) :
    (cursor.parse registry subject).2 =
      ⟨cursor.tokens, (cursor.parse registry subject).2.position⟩ := by
  unfold parse
  split <;> rfl

/-- The first reading is that of the tokens. -/
theorem parse_start_fst :
    ((start tokens).parse registry subject).1 = Filter.ofTokens registry subject tokens := by
  by_cases hpresent : tokens = []
  · subst hpresent
    rfl
  · simp only [start, parse_of_ne_nil hpresent, List.drop_zero, Filter.ofTokens, Parser.run,
      if_neg hpresent]

/-- A reading stops before the tokens that it leaves. -/
theorem drop_position_parse (hpresent : tokens ≠ []) (position : Nat) :
    tokens.drop (parse registry subject ⟨tokens, position⟩).2.position =
      (Parser.complete registry subject (tokens.drop position)).rest := by
  have hsuffix : (Parser.complete registry subject (tokens.drop position)).rest <:+ tokens :=
    (Parser.suffix_complete _).trans (List.drop_suffix position tokens)
  rw [parse_of_ne_nil hpresent]
  exact (List.suffix_iff_eq_drop.mp hsuffix).symm

/-- A parser gives one after another what the readings of its tokens give. -/
theorem results_start (tokens : List Token) (times : Nat) :
    (start tokens).results registry subject times =
      Parser.readings registry subject tokens times := by
  by_cases hpresent : tokens = []
  · subst hpresent
    rw [Parser.readings, if_pos rfl]
    induction times with
    | zero => rfl
    | succ times ih =>
      rw [List.replicate_succ, ← ih]
      rfl
  · have hresumed : ∀ position, results registry subject ⟨tokens, position⟩ times =
        Parser.resumed registry subject (tokens.drop position) times := by
      induction times with
      | zero => exact fun _ ↦ rfl
      | succ times ih =>
        intro position
        have hnext := ih (parse registry subject ⟨tokens, position⟩).2.position
        rw [drop_position_parse hpresent] at hnext
        rw [results, Parser.resumed, ← hnext, parse_of_ne_nil hpresent]
    rw [Parser.readings, if_neg hpresent]
    exact hresumed 0

/-- A reading among the tokens after some is one among all of them, that many further on. -/
theorem parse_add {taken : Nat} (hleft : taken < tokens.length) (position : Nat) :
    parse registry subject ⟨tokens, taken + position⟩ =
      ((parse registry subject ⟨tokens.drop taken, position⟩).1,
        ⟨tokens, taken + (parse registry subject ⟨tokens.drop taken, position⟩).2.position⟩) := by
  have hpresent : tokens ≠ [] := List.ne_nil_of_length_pos (Nat.zero_lt_of_lt hleft)
  have hdropped : tokens.drop taken ≠ [] := by simpa using hleft
  have hrest : (Parser.complete registry subject (tokens.drop (taken + position))).rest <:+ _ :=
    Parser.suffix_complete _
  replace hrest := hrest.length_le
  rw [List.length_drop] at hrest
  simp only [parse_of_ne_nil hpresent, parse_of_ne_nil hdropped, List.drop_drop, List.length_drop,
    Prod.mk.injEq, Cursor.mk.injEq, true_and]
  omega

/-- Where tokens are left, a parser goes on like one that was given only these, however often it is
asked. -/
theorem results_add {taken : Nat} (hleft : taken < tokens.length) (position times : Nat) :
    results registry subject ⟨tokens, taken + position⟩ times =
      results registry subject ⟨tokens.drop taken, position⟩ times := by
  induction times generalizing position with
  | zero => rfl
  | succ times ih =>
    have hnext := ih (parse registry subject ⟨tokens.drop taken, position⟩).2.position
    rw [results, results, parse_add hleft, hnext,
      parse_snd (⟨tokens.drop taken, position⟩ : Cursor)]

/-- Where no tokens are left of those given, a parser says so and stays there. -/
theorem parse_at_end (hpresent : tokens ≠ []) :
    parse registry subject ⟨tokens, tokens.length⟩ =
      (.error ⟨.endOfTokens, none⟩, ⟨tokens, tokens.length⟩) := by
  rw [parse_of_ne_nil hpresent, List.drop_length]
  rfl

/-! ### Errors -/

/-- Tokens that agree up to the first one that is left have in common what is taken and what comes
first after it. -/
theorem exists_append_of_take_eq {taken rest others : List Token}
    (htake : others.take (taken.length + 1) = (taken ++ rest).take (taken.length + 1)) :
    ∃ after, others = taken ++ after ∧ after.head? = rest.head? := by
  have hfront : others.take taken.length = taken :=
    calc others.take taken.length
      _ = (others.take (taken.length + 1)).take taken.length := by
        rw [List.take_take, Nat.min_eq_left (Nat.le_succ _)]
      _ = taken := by
        rw [htake, List.take_take, Nat.min_eq_left (Nat.le_succ _), List.take_left]
  refine ⟨others.drop taken.length, ?_, ?_⟩
  · have hsplit := List.take_append_drop taken.length others
    rw [hfront] at hsplit
    exact hsplit.symm
  · calc (others.drop taken.length).head?
      _ = (others.take (taken.length + 1))[taken.length]? := by
        rw [List.head?_drop, List.getElem?_take_of_lt (Nat.lt_succ_self _)]
      _ = rest.head? := by
        rw [htake, List.getElem?_take_of_lt (Nat.lt_succ_self _), ← List.head?_drop,
          List.drop_left]

/-- The failure of a new parser with this error at this position is local. -/
structure FailsLocally (registry : Registry) (subject : Subject) (tokens : List Token)
    (error : SyntaxError) (position : Nat) : Prop where
  position_le : position ≤ tokens.length
  /-- Any tokens that agree with these up to the one at the position fail in the same way there. -/
  alike : ∀ others, others.take (position + 1) = tokens.take (position + 1) →
    (start others).parse registry subject = (.error error, ⟨others, position⟩)
  /-- Only the end of the tokens has no place. -/
  position_of_nowhere : error.span = none → position = tokens.length
  /-- An error is seen at a token that is taken or at the next one. -/
  seen : ∀ span, error.span = some span →
    ∃ index token, index ≤ position ∧ tokens[index]? = some token ∧ token.span = span
  /-- The next reading is that of a new parser for the tokens that are left. -/
  resumes : position < tokens.length →
    let fresh := (start (tokens.drop position)).parse registry subject
    parse registry subject ⟨tokens, position⟩ = (fresh.1, ⟨tokens, position + fresh.2.position⟩)
  /-- So are all the readings after it. -/
  readings : position < tokens.length → ∀ times,
    results registry subject ⟨tokens, position⟩ times =
      Parser.readings registry subject (tokens.drop position) times
  /-- If none are left, the next reading says so and takes nothing. -/
  exhausted : position = tokens.length →
    ∃ again, parse registry subject ⟨tokens, position⟩ = (.error again, ⟨tokens, position⟩) ∧
      again.fault.message = "Unexpected end of input" ∧ again.span = none

/-- Whenever a parser that has taken nothing of some tokens fails, its failure is local. -/
theorem failsLocally_of_parse (registry : Registry) (subject : Subject) {tokens : List Token}
    (hpresent : tokens ≠ []) {error : SyntaxError} {position : Nat}
    (hparse : (start tokens).parse registry subject = (.error error, ⟨tokens, position⟩)) :
    FailsLocally registry subject tokens error position := by
  obtain ⟨taken, rest, result, rfl, hplaced, hrun⟩ :=
    Parser.looksAhead_complete registry subject tokens
  have hlike : ∀ others, taken ++ others ≠ [] → others.head? = rest.head? →
      (start (taken ++ others)).parse registry subject =
        (result, ⟨taken ++ others, taken.length⟩) := by
    intro others hothers hhead
    simp [start, parse_of_ne_nil hothers, hrun others hhead]
  obtain ⟨rfl, rfl⟩ : result = .error error ∧ taken.length = position := by
    simpa [hlike rest hpresent rfl] using hparse
  have halike : ∀ others, others.take (taken.length + 1) = (taken ++ rest).take (taken.length + 1) →
      (start others).parse registry subject = (.error error, ⟨others, taken.length⟩) := by
    intro others htake
    obtain ⟨after, rfl, hhead⟩ := exists_append_of_take_eq htake
    refine hlike after (fun hnone ↦ hpresent ?_) hhead
    obtain ⟨rfl, rfl⟩ := List.append_eq_nil_iff.mp hnone
    simpa [eq_comm] using hhead
  refine ⟨by simp, halike, fun hnowhere ↦ ?_, fun span hspan ↦ ?_,
    fun hleft ↦ parse_add hleft 0, fun hleft times ↦ ?_, fun hend ↦ ?_⟩
  · simp [hplaced error rfl hnowhere]
  · -- The tokens up to the one at the position fail alike, so the error is seen among them.
    have hfront := halike ((taken ++ rest).take (taken.length + 1))
      (by rw [List.take_take, Nat.min_self])
    have hread := parse_start_fst.symm.trans (congrArg Prod.fst hfront)
    obtain ⟨token, htoken, hplace⟩ := Filter.exists_token_of_ofTokens hread hspan
    obtain ⟨index, hget⟩ := List.mem_iff_getElem?.mp htoken
    rw [List.getElem?_take] at hget
    split at hget
    · exact ⟨index, token, by omega, hget, hplace⟩
    · cases hget
  · rw [← results_start]
    exact results_add hleft 0 times
  · rw [hend]
    exact ⟨_, parse_at_end hpresent, rfl, rfl⟩

/-- That a keyword wants origins comes out at the word after its values, and is seen where the
keyword stands, five tokens before. -/
theorem failsLocally_of_parse_missingOrigins :
    let tokens := Token.scan "CardCount in 2, 3 and Unique"
    let error : SyntaxError := ⟨.originsMissing "CardCount", some ⟨0, 9⟩⟩
    (start tokens).parse Registry.builtin .card = (.error error, ⟨tokens, 5⟩) ∧
      FailsLocally Registry.builtin .card tokens error 5 := by
  intro tokens error
  have hpresent : tokens ≠ [] := by decide +kernel
  have hlength : tokens.length = 7 := by decide +kernel
  have hfails : (match Parser.complete Registry.builtin .card tokens with
      | .fail found rest => decide (found = error ∧ rest.length = 2)
      | .read _ _ => false) = true := by
    decide +kernel
  have hparse : (start tokens).parse Registry.builtin .card = (.error error, ⟨tokens, 5⟩) := by
    cases hcomplete : Parser.complete Registry.builtin .card tokens with
    | read filter rest => simp [hcomplete] at hfails
    | fail found rest =>
      obtain ⟨rfl, hrest⟩ : found = error ∧ rest.length = 2 := by simpa [hcomplete] using hfails
      rw [start, parse_of_ne_nil hpresent, List.drop_zero, hcomplete, Outcome.rest, hlength, hrest]
      rfl
  exact ⟨hparse, failsLocally_of_parse _ _ hpresent hparse⟩

end Cursor

end CardQuery
