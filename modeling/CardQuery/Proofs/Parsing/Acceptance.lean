import CardQuery.Proofs.Parsing.Parts

/-!
Filters are read exactly as the grammar derives them. `expression_sound` goes up the readers, one
for each level, and `reads_of_derives` goes down a derivation: what a chain of one connective reads
so far is carried along, so that it can grow at its right end. The depth of a reader only has to be
the number of tokens, because each group takes two of them. `ofTokens_eq_ok_iff` is the whole of
it; as reading has one result, no row of tokens derives two filters.
-/

set_option autoImplicit false
set_option relaxedAutoImplicit false

namespace CardQuery.Grammar

open CardQuery.Parser Text

variable {registry : Registry} {subject : Subject}

/-! ### What is read is derived -/

/-- What a loop takes goes on growing a chain at its right end. -/
theorem more_joins {symbol : Symbol} {connective : Connective} {operand : Reader Filter}
    (chain : Language Filter) {language : Language Filter} (hoperand : Sound operand.run language)
    (hgrow : ∀ {left right first second}, chain left first → language right second →
      chain (left ++ symbol :: right) (.join first connective second))
    {tokens rest : List Token} {others : List Filter}
    (hmore : Reader.more symbol operand tokens = .read others rest) :
    ∃ taken, tokens = taken ++ rest ∧ ∀ {left first}, chain left first →
      chain (left ++ symbols taken)
        (others.foldl (fun left right ↦ .join left connective right) first) := by
  fun_induction Reader.more symbol operand tokens generalizing others with
  | case1 =>
    simp only [Outcome.read.injEq] at hmore
    obtain ⟨rfl, rfl⟩ := hmore
    exact ⟨[], rfl, fun hleft ↦ by simpa using hleft⟩
  | case2 token after hsymbol value middle hread ih =>
    obtain ⟨tail, htail, rfl⟩ := Outcome.map_eq_read.mp hmore
    obtain ⟨front, rfl, hfront⟩ := hoperand _ _ _ hread
    obtain ⟨back, rfl, hback⟩ := ih htail
    refine ⟨token :: (front ++ back), by simp, fun hleft ↦ ?_⟩
    simpa [hsymbol] using hback (hgrow hleft hfront)
  | case3 => simp at hmore
  | case4 =>
    simp only [Outcome.read.injEq] at hmore
    obtain ⟨rfl, rfl⟩ := hmore
    exact ⟨[], rfl, fun hleft ↦ by simpa using hleft⟩

theorem joined_sound {symbol : Symbol} {connective : Connective} {operand : Reader Filter}
    (chain : Language Filter) {language : Language Filter} (hoperand : Sound operand.run language)
    (hsingle : ∀ {word filter}, language word filter → chain word filter)
    (hgrow : ∀ {left right first second}, chain left first → language right second →
      chain (left ++ symbol :: right) (.join first connective second)) :
    Sound (joined symbol connective operand).run chain := by
  intro tokens filter rest hrun
  obtain ⟨⟨first, others⟩, hseparated, rfl⟩ := Outcome.map_eq_read.mp hrun
  obtain ⟨start, middle, hstart, hmore⟩ := Outcome.bind_eq_read.mp hseparated
  obtain ⟨tail, htail, hpair⟩ := Outcome.map_eq_read.mp hmore
  simp only [Prod.mk.injEq] at hpair
  obtain ⟨rfl, rfl⟩ := hpair
  obtain ⟨front, rfl, hfront⟩ := hoperand _ _ _ hstart
  obtain ⟨back, rfl, hback⟩ := more_joins chain hoperand hgrow htail
  exact ⟨front ++ back, by simp, by simpa using hback (hsingle hfront)⟩

theorem primary_sound {inner : Reader Filter}
    (hinner : Sound inner.run (Derives registry subject .disjunction)) :
    Sound (primary registry subject inner).run (Derives registry subject .primary) := by
  intro tokens filter rest hrun
  change runPrimary registry subject inner tokens = .read filter rest at hrun
  unfold runPrimary at hrun
  split at hrun
  · simp at hrun
  · rename_i token after
    split at hrun
    · rename_i hopening
      obtain ⟨content, middle, hcontent, hclosed⟩ := Outcome.bind_eq_read.mp hrun
      obtain ⟨front, rfl, hfront⟩ := hinner _ _ _ hcontent
      unfold closed at hclosed
      split at hclosed
      · simp at hclosed
      · rename_i last others
        split at hclosed
        · rename_i hclosing
          simp only [Outcome.read.injEq] at hclosed
          obtain ⟨rfl, rfl⟩ := hclosed
          refine ⟨token :: (front ++ [last]), by simp, ?_⟩
          simpa [hopening, hclosing] using Derives.group hfront
        · simp at hclosed
    · rename_i name hword
      obtain ⟨entry, hnamed, rfl⟩ := Outcome.map_eq_read.mp hrun
      obtain ⟨taken, rfl, hpart⟩ := named_sound hnamed
      exact ⟨token :: taken, rfl, .part (by simpa [hword] using hpart)⟩
    · simp at hrun

theorem term_sound {operand : Reader Filter}
    (hoperand : Sound operand.run (Derives registry subject .primary)) :
    Sound (term operand).run (Derives registry subject .term) := by
  intro tokens filter rest hrun
  change runTerm operand tokens = .read filter rest at hrun
  induction tokens generalizing filter with
  | nil =>
    obtain ⟨taken, htaken, hfilter⟩ := hoperand _ _ _ hrun
    exact ⟨taken, htaken, .primary hfilter⟩
  | cons token after ih =>
    unfold runTerm at hrun
    split at hrun
    · rename_i hnot
      obtain ⟨negated, hnegated, rfl⟩ := Outcome.map_eq_read.mp hrun
      obtain ⟨taken, rfl, hfilter⟩ := ih negated hnegated
      exact ⟨token :: taken, rfl, by simpa [hnot] using Derives.not hfilter⟩
    · obtain ⟨taken, htaken, hfilter⟩ := hoperand _ _ _ hrun
      exact ⟨taken, htaken, .primary hfilter⟩

/-- Whatever its depth, a reader of filters takes only what the grammar derives. -/
theorem expression_sound (depth : Nat) :
    Sound (expression registry subject depth).run (Derives registry subject .disjunction) := by
  induction depth with
  | zero =>
    intro tokens filter rest hrun
    simp [expression, Reader.failing] at hrun
  | succ depth ih =>
    have hterm := term_sound (primary_sound ih)
    have hconjunction := joined_sound (Derives registry subject .conjunction) hterm .term .and
    exact joined_sound (Derives registry subject .disjunction) hconjunction .conjunction .or

/-! ### What is derived is read -/

/-- Terms with parentheses up to a depth inside them. -/
def termReader (registry : Registry) (subject : Subject) (depth : Nat) : Reader Filter :=
  term (primary registry subject (expression registry subject depth))

def conjunctionReader (registry : Registry) (subject : Subject) (depth : Nat) : Reader Filter :=
  joined .and .and (termReader registry subject depth)

/-- After the tokens the chain reads the filter, and goes on with what follows them. -/
def Continues (symbol : Symbol) (connective : Connective) (operand : Reader Filter)
    (taken rest : List Token) (filter : Filter) : Prop :=
  (joined symbol connective operand).run (taken ++ rest) =
    (Reader.more symbol operand rest).map fun others ↦
      others.foldl (fun left right ↦ .join left connective right) filter

section Chains

variable {symbol : Symbol} {connective : Connective} {operand : Reader Filter}

theorem continues_single {taken rest : List Token} {filter : Filter}
    (hread : operand.run (taken ++ rest) = .read filter rest) :
    Continues symbol connective operand taken rest filter := by
  simp only [Continues, joined, Reader.map, Reader.separated, hread, Outcome.bind]
  cases Reader.more symbol operand rest <;> rfl

theorem Continues.grow {taken right rest : List Token} {token : Token} {first second : Filter}
    (hleft : Continues symbol connective operand taken (token :: (right ++ rest)) first)
    (hsymbol : token.symbol = symbol)
    (hright : operand.run (right ++ rest) = .read second rest) :
    Continues symbol connective operand (taken ++ token :: right) rest
      (.join first connective second) := by
  unfold Continues at hleft ⊢
  rw [List.append_assoc, List.cons_append, hleft, more_cons hsymbol hright]
  cases Reader.more symbol operand rest <;> rfl

theorem Continues.stop {taken rest : List Token} {filter : Filter} {allowed : List Symbol}
    (hcontinues : Continues symbol connective operand taken rest filter)
    (hfollow : NextIn allowed rest) (hsymbol : symbol ∉ allowed) :
    (joined symbol connective operand).run (taken ++ rest) = .read filter rest := by
  rw [hcontinues, more_eq_nil hfollow hsymbol]
  rfl

end Chains

/-- What a reader of each level makes of the tokens, whatever may follow them. -/
def Reads (registry : Registry) (subject : Subject) (depth : Nat) (taken : List Token)
    (filter : Filter) : Level → Prop
  | .disjunction => ∀ rest, NextIn [.or, .closing] rest →
      Continues .or .or (conjunctionReader registry subject depth) taken rest filter
  | .conjunction => ∀ rest, NextIn afterPart rest →
      Continues .and .and (termReader registry subject depth) taken rest filter
  | .term => ∀ rest, NextIn afterPart rest →
      (termReader registry subject depth).run (taken ++ rest) = .read filter rest
  | .primary => ∀ rest, NextIn afterPart rest →
      runPrimary registry subject (expression registry subject depth) (taken ++ rest) =
        .read filter rest

theorem Reads.conjunction {depth : Nat} {taken rest : List Token} {filter : Filter}
    (hreads : Reads registry subject depth taken filter .conjunction)
    (hfollow : NextIn [.or, .closing] rest) :
    (conjunctionReader registry subject depth).run (taken ++ rest) = .read filter rest :=
  (hreads rest (hfollow.mono (by decide))).stop hfollow (by decide)

theorem Reads.disjunction {depth : Nat} {taken rest : List Token} {filter : Filter}
    (hreads : Reads registry subject depth taken filter .disjunction)
    (hfollow : NextIn [.closing] rest) :
    (expression registry subject (depth + 1)).run (taken ++ rest) = .read filter rest :=
  (hreads rest (hfollow.mono (by decide))).stop hfollow (by decide)

/-- A term that does not begin with a negation is read as what it is without one. -/
theorem termReader_run {depth : Nat} {tokens rest : List Token} {filter : Filter}
    (hread : runPrimary registry subject (expression registry subject depth) tokens =
      .read filter rest) :
    (termReader registry subject depth).run tokens = .read filter rest := by
  change runTerm _ tokens = .read filter rest
  cases tokens with
  | nil => exact hread
  | cons token after =>
    have hother : token.symbol ≠ .not := by
      intro hnot
      simp [runPrimary, hnot] at hread
    rw [runTerm, if_neg hother]
    exact hread

/-- Readers of a depth that the number of tokens allows take every word that the grammar
derives. -/
theorem reads_of_derives {level : Level} {word : List Symbol} {filter : Filter}
    (hderives : Derives registry subject level word filter) :
    ∀ depth taken, symbols taken = word → taken.length ≤ depth →
      Reads registry subject depth taken filter level := by
  induction hderives with
  | conjunction _ ih =>
    intro depth taken htaken hdepth rest hfollow
    exact continues_single ((ih depth taken htaken hdepth).conjunction hfollow)
  | or _ _ hleft hright =>
    intro depth taken htaken hdepth rest hfollow
    obtain ⟨front, token, others, rfl, hfront, hor, hothers⟩ := exists_of_symbols_eq htaken
    simp only [List.length_append, List.length_cons] at hdepth
    have hnext : NextIn [.or, .closing] (token :: (others ++ rest)) :=
      nextIn_cons.mpr (by simp [hor])
    exact (hleft depth front hfront (by omega) _ hnext).grow hor
      ((hright depth others hothers (by omega)).conjunction hfollow)
  | term _ ih =>
    intro depth taken htaken hdepth rest hfollow
    exact continues_single (ih depth taken htaken hdepth rest hfollow)
  | and _ _ hleft hright =>
    intro depth taken htaken hdepth rest hfollow
    obtain ⟨front, token, others, rfl, hfront, hand, hothers⟩ := exists_of_symbols_eq htaken
    simp only [List.length_append, List.length_cons] at hdepth
    have hnext : NextIn afterPart (token :: (others ++ rest)) :=
      nextIn_cons.mpr (by simp [hand, afterPart])
    exact (hleft depth front hfront (by omega) _ hnext).grow hand
      (hright depth others hothers (by omega) rest hfollow)
  | primary _ ih =>
    intro depth taken htaken hdepth rest hfollow
    exact termReader_run (ih depth taken htaken hdepth rest hfollow)
  | not _ ih =>
    intro depth taken htaken hdepth rest hfollow
    obtain ⟨token, others, rfl, hnot, hothers⟩ := List.map_eq_cons_iff.mp htaken
    have hread := ih depth others hothers (Nat.le_of_succ_le hdepth) rest hfollow
    change runTerm _ _ = _ at hread
    change runTerm _ _ = _
    rw [List.cons_append, runTerm, if_pos hnot, hread]
    rfl
  | group _ ih =>
    intro depth taken htaken hdepth rest hfollow
    obtain ⟨opening, others, rfl, hopening, hothers⟩ := List.map_eq_cons_iff.mp htaken
    obtain ⟨content, closing, last, rfl, hcontent, hclosing, hlast⟩ := exists_of_symbols_eq hothers
    obtain rfl : last = [] := List.map_eq_nil_iff.mp hlast
    simp only [List.length_cons, List.length_append] at hdepth
    obtain ⟨lower, rfl⟩ : ∃ lower, depth = lower + 1 := ⟨depth - 1, by omega⟩
    have hnext : NextIn [.closing] (closing :: rest) := nextIn_cons.mpr (by simp [hclosing])
    have hread := (ih lower content hcontent (by omega)).disjunction hnext
    simp [runPrimary, hopening, hread, Outcome.bind, closed, hclosing]
  | part hpart =>
    intro depth taken htaken hdepth rest hfollow
    subst htaken
    cases taken with
    | nil => cases hpart
    | cons token others =>
      obtain ⟨name, hword⟩ := hpart.head
      rw [symbols_cons, hword] at hpart
      simp [runPrimary, hword, named_complete hpart hfollow, Outcome.map]

/-! ### All the tokens -/

theorem complete_eq_read_iff {tokens rest : List Token} {filter : Filter} :
    complete registry subject tokens = .read filter rest ↔
      rest = [] ∧ ∃ inner, filter = .wrapped inner ∧
        (expression registry subject (tokens.length + 1)).run tokens = .read inner [] := by
  unfold complete
  constructor
  · intro hcomplete
    obtain ⟨inner, middle, hread, hend⟩ := Outcome.bind_eq_read.mp hcomplete
    cases middle with
    | nil =>
      simp only [Outcome.read.injEq] at hend
      obtain ⟨rfl, rfl⟩ := hend
      exact ⟨rfl, inner, rfl, hread⟩
    | cons => simp at hend
  · rintro ⟨rfl, inner, rfl, hread⟩
    exact Outcome.bind_eq_read.mpr ⟨inner, [], hread, rfl⟩

theorem derives_of_ofTokens {tokens : List Token} {filter : Filter}
    (hread : Filter.ofTokens registry subject tokens = .ok filter) :
    ∃ inner, filter = .wrapped inner ∧
      Derives registry subject .disjunction (symbols tokens) inner := by
  unfold Filter.ofTokens run at hread
  split at hread
  · simp [Outcome.toExcept] at hread
  · cases houtcome : complete registry subject tokens with
    | read value rest =>
      simp only [houtcome, Outcome.toExcept, Except.ok.injEq] at hread
      subst hread
      obtain ⟨-, inner, rfl, hinner⟩ := complete_eq_read_iff.mp houtcome
      obtain ⟨taken, htaken, hderives⟩ := expression_sound _ _ _ _ hinner
      exact ⟨inner, rfl, by simpa [htaken] using hderives⟩
    | fail error rest => simp [houtcome, Outcome.toExcept] at hread

theorem Derives.ne_nil {level : Level} {word : List Symbol} {filter : Filter}
    (hderives : Derives registry subject level word filter) : word ≠ [] := by
  induction hderives with
  | part hpart => cases hpart <;> simp
  | _ => simp_all

theorem ofTokens_of_derives {tokens : List Token} {inner : Filter}
    (hderives : Derives registry subject .disjunction (symbols tokens) inner) :
    Filter.ofTokens registry subject tokens = .ok (.wrapped inner) := by
  have hpresent : tokens ≠ [] := by
    rintro rfl
    exact hderives.ne_nil rfl
  have hread := (reads_of_derives hderives _ tokens rfl (Nat.le_refl _)).disjunction (NextIn.nil _)
  rw [List.append_nil] at hread
  have hcomplete := complete_eq_read_iff.mpr ⟨rfl, inner, rfl, hread⟩
  simp [Filter.ofTokens, run, hpresent, hcomplete, Outcome.toExcept]

/-- The tokens are read as a filter exactly if all of them together derive it, and they derive one
filter at the most. -/
theorem ofTokens_eq_ok_iff (registry : Registry) (subject : Subject) (tokens : List Token) :
    (∀ filter, Filter.ofTokens registry subject tokens = .ok filter ↔
      ∃ inner, filter = .wrapped inner ∧
        Derives registry subject .disjunction (tokens.map Token.symbol) inner) ∧
    ∀ first second,
      Derives registry subject .disjunction (tokens.map Token.symbol) first →
        Derives registry subject .disjunction (tokens.map Token.symbol) second →
          first = second := by
  refine ⟨fun filter ↦ ⟨derives_of_ofTokens, ?_⟩, fun first second hfirst hsecond ↦ ?_⟩
  · rintro ⟨inner, rfl, hderives⟩
    exact ofTokens_of_derives hderives
  · have hsame := (ofTokens_of_derives hfirst).symm.trans (ofTokens_of_derives hsecond)
    simpa using hsame

end CardQuery.Grammar
