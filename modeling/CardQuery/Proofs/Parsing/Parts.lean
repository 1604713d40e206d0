import CardQuery.Filter.Parser
import CardQuery.Proofs.Parsing.Grammar

/-!
Reading keywords with their arguments. A reader is `Sound` for a language if the tokens it takes
spell a word of that language with the value it returns, and `Complete` if it reads every word of
the language that stands before tokens the language lets follow. Literals, lists of values and the
tokens after a keyword are both, which `named_sound` and `named_complete` put together.
-/

set_option autoImplicit false
set_option relaxedAutoImplicit false

namespace CardQuery.Grammar

open CardQuery.Parser Text

variable {α : Type}

/-! ### Readers and languages -/

/-- Words with the values they stand for. -/
abbrev Language (α : Type) := List Symbol → α → Prop

/-- The symbols of tokens. -/
def symbols (tokens : List Token) : List Symbol := tokens.map Token.symbol

@[simp] theorem symbols_nil : symbols [] = [] := rfl

@[simp] theorem symbols_cons (token : Token) (rest : List Token) :
    symbols (token :: rest) = token.symbol :: symbols rest := rfl

@[simp] theorem symbols_append (first second : List Token) :
    symbols (first ++ second) = symbols first ++ symbols second := List.map_append

/-- Tokens that are written as two words with a symbol between them. -/
theorem exists_of_symbols_eq {taken : List Token} {first second : List Symbol} {symbol : Symbol}
    (htaken : symbols taken = first ++ symbol :: second) :
    ∃ front token others, taken = front ++ token :: others ∧
      symbols front = first ∧ token.symbol = symbol ∧ symbols others = second := by
  obtain ⟨front, back, rfl, hfront, hback⟩ := List.map_eq_append_iff.mp htaken
  obtain ⟨token, others, rfl, hsymbol, hothers⟩ := List.map_eq_cons_iff.mp hback
  exact ⟨front, token, others, rfl, hfront, hsymbol, hothers⟩

/-- The next token, if there is one, has one of the symbols. -/
def NextIn (allowed : List Symbol) (tokens : List Token) : Prop :=
  ∀ token ∈ tokens.head?, token.symbol ∈ allowed

theorem NextIn.nil (allowed : List Symbol) : NextIn allowed [] := by
  simp [NextIn]

theorem nextIn_cons {allowed : List Symbol} {token : Token} {rest : List Token} :
    NextIn allowed (token :: rest) ↔ token.symbol ∈ allowed := by
  simp [NextIn]

theorem NextIn.mono {allowed wider : List Symbol} {tokens : List Token}
    (hnext : NextIn allowed tokens) (hsubset : allowed ⊆ wider) : NextIn wider tokens :=
  fun token htoken ↦ hsubset (hnext token htoken)

/-- What the reader takes is a word of the language. -/
def Sound (run : List Token → Outcome α) (language : Language α) : Prop :=
  ∀ tokens value rest, run tokens = .read value rest →
    ∃ taken, tokens = taken ++ rest ∧ language (symbols taken) value

/-- The reader takes every word of the language in front of what may follow it. -/
def Complete (run : List Token → Outcome α) (language : Language α) (follow : List Symbol) : Prop :=
  ∀ taken rest value, language (symbols taken) value → NextIn follow rest →
    run (taken ++ rest) = .read value rest

/-- What may follow a literal. -/
def afterLiteral : List Symbol := [.comma, .origin, .and, .or, .closing]

/-- What may follow the values of one side. -/
def afterValues : List Symbol := [.origin, .and, .or, .closing]

/-- What may follow a keyword with its argument. -/
def afterPart : List Symbol := [.and, .or, .closing]

/-! ### Literals -/

theorem leadingWords_sound (tokens : List Token) :
    ∃ taken, tokens = taken ++ (leadingWords tokens).2 ∧
      symbols taken = (leadingWords tokens).1.map .word := by
  induction tokens with
  | nil => exact ⟨[], rfl, rfl⟩
  | cons token rest ih =>
    unfold leadingWords
    split
    · rename_i text hsymbol
      obtain ⟨taken, hrest, hwords⟩ := ih
      refine ⟨token :: taken, ?_, ?_⟩
      · exact congrArg (token :: ·) hrest
      · simp [hsymbol, hwords]
    · exact ⟨[], rfl, rfl⟩

theorem leadingWords_complete {taken rest : List Token} {words : List String}
    (hwords : symbols taken = words.map .word) (hfollow : NextIn afterLiteral rest) :
    leadingWords (taken ++ rest) = (words, rest) := by
  induction words generalizing taken with
  | nil =>
    obtain rfl : taken = [] := List.map_eq_nil_iff.mp hwords
    cases rest with
    | nil => rfl
    | cons token after =>
      have hnext := nextIn_cons.mp hfollow
      rw [List.nil_append, leadingWords]
      split
      · rename_i text hsymbol
        simp [hsymbol, afterLiteral] at hnext
      · rfl
  | cons word words ih =>
    obtain ⟨token, others, rfl, hsymbol, hothers⟩ := List.map_eq_cons_iff.mp hwords
    rw [List.cons_append, leadingWords, hsymbol]
    simp only [ih hothers]

theorem literal_sound : Sound literal.run Literal := by
  intro tokens value rest hrun
  change runLiteral tokens = .read value rest at hrun
  unfold runLiteral at hrun
  split at hrun
  · simp at hrun
  · rename_i token after
    split at hrun
    · rename_i raw hsymbol
      simp only [Outcome.read.injEq] at hrun
      obtain ⟨rfl, rfl⟩ := hrun
      exact ⟨[token], rfl, by simpa [hsymbol] using Literal.quoted raw⟩
    · rename_i number hsymbol
      simp only [Outcome.read.injEq] at hrun
      obtain ⟨rfl, rfl⟩ := hrun
      exact ⟨[token], rfl, by simpa [hsymbol] using Literal.number number⟩
    · rename_i text hsymbol
      obtain ⟨taken, hafter, hwords⟩ := leadingWords_sound after
      simp only [Outcome.read.injEq] at hrun
      obtain ⟨rfl, rfl⟩ := hrun
      refine ⟨token :: taken, congrArg (token :: ·) hafter, ?_⟩
      simpa [hsymbol, hwords] using Literal.words text (leadingWords after).1
    · simp at hrun

theorem literal_complete : Complete literal.run Literal afterLiteral := by
  intro taken rest value hliteral hfollow
  change runLiteral (taken ++ rest) = .read value rest
  generalize hword : symbols taken = word at hliteral
  cases hliteral with
  | quoted raw =>
    obtain ⟨token, rfl, hsymbol⟩ := List.map_eq_singleton_iff.mp hword
    simp [runLiteral, hsymbol]
  | number number =>
    obtain ⟨token, rfl, hsymbol⟩ := List.map_eq_singleton_iff.mp hword
    simp [runLiteral, hsymbol]
  | words first others =>
    obtain ⟨token, after, rfl, hsymbol, hafter⟩ := List.map_eq_cons_iff.mp hword
    simp only [List.cons_append, runLiteral, hsymbol, leadingWords_complete hafter hfollow]

/-! ### Values -/

/-- Further literals, each with a comma before it, are values together with a first literal. -/
theorem more_sound {tokens rest : List Token} {others : List String}
    (hmore : Reader.more .comma literal tokens = .read others rest) :
    ∃ taken, tokens = taken ++ rest ∧
      ∀ word first, Literal word first → Values (word ++ symbols taken) (first :: others) := by
  fun_induction Reader.more .comma literal tokens generalizing others with
  | case1 =>
    simp only [Outcome.read.injEq] at hmore
    obtain ⟨rfl, rfl⟩ := hmore
    exact ⟨[], rfl, fun word first hliteral ↦ by simpa using Values.single hliteral⟩
  | case2 token after hcomma value middle hread ih =>
    obtain ⟨tail, htail, rfl⟩ := Outcome.map_eq_read.mp hmore
    obtain ⟨front, rfl, hfront⟩ := literal_sound _ _ _ hread
    obtain ⟨back, rfl, hback⟩ := ih htail
    refine ⟨token :: (front ++ back), by simp, fun word first hliteral ↦ ?_⟩
    simpa [hcomma] using Values.more hliteral (hback _ _ hfront)
  | case3 => simp at hmore
  | case4 token after _ =>
    simp only [Outcome.read.injEq] at hmore
    obtain ⟨rfl, rfl⟩ := hmore
    exact ⟨[], rfl, fun word first hliteral ↦ by simpa using Values.single hliteral⟩

theorem literals_sound : Sound literals.run Values := by
  intro tokens values rest hrun
  obtain ⟨⟨first, others⟩, hseparated, rfl⟩ := Outcome.map_eq_read.mp hrun
  obtain ⟨text, middle, htext, hmore⟩ := Outcome.bind_eq_read.mp hseparated
  obtain ⟨tail, htail, hpair⟩ := Outcome.map_eq_read.mp hmore
  simp only [Prod.mk.injEq] at hpair
  obtain ⟨rfl, rfl⟩ := hpair
  obtain ⟨front, rfl, hfront⟩ := literal_sound _ _ _ htext
  obtain ⟨back, rfl, hback⟩ := more_sound htail
  exact ⟨front ++ back, by simp, by simpa using hback _ _ hfront⟩

/-- A loop over separated elements stops where no separator follows. -/
theorem more_eq_nil {separator : Symbol} {element : Reader α} {allowed : List Symbol}
    {rest : List Token} (hfollow : NextIn allowed rest) (hseparator : separator ∉ allowed) :
    Reader.more separator element rest = .read [] rest := by
  cases rest with
  | nil => rw [Reader.more]
  | cons token after =>
    have hother : token.symbol ≠ separator := fun heq ↦
      hseparator (heq ▸ nextIn_cons.mp hfollow)
    rw [Reader.more_cons_eq_ite, if_neg hother]

theorem more_cons {separator : Symbol} {element : Reader α} {token : Token}
    {after rest : List Token} {value : α} (hsymbol : token.symbol = separator)
    (hread : element.run after = .read value rest) :
    Reader.more separator element (token :: after) =
      (Reader.more separator element rest).map (value :: ·) := by
  rw [Reader.more_cons_eq_ite, if_pos hsymbol, hread]
  rfl

theorem literals_complete : Complete literals.run Values afterValues := by
  -- The loop goes over the literals from the left, as the words of `Values` are built.
  have hall : ∀ {word : List Symbol} {values : List String}, Values word values →
      ∀ taken rest, symbols taken = word → NextIn afterValues rest →
        ∃ first others middle, literal.run (taken ++ rest) = .read first middle ∧
          Reader.more .comma literal middle = .read others rest ∧ first :: others = values := by
    intro word values hvalues
    induction hvalues with
    | single hliteral =>
      rename_i text
      rintro taken rest rfl hfollow
      refine ⟨text, [], rest, ?_, more_eq_nil hfollow (by decide), rfl⟩
      exact literal_complete _ _ _ hliteral (hfollow.mono (by decide))
    | more hliteral hvalues ih =>
      rename_i text texts
      intro taken rest htaken hfollow
      obtain ⟨front, token, others, rfl, rfl, hsymbol, hothers⟩ := exists_of_symbols_eq htaken
      obtain ⟨first, later, middle, hfirst, hmore, rfl⟩ := ih others rest hothers hfollow
      refine ⟨text, first :: later, token :: (others ++ rest), ?_, ?_, rfl⟩
      · rw [List.append_assoc, List.cons_append]
        exact literal_complete _ _ _ hliteral (nextIn_cons.mpr (by simp [hsymbol, afterLiteral]))
      · rw [more_cons hsymbol hfirst, hmore]
        rfl
  intro taken rest values hvalues hfollow
  obtain ⟨first, others, middle, hfirst, hmore, rfl⟩ := hall hvalues taken rest rfl hfollow
  simp [literals, Reader.map, Reader.separated, hfirst, hmore, Outcome.map, Outcome.bind]

/-! ### What follows a keyword -/

variable {registry : Registry} {subject : Subject}

/-- Values that no origins follow suit the argument on their own. -/
theorem alone_sound {name : String} {keyword : Keyword} {token : Token} {word : List Symbol}
    {values : List String} {tokens rest : List Token} {selected : Selection}
    (hname : Names registry subject name keyword) (hargument : keyword.argument ≠ .absent)
    (hvalues : Values word values)
    (hrun : selection.alone keyword token values tokens = .read selected rest) :
    tokens = rest ∧ Part registry subject (.word name :: .within :: word)
      (leafOf keyword none (some selected)) := by
  unfold selection.alone at hrun
  split at hrun
  · simp at hrun
  · rename_i htext
    split at hrun
    · simp at hrun
    · rename_i hcount
      simp only [Outcome.read.injEq] at hrun
      obtain ⟨rfl, rfl⟩ := hrun
      obtain ⟨value, rfl, hliteral⟩ := hvalues.literal_of_length_le_one (by omega)
      exact ⟨rfl, .text hname htext hliteral⟩
  · rename_i hsourced htext
    simp only [Outcome.read.injEq] at hrun
    obtain ⟨rfl, rfl⟩ := hrun
    refine ⟨rfl, ?_⟩
    cases hkind : keyword.argument with
    | absent => exact absurd hkind hargument
    | text => exact absurd hkind htext
    | list domain => exact .list hname hkind hvalues
    | sourced domain origins => exact absurd hkind (hsourced domain origins)

theorem selection_sound {name : String} {keyword : Keyword} {token : Token} {word : List Symbol}
    {values : List String} {tokens rest : List Token} {selected : Selection}
    (hname : Names registry subject name keyword) (hargument : keyword.argument ≠ .absent)
    (hvalues : Values word values)
    (hrun : selection keyword token values tokens = .read selected rest) :
    ∃ taken, tokens = taken ++ rest ∧
      Part registry subject (.word name :: .within :: (word ++ symbols taken))
        (leafOf keyword none (some selected)) := by
  have halone : selection.alone keyword token values tokens = .read selected rest →
      ∃ taken, tokens = taken ++ rest ∧
        Part registry subject (.word name :: .within :: (word ++ symbols taken))
          (leafOf keyword none (some selected)) := by
    intro hread
    obtain ⟨rfl, hpart⟩ := alone_sound hname hargument hvalues hread
    exact ⟨[], rfl, by simpa using hpart⟩
  unfold selection at hrun
  split at hrun
  · rename_i next after
    split at hrun
    · rename_i horigin
      split at hrun
      · rename_i hsourced
        obtain ⟨origins, horigins, rfl⟩ := Outcome.map_eq_read.mp hrun
        obtain ⟨back, rfl, hback⟩ := literals_sound _ _ _ horigins
        refine ⟨next :: back, rfl, ?_⟩
        cases hkind : keyword.argument with
        | sourced domain originDomain =>
          simpa [horigin] using Part.sourced hname hkind hvalues hback
        | absent | text | list => simp [hkind, Argument.IsSourced] at hsourced
      · simp at hrun
    · exact halone hrun
  · exact halone hrun

theorem assigned_values_sound {name : String} {keyword : Keyword} {token : Token}
    {tokens rest : List Token} {entry : Leaf} (hname : Names registry subject name keyword)
    (hargument : keyword.argument ≠ .absent)
    (hrun : assigned.values keyword token tokens = .read entry rest) :
    ∃ taken, tokens = taken ++ rest ∧
      Part registry subject (.word name :: .within :: symbols taken) entry := by
  obtain ⟨selected, hselected, rfl⟩ := Outcome.map_eq_read.mp hrun
  obtain ⟨values, middle, hliterals, hselection⟩ := Outcome.bind_eq_read.mp hselected
  obtain ⟨front, rfl, hvalues⟩ := literals_sound _ _ _ hliterals
  obtain ⟨back, rfl, hpart⟩ := selection_sound hname hargument hvalues hselection
  refine ⟨front ++ back, by simp, ?_⟩
  rw [symbols_append]
  exact hpart

theorem assigned_sound {name : String} {keyword : Keyword} {token : Token}
    {tokens rest : List Token} {entry : Leaf} (hname : Names registry subject name keyword)
    (hargument : keyword.argument ≠ .absent)
    (hrun : assigned keyword token tokens = .read entry rest) :
    ∃ taken, tokens = taken ++ rest ∧
      Part registry subject (.word name :: .within :: symbols taken) entry := by
  unfold assigned at hrun
  split at hrun
  · exact assigned_values_sound hname hargument hrun
  · rename_i first others
    split at hrun
    · rename_i variableName hvariable
      simp only [Outcome.read.injEq] at hrun
      obtain ⟨rfl, rfl⟩ := hrun
      refine ⟨[first], rfl, ?_⟩
      simpa [hvariable, leafOf, bareLeaf] using Part.variableName hname hargument variableName
    · exact assigned_values_sound hname hargument hrun

theorem bare_sound {name : String} {keyword : Keyword} {token : Token} {tokens rest : List Token}
    {entry : Leaf} (hname : Names registry subject name keyword)
    (hrun : afterKeyword.bare keyword token tokens = .read entry rest) :
    tokens = rest ∧ Part registry subject [.word name] entry := by
  unfold afterKeyword.bare at hrun
  split at hrun
  · rename_i habsent
    simp only [Outcome.read.injEq] at hrun
    obtain ⟨rfl, rfl⟩ := hrun
    exact ⟨rfl, .bare hname habsent⟩
  · simp at hrun

theorem named_sound {name : String} {token : Token} {tokens rest : List Token} {entry : Leaf}
    (hrun : named registry subject name token tokens = .read entry rest) :
    ∃ taken, tokens = taken ++ rest ∧
      Part registry subject (.word name :: symbols taken) entry := by
  unfold named at hrun
  split at hrun
  · simp at hrun
  · rename_i keyword hlookup
    have hname := names_iff_lookupFor.mpr hlookup
    unfold afterKeyword at hrun
    split at hrun
    · obtain ⟨rfl, hpart⟩ := bare_sound hname hrun
      exact ⟨[], rfl, hpart⟩
    · rename_i next after
      split at hrun
      · rename_i hwithin
        split at hrun
        · simp at hrun
        · rename_i hargument
          obtain ⟨taken, rfl, hpart⟩ := assigned_sound hname hargument hrun
          exact ⟨next :: taken, rfl, by simpa [hwithin] using hpart⟩
      · obtain ⟨rfl, hpart⟩ := bare_sound hname hrun
        exact ⟨[], rfl, hpart⟩

/-- Literals after `in` are read together with what makes up the selection. -/
theorem afterKeyword_values {keyword : Keyword} {token next : Token} {taken rest : List Token}
    {values : List String} (hargument : keyword.argument ≠ .absent)
    (hwithin : next.symbol = .within) (hvalues : Values (symbols taken) values)
    (hfollow : NextIn afterValues rest) :
    afterKeyword keyword token (next :: (taken ++ rest)) =
      (selection keyword token values rest).map fun selected ↦
        leafOf keyword none (some selected) := by
  obtain ⟨first, word, hword, hfirst⟩ := hvalues.head
  obtain ⟨head, others, rfl, rfl, -⟩ := List.map_eq_cons_iff.mp hword
  have hread := literals_complete _ _ _ hvalues hfollow
  have hassigned : assigned keyword token (head :: others ++ rest) =
      assigned.values keyword token (head :: others ++ rest) := by
    rw [List.cons_append, assigned]
    split
    · rename_i name hname
      exact absurd hname (hfirst name)
    · rfl
  rw [afterKeyword, if_pos hwithin, if_neg hargument, hassigned, assigned.values, hread]
  rfl

/-- Values that no origins follow are judged by the argument alone. -/
theorem selection_eq_alone {keyword : Keyword} {token : Token} {values : List String}
    {rest : List Token} (hfollow : NextIn afterPart rest) :
    selection keyword token values rest = selection.alone keyword token values rest := by
  cases rest with
  | nil => rfl
  | cons next after =>
    have hother : next.symbol ≠ .origin := by
      intro horigin
      have hnext := nextIn_cons.mp hfollow
      simp [horigin, afterPart] at hnext
    rw [selection, if_neg hother]

theorem named_complete {name : String} {token : Token} {taken rest : List Token} {entry : Leaf}
    (hpart : Part registry subject (.word name :: symbols taken) entry)
    (hfollow : NextIn afterPart rest) :
    named registry subject name token (taken ++ rest) = .read entry rest := by
  have hwide : NextIn afterValues rest := hfollow.mono (by decide)
  generalize hword : symbols taken = word at hpart
  cases hpart with
  | bare hname hargument =>
    obtain rfl : taken = [] := List.map_eq_nil_iff.mp hword
    simp only [named, names_iff_lookupFor.mp hname, List.nil_append]
    cases rest with
    | nil => simp [afterKeyword, afterKeyword.bare, hargument, bareLeaf, leafOf]
    | cons next after =>
      have hother : next.symbol ≠ .within := by
        intro hwithin
        have hnext := nextIn_cons.mp hfollow
        simp [hwithin, afterPart] at hnext
      simp [afterKeyword, hother, afterKeyword.bare, hargument, bareLeaf, leafOf]
  | variableName hname hargument variableName =>
    obtain ⟨next, others, rfl, hwithin, hothers⟩ := List.map_eq_cons_iff.mp hword
    obtain ⟨first, rfl, hvariable⟩ := List.map_eq_singleton_iff.mp hothers
    simp [named, names_iff_lookupFor.mp hname, afterKeyword, hwithin, hargument, assigned,
      hvariable, bareLeaf, leafOf]
  | text hname hargument hliteral =>
    obtain ⟨next, front, rfl, hwithin, rfl⟩ := List.map_eq_cons_iff.mp hword
    simp only [named, names_iff_lookupFor.mp hname, List.cons_append]
    rw [afterKeyword_values (by simp [hargument]) hwithin (.single hliteral) hwide,
      selection_eq_alone hfollow]
    simp [selection.alone, hargument, Outcome.map]
  | list hname hargument hvalues =>
    obtain ⟨next, front, rfl, hwithin, rfl⟩ := List.map_eq_cons_iff.mp hword
    simp only [named, names_iff_lookupFor.mp hname, List.cons_append]
    rw [afterKeyword_values (by simp [hargument]) hwithin hvalues hwide,
      selection_eq_alone hfollow]
    simp [selection.alone, hargument, Outcome.map]
  | sourced hname hargument hvalues horigins =>
    obtain ⟨next, others, rfl, hwithin, hothers⟩ := List.map_eq_cons_iff.mp hword
    obtain ⟨front, origin, last, rfl, rfl, horigin, rfl⟩ := exists_of_symbols_eq hothers
    have hread := literals_complete _ _ _ horigins hwide
    simp only [named, names_iff_lookupFor.mp hname, List.cons_append, List.append_assoc]
    rw [afterKeyword_values (by simp [hargument]) hwithin hvalues
      (nextIn_cons.mpr (by simp [horigin, afterValues]))]
    simp [selection, horigin, hargument, Argument.IsSourced, hread, Outcome.map]

end CardQuery.Grammar
