import CardQuery.Filter
import CardQuery.Proofs.Registry.Lookup
import CardQuery.Token

/-!
The grammar of filters. `Literal`, `Values` and `Part` say which symbols make up a literal, the
values of one side and a keyword with its argument, and `Derives` says which symbols make up a
filter at each level of precedence. A chain of one connective grows at its right end, so it joins
from the left, and a group has the filter between its parentheses. Nothing here reads tokens: a
derivation relates a whole row of symbols to a filter.
-/

set_option autoImplicit false
set_option relaxedAutoImplicit false

namespace CardQuery.Grammar

open Text

/-! ### Keywords and their arguments -/

/-- The keyword is the first one of that name in the registry, whatever the case of the letters,
and it applies to the subject. -/
def Names (registry : Registry) (subject : Subject) (name : String) (keyword : Keyword) : Prop :=
  ∃ before after, registry.keywords = before ++ keyword :: after ∧
    (∀ earlier ∈ before, foldCase earlier.name ≠ foldCase name) ∧
    foldCase keyword.name = foldCase name ∧ keyword.AppliesTo subject

/-- The leaf of a keyword with what is assigned to it. -/
def leafOf (keyword : Keyword) (variableName : Option String) (selection : Option Selection) :
    Leaf :=
  ⟨keyword.name, keyword.description, some keyword.argument, variableName, selection⟩

/-- A literal is quoted, or a number, or one or more words with a space between them. -/
inductive Literal : List Symbol → String → Prop
  | quoted (raw : String) : Literal [.quoted raw] (Quoted.unquote raw)
  | number (value : Int) : Literal [.number value] (String.ofList (Decimal.write value))
  | words (first : String) (others : List String) :
      Literal (.word first :: others.map .word) (" ".intercalate (first :: others))

/-- Literals with commas between them. -/
inductive Values : List Symbol → List String → Prop
  | single {word : List Symbol} {text : String} (hliteral : Literal word text) :
      Values word [text]
  | more {word rest : List Symbol} {text : String} {texts : List String}
      (hliteral : Literal word text) (hvalues : Values rest texts) :
      Values (word ++ .comma :: rest) (text :: texts)

/-- A keyword and what its argument lets follow it. -/
inductive Part (registry : Registry) (subject : Subject) : List Symbol → Leaf → Prop
  | bare {name : String} {keyword : Keyword} (hname : Names registry subject name keyword)
      (hargument : keyword.argument = .absent) :
      Part registry subject [.word name] (leafOf keyword none none)
  | variableName {name : String} {keyword : Keyword} (hname : Names registry subject name keyword)
      (hargument : keyword.argument ≠ .absent) (variableName : String) :
      Part registry subject [.word name, .within, .variableName variableName]
        (leafOf keyword (some variableName) none)
  | text {name : String} {keyword : Keyword} {word : List Symbol} {value : String}
      (hname : Names registry subject name keyword) (hargument : keyword.argument = .text)
      (hliteral : Literal word value) :
      Part registry subject (.word name :: .within :: word)
        (leafOf keyword none (some (.listed [value])))
  | list {name : String} {keyword : Keyword} {domain : List String} {word : List Symbol}
      {values : List String} (hname : Names registry subject name keyword)
      (hargument : keyword.argument = .list domain) (hvalues : Values word values) :
      Part registry subject (.word name :: .within :: word)
        (leafOf keyword none (some (.listed values)))
  | sourced {name : String} {keyword : Keyword} {domain originDomain : List String}
      {valueWord originWord : List Symbol} {values origins : List String}
      (hname : Names registry subject name keyword)
      (hargument : keyword.argument = .sourced domain originDomain)
      (hvalues : Values valueWord values) (horigins : Values originWord origins) :
      Part registry subject (.word name :: .within :: (valueWord ++ .origin :: originWord))
        (leafOf keyword none (some (.sourced (.ofLiterals values Choice.valueWildcard)
          (.ofLiterals origins Choice.originWildcard))))

/-! ### Filters -/

/-- How tightly the outermost node of a filter binds. -/
inductive Level where
  | disjunction
  | conjunction
  | term
  | primary

/-- The symbols make up the filter at a level. -/
inductive Derives (registry : Registry) (subject : Subject) :
    Level → List Symbol → Filter → Prop
  | conjunction {word : List Symbol} {filter : Filter}
      (hfilter : Derives registry subject .conjunction word filter) :
      Derives registry subject .disjunction word filter
  | or {left right : List Symbol} {first second : Filter}
      (hleft : Derives registry subject .disjunction left first)
      (hright : Derives registry subject .conjunction right second) :
      Derives registry subject .disjunction (left ++ .or :: right) (.join first .or second)
  | term {word : List Symbol} {filter : Filter}
      (hfilter : Derives registry subject .term word filter) :
      Derives registry subject .conjunction word filter
  | and {left right : List Symbol} {first second : Filter}
      (hleft : Derives registry subject .conjunction left first)
      (hright : Derives registry subject .term right second) :
      Derives registry subject .conjunction (left ++ .and :: right) (.join first .and second)
  | primary {word : List Symbol} {filter : Filter}
      (hfilter : Derives registry subject .primary word filter) :
      Derives registry subject .term word filter
  | not {word : List Symbol} {filter : Filter}
      (hfilter : Derives registry subject .term word filter) :
      Derives registry subject .term (.not :: word) (.negation filter)
  | group {word : List Symbol} {filter : Filter}
      (hfilter : Derives registry subject .disjunction word filter) :
      Derives registry subject .primary (.opening :: (word ++ [.closing])) filter
  | part {word : List Symbol} {entry : Leaf} (hpart : Part registry subject word entry) :
      Derives registry subject .primary word (.leaf entry)

/-! ### What derivations have in common -/

/-- A name means a keyword exactly where the registry finds it for the subject. -/
theorem names_iff_lookupFor {registry : Registry} {subject : Subject} {name : String}
    {keyword : Keyword} :
    Names registry subject name keyword ↔ registry.lookupFor subject name = some keyword := by
  simp only [Names, Registry.lookupFor, Registry.lookup, Option.filter_eq_some_iff,
    List.find?_eq_some_iff_append, sameWord_iff, decide_eq_true_eq, Bool.not_eq_true']
  constructor
  · rintro ⟨before, after, hsplit, hearlier, hname, happlies⟩
    refine ⟨⟨hname, before, after, hsplit, fun earlier hmember ↦ ?_⟩, happlies⟩
    simpa [sameWord] using hearlier earlier hmember
  · rintro ⟨⟨hname, before, after, hsplit, hearlier⟩, happlies⟩
    refine ⟨before, after, hsplit, fun earlier hmember ↦ ?_, hname, happlies⟩
    simpa [sameWord] using hearlier earlier hmember

/-- A name means a keyword exactly where the registry finds it and it applies to the subject. -/
theorem names_iff_lookup {registry : Registry} {subject : Subject} {name : String}
    {keyword : Keyword} :
    Names registry subject name keyword ↔
      registry.lookup name = some keyword ∧ keyword.AppliesTo subject :=
  names_iff_lookupFor.trans Registry.lookupFor_eq_some_iff

/-- A literal begins with a symbol that is no variable. -/
theorem Literal.head {word : List Symbol} {text : String} (hliteral : Literal word text) :
    ∃ first rest, word = first :: rest ∧ ∀ name, first ≠ .variableName name := by
  cases hliteral <;> exact ⟨_, _, rfl, fun _ ↦ by simp⟩

theorem Values.head {word : List Symbol} {texts : List String} (hvalues : Values word texts) :
    ∃ first rest, word = first :: rest ∧ ∀ name, first ≠ .variableName name := by
  cases hvalues with
  | single hliteral => exact hliteral.head
  | more hliteral _ =>
    obtain ⟨first, rest, rfl, hfirst⟩ := hliteral.head
    exact ⟨first, _, rfl, hfirst⟩

theorem Values.ne_nil {word : List Symbol} {texts : List String} (hvalues : Values word texts) :
    texts ≠ [] := by
  cases hvalues <;> simp

theorem Values.literal_of_length_le_one {word : List Symbol} {texts : List String}
    (hvalues : Values word texts) (hlength : texts.length ≤ 1) :
    ∃ text, texts = [text] ∧ Literal word text := by
  cases hvalues with
  | single hliteral => exact ⟨_, rfl, hliteral⟩
  | more _ hothers =>
    have := List.length_pos_iff.mpr hothers.ne_nil
    simp only [List.length_cons] at hlength
    omega

/-- A part begins with the word that names its keyword. -/
theorem Part.head {registry : Registry} {subject : Subject} {first : Symbol} {rest : List Symbol}
    {entry : Leaf} (hpart : Part registry subject (first :: rest) entry) :
    ∃ name, first = .word name := by
  cases hpart <;> exact ⟨_, rfl⟩

/-- The variable of a part stands among its symbols. -/
theorem Part.variableName_mem {registry : Registry} {subject : Subject} {word : List Symbol}
    {entry : Leaf} (hpart : Part registry subject word entry) {name : String}
    (hname : entry.variableName = some name) : .variableName name ∈ word := by
  cases hpart <;> simp_all [leafOf]

/-- Every leaf of a filter is a part, and the symbols of the part are among those of the filter. -/
theorem Derives.part_of_mem {registry : Registry} {subject : Subject} {level : Level}
    {word : List Symbol} {filter : Filter} (hderives : Derives registry subject level word filter)
    {entry : Leaf} (hentry : entry ∈ filter.leaves) :
    ∃ part, Part registry subject part entry ∧ part ⊆ word := by
  induction hderives with
  | conjunction _ ih | term _ ih | primary _ ih => exact ih hentry
  | or _ _ hleft hright | and _ _ hleft hright =>
    rcases List.mem_append.mp hentry with hfirst | hsecond
    · obtain ⟨part, hpart, hinside⟩ := hleft hfirst
      exact ⟨part, hpart, List.subset_append_of_subset_left _ hinside⟩
    · obtain ⟨part, hpart, hinside⟩ := hright hsecond
      exact ⟨part, hpart,
        List.subset_append_of_subset_right _ (List.subset_cons_of_subset _ hinside)⟩
  | not _ ih =>
    obtain ⟨part, hpart, hinside⟩ := ih hentry
    exact ⟨part, hpart, List.subset_cons_of_subset _ hinside⟩
  | group _ ih =>
    obtain ⟨part, hpart, hinside⟩ := ih hentry
    exact ⟨part, hpart, List.subset_cons_of_subset _ (List.subset_append_of_subset_left _ hinside)⟩
  | part hpart =>
    obtain rfl := List.mem_singleton.mp hentry
    exact ⟨_, hpart, List.Subset.refl _⟩

/-- Every variable of a filter stands among the symbols that make it up. -/
theorem Derives.variableName_mem {registry : Registry} {subject : Subject} {level : Level}
    {word : List Symbol} {filter : Filter} (hderives : Derives registry subject level word filter)
    {entry : Leaf} (hentry : entry ∈ filter.leaves) {name : String}
    (hname : entry.variableName = some name) : .variableName name ∈ word := by
  obtain ⟨part, hpart, hinside⟩ := hderives.part_of_mem hentry
  exact hinside (hpart.variableName_mem hname)

/-- A part is a leaf of the keyword that its first symbol names. -/
theorem Part.names {registry : Registry} {subject : Subject} {word : List Symbol} {entry : Leaf}
    (hpart : Part registry subject word entry) :
    ∃ name keyword, .word name ∈ word ∧ Names registry subject name keyword ∧
      entry = leafOf keyword entry.variableName entry.selection := by
  cases hpart <;> exact ⟨_, _, List.mem_cons_self .., ‹_›, rfl⟩

end CardQuery.Grammar
