import Mathlib.Data.List.Forall2
import CardQuery.Proofs.Printing.Reachable
import CardQuery.Registry.Builtin

/-!
Texts of the editor are read back. What an element shows is a filter with a leaf for each enabled
item, set or not (`Element.shown?`). Its text writes that filter at the level of a term: an item is
a part of the grammar, a box of several children is a group of a chain, and a negation stands before
a group (`Element.shows`). The pieces of a text are told apart by the marks between them, so the
text is read as the filter that is shown (`ofText_text`).
-/

set_option autoImplicit false
set_option relaxedAutoImplicit false

namespace CardQuery

open Text

/-! ### What is shown -/

/-- A side as it is read again: if it lists nothing but wildcards, it lets everything through. -/
def Choice.reread (wildcard : String) : Choice → Choice
  | any => any
  | among values => ofLiterals values wildcard

/-- The literals that the text of a side writes. -/
def Choice.literals (wildcard : String) : Choice → List String
  | any => [wildcard]
  | among values => values

theorem Choice.text_eq (wildcard : String) (side : Choice) :
    side.text wildcard = Quoted.quoteAll (side.literals wildcard) := by
  cases side <;> simp [Choice.text, Choice.literals, Quoted.quoteAll]

theorem Choice.ofLiterals_literals (wildcard : String) (side : Choice) :
    ofLiterals (side.literals wildcard) wildcard = side.reread wildcard := by
  cases side with
  | any => simp [Choice.literals, Choice.reread, ofLiterals]
  | among values => rfl

/-- A selection as it is read again. -/
def Selection.reread : Selection → Selection
  | listed values => listed values
  | sourced values origins =>
    sourced (values.reread Choice.valueWildcard) (origins.reread Choice.originWildcard)

/-- The argument takes the selection: one text, values, or values with origins. No list of literals
is empty, as an empty one cannot be written. -/
def Selection.Fits : Selection → Argument → Prop
  | listed values, .text => values.length = 1
  | listed values, .list _ => values ≠ []
  | sourced values origins, .sourced _ _ => values ≠ .among [] ∧ origins ≠ .among []
  | _, _ => False

namespace Editor

namespace Item

/-- The leaf of the item: bare without an argument, with its values if enough is selected, and with
its variable otherwise. -/
def shownLeaf (item : Item) : Leaf :=
  match item.current.selection? with
  | some selection =>
    { item.leaf with variableName := none, selection := some selection.reread }
  | none => if item.current = .flag then { item.leaf with variableName := none } else item.leaf

/-- What the item shows, unless it is disabled. -/
def shown? (item : Item) : Option Filter :=
  if item.disabled then none else some (negateIf item.negated (.leaf item.shownLeaf))

/-- The item is one of a keyword that the registry finds by its name, that applies to the subject,
and that is written as one word. -/
def Regular (registry : Registry) (subject : Subject) (item : Item) : Prop :=
  ∃ keyword, registry.lookup keyword.name = some keyword ∧ keyword.AppliesTo subject ∧
    Lexer.IsWord keyword.name ∧ item.keyword = keyword.name ∧
    item.description = keyword.description ∧ item.shape = keyword.argument

end Item

namespace Element

/-- The filter of everything that is enabled, with one leaf for each item. -/
def shown? : Element → Option Filter := fold Item.shown? Frame.filter?

@[simp] theorem shown?_item (entry : Item) : (item entry).shown? = entry.shown? := by
  simp [Element.shown?]

@[simp] theorem shown?_box (frame : Frame) (children : List Element) :
    (box frame children).shown? = frame.filter? (children.map shown?) := by
  simp [Element.shown?]

end Element

/-! ### Texts that write filters -/

open Grammar (Derives Level leafOf)
open Lexer (Delimited Spells)

variable {registry : Registry} {subject : Subject}

/-- The symbols of the text derive the filter. -/
def Writes (registry : Registry) (subject : Subject) (level : Level) (text : String)
    (filter : Filter) : Prop :=
  ∃ word, Derives registry subject level word filter ∧ Spells text.toList word

theorem Writes.ne_empty {level : Level} {text : String} {filter : Filter}
    (hwrites : Writes registry subject level text filter) : text ≠ "" := by
  rintro rfl
  obtain ⟨word, hderives, hspells⟩ := hwrites
  have hempty : word = [] := by
    rw [← hspells.symbolsOf_eq]
    exact Lexer.symbolsOf_nil
  exact hderives.ne_nil hempty

theorem Writes.ofText {text : String} {filter : Filter}
    (hwrites : Writes registry subject .disjunction text filter) :
    Filter.ofText registry subject text = .ok (.wrapped filter) := by
  obtain ⟨word, hderives, hspells⟩ := hwrites
  have hsymbols : Grammar.symbols (Token.scan text) = word := hspells.symbolsOf_eq
  rw [← hsymbols] at hderives
  exact Grammar.ofTokens_of_derives hderives

/-! ### Values -/

/-- The literals of a list are written so that they are read as values. -/
theorem quoteAll_spells {values : List String} (hpresent : values ≠ []) :
    ∃ word, Grammar.Values word values ∧ Delimited (Quoted.quoteAll values).toList word := by
  have hliteral : ∀ value, Grammar.Literal [.quoted (String.ofList (Quoted.body value.toList))]
      value := by
    intro value
    have hread := Grammar.Literal.quoted (String.ofList (Quoted.body value.toList))
    rwa [Quoted.unquote_body] at hread
  induction values with
  | nil => exact absurd rfl hpresent
  | cons value rest ih =>
    have hquote := Lexer.delimited_quote value
    cases rest with
    | nil =>
      refine ⟨_, .single (hliteral value), ?_⟩
      simpa [Quoted.quoteAll] using hquote
    | cons second others =>
      obtain ⟨word, hvalues, hdelimited⟩ := ih (List.cons_ne_nil _ _)
      refine ⟨_, .more (hliteral value) hvalues, ?_⟩
      have htext : (Quoted.quoteAll (value :: second :: others)).toList =
          (Quoted.quote value).toList ++
            (", ".toList ++ (Quoted.quoteAll (second :: others)).toList) := by
        simp only [Quoted.quoteAll, List.map_cons, String.intercalate_cons_cons,
          String.toList_append, List.append_assoc]
      rw [htext]
      exact hquote.append (Lexer.delimited_separator.append hdelimited)

/-- A side is written as its literals. -/
theorem choice_spells {wildcard : String} {side : Choice} (hlisted : side ≠ .among []) :
    ∃ word, Grammar.Values word (side.literals wildcard) ∧
      Delimited (side.text wildcard).toList word := by
  rw [Choice.text_eq]
  refine quoteAll_spells ?_
  cases side with
  | any => exact List.cons_ne_nil wildcard []
  | among values => simpa [Choice.literals] using hlisted

/-- A selection that the argument of the keyword takes is written as that argument. -/
theorem fitting_spells {keyword : Keyword} {selection : Selection}
    (hfound : Grammar.Names registry subject keyword.name keyword)
    (hfits : selection.Fits keyword.argument) :
    ∃ word, Grammar.Part registry subject (.word keyword.name :: .within :: word)
        (leafOf keyword none (some selection.reread)) ∧
      Delimited selection.text.toList word := by
  cases selection with
  | listed values =>
    cases hargument : keyword.argument with
    | text =>
      obtain ⟨value, rfl⟩ : ∃ value, values = [value] := by
        rw [hargument] at hfits
        exact List.length_eq_one_iff.mp hfits
      obtain ⟨word, hvalues, hdelimited⟩ := quoteAll_spells (List.cons_ne_nil value [])
      obtain ⟨single, hsingle, hliteral⟩ := hvalues.literal_of_length_le_one (by simp)
      obtain rfl : value = single := by simpa using hsingle
      exact ⟨word, .text hfound hargument hliteral, hdelimited⟩
    | list domain =>
      rw [hargument] at hfits
      obtain ⟨word, hvalues, hdelimited⟩ := quoteAll_spells hfits
      exact ⟨word, .list hfound hargument hvalues, hdelimited⟩
    | absent | sourced _ _ => simp [hargument, Selection.Fits] at hfits
  | sourced values origins =>
    cases hargument : keyword.argument with
    | sourced domain originDomain =>
      obtain ⟨hvalueSide, horiginSide⟩ : values ≠ .among [] ∧ origins ≠ .among [] := by
        rwa [hargument] at hfits
      obtain ⟨valueWord, hvalues, hvalueText⟩ := choice_spells hvalueSide
      obtain ⟨originWord, horigins, horiginText⟩ := choice_spells horiginSide
      refine ⟨valueWord ++ .origin :: originWord, ?_, ?_⟩
      · have hpart := Grammar.Part.sourced hfound hargument hvalues horigins
        rwa [Choice.ofLiterals_literals, Choice.ofLiterals_literals] at hpart
      · have htext : (Selection.sourced values origins).text.toList =
            (values.text Choice.valueWildcard).toList ++
              (" FROM ".toList ++ (origins.text Choice.originWildcard).toList) := by
          simp only [Selection.text, String.toList_append, List.append_assoc]
        rw [htext]
        exact hvalueText.append (Lexer.delimited_origin.append horiginText)
    | absent | text | list _ => simp [hargument, Selection.Fits] at hfits

/-! ### Items -/

/-- A keyword with `in` and what is assigned to it. -/
theorem assigned_spells {keyword assigned : String} {word : List Symbol}
    (hkeyword : Lexer.IsWord keyword) (hassigned : Spells assigned.toList word) :
    Spells (keyword ++ " in " ++ assigned).toList (.word keyword :: .within :: word) := by
  have hbefore : Delimited (keyword.toList ++ " in ".toList) ([.word keyword] ++ [.within]) :=
    hkeyword.spells.append_delimited Lexer.delimited_within (by decide) (by decide)
  rw [String.toList_append, String.toList_append]
  exact hbefore.append_spells hassigned

/-- Values that belong to an argument are bound to a selection that the argument takes. -/
theorem CurrentValues.Suits.fits {current : CurrentValues} {argument : Argument}
    {selection : Selection} (hsuits : current.Suits argument)
    (hselection : current.selection? = some selection) : selection.Fits argument := by
  cases binds_of_selection? hselection with
  | text hpresent =>
    cases hsuits with
    | text hfew => exact Nat.le_antisymm hfew (List.length_pos_iff.mpr hpresent)
  | list hpresent =>
    cases hsuits
    exact hpresent
  | sourced values origins =>
    cases hsuits with
    | sourced hvalues horigins => simpa [Selection.Fits] using And.intro hvalues horigins

/-- A keyword with a selection that its argument takes writes a leaf with these values. -/
theorem writes_fitting {keyword : Keyword} {selection : Selection}
    (hfound : Grammar.Names registry subject keyword.name keyword)
    (hword : Lexer.IsWord keyword.name) (hfits : selection.Fits keyword.argument) :
    Writes registry subject .primary (keyword.name ++ " in " ++ selection.text)
      (.leaf (leafOf keyword none (some selection.reread))) := by
  obtain ⟨word, hpart, hdelimited⟩ := fitting_spells hfound hfits
  exact ⟨_, .part hpart, assigned_spells hword hdelimited.spells⟩

/-- A keyword that takes an argument, with a variable for it, writes a leaf with the variable. -/
theorem writes_variable {keyword : Keyword} {name : String}
    (hfound : Grammar.Names registry subject keyword.name keyword)
    (hword : Lexer.IsWord keyword.name) (hargument : keyword.argument ≠ .absent)
    (hvariable : Lexer.IsVariable name) :
    Writes registry subject .primary (keyword.name ++ " in " ++ name)
      (.leaf (leafOf keyword (some name) none)) :=
  ⟨_, .part (.variableName hfound hargument name), assigned_spells hword hvariable.spells⟩

/-- An item writes its leaf as a part of the grammar, unless it is one that does not show its
sides. -/
theorem Item.writes_plainText {item : Item} (hregular : item.Regular registry subject)
    (hsuited : item.Suited) (hvariable : Lexer.IsVariable item.variableName)
    (hsides : ¬ item.current.LacksBothSides) :
    Writes registry subject .primary item.plainText (.leaf item.shownLeaf) := by
  obtain ⟨keyword, hlookup, happlies, hword, hname, hdescription, hargument⟩ := hregular
  have hfound : Grammar.Names registry subject keyword.name keyword :=
    Grammar.names_iff_lookup.mpr ⟨hlookup, happlies⟩
  have hleaf : item.leaf = leafOf keyword (some item.variableName) none := by
    rw [Item.leaf, hname, hdescription, hargument]
    rfl
  have hsuits : item.current.Suits keyword.argument := hargument ▸ hsuited
  by_cases hflag : item.current = .flag
  · have htext : item.plainText = keyword.name := by
      rw [item.plainText_of_isBare (.inl hflag), hname]
    have hshown : item.shownLeaf = leafOf keyword none none := by
      simp [Item.shownLeaf, hflag, CurrentValues.selection?, hleaf, leafOf]
    rw [htext, hshown]
    exact ⟨_, .part (.bare hfound (hsuits.eq_flag_iff.mp hflag)), hword.spells⟩
  cases hselection : item.current.selection? with
  | none =>
    have htext : item.plainText = keyword.name ++ " in " ++ item.variableName := by
      rw [item.plainText_of_open (not_or.mpr ⟨hflag, hsides⟩) hselection, hname]
    have hshown : item.shownLeaf = leafOf keyword (some item.variableName) none := by
      rw [Item.shownLeaf, hselection]
      simp only [if_neg hflag, hleaf]
    rw [htext, hshown]
    exact writes_variable hfound hword (mt hsuits.eq_flag_iff.mpr hflag) hvariable
  | some selection =>
    have htext : item.plainText = keyword.name ++ " in " ++ selection.text := by
      rw [item.plainText_of_selection? hselection, hname]
    have hshown : item.shownLeaf = leafOf keyword none (some selection.reread) := by
      rw [Item.shownLeaf, hselection]
      simp only [hleaf, leafOf]
    rw [htext, hshown]
    exact writes_fitting hfound hword (hsuits.fits hselection)

/-! ### Groups and chains -/

theorem Writes.term {text : String} {filter : Filter}
    (hwrites : Writes registry subject .primary text filter) :
    Writes registry subject .term text filter := by
  obtain ⟨word, hderives, hspells⟩ := hwrites
  exact ⟨word, .primary hderives, hspells⟩

theorem spells_group {text : String} {word : List Symbol} (htext : Spells text.toList word) :
    Spells ("(" ++ text ++ ")").toList (.opening :: (word ++ [.closing])) := by
  have hclosed : Delimited (text.toList ++ [')']) (word ++ [.closing]) :=
    htext.append_delimited Lexer.delimited_closing (by decide) (by decide)
  have hsame : ("(" ++ text ++ ")").toList = ['('] ++ (text.toList ++ [')']) := by
    simp
  rw [hsame]
  exact (Lexer.delimited_opening.append hclosed).spells

theorem spells_not {text : String} {word : List Symbol} (htext : Spells text.toList word) :
    Spells ("NOT " ++ text).toList (.not :: word) := by
  rw [String.toList_append]
  exact Lexer.delimited_not.append_spells htext

/-- A negated group is a negation of a group. -/
theorem notGroup_eq (text : String) : "NOT (" ++ text ++ ")" = "NOT " ++ ("(" ++ text ++ ")") := by
  rw [String.append_assoc, ← String.append_assoc]
  rfl

/-- A filter in parentheses. -/
theorem Writes.group {text : String} {filter : Filter}
    (hwrites : Writes registry subject .disjunction text filter) :
    Writes registry subject .primary ("(" ++ text ++ ")") filter := by
  obtain ⟨word, hderives, hspells⟩ := hwrites
  exact ⟨_, .group hderives, spells_group hspells⟩

theorem Writes.not {text : String} {filter : Filter}
    (hwrites : Writes registry subject .term text filter) :
    Writes registry subject .term ("NOT " ++ text) (.negation filter) := by
  obtain ⟨word, hderives, hspells⟩ := hwrites
  exact ⟨_, .not hderives, spells_not hspells⟩

/-- A negated filter in parentheses. -/
theorem Writes.notGroup {text : String} {filter : Filter}
    (hwrites : Writes registry subject .disjunction text filter) :
    Writes registry subject .term ("NOT (" ++ text ++ ")") (.negation filter) := by
  rw [notGroup_eq]
  exact hwrites.group.term.not

/-- The level of a chain of the connective. -/
def chainLevel : Connective → Level
  | .and => .conjunction
  | .or => .disjunction

theorem Writes.chain {text : String} {filter : Filter} (connective : Connective)
    (hwrites : Writes registry subject .term text filter) :
    Writes registry subject (chainLevel connective) text filter := by
  obtain ⟨word, hderives, hspells⟩ := hwrites
  cases connective with
  | and => exact ⟨word, .term hderives, hspells⟩
  | or => exact ⟨word, .conjunction (.term hderives), hspells⟩

/-- A keyword with a selection that its argument takes is read as a leaf with these values. -/
theorem ofText_fitting {keyword : Keyword} {selection : Selection}
    (hfound : Grammar.Names registry subject keyword.name keyword)
    (hword : Lexer.IsWord keyword.name) (hfits : selection.Fits keyword.argument) :
    Filter.ofText registry subject (keyword.name ++ " in " ++ selection.text) =
      .ok (.wrapped (.leaf (leafOf keyword none (some selection.reread)))) :=
  ((writes_fitting hfound hword hfits).term.chain .or).ofText

theorem Writes.disjunction_of_chain {connective : Connective} {text : String} {filter : Filter}
    (hwrites : Writes registry subject (chainLevel connective) text filter) :
    Writes registry subject .disjunction text filter := by
  obtain ⟨word, hderives, hspells⟩ := hwrites
  cases connective with
  | and => exact ⟨word, .conjunction hderives, hspells⟩
  | or => exact ⟨word, hderives, hspells⟩

/-- What stands between two filters of a chain. -/
def separator (connective : Connective) : String := " " ++ connective.text ++ " "

/-- The symbol that stands between two filters of a chain. -/
def chainSymbol : Connective → Symbol
  | .and => .and
  | .or => .or

theorem delimited_chainSymbol (connective : Connective) :
    Delimited (separator connective).toList [chainSymbol connective] := by
  cases connective with
  | and => exact Lexer.delimited_and
  | or => exact Lexer.delimited_or

theorem spells_grow (connective : Connective) {text other : String} {left right : List Symbol}
    (htext : Spells text.toList left) (hother : Spells other.toList right) :
    Spells (text ++ separator connective ++ other).toList
      (left ++ chainSymbol connective :: right) := by
  have hbefore : Delimited (text.toList ++ (separator connective).toList)
      (left ++ [chainSymbol connective]) := by
    refine htext.append_delimited (delimited_chainSymbol connective) ?_ ?_ <;>
      cases connective <;> decide
  have hall := hbefore.append_spells hother
  simpa using hall

/-- A chain grows at its right end. -/
theorem Writes.grow {connective : Connective} {text other : String} {first second : Filter}
    (hfirst : Writes registry subject (chainLevel connective) text first)
    (hsecond : Writes registry subject .term other second) :
    Writes registry subject (chainLevel connective) (text ++ separator connective ++ other)
      (.join first connective second) := by
  obtain ⟨left, hleft, hleftText⟩ := hfirst
  obtain ⟨right, hright, hrightText⟩ := hsecond
  refine ⟨_, ?_, spells_grow connective hleftText hrightText⟩
  cases connective with
  | and => exact .and hleft hright
  | or => exact .or hleft (.term hright)

/-- Several terms with a connective between them write the filters joined from the left. -/
theorem writes_intercalate {connective : Connective} {texts : List String}
    {filters : List Filter}
    (hrest : List.Forall₂ (Writes registry subject .term) texts filters) {first : String}
    {filter : Filter} (hfirst : Writes registry subject (chainLevel connective) first filter) :
    Writes registry subject (chainLevel connective)
      ((separator connective).intercalate (first :: texts))
      (filters.foldl (fun left right ↦ .join left connective right) filter) := by
  induction hrest generalizing first filter with
  | nil =>
    rw [String.intercalate_singleton]
    exact hfirst
  | @cons text other texts others htext hrest ih =>
    have hgrown := ih (hfirst.grow htext)
    have hsame : (separator connective).intercalate (first :: text :: texts) =
        (separator connective).intercalate ((first ++ separator connective ++ text) :: texts) := by
      rw [String.intercalate_cons_cons, String.intercalate_cons_append]
    rw [hsame]
    exact hgrown

/-! ### Boxes -/

/-- The text is that of a term that writes the filter, or empty if there is no filter. -/
def Shows (registry : Registry) (subject : Subject) (text : String) : Option Filter → Prop
  | none => text = ""
  | some filter => Writes registry subject .term text filter

theorem Shows.forall₂_present {texts : List String} {parts : List (Option Filter)}
    (hparts : List.Forall₂ (Shows registry subject) texts parts) :
    List.Forall₂ (Writes registry subject .term) (texts.filter (· ≠ ""))
      (parts.filterMap fun part ↦ part) := by
  induction hparts with
  | nil => exact .nil
  | @cons text part texts parts hpart hparts ih =>
    cases part with
    | none =>
      obtain rfl : text = "" := hpart
      simpa using ih
    | some filter =>
      have hwrites : Writes registry subject .term text filter := hpart
      have hkept : (text :: texts).filter (· ≠ "") = text :: texts.filter (· ≠ "") :=
        List.filter_cons_of_pos (by simp [hwrites.ne_empty])
      rw [hkept]
      exact .cons hwrites ih

/-- A box shows its children joined, if they show what they write. -/
theorem Frame.shows (frame : Frame) {texts : List String} {parts : List (Option Filter)}
    (hparts : List.Forall₂ (Shows registry subject) texts parts) :
    Shows registry subject (frame.text texts) (frame.filter? parts) := by
  have hpresent := Shows.forall₂_present hparts
  unfold Frame.text Frame.filter?
  by_cases hdisabled : frame.disabled
  · rw [if_pos hdisabled, if_pos hdisabled]
    exact rfl
  rw [if_neg hdisabled, if_neg hdisabled]
  generalize texts.filter (· ≠ "") = present at hpresent ⊢
  generalize (parts.filterMap fun part ↦ part) = filters at hpresent ⊢
  cases hpresent with
  | nil => rfl
  | @cons text filter texts filters hfirst hrest =>
    cases hrest with
    | nil =>
      cases hnegated : frame.negated with
      | false => exact hfirst
      | true => exact (hfirst.chain .or).notGroup
    | @cons second other texts filters hsecond hrest =>
      have hchain := writes_intercalate (.cons hsecond hrest) (hfirst.chain frame.connective)
      have hgroup := hchain.disjunction_of_chain.group.term
      cases hnegated : frame.negated with
      | false => exact hgroup
      | true => exact hgroup.not

/-! ### Two keywords -/

/-- The first keyword of a card collection. -/
def typeKeyword : Keyword :=
  ⟨"CardType", "Card Type", "Cards of the given types.", [.card, .cardSet],
    .list Registry.cardTypes, "card_type", none⟩

theorem isWord_typeKeyword : Lexer.IsWord typeKeyword.name :=
  Lexer.isWord_of_symbol rfl (by decide) (by decide) (List.all_eq_true.mp (by decide))
    (by decide)

/-- The keyword of a card collection that has origins. -/
def countKeyword : Keyword :=
  ⟨"CardCount", "Card Count",
    "Cards with the given number of copies in the given card sets. " ++
      "-1 matches any count, an empty card set matches all sets.",
    [.card], .sourced Registry.counts [], "card_count", some "card_set_name"⟩

theorem isWord_countKeyword : Lexer.IsWord countKeyword.name :=
  Lexer.isWord_of_symbol rfl (by decide) (by decide) (List.all_eq_true.mp (by decide))
    (by decide)

/-! ### Elements -/

theorem Item.shows {item : Item} (henabled : item.disabled = false)
    (hregular : item.Regular registry subject) (hsuited : item.Suited)
    (hvariable : Lexer.IsVariable item.variableName) (hsides : ¬ item.current.LacksBothSides) :
    Shows registry subject item.text item.shown? := by
  have hwrites := Item.writes_plainText hregular hsuited hvariable hsides
  unfold Item.text Item.shown?
  rw [henabled]
  cases item.negated with
  | false => exact hwrites.term
  | true => exact (hwrites.term.chain .or).notGroup

/-- The text of an element writes what it shows, if its visible items write their leaves. -/
theorem Element.shows_of_visible {element : Element}
    (hregular : ∀ item ∈ element.visibleItems, item.Regular registry subject)
    (hsuited : ∀ item ∈ element.visibleItems, item.Suited)
    (hvariables : ∀ item ∈ element.visibleItems, Lexer.IsVariable item.variableName)
    (hsides : ∀ item ∈ element.visibleItems, ¬ item.current.LacksBothSides) :
    Shows registry subject element.text element.shown? := by
  induction element with
  | hitem entry =>
    rw [text_item, shown?_item]
    cases hdisabled : entry.disabled with
    | true => simp [Item.text, Item.shown?, hdisabled, Shows]
    | false =>
      simp only [visibleItems_item, hdisabled, Bool.false_eq_true, if_false, List.mem_singleton,
        forall_eq] at hregular hsuited hvariables hsides
      exact Item.shows hdisabled hregular hsuited hvariables hsides
  | hbox frame children ih =>
    rw [text_box, shown?_box]
    cases hdisabled : frame.disabled with
    | true => simp [Frame.text, Frame.filter?, hdisabled, Shows]
    | false =>
      refine frame.shows ?_
      rw [List.forall₂_map_left_iff, List.forall₂_map_right_iff, List.forall₂_same]
      intro child hchild
      have hvisible : ∀ item ∈ child.visibleItems, item ∈ (box frame children).visibleItems := by
        intro item hitem
        rw [visibleItems_box, hdisabled]
        exact List.mem_flatMap_of_mem hchild hitem
      exact ih child hchild (fun item hitem ↦ hregular item (hvisible item hitem))
        (fun item hitem ↦ hsuited item (hvisible item hitem))
        (fun item hitem ↦ hvariables item (hvisible item hitem))
        fun item hitem ↦ hsides item (hvisible item hitem)

/-- The text of an element writes what the element shows. -/
theorem Element.shows {element : Element}
    (hregular : ∀ item ∈ element.items, item.Regular registry subject)
    (hsuited : ∀ item ∈ element.items, item.Suited)
    (hvariables : ∀ item ∈ element.items, Lexer.IsVariable item.variableName)
    (hsides : ∀ item ∈ element.visibleItems, ¬ item.current.LacksBothSides) :
    Shows registry subject element.text element.shown? :=
  shows_of_visible (fun item hitem ↦ hregular item (element.visibleItems_subset hitem))
    (fun item hitem ↦ hsuited item (element.visibleItems_subset hitem))
    (fun item hitem ↦ hvariables item (element.visibleItems_subset hitem)) hsides

/-- Items of keywords that the registry finds are regular. -/
theorem Item.regular_of_map {items : List Item} {keywords : List Keyword}
    (hitems : items.map (fun item ↦ (item.keyword, item.description, item.shape)) =
      keywords.map fun keyword ↦ (keyword.name, keyword.description, keyword.argument))
    (hkeywords : ∀ keyword ∈ keywords, registry.lookup keyword.name = some keyword ∧
      keyword.AppliesTo subject ∧ Lexer.IsWord keyword.name) :
    ∀ item ∈ items, item.Regular registry subject := by
  intro item hitem
  have hmember := List.mem_map_of_mem
    (f := fun item : Item ↦ (item.keyword, item.description, item.shape)) hitem
  rw [hitems] at hmember
  obtain ⟨keyword, hkeyword, hsame⟩ := List.mem_map.mp hmember
  obtain ⟨hlookup, happlies, hword⟩ := hkeywords keyword hkeyword
  simp only [Prod.mk.injEq] at hsame
  exact ⟨keyword, hlookup, happlies, hword, hsame.1.symm, hsame.2.1.symm, hsame.2.2.symm⟩

/-- In a reachable workspace, the text of an element whose items are of keywords of the registry is
read as the filter that the element shows, unless it is empty or a visible item has neither of its
two sides selected. -/
theorem Workspace.ofText_text {workspace : Workspace} {element : Element}
    (hreachable : Reachable registry subject workspace) (helement : workspace.Has element)
    (hregular : ∀ item ∈ element.items, item.Regular registry subject)
    (hsides : ∀ item ∈ element.visibleItems, ¬ item.current.LacksBothSides)
    (hpresent : element.text ≠ "") :
    ∃ shown, element.shown? = some shown ∧
      Filter.ofText registry subject element.text = .ok (.wrapped shown) := by
  have hshows := Element.shows hregular
    (fun item hitem ↦ hreachable.suited item (helement.items_subset hitem))
    (fun item hitem ↦ hreachable.isVariable item (helement.items_subset hitem)) hsides
  cases hshown : element.shown? with
  | none =>
    rw [hshown] at hshows
    exact absurd hshows hpresent
  | some shown =>
    rw [hshown] at hshows
    exact ⟨shown, rfl, (Writes.chain .or hshows).ofText⟩

/-- Imbued cards that are no vampires and have two copies in a deck, as boxes made step by step. -/
def noVampires : List Command :=
  [.newBox "main" .card, .addBox "main" ⟨0⟩ .or, .editBox "main" ⟨1⟩ (.setNegated true),
    .addItem "main" ⟨1⟩ typeKeyword, .editItem "main" ⟨2⟩ (.selectValues ["Vampire"]),
    .addItem "main" ⟨1⟩ countKeyword, .editItem "main" ⟨3⟩ (.setNegated true),
    .editItem "main" ⟨3⟩ (.selectSides (some ["2"]) (some ["My Deck"])),
    .addItem "main" ⟨0⟩ typeKeyword, .editItem "main" ⟨4⟩ (.selectValues ["Imbued"])]

/-- What these boxes are read as. -/
def shownNoVampires : Filter :=
  .join
    (.negation (.join (.leaf (leafOf typeKeyword none (some (.listed ["Vampire"])))) .or
      (.negation (.leaf (leafOf countKeyword none
        (some (.sourced (.among ["2"]) (.among ["My Deck"]))))))))
    .and (.leaf (leafOf typeKeyword none (some (.listed ["Imbued"]))))

theorem regular_of_noVampires :
    ∀ item ∈ (Workspace.empty.run noVampires).items, item.Regular Registry.builtin .card := by
  have hitems : (Workspace.empty.run noVampires).items.map
      (fun item ↦ (item.keyword, item.description, item.shape)) =
        [typeKeyword, countKeyword, typeKeyword].map
          fun keyword ↦ (keyword.name, keyword.description, keyword.argument) := by
    decide +kernel
  refine Item.regular_of_map hitems ?_
  simp only [List.forall_mem_cons, List.not_mem_nil, false_imp_iff, implies_true, and_true]
  exact ⟨⟨rfl, by decide, isWord_typeKeyword⟩, ⟨rfl, by decide, isWord_countKeyword⟩,
    ⟨rfl, by decide, isWord_typeKeyword⟩⟩

theorem ofText_text_noVampires :
    ∃ root, (Workspace.empty.run noVampires).Has root ∧
      root.text =
        "(NOT (CardType in \"Vampire\" OR NOT (CardCount in \"2\" FROM \"My Deck\")) " ++
          "AND CardType in \"Imbued\")" ∧
      root.shown? = some shownNoVampires ∧
      Filter.ofText Registry.builtin .card root.text = .ok (.wrapped shownNoVampires) := by
  obtain ⟨tree, htrees⟩ : ∃ tree, (Workspace.empty.run noVampires).trees = [tree] :=
    List.length_eq_one_iff.mp (by decide +kernel)
  have hseen : (Workspace.empty.run noVampires).trees.map (fun tree ↦
      (tree.2.text, tree.2.shown?,
        tree.2.visibleItems.all fun item ↦ ¬ item.current.LacksBothSides)) =
        [("(NOT (CardType in \"Vampire\" OR NOT (CardCount in \"2\" FROM \"My Deck\")) " ++
            "AND CardType in \"Imbued\")",
          some shownNoVampires, true)] := by
    decide +kernel
  rw [htrees, List.map_singleton, List.singleton_inj, Prod.mk.injEq, Prod.mk.injEq] at hseen
  obtain ⟨htext, hshown, hvisible⟩ := hseen
  have hreachable : Workspace.Reachable Registry.builtin .card (Workspace.empty.run noVampires) :=
    Workspace.Reachable.empty.run (by simp [noVampires, Command.filter?])
  have hroot : (Workspace.empty.run noVampires).Has tree.2 :=
    ⟨tree, by simp [htrees], tree.2.mem_all_self⟩
  have hsides : ∀ item ∈ tree.2.visibleItems, ¬ item.current.LacksBothSides := by
    simpa using hvisible
  obtain ⟨shown, hsame, hread⟩ := Workspace.ofText_text hreachable hroot
    (fun item hitem ↦ regular_of_noVampires item (hroot.items_subset hitem)) hsides
    (by simp [htext])
  obtain rfl := Option.some.inj (hshown.symm.trans hsame)
  exact ⟨tree.2, hroot, htext, hshown, hread⟩

/-! ### Lines -/

/-- A number of copies, in any origin. -/
def singleCopies : Filter :=
  .wrapped (.leaf (leafOf countKeyword none (some (.sourced (.among ["1"]) .any))))

theorem ofText_singleCopies :
    Filter.ofText Registry.builtin .card "CardCount in \"1\" FROM \"\"" = .ok singleCopies := by
  have hline : "CardCount in \"1\" FROM \"\"" = countKeyword.name ++ " in " ++
      (Selection.sourced (.among ["1"]) (.among [""])).text := by decide
  have hfits : (Selection.sourced (.among ["1"]) (.among [""])).Fits countKeyword.argument :=
    ⟨by decide, by decide⟩
  rw [hline]
  exact ofText_fitting (Grammar.names_iff_lookupFor.mpr rfl) isWord_countKeyword hfits

/-- A line of two alternatives, of which the first is negated. The last keyword takes the copies. -/
def nestedLine (copies : Selection) : String :=
  "NOT (CardType in \"Vampire\" OR NOT (CardCount in \"2\" FROM \"My Deck\")) AND " ++
    "(CardType in \"Imbued\" OR CardCount in " ++ copies.text ++ ")"

def nestedFilter (copies : Selection) : Filter :=
  .wrapped (.join
    (.negation (.join (.leaf (leafOf typeKeyword none (some (.listed ["Vampire"])))) .or
      (.negation (.leaf (leafOf countKeyword none
        (some (.sourced (.among ["2"]) (.among ["My Deck"]))))))))
    .and
    (.join (.leaf (leafOf typeKeyword none (some (.listed ["Imbued"])))) .or
      (.leaf (leafOf countKeyword none (some copies)))))

theorem ofText_nestedLine {copies : Selection} (hfits : copies.Fits countKeyword.argument) :
    Filter.ofText Registry.builtin .card (nestedLine copies) =
      .ok (nestedFilter copies.reread) := by
  have htype : ∀ value, Writes Registry.builtin .card .primary
      (typeKeyword.name ++ " in " ++ (Selection.listed [value]).text)
      (.leaf (leafOf typeKeyword none (some (.listed [value])))) := fun value ↦
    writes_fitting (Grammar.names_iff_lookupFor.mpr rfl) isWord_typeKeyword (List.cons_ne_nil _ _)
  have hcount : ∀ {selection : Selection}, selection.Fits countKeyword.argument →
      Writes Registry.builtin .card .primary (countKeyword.name ++ " in " ++ selection.text)
        (.leaf (leafOf countKeyword none (some selection.reread))) := fun hselection ↦
    writes_fitting (Grammar.names_iff_lookupFor.mpr rfl) isWord_countKeyword hselection
  have htwo : (Selection.sourced (.among ["2"]) (.among ["My Deck"])).Fits
      countKeyword.argument := ⟨by decide, by decide⟩
  have hexcluded := (((htype "Vampire").term.chain .or).grow
    ((hcount htwo).term.chain .or).notGroup).notGroup
  have hincluded := (((htype "Imbued").term.chain .or).grow (hcount hfits).term).group.term
  have hline := ((hexcluded.chain .and).grow hincluded).disjunction_of_chain.ofText
  rw [← String.append_assoc, ← String.append_assoc, ← String.append_assoc] at hline
  exact hline

end Editor

end CardQuery
