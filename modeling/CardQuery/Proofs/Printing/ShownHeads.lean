import CardQuery.Proofs.Parsing.Heads
import CardQuery.Proofs.Printing.Printed

/-!
The heads in texts of the editor. A visible item is a head of the text it stands in, with something
assigned to it unless it is shown as its keyword alone (`Item.head`), and a text has no other heads
(`Element.hasHeads`). So a text can be read only if the keyword of every visible item is found for
the subject, and takes no values where the item shows none (`Element.means_of_ofText`).
-/

set_option autoImplicit false
set_option relaxedAutoImplicit false

namespace CardQuery.Editor

open Grammar (Head headsFrom)
open Lexer (IsVariable IsWord Spells)

/-- The text has these heads and no others. -/
def HasHeads (text : String) (heads : List Head) : Prop :=
  ∃ word, Spells text.toList word ∧ headsFrom true word = heads

namespace HasHeads

variable {text other : String} {heads others : List Head}

theorem empty : HasHeads "" [] := ⟨[], fun _ _ ↦ rfl, rfl⟩

theorem eq_nil (hheads : HasHeads "" heads) : heads = [] := by
  obtain ⟨word, hspells, rfl⟩ := hheads
  have hempty : word = [] := by
    rw [← hspells.symbolsOf_eq]
    exact Lexer.symbolsOf_nil
  rw [hempty]
  rfl

theorem group (hheads : HasHeads text heads) : HasHeads ("(" ++ text ++ ")") heads := by
  obtain ⟨word, hspells, rfl⟩ := hheads
  refine ⟨_, spells_group hspells, ?_⟩
  change headsFrom true (word ++ [.closing]) = _
  rw [Grammar.headsFrom_append (.inr rfl)]
  exact List.append_nil _

theorem not (hheads : HasHeads text heads) : HasHeads ("NOT " ++ text) heads := by
  obtain ⟨word, hspells, rfl⟩ := hheads
  exact ⟨_, spells_not hspells, rfl⟩

theorem notGroup (hheads : HasHeads text heads) : HasHeads ("NOT (" ++ text ++ ")") heads := by
  rw [notGroup_eq]
  exact hheads.group.not

theorem grow (connective : Connective) (hheads : HasHeads text heads)
    (hothers : HasHeads other others) :
    HasHeads (text ++ separator connective ++ other) (heads ++ others) := by
  obtain ⟨left, hleft, rfl⟩ := hheads
  obtain ⟨right, hright, rfl⟩ := hothers
  have hopens : (chainSymbol connective).opensTerm = true := by
    cases connective <;> rfl
  refine ⟨_, spells_grow connective hleft hright, ?_⟩
  rw [Grammar.headsFrom_append (.inl hopens), hopens]

/-- The heads of texts with a connective between them are those of one text after another. -/
theorem intercalate (connective : Connective) {texts : List String} {several : List (List Head)}
    (hrest : List.Forall₂ HasHeads texts several) (hfirst : HasHeads text heads) :
    HasHeads ((separator connective).intercalate (text :: texts)) (heads ++ several.flatten) := by
  induction hrest generalizing text heads with
  | nil =>
    rw [String.intercalate_singleton, List.flatten_nil, List.append_nil]
    exact hfirst
  | cons hsecond _ ih =>
    rw [String.intercalate_cons_cons, ← String.intercalate_cons_append, List.flatten_cons,
      ← List.append_assoc]
    exact ih (hfirst.grow connective hsecond)

/-- Empty texts have no heads, so they can be left out. -/
theorem forall₂_present {texts : List String} {several : List (List Head)}
    (htexts : List.Forall₂ HasHeads texts several) :
    ∃ present, List.Forall₂ HasHeads (texts.filter (· ≠ "")) present ∧
      present.flatten = several.flatten := by
  induction htexts with
  | nil => exact ⟨[], .nil, rfl⟩
  | @cons text heads texts several hheads _ ih =>
    obtain ⟨present, hpresent, hsame⟩ := ih
    by_cases hempty : text = ""
    · subst hempty
      obtain rfl := hheads.eq_nil
      exact ⟨present, by simpa using hpresent, by simpa using hsame⟩
    · have hkept : (text :: texts).filter (· ≠ "") = text :: texts.filter (· ≠ "") :=
        List.filter_cons_of_pos (by simp [hempty])
      refine ⟨heads :: present, ?_, by simp [hsame]⟩
      rw [hkept]
      exact .cons hheads hpresent

end HasHeads

/-! ### Items -/

/-- The item as a head of its text. -/
def Item.head (item : Item) : Head := ⟨item.keyword, decide ¬ item.IsBare⟩

/-- No term begins in values that an argument takes. -/
theorem fitting_closed {argument : Argument} {selection : Selection}
    (hfits : selection.Fits argument) :
    ∃ word, Spells selection.text.toList word ∧ ∀ symbol ∈ word, symbol.opensTerm = false := by
  -- How values are spelled does not hang on the registry; one of a single keyword will do.
  obtain ⟨keyword, hargument, happlies⟩ : ∃ keyword : Keyword,
      argument = keyword.argument ∧ keyword.AppliesTo .card :=
    ⟨⟨"", "", "", [.card], argument, "", none⟩, rfl, List.mem_singleton_self _⟩
  have hfound : Grammar.Names ⟨⟨none, none⟩, [keyword]⟩ .card keyword.name keyword :=
    ⟨[], [], rfl, nofun, rfl, happlies⟩
  obtain ⟨word, hpart, hdelimited⟩ := fitting_spells hfound (hargument ▸ hfits)
  have hclosed := hpart.closed
  rw [List.forall_mem_cons, List.forall_mem_cons] at hclosed
  exact ⟨word, hdelimited.spells, hclosed.2.2⟩

theorem Item.hasHeads_plainText {item : Item} (hsuited : item.Suited)
    (hword : IsWord item.keyword) (hvariable : IsVariable item.variableName) :
    HasHeads item.plainText [item.head] := by
  unfold head
  by_cases hbare : item.IsBare
  · rw [plainText_of_isBare hbare]
    exact ⟨_, hword.spells, by simp [headsFrom, hbare]⟩
  · have hassigned : ∀ {assigned : String} {word : List Symbol}, Spells assigned.toList word →
        (∀ symbol ∈ word, symbol.opensTerm = false) →
        HasHeads (item.keyword ++ " in " ++ assigned) [⟨item.keyword, true⟩] :=
      fun hspells hclosed ↦
        ⟨_, assigned_spells hword hspells, Grammar.headsFrom_assigned hclosed⟩
    simp only [hbare, not_false_eq_true, decide_true]
    cases hselection : item.current.selection? with
    | none =>
      rw [plainText_of_open hbare hselection]
      exact hassigned hvariable.spells (by simp [Symbol.opensTerm])
    | some selection =>
      obtain ⟨word, hspells, hclosed⟩ := fitting_closed (hsuited.fits hselection)
      rw [plainText_of_selection? hselection]
      exact hassigned hspells hclosed

theorem Item.hasHeads {item : Item} (henabled : item.disabled = false) (hsuited : item.Suited)
    (hword : IsWord item.keyword) (hvariable : IsVariable item.variableName) :
    HasHeads item.text [item.head] := by
  have hplain := Item.hasHeads_plainText hsuited hword hvariable
  unfold text
  rw [henabled]
  cases item.negated with
  | false => exact hplain
  | true => exact hplain.notGroup

/-- An item with two sides shows one of them, if its head means a keyword of a registry that knows
the item. -/
theorem Item.not_lacksBothSides_of_means {registry : Registry} {subject : Subject} {item : Item}
    (hsuited : item.Suited) (hknown : item.leaf.Known registry)
    (hmeans : item.head.Means registry subject) : ¬ item.current.LacksBothSides := by
  intro hlacks
  obtain ⟨keyword, hlookup, hargument⟩ := hknown
  obtain ⟨other, hname, habsent⟩ := hmeans
  rw [Grammar.names_iff_lookup] at hname
  obtain rfl : keyword = other := Option.some.inj (hlookup.symm.trans hname.1)
  have hnone : item.shape = .absent :=
    (Option.some.inj hargument).trans (habsent (by simp [head, Item.IsBare, hlacks]))
  exact nomatch (hsuited.eq_flag_iff.mpr hnone).symm.trans hlacks

/-! ### Elements -/

/-- The heads of an enabled box are those of its children. -/
theorem Frame.hasHeads {frame : Frame} (henabled : frame.disabled = false) {texts : List String}
    {several : List (List Head)} (htexts : List.Forall₂ HasHeads texts several) :
    HasHeads (frame.text texts) several.flatten := by
  obtain ⟨present, hpresent, hsame⟩ := HasHeads.forall₂_present htexts
  rw [← hsame]
  unfold Frame.text
  simp only [henabled, Bool.false_eq_true, if_false]
  generalize texts.filter (· ≠ "") = shown at hpresent ⊢
  cases hpresent with
  | nil => exact .empty
  | @cons text heads texts present hfirst hrest =>
    cases hrest with
    | nil =>
      rw [List.flatten_singleton]
      cases frame.negated with
      | false => exact hfirst
      | true => exact hfirst.notGroup
    | @cons second others texts present hsecond hrest =>
      have hgroup := (HasHeads.intercalate frame.connective (.cons hsecond hrest) hfirst).group
      cases frame.negated with
      | false => exact hgroup
      | true => exact hgroup.not

namespace Element

variable {element : Element}

/-- The heads of a text are its visible items, if their keywords are words. -/
theorem hasHeads (hsuited : ∀ item ∈ element.visibleItems, item.Suited)
    (hwords : ∀ item ∈ element.visibleItems, IsWord item.keyword)
    (hvariables : ∀ item ∈ element.visibleItems, IsVariable item.variableName) :
    HasHeads element.text (element.visibleItems.map Item.head) := by
  induction element with
  | hitem entry =>
    rw [text_item]
    cases hdisabled : entry.disabled with
    | true => simpa [Item.text, hdisabled] using HasHeads.empty
    | false =>
      simp only [visibleItems_item, hdisabled, Bool.false_eq_true, if_false, List.mem_singleton,
        forall_eq] at hsuited hwords hvariables ⊢
      exact Item.hasHeads hdisabled hsuited hwords hvariables
  | hbox frame children ih =>
    rw [text_box]
    cases hdisabled : frame.disabled with
    | true => simpa [Frame.text, hdisabled] using HasHeads.empty
    | false =>
      simp only [visibleItems_box, hdisabled, Bool.false_eq_true, if_false]
        at hsuited hwords hvariables ⊢
      rw [List.map_flatMap, List.flatMap_def]
      refine Frame.hasHeads hdisabled ?_
      rw [List.forall₂_map_left_iff, List.forall₂_map_right_iff, List.forall₂_same]
      intro child hchild
      exact ih child hchild
        (fun item hitem ↦ hsuited item (List.mem_flatMap_of_mem hchild hitem))
        (fun item hitem ↦ hwords item (List.mem_flatMap_of_mem hchild hitem))
        fun item hitem ↦ hvariables item (List.mem_flatMap_of_mem hchild hitem)

/-- A text that is read has no visible item whose keyword is not found for the subject, or takes
values while the item shows none. -/
theorem means_of_ofText {registry : Registry} {subject : Subject} {whole : Filter}
    (hsuited : ∀ item ∈ element.visibleItems, item.Suited)
    (hwords : ∀ item ∈ element.visibleItems, IsWord item.keyword)
    (hvariables : ∀ item ∈ element.visibleItems, IsVariable item.variableName)
    (hread : Filter.ofText registry subject element.text = .ok whole) :
    ∀ item ∈ element.visibleItems, item.head.Means registry subject := by
  obtain ⟨word, hspells, hheads⟩ := hasHeads hsuited hwords hvariables
  obtain ⟨inner, -, hderives⟩ := Grammar.derives_of_ofTokens hread
  have hsymbols : Grammar.symbols (Token.scan element.text) = word := hspells.symbolsOf_eq
  rw [hsymbols] at hderives
  have hmeans := hderives.means_of_mem
  rw [hheads, List.forall_mem_map] at hmeans
  exact hmeans

end Element

end CardQuery.Editor
