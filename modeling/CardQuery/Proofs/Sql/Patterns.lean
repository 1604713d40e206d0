import Mathlib.Data.List.Infix
import CardQuery.Proofs.Sql.Meaning

/-!
What the condition of a text says. The text is put between two percent signs as it is, so that the
column is like it exactly if some rest of the column is like the text with a percent sign after it
(`isLike_containing_iff`). A text whose characters all stand for themselves is then looked for in
the column (`isLike_containing_iff_infix`). Any other text is a pattern of its own, and there is
always a column that is like it and does not contain it (`isLike_instanceOf`), so only the former
texts mean that the column contains them (`compile_containing`).
-/

set_option autoImplicit false
set_option relaxedAutoImplicit false

namespace CardQuery

open Editor

namespace Sql

/-! ### Characters of patterns -/

/-- The character has no meaning of its own in a pattern. -/
def StandsForItself (character : Char) : Prop :=
  character ≠ '%' ∧ character ≠ '_' ∧ character ≠ '\\'

instance (character : Char) : Decidable (StandsForItself character) :=
  inferInstanceAs (Decidable (_ ∧ _))

variable {character : Char} {pattern text : List Char}

theorem isLike_percent :
    isLike ('%' :: pattern) text = true ↔ ∃ rest, rest <:+ text ∧ isLike pattern rest = true := by
  simp [isLike, List.mem_tails]

theorem isLike_only_percent (text : List Char) : isLike ['%'] text = true :=
  isLike_percent.mpr ⟨[], List.nil_suffix, rfl⟩

theorem isLike_cons (hplain : StandsForItself character) :
    isLike (character :: pattern) text = true ↔
      ∃ rest, text = character :: rest ∧ isLike pattern rest = true := by
  obtain ⟨hpercent, hunderscore, hbackslash⟩ := hplain
  rw [isLike]
  · cases text with
    | nil => simp [beginsWith]
    | cons first rest => simp [beginsWith]
  all_goals simp_all

theorem isLike_append {plain : List Char}
    (hplain : ∀ character ∈ plain, StandsForItself character) :
    isLike (plain ++ pattern) text = true ↔
      ∃ rest, text = plain ++ rest ∧ isLike pattern rest = true := by
  induction plain generalizing text with
  | nil => simp
  | cons first rest ih =>
    rw [List.forall_mem_cons] at hplain
    simp only [List.cons_append, isLike_cons hplain.1, ih hplain.2]
    constructor
    · rintro ⟨_, rfl, after, rfl, hlike⟩
      exact ⟨after, rfl, hlike⟩
    · rintro ⟨after, rfl, hlike⟩
      exact ⟨_, rfl, after, rfl, hlike⟩

/-! ### Texts between percent signs -/

theorem toList_containing (text : String) :
    (containing text).toList = '%' :: (text.toList ++ ['%']) := by
  simp [containing]

/-- Some rest of the column is like the text with anything behind it. -/
theorem isLike_containing_iff {text value : String} :
    isLike (containing text).toList value.toList = true ↔
      ∃ rest, rest <:+ value.toList ∧ isLike (text.toList ++ ['%']) rest = true := by
  rw [toList_containing, isLike_percent]

theorem isLike_containing_iff_infix {text value : String}
    (hplain : ∀ character ∈ text.toList, StandsForItself character) :
    isLike (containing text).toList value.toList = true ↔ text.toList <:+: value.toList := by
  rw [isLike_containing_iff]
  constructor
  · rintro ⟨rest, hrest, hlike⟩
    obtain ⟨after, rfl, -⟩ := (isLike_append hplain).mp hlike
    exact (List.prefix_append _ _).isInfix.trans hrest.isInfix
  · rintro ⟨before, after, hvalue⟩
    refine ⟨text.toList ++ after, ⟨before, by rw [← hvalue, List.append_assoc]⟩, ?_⟩
    exact (isLike_append hplain).mpr ⟨after, rfl, isLike_only_percent after⟩

/-! ### Texts that are patterns of their own -/

/-- What the text with a percent sign after it is a pattern of, with as few characters as can be: no
character for a percent sign, another one for an underscore, and for a backslash the character
behind it, which is the percent sign if the backslash is the last one. -/
def instanceOf : List Char → List Char
  | [] => []
  | '%' :: text => instanceOf text
  | '_' :: text => '%' :: instanceOf text
  | ['\\'] => ['%']
  | '\\' :: character :: text => character :: instanceOf text
  | character :: text => character :: instanceOf text

/-- What is left in the last case: the character is none of the three. -/
theorem standsForItself_of_cases (hpercent : character = '%' → False)
    (hunderscore : character = '_' → False) (hlast : character = '\\' → text = [] → False)
    (hbackslash : ∀ next rest, character = '\\' → text = next :: rest → False) :
    StandsForItself character := by
  refine ⟨hpercent, hunderscore, fun heq ↦ ?_⟩
  cases text with
  | nil => exact hlast heq rfl
  | cons next rest => exact hbackslash next rest heq rfl

theorem isLike_instanceOf (text : List Char) :
    isLike (text ++ ['%']) (instanceOf text) = true := by
  fun_induction instanceOf text with
  | case1 => rfl
  | case2 text ih => exact isLike_percent.mpr ⟨_, List.suffix_rfl, ih⟩
  | case3 text ih => simpa [isLike, beginsWith] using ih
  | case4 => rfl
  | case5 character text ih => simpa [isLike, beginsWith] using ih
  | case6 character text hpercent hunderscore hlast hbackslash ih =>
    have hplain := standsForItself_of_cases hpercent hunderscore hlast hbackslash
    exact (isLike_cons hplain).mpr ⟨_, rfl, ih⟩

theorem length_instanceOf (text : List Char) : (instanceOf text).length ≤ text.length := by
  fun_induction instanceOf text <;> simp_all <;> omega

/-- Only a text whose characters stand for themselves is an instance of itself. -/
theorem standsForItself_of_instanceOf (hsame : instanceOf text = text) :
    ∀ character ∈ text, StandsForItself character := by
  fun_induction instanceOf text with
  | case1 => simp
  | case2 text ih =>
    have hlength := length_instanceOf text
    rw [hsame, List.length_cons] at hlength
    omega
  | case3 text ih => simp at hsame
  | case4 => simp at hsame
  | case5 character text ih =>
    have hlength := length_instanceOf text
    have hlong := congrArg List.length hsame
    simp only [List.length_cons] at hlong
    omega
  | case6 character text hpercent hunderscore hlast hbackslash ih =>
    have hplain := standsForItself_of_cases hpercent hunderscore hlast hbackslash
    exact List.forall_mem_cons.mpr ⟨hplain, ih (List.cons_injective hsame)⟩

/-- Only a text whose characters stand for themselves is looked for as it is. -/
theorem isLike_containing_iff_infix_iff {text : String} :
    (∀ value : String, isLike (containing text).toList value.toList = true ↔
        text.toList <:+: value.toList) ↔
      ∀ character ∈ text.toList, StandsForItself character := by
  refine ⟨fun hcontains ↦ standsForItself_of_instanceOf ?_, fun hplain _ ↦
    isLike_containing_iff_infix hplain⟩
  have hlike : isLike (containing text).toList (String.ofList (instanceOf text.toList)).toList =
      true := by
    rw [isLike_containing_iff, String.toList_ofList]
    exact ⟨_, List.suffix_rfl, isLike_instanceOf text.toList⟩
  have hinside := (hcontains _).mp hlike
  rw [String.toList_ofList] at hinside
  exact (hinside.eq_of_length_le (length_instanceOf text.toList)).symm

/-! ### Conditions of texts -/

variable {registry : Registry} {keyword : Keyword} {entry : Leaf} {text : String}

/-- The query for a leaf with a text asks for one condition on the column of its keyword. That
condition holds of a record exactly if some rest of the column is like the text with anything behind
it. It means that the column contains the text exactly if no character of the text has a meaning of
its own in patterns. -/
theorem compile_containing (subject : Subject)
    (hlookup : registry.lookup entry.keyword = some keyword) (hargument : keyword.argument = .text)
    (hselection : entry.selection = some (.listed [text])) :
    ∃ condition, compile registry subject (.leaf entry) =
        .ok (selectFrom (registry.tableName subject) condition) ∧
      (∀ (record : Record) (value : String), record keyword.column = .text value →
        (condition.truth record.row = .yes ↔
          ∃ rest, rest <:+ value.toList ∧ isLike (text.toList ++ ['%']) rest = true)) ∧
      ((∀ (record : Record) (value : String), record keyword.column = .text value →
          (condition.truth record.row = .yes ↔ text.toList <:+: value.toList)) ↔
        ∀ character ∈ text.toList, StandsForItself character) := by
  have hcondition : ofLeaf registry entry = .ok (.like keyword.column (containing text)) := by
    simp [ofLeaf, hlookup, ofKeyword, hargument, hselection, containsSome]
  have htruth : ∀ (record : Record) (value : String), record keyword.column = .text value →
      ((Condition.like keyword.column (containing text)).truth record.row = .yes ↔
        isLike (containing text).toList value.toList = true) := by
    intro record value hcolumn
    simp only [Condition.truth, Record.row, hcolumn, Cell.like, Truth.ofBool]
    split <;> simp_all
  refine ⟨.like keyword.column (containing text), ?_, fun record value hcolumn ↦ ?_, ?_⟩
  · rw [compile_eq_map, ofFilter, hcondition]
    rfl
  · rw [htruth record value hcolumn, isLike_containing_iff]
  · rw [← isLike_containing_iff_infix_iff]
    constructor
    · intro hholds value
      let record : Record := fun _ ↦ .text value
      exact (htruth record value rfl).symm.trans (hholds record value rfl)
    · intro hcontains record value hcolumn
      rw [htruth record value hcolumn]
      exact hcontains value

/-- The keyword of the text on a card. -/
def textKeyword : Keyword :=
  ⟨"CardText", "Card Text", "Cards whose text contains the given string.", [.card, .cardSet],
    .text, "card_text", none⟩

/-- The keyword of the text on a card, with a text to look for. -/
def textLeaf (text : String) : Leaf := Grammar.leafOf textKeyword none (some (.listed [text]))

theorem compile_containing_strike :
    ∃ condition, compile Registry.builtin .card (.leaf (textLeaf "strike")) =
        .ok (selectFrom "physical_card" condition) ∧
      ∀ (record : Record) (value : String), record "card_text" = .text value →
        (condition.truth record.row = .yes ↔ "strike".toList <:+: value.toList) := by
  have hlookup : Registry.builtin.lookup (textLeaf "strike").keyword = some textKeyword := rfl
  obtain ⟨condition, hquery, -, hcontains⟩ := compile_containing .card hlookup rfl rfl
  exact ⟨condition, hquery, hcontains.mpr (by simp [StandsForItself])⟩

theorem ofText_percent :
    Filter.ofText Registry.builtin .card "CardText in \"100%\"" =
      .ok (.wrapped (.leaf (textLeaf "100%"))) := by
  have hline : "CardText in \"100%\"" =
      textKeyword.name ++ " in " ++ (Selection.listed ["100%"]).text := by decide
  have hword : Lexer.IsWord textKeyword.name :=
    Lexer.isWord_of_symbol rfl (by decide) (by decide) (List.all_eq_true.mp (by decide)) (by decide)
  have hfits : (Selection.listed ["100%"]).Fits textKeyword.argument := List.length_singleton
  rw [hline]
  exact ofText_fitting (Grammar.names_iff_lookupFor.mpr rfl) hword hfits

/-- A card that does not contain the text of a line meets the condition of its query: the percent
sign in the text stands for anything. -/
theorem not_containing_percent :
    ∃ filter condition,
      Filter.ofText Registry.builtin .card "CardText in \"100%\"" = .ok filter ∧
      compile Registry.builtin .card filter = .ok (selectFrom "physical_card" condition) ∧
      condition.text = "\"card_text\" LIKE '%100%%'" ∧
      ∃ record : Record, record "card_text" = .text "1000 blood" ∧
        condition.truth record.row = .yes ∧ ¬ "100%".toList <:+: "1000 blood".toList :=
  ⟨_, .like "card_text" (containing "100%"), ofText_percent, rfl, by decide,
    fun _ ↦ .text "1000 blood", rfl, by decide, by decide⟩

end Sql

end CardQuery
