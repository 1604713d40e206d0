import Mathlib.Data.List.Forall2
import Mathlib.Data.List.Nodup
import CardQuery.Console
import CardQuery.Proofs.Lexing.LetterCase
import CardQuery.Proofs.Registry.Lookup

/-!
The order of keywords. A registry without fault has no two keywords whose names differ at most in
the case of their letters, so a name finds its keyword wherever that stands (`lookup_eq_some_iff`).
All that is read or compiled under a registry looks keywords up by their names, so nothing of it
depends on their order (`independent_of_order`). Only which fault is found does: it is that of the
first keyword that repeats an earlier one or lacks a column (`fault_eq_some_iff`).
-/

set_option autoImplicit false
set_option relaxedAutoImplicit false

namespace CardQuery

/-! ### Names in any case -/

namespace Text

/-- A capital letter of ASCII and its small letter. -/
def IsCapitalOf (capital small : Char) : Prop :=
  0x41 ≤ capital.toNat ∧ capital.toNat ≤ 0x5a ∧ small.toNat = capital.toNat + 0x20

/-- The words have the same characters, but for the case of letters of ASCII. -/
def CaseVariant (first second : String) : Prop :=
  List.Forall₂ (fun one other ↦ one = other ∨ IsCapitalOf one other ∨ IsCapitalOf other one)
    first.toList second.toList

/-- Characters have the same small letter if they are the same but for the case. -/
theorem toLower_eq_iff {one other : Char} :
    one.toLower = other.toLower ↔
      one = other ∨ IsCapitalOf one other ∨ IsCapitalOf other one := by
  rw [← Char.toNat_inj, ← Char.toNat_inj (c := one), Lexer.toNat_toLower,
    Lexer.toNat_toLower]
  unfold IsCapitalOf
  split <;> split <;> omega

/-- Folding leaves no difference exactly between words that are variants of each other. -/
theorem foldCase_eq_iff {first second : String} :
    foldCase first = foldCase second ↔ CaseVariant first second := by
  rw [foldCase, foldCase, String.ofList_inj, CaseVariant]
  simp only [← toLower_eq_iff]
  rw [← List.forall₂_eq_eq_eq, List.forall₂_map_left_iff, List.forall₂_map_right_iff]

end Text

namespace Registry

open Text

variable {registry other : Registry} {keywords earlier : List Keyword} {keyword : Keyword}
  {name : String}

/-! ### Faults -/

/-- One of the earlier keywords has the name of the keyword, in some case. -/
def Repeats (earlier : List Keyword) (keyword : Keyword) : Prop :=
  ∃ first ∈ earlier, CaseVariant first.name keyword.name

/-- No two names differ only in case, and where values have origins there is a column for them. -/
structure Faultless (keywords : List Keyword) : Prop where
  distinct : keywords.Pairwise fun first second ↦ ¬ CaseVariant first.name second.name
  columns : ∀ keyword ∈ keywords, keyword.argument.IsSourced →
    ∃ column, keyword.originColumn = some column

/-- What is wrong with a keyword that comes after others. A repeated name comes before a missing
column. -/
inductive Breaks (earlier : List Keyword) (keyword : Keyword) : Fault → Prop where
  | repeated (again : Repeats earlier keyword) : Breaks earlier keyword (.repeated keyword.name)
  | originColumnMissing (anew : ¬ Repeats earlier keyword) (lacks : keyword.LacksOriginColumn) :
      Breaks earlier keyword (.originColumnMissing keyword.name)

/-- The fault is that of the first keyword with which something is wrong. -/
def FirstBreak (earlier keywords : List Keyword) (fault : Fault) : Prop :=
  ∃ before keyword after, keywords = before ++ keyword :: after ∧
    Faultless (earlier ++ before) ∧ Breaks (earlier ++ before) keyword fault

theorem faultless_nil : Faultless [] :=
  ⟨.nil, by simp⟩

/-- One more keyword behind faultless ones is faultless if nothing is wrong with it. -/
theorem faultless_concat :
    Faultless (earlier ++ [keyword]) ↔
      Faultless earlier ∧ ¬ Repeats earlier keyword ∧ ¬ keyword.LacksOriginColumn := by
  have hcolumn : ¬ keyword.LacksOriginColumn ↔ (keyword.argument.IsSourced →
      ∃ column, keyword.originColumn = some column) := by
    rw [Keyword.LacksOriginColumn, not_and, ← Option.ne_none_iff_exists']
  constructor
  · rintro ⟨hdistinct, hcolumns⟩
    obtain ⟨hbefore, -, hlast⟩ := List.pairwise_append.mp hdistinct
    rw [List.forall_mem_append, List.forall_mem_singleton] at hcolumns
    refine ⟨⟨hbefore, hcolumns.1⟩, ?_, hcolumn.mpr hcolumns.2⟩
    rintro ⟨first, hfirst, hvariant⟩
    exact hlast first hfirst keyword (List.mem_singleton_self _) hvariant
  · rintro ⟨⟨hdistinct, hcolumns⟩, hanew, hlast⟩
    refine ⟨List.pairwise_append.mpr ⟨hdistinct, List.pairwise_singleton _ _, ?_⟩, ?_⟩
    · intro first hfirst last hmember hvariant
      obtain rfl := List.mem_singleton.mp hmember
      exact hanew ⟨first, hfirst, hvariant⟩
    · rw [List.forall_mem_append, List.forall_mem_singleton]
      exact ⟨hcolumns, hcolumn.mp hlast⟩

theorem Faultless.left (hfaultless : Faultless (earlier ++ keywords)) : Faultless earlier :=
  ⟨(List.pairwise_append.mp hfaultless.distinct).1, fun keyword hkeyword ↦
    hfaultless.columns keyword (List.mem_append_left _ hkeyword)⟩

/-- What is wrong first is wrong with the next keyword, or with one behind it. -/
theorem firstBreak_cons {fault : Fault} (hearlier : Faultless earlier) :
    FirstBreak earlier (keyword :: keywords) fault ↔
      Breaks earlier keyword fault ∨ FirstBreak (earlier ++ [keyword]) keywords fault := by
  constructor
  · rintro ⟨before, first, after, hkeywords, hbefore, hbreaks⟩
    cases before with
    | nil =>
      obtain ⟨rfl, -⟩ := List.cons_eq_cons.mp hkeywords
      exact .inl (by simpa using hbreaks)
    | cons head before =>
      obtain ⟨rfl, rfl⟩ := List.cons_eq_cons.mp hkeywords
      exact .inr ⟨before, first, after, rfl, by simpa using hbefore, by simpa using hbreaks⟩
  · rintro (hbreaks | ⟨before, first, after, rfl, hbefore, hbreaks⟩)
    · exact ⟨[], keyword, keywords, rfl, by simpa using hearlier, by simpa using hbreaks⟩
    · exact ⟨keyword :: before, first, after, rfl, by simpa using hbefore, by simpa using hbreaks⟩

/-- The names that have been seen are those of the earlier keywords, the last one first. -/
def seenNames (earlier : List Keyword) : List String :=
  (earlier.map (foldCase ·.name)).reverse

theorem foldCase_mem_seenNames :
    foldCase keyword.name ∈ seenNames earlier ↔ Repeats earlier keyword := by
  simp only [seenNames, List.mem_reverse, List.mem_map, foldCase_eq_iff, Repeats]

theorem seenNames_concat :
    seenNames (earlier ++ [keyword]) = foldCase keyword.name :: seenNames earlier := by
  simp [seenNames]

/-- Behind faultless keywords the search finds no fault exactly if there is none. -/
theorem firstFault_eq_none_iff (hearlier : Faultless earlier) :
    firstFault (seenNames earlier) keywords = none ↔ Faultless (earlier ++ keywords) := by
  induction keywords generalizing earlier with
  | nil => simpa [firstFault] using hearlier
  | cons keyword rest ih =>
    have hnext : Faultless (earlier ++ keyword :: rest) → Faultless (earlier ++ [keyword]) := by
      intro hall
      rw [List.append_cons] at hall
      exact hall.left
    unfold firstFault
    split
    · rename_i hseen
      have hagain := foldCase_mem_seenNames.mp hseen
      exact iff_of_false (by simp) fun hall ↦ (faultless_concat.mp (hnext hall)).2.1 hagain
    split
    · rename_i hlacks
      exact iff_of_false (by simp) fun hall ↦ (faultless_concat.mp (hnext hall)).2.2 hlacks
    · rename_i hseen hcolumn
      have hanew : ¬ Repeats earlier keyword := fun hagain ↦
        hseen (foldCase_mem_seenNames.mpr hagain)
      rw [← seenNames_concat, ih (faultless_concat.mpr ⟨hearlier, hanew, hcolumn⟩)]
      simp

theorem breaks_iff_of_repeats {fault : Fault} (hagain : Repeats earlier keyword) :
    Breaks earlier keyword fault ↔ fault = .repeated keyword.name := by
  constructor
  · intro hbreaks
    cases hbreaks with
    | repeated => rfl
    | originColumnMissing hanew => exact absurd hagain hanew
  · rintro rfl
    exact .repeated hagain

theorem breaks_iff_of_not_repeats {fault : Fault} (hanew : ¬ Repeats earlier keyword) :
    Breaks earlier keyword fault ↔
      keyword.LacksOriginColumn ∧ fault = .originColumnMissing keyword.name := by
  constructor
  · intro hbreaks
    cases hbreaks with
    | repeated hagain => exact absurd hagain hanew
    | originColumnMissing _ hlacks => exact ⟨hlacks, rfl⟩
  · rintro ⟨hlacks, rfl⟩
    exact .originColumnMissing hanew hlacks

/-- Behind faultless keywords the search finds what is wrong first. -/
theorem firstFault_eq_some_iff {fault : Fault} (hearlier : Faultless earlier) :
    firstFault (seenNames earlier) keywords = some fault ↔ FirstBreak earlier keywords fault := by
  induction keywords generalizing earlier with
  | nil => simp [firstFault, FirstBreak]
  | cons keyword rest ih =>
    -- Something is wrong behind this keyword first only if nothing is wrong with it.
    have hbehind : FirstBreak (earlier ++ [keyword]) rest fault →
        ¬ Repeats earlier keyword ∧ ¬ keyword.LacksOriginColumn := by
      rintro ⟨before, -, -, -, hbefore, -⟩
      exact (faultless_concat.mp hbefore.left).2
    rw [firstBreak_cons hearlier]
    unfold firstFault
    split
    · rename_i hseen
      have hagain := foldCase_mem_seenNames.mp hseen
      have hfirst : ¬ FirstBreak (earlier ++ [keyword]) rest fault := fun hrest ↦
        (hbehind hrest).1 hagain
      rw [breaks_iff_of_repeats hagain, or_iff_left hfirst, Option.some_inj, eq_comm]
    rename_i hseen
    have hanew := foldCase_mem_seenNames.not.mp hseen
    rw [breaks_iff_of_not_repeats hanew]
    split
    · rename_i hlacks
      have hfirst : ¬ FirstBreak (earlier ++ [keyword]) rest fault := fun hrest ↦
        (hbehind hrest).2 hlacks
      rw [or_iff_left hfirst, Option.some_inj, and_iff_right hlacks, eq_comm]
    · rename_i hcolumn
      rw [← seenNames_concat, ih (faultless_concat.mpr ⟨hearlier, hanew, hcolumn⟩)]
      exact (or_iff_right fun hlacks ↦ hcolumn hlacks.1).symm

theorem fault_eq_none_iff : registry.fault = none ↔ Faultless registry.keywords :=
  firstFault_eq_none_iff faultless_nil

theorem fault_eq_some_iff {fault : Fault} :
    registry.fault = some fault ↔ FirstBreak [] registry.keywords fault :=
  firstFault_eq_some_iff faultless_nil

/-! ### Keywords in another order -/

theorem Faultless.perm {others : List Keyword} (hfaultless : Faultless keywords)
    (horder : others.Perm keywords) : Faultless others where
  distinct := by
    refine (horder.pairwise_iff fun hother hvariant ↦ hother ?_).mpr hfaultless.distinct
    exact foldCase_eq_iff.mp (foldCase_eq_iff.mpr hvariant).symm
  columns keyword hkeyword := hfaultless.columns keyword (horder.mem_iff.mp hkeyword)

theorem Faultless.nodup (hfaultless : Faultless keywords) :
    (keywords.map (foldCase ·.name)).Nodup := by
  rw [List.Nodup, List.pairwise_map]
  exact hfaultless.distinct.imp fun hother hsame ↦ hother (foldCase_eq_iff.mp hsame)

/-- Among faultless keywords a name finds the one that it is a variant of. -/
theorem lookup_eq_some_iff (hfaultless : Faultless registry.keywords) :
    registry.lookup name = some keyword ↔
      keyword ∈ registry.keywords ∧ CaseVariant name keyword.name := by
  constructor
  · intro hlookup
    exact ⟨mem_of_lookup hlookup, foldCase_eq_iff.mp (foldCase_of_lookup hlookup).symm⟩
  · rintro ⟨hkeyword, hvariant⟩
    have hname := foldCase_eq_iff.mpr hvariant
    cases hlookup : registry.lookup name with
    | none =>
      have hnone := List.find?_eq_none.mp hlookup keyword hkeyword
      exact absurd (sameWord_iff.mpr hname.symm) hnone
    | some first =>
      have hsame := (foldCase_of_lookup hlookup).trans hname
      rw [List.inj_on_of_nodup_map hfaultless.nodup (mem_of_lookup hlookup) hkeyword hsame]

/-- Keywords are found wherever they stand. -/
theorem lookup_of_perm (hfaultless : Faultless registry.keywords)
    (horder : other.keywords.Perm registry.keywords) : other.lookup = registry.lookup := by
  funext name
  ext keyword
  rw [lookup_eq_some_iff (hfaultless.perm horder), lookup_eq_some_iff hfaultless,
    horder.mem_iff]

end Registry

/-! ### What looks keywords up -/

variable {registry other : Registry}

namespace Parser

theorem named_congr (hlookup : other.lookup = registry.lookup) (subject : Subject) :
    named other subject = named registry subject := by
  funext name token rest
  simp only [named, Registry.lookupFor, hlookup]

theorem primary_congr (hlookup : other.lookup = registry.lookup) (subject : Subject)
    (inner : Reader Filter) : primary other subject inner = primary registry subject inner := by
  have hrun : runPrimary other subject inner = runPrimary registry subject inner := by
    funext tokens
    simp only [runPrimary, named_congr hlookup]
  simp only [primary, hrun]

theorem expression_congr (hlookup : other.lookup = registry.lookup) (subject : Subject)
    (depth : Nat) : expression other subject depth = expression registry subject depth := by
  induction depth with
  | zero => rfl
  | succ depth ih => simp only [expression, primary_congr hlookup, ih]

end Parser

/-- Registries that find the same keywords read the same filters from a text. -/
theorem Filter.ofText_congr (hlookup : other.lookup = registry.lookup) :
    ofText other = ofText registry := by
  funext subject text
  simp only [ofText, ofTokens, Parser.run, Parser.complete, Parser.expression_congr hlookup]

namespace Sql

theorem ofFilter_congr (hlookup : other.lookup = registry.lookup) (filter : Filter) :
    ofFilter other filter = ofFilter registry filter := by
  induction filter with
  | wrapped inner ih => exact ih
  | join left connective right hleft hright => simp only [ofFilter, hleft, hright]
  | negation operand ih => simp only [ofFilter, ih]
  | leaf entry => simp only [ofFilter, ofLeaf, hlookup]

/-- Registries that find the same keywords and name the same tables compile to the same query. -/
theorem compile_congr (hlookup : other.lookup = registry.lookup)
    (htables : other.tables = registry.tables) : compile other = compile registry := by
  funext subject filter
  have htable : other.tableName subject = registry.tableName subject := by
    cases subject <;> simp only [Registry.tableName, htables]
  simp only [compile, ofFilter_congr hlookup, htable]

end Sql

/-- Such registries give the same answer to a filter, from its text to its query. -/
theorem Console.filterLines_congr (hlookup : other.lookup = registry.lookup)
    (htables : other.tables = registry.tables) : filterLines other = filterLines registry := by
  have hquery : queryLines other = queryLines registry := by
    funext subject bound
    cases bound with
    | none => rfl
    | some filter => simp only [queryLines, Sql.compile_congr hlookup htables]
  funext subject line
  simp only [filterLines, Filter.ofText_congr hlookup, hquery]

namespace Registry

open Editor Text

/-- A registry has no fault exactly if it is faultless, and otherwise the fault of the first keyword
with which something is wrong. The keywords of a registry without fault can stand in any order: each
is found by its name in any case, and filters are read, drawn in the editor, shown as text and
compiled as before. -/
theorem independent_of_order (registry : Registry) :
    (registry.fault = none ↔ Faultless registry.keywords) ∧
      (∀ fault, registry.fault = some fault ↔ FirstBreak [] registry.keywords fault) ∧
      (registry.fault = none → ∀ other : Registry, other.tables = registry.tables →
        other.keywords.Perm registry.keywords →
        other.fault = none ∧
          (∀ keyword ∈ registry.keywords, ∀ name, CaseVariant name keyword.name →
            registry.lookup name = some keyword ∧ other.lookup name = some keyword) ∧
          Filter.ofText other = Filter.ofText registry ∧
          (∀ subject text poolId nextId,
            (Filter.ofText other subject text).map (fun filter ↦
                (Element.ofFilterAlone subject (some filter) poolId nextId).1) =
              (Filter.ofText registry subject text).map fun filter ↦
                (Element.ofFilterAlone subject (some filter) poolId nextId).1) ∧
          Sql.compile other = Sql.compile registry ∧
          Console.filterLines other = Console.filterLines registry) := by
  refine ⟨fault_eq_none_iff, fun fault ↦ fault_eq_some_iff, fun hfault other htables horder ↦ ?_⟩
  have hfaultless := fault_eq_none_iff.mp hfault
  have hlookup := lookup_of_perm hfaultless horder
  refine ⟨fault_eq_none_iff.mpr (hfaultless.perm horder), fun keyword hkeyword name hvariant ↦ ?_,
    Filter.ofText_congr hlookup, fun subject text poolId nextId ↦ ?_,
    Sql.compile_congr hlookup htables, Console.filterLines_congr hlookup htables⟩
  · have hfound := (lookup_eq_some_iff hfaultless).mpr ⟨hkeyword, hvariant⟩
    exact ⟨hfound, by rw [hlookup, hfound]⟩
  · rw [Filter.ofText_congr hlookup]

/-- The usual keywords backwards. -/
def backwards : Registry := ⟨builtin.tables, builtinKeywords.reverse⟩

theorem independent_of_order_backwards :
    builtin.fault = none ∧ backwards.fault = none ∧
      (∃ keyword, keyword.name = "Clan" ∧ builtin.lookup "cLAN" = some keyword ∧
        backwards.lookup "cLAN" = some keyword) ∧
      Filter.ofText backwards = Filter.ofText builtin ∧
      Sql.compile backwards = Sql.compile builtin := by
  obtain ⟨hnofault, hnames, hread, -, hcompiled, -⟩ :=
    (independent_of_order builtin).2.2 fault_builtin backwards rfl (List.reverse_perm _)
  have hclan : ∃ keyword ∈ builtin.keywords, keyword.name = "Clan" := by decide
  obtain ⟨clan, hmember, hname⟩ := hclan
  have hvariant : CaseVariant "cLAN" clan.name := by
    rw [hname]
    exact foldCase_eq_iff.mp (by decide)
  exact ⟨fault_builtin, hnofault, ⟨clan, hname, hnames clan hmember "cLAN" hvariant⟩, hread,
    hcompiled⟩

end Registry

end CardQuery
