import CardQuery.Proofs.Sql.EditorQueries
import CardQuery.Proofs.Sql.ReadQueries

/-!
What conditions say of rows. A row gives every basic condition a truth in three values, and with
them every condition. The condition of a filter is as true of a row as the filter is, if its leaves
are read on that row (`truth_ofFilter`), so the truth of a filter that has been built carries over
to its query. A text without variables that has been built selects, with the values of its items,
the rows that its own query selects without the leaves of which a side lets everything through
(`truth_boundFilter?_of_ofText`). With these leaves the two may differ
(`not_truth_boundFilter?_of_openSide`).
-/

set_option autoImplicit false
set_option relaxedAutoImplicit false

namespace CardQuery

open Editor

namespace Sql

variable {registry : Registry}

/-! ### Rows -/

/-- What is known of a row: the truth of every basic condition on its columns. -/
structure Row where
  isTrue : String → Truth
  like : String → String → Truth
  equals : String → String → Truth

/-- The truth of a condition on a row. To be among values is to equal one of them. -/
def Condition.truth (row : Row) : Condition → Truth
  | always => .yes
  | isTrue column => row.isTrue column
  | like column pattern => row.like column pattern
  | among column values => (values.map (row.equals column)).foldr Truth.or .no
  | negation operand => (operand.truth row).not
  | both left right => (left.truth row).and (right.truth row)
  | either left right => (left.truth row).or (right.truth row)

theorem truth_join (row : Row) (connective : Connective) (left right : Condition) :
    (join connective left right).truth row =
      .join connective (left.truth row) (right.truth row) := by
  cases connective <;> rfl

/-- The truth on a row of what a leaf says by its keyword and its values. -/
def Row.interpret (registry : Registry) (row : Row) (keyword : String)
    (selection : Option Selection) : Truth :=
  match ofLeaf registry ⟨keyword, "", none, none, selection⟩ with
  | .ok condition => condition.truth row
  | .error _ => .unknown

/-- Leaves of the same keyword and values have the same condition. -/
theorem ofLeaf_congr {entry other : Leaf} {condition : Condition}
    (hkeyword : entry.keyword = other.keyword) (hselection : entry.selection = other.selection)
    (hcondition : ofLeaf registry entry = .ok condition) :
    ofLeaf registry other = .ok condition := by
  rw [ofLeaf, ← hkeyword]
  rw [ofLeaf] at hcondition
  cases hlookup : registry.lookup entry.keyword with
  | none => simp [hlookup] at hcondition
  | some keyword =>
    simp only [hlookup, ofKeyword, hselection] at hcondition ⊢
    split at hcondition <;> simp_all
    rename_i texts _ _
    cases htexts : containsSome keyword.column texts <;> simp_all

/-- The condition of a filter is as true of a row as the filter is, where leaves are as true as
their conditions. -/
theorem truth_ofFilter_of_leaves {interpret : String → Option Selection → Truth} {row : Row}
    (hleaf : ∀ entry condition, ofLeaf registry entry = .ok condition →
      condition.truth row = interpret entry.keyword entry.selection)
    {filter : Filter} {condition : Condition}
    (hcondition : ofFilter registry filter = .ok condition) :
    condition.truth row = filter.truth interpret := by
  induction filter generalizing condition with
  | wrapped inner ih => exact ih hcondition
  | join left connective right hleft hright =>
    obtain ⟨first, second, hfirst, hsecond, rfl⟩ := ofFilter_join_eq_ok.mp hcondition
    rw [truth_join, hleft hfirst, hright hsecond]
    rfl
  | negation operand ih =>
    obtain ⟨inner, hinner, rfl⟩ := ofFilter_negation_eq_ok.mp hcondition
    rw [Condition.truth, ih hinner]
    rfl
  | leaf entry => exact hleaf entry condition hcondition

/-- The condition of a filter is as true of a row as the filter is on it. -/
theorem truth_ofFilter {filter : Filter} {condition : Condition} (row : Row)
    (hcondition : ofFilter registry filter = .ok condition) :
    condition.truth row = filter.truth (row.interpret registry) := by
  refine truth_ofFilter_of_leaves (fun entry leafCondition hleaf ↦ ?_) hcondition
  have hsame : ofLeaf registry ⟨entry.keyword, "", none, none, entry.selection⟩ =
      .ok leafCondition :=
    ofLeaf_congr (by rfl) (by rfl) hleaf
  rw [Row.interpret, hsame]

/-! ### Filters that may be empty -/

/-- The condition of a filter; if there is none, every row meets it. -/
def ofFilter? (registry : Registry) : Option Filter → Except CompileError Condition
  | none => .ok .always
  | some filter => ofFilter registry filter

theorem truth_ofFilter? {filter? : Option Filter} {condition : Condition} (row : Row)
    (hcondition : ofFilter? registry filter? = .ok condition) :
    condition.truth row =
      (filter?.map (Reading.truth (row.interpret registry)).read).getD .yes := by
  cases filter? with
  | none =>
    obtain rfl : .always = condition := Except.ok.inj hcondition
    rfl
  | some filter =>
    rw [truth_ofFilter row hcondition, Option.map_some, Option.getD_some, Reading.read_truth]

theorem exists_ofFilter? {filter? : Option Filter}
    (hleaves : ∀ entry ∈ leavesOf filter?, ∃ condition, ofLeaf registry entry = .ok condition) :
    ∃ condition, ofFilter? registry filter? = .ok condition := by
  cases filter? with
  | none => exact ⟨.always, rfl⟩
  | some filter => exact exists_ofFilter_iff.mpr hleaves

/-! ### Texts without variables -/

variable {subject : Subject} {text : String} {filter : Filter}

theorem isUsable_eq_false_iff_of_ofText (hread : Filter.ofText registry subject text = .ok filter)
    (hclosed : filter.variableNames = []) :
    ∀ entry ∈ filter.leaves, entry.isUsable = false ↔ entry.HasOpenSide := by
  intro entry hentry
  obtain ⟨part, hpart, -⟩ := Grammar.exists_part_of_ofText hread hentry
  exact hpart.isUsable_eq_false_iff (Filter.variableNames_eq_nil_iff.mp hclosed entry hentry)

/-- A text without variables has been read and built under a registry without fault. Then of every
row, what the tree says with its values is as true as what the text says without the leaves of which
a side lets everything through; and if there are none of these, as what the text says. -/
theorem truth_boundFilter?_of_ofText {supply rest : Supply} {element : Element}
    (hfault : registry.fault = none)
    (hread : Filter.ofText registry subject text = .ok filter)
    (hclosed : filter.variableNames = [])
    (hbuild : Element.ofFilter subject (some filter) supply = (.ok element, rest)) :
    ∃ direct kept bound, ofFilter registry filter = .ok direct ∧
      ofFilter? registry filter.prune = .ok kept ∧
      ofFilter? registry element.boundFilter? = .ok bound ∧
      (∀ entry ∈ filter.leaves, entry.isUsable = false ↔ entry.HasOpenSide) ∧
      (∀ row, bound.truth row = kept.truth row) ∧
      ((∀ entry ∈ filter.leaves, ¬ entry.HasOpenSide) →
        ∀ row, bound.truth row = direct.truth row) := by
  have hleaf : ∀ entry ∈ filter.leaves, ∃ condition, ofLeaf registry entry = .ok condition :=
    fun entry hentry ↦ (exists_ofLeaf_iff_of_read hfault hread hentry).mpr
      (Filter.variableNames_eq_nil_iff.mp hclosed entry hentry)
  have husable := isUsable_eq_false_iff_of_ofText hread hclosed
  obtain ⟨direct, hdirect⟩ := exists_ofFilter_iff.mpr hleaf
  obtain ⟨kept, hkept⟩ : ∃ kept, ofFilter? registry filter.prune = .ok kept := by
    refine exists_ofFilter? fun entry hentry ↦ hleaf entry ?_
    rw [Filter.leaves_prune] at hentry
    exact (List.mem_filter.mp hentry).1
  obtain ⟨bound, hbound⟩ : ∃ bound, ofFilter? registry element.boundFilter? = .ok bound := by
    cases hsaid : element.boundFilter? with
    | none => exact ⟨.always, rfl⟩
    | some said =>
      exact Element.exists_ofFilter_boundFilter? hfault (Element.suited_of_build hbuild)
        (Element.known_of_build hread hbuild)
        (Element.names_nodup_of_build hbuild) hsaid
  have hsame : ∀ row, bound.truth row = kept.truth row := by
    intro row
    rw [truth_ofFilter? row hbound, truth_ofFilter? row hkept, Reading.read_boundFilter? _ hbuild]
  refine ⟨direct, kept, bound, hdirect, hkept, hbound, husable, hsame, fun hsides row ↦ ?_⟩
  have hall : ∀ entry ∈ filter.leaves, entry.isUsable = true := by
    intro entry hentry
    rw [← Bool.not_eq_false, husable entry hentry]
    exact hsides entry hentry
  rw [hsame, truth_ofFilter? row hkept, truth_ofFilter row hdirect, Reading.read_prune _ hall,
    Option.getD_some, Reading.read_truth]

/-- Single copies in one deck. -/
def copiesInDeck : Selection := .sourced (.among ["1"]) (.among ["My Deck"])

/-- The tree of a line selects as the line does without the keyword of which a side lets everything
through, and as the whole line where there is no such keyword. -/
theorem truth_boundFilter?_of_nestedLine :
    (∃ filter element rest kept bound,
      Filter.ofText Registry.builtin .card (nestedLine copiesAnywhere) = .ok filter ∧
      filter.variableNames = [] ∧
      filter.prune = some (.join
        (.negation (.join
          (.leaf (Grammar.leafOf typeKeyword none (some (.listed ["Vampire"])))) .or
          (.negation (.leaf (Grammar.leafOf countKeyword none
            (some (.sourced (.among ["2"]) (.among ["My Deck"]))))))))
        .and (.leaf (Grammar.leafOf typeKeyword none (some (.listed ["Imbued"]))))) ∧
      Element.ofFilterAlone .card (some filter) ⟨0⟩ 0 = (.ok element, rest) ∧
      ofFilter? Registry.builtin filter.prune = .ok kept ∧
      ofFilter? Registry.builtin element.boundFilter? = .ok bound ∧
      ∀ row : Row, bound.truth row = kept.truth row) ∧
    ∃ filter element rest direct bound,
      Filter.ofText Registry.builtin .card (nestedLine copiesInDeck) = .ok filter ∧
      filter.variableNames = [] ∧
      Element.ofFilterAlone .card (some filter) ⟨0⟩ 0 = (.ok element, rest) ∧
      ofFilter Registry.builtin filter = .ok direct ∧
      ofFilter? Registry.builtin element.boundFilter? = .ok bound ∧
      ∀ row : Row, bound.truth row = direct.truth row := by
  have hbuilds : ∀ values origins, ∃ element rest, Element.ofFilterAlone .card
      (some (nestedFilter (.sourced values origins))) ⟨0⟩ 0 = (.ok element, rest) :=
    fun _ _ ↦ Element.exists_ofFilter_eq_ok_iff.mpr rfl
  constructor
  · obtain ⟨element, rest, hbuild⟩ := hbuilds (.among ["1"]) .any
    have hfits : copiesAnywhere.Fits countKeyword.argument := ⟨by decide, by decide⟩
    obtain ⟨-, kept, bound, -, hkept, hbound, -, hsame, -⟩ :=
      truth_boundFilter?_of_ofText Registry.fault_builtin (ofText_nestedLine hfits) rfl hbuild
    exact ⟨_, element, rest, kept, bound, ofText_nestedLine hfits, rfl, rfl, hbuild, hkept, hbound,
      hsame⟩
  · obtain ⟨element, rest, hbuild⟩ := hbuilds (.among ["1"]) (.among ["My Deck"])
    have hfits : copiesInDeck.Fits countKeyword.argument := ⟨by decide, by decide⟩
    obtain ⟨direct, -, bound, hdirect, -, hbound, -, -, hsame⟩ :=
      truth_boundFilter?_of_ofText Registry.fault_builtin (ofText_nestedLine hfits) rfl hbuild
    have hsides : ∀ entry ∈ (nestedFilter copiesInDeck.reread).leaves, ¬ entry.HasOpenSide := by
      have hreread : copiesInDeck.reread = .sourced (.among ["1"]) (.among ["My Deck"]) := by decide
      rw [hreread]
      simp [nestedFilter, Filter.leaves, Grammar.leafOf, Leaf.HasOpenSide]
    exact ⟨_, element, rest, direct, bound, ofText_nestedLine hfits, rfl, hbuild, hdirect, hbound,
      hsame hsides⟩

/-- The row of a card of which there are three copies. -/
def threeCopies : Row where
  isTrue _ := .no
  like _ _ := .no
  equals column value := if column = "card_count" ∧ value = "3" then .yes else .no

/-- Where a side lets everything through, the tree of a text selects rows that its query does
not. -/
theorem not_truth_boundFilter?_of_openSide :
    ∃ filter element rest direct bound, Registry.builtin.fault = none ∧
      Filter.ofText Registry.builtin .card "CardCount in \"1\" FROM \"\"" = .ok filter ∧
      filter.variableNames = [] ∧
      Element.ofFilterAlone .card (some filter) ⟨0⟩ 0 = (.ok element, rest) ∧
      ofFilter Registry.builtin filter = .ok direct ∧
      ofFilter? Registry.builtin element.boundFilter? = .ok bound ∧
      bound.truth threeCopies = .yes ∧ direct.truth threeCopies = .no :=
  ⟨singleCopies, _, _, _, _, Registry.fault_builtin, ofText_singleCopies, rfl, rfl, rfl, rfl,
    by decide, by decide⟩

end Sql

end CardQuery
