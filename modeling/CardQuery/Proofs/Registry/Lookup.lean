import CardQuery.Filter
import CardQuery.Registry

/-!
Looking up keywords. A look-up does not see the case of letters, so a keyword that has been found is
found again by its own name (`lookup_name`). In a registry without fault every keyword with origins
has a column for them (`originColumn_of_fault`). A leaf is known if its keyword is found and has the
argument of the leaf (`Leaf.Known`).
-/

set_option autoImplicit false
set_option relaxedAutoImplicit false

namespace CardQuery.Registry

open Text

variable {registry : Registry} {name : String} {keyword : Keyword}

/-- Names that differ in the case of their letters only find the same keyword. -/
theorem lookup_congr {other : String} (hnames : foldCase name = foldCase other) :
    registry.lookup name = registry.lookup other := by
  simp only [lookup, sameWord, hnames]

theorem mem_of_lookup (hlookup : registry.lookup name = some keyword) :
    keyword ∈ registry.keywords :=
  List.mem_of_find?_eq_some hlookup

theorem foldCase_of_lookup (hlookup : registry.lookup name = some keyword) :
    foldCase keyword.name = foldCase name := by
  have hfound := List.find?_some (p := fun keyword : Keyword ↦ sameWord keyword.name name) hlookup
  exact sameWord_iff.mp hfound

theorem lookup_name (hlookup : registry.lookup name = some keyword) :
    registry.lookup keyword.name = some keyword :=
  (lookup_congr (foldCase_of_lookup hlookup)).trans hlookup

/-- A keyword that applies to the subject is found for it exactly if it is found at all. -/
theorem lookupFor_eq_some_iff {subject : Subject} :
    registry.lookupFor subject name = some keyword ↔
      registry.lookup name = some keyword ∧ keyword.AppliesTo subject := by
  rw [lookupFor, Option.filter_eq_some_iff, decide_eq_true_eq]

theorem not_lacksOriginColumn_of_firstFault {seen : List String} {keywords : List Keyword}
    (hfault : firstFault seen keywords = none) :
    ∀ keyword ∈ keywords, ¬ keyword.LacksOriginColumn := by
  induction keywords generalizing seen with
  | nil => simp
  | cons first rest ih =>
    unfold firstFault at hfault
    split at hfault
    · cases hfault
    split at hfault
    · cases hfault
    · rename_i hfirst
      exact List.forall_mem_cons.mpr ⟨hfirst, ih hfault⟩

/-- Where a registry has no fault, the origins of a keyword are in some column. -/
theorem originColumn_of_fault (hfault : registry.fault = none)
    (hmember : keyword ∈ registry.keywords) (hsourced : keyword.argument.IsSourced) :
    ∃ column, keyword.originColumn = some column := by
  have hcolumn := not_lacksOriginColumn_of_firstFault hfault keyword hmember
  exact Option.ne_none_iff_exists'.mp fun hnone ↦ hcolumn ⟨hsourced, hnone⟩

end CardQuery.Registry

namespace CardQuery

/-- The registry finds the keyword of the leaf, with the argument that the leaf has. -/
def Leaf.Known (registry : Registry) (entry : Leaf) : Prop :=
  ∃ keyword, registry.lookup entry.keyword = some keyword ∧
    entry.argument = some keyword.argument

end CardQuery
