import CardQuery.Proofs.Editor.Flatness
import CardQuery.Proofs.Editor.Redrawing
import CardQuery.Proofs.Meaning.RoundTrip
import CardQuery.Proofs.Printing.Printed

/-!
What flat elements say is outlined as they are. The filter that an element says in a view of its
items joins what its children say from the left, so its operands are theirs one after another
(`exists_join`). In a flat element no chain runs into the one around it, and the outline of what it
says is made of the same boxes and of the same items (`Flat.operands_outlined`,
`FlatRoot.ofFilter_outlined`). One such view is what items show (`FlatRoot.ofFilter_shown`).
-/

set_option autoImplicit false
set_option relaxedAutoImplicit false

namespace CardQuery

/-- Values that an item can bind are read again as they are. -/
theorem Leaf.reread_of_isUsable {entry : Leaf} (husable : entry.isUsable = true)
    (hargument : entry.argument ≠ some .absent) {selection : Selection}
    (hselection : entry.selection = some selection) : selection.reread = selection := by
  cases selection with
  | listed values => rfl
  | sourced values origins =>
    unfold isUsable at husable
    rw [hselection] at husable
    split at husable
    · exact absurd ‹_› hargument
    · simp_all
    · simp_all
    · rename_i heq
      obtain ⟨rfl, rfl⟩ := Selection.sourced.inj (Option.some.inj heq)
      rw [Bool.and_eq_true] at husable
      simp only [Selection.reread, Choice.reread, Choice.ofLiterals_eq_ite, husable.1, husable.2,
        if_true]
    · cases husable

namespace Editor

open Outline (operands)

/-! ### Items -/

/-- The values of the item belong to its argument and are read again as they are. -/
structure Item.Rereads (item : Item) : Prop where
  suited : item.Suited
  reread : ∀ selection, item.current.selection? = some selection → selection.reread = selection

/-- The values of a new item are read again as they are. -/
theorem Item.Sown.rereads {filter : Filter} {seed : Seed} (hoffers : Offers filter seed)
    {item : Item} (hsown : item.Sown seed) : item.Rereads := by
  refine ⟨hsown.suited hoffers.suited, ?_⟩
  obtain ⟨negated, entry, -, hseed⟩ := hoffers
  have hsuited := Seed.suited_of_ofLeaf hseed
  obtain ⟨argument, current, hargument, rfl, hheld⟩ := Seed.holds_of_ofLeaf hseed
  intro selection hselection
  rw [hsown.current] at hselection
  split at hheld
  · rename_i husable
    refine Leaf.reread_of_isUsable husable (fun habsent ↦ ?_) (hheld.2.symm.trans hselection)
    obtain rfl := Option.some.inj (hargument.symm.trans habsent)
    cases hsuited
    cases hselection
  · exact absurd hheld (CurrentValues.not_isEmpty_of_selection? hselection)

/-- Values that belong to an argument are held again, if they are loaded as what they are bound
to. -/
theorem CurrentValues.Suits.load?_selection {current : CurrentValues} {argument : Argument}
    {selection : Selection} (hsuits : current.Suits argument)
    (hselection : current.selection? = some selection) (hreread : selection.reread = selection) :
    (ofArgument argument).load? selection = some current := by
  cases binds_of_selection? hselection with
  | text hpresent =>
    cases hsuits with
    | text hfew => exact if_pos hfew
  | list hpresent =>
    cases hsuits
    rfl
  | sourced values origins =>
    cases hsuits
    simp only [Selection.reread, Choice.reread, Selection.sourced.injEq] at hreread
    simp [ofArgument, CurrentValues.load?, loadedSide, hreread.1, hreread.2, Choice.toOption]

/-- Where nothing is bound, an item shows its variable if it is empty. -/
theorem Item.shownLeaf_of_open {item : Item} (hopen : item.current.selection? = none) :
    item.shownLeaf =
      { item.leaf with
        variableName := if item.current.IsEmpty then some item.variableName else none } := by
  rw [shownLeaf, hopen]
  by_cases hflag : item.current = .flag <;> simp [CurrentValues.isEmpty_iff, hopen, hflag, leaf]

/-- The leaf that an item shows has the seed that the item is made of again. -/
theorem Item.ofLeaf_shownLeaf {item : Item} (hrereads : item.Rereads) :
    Seed.ofLeaf item.negated item.shownLeaf = .ok item.reseed := by
  rw [Seed.ofLeaf_eq_ok_iff]
  cases hselection : item.current.selection? with
  | some selection =>
    have hset := CurrentValues.not_isEmpty_of_selection? hselection
    have hreread := hrereads.reread selection hselection
    have hload := hrereads.suited.load?_selection hselection hreread
    refine ⟨item.shape, item.current, ?_, ?_, ?_⟩
    · simp [shownLeaf, leaf, hselection]
    · simp [shownLeaf, hselection, hreread, CurrentValues.carried?, hload]
    · simp [shownLeaf, reseed, leaf, hselection, hset, CurrentValues.settled]
  | none =>
    rw [shownLeaf_of_open hselection]
    refine ⟨item.shape, item.current.cleared, rfl, ?_, ?_⟩
    · exact congrArg some hrereads.suited.cleared_eq.symm
    · simp [reseed, leaf, CurrentValues.settled, hselection]

/-! ### Chains -/

/-- Filters joined from the left have a last join, whose operands are those of the first filter and
then one for each of the others. -/
theorem exists_join {connective : Connective} {first second : Filter} {start : List Outline}
    {outline : Outline} {filters : List Filter} {outlines : List Outline}
    (hfirst : operands connective first = .complete start)
    (hsecond : operands connective second = .complete [outline])
    (hrest : List.Forall₂ (fun filter outline ↦ operands connective filter = .complete [outline])
      filters outlines) :
    ∃ left right, (second :: filters).foldl (fun left right ↦ .join left connective right) first =
        .join left connective right ∧
      (operands connective left).append (operands connective right) =
        .complete (start ++ outline :: outlines) := by
  induction hrest generalizing first second start outline with
  | nil => exact ⟨first, second, rfl, by simp [hfirst, hsecond, Sketch.append]⟩
  | @cons third next filters outlines hthird _ ih =>
    -- The join of the first two filters stands at the start of the shorter chain.
    have hjoined : operands connective (.join first connective second) =
        .complete (start ++ [outline]) := by
      simp [operands, hfirst, hsecond, Sketch.append]
    obtain ⟨left, right, hfold, hparts⟩ := ih hjoined hthird
    refine ⟨left, right, hfold, ?_⟩
    rw [hparts, List.append_assoc, List.singleton_append]

/-- A box of several children that show something shows a join, and the operands of its two sides
are those of the children. -/
theorem Frame.exists_join {frame : Frame} (henabled : frame.disabled = false)
    {filters : List Filter} {outlines : List Outline} (hmany : 2 ≤ filters.length)
    (hfilters : List.Forall₂
      (fun filter outline ↦ operands frame.connective filter = .complete [outline])
      filters outlines) :
    ∃ left right, frame.filter? (filters.map some) =
        some (negateIf frame.negated (.join left frame.connective right)) ∧
      (operands frame.connective left).append (operands frame.connective right) =
        .complete outlines := by
  cases hfilters with
  | nil => simp at hmany
  | cons hfirst hothers =>
    cases hothers with
    | nil => simp at hmany
    | cons hsecond hrest =>
      obtain ⟨left, right, hfold, hparts⟩ := Editor.exists_join hfirst hsecond hrest
      refine ⟨left, right, ?_, hparts⟩
      simp [Frame.filter?, henabled, hfold]

/-! ### Elements -/

/-- If the item is enabled, a view of it is a leaf from which it has its seed. -/
def Item.Says (view : Item → Option Filter) (seedOf : Item → Seed) (item : Item) : Prop :=
  item.disabled = false → ∃ entry, view item = some (negateIf item.negated (.leaf entry)) ∧
    Seed.ofLeaf item.negated entry = .ok (seedOf item)

theorem Item.says_shown {item : Item} (hrereads : item.Rereads) :
    item.Says Item.shown? Item.reseed :=
  fun henabled ↦ ⟨item.shownLeaf, by simp [shown?, henabled], Item.ofLeaf_shownLeaf hrereads⟩

namespace Element

section Views

variable {view : Item → Option Filter} {seedOf : Item → Seed}

/-- Children that say something, and what they say. -/
theorem exists_filters {connective : Connective} {children : List Element}
    (hchildren : ∀ child ∈ children, ∃ said, fold view Frame.filter? child = some said ∧
      operands connective said = .complete [child.outlined seedOf]) :
    ∃ filters : List Filter, children.map (fold view Frame.filter?) = filters.map some ∧
      List.Forall₂ (fun filter outline ↦ operands connective filter = .complete [outline])
        filters (children.map (outlined seedOf)) := by
  induction children with
  | nil => exact ⟨[], rfl, .nil⟩
  | cons child rest ih =>
    rw [List.forall_mem_cons] at hchildren
    obtain ⟨said, hsaid, hoperands⟩ := hchildren.1
    obtain ⟨filters, hfilters, hrest⟩ := ih hchildren.2
    exact ⟨said :: filters, by simp [hsaid, hfilters], .cons hoperands hrest⟩

/-- A box of several children says a join of what they say, if they say something. -/
theorem exists_join_of_children {frame : Frame} {children : List Element}
    (henabled : frame.disabled = false) (hmany : 2 ≤ children.length)
    (hchildren : ∀ child ∈ children, ∃ said, fold view Frame.filter? child = some said ∧
      operands frame.connective said = .complete [child.outlined seedOf]) :
    ∃ left right, fold view Frame.filter? (box frame children) =
        some (negateIf frame.negated (.join left frame.connective right)) ∧
      (operands frame.connective left).append (operands frame.connective right) =
        .complete (children.map (outlined seedOf)) := by
  obtain ⟨filters, hfilters, hoperands⟩ := exists_filters hchildren
  have hlength : filters.length = children.length := by
    rw [← List.length_map (f := some), ← hfilters, List.length_map]
  rw [fold_box, hfilters]
  exact frame.exists_join henabled (hlength ▸ hmany) hoperands

/-- What a flat element says adds to the box around it what the element is. -/
theorem Flat.operands_outlined {outer : Connective} {element : Element} (hflat : Flat outer element)
    (hitems : ∀ entry ∈ element.items, entry.Says view seedOf) :
    ∃ said, fold view Frame.filter? element = some said ∧
      operands outer said = .complete [element.outlined seedOf] := by
  induction hflat with
  | @item outer entry henabled =>
    obtain ⟨said, hview, hseed⟩ := hitems entry (by simp) henabled
    refine ⟨negateIf entry.negated (.leaf said), by simp [hview], ?_⟩
    cases hnegated : entry.negated <;>
      simp_all [negateIf, operands, Seed.ofFilter, Sketch.ofExcept]
  | @box outer frame children henabled hgroup hmany _ ih =>
    have hinside : ∀ child ∈ children, ∀ entry ∈ child.items, entry.Says view seedOf :=
      fun child hchild entry hentry ↦ hitems entry (mem_items_box hchild hentry)
    obtain ⟨left, right, hsaid, hparts⟩ := exists_join_of_children henabled hmany
      fun child hchild ↦ ih child hchild (hinside child hchild)
    refine ⟨_, hsaid, ?_⟩
    rw [outlined_box]
    cases hnegated : frame.negated with
    | true => simp [negateIf, operands, hparts, Sketch.map]
    | false =>
      have hother : frame.connective ≠ outer := by
        intro hsame
        simp [hgroup hsame] at hnegated
      simp [negateIf, operands, hparts, hother, Sketch.map]

/-- What a flat tree says is outlined as the tree is. -/
theorem FlatRoot.ofFilter_outlined {element : Element} (hflat : FlatRoot element)
    (hitems : ∀ entry ∈ element.items, entry.Says view seedOf) :
    ∃ said, fold view Frame.filter? element = some said ∧
      Outline.ofFilter said = .complete (element.outlined seedOf) := by
  cases hflat with
  | @several frame children henabled hmany hchildren =>
    have hinside : ∀ child ∈ children, ∀ entry ∈ child.items, entry.Says view seedOf :=
      fun child hchild entry hentry ↦ hitems entry (mem_items_box hchild hentry)
    obtain ⟨left, right, hsaid, hparts⟩ := exists_join_of_children henabled hmany
      fun child hchild ↦ (hchildren child hchild).operands_outlined (hinside child hchild)
    refine ⟨_, hsaid, ?_⟩
    rw [outlined_box]
    cases frame.negated <;> simp [negateIf, Outline.ofFilter, hparts, Sketch.map]
  | @single frame entry hframe hconnective hnegated hentry =>
    obtain ⟨said, hview, hseed⟩ := hitems entry (by simp) hentry
    refine ⟨negateIf entry.negated (.leaf said), ?_, ?_⟩
    · simp [Frame.filter?, hframe, hnegated, hview, negateIf]
    · rw [outlined_box, hconnective, hnegated]
      cases hitem : entry.negated <;>
        simp_all [negateIf, Outline.ofFilter, Sketch.ofExcept, Sketch.map]

end Views

/-- What a flat tree shows is outlined as the tree is. -/
theorem FlatRoot.ofFilter_shown {element : Element} (hflat : FlatRoot element)
    (hrereads : ∀ entry ∈ element.items, entry.Rereads) :
    ∃ shown, element.shown? = some shown ∧
      Outline.ofFilter shown = .complete element.redrawn := by
  rw [redrawn_eq_outlined]
  exact hflat.ofFilter_outlined fun entry hentry ↦ Item.says_shown (hrereads entry hentry)

end Element

end Editor

end CardQuery
