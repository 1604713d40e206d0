import CardQuery.Proofs.Editor.Drawing
import CardQuery.Proofs.Editor.Sketches
import CardQuery.Proofs.Editor.Views

/-!
Trees that have been built are flat. A box of theirs is there because of a connective that differs
from the one around it, or because of a negation, and it has several children; only the root may be
a box around a single item (`flatRoot_of_build`). As what has been built is enabled, nothing in such
a tree is hidden (`FlatRoot.visibleItems_eq`).
-/

set_option autoImplicit false
set_option relaxedAutoImplicit false

namespace CardQuery.Editor

namespace Element

/-- The element has its place in a box of the connective: it is an item, or a box that could not be
left out there, and so on below it. -/
inductive Flat : Connective → Element → Prop
  | item {outer : Connective} {entry : Item} (henabled : entry.disabled = false) :
      Flat outer (.item entry)
  | box {outer : Connective} {frame : Frame} {children : List Element}
      (henabled : frame.disabled = false)
      (hgroup : frame.connective = outer → frame.negated = true) (hmany : 2 ≤ children.length)
      (hchildren : ∀ child ∈ children, Flat frame.connective child) :
      Flat outer (.box frame children)

/-- The element is a whole tree without a box that could be left out. -/
inductive FlatRoot : Element → Prop
  | several {frame : Frame} {children : List Element} (henabled : frame.disabled = false)
      (hmany : 2 ≤ children.length) (hchildren : ∀ child ∈ children, Flat frame.connective child) :
      FlatRoot (.box frame children)
  | single {frame : Frame} {entry : Item} (hframe : frame.disabled = false)
      (hconnective : frame.connective = .and) (hnegated : frame.negated = false)
      (hentry : entry.disabled = false) : FlatRoot (.box frame [.item entry])

/-! ### What flat trees show -/

/-- All items of a flat element are visible, and it has some. -/
theorem Flat.visibleItems_eq {outer : Connective} {element : Element} (hflat : Flat outer element) :
    element.visibleItems = element.items ∧ element.items ≠ [] := by
  induction hflat with
  | item henabled => simp [henabled]
  | @box outer frame children henabled _ hmany _ ih =>
    simp only [visibleItems_box, items_box, henabled, Bool.false_eq_true, if_false]
    refine ⟨List.flatMap_congr fun child hchild ↦ (ih child hchild).1, ?_⟩
    cases children with
    | nil => simp at hmany
    | cons first rest => simp [(ih first (List.mem_cons_self ..)).2]

theorem FlatRoot.visibleItems_eq {element : Element} (hflat : FlatRoot element) :
    element.visibleItems = element.items ∧ element.items ≠ [] := by
  cases hflat with
  | @several frame children henabled hmany hchildren =>
    -- A tree of several children has its place in a box of the other connective.
    obtain ⟨outer, hother⟩ : ∃ outer, frame.connective ≠ outer := by
      cases frame.connective with
      | and => exact ⟨.or, nofun⟩
      | or => exact ⟨.and, nofun⟩
    exact (Flat.box henabled (absurd · hother) hmany hchildren).visibleItems_eq
  | single hframe _ _ hentry => simp [hframe, hentry]

/-! ### Elements of outlines side by side -/

theorem length_ofOutlines (subject : Subject) (outlines : List Outline) (supply : Supply) :
    (ofOutlines subject outlines supply).1.length = outlines.length := by
  induction outlines generalizing supply with
  | nil => rfl
  | cons outline rest ih => simp only [ofOutlines, List.length_cons, ih]

theorem ofOutlines_append (subject : Subject) (first second : List Outline) (supply : Supply) :
    (ofOutlines subject (first ++ second) supply).1 =
      (ofOutlines subject first supply).1 ++
        (ofOutlines subject second (ofOutlines subject first supply).2).1 := by
  induction first generalizing supply with
  | nil => rfl
  | cons outline rest ih => simp only [List.cons_append, ofOutlines, ih]

/-! ### What has been built -/

variable {subject : Subject}

/-- What a filter adds to a box is never nothing. -/
theorem ne_nil_of_operands {outer : Connective} {filter : Filter} {outlines : List Outline}
    (hoperands : Outline.Operands outer filter outlines) : outlines ≠ [] := by
  induction hoperands with
  | item | box => exact List.cons_ne_nil _ _
  | chain _ _ ihLeft _ => exact List.append_ne_nil_of_left_ne_nil ihLeft _

/-- The two sides of a connective are several elements together. -/
theorem two_le_length_of_operands {connective : Connective} {left right : Filter}
    {first second : List Outline} (hleft : Outline.Operands connective left first)
    (hright : Outline.Operands connective right second) (supply : Supply) :
    2 ≤ (ofOutlines subject (first ++ second) supply).1.length := by
  have hfirst := List.length_pos_iff.mpr (ne_nil_of_operands hleft)
  have hsecond := List.length_pos_iff.mpr (ne_nil_of_operands hright)
  rw [length_ofOutlines, List.length_append]
  omega

theorem flat_of_operands {outer : Connective} {filter : Filter} {outlines : List Outline}
    (hoperands : Outline.Operands outer filter outlines) (supply : Supply) :
    ∀ element ∈ (ofOutlines subject outlines supply).1, Flat outer element := by
  induction hoperands generalizing supply with
  | item hseed =>
    simp only [ofOutlines, ofOutline, List.forall_mem_singleton]
    exact .item rfl
  | chain _ _ ihLeft ihRight =>
    rw [ofOutlines_append, List.forall_mem_append]
    exact ⟨ihLeft supply, ihRight _⟩
  | box negated hgroup hleft hright ihLeft ihRight =>
    simp only [ofOutlines, ofOutline, List.forall_mem_singleton]
    refine .box rfl hgroup (two_le_length_of_operands hleft hright _) ?_
    rw [ofOutlines_append, List.forall_mem_append]
    exact ⟨ihLeft _, ihRight _⟩

theorem flatRoot_of_whole {filter : Filter} {outline : Outline}
    (hwhole : Outline.Whole filter outline) (supply : Supply) :
    FlatRoot (ofOutline subject outline supply).1 := by
  induction hwhole with
  | wrapped _ ih => exact ih
  | box negated hleft hright =>
    refine .several rfl (two_le_length_of_operands hleft hright _) ?_
    rw [ofOutlines_append, List.forall_mem_append]
    exact ⟨flat_of_operands hleft _, flat_of_operands hright _⟩
  | item hseed => exact .single rfl rfl rfl rfl

theorem flatRoot_of_build {filter : Filter} {supply rest : Supply} {element : Element}
    (hbuild : ofFilter subject (some filter) supply = (.ok element, rest)) : FlatRoot element := by
  obtain ⟨outline, houtline, hdrawn⟩ := ofFilter_eq_ok hbuild
  have hroot : FlatRoot (ofOutline subject outline supply).1 :=
    flatRoot_of_whole (Outline.whole_of_complete houtline) supply
  rwa [hdrawn] at hroot

end Element

end CardQuery.Editor
