import CardQuery.Editor.Build
import CardQuery.Proofs.Editor.Sketches

/-!
What a build refuses, and for which node. The nodes of a filter are looked at from left to right,
each before what stands below it. A node offends (`Filter.offence?`) if it is a wrapper, a negation
of a negation or of a wrapper, or a leaf that no item can hold; a negation offends in another way
where it is the outermost node. The sketch of a filter breaks at the first node that offends, and
has drawn the leaves before it (`Outline.draws_operands`). So builds succeed exactly where no node
offends, and fail for the first one that does (`Element.result_ofFilter`).
-/

set_option autoImplicit false
set_option relaxedAutoImplicit false

namespace CardQuery

open Editor

/-! ### Nodes that offend -/

/-- The argument of the leaf is known, and the leaf carries no values or such as the argument
takes. -/
def Leaf.isClassifiable (entry : Leaf) : Bool :=
  match entry.argument, entry.selection with
  | some _, none => true
  | some .text, some (.listed values) => values.length ≤ 1
  | some (.list _), some (.listed _) => true
  | some (.sourced _ _), some (.sourced _ _) => true
  | _, _ => false

namespace Filter

/-- The filters inside a filter, first of all itself. -/
def subfilters : Filter → List Filter
  | wrapped inner => wrapped inner :: inner.subfilters
  | join left connective right =>
    join left connective right :: (left.subfilters ++ right.subfilters)
  | negation operand => negation operand :: operand.subfilters
  | leaf entry => [leaf entry]

/-- What is wrong with a node that stands somewhere inside a filter. -/
def offence? : Filter → Option BuildError
  | wrapped _ => some (.boxOf .wrapper)
  | negation (wrapped _) => some (.noLeaf .wrapper)
  | negation (negation _) => some (.noLeaf .negation)
  | leaf entry => if entry.isClassifiable then none else some (.unclassified entry.keyword)
  | _ => none

/-- What is wrong with the outermost node. -/
def outermostOffence? : Filter → Option BuildError
  | negation (wrapped _) => some (.negatedBoxOf .wrapper)
  | negation (negation _) => some (.negatedBoxOf .negation)
  | other => other.offence?

/-- What is wrong with the first node that offends, not counting the wrappers around the whole. -/
def firstOffence? (filter : Filter) : Option BuildError :=
  filter.unwrap.outermostOffence?.or (filter.unwrap.subfilters.tail.findSome? offence?)

def leaf? : Filter → Option Leaf
  | leaf entry => some entry
  | _ => none

/-- The leaves among nodes up to the first one that offends. -/
def leavesBefore (nodes : List Filter) : List Leaf :=
  (nodes.takeWhile fun node ↦ node.offence?.isNone).filterMap leaf?

/-- The leaves that a build comes to before it meets a node that offends. -/
def drawnLeaves (filter : Filter) : List Leaf := leavesBefore filter.unwrap.subfilters

theorem subfilters_eq_cons (filter : Filter) :
    filter.subfilters = filter :: filter.subfilters.tail := by
  cases filter <;> rfl

theorem leaves_unwrap (filter : Filter) : filter.unwrap.leaves = filter.leaves := by
  induction filter with
  | wrapped inner ih => exact ih
  | join | negation | leaf => rfl

theorem unwrap_ne_wrapped (filter inner : Filter) : filter.unwrap ≠ wrapped inner := by
  induction filter with
  | wrapped inner ih => exact ih
  | join | negation | leaf => simp [unwrap]

theorem leaf_mem_subfilters_iff {filter : Filter} {entry : Leaf} :
    leaf entry ∈ filter.subfilters ↔ entry ∈ filter.leaves := by
  induction filter with
  | wrapped inner ih | negation operand ih => simpa [subfilters, leaves] using ih
  | join left connective right hleft hright => simp [subfilters, leaves, hleft, hright]
  | leaf other => simp [subfilters, leaves]

theorem offence?_eq_none_iff {node : Filter} :
    node.offence? = none ↔
      (∀ inner, node ≠ wrapped inner) ∧ (∀ inner, node ≠ negation (wrapped inner)) ∧
      (∀ operand, node ≠ negation (negation operand)) ∧
      ∀ entry, node = leaf entry → entry.isClassifiable = true := by
  cases node with
  | wrapped inner => simp [offence?]
  | join left connective right => simp [offence?]
  | leaf entry => simp [offence?]
  | negation operand => cases operand <;> simp [offence?]

theorem outermostOffence?_eq_none_iff {node : Filter} :
    node.outermostOffence? = none ↔ node.offence? = none := by
  unfold outermostOffence?
  split <;> simp [offence?]

theorem firstOffence?_eq_none_iff {filter : Filter} :
    filter.firstOffence? = none ↔ ∀ node ∈ filter.unwrap.subfilters, node.offence? = none := by
  rw [subfilters_eq_cons filter.unwrap, List.forall_mem_cons, firstOffence?, Option.or_eq_none_iff,
    outermostOffence?_eq_none_iff, List.findSome?_eq_none_iff]

theorem leavesBefore_cons_of_offence {node : Filter} {error : BuildError}
    (hoffence : node.offence? = some error) (rest : List Filter) :
    leavesBefore (node :: rest) = [] := by
  simp [leavesBefore, hoffence]

theorem leavesBefore_cons {node : Filter} (hoffence : node.offence? = none) (rest : List Filter) :
    leavesBefore (node :: rest) = node.leaf?.toList ++ leavesBefore rest := by
  cases hleaf : node.leaf? <;> simp [leavesBefore, hoffence, hleaf]

/-- Nodes that are looked at after others are reached only if none of those offends. -/
theorem leavesBefore_append (first second : List Filter) :
    leavesBefore (first ++ second) =
      if first.findSome? offence? = none then leavesBefore first ++ leavesBefore second
      else leavesBefore first := by
  induction first with
  | nil => rfl
  | cons node rest ih =>
    cases hoffence : node.offence? with
    | some error =>
      simp [leavesBefore_cons_of_offence hoffence, hoffence]
    | none =>
      rw [List.cons_append, leavesBefore_cons hoffence, leavesBefore_cons hoffence, ih,
        List.findSome?_cons, hoffence]
      split <;> simp [*]

end Filter

namespace Editor

/-! ### Where sketches break -/

/-- A leaf has an item exactly if it can be classified, and else it is named in the error. -/
theorem Seed.ofLeaf_cases (negated : Bool) (entry : Leaf) :
    (entry.isClassifiable = true ∧ ∃ seed, ofLeaf negated entry = .ok seed) ∨
      (entry.isClassifiable = false ∧
        ofLeaf negated entry = .error (.unclassified entry.keyword)) := by
  obtain ⟨keyword, description, argument, name, selection⟩ := entry
  cases argument with
  | none => exact .inr ⟨rfl, rfl⟩
  | some argument =>
    cases selection with
    | none => exact .inl ⟨rfl, _, rfl⟩
    | some selection =>
      cases argument <;> cases selection
      case text.listed values =>
        match values with
        | [] | [_] => exact .inl ⟨rfl, _, rfl⟩
        | _ :: _ :: _ => exact .inr ⟨by simp [Leaf.isClassifiable], rfl⟩
      case list.listed | sourced.sourced => exact .inl ⟨rfl, _, rfl⟩
      all_goals exact .inr ⟨rfl, rfl⟩

namespace Sketch

variable {α β : Type}

def fault? : Sketch α → Option BuildError
  | complete _ => none
  | broken _ error => some error

@[simp] theorem fault?_complete (drawing : α) : (complete drawing).fault? = none := rfl

@[simp] theorem fault?_broken (seeds : List Seed) (error : BuildError) :
    (broken seeds error : Sketch α).fault? = some error := rfl

/-- The seeds that have been drawn, whether the sketch is complete or not. -/
def drawn (seedsOf : α → List Seed) : Sketch α → List Seed
  | complete drawing => seedsOf drawing
  | broken seeds _ => seeds

/-- The sketch breaks at the first of the nodes that offends, and has drawn the leaves before it. -/
structure Draws (seedsOf : α → List Seed) (sketch : Sketch α) (nodes : List Filter) : Prop where
  fault : sketch.fault? = nodes.findSome? Filter.offence?
  wishes : (sketch.drawn seedsOf).map Seed.wish =
    (Filter.leavesBefore nodes).map Leaf.variableName

variable {seedsOf : α → List Seed} {nodes others : List Filter}

theorem draws_of_offence {node : Filter} {error : BuildError}
    (hoffence : node.offence? = some error) (rest : List Filter) :
    (broken [] error).Draws seedsOf (node :: rest) where
  fault := by simp [fault?, hoffence]
  wishes := by simp [drawn, Filter.leavesBefore_cons_of_offence hoffence]

theorem Draws.cons {sketch : Sketch α} (hsketch : sketch.Draws seedsOf nodes) {node : Filter}
    (hoffence : node.offence? = none) (hleaf : node.leaf? = none) :
    sketch.Draws seedsOf (node :: nodes) where
  fault := by rw [hsketch.fault, List.findSome?_cons, hoffence]
  wishes := by rw [hsketch.wishes, Filter.leavesBefore_cons hoffence, hleaf]; rfl

theorem Draws.map {sketch : Sketch α} (hsketch : sketch.Draws seedsOf nodes) {change : α → β}
    {readAgain : β → List Seed} (hread : ∀ drawing, readAgain (change drawing) = seedsOf drawing) :
    (sketch.map change).Draws readAgain nodes := by
  obtain ⟨hfault, hwishes⟩ := hsketch
  cases sketch with
  | complete drawing => exact ⟨hfault, by simpa [drawn, Sketch.map, hread] using hwishes⟩
  | broken seeds error => exact ⟨hfault, hwishes⟩

theorem Draws.append {left right : Sketch (List Outline)}
    (hleft : left.Draws Outline.seedsOf nodes) (hright : right.Draws Outline.seedsOf others) :
    (left.append right).Draws Outline.seedsOf (nodes ++ others) := by
  obtain ⟨hfirst, hfirstWishes⟩ := hleft
  obtain ⟨hsecond, hsecondWishes⟩ := hright
  constructor
  · rw [List.findSome?_append, ← hfirst, ← hsecond]
    cases left <;> cases right <;> rfl
  · rw [Filter.leavesBefore_append, ← hfirst]
    cases left with
    | broken seeds error => exact hfirstWishes
    | complete first =>
      rw [fault?_complete, if_pos rfl, List.map_append, ← hfirstWishes, ← hsecondWishes]
      cases right <;> simp [drawn, Sketch.append]

/-- A leaf that can be classified is drawn. -/
theorem draws_leaf (negated : Bool) (entry : Leaf) :
    (ofExcept (Seed.ofLeaf negated entry)).Draws Outline.seedsOf [.leaf entry] := by
  rcases Seed.ofLeaf_cases negated entry with ⟨hknown, seed, hseed⟩ | ⟨hunknown, herror⟩
  · rw [hseed]
    have hoffence : (Filter.leaf entry).offence? = none := by simp [Filter.offence?, hknown]
    refine ⟨by simp [ofExcept, fault?, hoffence], ?_⟩
    simp [ofExcept, drawn, Outline.seeds, Filter.leavesBefore, hoffence, Filter.leaf?,
      Seed.wish_ofLeaf hseed]
  · rw [herror]
    exact draws_of_offence (by simp [Filter.offence?, hunknown]) []

end Sketch

namespace Outline

/-- What a filter adds to a box is drawn node by node. -/
theorem draws_operands (outer : Connective) (filter : Filter) :
    (operands outer filter).Draws seedsOf filter.subfilters := by
  induction outer, filter using operands.induct with
  | case1 left inner right hleft hright =>
    rw [operands, if_pos rfl]
    exact (hleft.append hright).cons rfl rfl
  | case2 outer left inner right hother hleft hright =>
    rw [operands, if_neg hother]
    exact ((hleft.append hright).map fun children ↦ by simp [seeds]).cons rfl rfl
  | case3 outer left inner right hleft hright =>
    rw [operands]
    exact (((hleft.append hright).map fun children ↦ by simp [seeds]).cons rfl rfl).cons rfl rfl
  | case4 outer inner =>
    rw [operands]
    exact Sketch.draws_of_offence rfl _
  | case5 outer other hjoin hnegation hwrapped =>
    simp only [operands]
    cases other with
    | wrapped inner => exact absurd rfl (hwrapped inner)
    | join left inner right => exact absurd rfl (hjoin left inner right)
    | leaf entry => exact Sketch.draws_leaf false entry
    | negation operand =>
      cases operand with
      | join left inner right => exact absurd rfl (hnegation left inner right)
      | leaf entry => exact (Sketch.draws_leaf true entry).cons rfl rfl
      | wrapped inner => exact Sketch.draws_of_offence rfl _
      | negation inner => exact Sketch.draws_of_offence rfl _

/-- A filter is drawn node by node, unless it is a negation that may only stand further inside. -/
theorem draws_ofFilter {filter : Filter} (hbare : ∀ inner, filter ≠ .wrapped inner)
    (hsame : filter.outermostOffence? = filter.offence?) :
    (ofFilter filter).Draws seeds filter.subfilters := by
  have hbox : ∀ (negated : Bool) (left right : Filter) (connective : Connective),
      (((operands connective left).append (operands connective right)).map
        (box connective negated)).Draws seeds (Filter.join left connective right).subfilters := by
    intro negated left right connective
    have hsides := (draws_operands connective left).append (draws_operands connective right)
    exact (hsides.map fun children ↦ by simp [seeds]).cons rfl rfl
  have hleaf : ∀ (negated : Bool) (entry : Leaf),
      ((Sketch.ofExcept (Seed.ofLeaf negated entry)).map (box .and false)).Draws seeds
        [.leaf entry] :=
    fun negated entry ↦ (Sketch.draws_leaf negated entry).map fun children ↦ by simp [seeds]
  cases filter with
  | wrapped inner => exact absurd rfl (hbare inner)
  | join left connective right => exact hbox false left right connective
  | leaf entry => exact hleaf false entry
  | negation operand =>
    cases operand with
    | join left connective right => exact (hbox true left right connective).cons rfl rfl
    | leaf entry => exact (hleaf true entry).cons rfl rfl
    | wrapped inner | negation inner => simp [Filter.outermostOffence?, Filter.offence?] at hsame

theorem ofFilter_unwrap (filter : Filter) : ofFilter filter.unwrap = ofFilter filter := by
  induction filter with
  | wrapped inner ih => rw [Filter.unwrap, ih, ofFilter]
  | join | negation | leaf => rfl

/-- The sketch of a filter breaks at the first node that offends, and has drawn the leaves before
it. -/
theorem sketch_ofFilter (filter : Filter) :
    (ofFilter filter).fault? = filter.firstOffence? ∧
      ((ofFilter filter).drawn seeds).map Seed.wish =
        filter.drawnLeaves.map Leaf.variableName := by
  have hbare := filter.unwrap_ne_wrapped
  rw [← ofFilter_unwrap, Filter.firstOffence?, Filter.drawnLeaves]
  generalize filter.unwrap = outermost at hbare
  by_cases hsame : outermost.outermostOffence? = outermost.offence?
  · have hdraws := draws_ofFilter hbare hsame
    refine ⟨?_, hdraws.wishes⟩
    rw [hdraws.fault, outermost.subfilters_eq_cons, List.findSome?_cons, hsame]
    cases outermost.offence? <;> rfl
  · cases outermost with
    | wrapped inner => exact absurd rfl (hbare inner)
    | join | leaf => exact absurd rfl hsame
    | negation operand =>
      cases operand with
      | join | leaf => exact absurd rfl hsame
      | wrapped inner | negation inner => exact ⟨rfl, rfl⟩

end Outline

/-! ### Builds -/

namespace Element

variable {subject : Subject} {filter : Filter} {supply : Supply} {error : BuildError}

theorem exists_ofFilter_eq_ok_iff :
    (∃ element rest, ofFilter subject (some filter) supply = (.ok element, rest)) ↔
      filter.firstOffence? = none := by
  have hfault := (Outline.sketch_ofFilter filter).1
  cases houtline : Outline.ofFilter filter with
  | complete outline =>
    rw [houtline] at hfault
    exact iff_of_true ⟨_, _, by simp only [ofFilter, houtline]; rfl⟩ hfault.symm
  | broken drawn error =>
    rw [houtline, Sketch.fault?_broken] at hfault
    simp [ofFilter, houtline, ← hfault]

theorem exists_ofFilter_eq_error_iff :
    (∃ rest, ofFilter subject (some filter) supply = (.error error, rest)) ↔
      filter.firstOffence? = some error := by
  have hfault := (Outline.sketch_ofFilter filter).1
  cases houtline : Outline.ofFilter filter with
  | complete outline =>
    rw [houtline, Sketch.fault?_complete] at hfault
    simp [ofFilter, houtline, ← hfault]
  | broken drawn found =>
    rw [houtline, Sketch.fault?_broken] at hfault
    simp [ofFilter, houtline, ← hfault]

/-- A build succeeds exactly if within the wrappers around the filter there is no wrapper, no
negation of a negation or of a wrapper, and no leaf that cannot be classified. Otherwise it is
refused with the error of the first node that offends, from left to right and each before what
stands below it. -/
theorem result_ofFilter (subject : Subject) (filter : Filter) (supply : Supply) :
    ((∃ element rest, ofFilter subject (some filter) supply = (.ok element, rest)) ↔
      (∀ inner, .wrapped inner ∉ filter.unwrap.subfilters) ∧
      (∀ inner, .negation (.wrapped inner) ∉ filter.unwrap.subfilters) ∧
      (∀ operand, .negation (.negation operand) ∉ filter.unwrap.subfilters) ∧
      ∀ entry ∈ filter.leaves, entry.isClassifiable = true) ∧
    ∀ error, (∃ rest, ofFilter subject (some filter) supply = (.error error, rest)) ↔
      filter.firstOffence? = some error := by
  refine ⟨?_, fun error ↦ exists_ofFilter_eq_error_iff⟩
  rw [exists_ofFilter_eq_ok_iff, Filter.firstOffence?_eq_none_iff]
  simp only [Filter.offence?_eq_none_iff, ← filter.leaves_unwrap, ← Filter.leaf_mem_subfilters_iff]
  constructor
  · intro hnone
    exact ⟨fun inner hnode ↦ (hnone _ hnode).1 inner rfl,
      fun inner hnode ↦ (hnone _ hnode).2.1 inner rfl,
      fun operand hnode ↦ (hnone _ hnode).2.2.1 operand rfl,
      fun entry hnode ↦ (hnone _ hnode).2.2.2 entry rfl⟩
  · rintro ⟨hwrapped, hoverWrapped, hoverNegation, hleaves⟩ node hnode
    exact ⟨fun inner heq ↦ hwrapped inner (heq ▸ hnode),
      fun inner heq ↦ hoverWrapped inner (heq ▸ hnode),
      fun operand heq ↦ hoverNegation operand (heq ▸ hnode),
      fun entry heq ↦ hleaves entry (heq ▸ hnode)⟩

end Element

end Editor

end CardQuery
