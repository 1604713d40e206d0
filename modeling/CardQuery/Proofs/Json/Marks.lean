import CardQuery.Proofs.Json.Strings

/-!
The texts of values. A value is written as a row of marks (`Json.marks`), each of them in a spelling
of its own and with any blanks around it, and `Writes` says which texts are such rows. The machine
that reads marks goes from a place for a value to the value itself along the marks of that value,
whatever containers are open (`leads_marks`), so a text that is written for a value is read as that
value (`read?_of_writes`). Numbers are left out: nothing is said of how they are spelled. A value
with none in it is written in some way if its strings and keys are texts
(`IsWritable.exists_writes`).
-/

set_option autoImplicit false
set_option relaxedAutoImplicit false

namespace CardQuery.Json

/-! ### The marks of a value -/

mutual

/-- The marks that a value is written with. -/
def marks : Json → List Mark
  | array elements => .openArray :: (elementMarks elements ++ [.closeArray])
  | object members => .openObject :: (memberMarks members ++ [.closeObject])
  | string content => [.string content]
  | scalar => [.scalar scalar]

/-- Commas stand between the elements. -/
def elementMarks : List Json → List Mark
  | [] => []
  | [element] => element.marks
  | element :: next :: rest => element.marks ++ .comma :: elementMarks (next :: rest)

def memberMarks : List (Option String × Json) → List Mark
  | [] => []
  | [(key, value)] => .string key :: .colon :: value.marks
  | (key, value) :: next :: rest =>
    .string key :: .colon :: (value.marks ++ .comma :: memberMarks (next :: rest))

end

/-! ### Marks lead from state to state -/

/-- The machine goes through the marks from one state to the other. -/
def Leads (marks : List Mark) (start stop : State) : Prop :=
  marks.foldlM step? start = some stop

section Leads

variable {mark : Mark} {first second : List Mark} {start middle stop : State}

theorem leads_nil (state : State) : Leads [] state state := rfl

theorem Leads.cons (hstep : step? start mark = some middle) (hmarks : Leads first middle stop) :
    Leads (mark :: first) start stop := by
  rw [Leads, List.foldlM_cons, hstep]
  exact hmarks

theorem Leads.append (hfirst : Leads first start middle) (hsecond : Leads second middle stop) :
    Leads (first ++ second) start stop := by
  rw [Leads, List.foldlM_append, hfirst]
  exact hsecond

theorem leads_singleton (hstep : step? start mark = some stop) : Leads [mark] start stop :=
  .cons hstep (leads_nil stop)

end Leads

/-- Where an array may end or have its first element, the marks of elements are those of the first
one and further ones. -/
theorem leads_firstElement {elements : List Json} (hpresent : elements ≠ []) {rest : List Mark}
    {frames : List Frame} {stop : State}
    (hleads : Leads (elementMarks elements ++ rest) (.value (.array [] :: frames)) stop) :
    Leads (elementMarks elements ++ rest) (.firstElement frames) stop := by
  match elements with
  | [element] => cases element <;> exact hleads
  | element :: _ :: _ => cases element <;> exact hleads

theorem leads_firstKey {members : List (Option String × Json)} (hpresent : members ≠ [])
    {rest : List Mark} {frames : List Frame} {stop : State}
    (hleads : Leads (memberMarks members ++ rest) (.key [] frames) stop) :
    Leads (memberMarks members ++ rest) (.firstKey frames) stop := by
  match members with
  | [_] => exact hleads
  | _ :: _ :: _ => exact hleads

mutual

/-- Where a value may come, its marks lead to the value, inside the same containers. -/
theorem leads_marks (json : Json) (frames : List Frame) :
    Leads json.marks (.value frames) (.complete json frames) := by
  match json with
  | array [] => exact .cons rfl (leads_singleton rfl)
  | array (element :: rest) =>
    have hpresent := List.cons_ne_nil element rest
    exact .cons rfl (leads_firstElement hpresent (leads_elementMarks _ hpresent [] frames))
  | object [] => exact .cons rfl (leads_singleton rfl)
  | object (member :: rest) =>
    have hpresent := List.cons_ne_nil member rest
    exact .cons rfl (leads_firstKey hpresent (leads_memberMarks _ hpresent [] frames))
  | string content => exact leads_singleton rfl
  | null => exact leads_singleton rfl
  | boolean value => exact leads_singleton rfl
  | number value => exact leads_singleton rfl

/-- The marks of further elements lead to an array with all of them. -/
theorem leads_elementMarks (elements : List Json) (hpresent : elements ≠ []) (done : List Json)
    (frames : List Frame) :
    Leads (elementMarks elements ++ [.closeArray]) (.value (.array done :: frames))
      (.complete (.array (done.reverse ++ elements)) frames) := by
  match elements with
  | [element] =>
    refine (leads_marks element _).append (leads_singleton ?_)
    rw [step?, List.reverse_cons]
  | element :: next :: rest =>
    have hrest := leads_elementMarks (next :: rest) (List.cons_ne_nil _ _) (element :: done) frames
    rw [List.reverse_cons, List.append_assoc, List.singleton_append] at hrest
    rw [elementMarks, List.append_assoc]
    exact (leads_marks element _).append (.cons rfl hrest)

/-- The marks of further members lead to an object with all of them. -/
theorem leads_memberMarks (members : List (Option String × Json)) (hpresent : members ≠ [])
    (done : List (Option String × Json)) (frames : List Frame) :
    Leads (memberMarks members ++ [.closeObject]) (.key done frames)
      (.complete (.object (done.reverse ++ members)) frames) := by
  match members with
  | [(key, value)] =>
    refine .cons rfl (.cons rfl ((leads_marks value _).append (leads_singleton ?_)))
    rw [step?, List.reverse_cons]
  | (key, value) :: next :: rest =>
    have hrest :=
      leads_memberMarks (next :: rest) (List.cons_ne_nil _ _) ((key, value) :: done) frames
    rw [List.reverse_cons, List.append_assoc, List.singleton_append] at hrest
    rw [memberMarks, List.cons_append, List.cons_append, List.append_assoc]
    exact .cons rfl (.cons rfl ((leads_marks value _).append (.cons rfl hrest)))

end

/-! ### Spellings of marks -/

/-- The ways to write a mark. -/
inductive SpellsMark : Mark → List Char → Prop
  | openArray : SpellsMark .openArray ['[']
  | closeArray : SpellsMark .closeArray [']']
  | openObject : SpellsMark .openObject ['\x7b']
  | closeObject : SpellsMark .closeObject ['\x7d']
  | colon : SpellsMark .colon [':']
  | comma : SpellsMark .comma [',']
  | null : SpellsMark (.scalar .null) ['n', 'u', 'l', 'l']
  | yes : SpellsMark (.scalar (.boolean true)) ['t', 'r', 'u', 'e']
  | no : SpellsMark (.scalar (.boolean false)) ['f', 'a', 'l', 's', 'e']
  | string {text : String} {word : List Char} (htext : SpellsText text.toList word) :
      SpellsMark (.string (some text)) ('"' :: (word ++ ['"']))

/-- A row of blanks, which may be empty. -/
def IsGap (gap : List Char) : Prop :=
  ∀ character ∈ gap, character ∈ [' ', '\t', '\n', '\r']

instance (gap : List Char) : Decidable (IsGap gap) :=
  decidable_of_iff (gap.all (· ∈ [' ', '\t', '\n', '\r']) = true) (by simp [IsGap])

/-- The marks are spelled one after the other, with gaps around them. -/
inductive SpellsMarks : List Mark → List Char → Prop
  | nil {gap : List Char} (hgap : IsGap gap) : SpellsMarks [] gap
  | cons {mark : Mark} {marks : List Mark} {gap word rest : List Char} (hgap : IsGap gap)
      (hmark : SpellsMark mark word) (hmarks : SpellsMarks marks rest) :
      SpellsMarks (mark :: marks) (gap ++ word ++ rest)

/-- The text is one that the value may be written as. -/
def Writes (json : Json) (text : String) : Prop :=
  SpellsMarks json.marks text.toList

theorem SpellsMark.plain (text : String) (hplain : text.toList.all (IsPlain ·) = true) :
    SpellsMark (.string (some text)) ('"' :: (text.toList ++ ['"'])) :=
  .string (spellsText_self hplain)

/-- The gap in front of a mark may be empty. -/
theorem SpellsMarks.tight {mark : Mark} {marks : List Mark} {word rest : List Char}
    (hmark : SpellsMark mark word) (hmarks : SpellsMarks marks rest) :
    SpellsMarks (mark :: marks) (word ++ rest) :=
  .cons (List.forall_mem_nil _) hmark hmarks

/-! ### Values that can be written -/

/-- Every mark of the value has a spelling. -/
def IsWritable (json : Json) : Prop :=
  ∀ mark ∈ json.marks, ∃ word, SpellsMark mark word

theorem exists_spellsMarks {marks : List Mark}
    (hmarks : ∀ mark ∈ marks, ∃ word, SpellsMark mark word) : ∃ text, SpellsMarks marks text := by
  induction marks with
  | nil => exact ⟨[], .nil (List.forall_mem_nil _)⟩
  | cons mark marks ih =>
    obtain ⟨⟨word, hmark⟩, hrest⟩ := List.forall_mem_cons.mp hmarks
    obtain ⟨rest, htext⟩ := ih hrest
    exact ⟨word ++ rest, .tight hmark htext⟩

theorem IsWritable.exists_writes {json : Json} (hwritable : json.IsWritable) :
    ∃ text, json.Writes text := by
  obtain ⟨characters, htext⟩ := exists_spellsMarks hwritable
  exact ⟨String.ofList characters, by rwa [Writes, String.toList_ofList]⟩

theorem exists_spellsMark_string (text : String) :
    ∃ word, SpellsMark (.string (some text)) word := by
  obtain ⟨word, hword⟩ := exists_spellsText text.toList
  exact ⟨_, .string hword⟩

theorem isWritable_null : IsWritable null :=
  List.forall_mem_singleton.mpr ⟨_, .null⟩

theorem isWritable_string (text : String) : IsWritable (string (some text)) :=
  List.forall_mem_singleton.mpr (exists_spellsMark_string text)

theorem isWritable_array {elements : List Json}
    (helements : ∀ element ∈ elements, element.IsWritable) : IsWritable (array elements) := by
  have hmarks : ∀ mark ∈ elementMarks elements, ∃ word, SpellsMark mark word := by
    induction elements with
    | nil => exact List.forall_mem_nil _
    | cons element rest ih =>
      obtain ⟨helement, hrest⟩ := List.forall_mem_cons.mp helements
      cases rest with
      | nil => exact helement
      | cons next others =>
        rw [elementMarks, List.forall_mem_append, List.forall_mem_cons]
        exact ⟨helement, ⟨_, .comma⟩, ih hrest⟩
  rw [IsWritable, marks, List.forall_mem_cons, List.forall_mem_append, List.forall_mem_singleton]
  exact ⟨⟨_, .openArray⟩, hmarks, ⟨_, .closeArray⟩⟩

theorem isWritable_object {members : List (Option String × Json)}
    (hmembers : ∀ member ∈ members, member.1.isSome ∧ member.2.IsWritable) :
    IsWritable (object members) := by
  have hmarks : ∀ mark ∈ memberMarks members, ∃ word, SpellsMark mark word := by
    induction members with
    | nil => exact List.forall_mem_nil _
    | cons member rest ih =>
      obtain ⟨⟨hkey, hvalue⟩, hrest⟩ := List.forall_mem_cons.mp hmembers
      obtain ⟨_ | key, value⟩ := member
      · cases hkey
      have hstring := exists_spellsMark_string key
      cases rest with
      | nil =>
        rw [memberMarks, List.forall_mem_cons, List.forall_mem_cons]
        exact ⟨hstring, ⟨_, .colon⟩, hvalue⟩
      | cons next others =>
        rw [memberMarks, List.forall_mem_cons, List.forall_mem_cons, List.forall_mem_append,
          List.forall_mem_cons]
        exact ⟨hstring, ⟨_, .colon⟩, hvalue, ⟨_, .comma⟩, ih hrest⟩
  rw [IsWritable, marks, List.forall_mem_cons, List.forall_mem_append, List.forall_mem_singleton]
  exact ⟨⟨_, .openObject⟩, hmarks, ⟨_, .closeObject⟩⟩

/-! ### Reading what is written -/

theorem isSpace_of_isGap {gap : List Char} (hgap : IsGap gap) {character : Char}
    (hmem : character ∈ gap) : isSpace character = true := by
  have hblank := hgap character hmem
  simp only [List.mem_cons, List.not_mem_nil, or_false] at hblank
  rcases hblank with rfl | rfl | rfl | rfl
  all_goals rfl

theorem marks?_gap {gap : List Char} (hgap : IsGap gap) (rest : List Char) :
    marks? (gap ++ rest) = marks? rest := by
  induction gap with
  | nil => rfl
  | cons character gap ih =>
    obtain ⟨hspace, hrest⟩ := List.forall_mem_cons.mp hgap
    have hblank := isSpace_of_isGap hgap (List.mem_cons_self ..)
    rw [List.cons_append, marks?, if_pos hblank, ih hrest]

theorem marks?_cons {character : Char} {rest after : List Char} {mark : Mark}
    (hsolid : isSpace character = false) (hmark : mark? character rest = some (mark, after)) :
    marks? (character :: rest) = (marks? after).map (mark :: ·) := by
  rw [marks?, hsolid, if_neg Bool.false_ne_true]
  split
  · next hnone => rw [hmark] at hnone; cases hnone
  · next hsome => rw [hmark] at hsome; cases hsome; rfl

/-- A spelled mark begins with no blank, and it is the mark that is read there. -/
theorem mark?_of_spells {mark : Mark} {word : List Char} (hmark : SpellsMark mark word)
    (after : List Char) :
    ∃ character rest, word ++ after = character :: rest ∧ isSpace character = false ∧
      mark? character rest = some (mark, after) := by
  cases hmark with
  | @string text word htext =>
    obtain ⟨codes, hcodes, hmeaning⟩ := codes?_of_spells htext after
    refine ⟨'"', word ++ '"' :: after, by simp, rfl, ?_⟩
    simp [mark?, punctuation?, hcodes, hmeaning]
  | _ => exact ⟨_, _, rfl, rfl, rfl⟩

theorem marks?_of_spells {marks : List Mark} {text : List Char} (hmarks : SpellsMarks marks text) :
    marks? text = some marks := by
  induction hmarks with
  | nil hgap => simpa [marks?] using marks?_gap hgap []
  | cons hgap hmark _ ih =>
    obtain ⟨character, rest, hword, hsolid, hread⟩ := mark?_of_spells hmark _
    rw [List.append_assoc, marks?_gap hgap, hword, marks?_cons hsolid hread, ih]
    rfl

/-- What is written for a value is read as that value. -/
theorem read?_of_writes {json : Json} {text : String} (hwrites : json.Writes text) :
    read? text = some json := by
  have hmarks := marks?_of_spells hwrites
  have hleads : json.marks.foldlM step? (.value []) = some (.complete json []) :=
    leads_marks json []
  simp only [read?, hmarks, Option.bind_eq_bind, Option.bind_some, hleads]
  rfl

end CardQuery.Json
