import Mathlib.Data.List.Nodup
import CardQuery.Proofs.Editor.Values
import CardQuery.Proofs.Editor.Views

/-!
Binding the values of a tree. The values go to the leaves through variables, and the bindings of
all items, disabled ones too, are thrown together on the way. Where every item has a variable of
its own this loses nothing: a variable is bound to what its item holds (`lookup_bindings`), and the
bound filter of an element is the one in which each item puts its own values into its leaf
(`boundFilter?_eq_ownFilter?`).
-/

set_option autoImplicit false
set_option relaxedAutoImplicit false

namespace CardQuery

/-! ### Entries of bindings -/

namespace Bindings

/-- The variables that something is said of. -/
def names (bindings : Bindings) : List String := bindings.entries.map Prod.fst

theorem mem_place {name : String} {value : Option Selection}
    {entries : List (String × Option Selection)} {entry : String × Option Selection}
    (hentry : entry ∈ place name value entries) : entry = (name, value) ∨ entry ∈ entries := by
  induction entries with
  | nil => exact .inl (List.mem_singleton.mp hentry)
  | cons first rest ih =>
    unfold place at hentry
    split at hentry
    · exact (List.mem_cons.mp hentry).imp_right (List.mem_cons_of_mem _)
    · split at hentry
      · exact List.mem_cons.mp hentry
      · rcases List.mem_cons.mp hentry with rfl | hrest
        · exact .inr (List.mem_cons_self ..)
        · exact (ih hrest).imp_right (List.mem_cons_of_mem _)

theorem mem_names_iff {bindings : Bindings} {name : String} :
    name ∈ bindings.names ↔ (bindings.lookup name).isSome := by
  simp [names, lookup]

theorem mem_entries_of_lookup {bindings : Bindings} {name : String} {value : Option Selection}
    (hlookup : bindings.lookup name = some value) : (name, value) ∈ bindings.entries := by
  obtain ⟨before, after, hsplit, -⟩ := List.lookup_eq_some_iff.mp hlookup
  simp [hsplit]

theorem mem_names_insert {bindings : Bindings} {name other : String} {value : Option Selection} :
    other ∈ (bindings.insert name value).names ↔ other = name ∨ other ∈ bindings.names := by
  rw [mem_names_iff, mem_names_iff, lookup_insert]
  by_cases heq : other = name <;> simp [heq]

/-- Merged bindings say nothing that neither side says, and speak of what either speaks of. -/
theorem mem_merge (earlier later : Bindings) :
    (∀ entry ∈ (earlier.merge later).entries, entry ∈ earlier.entries ∨ entry ∈ later.entries) ∧
      ∀ name, name ∈ (earlier.merge later).names ↔ name ∈ earlier.names ∨ name ∈ later.names := by
  obtain ⟨entries⟩ := later
  unfold merge
  induction entries generalizing earlier with
  | nil => simp [names]
  | cons first rest ih =>
    obtain ⟨hentries, hnames⟩ := ih (earlier.insert first.1 first.2)
    refine ⟨fun entry hentry ↦ ?_, fun name ↦ ?_⟩
    · rcases hentries entry hentry with hin | hin
      · rcases mem_place hin with rfl | hin
        · exact .inr (List.mem_cons_self ..)
        · exact .inl hin
      · exact .inr (List.mem_cons_of_mem _ hin)
    · rw [List.foldl_cons, hnames, mem_names_insert]
      simp only [names, List.map_cons, List.mem_cons]
      tauto

theorem mem_mergeAll (parts : List Bindings) :
    (∀ entry ∈ (mergeAll parts).entries, ∃ part ∈ parts, entry ∈ part.entries) ∧
      ∀ name, name ∈ (mergeAll parts).names ↔ ∃ part ∈ parts, name ∈ part.names := by
  have hfold : ∀ start : Bindings,
      (∀ entry ∈ (parts.foldl merge start).entries,
        entry ∈ start.entries ∨ ∃ part ∈ parts, entry ∈ part.entries) ∧
      ∀ name, name ∈ (parts.foldl merge start).names ↔
        name ∈ start.names ∨ ∃ part ∈ parts, name ∈ part.names := by
    induction parts with
    | nil => simp
    | cons part rest ih =>
      intro start
      obtain ⟨hentries, hnames⟩ := ih (start.merge part)
      obtain ⟨hmerged, hmergedNames⟩ := mem_merge start part
      refine ⟨fun entry hentry ↦ ?_, fun name ↦ ?_⟩
      · rcases hentries entry hentry with hin | ⟨other, hother, hin⟩
        · exact (hmerged entry hin).imp_right fun hin ↦ ⟨part, List.mem_cons_self .., hin⟩
        · exact .inr ⟨other, List.mem_cons_of_mem _ hother, hin⟩
      · rw [List.foldl_cons, hnames, hmergedNames, List.exists_mem_cons_iff, or_assoc]
  simpa [mergeAll, empty, names] using hfold empty

end Bindings

namespace Editor

/-! ### What a tree binds -/

theorem Item.entries_bindings (item : Item) :
    item.bindings.entries =
      if item.current.kind = .flag then [] else [(item.variableName, item.current.selection?)] := by
  unfold bindings
  split <;> rfl

namespace Element

/-- The bindings of a tree come from its items, and every item is heard. -/
theorem mem_bindings (element : Element) :
    (∀ entry ∈ element.bindings.entries, ∃ item ∈ element.items, entry ∈ item.bindings.entries) ∧
      ∀ name, name ∈ element.bindings.names ↔
        ∃ item ∈ element.items, name ∈ item.bindings.names := by
  induction element with
  | hitem entry => simp
  | hbox frame children ih =>
    obtain ⟨hentries, hnames⟩ := Bindings.mem_mergeAll (children.map bindings)
    rw [bindings_box]
    refine ⟨fun entry hentry ↦ ?_, fun name ↦ ?_⟩
    · obtain ⟨part, hpart, hin⟩ := hentries entry hentry
      obtain ⟨child, hchild, rfl⟩ := List.mem_map.mp hpart
      obtain ⟨item, hitem, hin⟩ := (ih child hchild).1 entry hin
      exact ⟨item, mem_items_box hchild hitem, hin⟩
    · rw [hnames, items_box]
      constructor
      · rintro ⟨part, hpart, hin⟩
        obtain ⟨child, hchild, rfl⟩ := List.mem_map.mp hpart
        obtain ⟨item, hitem, hin⟩ := ((ih child hchild).2 name).mp hin
        exact ⟨item, List.mem_flatMap_of_mem hchild hitem, hin⟩
      · rintro ⟨item, hitem, hin⟩
        obtain ⟨child, hchild, hinside⟩ := List.mem_flatMap.mp hitem
        exact ⟨_, List.mem_map_of_mem hchild, ((ih child hchild).2 name).mpr ⟨item, hinside, hin⟩⟩

/-- Where variables are unique, each is bound to what its own item holds. -/
theorem lookup_bindings {element : Element}
    (hnodup : (element.items.map Item.variableName).Nodup) {item : Item}
    (hitem : item ∈ element.items) :
    element.bindings.lookup item.variableName =
      if item.current.kind = .flag then none else some item.current.selection? := by
  obtain ⟨hentries, hnames⟩ := element.mem_bindings
  -- An entry of the variable comes from an item that has it, and there is only one.
  have hown : ∀ value, element.bindings.lookup item.variableName = some value →
      (item.variableName, value) ∈ item.bindings.entries := by
    intro value hvalue
    obtain ⟨other, hother, hin⟩ := hentries _ (Bindings.mem_entries_of_lookup hvalue)
    have hname : other.variableName = item.variableName := by
      rw [other.entries_bindings] at hin
      split at hin
      · simp at hin
      · exact (congrArg Prod.fst (List.mem_singleton.mp hin)).symm
    obtain rfl := List.inj_on_of_nodup_map hnodup hother hitem hname
    exact hin
  cases hlookup : element.bindings.lookup item.variableName with
  | some value =>
    have hin := hown value hlookup
    rw [item.entries_bindings] at hin
    split at hin
    · simp at hin
    · rename_i hkind
      rw [if_neg hkind]
      exact congrArg (some ·.2) (List.mem_singleton.mp hin)
  | none =>
    by_cases hkind : item.current.kind = .flag
    · rw [if_pos hkind]
    · have hpresent : item.variableName ∈ element.bindings.names := by
        refine (hnames _).mpr ⟨item, hitem, ?_⟩
        simp [Bindings.names, item.entries_bindings, hkind]
      rw [Bindings.mem_names_iff, hlookup] at hpresent
      simp at hpresent

end Element

/-! ### Values put into the leaves directly -/

/-- The leaf of the item with the values of the item. -/
def Item.ownLeaf (item : Item) : Leaf := { item.leaf with selection := item.current.selection? }

/-- What the item says, with its values, unless it is disabled or empty. -/
def Item.ownFilter? (item : Item) : Option Filter :=
  if item.disabled ∨ item.current.IsEmpty then none
  else some (negateIf item.negated (.leaf item.ownLeaf))

/-- The filter of what is enabled and set, in which each item has put its values itself. -/
def Element.ownFilter? : Element → Option Filter :=
  Element.fold Item.ownFilter? Frame.filter?

@[simp] theorem Element.ownFilter?_item (entry : Item) :
    (Element.item entry).ownFilter? = entry.ownFilter? := by
  simp [Element.ownFilter?]

@[simp] theorem Element.ownFilter?_box (frame : Frame) (children : List Element) :
    (Element.box frame children).ownFilter? =
      frame.filter? (children.map Element.ownFilter?) := by
  simp [Element.ownFilter?]

/-- An item whose variable is bound to its own values says what it says with them. -/
theorem Item.filter?_bind {item : Item} {bindings : Bindings}
    (hbound : bindings.lookup item.variableName =
      if item.current.kind = .flag then none else some item.current.selection?) :
    item.filter?.map (Filter.mapLeaves fun leaf ↦ leaf.bind bindings) = item.ownFilter? := by
  have hleaf : item.leaf.bind bindings = item.ownLeaf := by
    have hvalue : (item.leaf.variableName.bind bindings.lookup).join = item.current.selection? := by
      change (bindings.lookup item.variableName).join = item.current.selection?
      rw [hbound]
      split
      · rename_i hflag
        rw [CurrentValues.kind_eq_flag_iff.mp hflag]
        rfl
      · rfl
    unfold Leaf.bind
    split
    · rename_i selection hselection
      rw [ownLeaf, ← hvalue, hselection]
    · rename_i hnone
      rw [ownLeaf, ← hvalue, hnone]
      rfl
  unfold filter? ownFilter?
  split
  · rfl
  · simp only [Option.map_some, mapLeaves_negateIf, Filter.mapLeaves, hleaf]

namespace Element

/-- Binding leaf by leaf is enough where each item's own variable is bound to its values. -/
theorem filter?_bind {element : Element} {bindings : Bindings}
    (hbound : ∀ item ∈ element.items, bindings.lookup item.variableName =
      if item.current.kind = .flag then none else some item.current.selection?) :
    element.filter?.map (fun filter ↦ filter.bind bindings) = element.ownFilter? := by
  change element.filter?.map (Filter.mapLeaves fun leaf ↦ leaf.bind bindings) = _
  induction element with
  | hitem entry =>
    rw [filter?_item, ownFilter?_item]
    exact Item.filter?_bind (hbound entry (by simp))
  | hbox frame children ih =>
    rw [filter?_box, ownFilter?_box, Frame.filter?_mapLeaves, List.map_map]
    refine congrArg frame.filter? (List.map_congr_left fun child hchild ↦ ?_)
    exact ih child hchild fun item hitem ↦ hbound item (mem_items_box hchild hitem)

/-- Where every item has a variable of its own, each leaf of the bound filter has the values of its
own item. -/
theorem boundFilter?_eq_ownFilter? {element : Element}
    (hnodup : (element.items.map Item.variableName).Nodup) :
    element.boundFilter? = element.ownFilter? :=
  filter?_bind fun _ hitem ↦ lookup_bindings hnodup hitem

end Element

end Editor

end CardQuery
