import Mathlib.Data.List.Forall2
import Mathlib.Data.List.Nodup
import CardQuery.Registry.File

/-!
The order of members. `Rearranged` relates a value to those that have the same elements in the same
order and the same members in any order, at every depth. Fields are found by their names, so a
record gives its fields however it is rearranged, each of them as a rearranged value
(`Arranged.exists_fields`), and so does what is left of it without one of its fields
(`Arranged.dropped`). Texts and lists of texts have nothing in them to rearrange.
-/

set_option autoImplicit false
set_option relaxedAutoImplicit false

namespace CardQuery.Json

/-- The other value has the members of every object in an order of its own. -/
inductive Rearranged : Json → Json → Prop
  | null : Rearranged null null
  | boolean (value : Bool) : Rearranged (boolean value) (boolean value)
  | number (value : Numeral) : Rearranged (number value) (number value)
  | string (content : Option String) : Rearranged (string content) (string content)
  | array {elements others : List Json} (helements : List.Forall₂ Rearranged elements others) :
      Rearranged (array elements) (array others)
  | object {members written others : List (Option String × Json)}
      (hkeys : written.map Prod.fst = members.map Prod.fst)
      (hvalues : List.Forall₂ Rearranged (members.map Prod.snd) (written.map Prod.snd))
      (horder : others.Perm written) : Rearranged (object members) (object others)

mutual

theorem Rearranged.refl (json : Json) : json.Rearranged json := by
  match json with
  | null => exact .null
  | boolean value => exact .boolean value
  | number value => exact .number value
  | string content => exact .string content
  | array elements => exact .array (forall₂_rearranged_elements elements)
  | object members => exact .object rfl (forall₂_rearranged_values members) (.refl members)

theorem forall₂_rearranged_elements (elements : List Json) :
    List.Forall₂ Rearranged elements elements := by
  match elements with
  | [] => exact .nil
  | element :: rest => exact .cons (Rearranged.refl element) (forall₂_rearranged_elements rest)

theorem forall₂_rearranged_values (members : List (Option String × Json)) :
    List.Forall₂ Rearranged (members.map Prod.snd) (members.map Prod.snd) := by
  match members with
  | [] => exact .nil
  | (_, value) :: rest => exact .cons (Rearranged.refl value) (forall₂_rearranged_values rest)

end

variable {json : Json}

/-! ### Values with nothing to rearrange -/

/-- The value can only be rearranged to itself. -/
def Settled (json : Json) : Prop :=
  ∀ other, json.Rearranged other → other = json

theorem settled_null : Settled null := by
  intro other hother
  cases hother
  rfl

theorem settled_ofText (text : String) : Settled (ofText text) := by
  intro other hother
  cases hother
  rfl

theorem eq_of_rearranged_of_settled {elements others : List Json}
    (hsettled : ∀ element ∈ elements, Settled element)
    (helements : List.Forall₂ Rearranged elements others) : others = elements := by
  induction helements with
  | nil => rfl
  | cons helement _ ih =>
    obtain ⟨hhead, htail⟩ := List.forall_mem_cons.mp hsettled
    rw [hhead _ helement, ih htail]

theorem settled_ofTexts (texts : List String) : Settled (ofTexts texts) := by
  intro other hother
  cases hother with
  | array helements =>
    rw [eq_of_rearranged_of_settled _ helements, ofTexts]
    simp only [List.forall_mem_map]
    exact fun text _ ↦ settled_ofText text

/-! ### Rearranged records -/

/-- The fields of a record as the members of an object. -/
def asMembers (fields : List (String × Json)) : List (Option String × Json) :=
  fields.map fun field ↦ (some field.1, field.2)

/-- The members are those of the fields, with rearranged values and in any order. -/
def Arranged (fields : List (String × Json)) (members : List (Option String × Json)) : Prop :=
  ∃ written : List (String × Json), written.map Prod.fst = fields.map Prod.fst ∧
    List.Forall₂ Rearranged (fields.map Prod.snd) (written.map Prod.snd) ∧
    members.Perm (asMembers written)

section Arranged

variable {fields written : List (String × Json)} {field : String × Json}
  {members : List (Option String × Json)}

/-- Members are fields if their keys are names. -/
theorem exists_asMembers {names : List String} (hkeys : members.map Prod.fst = names.map some) :
    ∃ written : List (String × Json), written.map Prod.fst = names ∧
      asMembers written = members := by
  induction members generalizing names with
  | nil => exact ⟨[], (List.map_eq_nil_iff.mp hkeys.symm).symm, rfl⟩
  | cons member members ih =>
    cases names with
    | nil => cases hkeys
    | cons name names =>
      obtain ⟨hname, hrest⟩ := List.cons.inj hkeys
      obtain ⟨written, rfl, rfl⟩ := ih hrest
      exact ⟨(name, member.2) :: written, rfl, by rw [asMembers, List.map_cons, ← hname]; rfl⟩

theorem arranged_of_rearranged (hrecord : (record fields).Rearranged json) :
    ∃ members, json = object members ∧ Arranged fields members := by
  cases hrecord with
  | @object _ middle members hkeys hvalues horder =>
    have hnames : middle.map Prod.fst = (fields.map Prod.fst).map some := by
      rw [hkeys, List.map_map, List.map_map]
      rfl
    obtain ⟨written, hwritten, rfl⟩ := exists_asMembers hnames
    refine ⟨members, rfl, written, hwritten, ?_, horder⟩
    simpa [asMembers, Function.comp_def] using hvalues

theorem ne_of_mem_asMembers {key : String} (habsent : key ∉ fields.map Prod.fst)
    {member : Option String × Json} (hmember : member ∈ asMembers fields) :
    member.1 ≠ some key := by
  obtain ⟨field, hfield, rfl⟩ := List.mem_map.mp hmember
  intro hsame
  exact habsent (List.mem_map.mpr ⟨field, hfield, Option.some.inj hsame⟩)

theorem filter_asMembers (hnodup : (written.map Prod.fst).Nodup) (hfield : field ∈ written) :
    (asMembers written).filter (·.1 == some field.1) = [(some field.1, field.2)] := by
  obtain ⟨before, after, rfl⟩ := List.append_of_mem hfield
  rw [List.map_append, List.map_cons, List.nodup_middle, List.nodup_cons, List.mem_append,
    not_or] at hnodup
  have hnone : ∀ {fields : List (String × Json)}, field.1 ∉ fields.map Prod.fst →
      (asMembers fields).filter (·.1 == some field.1) = [] := by
    intro fields habsent
    rw [List.filter_eq_nil_iff]
    exact fun member hmember hsame ↦ ne_of_mem_asMembers habsent hmember (beq_iff_eq.mp hsame)
  have hbefore := hnone hnodup.1.1
  have hafter := hnone hnodup.1.2
  simp only [asMembers, List.map_append, List.map_cons, List.filter_append] at hbefore hafter ⊢
  rw [hbefore, List.filter_cons_of_pos (by simp), hafter]
  rfl

/-- A field is found by its name, wherever it stands. -/
theorem member?_of_perm (hperm : members.Perm (asMembers written))
    (hnodup : (written.map Prod.fst).Nodup) (hfield : field ∈ written) :
    member? members field.1 = some (some field.2) := by
  have hfiltered := hperm.filter (·.1 == some field.1)
  rw [filter_asMembers hnodup hfield, List.perm_singleton] at hfiltered
  rw [member?, hfiltered]

theorem mapM_of_forall₂ {α β : Type} {read : α → Option β} {sources : List α} {results : List β}
    (hread : List.Forall₂ (fun source result ↦ read source = some result) sources results) :
    sources.mapM read = some results := by
  induction hread with
  | nil => rfl
  | cons hhead _ ih => rw [List.mapM_cons, hhead, ih]; rfl

/-- The fields of a rearranged record are found by their names. -/
theorem Arranged.exists_fields (harranged : Arranged fields members)
    (hnodup : (fields.map Prod.fst).Nodup) :
    ∃ values, List.Forall₂ Rearranged (fields.map Prod.snd) values ∧
      (object members).fields? (fields.map Prod.fst) = some (values.map some) := by
  obtain ⟨written, hnames, hvalues, hperm⟩ := harranged
  refine ⟨written.map Prod.snd, hvalues, ?_⟩
  have hpresent : members.all (·.1.isSome) = true := by
    rw [hperm.all_eq]
    simp [asMembers]
  rw [← hnames] at hnodup ⊢
  rw [fields?, if_pos hpresent, mapM_of_forall₂]
  rw [List.forall₂_map_left_iff, List.forall₂_map_right_iff, List.forall₂_map_right_iff,
    List.forall₂_same]
  exact fun field hfield ↦ member?_of_perm hperm hnodup hfield

/-- Without one of its fields, a rearranged record is the rearranged record of the others. -/
theorem Arranged.dropped (harranged : Arranged (field :: fields) members)
    (hnodup : ((field :: fields).map Prod.fst).Nodup) :
    Arranged fields (members.filter (·.1 != some field.1)) := by
  obtain ⟨written, hnames, hvalues, hperm⟩ := harranged
  match written with
  | (name, value) :: rest =>
    obtain ⟨rfl, hrest⟩ := List.cons.inj hnames
    refine ⟨rest, hrest, (List.forall₂_cons.mp hvalues).2, ?_⟩
    have hfiltered := hperm.filter (·.1 != some field.1)
    have hkept : (asMembers rest).filter (·.1 != some field.1) = asMembers rest := by
      rw [List.filter_eq_self]
      intro member hmember
      rw [List.map_cons, List.nodup_cons, ← hrest] at hnodup
      exact bne_iff_ne.mpr (ne_of_mem_asMembers hnodup.1 hmember)
    rwa [asMembers, List.map_cons, List.filter_cons_of_neg (by simp), ← asMembers, hkept]
      at hfiltered

/-- Fields with nothing to rearrange in them are members as they are. -/
theorem Arranged.perm_asMembers (harranged : Arranged fields members)
    (hsettled : ∀ field ∈ fields, Settled field.2) : members.Perm (asMembers fields) := by
  obtain ⟨written, hnames, hvalues, hperm⟩ := harranged
  have hsame := eq_of_rearranged_of_settled (List.forall_mem_map.mpr hsettled) hvalues
  rwa [List.zip_of_prod hnames hsame, ← List.zip_of_prod rfl rfl] at hperm

/-- Written backwards, with rearranged values, a record is rearranged. -/
theorem rearranged_reverse (hkeys : written.map Prod.fst = fields.map Prod.fst)
    (hvalues : List.Forall₂ Rearranged (fields.map Prod.snd) (written.map Prod.snd)) :
    (record fields).Rearranged (object (asMembers written).reverse) := by
  refine @Rearranged.object _ (asMembers written) _ ?_ ?_ (List.reverse_perm _)
  · simpa [asMembers, Function.comp_def] using congrArg (List.map some) hkeys
  · simpa [asMembers, Function.comp_def] using hvalues

end Arranged

end CardQuery.Json
