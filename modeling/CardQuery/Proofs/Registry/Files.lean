import Mathlib.Data.List.Permutation
import CardQuery.Proofs.Json.Marks
import CardQuery.Proofs.Json.Rearranged

/-!
Registries in files. Whatever the order of the members in the record of an argument, a keyword or a
registry, it is read as what it was written for (`Argument.ofJson?_of_rearranged`,
`Keyword.ofJson?_of_rearranged`, `ofJson?_of_rearranged`), and a record is what any of its texts is
read as. So a registry without fault is loaded as it is from any file that it may be written as
(`load_written`), and every registry can be written (`exists_writes`).
-/

set_option autoImplicit false
set_option relaxedAutoImplicit false

namespace CardQuery

namespace Json

variable {json : Json} {fields : List (String × Json)} {members : List (Option String × Json)}

/-! ### Texts and lists of texts -/

/-- The value is a text or a list of texts. -/
inductive IsFlat : Json → Prop
  | text (text : String) : IsFlat (ofText text)
  | texts (texts : List String) : IsFlat (ofTexts texts)

theorem IsFlat.settled (hflat : json.IsFlat) : json.Settled := by
  cases hflat with
  | text text => exact settled_ofText text
  | texts texts => exact settled_ofTexts texts

theorem IsFlat.depth_le (hflat : json.IsFlat) : json.depth ≤ 1 := by
  have hnone : ∀ texts : List String, depthOfElements (texts.map ofText) = 0 := by
    intro texts
    induction texts with
    | nil => rfl
    | cons text texts ih => rw [List.map_cons, depthOfElements, ih]; rfl
  cases hflat with
  | text text => exact Nat.zero_le 1
  | texts texts => rw [ofTexts, depth, hnone]

theorem IsFlat.isRepresentable (hflat : json.IsFlat) : json.isRepresentable = true := by
  cases hflat with
  | text text => rfl
  | texts texts =>
    rw [ofTexts, Json.isRepresentable]
    induction texts with
    | nil => rfl
    | cons text texts ih => rw [List.map_cons, areRepresentable, ih]; rfl

@[simp] theorem text?_ofText (text : String) : (ofText text).text? = some text := rfl

@[simp] theorem texts?_ofTexts (texts : List String) : (ofTexts texts).texts? = some texts := by
  have hread : (texts.map ofText).mapM text? = some texts := by
    rw [mapM_of_forall₂]
    rw [List.forall₂_map_left_iff, List.forall₂_same]
    exact fun _ _ ↦ rfl
  exact hread

theorem depthOfMembers_le {limit : Nat} (hmembers : ∀ member ∈ members, member.2.depth ≤ limit) :
    depthOfMembers members ≤ limit := by
  induction members with
  | nil => exact Nat.zero_le limit
  | cons member members ih =>
    obtain ⟨hmember, hrest⟩ := List.forall_mem_cons.mp hmembers
    exact max_le hmember (ih hrest)

theorem membersRepresentable_of_forall
    (hmembers : ∀ member ∈ members, member.1.isSome ∧ member.2.isRepresentable) :
    membersRepresentable members = true := by
  induction members with
  | nil => rfl
  | cons member members ih =>
    obtain ⟨⟨hkey, hvalue⟩, hrest⟩ := List.forall_mem_cons.mp hmembers
    rw [membersRepresentable, hkey, hvalue, ih hrest]
    rfl

/-- Flat fields are found as they are by their names. -/
theorem Arranged.fields?_of_flat (harranged : Arranged fields members)
    (hnodup : (fields.map Prod.fst).Nodup) (hflat : ∀ field ∈ fields, field.2.IsFlat) :
    (object members).fields? (fields.map Prod.fst) =
      some (fields.map fun field ↦ some field.2) := by
  obtain ⟨values, hvalues, hfields⟩ := harranged.exists_fields hnodup
  have hsettled := List.forall_mem_map.mpr fun field hfield ↦ (hflat field hfield).settled
  rw [hfields, eq_of_rearranged_of_settled hsettled hvalues, List.map_map]
  rfl

/-! ### Records that can be written -/

@[simp] theorem isWritable_ofText (text : String) : (ofText text).IsWritable :=
  isWritable_string text

@[simp] theorem isWritable_ofTexts (texts : List String) : (ofTexts texts).IsWritable :=
  isWritable_array (List.forall_mem_map.mpr fun text _ ↦ isWritable_ofText text)

theorem IsFlat.isWritable (hflat : json.IsFlat) : json.IsWritable := by
  cases hflat with
  | text text => exact isWritable_ofText text
  | texts texts => exact isWritable_ofTexts texts

theorem isWritable_record (hfields : ∀ field ∈ fields, field.2.IsWritable) :
    (record fields).IsWritable :=
  isWritable_object (List.forall_mem_map.mpr fun field hfield ↦ ⟨rfl, hfields field hfield⟩)

end Json

open Json

/-! ### Arguments -/

namespace Argument

variable {kind : String} {fields : List (String × Json)} {members : List (Option String × Json)}
  {json : Json}

/-- An argument may hold flat fields. -/
theorem withinLimits (hperm : members.Perm (asMembers fields))
    (hflat : ∀ field ∈ fields, field.2.IsFlat) :
    (object members).depth ≤ depthLimit ∧ (object members).isRepresentable = true := by
  have hmembers : ∀ member ∈ members, ∃ field ∈ fields, (some field.1, field.2) = member :=
    fun member hmember ↦ List.mem_map.mp (hperm.mem_iff.mp hmember)
  constructor
  · have hdepth : depthOfMembers members ≤ 1 := by
      refine depthOfMembers_le fun member hmember ↦ ?_
      obtain ⟨field, hfield, rfl⟩ := hmembers member hmember
      exact (hflat field hfield).depth_le
    rw [depth, depthLimit]
    omega
  · rw [isRepresentable]
    refine membersRepresentable_of_forall fun member hmember ↦ ?_
    obtain ⟨field, hfield, rfl⟩ := hmembers member hmember
    exact ⟨rfl, (hflat field hfield).isRepresentable⟩

/-- A record with a kind is read by its kind, wherever that stands, and its other fields. -/
theorem ofJson?_of_record (hrecord : (record (("kind", .ofText kind) :: fields)).Rearranged json)
    (hnodup : ("kind" :: fields.map Prod.fst).Nodup) (hflat : ∀ field ∈ fields, field.2.IsFlat) :
    ∃ rest, ofJson? json = ofFields? kind rest ∧
      rest.fields? (fields.map Prod.fst) = some (fields.map fun field ↦ some field.2) := by
  have hall : ∀ field ∈ ("kind", ofText kind) :: fields, field.2.IsFlat :=
    List.forall_mem_cons.mpr ⟨.text kind, hflat⟩
  obtain ⟨members, rfl, harranged⟩ := arranged_of_rearranged hrecord
  have hperm := harranged.perm_asMembers fun field hfield ↦ (hall field hfield).settled
  have hkind : member? members "kind" = some (some (ofText kind)) :=
    member?_of_perm hperm hnodup (List.mem_cons_self ..)
  refine ⟨_, ?_, (harranged.dropped hnodup).fields?_of_flat (List.nodup_cons.mp hnodup).2 hflat⟩
  rw [ofJson?, if_pos (withinLimits hperm hall)]
  simp only [hkind]
  rfl

theorem ofJson?_of_rearranged {argument : Argument} (hjson : argument.toJson.Rearranged json) :
    ofJson? json = some argument := by
  cases argument with
  | absent =>
    obtain ⟨rest, hread, hfields⟩ := ofJson?_of_record hjson (by simp) (by simp)
    simp only [List.map_nil] at hfields
    simp [hread, ofFields?, hfields]
  | text =>
    obtain ⟨rest, hread, hfields⟩ := ofJson?_of_record hjson (by simp) (by simp)
    simp only [List.map_nil] at hfields
    simp [hread, ofFields?, hfields]
  | list domain =>
    obtain ⟨rest, hread, hfields⟩ := ofJson?_of_record hjson (by simp) (by simp [IsFlat.texts])
    simp only [List.map_cons, List.map_nil] at hfields
    simp [hread, ofFields?, hfields, texts?_ofTexts]
  | sourced domain origins =>
    obtain ⟨rest, hread, hfields⟩ := ofJson?_of_record hjson (by simp) (by simp [IsFlat.texts])
    simp only [List.map_cons, List.map_nil] at hfields
    simp [hread, ofFields?, hfields, texts?_ofTexts]

theorem isWritable_toJson (argument : Argument) : argument.toJson.IsWritable := by
  cases argument
  all_goals
    refine isWritable_record ?_
    simp

end Argument

/-! ### Keywords -/

namespace Keyword

theorem elements?_names (subjects : List Subject) :
    (ofTexts (subjects.map Subject.name)).elements? =
      some (subjects.map fun subject ↦ ofText subject.name) := by
  rw [ofTexts, List.map_map]
  rfl

theorem mapM_names (subjects : List Subject) :
    (subjects.map fun subject ↦ ofText subject.name).mapM Subject.ofJson? = some subjects := by
  rw [mapM_of_forall₂]
  rw [List.forall₂_map_left_iff, List.forall₂_same]
  exact fun subject _ ↦ Subject.ofName?_name subject

/-- A missing column is written as null. -/
def columnJson (column : Option String) : Json :=
  (column.map ofText).getD .null

theorem settled_columnJson (column : Option String) : Settled (columnJson column) := by
  cases column with
  | none => exact settled_null
  | some name => exact settled_ofText name

theorem optionalText?_columnJson (column : Option String) :
    optionalText? (some (columnJson column)) = some column := by
  cases column <;> rfl

theorem ofJson?_of_rearranged {keyword : Keyword} {json : Json}
    (hjson : keyword.toJson.Rearranged json) : ofJson? json = some keyword := by
  obtain ⟨members, rfl, harranged⟩ := arranged_of_rearranged hjson
  obtain ⟨values, hvalues, hfields⟩ := harranged.exists_fields (by simp)
  rcases hvalues with _ | ⟨hname, _ | ⟨hdescription, _ | ⟨hhelp, _ | ⟨hsubjects, _ | ⟨hargument,
    _ | ⟨hcolumn, _ | ⟨horigin, _ | _⟩⟩⟩⟩⟩⟩⟩
  -- Only the argument may have been rearranged; every other value is the one that was written.
  obtain rfl := settled_ofText _ _ hname
  obtain rfl := settled_ofText _ _ hdescription
  obtain rfl := settled_ofText _ _ hhelp
  obtain rfl := settled_ofTexts _ _ hsubjects
  obtain rfl := settled_ofText _ _ hcolumn
  obtain rfl := settled_columnJson _ _ horigin
  have hread := Argument.ofJson?_of_rearranged hargument
  have hall : (object members).fields? fieldNames = some _ := hfields
  simp only [ofJson?, hall, hread, List.map_cons, List.map_nil, Option.bind_eq_bind,
    Option.bind_some, text?_ofText, elements?_names, mapM_names, optionalText?_columnJson]
  rfl

theorem isWritable_columnJson (column : Option String) : (columnJson column).IsWritable := by
  cases column with
  | none => exact isWritable_null
  | some name => exact isWritable_string name

theorem isWritable_toJson (keyword : Keyword) : keyword.toJson.IsWritable := by
  have hcolumn := isWritable_columnJson keyword.originColumn
  refine isWritable_record ?_
  simpa [keyword.argument.isWritable_toJson, columnJson] using hcolumn

theorem mapM_of_rearranged {keywords : List Keyword} {elements : List Json}
    (helements : List.Forall₂ Rearranged (keywords.map toJson) elements) :
    elements.mapM ofJson? = some keywords := by
  rw [List.forall₂_map_left_iff] at helements
  exact mapM_of_forall₂ (List.Forall₂.flip (helements.imp fun _ _ ↦ ofJson?_of_rearranged))

end Keyword

/-! ### Tables -/

namespace Tables

variable {tables : Tables} {json : Json}

theorem isFlat_of_mem_fields {field : String × Json}
    (hfield : field ∈ (tables.card.map fun name ↦ (Subject.card.name, ofText name)).toList ++
      (tables.cardSet.map fun name ↦ (Subject.cardSet.name, ofText name)).toList) :
    field.2.IsFlat := by
  simp only [List.mem_append, Option.mem_toList, Option.map_eq_some_iff] at hfield
  obtain ⟨name, -, rfl⟩ | ⟨name, -, rfl⟩ := hfield
  all_goals exact .text name

/-- Each subject has at most one member, so it does not matter that the last one holds. -/
theorem ofJson?_of_rearranged (hjson : tables.toJson.Rearranged json) :
    ofJson? json = some tables := by
  obtain ⟨members, rfl, harranged⟩ := arranged_of_rearranged hjson
  have hperm := harranged.perm_asMembers fun _ hfield ↦
    (isFlat_of_mem_fields hfield).settled
  match tables with
  | ⟨none, none⟩ =>
    obtain rfl := List.perm_nil.mp hperm
    rfl
  | ⟨some card, none⟩ =>
    obtain rfl := List.perm_singleton.mp hperm
    rfl
  | ⟨none, some cardSet⟩ =>
    obtain rfl := List.perm_singleton.mp hperm
    rfl
  | ⟨some card, some cardSet⟩ =>
    obtain rfl | rfl := List.perm_pair.mp hperm
    all_goals rfl

end Tables

/-! ### Registries -/

namespace Registry

variable {registry : Registry} {json : Json}

theorem ofJson?_of_rearranged (hjson : registry.toJson.Rearranged json) :
    ofJson? json = some registry := by
  obtain ⟨members, rfl, harranged⟩ := arranged_of_rearranged hjson
  obtain ⟨values, hvalues, hfields⟩ := harranged.exists_fields (by simp)
  rcases hvalues with _ | ⟨htables, _ | ⟨hkeywords, _ | _⟩⟩
  cases hkeywords with
  | array helements =>
    have hread := Tables.ofJson?_of_rearranged htables
    have hkeywords := Keyword.mapM_of_rearranged helements
    have hall : (object members).fields? ["tables", "filters"] = some _ := hfields
    simp only [ofJson?, hall, List.map_cons, List.map_nil, Option.bind_eq_bind, Option.bind_some,
      hread, elements?, hkeywords]
    rfl

/-- There are files that hold the registry. -/
theorem exists_writes (registry : Registry) :
    ∃ json content, registry.toJson.Rearranged json ∧ json.Writes content := by
  have htables : registry.tables.toJson.IsWritable :=
    isWritable_record fun _ hfield ↦ (Tables.isFlat_of_mem_fields hfield).isWritable
  have hkeywords : ∀ keyword ∈ registry.keywords, keyword.toJson.IsWritable :=
    fun keyword _ ↦ keyword.isWritable_toJson
  have hregistry : registry.toJson.IsWritable := by
    refine isWritable_record ?_
    simp only [List.forall_mem_cons]
    exact ⟨htables, isWritable_array (List.forall_mem_map.mpr hkeywords), List.forall_mem_nil _⟩
  obtain ⟨content, hcontent⟩ := hregistry.exists_writes
  exact ⟨registry.toJson, content, .refl _, hcontent⟩

/-! ### Loading -/

/-- A registry without fault is loaded from any file that it may be written as, whatever the order
of the members of its records, the blanks between its marks and the spelling of its strings. -/
theorem load_written {content : String} (hfault : registry.fault = none)
    (hjson : registry.toJson.Rearranged json) (hcontent : json.Writes content) (path : String) :
    load path (.text content) = .ok registry := by
  have hread : Json.read? content >>= ofJson? = some registry := by
    rw [read?_of_writes hcontent]
    exact ofJson?_of_rearranged hjson
  rw [load, hread]
  simp only [hfault]

def face : Keyword :=
  ⟨"Face", "", "", [.card], .list ["😀\n"], "face", none⟩

/-- The kind of the argument comes last, and so does the name of the keyword. -/
def faceJson : Json :=
  .object (asMembers [("keyword", .ofText "Face"), ("description", .ofText ""),
    ("help_text", .ofText ""), ("types", .ofTexts ["PhysicalCard"]),
    ("arg", .object (asMembers [("kind", .ofText "list"), ("domain", .ofTexts ["😀\n"])]).reverse),
    ("column", .ofText "face"), ("from_column", .null)]).reverse

def faces : Registry :=
  ⟨⟨some "cards", some "sets"⟩, [face]⟩

def facesJson : Json :=
  .object (asMembers [
    ("tables", .object (asMembers
      [("PhysicalCard", .ofText "cards"), ("PhysicalCardSet", .ofText "sets")]).reverse),
    ("filters", .array [faceJson])]).reverse

/-- Its lines are indented, a colon stands between a blank and a tab, and two texts have escapes. -/
def facesFile : String :=
  "\x7b\"filters\":[\x7b\"from_column\":null,\"column\":\"face\",
    \"arg\":\x7b\"domain\":[\"\\uD83d\\ude00\\n\"],\"kind\":\"list\"\x7d,
    \"types\":[\"PhysicalCard\"],\"help_text\":\"\",\"description\":\"\",
    \"keyword\" :\t\"\\u0046ace\"\x7d],
    \"tables\":\x7b\"PhysicalCardSet\":\"sets\",\"PhysicalCard\":\"cards\"\x7d\x7d\r\n"

theorem rearranged_face : face.toJson.Rearranged faceJson := by
  have hargument : face.argument.toJson.Rearranged _ :=
    rearranged_reverse rfl (.cons (.string _) (.cons (.array (.cons (.string _) .nil)) .nil))
  exact rearranged_reverse rfl (.cons (.string _) (.cons (.string _) (.cons (.string _)
    (.cons (.array (.cons (.string _) .nil)) (.cons hargument (.cons (.string _)
      (.cons .null .nil)))))))

theorem rearranged_faces : faces.toJson.Rearranged facesJson := by
  have htables : faces.tables.toJson.Rearranged _ :=
    rearranged_reverse rfl (.cons (.string _) (.cons (.string _) .nil))
  exact rearranged_reverse rfl
    (.cons htables (.cons (.array (.cons rearranged_face .nil)) .nil))

/-- The first letter is written by its number. -/
theorem spellsText_name : SpellsText "Face".toList "\\u0046ace".toList :=
  .cons (@SpellsCharacter.code 'F' _ (@SpellsCode.digits '0' '0' '4' '6' 0 0 4 6 (.inl rfl)
    (.inl rfl) (.inl rfl) (.inl rfl))) (spellsText_self (by decide))

/-- The face is written as a pair of surrogates, and the end of the line by its letter. -/
theorem spellsText_value : SpellsText "😀\n".toList "\\uD83d\\ude00\\n".toList :=
  .cons (@SpellsCharacter.surrogates '😀' _ _ 0x3d 0x200
    (@SpellsCode.digits 'D' '8' '3' 'd' 13 8 3 13 (.inr rfl) (.inl rfl) (.inl rfl) (.inl rfl))
    (@SpellsCode.digits 'd' 'e' '0' '0' 13 14 0 0 (.inl rfl) (.inl rfl) (.inl rfl) (.inl rfl))
    (by decide) (by decide) (by decide))
    (.cons (@SpellsCharacter.short 'n' '\n' (by decide)) .nil)

set_option maxRecDepth 2000 in
theorem writes_faces : facesJson.Writes facesFile := by
  have hindent : IsGap ['\n', ' ', ' ', ' ', ' '] := by decide
  have hmarks : ∃ text, SpellsMarks facesJson.marks text ∧ facesFile = String.ofList text :=
    ⟨_, .tight .openObject <|
      .tight (.plain "filters" (by decide)) <| .tight .colon <| .tight .openArray <|
      .tight .openObject <|
      .tight (.plain "from_column" (by decide)) <| .tight .colon <| .tight .null <| .tight .comma <|
      .tight (.plain "column" (by decide)) <| .tight .colon <|
      .tight (.plain "face" (by decide)) <| .tight .comma <|
      .cons hindent (.plain "arg" (by decide)) <| .tight .colon <| .tight .openObject <|
      .tight (.plain "domain" (by decide)) <| .tight .colon <| .tight .openArray <|
      .tight (.string spellsText_value) <| .tight .closeArray <| .tight .comma <|
      .tight (.plain "kind" (by decide)) <| .tight .colon <|
      .tight (.plain "list" (by decide)) <| .tight .closeObject <| .tight .comma <|
      .cons hindent (.plain "types" (by decide)) <| .tight .colon <| .tight .openArray <|
      .tight (.plain "PhysicalCard" (by decide)) <| .tight .closeArray <| .tight .comma <|
      .tight (.plain "help_text" (by decide)) <| .tight .colon <|
      .tight (.plain "" (by decide)) <| .tight .comma <|
      .tight (.plain "description" (by decide)) <| .tight .colon <|
      .tight (.plain "" (by decide)) <| .tight .comma <|
      .cons hindent (.plain "keyword" (by decide)) <| .cons (show IsGap [' '] by decide) .colon <|
      .cons (show IsGap ['\t'] by decide) (.string spellsText_name) <| .tight .closeObject <|
      .tight .closeArray <| .tight .comma <|
      .cons hindent (.plain "tables" (by decide)) <| .tight .colon <|
      .tight .openObject <|
      .tight (.plain "PhysicalCardSet" (by decide)) <| .tight .colon <|
      .tight (.plain "sets" (by decide)) <| .tight .comma <|
      .tight (.plain "PhysicalCard" (by decide)) <| .tight .colon <|
      .tight (.plain "cards" (by decide)) <| .tight .closeObject <| .tight .closeObject <|
      .nil (show IsGap ['\r', '\n'] by decide), rfl⟩
  obtain ⟨text, hspelled, htext⟩ := hmarks
  rwa [Writes, htext, String.toList_ofList]

theorem load_written_faces :
    faces.fault = none ∧ faces.toJson.Rearranged facesJson ∧ facesJson.Writes facesFile ∧
      load "faces.json" (.text facesFile) = .ok faces :=
  ⟨by decide, rearranged_faces, writes_faces,
    load_written (by decide) rearranged_faces writes_faces "faces.json"⟩

end Registry

end CardQuery
