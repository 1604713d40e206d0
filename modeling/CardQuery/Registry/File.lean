import CardQuery.Json.Reader
import CardQuery.Registry

/-!
Registries in files. A registry is a JSON record of tables and keywords, a keyword a record of its
parts, and an argument a record that names its kind. What `toJson` writes, `ofJson?` reads, and
also records whose fields stand in another order or are given by place. A file is loaded only if
it can be read, is such a record, and the registry in it has no fault; the first of these to fail
is reported.
-/

set_option autoImplicit false
set_option relaxedAutoImplicit false

namespace CardQuery

namespace Json

def texts? (json : Json) : Option (List String) := do
  (← json.elements?).mapM text?

def ofText (text : String) : Json := string (some text)

def ofTexts (texts : List String) : Json := array (texts.map ofText)

/-- An object with its members in the order given. -/
def record (members : List (String × Json)) : Json :=
  object (members.map fun member ↦ (some member.1, member.2))

end Json

/-! ### Arguments -/

namespace Argument

/-- Containers may stand this deep inside one another in an argument. -/
def depthLimit : Nat := 124

/-- The argument of a kind, with its other fields given by name or by place. -/
def ofFields? (kind : String) (rest : Json) : Option Argument :=
  match kind with
  | "none" => (rest.fields? []).map fun _ ↦ absent
  | "entry" => (rest.fields? []).map fun _ ↦ text
  | "list" => do
    match ← rest.fields? ["domain"] with
    | [domain] => return list (← (← domain).texts?)
    | _ => none
  | "list_from" => do
    match ← rest.fields? ["domain", "from_domain"] with
    | [domain, origins] => return sourced (← (← domain).texts?) (← (← origins).texts?)
    | _ => none
  | _ => none

/-- Its kind is the member `kind` of an object, wherever it stands, or the first element of an
array. -/
def ofJson? (json : Json) : Option Argument :=
  if json.depth ≤ depthLimit ∧ json.isRepresentable then
    match json with
    | .object members => do
      let kind ← (← (← Json.member? members "kind")).text?
      ofFields? kind (.object (members.filter (·.1 != some "kind")))
    | .array (kind :: rest) => do ofFields? (← kind.text?) (.array rest)
    | _ => none
  else none

def toJson : Argument → Json
  | absent => .record [("kind", .ofText "none")]
  | text => .record [("kind", .ofText "entry")]
  | list domain => .record [("kind", .ofText "list"), ("domain", .ofTexts domain)]
  | sourced domain origins =>
    .record [("kind", .ofText "list_from"), ("domain", .ofTexts domain),
      ("from_domain", .ofTexts origins)]

end Argument

/-! ### Keywords and tables -/

namespace Subject

def ofName? (name : String) : Option Subject :=
  [card, cardSet].find? (·.name == name)

/-- A subject is given by its name, or as the only member of an object, with nothing for a value. -/
def ofJson? : Json → Option Subject
  | .string name => name.bind ofName?
  | .object [(some name, .null)] => ofName? name
  | _ => none

theorem ofName?_name (subject : Subject) : ofName? subject.name = some subject := by
  cases subject <;> decide

end Subject

namespace Keyword

/-- A column that may be missing or null. -/
def optionalText? : Option Json → Option (Option String)
  | none | some .null => some none
  | some json => json.text?.map some

def fieldNames : List String :=
  ["keyword", "description", "help_text", "types", "arg", "column", "from_column"]

def ofJson? (json : Json) : Option Keyword := do
  match ← json.fields? fieldNames with
  | [name, description, help, subjects, argument, column, originColumn] =>
    let help ← match help with
      | none => some ""
      | some json => json.text?
    return {
      name := ← (← name).text?
      description := ← (← description).text?
      help
      subjects := ← (← (← subjects).elements?).mapM Subject.ofJson?
      argument := ← Argument.ofJson? (← argument)
      column := ← (← column).text?
      originColumn := ← optionalText? originColumn }
  | _ => none

def toJson (keyword : Keyword) : Json :=
  .record [("keyword", .ofText keyword.name), ("description", .ofText keyword.description),
    ("help_text", .ofText keyword.help),
    ("types", .ofTexts (keyword.subjects.map Subject.name)), ("arg", keyword.argument.toJson),
    ("column", .ofText keyword.column),
    ("from_column", (keyword.originColumn.map Json.ofText).getD .null)]

end Keyword

namespace Tables

def usual : Tables := ⟨none, none⟩

def set (tables : Tables) (subject : Subject) (name : String) : Tables :=
  match subject with
  | .card => { tables with card := some name }
  | .cardSet => { tables with cardSet := some name }

/-- An object from subjects to names; of members for one subject the last holds. -/
def ofJson? : Json → Option Tables
  | .object members =>
    members.foldlM (fun tables member ↦ do
      return tables.set (← Subject.ofName? (← member.1)) (← member.2.text?)) usual
  | _ => none

/-- The names that are known, under their subjects. -/
def toJson (tables : Tables) : Json :=
  .record ((tables.card.map fun name ↦ (Subject.card.name, Json.ofText name)).toList ++
    (tables.cardSet.map fun name ↦ (Subject.cardSet.name, Json.ofText name)).toList)

end Tables

namespace Registry

def ofJson? (json : Json) : Option Registry := do
  match ← json.fields? ["tables", "filters"] with
  | [tables, keywords] =>
    let tables ← match tables with
      | none => some Tables.usual
      | some json => Tables.ofJson? json
    return ⟨tables, ← (← (← keywords).elements?).mapM Keyword.ofJson?⟩
  | _ => none

def toJson (registry : Registry) : Json :=
  .record [("tables", registry.tables.toJson),
    ("filters", .array (registry.keywords.map Keyword.toJson))]

/-! ### Loading -/

/-- What stands under a path. -/
inductive FileContents where
  | missing
  | unreadable
  | text (content : String)

/-- Why no registry could be loaded from a path. -/
inductive LoadError where
  | missing (path : String)
  | unreadable (path : String)
  | malformed (path : String)
  | faulty (fault : Fault)
deriving DecidableEq

def LoadError.message : LoadError → String
  | missing path => "配置文件不存在: " ++ path
  | unreadable path => "无法读取配置文件 " ++ path
  | malformed path => "无法解析JSON配置文件 " ++ path
  | faulty fault => fault.message

def load (path : String) : FileContents → Except LoadError Registry
  | .missing => .error (.missing path)
  | .unreadable => .error (.unreadable path)
  | .text content =>
    match Json.read? content >>= ofJson? with
    | none => .error (.malformed path)
    | some registry =>
      match registry.fault with
      | some fault => .error (.faulty fault)
      | none => .ok registry

end Registry

end CardQuery
