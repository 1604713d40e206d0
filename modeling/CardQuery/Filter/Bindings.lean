import CardQuery.Filter

/-!
Values bound to variables. A variable may be bound to a selection, or known and still unset.
Bindings are kept in increasing order of the names, and a name bound again keeps its last value
(`lookup_insert`).
-/

set_option autoImplicit false
set_option relaxedAutoImplicit false

namespace CardQuery

/-- Variables with their values, `none` for one that is unset. -/
structure Bindings where
  entries : List (String × Option Selection)
deriving DecidableEq

namespace Bindings

def empty : Bindings := ⟨[]⟩

/-- What is said of a variable, if anything is. -/
def lookup (bindings : Bindings) (name : String) : Option (Option Selection) :=
  bindings.entries.lookup name

/-- Entries with one more in its place, instead of any of the same name. -/
def place (name : String) (value : Option Selection) :
    List (String × Option Selection) → List (String × Option Selection)
  | [] => [(name, value)]
  | (first, held) :: rest =>
    if name = first then (name, value) :: rest
    else if name < first then (name, value) :: (first, held) :: rest
    else (first, held) :: place name value rest

def insert (bindings : Bindings) (name : String) (value : Option Selection) : Bindings :=
  ⟨place name value bindings.entries⟩

/-- Both bindings together; where they disagree the second holds. -/
def merge (earlier later : Bindings) : Bindings :=
  later.entries.foldl (fun bindings entry ↦ bindings.insert entry.1 entry.2) earlier

/-- The bindings of a list, of which later ones hold against earlier ones. -/
def mergeAll (parts : List Bindings) : Bindings := parts.foldl merge empty

@[simp] theorem lookup_empty (name : String) : empty.lookup name = none := rfl

theorem lookup_entry (name first : String) (held : Option Selection)
    (rest : List (String × Option Selection)) :
    ((first, held) :: rest).lookup name = if name = first then some held else rest.lookup name := by
  rw [List.lookup_cons]
  by_cases hname : name = first
  · simp [hname]
  · simp [hname, beq_eq_false_iff_ne.mpr hname]

theorem lookup_place (name other : String) (value : Option Selection)
    (entries : List (String × Option Selection)) :
    (place name value entries).lookup other =
      if other = name then some value else entries.lookup other := by
  induction entries with
  | nil => simp [place, lookup_entry]
  | cons entry rest ih =>
    obtain ⟨first, held⟩ := entry
    unfold place
    split
    · grind [lookup_entry]
    · split
      · rw [lookup_entry]
      · grind [lookup_entry]

theorem lookup_insert (bindings : Bindings) (name other : String) (value : Option Selection) :
    (bindings.insert name value).lookup other =
      if other = name then some value else bindings.lookup other :=
  lookup_place name other value bindings.entries

end Bindings

/-- The leaf with the selection that its variable is bound to, if it is bound to one. -/
def Leaf.bind (leaf : Leaf) (bindings : Bindings) : Leaf :=
  match (leaf.variableName.bind bindings.lookup).join with
  | some selection => { leaf with selection := some selection }
  | none => leaf

/-- The filter with the bound selections in its leaves. -/
def Filter.bind (filter : Filter) (bindings : Bindings) : Filter :=
  filter.mapLeaves fun leaf ↦ leaf.bind bindings

end CardQuery
