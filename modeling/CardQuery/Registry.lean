import CardQuery.Keyword

/-!
Registries of keywords. A keyword is looked up by its name in any case, and of two keywords of one
name the first is found. A registry without fault has no two such keywords, and knows the column
of the origins wherever an argument has them.
-/

set_option autoImplicit false
set_option relaxedAutoImplicit false

namespace CardQuery

open Text

/-- The tables that hold cards and card sets, where they are not the usual ones. -/
structure Tables where
  card : Option String
  cardSet : Option String
deriving DecidableEq

structure Registry where
  tables : Tables
  keywords : List Keyword
deriving DecidableEq

namespace Registry

/-- The keyword of a name. -/
def lookup (registry : Registry) (name : String) : Option Keyword :=
  registry.keywords.find? fun keyword ↦ sameWord keyword.name name

/-- The keyword of a name, if it applies to the subject. -/
def lookupFor (registry : Registry) (subject : Subject) (name : String) : Option Keyword :=
  (registry.lookup name).filter fun keyword ↦ decide (keyword.AppliesTo subject)

def keywordsFor (registry : Registry) (subject : Subject) : List Keyword :=
  registry.keywords.filter fun keyword ↦ decide (keyword.AppliesTo subject)

def tableName (registry : Registry) : Subject → String
  | .card => registry.tables.card.getD "physical_card"
  | .cardSet => registry.tables.cardSet.getD "physical_card_set"

/-! ### Faults -/

inductive Fault where
  | repeated (keyword : String)
  | originColumnMissing (keyword : String)
deriving DecidableEq

def Fault.message : Fault → String
  | repeated keyword => "重复的Filter关键字: " ++ keyword
  | originColumnMissing keyword => "Filter关键字 " ++ keyword ++ " 缺少 from_column"

/-- The first fault in a list of keywords that follows keywords of the names `seen`. -/
def firstFault (seen : List String) : List Keyword → Option Fault
  | [] => none
  | keyword :: rest =>
    if foldCase keyword.name ∈ seen then some (.repeated keyword.name)
    else if keyword.LacksOriginColumn then some (.originColumnMissing keyword.name)
    else firstFault (foldCase keyword.name :: seen) rest

def fault (registry : Registry) : Option Fault := firstFault [] registry.keywords

end Registry

end CardQuery
