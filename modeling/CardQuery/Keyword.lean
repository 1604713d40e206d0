import CardQuery.Argument
import CardQuery.Text.CaseFold

/-!
The vocabulary of filters: keywords, the subjects they apply to, and where their values are
stored.
-/

set_option autoImplicit false
set_option relaxedAutoImplicit false

namespace CardQuery

/-- What a filter selects from: the cards of a library or the sets they are kept in. -/
inductive Subject where
  | card
  | cardSet
deriving DecidableEq

def Subject.name : Subject → String
  | card => "PhysicalCard"
  | cardSet => "PhysicalCardSet"

/-- A keyword with its argument, the column that holds its values and, for an argument with
origins, the column that holds those. -/
structure Keyword where
  name : String
  description : String
  help : String
  subjects : List Subject
  argument : Argument
  column : String
  originColumn : Option String
deriving DecidableEq

namespace Keyword

def AppliesTo (keyword : Keyword) (subject : Subject) : Prop :=
  subject ∈ keyword.subjects

instance (keyword : Keyword) (subject : Subject) : Decidable (keyword.AppliesTo subject) :=
  inferInstanceAs (Decidable (_ ∈ _))

/-- The argument has origins and no column is known that holds them. -/
def LacksOriginColumn (keyword : Keyword) : Prop :=
  keyword.argument.IsSourced ∧ keyword.originColumn = none

instance (keyword : Keyword) : Decidable keyword.LacksOriginColumn :=
  inferInstanceAs (Decidable (_ ∧ _))

end Keyword

end CardQuery
