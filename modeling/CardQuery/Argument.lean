/-!
What a keyword of the filter language takes: nothing, free text, values out of a list, or values
together with the places they are counted in.
-/

set_option autoImplicit false
set_option relaxedAutoImplicit false

namespace CardQuery

/-- The argument of a keyword. The lists are the values on offer, first for the values themselves
and then, where there are two sides, for their origins. -/
inductive Argument where
  | absent
  | text
  | list (domain : List String)
  | sourced (domain origins : List String)
deriving DecidableEq

namespace Argument

/-- The values on offer. -/
def domain : Argument → List String
  | list domain | sourced domain _ => domain
  | absent | text => []

/-- The origins on offer. -/
def origins : Argument → List String
  | sourced _ origins => origins
  | absent | text | list _ => []

def IsSourced : Argument → Prop
  | sourced _ _ => True
  | _ => False

instance (argument : Argument) : Decidable argument.IsSourced := by
  cases argument <;> simp only [IsSourced] <;> infer_instance

end Argument

end CardQuery
