import CardQuery.Filter

/-!
The debugging spelling of a filter, which shows every part of every node on one line.
-/

set_option autoImplicit false
set_option relaxedAutoImplicit false

namespace CardQuery

open Text

def Argument.describe : Argument → String
  | absent => "Literal"
  | text => "Entry"
  | list domain => Literal.record "List" [("domain", Literal.texts domain)]
  | sourced domain origins =>
    Literal.record "Tuple"
      [("domain", Literal.texts domain), ("from_domain", Literal.texts origins)]

def Connective.describe : Connective → String
  | and => "And"
  | or => "Or"

def Leaf.describe (leaf : Leaf) : String :=
  Literal.record "FilterPart"
    [("filter_name", Literal.text leaf.keyword),
      ("description", Literal.text leaf.description),
      ("shape", (leaf.argument.map Argument.describe).getD "None"),
      ("variable", Literal.option (leaf.variableName.map Literal.text)),
      ("values", Literal.option (leaf.selection.map Selection.describe))]

def Filter.describe : Filter → String
  | wrapped inner => "Filter(" ++ inner.describe ++ ")"
  | join left connective right =>
    Literal.record "BinOp"
      [("left", left.describe), ("op", connective.describe), ("right", right.describe)]
  | negation operand => "Not(" ++ operand.describe ++ ")"
  | leaf entry => "Part(" ++ entry.describe ++ ")"

end CardQuery
