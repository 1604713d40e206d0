import CardQuery.Editor.Element

/-!
What elements of the editor say. A tree is shown as text, as a filter over variables, as the values
bound to those variables, and as a filter with the values in it. Disabled elements say nothing, and
neither do boxes whose children say nothing.
-/

set_option autoImplicit false
set_option relaxedAutoImplicit false

namespace CardQuery.Editor

namespace Frame

/-- The filters of the children joined from the left. -/
def filter? (frame : Frame) (parts : List (Option Filter)) : Option Filter :=
  if frame.disabled then none
  else
    match parts.filterMap fun part ↦ part with
    | [] => none
    | first :: rest =>
      some (negateIf frame.negated
        (rest.foldl (fun left right ↦ .join left frame.connective right) first))

/-- The texts of the children with the connective between them. Two or more stand in parentheses,
and so does what is negated. -/
def text (frame : Frame) (parts : List String) : String :=
  if frame.disabled then ""
  else
    match parts.filter (· ≠ "") with
    | [] => ""
    | [part] => if frame.negated then "NOT (" ++ part ++ ")" else part
    | several =>
      let joined := "(" ++ (" " ++ frame.connective.text ++ " ").intercalate several ++ ")"
      if frame.negated then "NOT " ++ joined else joined

end Frame

namespace Element

/-- The filter of what is enabled and set, with variables in place of values. -/
def filter? : Element → Option Filter := fold Item.filter? Frame.filter?

def text : Element → String := fold Item.text Frame.text

/-- The values of all items, whether they are enabled or not. -/
def bindings : Element → Bindings := fold Item.bindings fun _ parts ↦ Bindings.mergeAll parts

/-- The variables of all items in increasing order, each once. -/
def variableNames (element : Element) : List String :=
  (element.items.map Item.variableName).foldr insertName []

/-- The filter of what is enabled and set, with the values of each variable. -/
def boundFilter? (element : Element) : Option Filter :=
  element.filter?.map fun filter ↦ filter.bind element.bindings

end Element

end CardQuery.Editor
