import CardQuery.Editor.Item

/-!
The outline of a filter as boxes and items. A chain of one connective becomes one box, a negation
of a connective a negated box, and a leaf an item. An outline has no identities and no variables
yet. Where a filter cannot be outlined, the sketch tells the first fault and the items that stand
before it.
-/

set_option autoImplicit false
set_option relaxedAutoImplicit false

namespace CardQuery.Editor

/-- Why a filter cannot be shown as boxes and items. -/
inductive BuildError where
  | boxOf (found : Filter.Kind)
  | negatedBoxOf (found : Filter.Kind)
  | noLeaf (found : Filter.Kind)
  | unclassified (keyword : String)
deriving DecidableEq

def BuildError.message : BuildError → String
  | boxOf found => "Unsupported filter shape: box cannot hold a " ++ found.name ++ " node"
  | negatedBoxOf found =>
    "Unsupported filter shape: negated box cannot hold a " ++ found.name ++ " node"
  | noLeaf found => "Expected a filter part or a negated filter part, found " ++ found.name
  | unclassified keyword => "Cannot classify the values of filter '" ++ keyword ++ "'"

/-- An item to be, and the variable it would like to have. -/
structure Seed where
  keyword : String
  description : String
  wish : Option String
  negated : Bool
  shape : Argument
  current : CurrentValues

inductive Outline where
  | item (seed : Seed)
  | box (connective : Connective) (negated : Bool) (children : List Outline)

namespace Outline

mutual

/-- The items of an outline from left to right. -/
def seeds : Outline → List Seed
  | item seed => [seed]
  | box _ _ children => seedsOf children

/-- The items of outlines side by side. -/
def seedsOf : List Outline → List Seed
  | [] => []
  | outline :: rest => seeds outline ++ seedsOf rest

end

end Outline

/-- What has been drawn of a filter: all of it, or the items before the first fault. -/
inductive Sketch (α : Type) where
  | complete (drawing : α)
  | broken (drawn : List Seed) (error : BuildError)

namespace Sketch

variable {α β : Type}

def map (change : α → β) : Sketch α → Sketch β
  | complete drawing => complete (change drawing)
  | broken drawn error => broken drawn error

/-- Two sketches side by side. The second is begun only if the first is complete. -/
def append (left right : Sketch (List Outline)) : Sketch (List Outline) :=
  match left, right with
  | complete first, complete second => complete (first ++ second)
  | complete first, broken drawn error => broken (Outline.seedsOf first ++ drawn) error
  | broken drawn error, _ => broken drawn error

def ofExcept : Except BuildError Seed → Sketch (List Outline)
  | .ok seed => complete [.item seed]
  | .error error => broken [] error

end Sketch

/-- The item of a leaf. The leaf must have a known argument, and values that it can hold. -/
def Seed.ofLeaf (negated : Bool) (leaf : Leaf) : Except BuildError Seed :=
  match leaf.argument with
  | none => .error (.unclassified leaf.keyword)
  | some shape =>
    match CurrentValues.carried? shape leaf.selection with
    | none => .error (.unclassified leaf.keyword)
    | some current =>
      .ok ⟨leaf.keyword, leaf.description, leaf.variableName, negated, shape, current⟩

/-- The item of a leaf or of a negated leaf. -/
def Seed.ofFilter : Filter → Except BuildError Seed
  | .leaf entry => ofLeaf false entry
  | .negation (.leaf entry) => ofLeaf true entry
  | .negation operand => .error (.noLeaf operand.kind)
  | other => .error (.noLeaf other.kind)

namespace Outline

/-- What a filter adds to a box of the connective: further children if it is a chain of the same
connective, and otherwise one box or item. -/
def operands (outer : Connective) : Filter → Sketch (List Outline)
  | .join left inner right =>
    let parts := (operands inner left).append (operands inner right)
    if inner = outer then parts else parts.map fun children ↦ [box inner false children]
  | .negation (.join left inner right) =>
    ((operands inner left).append (operands inner right)).map fun children ↦
      [box inner true children]
  | .wrapped _ => .broken [] (.boxOf .wrapper)
  | other => .ofExcept (Seed.ofFilter other)

/-- The box that shows a filter. -/
def ofFilter : Filter → Sketch Outline
  | .wrapped inner => ofFilter inner
  | .join left connective right =>
    ((operands connective left).append (operands connective right)).map (box connective false)
  | .negation (.join left connective right) =>
    ((operands connective left).append (operands connective right)).map (box connective true)
  | .negation (.leaf entry) => (Sketch.ofExcept (Seed.ofLeaf true entry)).map (box .and false)
  | .negation operand => .broken [] (.negatedBoxOf operand.kind)
  | .leaf entry => (Sketch.ofExcept (Seed.ofLeaf false entry)).map (box .and false)

end Outline

end CardQuery.Editor
