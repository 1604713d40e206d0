import CardQuery.Editor.Element
import CardQuery.Editor.Outline

/-!
Building trees of the editor. New elements draw their identities and their variables from a supply,
from left to right. A build that fails has drawn the variables of the items before the fault, and
the supply it leaves behind tells so.
-/

set_option autoImplicit false
set_option relaxedAutoImplicit false

namespace CardQuery.Editor

/-- The pool of a tree and the next identity that no element has. -/
structure Supply where
  poolId : PoolId
  pool : NamePool
  nextId : Nat

namespace Supply

def identity (supply : Supply) : ElementId × Supply :=
  (⟨supply.nextId⟩, { supply with nextId := supply.nextId + 1 })

def name (supply : Supply) (wish : Option String) : String × Supply :=
  let (name, pool) := supply.pool.obtain wish
  (name, { supply with pool })

end Supply

/-- The item of a seed. -/
def Item.ofSeed (seed : Seed) (supply : Supply) : Item × Supply :=
  let (name, supply) := supply.name seed.wish
  let (id, supply) := supply.identity
  ({ id, keyword := seed.keyword, description := seed.description, variableName := name,
     negated := seed.negated, disabled := false, shape := seed.shape, current := seed.current,
     pool := supply.poolId },
    supply)

/-- The item of a keyword with nothing selected. -/
def Item.ofKeyword (keyword : Keyword) (supply : Supply) : Item × Supply :=
  Item.ofSeed ⟨keyword.name, keyword.description, none, false, keyword.argument,
    .ofArgument keyword.argument⟩ supply

/-- The item of a leaf or of a negated leaf. -/
def Item.ofFilter (filter : Filter) (supply : Supply) : Except BuildError Item × Supply :=
  match Seed.ofFilter filter with
  | .ok seed => let (item, supply) := Item.ofSeed seed supply; (.ok item, supply)
  | .error error => (.error error, supply)

namespace Element

/-- A box without children. -/
def emptyBox (connective : Connective) (subject : Subject) (supply : Supply) :
    Element × Supply :=
  let (id, supply) := supply.identity
  (.box ⟨id, connective, false, false, subject, supply.poolId⟩ [], supply)

mutual

/-- The element of an outline. -/
def ofOutline (subject : Subject) : Outline → Supply → Element × Supply
  | .item seed, supply => let (entry, supply) := Item.ofSeed seed supply; (.item entry, supply)
  | .box connective negated children, supply =>
    let (id, supply) := supply.identity
    let (children, supply) := ofOutlines subject children supply
    (.box ⟨id, connective, negated, false, subject, supply.poolId⟩ children, supply)

def ofOutlines (subject : Subject) : List Outline → Supply → List Element × Supply
  | [], supply => ([], supply)
  | outline :: rest, supply =>
    let (element, supply) := ofOutline subject outline supply
    let (others, supply) := ofOutlines subject rest supply
    (element :: others, supply)

end

/-- The tree that shows a filter; without a filter, an empty box. -/
def ofFilter (subject : Subject) (filter : Option Filter) (supply : Supply) :
    Except BuildError Element × Supply :=
  match filter with
  | none => let (element, supply) := emptyBox .and subject supply; (.ok element, supply)
  | some filter =>
    match Outline.ofFilter filter with
    | .complete outline =>
      let (element, supply) := ofOutline subject outline supply
      (.ok element, supply)
    | .broken drawn error => (.error error, (ofOutlines subject (drawn.map .item) supply).2)

/-- The pool for a tree of its own: it keeps every variable of the filter free for the leaf that
carries it first. -/
def reservedPool (filter : Option Filter) : NamePool :=
  NamePool.empty.register ((filter.map Filter.variableNames).getD [])

/-- The tree that shows a filter on a pool of its own. -/
def ofFilterAlone (subject : Subject) (filter : Option Filter) (poolId : PoolId) (nextId : Nat) :
    Except BuildError Element × Supply :=
  ofFilter subject filter ⟨poolId, reservedPool filter, nextId⟩

end Element

end CardQuery.Editor
