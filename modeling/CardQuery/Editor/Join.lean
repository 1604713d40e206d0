import CardQuery.Editor.Element

/-!
Joining a tree. An element that comes from another tree is given variables of the pool of the tree
it joins: each item keeps its variable unless that pool holds it already. A box that is on the pool
already is left as it is, because everything below it is on that pool too.
-/

set_option autoImplicit false
set_option relaxedAutoImplicit false

namespace CardQuery.Editor.Element

mutual

/-- The element on the pool of another tree, and what that pool is then. -/
def join (target : PoolId) : Element → NamePool → Element × NamePool
  | .item entry, pool =>
    let (entry, pool) := entry.join target pool
    (.item entry, pool)
  | .box frame children, pool =>
    if frame.pool = target then (.box frame children, pool)
    else
      let (children, pool) := joinAll target children pool
      (.box { frame with pool := target } children, pool)

def joinAll (target : PoolId) : List Element → NamePool → List Element × NamePool
  | [], pool => ([], pool)
  | child :: rest, pool =>
    let (child, pool) := join target child pool
    let (rest, pool) := joinAll target rest pool
    (child :: rest, pool)

end

end CardQuery.Editor.Element
