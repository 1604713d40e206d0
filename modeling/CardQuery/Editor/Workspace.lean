import CardQuery.Editor.Build
import CardQuery.Editor.Join
import CardQuery.Editor.Search

/-!
The workspace of the editor: named trees, the pools that their variables come from, and the next
identity. Every change is a command. A command that is refused leaves the trees as they are, but a
build that is refused has drawn variables all the same.
-/

set_option autoImplicit false
set_option relaxedAutoImplicit false

namespace CardQuery.Editor

inductive BoxEdit where
  | setConnective (connective : Connective) (negated : Bool)
  | setNegated (negated : Bool)
  | setDisabled (disabled : Bool)

def BoxEdit.apply (frame : Frame) : BoxEdit → Frame
  | setConnective connective negated => { frame with connective, negated }
  | setNegated negated => { frame with negated }
  | setDisabled disabled => { frame with disabled }

inductive ItemEdit where
  | setNegated (negated : Bool)
  | setDisabled (disabled : Bool)
  | enterText (text : String)
  | selectValues (values : List String)
  | selectSides (values origins : Option (List String))
  | clear

def ItemEdit.apply (item : Item) : ItemEdit → Except EditError Item
  | setNegated negated => .ok { item with negated }
  | setDisabled disabled => .ok { item with disabled }
  | enterText text => item.enterText text
  | selectValues values => item.selectValues values
  | selectSides values origins => item.selectSides values origins
  | clear => .ok item.clear

inductive Command where
  | openPool
  | register (pool : PoolId) (names : List String)
  | generate (pool : PoolId)
  | claim (pool : PoolId) (name : String)
  | newBox (tree : String) (subject : Subject)
  | build (tree : String) (subject : Subject) (pool : Option PoolId) (filter : Option Filter)
  | newItem (tree : String) (pool : PoolId) (keyword : Keyword)
  | takeItem (tree : String) (pool : PoolId) (filter : Filter)
  | editBox (tree : String) (box : ElementId) (edit : BoxEdit)
  | editItem (tree : String) (item : ElementId) (edit : ItemEdit)
  | addBox (tree : String) (box : ElementId) (connective : Connective)
  | addItem (tree : String) (box : ElementId) (keyword : Keyword)
  | attach (tree : String) (box : ElementId) (child : String) (index : Option Nat)
  | detachLast (tree : String) (box : ElementId) (keepAs : Option String)
  | detach (tree : String) (box child : ElementId) (keepAs : Option String)

inductive Refusal where
  | noPool
  | noTree
  | noBox
  | noItem
  | sameTree
  | build (error : BuildError)
  | edit (error : EditError)

/-- What a command brings to light. -/
inductive Answer where
  | done
  | pool (id : PoolId)
  | name (name : String)
  | granted (success : Bool)
  | added (element : Element)
  | detached (element : Option Element)

structure Workspace where
  pools : List NamePool
  nextId : Nat
  trees : List (String × Element)

namespace Workspace

def empty : Workspace := ⟨[], 0, []⟩

/-! ### Parts of the workspace -/

def tree? (workspace : Workspace) (name : String) : Option Element :=
  workspace.trees.lookup name

def setTree (workspace : Workspace) (name : String) (element : Element) : Workspace :=
  { workspace with trees := (name, element) :: workspace.trees.filter (·.1 ≠ name) }

def dropTree (workspace : Workspace) (name : String) : Workspace :=
  { workspace with trees := workspace.trees.filter (·.1 ≠ name) }

/-- Keeps an element under a name, if there is an element and a name for it. -/
def keep (workspace : Workspace) (element : Option Element) (name : Option String) : Workspace :=
  match element, name with
  | some element, some name => workspace.setTree name element
  | _, _ => workspace

def pool? (workspace : Workspace) (id : PoolId) : Except Refusal NamePool :=
  match workspace.pools[id.number]? with
  | none => .error .noPool
  | some pool => .ok pool

def setPool (workspace : Workspace) (id : PoolId) (pool : NamePool) : Workspace :=
  { workspace with pools := workspace.pools.set id.number pool }

/-- The workspace with one more pool, and its identity. -/
def addPool (workspace : Workspace) (pool : NamePool) : PoolId × Workspace :=
  (⟨workspace.pools.length⟩, { workspace with pools := workspace.pools ++ [pool] })

/-- What new elements on a pool draw from. -/
def supply? (workspace : Workspace) (id : PoolId) : Except Refusal Supply :=
  (workspace.pool? id).map fun pool ↦ ⟨id, pool, workspace.nextId⟩

/-- The workspace after elements have drawn from the supply. -/
def restock (workspace : Workspace) (supply : Supply) : Workspace :=
  { workspace.setPool supply.poolId supply.pool with nextId := supply.nextId }

/-- A tree and one of its boxes. -/
def box? (workspace : Workspace) (tree : String) (id : ElementId) :
    Except Refusal (Element × Frame × List Element) :=
  match workspace.tree? tree with
  | none => .error .noTree
  | some root =>
    match root.findBox? id with
    | none => .error .noBox
    | some found => .ok (root, found)

/-- A tree and one of its items. -/
def item? (workspace : Workspace) (tree : String) (id : ElementId) :
    Except Refusal (Element × Item) :=
  match workspace.tree? tree with
  | none => .error .noTree
  | some root =>
    match root.findItem? id with
    | none => .error .noItem
    | some item => .ok (root, item)

/-- The workspace with an element of a tree replaced. -/
def replace (workspace : Workspace) (tree : String) (root : Element) (id : ElementId)
    (element : Element) : Workspace :=
  workspace.setTree tree (root.update id fun _ ↦ element)

/-! ### Commands -/

/-- A command that has found what it needs goes on, and any other is refused. -/
def proceed {α : Type} (workspace : Workspace) (found : Except Refusal α)
    (next : α → Except Refusal Answer × Workspace) : Except Refusal Answer × Workspace :=
  match found with
  | .error refusal => (.error refusal, workspace)
  | .ok value => next value

/-- A new tree, if it can be built. -/
def buildTree (workspace : Workspace) (tree : String) (subject : Subject)
    (filter : Option Filter) (id : PoolId) : Except Refusal Answer × Workspace :=
  workspace.proceed (workspace.supply? id) fun supply ↦
    match Element.ofFilter subject filter supply with
    | (.ok element, supply) => (.ok .done, (workspace.restock supply).setTree tree element)
    | (.error error, supply) => (.error (.build error), workspace.restock supply)

/-- One more child of a box, made of the supply of its pool. -/
def addChild (workspace : Workspace) (tree : String) (id : ElementId)
    (make : Frame → Supply → Element × Supply) : Except Refusal Answer × Workspace :=
  workspace.proceed (workspace.box? tree id) fun (root, frame, children) ↦
    workspace.proceed (workspace.supply? frame.pool) fun supply ↦
      let (child, supply) := make frame supply
      (.ok (.added child),
        (workspace.restock supply).replace tree root id (.box frame (children ++ [child])))

/-- The tree that is to be moved into another one. -/
def movedTree? (workspace : Workspace) (tree child : String) : Except Refusal Element :=
  if child = tree then .error .sameTree
  else
    match workspace.tree? child with
    | none => .error .noTree
    | some element => .ok element

/-- Moves a whole tree into a box, at an index or behind all children. -/
def attachTree (workspace : Workspace) (tree : String) (id : ElementId) (child : String)
    (index : Option Nat) : Except Refusal Answer × Workspace :=
  workspace.proceed (workspace.box? tree id) fun (root, frame, children) ↦
    workspace.proceed (workspace.movedTree? tree child) fun element ↦
      workspace.proceed (workspace.pool? frame.pool) fun pool ↦
        let (joined, pool) := element.join frame.pool pool
        let place := min (index.getD children.length) children.length
        (.ok .done,
          ((workspace.dropTree child).setPool frame.pool pool).replace tree root id
            (.box frame (children.insertIdx place joined)))

/-- Takes a child out of a box, if `choose` finds one, and may keep it as a tree. -/
def detachChild (workspace : Workspace) (tree : String) (id : ElementId)
    (choose : List Element → Option (Element × List Element)) (keepAs : Option String) :
    Except Refusal Answer × Workspace :=
  workspace.proceed (workspace.box? tree id) fun (root, frame, children) ↦
    match choose children with
    | none => (.ok (.detached none), workspace)
    | some (child, rest) =>
      (.ok (.detached (some child)),
        (workspace.replace tree root id (.box frame rest)).keep (some child) keepAs)

/-- The last child and the ones before it. -/
def lastChild (children : List Element) : Option (Element × List Element) :=
  children.getLast?.map fun child ↦ (child, children.dropLast)

def perform (workspace : Workspace) : Command → Except Refusal Answer × Workspace
  | .openPool =>
    let (id, workspace) := workspace.addPool .empty
    (.ok (.pool id), workspace)
  | .register id names =>
    workspace.proceed (workspace.pool? id) fun pool ↦
      (.ok .done, workspace.setPool id (pool.register names))
  | .generate id =>
    workspace.proceed (workspace.pool? id) fun pool ↦
      let (name, pool) := pool.generate
      (.ok (.name name), workspace.setPool id pool)
  | .claim id name =>
    workspace.proceed (workspace.pool? id) fun pool ↦
      match pool.claim? name with
      | none => (.ok (.granted false), workspace)
      | some pool => (.ok (.granted true), workspace.setPool id pool)
  | .newBox tree subject =>
    let (id, workspace) := workspace.addPool .empty
    workspace.buildTree tree subject none id
  | .build tree subject (some id) filter => workspace.buildTree tree subject filter id
  | .build tree subject none filter =>
    let (id, workspace) := workspace.addPool (Element.reservedPool filter)
    workspace.buildTree tree subject filter id
  | .newItem tree id keyword =>
    workspace.proceed (workspace.supply? id) fun supply ↦
      let (item, supply) := Item.ofKeyword keyword supply
      (.ok .done, (workspace.restock supply).setTree tree (.item item))
  | .takeItem tree id filter =>
    workspace.proceed (workspace.supply? id) fun supply ↦
      match Item.ofFilter filter supply with
      | (.ok item, supply) => (.ok .done, (workspace.restock supply).setTree tree (.item item))
      | (.error error, supply) => (.error (.build error), workspace.restock supply)
  | .editBox tree id edit =>
    workspace.proceed (workspace.box? tree id) fun (root, frame, children) ↦
      (.ok .done, workspace.replace tree root id (.box (edit.apply frame) children))
  | .editItem tree id edit =>
    workspace.proceed (workspace.item? tree id) fun (root, item) ↦
      match edit.apply item with
      | .error error => (.error (.edit error), workspace)
      | .ok edited => (.ok .done, workspace.replace tree root id (.item edited))
  | .addBox tree id connective =>
    workspace.addChild tree id fun frame supply ↦
      Element.emptyBox connective frame.subject supply
  | .addItem tree id keyword =>
    workspace.addChild tree id fun _ supply ↦
      let (item, supply) := Item.ofKeyword keyword supply
      (.item item, supply)
  | .attach tree id child index => workspace.attachTree tree id child index
  | .detachLast tree id keepAs => workspace.detachChild tree id lastChild keepAs
  | .detach tree id child keepAs => workspace.detachChild tree id (Element.extract? child) keepAs

/-- The workspace after commands, whether they are refused or not. -/
def run (workspace : Workspace) (commands : List Command) : Workspace :=
  commands.foldl (fun workspace command ↦ (workspace.perform command).2) workspace

end Workspace

end CardQuery.Editor
