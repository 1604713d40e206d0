import CardQuery.Text.Cluster
import CardQuery.Text.Utf8

/-!
Lines with corrections in them. A backspace takes back the cluster before it that is still there.
The size of a cluster is kept in one byte, so of a cluster of 256 bytes or more a backspace takes
back less; where that would split a character, there is no such line.
-/

set_option autoImplicit false
set_option relaxedAutoImplicit false

namespace CardQuery.Console

open Text

/-- What has been typed of a line: its characters and the sizes of its clusters, both last first. -/
structure Draft where
  typed : List Char
  sizes : List Nat

namespace Draft

def empty : Draft := ⟨[], []⟩

/-- The characters, last first, without so many bytes at the end. -/
def dropBytes : List Char → Nat → Option (List Char)
  | [], _ => some []
  | last :: earlier, bytes =>
    if bytes = 0 then some (last :: earlier)
    else if last.utf8Size ≤ bytes then dropBytes earlier (bytes - last.utf8Size)
    else none

def takeBack (draft : Draft) : Option Draft :=
  match draft.sizes with
  | [] => some draft
  | size :: sizes => (dropBytes draft.typed size).map (⟨·, sizes⟩)

def add (draft : Draft) (cluster : List Char) : Draft :=
  ⟨cluster.reverse ++ draft.typed, utf8Length cluster % 256 :: draft.sizes⟩

/-- The draft after one more cluster, which may be a backspace. -/
def enter (draft : Draft) (cluster : List Char) : Option Draft :=
  if cluster = ['\x08'] then draft.takeBack else some (draft.add cluster)

/-- What a typed line comes to. -/
def finish (line : String) : Option String :=
  ((clusters line.toList).foldlM enter empty).map fun draft ↦ String.ofList draft.typed.reverse

end Draft

end CardQuery.Console
