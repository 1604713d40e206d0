import CardQuery.Json.Double
import CardQuery.Text.Decimal

/-!
Values of JSON as they stand in a file: members in their order, keys possibly repeated, numbers as
they are written, and text that may turn out to name no character sequence.
-/

set_option autoImplicit false
set_option relaxedAutoImplicit false

namespace CardQuery

/-- The number `coefficient * 10 ^ exponent`, or its opposite. -/
structure Numeral where
  negative : Bool
  coefficient : Nat
  exponent : Int
deriving DecidableEq

/-- A string is `none` when its escapes name half of a pair of surrogates alone, which no text
holds; the same goes for the keys of an object. -/
inductive Json where
  | null
  | boolean (value : Bool)
  | number (value : Numeral)
  | string (content : Option String)
  | array (elements : List Json)
  | object (members : List (Option String × Json))

namespace Numeral

/-- The digits that fit into 64 bits, and the power of ten that they are multiplied by. Digits at
the end that do not fit count as zeros. -/
def leading (numeral : Numeral) : Nat × Int :=
  let spare := (Text.Decimal.digits numeral.coefficient).length - 20
  let digits := numeral.coefficient / Nat.pow 10 spare
  if digits < Nat.pow 2 64 then (digits, numeral.exponent + spare)
  else (digits / 10, numeral.exponent + spare + 1)

/-- The magnitude is finite in double precision, where the leading digits, the power of ten and
their product are rounded one after the other. From the exponent 309 on it is infinite anyway, so
no larger power is ever computed. -/
def isFinite (numeral : Numeral) : Bool :=
  let (digits, exponent) := numeral.leading
  digits == 0 || decide (exponent < 0) ||
    decide (exponent ≤ 308) &&
      decide (Double.round digits * Double.round (Nat.pow 10 exponent.toNat) < Double.overflow)

end Numeral

namespace Json

mutual

/-- How many containers stand inside one another, counting the value itself if it is one. -/
def depth : Json → Nat
  | array elements => 1 + depthOfElements elements
  | object members => 1 + depthOfMembers members
  | _ => 0

def depthOfElements : List Json → Nat
  | [] => 0
  | element :: rest => max element.depth (depthOfElements rest)

def depthOfMembers : List (Option String × Json) → Nat
  | [] => 0
  | (_, value) :: rest => max value.depth (depthOfMembers rest)

end

mutual

/-- Every string and key is text, and every number is finite. -/
def isRepresentable : Json → Bool
  | number value => value.isFinite
  | string content => content.isSome
  | array elements => areRepresentable elements
  | object members => membersRepresentable members
  | null | boolean _ => true

def areRepresentable : List Json → Bool
  | [] => true
  | element :: rest => element.isRepresentable && areRepresentable rest

def membersRepresentable : List (Option String × Json) → Bool
  | [] => true
  | (key, value) :: rest =>
    key.isSome && value.isRepresentable && membersRepresentable rest

end

/-! ### Looking into values -/

def text? : Json → Option String
  | string content => content
  | _ => none

def elements? : Json → Option (List Json)
  | array elements => some elements
  | _ => none

/-- The member of a key: none at all, or the only one. A repeated key gives no answer. -/
def member? (members : List (Option String × Json)) (key : String) : Option (Option Json) :=
  match members.filter (·.1 == some key) with
  | [] => some none
  | [(_, value)] => some (some value)
  | _ => none

/-- The fields of a record. An object holds them under their names, and members of other names are
passed over; an array holds them in their order, and the last ones may be missing. -/
def fields? (names : List String) : Json → Option (List (Option Json))
  | object members =>
    if members.all (·.1.isSome) then names.mapM (member? members) else none
  | array elements =>
    if elements.length ≤ names.length then
      some (elements.map some ++ List.replicate (names.length - elements.length) none)
    else none
  | _ => none

end Json

end CardQuery
