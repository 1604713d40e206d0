/-!
Lengths in UTF-8.
-/

set_option autoImplicit false
set_option relaxedAutoImplicit false

namespace CardQuery.Text

/-- The number of bytes that characters take up in UTF-8. -/
def utf8Length : List Char → Nat
  | [] => 0
  | character :: rest => character.utf8Size + utf8Length rest

theorem utf8Length_append (first second : List Char) :
    utf8Length (first ++ second) = utf8Length first + utf8Length second := by
  induction first with
  | nil => simp [utf8Length]
  | cons character rest ih => simp [utf8Length, ih, Nat.add_assoc]

end CardQuery.Text
