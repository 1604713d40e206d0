import CardQuery.Filter

/-!
The truth of filters in three values, as queries over columns that may hold nothing know them. The
connectives are those of SQL: `and` is the lesser and `or` the greater of two values in the order
from `no` over `unknown` to `yes`. A leaf may be given any truth by its keyword and its values, and
a filter has the truth that follows.
-/

set_option autoImplicit false
set_option relaxedAutoImplicit false

namespace CardQuery

inductive Truth where
  | no
  | unknown
  | yes
deriving DecidableEq

namespace Truth

def not : Truth → Truth
  | no => yes
  | unknown => unknown
  | yes => no

def and : Truth → Truth → Truth
  | no, _ | _, no => no
  | yes, yes => yes
  | _, _ => unknown

def or : Truth → Truth → Truth
  | yes, _ | _, yes => yes
  | no, no => no
  | _, _ => unknown

def join : Connective → Truth → Truth → Truth
  | .and => and
  | .or => or

theorem join_assoc (connective : Connective) (first second third : Truth) :
    join connective (join connective first second) third =
      join connective first (join connective second third) := by
  cases connective <;> cases first <;> cases second <;> cases third <;> rfl

end Truth

/-- The truth of a filter, where leaves have theirs from the keyword and the selection. -/
def Filter.truth (interpret : String → Option Selection → Truth) : Filter → Truth
  | wrapped inner => inner.truth interpret
  | join left connective right =>
    .join connective (left.truth interpret) (right.truth interpret)
  | negation operand => (operand.truth interpret).not
  | leaf entry => interpret entry.keyword entry.selection

end CardQuery
