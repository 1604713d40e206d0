import CardQuery.Text.Decimal
import CardQuery.Text.Literal

/-!
The words of the filter language. A token is a symbol together with the stretch of text it was
read from, measured in bytes of UTF-8.
-/

set_option autoImplicit false
set_option relaxedAutoImplicit false

namespace CardQuery

open Text

/-- The bytes from `start` up to but not including `stop`. -/
structure Span where
  start : Nat
  stop : Nat
deriving DecidableEq

/-- What a token says. A quoted literal keeps its backslashes, and the name of a variable its
dollar sign. -/
inductive Symbol where
  | and
  | or
  | not
  | within
  | origin
  | word (text : String)
  | quoted (raw : String)
  | number (value : Int)
  | variableName (name : String)
  | opening
  | closing
  | comma
  | illegal
deriving DecidableEq

structure Token where
  symbol : Symbol
  span : Span
deriving DecidableEq

def Span.text (span : Span) : String :=
  toString span.start ++ ".." ++ toString span.stop

def Span.shift (span : Span) (distance : Nat) : Span :=
  ⟨span.start + distance, span.stop + distance⟩

def Token.shift (token : Token) (distance : Nat) : Token :=
  { token with span := token.span.shift distance }

/-! ### Names of symbols, as messages give them -/

def Symbol.kind : Symbol → String
  | .and => "And"
  | .or => "Or"
  | .not => "Not"
  | .within => "In"
  | .origin => "From"
  | .word _ => "Identifier"
  | .quoted _ => "String"
  | .number _ => "Number"
  | .variableName _ => "Variable"
  | .opening => "LParen"
  | .closing => "RParen"
  | .comma => "Comma"
  | .illegal => "Illegal"

/-- The kind of a symbol, followed by what it carries. -/
def Symbol.describe (symbol : Symbol) : String :=
  match symbol with
  | .word text | .quoted text | .variableName text =>
    symbol.kind ++ "(" ++ Literal.text text ++ ")"
  | .number value => symbol.kind ++ "(" ++ String.ofList (Decimal.write value) ++ ")"
  | _ => symbol.kind

end CardQuery
