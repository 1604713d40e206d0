import CardQuery.Keyword
import CardQuery.Token

/-!
What can be wrong with a list of tokens that should be a filter. Each error names its cause and,
unless the tokens came to an end, the place in the text it is seen at.
-/

set_option autoImplicit false
set_option relaxedAutoImplicit false

namespace CardQuery

inductive SyntaxFault where
  /-- There are no tokens at all. -/
  | emptyFilter
  | endOfTokens
  | unexpected (found : Symbol)
  | closingExpected (found : Option Symbol)
  | keywordExpected (found : Symbol)
  | literalExpected (found : Option Symbol)
  | unknownKeyword (name : String) (subject : Subject)
  | valuesMissing (keyword : String)
  | valuesGiven (keyword : String)
  | originsGiven (keyword : String)
  | originsMissing (keyword : String)
  | manyTexts (keyword : String)
deriving DecidableEq

structure SyntaxError where
  fault : SyntaxFault
  span : Option Span
deriving DecidableEq

def SyntaxFault.message : SyntaxFault → String
  | emptyFilter => "Empty filter"
  | endOfTokens => "Unexpected end of input"
  | unexpected found => "Unexpected token: " ++ found.describe
  | closingExpected none => "Expected RParen, but reached end of input"
  | closingExpected (some found) => "Expected RParen, found " ++ found.describe
  | keywordExpected found => "Expected filter keyword, found " ++ found.describe
  | literalExpected none => "Expected literal value"
  | literalExpected (some found) => "Expected literal value, found " ++ found.describe
  | unknownKeyword name subject => "Unknown filter '" ++ name ++ "' for " ++ subject.name
  | valuesMissing keyword => "Filter '" ++ keyword ++ "' requires values"
  | valuesGiven keyword => "Filter '" ++ keyword ++ "' takes no values"
  | originsGiven keyword => "Filter '" ++ keyword ++ "' does not accept FROM"
  | originsMissing keyword => "Filter '" ++ keyword ++ "' requires FROM"
  | manyTexts keyword => "Filter '" ++ keyword ++ "' takes a single value"

end CardQuery
