import CardQuery.Argument
import CardQuery.Console
import CardQuery.Console.Draft
import CardQuery.Editor.Build
import CardQuery.Editor.Element
import CardQuery.Editor.Item
import CardQuery.Editor.Join
import CardQuery.Editor.Outline
import CardQuery.Editor.Search
import CardQuery.Editor.View
import CardQuery.Editor.Workspace
import CardQuery.Filter
import CardQuery.Filter.Bindings
import CardQuery.Filter.Parser
import CardQuery.Filter.Reader
import CardQuery.Filter.Spelling
import CardQuery.Filter.SyntaxError
import CardQuery.Json
import CardQuery.Json.Double
import CardQuery.Json.Reader
import CardQuery.Keyword
import CardQuery.Main
import CardQuery.NamePool
import CardQuery.Proofs.Editor.AtPlaces
import CardQuery.Proofs.Editor.BoundLeaves
import CardQuery.Proofs.Editor.BuildNames
import CardQuery.Proofs.Editor.CanonicalForm
import CardQuery.Proofs.Editor.Contents
import CardQuery.Proofs.Editor.Disabling
import CardQuery.Proofs.Editor.Drawing
import CardQuery.Proofs.Editor.Effects
import CardQuery.Proofs.Editor.Flatness
import CardQuery.Proofs.Editor.Grafts
import CardQuery.Proofs.Editor.Handling
import CardQuery.Proofs.Editor.Identities
import CardQuery.Proofs.Editor.ItemInvariants
import CardQuery.Proofs.Editor.KnownItems
import CardQuery.Proofs.Editor.Moves
import CardQuery.Proofs.Editor.Offences
import CardQuery.Proofs.Editor.OwnValues
import CardQuery.Proofs.Editor.Place
import CardQuery.Proofs.Editor.Redrawing
import CardQuery.Proofs.Editor.Refusals
import CardQuery.Proofs.Editor.RefusedBuilds
import CardQuery.Proofs.Editor.Renaming
import CardQuery.Proofs.Editor.Rows
import CardQuery.Proofs.Editor.Sketches
import CardQuery.Proofs.Editor.Suited
import CardQuery.Proofs.Editor.UniqueNames
import CardQuery.Proofs.Editor.Values
import CardQuery.Proofs.Editor.Views
import CardQuery.Proofs.Json.Marks
import CardQuery.Proofs.Json.Rearranged
import CardQuery.Proofs.Json.Strings
import CardQuery.Proofs.Lexing.Breaks
import CardQuery.Proofs.Lexing.LetterCase
import CardQuery.Proofs.Lexing.Literals
import CardQuery.Proofs.Lexing.Numerals
import CardQuery.Proofs.Lexing.Spans
import CardQuery.Proofs.Lexing.Spelling
import CardQuery.Proofs.Meaning.Reading
import CardQuery.Proofs.Meaning.Rebuilt
import CardQuery.Proofs.Meaning.Reopened
import CardQuery.Proofs.Meaning.RoundTrip
import CardQuery.Proofs.Meaning.ShownMeaning
import CardQuery.Proofs.Meaning.Truth
import CardQuery.Proofs.Names.Collisions
import CardQuery.Proofs.Names.Grants
import CardQuery.Proofs.Names.History
import CardQuery.Proofs.Names.Renewal
import CardQuery.Proofs.Names.Rows
import CardQuery.Proofs.Parsing.Acceptance
import CardQuery.Proofs.Parsing.Depth
import CardQuery.Proofs.Parsing.Drawable
import CardQuery.Proofs.Parsing.ErrorSpans
import CardQuery.Proofs.Parsing.Grammar
import CardQuery.Proofs.Parsing.Heads
import CardQuery.Proofs.Parsing.Lookahead
import CardQuery.Proofs.Parsing.Numbers
import CardQuery.Proofs.Parsing.Parts
import CardQuery.Proofs.Parsing.ReadLeaves
import CardQuery.Proofs.Parsing.Resumption
import CardQuery.Proofs.Printing.FixedPoint
import CardQuery.Proofs.Printing.Printed
import CardQuery.Proofs.Printing.Reachable
import CardQuery.Proofs.Printing.ReadAgain
import CardQuery.Proofs.Printing.Reshown
import CardQuery.Proofs.Printing.ShownHeads
import CardQuery.Proofs.Printing.WrittenValues
import CardQuery.Proofs.Registry.Files
import CardQuery.Proofs.Registry.Lookup
import CardQuery.Proofs.Registry.Order
import CardQuery.Proofs.Sql.Compiled
import CardQuery.Proofs.Sql.EditorQueries
import CardQuery.Proofs.Sql.Meaning
import CardQuery.Proofs.Sql.Patterns
import CardQuery.Proofs.Sql.ReadQueries
import CardQuery.Proofs.Sql.Rows
import CardQuery.Registry
import CardQuery.Registry.Builtin
import CardQuery.Registry.File
import CardQuery.Selection
import CardQuery.Sql.Compile
import CardQuery.Sql.Condition
import CardQuery.Text.Alphabetic
import CardQuery.Text.CaseFold
import CardQuery.Text.CharClass
import CardQuery.Text.Cluster
import CardQuery.Text.CodePointSet
import CardQuery.Text.Conjunct
import CardQuery.Text.Decimal
import CardQuery.Text.GraphemeExtend
import CardQuery.Text.Literal
import CardQuery.Text.Numeric
import CardQuery.Text.Pictograph
import CardQuery.Text.Quoted
import CardQuery.Text.SpacingMark
import CardQuery.Text.Unprintable
import CardQuery.Text.Utf8
import CardQuery.Token
import CardQuery.Token.Lexer
