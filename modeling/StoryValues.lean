import StoryValues.Changer
import StoryValues.Collection.Datamap
import StoryValues.Collection.Dataset
import StoryValues.Collection.Sequence
import StoryValues.Collection.Storable
import StoryValues.Colour.Gradient
import StoryValues.Colour.Hex
import StoryValues.Colour.Hsl
import StoryValues.Datatype.Basic
import StoryValues.Datatype.Member
import StoryValues.Error.Basic
import StoryValues.Error.Catalogue
import StoryValues.Error.Limit
import StoryValues.Error.Renderer
import StoryValues.Fault
import StoryValues.Lambda.Apply
import StoryValues.Lambda.Create
import StoryValues.Macro.Call
import StoryValues.Macro.Custom
import StoryValues.Macro.Dispatch
import StoryValues.Macro.Registry
import StoryValues.Macro.Signature
import StoryValues.Macro.Standard
import StoryValues.Number
import StoryValues.Number.Decimal
import StoryValues.Number.Double
import StoryValues.Pattern.Build
import StoryValues.Pattern.Destructure
import StoryValues.Pattern.Match
import StoryValues.Pattern.Notice
import StoryValues.Pattern.Step
import StoryValues.Proofs.Changer
import StoryValues.Proofs.Check
import StoryValues.Proofs.Collection.Faultless
import StoryValues.Proofs.Collection.FirstOfEquals
import StoryValues.Proofs.Collection.InPlace
import StoryValues.Proofs.Collection.Membership
import StoryValues.Proofs.Collection.Names
import StoryValues.Proofs.Collection.NamesApart
import StoryValues.Proofs.Collection.Pairs
import StoryValues.Proofs.Collection.Positions
import StoryValues.Proofs.Collection.Reachable
import StoryValues.Proofs.Collection.Reached
import StoryValues.Proofs.Colour.Hex
import StoryValues.Proofs.Colour.Hsl
import StoryValues.Proofs.Datatype.Asking
import StoryValues.Proofs.Error.Faultless
import StoryValues.Proofs.Error.Markup
import StoryValues.Proofs.Error.Renderer
import StoryValues.Proofs.Error.Rendering
import StoryValues.Proofs.Lambda.Clauses
import StoryValues.Proofs.Lambda.Confined
import StoryValues.Proofs.Lambda.Faultless
import StoryValues.Proofs.Lambda.Folding
import StoryValues.Proofs.Lambda.OneItem
import StoryValues.Proofs.Lambda.Results
import StoryValues.Proofs.Macro.Admitted
import StoryValues.Proofs.Macro.Answered
import StoryValues.Proofs.Macro.Call
import StoryValues.Proofs.Macro.Confined
import StoryValues.Proofs.Macro.Conformance
import StoryValues.Proofs.Macro.Contents
import StoryValues.Proofs.Macro.Counting
import StoryValues.Proofs.Macro.Dispatch
import StoryValues.Proofs.Macro.Entries
import StoryValues.Proofs.Macro.InTurn
import StoryValues.Proofs.Macro.Installed
import StoryValues.Proofs.Macro.Library
import StoryValues.Proofs.Macro.Mixing
import StoryValues.Proofs.Macro.Nested
import StoryValues.Proofs.Macro.Parameters
import StoryValues.Proofs.Macro.Registration
import StoryValues.Proofs.Macro.RestMinimum
import StoryValues.Proofs.Macro.Shortage
import StoryValues.Proofs.Macro.SortedNumbers
import StoryValues.Proofs.Macro.SortedTexts
import StoryValues.Proofs.Macro.Sorting
import StoryValues.Proofs.Macro.Styled
import StoryValues.Proofs.Macro.TextColour
import StoryValues.Proofs.Number.Exact
import StoryValues.Proofs.Number.Format
import StoryValues.Proofs.Number.Index
import StoryValues.Proofs.Number.Layout
import StoryValues.Proofs.Number.Rounding
import StoryValues.Proofs.Number.Shortest
import StoryValues.Proofs.Number.Within
import StoryValues.Proofs.Pattern.Bounds
import StoryValues.Proofs.Pattern.Built
import StoryValues.Proofs.Pattern.Destructured
import StoryValues.Proofs.Pattern.Discerning
import StoryValues.Proofs.Pattern.Equal
import StoryValues.Proofs.Pattern.Faultless
import StoryValues.Proofs.Pattern.Grammar
import StoryValues.Proofs.Pattern.Language
import StoryValues.Proofs.Pattern.Legible
import StoryValues.Proofs.Pattern.LetterCase
import StoryValues.Proofs.Pattern.Mismatch
import StoryValues.Proofs.Pattern.Reads
import StoryValues.Proofs.Pattern.Reassembled
import StoryValues.Proofs.Pattern.Recognition
import StoryValues.Proofs.Pattern.Slots
import StoryValues.Proofs.Pattern.Spans
import StoryValues.Proofs.Pattern.Turns
import StoryValues.Proofs.Pattern.Widening
import StoryValues.Proofs.Run
import StoryValues.Proofs.Text.Case
import StoryValues.Proofs.Text.MacroName
import StoryValues.Proofs.Text.NaturalCut
import StoryValues.Proofs.Text.NaturalOrder
import StoryValues.Proofs.Text.Occurrences
import StoryValues.Proofs.Text.Quoted
import StoryValues.Proofs.Value.Agreement
import StoryValues.Proofs.Value.Canonical
import StoryValues.Proofs.Value.Copied
import StoryValues.Proofs.Value.Copying
import StoryValues.Proofs.Value.Correspondence
import StoryValues.Proofs.Value.Decides
import StoryValues.Proofs.Value.Description
import StoryValues.Proofs.Value.Equality
import StoryValues.Proofs.Value.Errors
import StoryValues.Proofs.Value.Extending
import StoryValues.Proofs.Value.Fitting
import StoryValues.Proofs.Value.Keys
import StoryValues.Proofs.Value.Matching
import StoryValues.Proofs.Value.Pairing
import StoryValues.Proofs.Value.Pieces
import StoryValues.Proofs.Value.Printing
import StoryValues.Proofs.Value.Ranking
import StoryValues.Proofs.Value.Sameness
import StoryValues.Proofs.Value.Sides
import StoryValues.Proofs.Value.Sorted
import StoryValues.Proofs.Value.Sound
import StoryValues.Proofs.Value.SpreadItems
import StoryValues.Proofs.Value.Unambiguous
import StoryValues.Proofs.Value.Verdicts
import StoryValues.Proofs.World.Binding
import StoryValues.Proofs.World.Confined
import StoryValues.Proofs.World.Copies
import StoryValues.Proofs.World.Faultless
import StoryValues.Proofs.World.Lexical
import StoryValues.Proofs.World.Results
import StoryValues.Tag
import StoryValues.Text.Alphanumeric
import StoryValues.Text.Blank
import StoryValues.Text.Case
import StoryValues.Text.CaseMap
import StoryValues.Text.Cased
import StoryValues.Text.Digit
import StoryValues.Text.Inspected
import StoryValues.Text.MacroName
import StoryValues.Text.NaturalKey
import StoryValues.Text.Printable
import StoryValues.Text.Quoted
import StoryValues.Text.Ranges
import StoryValues.Text.Search
import StoryValues.Text.Template
import StoryValues.Value.Basic
import StoryValues.Value.Decidable
import StoryValues.Value.Description
import StoryValues.Value.Equality
import StoryValues.Value.Kind
import StoryValues.Value.Matching
import StoryValues.Value.Naming
import StoryValues.Value.Printing
import StoryValues.World.Basic
import StoryValues.World.Identity
import StoryValues.World.InPlace
import StoryValues.World.Patterns
import StoryValues.World.Variables
