import TreePath.Text.CodeRanges
import TreePath.Text.LetterTable
import TreePath.Text.CharClass
import TreePath.Text.Order
import TreePath.Text.Pieces
import TreePath.Number.Integer
import TreePath.Number.Binary
import TreePath.Number.Shortest
import TreePath.Number.FloatText
import TreePath.Number.Decimal
import TreePath.Value.Basic
import TreePath.Value.Printer
import TreePath.Value.Location
import TreePath.Json.Document
import TreePath.Json.Reader
import TreePath.Regex.CategoryTable
import TreePath.Regex.ScriptTable
import TreePath.Regex.ScriptExtensionTable
import TreePath.Regex.AgeTable
import TreePath.Regex.PropertyTable
import TreePath.Regex.BreakTable
import TreePath.Regex.FoldTable
import TreePath.Regex.SetTable
import TreePath.Regex.Category
import TreePath.Regex.Property
import TreePath.Regex.CharSet
import TreePath.Regex.Syntax
import TreePath.Regex.Utf8
import TreePath.Regex.Footprint
import TreePath.Regex.Reader
import TreePath.Regex.Program
import TreePath.Regex.Search
import TreePath.Regex.Template
import TreePath.Regex.Pattern
import TreePath.Token.Basic
import TreePath.Token.Lexer
import TreePath.Path.Basic
import TreePath.Path.Same
import TreePath.Path.Text
import TreePath.Path.OperatorReader
import TreePath.Path.Fault
import TreePath.Path.Grammar
import TreePath.Match.Basic
import TreePath.Sorting.Insertion
import TreePath.Sorting.Merge
import TreePath.Sorting.Runs
import TreePath.Selection.Slice
import TreePath.Selection.Compare
import TreePath.Selection.Sort
import TreePath.Selection.Arithmetic
import TreePath.Selection.Named
import TreePath.Selection.Find
import TreePath.Edit.Update
import TreePath.Edit.Create
import TreePath.Query
import TreePath.Main
import TreePath.Proofs.Value.Lens
import TreePath.Proofs.Value.WellFormed
import TreePath.Proofs.Match.Walk
import TreePath.Proofs.Match.Place
import TreePath.Proofs.Edit.Targets
import TreePath.Proofs.Edit.Replacement
import TreePath.Proofs.Edit.Growth
import TreePath.Proofs.Match.Weaving
import TreePath.Proofs.Match.Nesting
import TreePath.Proofs.Token.Reading
import TreePath.Proofs.Token.Words
import TreePath.Proofs.Path.Words
import TreePath.Proofs.Path.Climbing
import TreePath.Proofs.Path.RoundTrip
import TreePath.Proofs.Edit.Creation
import TreePath.Proofs.Edit.Calls
import TreePath.Proofs.Path.ComputedRules
import TreePath.Proofs.Path.Advance
import TreePath.Proofs.Token.Profiles
import TreePath.Proofs.Path.Profiles
import TreePath.Proofs.Match.FullPath
import TreePath.Proofs.Edit.Agreement
import TreePath.Proofs.Path.Reported
import TreePath.Proofs.Edit.Repetition
import TreePath.Proofs.Match.Preorder
import TreePath.Proofs.Json.Grammar
import TreePath.Proofs.Json.Exchange
import TreePath.Proofs.Json.Printing
import TreePath.Proofs.Path.Derivation
import TreePath.Proofs.Path.Locality
import TreePath.Proofs.Token.Closing
import TreePath.Proofs.Path.Enclosure
import TreePath.Proofs.Path.Shape
import TreePath.Proofs.Token.Literals
import TreePath.Proofs.Number.Rounding
import TreePath.Proofs.Number.Packing
import TreePath.Proofs.Number.Quotients
import TreePath.Proofs.Number.Shortest
import TreePath.Proofs.Number.Digits
import TreePath.Proofs.Number.ReadBack
import TreePath.Proofs.Path.OperatorText
import TreePath.Proofs.Path.Restoring
import TreePath.Proofs.Path.ComputedText
import TreePath.Proofs.Path.Restored
import TreePath.Proofs.Match.Labels
import TreePath.Proofs.Path.Spellings
import TreePath.Proofs.Text.Order
import TreePath.Proofs.Number.Ordering
import TreePath.Proofs.Number.Conversion
import TreePath.Proofs.Sorting.Merge
import TreePath.Proofs.Sorting.Runs
import TreePath.Proofs.Selection.Compare
import TreePath.Proofs.Selection.Keys
import TreePath.Proofs.Selection.Sort
import TreePath.Proofs.Selection.Slices
import TreePath.Proofs.Match.Parts
import TreePath.Proofs.Regex.Template
import TreePath.Proofs.Match.Splicing
import TreePath.Proofs.Selection.Integers
import TreePath.Proofs.Text.Pieces
import TreePath.Proofs.Selection.Splitting
import TreePath.Proofs.Path.Formed
import TreePath.Proofs.Token.Spans
import TreePath.Proofs.Path.Lockstep
import TreePath.Proofs.Path.Faults
import TreePath.Proofs.Number.Large
import TreePath.Proofs.Json.Kinds
import TreePath.Proofs.Json.Apart
import TreePath.Proofs.Query.Files
