import Cuesheet.Assertion
import Cuesheet.Clause
import Cuesheet.CommandLine.Command
import Cuesheet.CommandLine.Option
import Cuesheet.CommandLine.Report
import Cuesheet.CommandLine.Run
import Cuesheet.CommandLine.Usage
import Cuesheet.Decimal.Binary64
import Cuesheet.Decimal.Shortest
import Cuesheet.Dictionary
import Cuesheet.Document.Recording
import Cuesheet.Document.Review
import Cuesheet.Document.Settings
import Cuesheet.Document.Settings.Format
import Cuesheet.Document.Settings.Yaml
import Cuesheet.FileTree
import Cuesheet.FileTree.Path
import Cuesheet.Framework
import Cuesheet.Instruction
import Cuesheet.Instruction.Literal
import Cuesheet.Instruction.Phrase
import Cuesheet.Instruction.Separator
import Cuesheet.Json
import Cuesheet.Json.Decoding
import Cuesheet.Json.Mismatch
import Cuesheet.Json.Number
import Cuesheet.Json.Quotation
import Cuesheet.Json.Reading
import Cuesheet.Locator
import Cuesheet.Recording
import Cuesheet.Rendering
import Cuesheet.Review
import Cuesheet.Script
import Cuesheet.Session
import Cuesheet.Settings
import Cuesheet.Target
import Cuesheet.Target.Blocks
import Cuesheet.Target.Catalog
import Cuesheet.Target.Cypress
import Cuesheet.Target.Matching
import Cuesheet.Target.Plain
import Cuesheet.Target.Playwright
import Cuesheet.Target.Selenium
import Cuesheet.Template
import Cuesheet.Text
import Cuesheet.Text.Blank
import Cuesheet.Text.Digit
import Cuesheet.Text.Digit.Table
import Cuesheet.Text.Line
import Cuesheet.Text.Lowercase
import Cuesheet.Text.Lowercase.Table
import Cuesheet.Text.Quoted
import Cuesheet.Text.Quoted.Table
import Cuesheet.Text.Word
import Cuesheet.Text.Word.Table
import Cuesheet.Yaml.Cell
import Cuesheet.Yaml.Lexer
import Cuesheet.Yaml.Node
import Cuesheet.Yaml.Scalar
import Cuesheet.Yaml.Token
import Cuesheet.Main
import Cuesheet.Proofs.Json.Number
import Cuesheet.Proofs.Json.Quotation
import Cuesheet.Proofs.Json.Reading
import Cuesheet.Proofs.Json.Layout
import Cuesheet.Proofs.Dictionary
import Cuesheet.Proofs.Json.Record
import Cuesheet.Proofs.Settings
import Cuesheet.Proofs.Document.Recording
import Cuesheet.Proofs.Document.Review
import Cuesheet.Proofs.Document.Settings
import Cuesheet.Proofs.Document.RoundTrip
import Cuesheet.Proofs.Instruction.Literal
import Cuesheet.Proofs.Instruction.Separator
import Cuesheet.Proofs.Text.Blank
import Cuesheet.Proofs.Text.Digit
import Cuesheet.Proofs.Text.Lowercase
import Cuesheet.Proofs.Instruction.Split
import Cuesheet.Proofs.Instruction.Join
import Cuesheet.Proofs.Instruction.Reading
import Cuesheet.Proofs.Rendering.Conjunction
import Cuesheet.Proofs.Instruction.Ceiling
import Cuesheet.Proofs.Instruction.NormalForm
import Cuesheet.Proofs.Instruction.Names
import Cuesheet.Proofs.Instruction.Comparison
import Cuesheet.Proofs.Instruction.Compound
import Cuesheet.Proofs.Instruction.Quote
import Cuesheet.Proofs.Instruction.Around
import Cuesheet.Proofs.Instruction.Twin
import Cuesheet.Proofs.Instruction.Cut
import Cuesheet.Proofs.Instruction.Opacity
import Cuesheet.Proofs.Rendering.Disjunction
import Cuesheet.Proofs.Rendering.Renderable
import Cuesheet.Proofs.Rendering.Trailing
import Cuesheet.Proofs.Script.Nesting
import Cuesheet.Proofs.Instruction.Stretch
import Cuesheet.Proofs.Script.Plain
import Cuesheet.Proofs.Script.Assembly
import Cuesheet.Proofs.Review
import Cuesheet.Proofs.FileTree
import Cuesheet.Proofs.CommandLine.Command
import Cuesheet.Proofs.CommandLine.Run
import Cuesheet.Proofs.Script.LineEnd
import Cuesheet.Proofs.Script.Echo
import Cuesheet.Proofs.Rendering.Guard
import Cuesheet.Proofs.Rendering.Remark
import Cuesheet.Proofs.Script.CodeUnit
import Cuesheet.Proofs.Script.StringLiteral
import Cuesheet.Proofs.Script.Pattern
import Cuesheet.Proofs.Script.Lookup
import Cuesheet.Proofs.Target.Affix
import Cuesheet.Proofs.Settings.Slot
import Cuesheet.Proofs.Template.Piece
import Cuesheet.Proofs.Instruction.Message
import Cuesheet.Proofs.Instruction.Amount
import Cuesheet.Proofs.Instruction.Operand
import Cuesheet.Proofs.Document.Restatement
import Cuesheet.Proofs.Assertion
import Cuesheet.Proofs.Instruction.Extent
import Cuesheet.Proofs.Script.Emptiness
import Cuesheet.Proofs.Session
