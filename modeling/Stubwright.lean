import Stubwright.Code.Findings
import Stubwright.Command.Run
import Stubwright.Declaration.Reading
import Stubwright.Display.Plain
import Stubwright.Dump
import Stubwright.Main
import Stubwright.Reflection
import Stubwright.Settings.File
import Stubwright.Stub.Reflected
import Stubwright.TypeRef.Notation
import Stubwright.Yaml.Document
import Stubwright.Proofs.Text.Pieces
import Stubwright.Proofs.Text.Gaps
import Stubwright.Proofs.Text.Margin
import Stubwright.Proofs.TypeRef.Spelling
import Stubwright.Proofs.TypeRef.RoundTrip
import Stubwright.Proofs.Decimal.ReadBack
import Stubwright.Proofs.Literal.Reader
import Stubwright.Proofs.Literal.Number
import Stubwright.Proofs.Literal.RoundTrip
import Stubwright.Proofs.Literal.Rejected
import Stubwright.Proofs.Script.Reader
import Stubwright.Proofs.Stub.Isolation
import Stubwright.Proofs.Script.Name
import Stubwright.Proofs.Script.Grammar
import Stubwright.Proofs.Script.Type
import Stubwright.Proofs.Script.Signature
import Stubwright.Proofs.Script.Member
import Stubwright.Proofs.Script.Declaration
import Stubwright.Proofs.Script.Header
import Stubwright.Proofs.Script.File
import Stubwright.Proofs.Stub.Scopes
import Stubwright.Proofs.Stub.Writable
import Stubwright.Proofs.Stub.Outline
import Stubwright.Proofs.Stub.Uniform
import Stubwright.Proofs.Stub.Placeholder
import Stubwright.Proofs.Stub.Interleaving
import Stubwright.Proofs.Declaration.ReadBack
import Stubwright.Proofs.Text.Utf8
import Stubwright.Proofs.File.Pieces
import Stubwright.Proofs.Json.Syntax
import Stubwright.Proofs.Json.Reading
import Stubwright.Proofs.Json.Portable
import Stubwright.Proofs.Yaml.Cursor
import Stubwright.Proofs.Yaml.Quoted
import Stubwright.Proofs.Yaml.Plain
import Stubwright.Proofs.Yaml.NumeralForm
import Stubwright.Proofs.Yaml.NumeralValue
import Stubwright.Proofs.Yaml.Scanner
import Stubwright.Proofs.Yaml.Tokens
import Stubwright.Proofs.Yaml.Meaning
import Stubwright.Proofs.Yaml.Composing
import Stubwright.Proofs.Yaml.Ending
import Stubwright.Proofs.Yaml.Whole
import Stubwright.Proofs.Yaml.Stuck
import Stubwright.Proofs.File.Held
import Stubwright.Proofs.File.Portable
import Stubwright.Proofs.Source.Agreement
import Stubwright.Proofs.Source.Degraded
import Stubwright.Proofs.Declaration.Stored
import Stubwright.Proofs.TypeRef.Grammar
import Stubwright.Proofs.TypeRef.Relative
import Stubwright.Proofs.TypeRef.Nullability
import Stubwright.Proofs.Source.History
import Stubwright.Proofs.Folder.Writing
import Stubwright.Proofs.Text.Styling
import Stubwright.Proofs.Command.Generating
import Stubwright.Proofs.Name.Division
import Stubwright.Proofs.Stub.Renaming
import Stubwright.Proofs.Stub.Skipping
import Stubwright.Proofs.Stub.Warnings
import Stubwright.Proofs.Stub.Grouping
import Stubwright.Proofs.Stub.Relocation
import Stubwright.Proofs.Script.Token
import Stubwright.Proofs.Literal.Evaluator
import Stubwright.Proofs.Literal.Evaluation
import Stubwright.Proofs.Script.Code
import Stubwright.Proofs.Stub.Layout
import Stubwright.Proofs.Stub.Indent
import Stubwright.Proofs.Stub.Notice
import Stubwright.Proofs.Stub.Inherited
import Stubwright.Proofs.Logging.Override
import Stubwright.Proofs.Logging.Setup
import Stubwright.Proofs.Settings.File
