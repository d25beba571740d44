import Stencil.Text.Basic
import Stencil.Text.Ranges
import Stencil.Text.Blank
import Stencil.Text.Letter
import Stencil.Text.Numeral
import Stencil.Text.Word
import Stencil.Text.Identifier
import Stencil.Text.Printable
import Stencil.Text.Casing
import Stencil.Text.Line
import Stencil.Text.Quoted
import Stencil.Text.Utf8
import Stencil.Sha256
import Stencil.Number.Binary64
import Stencil.Number.Decimal
import Stencil.Number.Digits
import Stencil.Number.Spelling
import Stencil.Pattern.Basic
import Stencil.Pattern.Folding
import Stencil.Pattern.Matching
import Stencil.Pattern.Reader
import Stencil.Json.Printer
import Stencil.Json.Reader
import Stencil.Value.Basic
import Stencil.Dialect.Basic
import Stencil.Fault
import Stencil.Token
import Stencil.Mask
import Stencil.Depth
import Stencil.Segment
import Stencil.Block
import Stencil.FormatSpec
import Stencil.Plan
import Stencil.FreeNames
import Stencil.Source
import Stencil.Template
import Stencil.Dialect.Record
import Stencil.Dialect.Builtin
import Stencil.Routine.Basic
import Stencil.Routine.Rust
import Stencil.Routine.Python
import Stencil.Path
import Stencil.FileTable
import Stencil.Output
import Stencil.Config
import Stencil.Log
import Stencil.Cache
import Stencil.Generation
import Stencil.Value.Layout
import Stencil.Value.Format
import Stencil.Value.Order
import Stencil.Value.Pretty
import Stencil.Sink
import Stencil.Script.Literal
import Stencil.Script.Token
import Stencil.Script.Syntax
import Stencil.Script.Host
import Stencil.Script.Code
import Stencil.Script.Run
import Stencil.Value.Host
import Stencil.Render
import Stencil.Command.Arguments
import Stencil.Command.Request
import Stencil.Command.Run
import Stencil.Determinism
import Stencil.Main
import Stencil.Proofs.Outcome
import Stencil.Proofs.Text.Casing
import Stencil.Proofs.Text.Cut
import Stencil.Proofs.Text.Layout
import Stencil.Proofs.Token.Comment
import Stencil.Proofs.Token.Literal
import Stencil.Proofs.Token.String
import Stencil.Proofs.Token.Swap
import Stencil.Proofs.Token.Seam
import Stencil.Proofs.Token.Marks
import Stencil.Proofs.Token.Extent
import Stencil.Proofs.Token.LineCut
import Stencil.Proofs.Dialect.Record
import Stencil.Proofs.Dialect.Python
import Stencil.Proofs.Dialect.Builtin
import Stencil.Proofs.Segment.Body
import Stencil.Proofs.Segment.Tiling
import Stencil.Proofs.Segment.Spelling
import Stencil.Proofs.Segment.Relexing
import Stencil.Proofs.Template
import Stencil.Proofs.Routine.FirstLine
import Stencil.Proofs.Source
import Stencil.Proofs.Cache
import Stencil.Proofs.Token.Lexed
import Stencil.Proofs.Block.Blanked
import Stencil.Proofs.Block.PlainStep
import Stencil.Proofs.Block.Parts
import Stencil.Proofs.Faults
import Stencil.Proofs.Pattern.Groups
import Stencil.Proofs.FreeNames
import Stencil.Proofs.Command.Check
import Stencil.Proofs.Routine.Strings
import Stencil.Proofs.Block.Read
import Stencil.Proofs.Plan
import Stencil.Proofs.Location
import Stencil.Proofs.FormatSpec
import Stencil.Proofs.Segment.Scan
import Stencil.Proofs.Diagnostic
import Stencil.Proofs.Token.Content
import Stencil.Proofs.Block.Revised
import Stencil.Proofs.Segment.Revised
import Stencil.Proofs.Routine.Piece
import Stencil.Proofs.Routine.Inline
import Stencil.Proofs.Digest
import Stencil.Proofs.Number
import Stencil.Proofs.FormatSpec.Reading
import Stencil.Proofs.FormatSpec.Grammar
import Stencil.Proofs.Block.Colon
import Stencil.Proofs.Block.Cut
import Stencil.Proofs.Block.Terminator
import Stencil.Proofs.FreeNames.Names
import Stencil.Proofs.Block.Piece
import Stencil.Proofs.FreeNames.Uses
import Stencil.Proofs.FreeNames.Report
import Stencil.Proofs.FileTable
import Stencil.Proofs.Text.Utf8
import Stencil.Proofs.Output
import Stencil.Proofs.Block.Spans
import Stencil.Proofs.Block.Expression
import Stencil.Proofs.Routine.StringLiteral
import Stencil.Proofs.FormatSpec.Translation
import Stencil.Proofs.Location.Exact
import Stencil.Proofs.Cache.History
import Stencil.Proofs.Dialect.Lists
import Stencil.Proofs.Token.Nesting
import Stencil.Proofs.Token.Declared
import Stencil.Proofs.Depth.Height
import Stencil.Proofs.Token.Run
import Stencil.Proofs.Mask
import Stencil.Proofs.Progress
import Stencil.Proofs.Script.Literal
import Stencil.Proofs.Script.Token
import Stencil.Proofs.Script.Module
import Stencil.Proofs.Script.Run
import Stencil.Proofs.Script.Code
import Stencil.Proofs.Script.Alike
import Stencil.Proofs.Render
