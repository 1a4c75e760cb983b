import WasmScope.Binary.Advance
import WasmScope.Binary.Cursor
import WasmScope.Binary.Defect
import WasmScope.Binary.Leb128
import WasmScope.Binary.Output
import WasmScope.Binary.Window
import WasmScope.Browser.Basic
import WasmScope.Browser.View
import WasmScope.Browser.Viewport
import WasmScope.Command.Flag
import WasmScope.Command.Invocation
import WasmScope.Command.LogLine
import WasmScope.Command.Run
import WasmScope.Command.Settings
import WasmScope.Command.Switch
import WasmScope.Decode.Expr
import WasmScope.Decode.Log
import WasmScope.Decode.Module
import WasmScope.Decode.Types
import WasmScope.Engine.Basic
import WasmScope.Engine.Code
import WasmScope.Engine.Input
import WasmScope.Engine.Operator
import WasmScope.Engine.Reference
import WasmScope.Engine.Sections
import WasmScope.Engine.Segment
import WasmScope.Engine.Types
import WasmScope.Engine.Verify
import WasmScope.Failure.Chain
import WasmScope.Failure.Draft
import WasmScope.Failure.Report
import WasmScope.Listing.Document
import WasmScope.Listing.Line
import WasmScope.Listing.Sink
import WasmScope.Listing.Summary
import WasmScope.Listing.Text
import WasmScope.Main
import WasmScope.Module.Basic
import WasmScope.Module.Encode
import WasmScope.Module.Instr
import WasmScope.Module.Tag
import WasmScope.Module.Validate
import WasmScope.Module.Walk
import WasmScope.Proofs.Binary.Compare
import WasmScope.Proofs.Binary.Format
import WasmScope.Proofs.Binary.Integers
import WasmScope.Proofs.Binary.Leb128
import WasmScope.Proofs.Binary.Locate
import WasmScope.Proofs.Decode.Blame
import WasmScope.Proofs.Decode.Concat
import WasmScope.Proofs.Decode.Outcome
import WasmScope.Proofs.Decode.Regular
import WasmScope.Proofs.Decode.Strict
import WasmScope.Proofs.Encode.Normal
import WasmScope.Proofs.Encode.Recoding
import WasmScope.Proofs.Failure.Queries
import WasmScope.Proofs.Grammar.Expr
import WasmScope.Proofs.Grammar.Module
import WasmScope.Proofs.Grammar.Types
import WasmScope.Proofs.Module.Validity
import WasmScope.Storage.FileStore
import WasmScope.Storage.Load
import WasmScope.Storage.Path
import WasmScope.Text.Aligned
import WasmScope.Text.Base64
import WasmScope.Text.CharClass
import WasmScope.Text.Cluster
import WasmScope.Text.Columns
import WasmScope.Text.EditDistance
import WasmScope.Text.Hex
import WasmScope.Text.Lines
import WasmScope.Text.LowerCase
import WasmScope.Text.Printable
import WasmScope.Text.Quoted
import WasmScope.Text.Template
import WasmScope.Yaml.Node
import WasmScope.Yaml.Resolve
import WasmScope.Yaml.Scalar
import WasmScope.Proofs.Engine.Verify
import WasmScope.Proofs.Grammar.Layout
import WasmScope.Proofs.Decode.Truncation
import WasmScope.Proofs.Decode.Layout
import WasmScope.Proofs.Decode.Nesting
import WasmScope.Proofs.Binary.Window
import WasmScope.Proofs.Binary.WindowStack
import WasmScope.Proofs.Browser.Selection
import WasmScope.Proofs.Command.Stages
import WasmScope.Proofs.Decode.Items
import WasmScope.Proofs.Engine.Agreement
import WasmScope.Proofs.Engine.Exactness
import WasmScope.Proofs.Engine.Standard
import WasmScope.Proofs.Decode.Bare
import WasmScope.Proofs.Decode.BlockIndex
import WasmScope.Proofs.Decode.Delimited
import WasmScope.Proofs.Module.Locals
import WasmScope.Proofs.Module.Signatures
import WasmScope.Proofs.Text.Printable
import WasmScope.Proofs.Listing.Code
import WasmScope.Proofs.Listing.Faithful
import WasmScope.Proofs.Listing.Agreement
import WasmScope.Proofs.Listing.Colours
import WasmScope.Proofs.Binary.Vector
import WasmScope.Proofs.Command.Layers
import WasmScope.Proofs.Listing.Summary
import WasmScope.Proofs.Decode.Log
