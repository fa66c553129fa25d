import NCBlock.Main
import NCBlock.Proofs.Address.Quoted
import NCBlock.Proofs.Address.Quoting
import NCBlock.Proofs.Block.Calls
import NCBlock.Proofs.Block.Chunks
import NCBlock.Proofs.Block.Comment
import NCBlock.Proofs.Block.Dialect
import NCBlock.Proofs.Block.Failure
import NCBlock.Proofs.Block.Grammar
import NCBlock.Proofs.Block.InnerCounts
import NCBlock.Proofs.Block.Json
import NCBlock.Proofs.Block.Layout
import NCBlock.Proofs.Block.OneLine
import NCBlock.Proofs.Block.Readable
import NCBlock.Proofs.Block.Refusal
import NCBlock.Proofs.Block.RoundTrip
import NCBlock.Proofs.Block.Sharing
import NCBlock.Proofs.Block.Value
import NCBlock.Proofs.Checksum.ExclusiveOr
import NCBlock.Proofs.Checksum.History
import NCBlock.Proofs.Document.Agreement
import NCBlock.Proofs.Document.Append
import NCBlock.Proofs.Document.Construction
import NCBlock.Proofs.Document.Keep
import NCBlock.Proofs.Document.Lines
import NCBlock.Proofs.Document.Strip
import NCBlock.Proofs.Document.Twice
import NCBlock.Proofs.Document.Update
import NCBlock.Proofs.Document.Validation
import NCBlock.Proofs.Document.Written
import NCBlock.Proofs.Gcode.Classification
import NCBlock.Proofs.Gcode.Readable
import NCBlock.Proofs.Gcode.Refusal
import NCBlock.Proofs.Gcode.Section
import NCBlock.Proofs.Gcode.Spelling
import NCBlock.Proofs.Line.Cuts
import NCBlock.Proofs.Line.NormalForm
import NCBlock.Proofs.Line.Partition
import NCBlock.Proofs.Line.Variants
import NCBlock.Proofs.Number.Nearest
import NCBlock.Proofs.Number.Numeral
import NCBlock.Proofs.Number.Rounding
import NCBlock.Proofs.Text.Blank
import NCBlock.Proofs.Text.Capital
import NCBlock.Proofs.Text.Class
import NCBlock.Proofs.Text.Stride
import NCBlock.Proofs.Token.Coverage
import NCBlock.Proofs.Token.Literal
import NCBlock.Proofs.Token.Row
import NCBlock.Proofs.Tool.Config
import NCBlock.Proofs.Tool.Run
