import LineScript.Text.Hidden
import LineScript.Text.Terminal
import LineScript.Text.Letters
import LineScript.Pattern
import LineScript.LogFilter
import LineScript.Text.Escaped
import LineScript.Syntax.Word
import LineScript.Syntax.Command
import LineScript.Syntax.Error
import LineScript.Syntax.Parse
import LineScript.Syntax.Tree
import LineScript.Json.Value
import LineScript.Json.Write
import LineScript.Text.Unsigned
import LineScript.Eval.Bindings
import LineScript.Eval.Context
import LineScript.Eval.Error
import LineScript.Eval.Function
import LineScript.Eval.Registry
import LineScript.Eval.Runner
import LineScript.Text.Timestamp
import LineScript.Host.Functions
import LineScript.Host.Executor
import LineScript.Decimal.Shortest
import LineScript.Json.Read
import LineScript.Settings
import LineScript.Text.Similarity
import LineScript.Cli.Spec
import LineScript.Cli.Parse
import LineScript.Cli.Disk
import LineScript.Cli.Program
import LineScript.Main
import LineScript.Proofs.Stepping
import LineScript.Proofs.Rollback
import LineScript.Proofs.Resume
import LineScript.Proofs.Blocks
import LineScript.Proofs.Quoting
import LineScript.Proofs.RoundTrip
import LineScript.Proofs.Session
import LineScript.Proofs.Frames
import LineScript.Proofs.Progress
import LineScript.Proofs.Dispatch
import LineScript.Proofs.Reading
import LineScript.Proofs.Shadowing
import LineScript.Proofs.Splitting
