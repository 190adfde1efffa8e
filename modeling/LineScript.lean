import LineScript.Expression.Basic
import LineScript.Builtin.Catalogue
import LineScript.Session.Run
import LineScript.Debug.Serve
import LineScript.CommandLine.Conversation
import LineScript.CommandLine.Invocation
import LineScript.Main
import LineScript.Proofs.Text.Blanks
import LineScript.Proofs.Text.Lines
import LineScript.Proofs.Text.Splitting
import LineScript.Proofs.Text.Closed
import LineScript.Proofs.Text.Pieces
import LineScript.Proofs.Text.Occurrence
import LineScript.Proofs.Registry.Lookup
import LineScript.Proofs.Registry.History
import LineScript.Proofs.Registry.Merge
import LineScript.Proofs.Binary64.Nearest
import LineScript.Proofs.Binary64.RoundTrip
import LineScript.Proofs.Binary64.Order
import LineScript.Proofs.Binary64.Numeral
import LineScript.Proofs.Value.Literal
import LineScript.Proofs.Value.Order
import LineScript.Proofs.Expression.Operands
import LineScript.Proofs.Expression.Concatenation
import LineScript.Proofs.Expression.Literal
import LineScript.Proofs.Expression.Numeral
import LineScript.Proofs.Block.Opening
import LineScript.Proofs.Block.Scan
import LineScript.Proofs.Block.Regions
import LineScript.Proofs.Block.Heading
import LineScript.Proofs.Block.Layout
import LineScript.Proofs.Block.Matter
import LineScript.Proofs.Block.Prefix
import LineScript.Proofs.Block.Braces
import LineScript.Proofs.Block.Recorded
import LineScript.Proofs.Block.Order
import LineScript.Proofs.Block.Handlers
import LineScript.Proofs.Block.Binding
import LineScript.Proofs.Block.Skipped
import LineScript.Proofs.Expression.Identifier
import LineScript.Proofs.Expression.Delimited
import LineScript.Proofs.Expression.Call
import LineScript.Proofs.Statement.Precedence
import LineScript.Proofs.Statement.Assignment
import LineScript.Proofs.Statement.Operator
import LineScript.Proofs.Block.Inline
import LineScript.Proofs.Program.Outline
import LineScript.Proofs.Program.Matter
import LineScript.Proofs.Program.Relaid
import LineScript.Proofs.Program.Append
import LineScript.Proofs.Program.Numbered
import LineScript.Proofs.Program.Sequence
import LineScript.Proofs.Builtin.Reply
import LineScript.Proofs.Builtin.Failures
import LineScript.Proofs.Builtin.Mutation
import LineScript.Proofs.Builtin.Mismatch
import LineScript.Proofs.Builtin.Object
import LineScript.Proofs.Builtin.Array
import LineScript.Proofs.Builtin.Sort
import LineScript.Proofs.Builtin.Textual
import LineScript.Proofs.Session.Evaluation
import LineScript.Proofs.Session.Receiver
import LineScript.Proofs.Session.Course
import LineScript.Proofs.Session.NestedTry
import LineScript.Proofs.Session.Ledger
import LineScript.Proofs.Session.Renumbering
import LineScript.Proofs.Session.Append
import LineScript.Proofs.Session.Effects
import LineScript.Proofs.Session.Account
import LineScript.Proofs.Session.Gains
import LineScript.Proofs.Session.Names
import LineScript.Proofs.Session.Import
import LineScript.Proofs.Session.Skipped
import LineScript.Proofs.Session.InlineTry
import LineScript.Proofs.Session.Statements
import LineScript.Proofs.Session.Sort
import LineScript.Proofs.Debug.Frame
import LineScript.Proofs.Debug.Turn
import LineScript.Proofs.Debug.Serve
import LineScript.Proofs.Debug.Oversized
import LineScript.Proofs.Debug.Batches
import LineScript.Proofs.Debug.Termination
import LineScript.Proofs.Debug.Phase
import LineScript.Proofs.Debug.Unchanged
import LineScript.Proofs.Debug.CallStack
import LineScript.Proofs.Debug.Written
import LineScript.Proofs.Debug.Arguments
import LineScript.Proofs.Debug.Breakpoints
import LineScript.Proofs.Debug.Completion
