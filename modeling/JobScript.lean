import JobScript.Script
import JobScript.Proofs.Run.Effects
import JobScript.Proofs.Run.Variables
import JobScript.Proofs.Statistics.Boundary
import JobScript.Proofs.Statistics.Chronicle
import JobScript.Proofs.Statistics.Phase
import JobScript.Proofs.Trackers.Request
import JobScript.Proofs.Typing.Execution
import JobScript.Proofs.Typing.Resolution
import JobScript.Proofs.Statistics.Bucketing
import JobScript.Proofs.Statistics.Accounting
import JobScript.Proofs.Statistics.Tally
import JobScript.Proofs.Trackers.Frame
import JobScript.Proofs.Trackers.Consistency
import JobScript.Proofs.Trackers.Timeline
import JobScript.Proofs.Statistics.InOrder
import JobScript.Proofs.Trackers.Guarantees
import JobScript.Proofs.Statistics.Stream
import JobScript.Proofs.Run.Failures
import JobScript.Proofs.Trackers.Lifecycle
import JobScript.Proofs.Typing.Demands
import JobScript.Proofs.Typing.Mismatch
import JobScript.Proofs.Text.Utf8
import JobScript.Proofs.Pop.Lines
import JobScript.Proofs.Pop.Messages
import JobScript.Proofs.Pop.Lockstep
import JobScript.Proofs.Pop.Connections
import JobScript.Proofs.Pop.Sharing
import JobScript.Proofs.Mail.Composition
import JobScript.Proofs.Run.Assignment
import JobScript.Proofs.Run.Order
import JobScript.Proofs.Random.Sources
import JobScript.Proofs.Random.Accounting
import JobScript.Proofs.Run.Messages
import JobScript.Proofs.Random.Isolation
import JobScript.Proofs.Text.Segments
import JobScript.Proofs.Pop.Turns
import JobScript.Proofs.Pop.Counting
import JobScript.Proofs.Pop.Connecting
import JobScript.Proofs.Pop.Truncation
import JobScript.Proofs.Timestamp.Compilation
import JobScript.Proofs.Mail.Agreement
import JobScript.Proofs.Pop.Commands
import JobScript.Proofs.Trackers.Names
import JobScript.Proofs.Timestamp.Quoting
import JobScript.Proofs.Text.Searches
import JobScript.Proofs.Text.IgnoringCase
import JobScript.Proofs.Text.Comparison
import JobScript.Proofs.Text.Splitting
import JobScript.Proofs.Lists.Editing
import JobScript.Proofs.Statistics.Averages
import JobScript.Proofs.Statistics.Timing
import JobScript.Proofs.Statistics.Categories
import JobScript.Proofs.Diagnostic.Resolution
import JobScript.Proofs.Diagnostic.LetterCase
import JobScript.Proofs.Random.Seeds
import JobScript.Proofs.Operands.Division
import JobScript.Proofs.Text.Numerals
import JobScript.Proofs.Operands.Forms
import JobScript.Proofs.Statistics.Crossings
import JobScript.Proofs.Pop.Framing
