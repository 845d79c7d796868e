import Dialogue.Engine.Call
import Dialogue.Document.Export
import Dialogue.Host
import Dialogue.Main
import Dialogue.Proofs.Engine.Acceptance
import Dialogue.Proofs.Engine.Rest
import Dialogue.Proofs.Engine.Ceiling
import Dialogue.Proofs.Engine.Grammar
import Dialogue.Proofs.Engine.Isolation
import Dialogue.Proofs.Engine.Transcript
import Dialogue.Proofs.Step.Way
import Dialogue.Proofs.Walk.Assigned
import Dialogue.Proofs.Walk.Route
import Dialogue.Proofs.Engine.Path
import Dialogue.Proofs.Engine.Variables
import Dialogue.Proofs.Flow.Alike
import Dialogue.Proofs.Engine.Alike
import Dialogue.Proofs.Document.Reread
import Dialogue.Proofs.Document.RoundTrip
import Dialogue.Proofs.Engine.Truncation
import Dialogue.Proofs.Engine.Lifetime
import Dialogue.Proofs.Host.Settling
import Dialogue.Proofs.Json.Shown
import Dialogue.Proofs.Document.Normal
import Dialogue.Proofs.Engine.Eviction
import Dialogue.Proofs.Engine.Redrawn
import Dialogue.Proofs.Step.Failure
import Dialogue.Proofs.Walk.Failure
import Dialogue.Proofs.Engine.Failures
import Dialogue.Proofs.Engine.Journal
import Dialogue.Proofs.Archive.Delimiting
import Dialogue.Proofs.Host.Snapshot
import Dialogue.Proofs.Flow.Violation
import Dialogue.Proofs.Flow.Index
import Dialogue.Proofs.Flow.Successor
import Dialogue.Proofs.Template.Substitution
import Dialogue.Proofs.Text.Casing
import Dialogue.Proofs.Template.Padding
import Dialogue.Proofs.Predicate.Comparison
import Dialogue.Proofs.Predicate.Matching
import Dialogue.Proofs.Predicate.Coherence
import Dialogue.Proofs.Predicate.Spelling
import Dialogue.Proofs.Predicate.FirstOperator
import Dialogue.Proofs.Host.Rounds
import Dialogue.Proofs.Text.ByteOrder
import Dialogue.Proofs.Archive.Canonical
import Dialogue.Proofs.Json.Plain
import Dialogue.Proofs.Json.Order
import Dialogue.Proofs.Json.Selection
import Dialogue.Proofs.Event.WireForm
import Dialogue.Proofs.Document.WireForm
import Dialogue.Proofs.Host.Attending
import Dialogue.Proofs.Host.Lifted
import Dialogue.Proofs.Cli.World
import Dialogue.Proofs.Cli.Completion
