import Reattempt.Catalog
import Reattempt.Engine.Concert
import Reattempt.Engine.Family
import Reattempt.Engine.Handover
import Reattempt.Engine.Retryable
import Reattempt.Engine.Transcript
import Reattempt.Notice.Journal
import Reattempt.Proofs.Agreement
import Reattempt.Proofs.Alterations
import Reattempt.Proofs.Budgets
import Reattempt.Proofs.Calls
import Reattempt.Proofs.Caps
import Reattempt.Proofs.Casing
import Reattempt.Proofs.Cast
import Reattempt.Proofs.Chains
import Reattempt.Proofs.Checks
import Reattempt.Proofs.Comparison
import Reattempt.Proofs.Cue
import Reattempt.Proofs.Cycle
import Reattempt.Proofs.Decoration
import Reattempt.Proofs.Delays
import Reattempt.Proofs.Discipline
import Reattempt.Proofs.Finality
import Reattempt.Proofs.Independence
import Reattempt.Proofs.Injection
import Reattempt.Proofs.Lifecycle
import Reattempt.Proofs.Limits
import Reattempt.Proofs.Loading
import Reattempt.Proofs.Misuse
import Reattempt.Proofs.Moves
import Reattempt.Proofs.Numbering
import Reattempt.Proofs.Ownership
import Reattempt.Proofs.Pace
import Reattempt.Proofs.Play
import Reattempt.Proofs.Reading
import Reattempt.Proofs.Reference
import Reattempt.Proofs.Refusal
import Reattempt.Proofs.Round
import Reattempt.Proofs.Tally
import Reattempt.Rehearsal.Session
import Reattempt.Result
import Reattempt.Settings.Environment
import Reattempt.Value.Digest
import Reattempt.Proofs.Content
import Reattempt.Proofs.Rendering
import Reattempt.Proofs.Flakiness
import Reattempt.Proofs.Notices
import Reattempt.Proofs.Timekeeping
