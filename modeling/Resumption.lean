import Resumption.Describe
import Resumption.Future.Carrier
import Resumption.Future.Executor
import Resumption.Action.Carrier
import Resumption.Layered.Bracket
import Resumption.Layered.Paged
import Resumption.Proofs.Carrier.Observation
import Resumption.Proofs.Carrier.Eager
import Resumption.Proofs.Carrier.Action
import Resumption.Proofs.Carrier.Future
import Resumption.Proofs.Carrier.Layered
import Resumption.Proofs.Program.Meaning
import Resumption.Proofs.Program.Draft
import Resumption.Proofs.Halting.Basic
import Resumption.Proofs.Halting.Carriers
import Resumption.Proofs.Program.Carrier
import Resumption.Proofs.Carrier.Sequencing
import Resumption.Proofs.Carrier.Unrolling
import Resumption.Proofs.Halting.Errors
import Resumption.Proofs.Carrier.Channel
import Resumption.Proofs.Carrier.Handling
import Resumption.Proofs.Carrier.Exposing
import Resumption.Proofs.Carrier.Uniform
import Resumption.Proofs.Program.Behavior
import Resumption.Proofs.Program.Regrouping
import Resumption.Proofs.Program.Passage
import Resumption.Proofs.Program.Chronicle
import Resumption.Proofs.Program.Reached
import Resumption.Proofs.Program.Resuming
import Resumption.Proofs.Program.Translation
import Resumption.Proofs.Endings.Basic
import Resumption.Proofs.Endings.Bottom
import Resumption.Proofs.Endings.Layered
import Resumption.Proofs.Endings.Stack
import Resumption.Proofs.Custody.Book
import Resumption.Proofs.Custody.Ticketed
import Resumption.Proofs.Custody.Poll
import Resumption.Proofs.Custody.Session
import Resumption.Proofs.Custody.Cancellation
import Resumption.Proofs.Timeout.Nesting
import Resumption.Proofs.Timeout.Placed
import Resumption.Proofs.Timeout.Poll
import Resumption.Proofs.Timeout.Session
import Resumption.Proofs.Timeout.Outcome
import Resumption.Proofs.Custody.Mirror
import Resumption.Proofs.Custody.Mirroring
import Resumption.Proofs.Custody.Replay
import Resumption.Proofs.Endings.Courses
import Resumption.Proofs.Action.Spans
import Resumption.Proofs.Recipe.Basic
import Resumption.Proofs.Recipe.Matching
import Resumption.Proofs.Recipe.Awaited
import Resumption.Proofs.Recipe.Routes
import Resumption.Proofs.Future.Pair
import Resumption.Proofs.Endings.Single
import Resumption.Proofs.Endings.Handling
import Resumption.Proofs.Endings.Amid
import Resumption.Proofs.Endings.Paged
import Resumption.Proofs.Future.Turns
import Resumption.Proofs.Future.Nested
import Resumption.Proofs.Future.Bisimulation
import Resumption.Proofs.Panics.Assembly
import Resumption.Proofs.Panics.Calming
import Resumption.Proofs.Panics.Layered
import Resumption.Proofs.Panics.Built
import Resumption.Proofs.Panics.Action
import Resumption.Proofs.Panics.Future
import Resumption.Proofs.Panics.Polls
import Resumption.Proofs.Panics.Run
import Resumption.Proofs.Program.Opening
import Resumption.Proofs.Program.Stepping
import Resumption.Proofs.Program.Promptness
import Resumption.Proofs.Coproduct.Place
import Resumption.Proofs.Coproduct.Routing
import Resumption.Proofs.Trampoline.Bounce
import Resumption.Proofs.Trampoline.Recursion
import Resumption.Erased.Basic
import Resumption.Erased.Normal
import Resumption.Erased.Fold
import Resumption.Erased.Knotted
import Resumption.Proofs.Program.Listing
import Resumption.Proofs.Erased.Joining
import Resumption.Proofs.Erased.Erasure
import Resumption.Proofs.Erased.Alignment
import Resumption.Proofs.Erased.Building
import Resumption.Proofs.Erased.Meaning
import Resumption.Proofs.Erased.Ending
import Resumption.Future.Stage
import Resumption.Proofs.Future.LifeCycle
import Resumption.Proofs.Stripping.Stripped
import Resumption.Proofs.Stripping.Polls
import Resumption.Proofs.Stripping.Executor
import Resumption.Proofs.Timeout.Vacant
import Resumption.Proofs.Timeout.Chain
import Resumption.Proofs.Timeout.Shortest
