import Cosmpy.Basic.Types
import Cosmpy.Basic.Node
import Cosmpy.Retrier
import Cosmpy.Client
import Cosmpy.Queries
import Cosmpy.Tx.Build
import Cosmpy.Tx.Broadcast
import Cosmpy.Regex
import Cosmpy.Address
import Cosmpy.Extract
import Cosmpy.Workflow.Loop
import Cosmpy.Workflow.Contracts
import Cosmpy.Funds
import Cosmpy.Session
import Cosmpy.Trace
import Cosmpy.Footprint
import Cosmpy.Submissions
import Cosmpy.Sequence
import Cosmpy.Requests
import Cosmpy.Refill
import Cosmpy.Sleeps
import Cosmpy.Polls
import Cosmpy.Exceptions
import Cosmpy.Confirmation
import Cosmpy.Progress
import Cosmpy.Outage
import Cosmpy.Schedule
import Cosmpy.Repeats
