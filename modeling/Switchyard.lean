import Switchyard.Library.Text
import Switchyard.Library.Json
import Switchyard.Library.Effect
import Switchyard.Library.Transition
import Switchyard.Library.Pool
import Switchyard.Library.Serial
import Switchyard.Library.Numbered
import Switchyard.Library.Lines
import Switchyard.Library.Utf8
import Switchyard.Library.Base64
import Switchyard.Library.Gregorian
import Switchyard.Host
import Switchyard.Rfc8785
import Switchyard.Reread
import Switchyard.Restored
import Switchyard.DirectApi.Request
import Switchyard.DirectApi.Store
import Switchyard.DirectApi.Ledger
import Switchyard.DirectApi.Run
import Switchyard.DirectApi.Durability
import Switchyard.DirectApi.Overage
import Switchyard.DirectApi.Exposure
import Switchyard.DirectApi.Transport
import Switchyard.DirectApi.Transparency
import Switchyard.DirectApi.Contact
import Switchyard.DirectApi.Slot
import Switchyard.DirectApi.Leak
import Switchyard.AppServer.Frames
import Switchyard.AppServer.Acquisition
import Switchyard.AppServer.Wire
import Switchyard.AppServer.Size
import Switchyard.AppServer.Actions
import Switchyard.AppServer.Checks
import Switchyard.AppServer.Parties
import Switchyard.AppServer.Framing
import Switchyard.AppServer.Presend
import Switchyard.AppServer.Lossless
import Switchyard.AppServer.Custody
import Switchyard.AppServer.Complete
import Switchyard.Admission.Evidence
import Switchyard.Admission.Mapper
import Switchyard.Admission.Consume
import Switchyard.Admission.Lifecycle
import Switchyard.Admission.Change
import Switchyard.Admission.Received
import Switchyard.Admission.Calls
import Switchyard.Admission.Atomicity
import Switchyard.Admission.Disposition
import Switchyard.Admission.Grammar
import Switchyard.Admission.Clean
import Switchyard.Admission.Capacity
import Switchyard.Admission.Echo
import Switchyard.Admission.History
import Switchyard.Admission.Integrity
import Switchyard.Runner.Preflight
import Switchyard.Runner.EchoSize
import Switchyard.Runner.Closure
import Switchyard.Runner.Timestamp
import Switchyard.Runner.RunStore
import Switchyard.Runner.Claims
import Switchyard.Runner.Duplicates
import Switchyard.Runner.Inspection
import Switchyard.Runner.Exclusion
import Switchyard.Runner.Execution
import Switchyard.Runner.Projection
import Switchyard.Runner.Drains
import Switchyard.Runner.Settlement
import Switchyard.Runner.Results
import Switchyard.Nightshift.Control
import Switchyard.Nightshift.Timestamp
import Switchyard.Library.Graph
import Switchyard.Submission.WorkItems
import Switchyard.Nightshift.Recognition
import Switchyard.Submission.Digests
import Switchyard.Nightshift.Operations
import Switchyard.Nightshift.Truncation
import Switchyard.Nightshift.Inspection
import Switchyard.AppServer.Cut
import Switchyard.AppServer.Bounds
