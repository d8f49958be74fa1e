import GrpcPhp.Lib.Channel
import GrpcPhp.Lib.Extended
import GrpcPhp.Lib.Fallible
import GrpcPhp.Lib.Grouping
import GrpcPhp.Lib.Intern
import GrpcPhp.Lib.Joined
import GrpcPhp.Lib.Multimap
import GrpcPhp.Lib.Potential
import GrpcPhp.Lib.Reading
import GrpcPhp.Lib.Respects
import GrpcPhp.Lib.Run
import GrpcPhp.Lib.Saturating
import GrpcPhp.Lib.Text
import GrpcPhp.Lib.Utf8
import GrpcPhp.Php.Value
import GrpcPhp.Php.Error
import GrpcPhp.Tonic
import GrpcPhp.Call.Metadata
import GrpcPhp.Call.Collected
import GrpcPhp.Call.Batch
import GrpcPhp.Call.Grammar
import GrpcPhp.Call.Parsers
import GrpcPhp.Call.Echo
import GrpcPhp.Call.Deadline
import GrpcPhp.Call.State
import GrpcPhp.Call.Method
import GrpcPhp.Call.Dispatch
import GrpcPhp.Call.Alike
import GrpcPhp.Call.Outcome
import GrpcPhp.Call.Step
import GrpcPhp.Call.Compute
import GrpcPhp.Call.SingleRpc
import GrpcPhp.Call.Wire
import GrpcPhp.Call.Request
import GrpcPhp.Call.HalfClosed
import GrpcPhp.Call.InitialMetadata
import GrpcPhp.Call.Credentials
import GrpcPhp.Call.Expired
import GrpcPhp.Call.Rejected
import GrpcPhp.Call.Exceptions
import GrpcPhp.Call.PluginFailure
import GrpcPhp.Call.Returned
import GrpcPhp.Call.Lifecycle
import GrpcPhp.Call.StatusOnce
import GrpcPhp.Time.Timeval
import GrpcPhp.Time.Infinity
import GrpcPhp.Time.Kinds
import GrpcPhp.Time.Order
import GrpcPhp.Time.Timeout
import GrpcPhp.Time.Sleep
import GrpcPhp.Time.Similar
import GrpcPhp.Stream.Driver
import GrpcPhp.Stream.System
import GrpcPhp.Stream.Step
import GrpcPhp.Stream.Channels
import GrpcPhp.Stream.Progress
import GrpcPhp.Stream.Results
import GrpcPhp.Stream.Headers
import GrpcPhp.Stream.Status
import GrpcPhp.Stream.Delivery
import GrpcPhp.Stream.FinalStatus
import GrpcPhp.Stream.Flow
import GrpcPhp.Stream.Dropped
import GrpcPhp.Stream.Cancelled
import GrpcPhp.Stream.Codes
import GrpcPhp.Stream.Deadline
import GrpcPhp.Stream.Refinement
import GrpcPhp.Stream.Atomic
import GrpcPhp.Stream.Termination
import GrpcPhp.Stream.Unary
import GrpcPhp.Stream.Many
import GrpcPhp.Stream.Background
import GrpcPhp.Stream.Driven
import GrpcPhp.Channel.Connectivity
import GrpcPhp.Channel.Agreement
import GrpcPhp.Channel.Credentials
import GrpcPhp.Channel.CallCredentials
import GrpcPhp.Channel.Construct
import GrpcPhp.Channel.Watch
import GrpcPhp.Channel.Encryption
import GrpcPhp.Channel.PersistKey
import GrpcPhp.Channel.Extension
import GrpcPhp.Channel.Reuse
import GrpcPhp.Channel.Transparency
import GrpcPhp.Channel.Isolation
import GrpcPhp.Channel.Calls
import GrpcPhp.Process.Runtime
import GrpcPhp.Process.Threads
