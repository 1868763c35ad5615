import ApiPack2.Lib.Transition
import ApiPack2.Lib.Memory
import ApiPack2.Lib.BitField
import ApiPack2.Lib.Calendar
import ApiPack2.Lib.Decimal
import ApiPack2.Lib.Quoting
import ApiPack2.Lib.Rotation
import ApiPack2.Lib.Chunks
import ApiPack2.Lib.Gather
import ApiPack2.Lib.Glob
import ApiPack2.Lib.Csv
import ApiPack2.Datastore.ScheduleDayArguments
import ApiPack2.Datastore.Postgres
import ApiPack2.Datastore.Delivery
import ApiPack2.Datastore.Transactions
import ApiPack2.Datastore.Isolation
import ApiPack2.Datastore.Ownership
import ApiPack2.Datastore.Lifetime
import ApiPack2.Datastore.Failures
import ApiPack2.Datastore.ResultUse
import ApiPack2.Datastore.Ending
import ApiPack2.Utils.PoolSlots
import ApiPack2.Handler.Custody
import ApiPack2.Handler.Draining
import ApiPack2.Handler.Agreement
import ApiPack2.Handler.Processing
import ApiPack2.Handler.History
import ApiPack2.Handler.Binding
import ApiPack2.Utils.PoolGrowth
import ApiPack2.Utils.PoolAssertions
import ApiPack2.Memorystore.GridRows
import ApiPack2.Handler.Stopping
import ApiPack2.Datastore.CursorNames
import ApiPack2.Datastore.InLists
import ApiPack2.Datastore.QueryQuoting
import ApiPack2.Datastore.ThriftConverter
import ApiPack2.Datastore.ConnectionInfo
import ApiPack2.Export.Closure
import ApiPack2.Export.RoundTrip
import ApiPack2.Utils.LightweightSemaphore
import ApiPack2.Utils.SemaphoreTokens
import ApiPack2.Utils.ConcurrentQueue
import ApiPack2.Utils.DequeueClaims
import ApiPack2.Utils.DequeueAlone
import ApiPack2.Utils.BlockingConcurrentQueue
import ApiPack2.Utils.QueueTokens
import ApiPack2.Utils.QueueBalance
import ApiPack2.Utils.QueueDelivery
import ApiPack2.Utils.QueueRefinement
import ApiPack2.Utils.FreeListCustody
