import Meshd.Dwn.Crypto.KeyBuffers
import Meshd.Dwn.CursorSafety
import Meshd.Dwn.SignedDescriptor
import Meshd.Engine.Refresh.Periodic
import Meshd.Engine.Refresh.BatchOrder
import Meshd.Engine.Refresh.Debounce
import Meshd.Engine.WatcherRepair
import Meshd.Engine.Router.Linux
import Meshd.Engine.Router.Darwin
import Meshd.Control.AclFields
import Meshd.Control.FilterAddress
import Meshd.Control.ChildRecords
import Meshd.Control.FailClosed
import Meshd.Control.Cancellation
import Meshd.Control.RateLimits
import Meshd.Control.SingleFlight
import Meshd.Engine.Snapshot
import Meshd.Engine.NodeIdentity
import Meshd.Engine.RoutingStatus
import Meshd.Mesh.Idempotence
import Meshd.Mesh.InviteWindow
import Meshd.Mesh.KeyDelivery
import Meshd.Mesh.MeshAddress
import Meshd.Wallet.Binding
import Meshd.Wallet.SessionAuth
import Meshd.Wallet.ConnectGrants
import Meshd.Wallet.ConnectResponse
import Meshd.Did.DhtKept
import Meshd.Did.DhtResolver
