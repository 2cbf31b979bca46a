import Muta.Protocol.Types
import Muta.Lib.Fail
import Muta.Lib.Trace
import Muta.Lib.Simulation
import Muta.Lib.Window
import Muta.Lib.BoundedQueue
import Muta.Lib.BucketMap
import Muta.Lib.Rlp
import Muta.Lib.RlpReadback
import Muta.Lib.Journal
import Muta.Lib.OrderedMap
import Muta.Consensus.Status
import Muta.Consensus.Pending
import Muta.Consensus.Engine
import Muta.Mempool.Map
import Muta.Mempool.TxCache
import Muta.Mempool.CacheInvariant
import Muta.Mempool.HashMemPool
import Muta.FixedCodec.Basic
import Muta.FixedCodec.Primitive
import Muta.FixedCodec.Transaction
import Muta.FixedCodec.Block
import Muta.FixedCodec.Receipt
import Muta.FixedCodec.Properties
import Muta.Framework.State
import Muta.Framework.Store.Keys
import Muta.Framework.Store.Array
import Muta.Framework.Store.Map
import Muta.Framework.Store.MapRefinement
import Muta.Consensus.Synchronization
import Muta.Protocol.ServiceContext
import Muta.Lib.Saturating
import Muta.Network.Retry
import Muta.Lib.Str
import Muta.Network.Error
import Muta.Network.Endpoint
import Muta.Network.Peer
import Muta.Network.Control
import Muta.Network.SaveRestore
import Muta.Mempool.Package
import Muta.Lib.Base16
import Muta.Lib.Ledger
import Muta.Lib.SortedMap
import Muta.Service.Asset
import Muta.Lib.Conversion
import Muta.Codec.Proto
import Muta.Lib.ByteStore
import Muta.Storage.Adapter
import Muta.Storage.ImplStorage
import Muta.Api.Scalars
import Muta.Api.Schema
import Muta.Lib.Frame
import Muta.Framework.Executor
import Muta.Network.Manager
import Muta.Network.Index
import Muta.Network.Sessions
import Muta.Network.Attempts
import Muta.Service.AssetStore
