import Shoc.Transition.Runs
import Shoc.Doca.Basic
import Shoc.Coro.Receptable
import Shoc.Engine.Offload
import Shoc.Engine.Wakeup
import Shoc.Engine.TaskOwnership
import Shoc.Common.AccepterQueues
import Shoc.Common.Delivery
import Shoc.Common.QueueInUse
import Shoc.Data.Registry
import Shoc.Engine.EventLoop
import Shoc.Engine.LoopExit
import Shoc.Context.StateAwaitable
import Shoc.Context.Waiters
import Shoc.Comch.Objects
import Shoc.Comch.Machine
import Shoc.Comch.Steps
import Shoc.Comch.Views
import Shoc.Comch.Sound
import Shoc.Comch.ChildrenFirst
import Shoc.Comch.TeardownOnce
import Shoc.Comch.Drain
import Shoc.Comch.Shutdown
import Shoc.Data.Population
import Shoc.Engine.Lease
import Shoc.AesGcm.Keys
import Shoc.AesGcm.Accounting
import Shoc.Context.Scoped
import Shoc.Data.OnesComplement
import Shoc.Eth.Frame
import Shoc.Eth.Checksum
import Shoc.Rdma.ConnectionManager
import Shoc.Rdma.Routing
import Shoc.Engine.Resubmission
import Shoc.Context.StopAll
import Shoc.Comch.Release
import Shoc.Comch.Apart
import Shoc.Comch.Separation
import Shoc.Data.BitField
import Shoc.Data.Writes
import Shoc.Eth.Lenses
import Shoc.Eth.HeaderChecksum
import Shoc.Engine.Effort
import Shoc.Eth.Spans
import Shoc.Engine.Deferred
import Shoc.Devemu.Hotplug
import Shoc.Eth.Receiver
import Shoc.Rdma.CmWaiters
import Shoc.Comch.Agreement
import Shoc.Comch.Expiry
import Shoc.Memory.Buffer
import Shoc.Data.Extent
import Shoc.Memory.AlignedBlocks
import Shoc.Memory.Assignment
import Shoc.Flow.GlobalCfg
import Shoc.Flow.ExtendedActions
import Shoc.Data.LittleEndian
import Shoc.Transition.RollingWindow
import Shoc.Samples.CompressFile
import Shoc.Samples.DmaTransfer
import Shoc.Samples.Erasure
import Shoc.Memory.Stock
import Shoc.Samples.DataTransfer
import Shoc.Samples.DataProgress
import Shoc.Data.Shares
import Shoc.Eth.Echo
import Shoc.Context.Lifetime
import Shoc.Context.SharedScope
import Shoc.Samples.PlainCompress
