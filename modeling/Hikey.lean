import Hikey.Foundation.Bytes
import Hikey.Foundation.ColorTree
import Hikey.RbTree.Basic
import Hikey.RbTree.Links
import Hikey.RbTree.Insert
import Hikey.RbTree.Delete
import Hikey.RbTree.Remove
import Hikey.RbTree.Ordered
import Hikey.RbTree.Entry
import Hikey.Foundation.Tiling
import Hikey.Foundation.Run
import Hikey.Foundation.Window
import Hikey.Mem.Basic
import Hikey.Mem.Search
import Hikey.Mem.Invariant
import Hikey.Mem.Operations
import Hikey.Mem.FreeBytes
import Hikey.Mem.BestFit
import Hikey.Mem.Gaps
import Hikey.Mem.Shared
import Hikey.Sched.Basic
import Hikey.Sched.Shape
import Hikey.Sched.Queue
import Hikey.Msg
import Hikey.Io.Input
import Hikey.Io.Cursor
import Hikey.Io.Stream
import Hikey.Io.Output
import Hikey.Foundation.Program
import Hikey.Foundation.Total
import Hikey.Component.Base
import Hikey.Component.Codec
import Hikey.Component.Rules
import Hikey.Component.System
import Hikey.Component.Loops
import Hikey.Codec.Process
import Hikey.Codec.Schedule
import Hikey.Foundation.Ring
import Hikey.Foundation.Linked
import Hikey.Core.SessionId
import Hikey.Shmem.Basic
import Hikey.Shmem.Delivery
import Hikey.Shmem.Queue
import Hikey.Shmem.Pool
import Hikey.Shmem.Run
import Hikey.Shmem.Wakeup
import Hikey.Core.Client
import Hikey.Core.Dispatch
import Hikey.Io.Route
import Hikey.Io.RouteFails
import Hikey.Codec.Setup
import Hikey.Codec.SetupRun
import Hikey.Codec.Timebase
import Hikey.Component.Mixer
import Hikey.Mixer.Plugin
import Hikey.Mixer.Rules
import Hikey.Mixer.Frames
import Hikey.Mixer.States
import Hikey.Mixer.EndOfStream
import Hikey.Mixer.Received
import Hikey.Io.Stage
import Hikey.Io.Ended
import Hikey.Mixer.Tracks
import Hikey.Mixer.Ends
import Hikey.Mixer.Mixed
import Hikey.Mixer.MixedRun
import Hikey.Component.Pcm
import Hikey.Codec.Pcm
import Hikey.Codec.PcmCommands
import Hikey.Codec.PcmRun
import Hikey.Codec.PcmStored
import Hikey.Codec.PcmExecute
import Hikey.Codec.PcmMapping
import Hikey.Bluetooth.H4
import Hikey.Bluetooth.Uim
import Hikey.Core.Mutex
import Hikey.Core.MutexProgress
import Hikey.Gralloc960.Handle
import Hikey.Gralloc960.Reference
import Hikey.Gralloc960.IonAllocate
import Hikey.Gralloc960.IonAtomic
import Hikey.Gralloc960.BufferSize
import Hikey.Gralloc960.BufferAllocate
import Hikey.Gralloc960.Strides
import Hikey.Gralloc960.AfbcSize
import Hikey.Gralloc960.InitAfbc
import Hikey.Gralloc960.SelectFormat
import Hikey.Gralloc960.LockPlanes
import Hikey.Gralloc960.Dump
import Hikey.Gralloc.Locking
import Hikey.Foundation.Rows
import Hikey.Gralloc.YuvPlanes
import Hikey.Foundation.Patch
import Hikey.Loader.GenLoader
import Hikey.Power.Schedtune
import Hikey.Host.Proxy
import Hikey.Host.Accounted
import Hikey.Host.Routing
import Hikey.Host.Ipc
import Hikey.Host.ClientMap
import Hikey.Host.BufferPool
import Hikey.Host.Flow
import Hikey.Host.FlowCalls
import Hikey.Host.FlowRun
import Hikey.Component.Memory
import Hikey.Component.MemoryRun
import Hikey.Component.Allocates
import Hikey.Component.ExtParams
import Hikey.Component.ExtMessages
import Hikey.Component.ExtCommands
import Hikey.Foundation.BitPolynomial
import Hikey.Installer.BootDownload
import Hikey.Audio.Position
import Hikey.Audio.Device
import Hikey.Audio.DeviceCalls
import Hikey.Audio.DeviceRun
import Hikey.Foundation.Digits
import Hikey.Core.Vsprintf
import Hikey.Foundation.Slots
import Hikey.Gdb.Packet
import Hikey.Gdb.Framing
import Hikey.Gdb.Stub
import Hikey.Gdb.Registers
import Hikey.Gdb.Breakpoints
