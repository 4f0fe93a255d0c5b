import IgbDriver.Foundation.Prog
import IgbDriver.Foundation.Run
import IgbDriver.Foundation.Ring
import IgbDriver.Foundation.Tally
import IgbDriver.Foundation.Fields
import IgbDriver.Foundation.Bytes
import IgbDriver.Foundation.Refine
import IgbDriver.Foundation.Builds
import IgbDriver.Foundation.Plays
import IgbDriver.Init
import IgbDriver.System
import IgbDriver.Operations
import IgbDriver.Steps
import IgbDriver.Trace
import IgbDriver.TxView
import IgbDriver.TxRing
import IgbDriver.TxQueue
import IgbDriver.RxView
import IgbDriver.RxRing
import IgbDriver.Bringup
import IgbDriver.Booting
import IgbDriver.Boot
import IgbDriver.Platform
import IgbDriver.Transmit
import IgbDriver.Ownership
import IgbDriver.Conservation
import IgbDriver.Receive
import IgbDriver.Stores
import IgbDriver.PoolReturn
import IgbDriver.Draining
import IgbDriver.FailedInit
import IgbDriver.References
import IgbDriver.Registers
import IgbDriver.WriteBackFields
import IgbDriver.TxDescriptor
import IgbDriver.Link
import IgbDriver.RxQueue
import IgbDriver.Batches
import IgbDriver.Allocation
import IgbDriver.Rounds
import IgbDriver.Delivery
import IgbDriver.Placement
import IgbDriver.Fitting
import IgbDriver.Separation
import IgbDriver.Recycling
import IgbDriver.DescriptorFormat
import IgbDriver.WrapRing
import IgbDriver.Ivar
import IgbDriver.PoolBounds
import IgbDriver.Rejection
import IgbDriver.Nic
import IgbDriver.Exclusion
import IgbDriver.Housing
import IgbDriver.Custody
import IgbDriver.Payload
import IgbDriver.Traffic
import IgbDriver.Simulation
import IgbDriver.Refinement
import IgbDriver.Card
import IgbDriver.Returns
import IgbDriver.Robust
import IgbDriver.Aborts
import IgbDriver.Builds
import IgbDriver.Sizing
import IgbDriver.Startup
import IgbDriver.Calls
import IgbDriver.Histories
import IgbDriver.Fleet
import IgbDriver.Readiness
import IgbDriver.Headroom
