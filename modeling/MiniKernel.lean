import MiniKernel.Kernel
import MiniKernel.Report
import MiniKernel.Proofs.Outcome
import MiniKernel.Proofs.Page.Members
import MiniKernel.Proofs.Page.Search
import MiniKernel.Proofs.Page.Allocator
import MiniKernel.Proofs.Page.Run
import MiniKernel.Proofs.Process.Table
import MiniKernel.Proofs.Schedule.Dispatch
import MiniKernel.Proofs.Schedule.WellFormed
import MiniKernel.Proofs.Schedule.Departure
import MiniKernel.Proofs.Schedule.Population
import MiniKernel.Proofs.System.Basic
import MiniKernel.Proofs.System.InOrder
import MiniKernel.Proofs.Process.Numbered
import MiniKernel.Proofs.System.Contexts
import MiniKernel.Proofs.Process.Stacks
import MiniKernel.Proofs.System.Ownership
import MiniKernel.Proofs.System.Accounting
import MiniKernel.Proofs.Schedule.Sleepers
import MiniKernel.Proofs.System.History
import MiniKernel.Proofs.System.Sleep
import MiniKernel.Proofs.System.Line
import MiniKernel.Proofs.Page.Keeping
import MiniKernel.Proofs.Page.Placement
import MiniKernel.Proofs.Page.Piecemeal
import MiniKernel.Proofs.Process.Lodging
import MiniKernel.Proofs.System.Shelter
import MiniKernel.Proofs.Schedule.Steady
import MiniKernel.Proofs.System.Upkeep
import MiniKernel.Proofs.System.Fence
import MiniKernel.Proofs.System.Escalation
import MiniKernel.Proofs.Schedule.Standing
import MiniKernel.Proofs.System.Census
import MiniKernel.Proofs.System.Effect
import MiniKernel.Proofs.Schedule.Moves
import MiniKernel.Proofs.System.Lawful
import MiniKernel.Proofs.System.Family
import MiniKernel.Proofs.Process.Descriptors
import MiniKernel.Proofs.System.Filing
import MiniKernel.Proofs.Kernel.Service
import MiniKernel.Proofs.Kernel.Reserved
import MiniKernel.Proofs.Kernel.Session
import MiniKernel.Proofs.Process.Links
import MiniKernel.Proofs.Schedule.Supply
import MiniKernel.Proofs.Kernel.LifeCycle
import MiniKernel.Proofs.Schedule.Request
import MiniKernel.Proofs.Schedule.Mask
import MiniKernel.Proofs.System.Reaping
import MiniKernel.Proofs.Schedule.Orderly
import MiniKernel.Proofs.Schedule.Twins
import MiniKernel.Proofs.System.Independence
import MiniKernel.Proofs.System.Succession
import MiniKernel.Proofs.Process.Footing
import MiniKernel.Proofs.System.Creation
import MiniKernel.Proofs.System.Reclaiming
import MiniKernel.Proofs.Page.Addresses
import MiniKernel.Proofs.Schedule.Ticks
import MiniKernel.Proofs.Log.Ring
import MiniKernel.Proofs.Text.Reading
import MiniKernel.Proofs.Registers.Dump
import MiniKernel.Proofs.Process.Listing
import MiniKernel.Proofs.Clock.Uptime
import MiniKernel.Proofs.Page.Checked
import MiniKernel.Proofs.Page.Changes
import MiniKernel.Proofs.Schedule.Buffered
import MiniKernel.Proofs.Schedule.Arrivals
import MiniKernel.Proofs.Process.Bindings
