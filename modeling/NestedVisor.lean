import NestedVisor.Word.Basic
import NestedVisor.Word.Field
import NestedVisor.Journal.Record
import NestedVisor.Caching.MemoryType
import NestedVisor.Caching.Granularity
import NestedVisor.Hypercall.Status
import NestedVisor.Hypercall.Input
import NestedVisor.Hypercall.Result
import NestedVisor.Fault
import NestedVisor.Exit.Reason
import NestedVisor.Exit.Qualification
import NestedVisor.Guest.Registers
import NestedVisor.Guest.Vmcs
import NestedVisor.Guest.Injection
import NestedVisor.Processor.Basic
import NestedVisor.Exit.CpuidMask
import NestedVisor.Exit.MsrPolicy
import NestedVisor.Paging.Entry
import NestedVisor.Paging.Pool
import NestedVisor.Paging.Slot
import NestedVisor.Paging.Note
import NestedVisor.Paging.Ept
import NestedVisor.Sync.Backoff
import NestedVisor.Sync.Schedule
import NestedVisor.Sync.SpinLock
import NestedVisor.Sync.OnceCell
import NestedVisor.Paging.Store
import NestedVisor.Hypercall.Host
import NestedVisor.Hypercall.Relay
import NestedVisor.Text.CodeRanges
import NestedVisor.Text.Unprinted
import NestedVisor.Text.ExtendingMark
import NestedVisor.Text.Ignorable
import NestedVisor.Text.Quoted
import NestedVisor.Hypercall.Identity
import NestedVisor.Processor.AddressWidth
import NestedVisor.Caching.Range
import NestedVisor.Caching.Resolution
import NestedVisor.Caching.Snapshot
import NestedVisor.Topology.Affinity
import NestedVisor.Topology.Job
import NestedVisor.Topology.Partition
import NestedVisor.Console.Uart
import NestedVisor.Console.Logger
import NestedVisor.Policy
import NestedVisor.GuestCall.Code
import NestedVisor.Machine.Basic
import NestedVisor.Exit.ControlRegister
import NestedVisor.Exit.MsrAccess
import NestedVisor.Exit.Instruction
import NestedVisor.GuestCall.Serve
import NestedVisor.Exit.Vmcall
import NestedVisor.Exit.Service
import NestedVisor.Machine.Dispatch
import NestedVisor.Proofs.Paging.Address
import NestedVisor.Proofs.Paging.EntryBits
import NestedVisor.Proofs.Paging.Path
import NestedVisor.Proofs.Paging.Supply
import NestedVisor.Proofs.Paging.Update
import NestedVisor.Proofs.Paging.Mapping
import NestedVisor.Proofs.Paging.Request
import NestedVisor.Proofs.Paging.History
import NestedVisor.Proofs.Paging.Reversal
import NestedVisor.Proofs.Paging.Frames
import NestedVisor.Proofs.Paging.Accounting
import NestedVisor.Proofs.Paging.Memory
import NestedVisor.Proofs.Paging.Refinement
import NestedVisor.Proofs.Paging.PageCount
import NestedVisor.Proofs.Paging.Rollback
import NestedVisor.Proofs.Machine.Run
import NestedVisor.Proofs.GuestCall.Commit
import NestedVisor.Proofs.Paging.Answer
import NestedVisor.Proofs.Paging.Interleaving
import NestedVisor.Proofs.Exit.Course
import NestedVisor.Proofs.Exit.Instruction
import NestedVisor.Proofs.Exit.ControlRegister
import NestedVisor.Proofs.Exit.MsrAccess
import NestedVisor.Proofs.Exit.Vmcall
import NestedVisor.Proofs.Exit.Service
import NestedVisor.Proofs.Machine.Exit
import NestedVisor.Proofs.Exit.Frame
import NestedVisor.Proofs.Machine.Dispatch
import NestedVisor.Proofs.Machine.Teardown
import NestedVisor.Proofs.Caching.Dependence
import NestedVisor.Proofs.Machine.Typing
import NestedVisor.Proofs.Exit.Store
import NestedVisor.Proofs.Machine.Evolution
import NestedVisor.Proofs.Machine.Admission
import NestedVisor.Proofs.Machine.LongMode
import NestedVisor.Proofs.Machine.ReadBack
import NestedVisor.Proofs.Machine.Shadow
import NestedVisor.Proofs.Machine.MsrStore
import NestedVisor.Proofs.Machine.Forwarding
import NestedVisor.Proofs.Machine.Confinement
import NestedVisor.Proofs.Machine.Constancy
import NestedVisor.Proofs.Topology.Uniformity
import NestedVisor.Proofs.Processor.Likeness
import NestedVisor.Proofs.Exit.Blindness
import NestedVisor.Proofs.Machine.Noninterference
import NestedVisor.Proofs.Machine.LifeCycle
import NestedVisor.Proofs.Caching.Coverage
import NestedVisor.Proofs.Caching.Precedence
import NestedVisor.Proofs.Caching.Rounding
import NestedVisor.Proofs.Caching.Reordering
import NestedVisor.Proofs.Caching.Subpage
import NestedVisor.Proofs.Machine.Cacheability
import NestedVisor.Proofs.Hypercall.Layout
import NestedVisor.Proofs.Hypercall.Passes
import NestedVisor.Proofs.Hypercall.Repetition
import NestedVisor.Proofs.Paging.Agreement
import NestedVisor.Proofs.Topology.Nesting
import NestedVisor.Proofs.Machine.ParameterBlock
import NestedVisor.Proofs.Sync.Turns
import NestedVisor.Proofs.Sync.Initialization
import NestedVisor.Proofs.Machine.WidthReading
import NestedVisor.Proofs.Sync.Exclusion
import NestedVisor.Proofs.Sync.Serialization
import NestedVisor.Proofs.Console.Transmission
import NestedVisor.Proofs.Console.Stream
