import NestedVisor.Word.Basic

/-!
Basic exit reasons: why the guest gave up control.

`Reason.ofField?` reads the basic reason from the full exit-reason field, whose upper half holds
flags.
-/

namespace NestedVisor.Exit

inductive Reason where
  | exceptionOrNmi
  | externalInterrupt
  | tripleFault
  | initSignal
  | startupIpi
  | ioSystemManagementInterrupt
  | otherSmi
  | interruptWindow
  | nmiWindow
  | taskSwitch
  | cpuid
  | getsec
  | hlt
  | invd
  | invlpg
  | rdpmc
  | rdtsc
  | rsm
  | vmcall
  | vmclear
  | vmlaunch
  | vmptrld
  | vmptrst
  | vmread
  | vmresume
  | vmwrite
  | vmxoff
  | vmxon
  | controlRegisterAccess
  | movDr
  | ioInstruction
  | rdmsr
  | wrmsr
  | entryFailureInvalidGuestState
  | entryFailureMsrLoading
  | mwait
  | monitorTrapFlag
  | monitor
  | pause
  | entryFailureMachineCheck
  | tprBelowThreshold
  | apicAccess
  | virtualizedEoi
  | accessToGdtrOrIdtr
  | accessToLdtrOrTr
  | eptViolation
  | eptMisconfiguration
  | invept
  | rdtscp
  | preemptionTimerExpired
  | invvpid
  | wbinvdOrWbnoinvd
  | xsetbv
  | apicWrite
  | rdrand
  | invpcid
  | vmfunc
  | encls
  | rdseed
  | pageModificationLogFull
  | xsaves
  | xrstors
  | pconfig
  | sppRelatedEvent
  | umwait
  | tpause
  | loadiwkey
  | enclv
  | enqcmd
  | enqcmds
  | busLock
  | instructionTimeout
  | seamcall
  | tdcall
  deriving DecidableEq, Repr

namespace Reason

/-- Every exit reason, in numeric order. -/
def all : List Reason :=
  [.exceptionOrNmi, .externalInterrupt, .tripleFault, .initSignal, .startupIpi,
    .ioSystemManagementInterrupt, .otherSmi, .interruptWindow, .nmiWindow, .taskSwitch, .cpuid,
    .getsec, .hlt, .invd, .invlpg, .rdpmc, .rdtsc, .rsm, .vmcall, .vmclear, .vmlaunch, .vmptrld,
    .vmptrst, .vmread, .vmresume, .vmwrite, .vmxoff, .vmxon, .controlRegisterAccess, .movDr,
    .ioInstruction, .rdmsr, .wrmsr, .entryFailureInvalidGuestState, .entryFailureMsrLoading,
    .mwait, .monitorTrapFlag, .monitor, .pause, .entryFailureMachineCheck, .tprBelowThreshold,
    .apicAccess, .virtualizedEoi, .accessToGdtrOrIdtr, .accessToLdtrOrTr, .eptViolation,
    .eptMisconfiguration, .invept, .rdtscp, .preemptionTimerExpired, .invvpid, .wbinvdOrWbnoinvd,
    .xsetbv, .apicWrite, .rdrand, .invpcid, .vmfunc, .encls, .rdseed, .pageModificationLogFull,
    .xsaves, .xrstors, .pconfig, .sppRelatedEvent, .umwait, .tpause, .loadiwkey, .enclv, .enqcmd,
    .enqcmds, .busLock, .instructionTimeout, .seamcall, .tdcall]

/-- The architectural number; 35, 38 and 42 name no reason. -/
def code : Reason → Nat
  | .exceptionOrNmi => 0
  | .externalInterrupt => 1
  | .tripleFault => 2
  | .initSignal => 3
  | .startupIpi => 4
  | .ioSystemManagementInterrupt => 5
  | .otherSmi => 6
  | .interruptWindow => 7
  | .nmiWindow => 8
  | .taskSwitch => 9
  | .cpuid => 10
  | .getsec => 11
  | .hlt => 12
  | .invd => 13
  | .invlpg => 14
  | .rdpmc => 15
  | .rdtsc => 16
  | .rsm => 17
  | .vmcall => 18
  | .vmclear => 19
  | .vmlaunch => 20
  | .vmptrld => 21
  | .vmptrst => 22
  | .vmread => 23
  | .vmresume => 24
  | .vmwrite => 25
  | .vmxoff => 26
  | .vmxon => 27
  | .controlRegisterAccess => 28
  | .movDr => 29
  | .ioInstruction => 30
  | .rdmsr => 31
  | .wrmsr => 32
  | .entryFailureInvalidGuestState => 33
  | .entryFailureMsrLoading => 34
  | .mwait => 36
  | .monitorTrapFlag => 37
  | .monitor => 39
  | .pause => 40
  | .entryFailureMachineCheck => 41
  | .tprBelowThreshold => 43
  | .apicAccess => 44
  | .virtualizedEoi => 45
  | .accessToGdtrOrIdtr => 46
  | .accessToLdtrOrTr => 47
  | .eptViolation => 48
  | .eptMisconfiguration => 49
  | .invept => 50
  | .rdtscp => 51
  | .preemptionTimerExpired => 52
  | .invvpid => 53
  | .wbinvdOrWbnoinvd => 54
  | .xsetbv => 55
  | .apicWrite => 56
  | .rdrand => 57
  | .invpcid => 58
  | .vmfunc => 59
  | .encls => 60
  | .rdseed => 61
  | .pageModificationLogFull => 62
  | .xsaves => 63
  | .xrstors => 64
  | .pconfig => 65
  | .sppRelatedEvent => 66
  | .umwait => 67
  | .tpause => 68
  | .loadiwkey => 69
  | .enclv => 70
  | .enqcmd => 71
  | .enqcmds => 72
  | .busLock => 73
  | .instructionTimeout => 74
  | .seamcall => 75
  | .tdcall => 76

def ofCode? (code : Nat) : Option Reason :=
  all.find? fun r => r.code == code

/-- The basic reason is the low half of the exit-reason field. -/
def ofField? (field : BitVec 64) : Option Reason :=
  ofCode? (field.extractLsb' 0 16).toNat

def name : Reason → String
  | .exceptionOrNmi => "ExceptionOrNmi"
  | .externalInterrupt => "ExternalInterrupt"
  | .tripleFault => "TripleFault"
  | .initSignal => "InitSignal"
  | .startupIpi => "StartupIpi"
  | .ioSystemManagementInterrupt => "IoSystemManagementInterrupt"
  | .otherSmi => "OtherSmi"
  | .interruptWindow => "InterruptWindow"
  | .nmiWindow => "NmiWindow"
  | .taskSwitch => "TaskSwitch"
  | .cpuid => "Cpuid"
  | .getsec => "Getsec"
  | .hlt => "Hlt"
  | .invd => "Invd"
  | .invlpg => "Invlpg"
  | .rdpmc => "Rdpmc"
  | .rdtsc => "Rdtsc"
  | .rsm => "Rsm"
  | .vmcall => "Vmcall"
  | .vmclear => "Vmclear"
  | .vmlaunch => "Vmlaunch"
  | .vmptrld => "Vmptrld"
  | .vmptrst => "Vmptrst"
  | .vmread => "Vmread"
  | .vmresume => "Vmresume"
  | .vmwrite => "Vmwrite"
  | .vmxoff => "Vmxoff"
  | .vmxon => "Vmxon"
  | .controlRegisterAccess => "ControlRegisterAccesses"
  | .movDr => "MovDr"
  | .ioInstruction => "IoInstruction"
  | .rdmsr => "Rdmsr"
  | .wrmsr => "Wrmsr"
  | .entryFailureInvalidGuestState => "VmEntryFailureInvalidGuestState"
  | .entryFailureMsrLoading => "VmEntryFailureMsrLoading"
  | .mwait => "Mwait"
  | .monitorTrapFlag => "MonitorTrapFlag"
  | .monitor => "Monitor"
  | .pause => "Pause"
  | .entryFailureMachineCheck => "VmEntryFailureMachineCheckEvent"
  | .tprBelowThreshold => "TprBelowThreshold"
  | .apicAccess => "ApicAccess"
  | .virtualizedEoi => "VirtualizedEoi"
  | .accessToGdtrOrIdtr => "AccessToGdtrOrIdtr"
  | .accessToLdtrOrTr => "AccessToLdtrOrTr"
  | .eptViolation => "EptViolation"
  | .eptMisconfiguration => "EptMisconfiguration"
  | .invept => "Invept"
  | .rdtscp => "Rdtscp"
  | .preemptionTimerExpired => "VmxPreemptionTimerExpired"
  | .invvpid => "Invvpid"
  | .wbinvdOrWbnoinvd => "WbinvdOrWbnoinvd"
  | .xsetbv => "Xsetbv"
  | .apicWrite => "ApicWrite"
  | .rdrand => "Rdrand"
  | .invpcid => "Invpcid"
  | .vmfunc => "Vmfunc"
  | .encls => "Encls"
  | .rdseed => "Rdseed"
  | .pageModificationLogFull => "PageModificationLogFull"
  | .xsaves => "Xsaves"
  | .xrstors => "Xrstors"
  | .pconfig => "Pconfig"
  | .sppRelatedEvent => "SppRelatedEvent"
  | .umwait => "Umwait"
  | .tpause => "Tpause"
  | .loadiwkey => "Loadiwkey"
  | .enclv => "Enclv"
  | .enqcmd => "Enqcmd"
  | .enqcmds => "Enqcmds"
  | .busLock => "BusLock"
  | .instructionTimeout => "InstructionTimeout"
  | .seamcall => "Seamcall"
  | .tdcall => "Tdcall"

@[simp] theorem ofCode?_code (r : Reason) : ofCode? r.code = some r := by
  cases r <;> rfl

theorem code_of_ofCode? {n : Nat} {r : Reason} (h : ofCode? n = some r) : r.code = n := by
  simpa using List.find?_some h

theorem mem_all (r : Reason) : r ∈ all := by
  cases r <;> decide

end Reason

end NestedVisor.Exit
