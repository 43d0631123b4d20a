import NestedVisor.Exit.CpuidMask
import NestedVisor.Machine.Basic

/-!
Exits of single instructions: CPUID, HLT, WBINVD and INVD, INVLPG.
-/

namespace NestedVisor.Exit

open Machine

/-- Answers a leaf of the processor, masked. -/
def serveCpuid : Handler Outcome := do
  let m ← get
  let leaf : BitVec 32 := m.registers.rax.setWidth 32
  let subleaf : BitVec 32 := m.registers.rcx.setWidth 32
  let answer := maskLeaf leaf (m.processor.cpuid leaf subleaf)
  log ⟨.trace, s!"CPUID {hexText leaf.toNat}:{hexText subleaf.toNat} -> {answer.text}"⟩
  modifyRegisters fun r =>
    { r with
      rax := answer.eax.setWidth 64
      rbx := answer.ebx.setWidth 64
      rcx := answer.ecx.setWidth 64
      rdx := answer.edx.setWidth 64 }
  return .advance

/-- Skips HLT; under the idle policy the virtual CPU waits for an event before it goes on. -/
def serveHalt : Handler Outcome := do
  match (← get).policy.halt with
  | .trap => log ⟨.trace, "HLT trapped"⟩
  | .idle =>
      log ⟨.trace, "HLT: parking the virtual CPU"⟩
      writeField .activityState activityHlt
  return .advance

/-- INVD is served as WBINVD: dirty lines are never discarded. -/
def serveCacheFlush (reason : Reason) : Handler Outcome := do
  match (← get).policy.cache with
  | .emulate => log ⟨.trace, s!"{reason.name} emulated as a no-op"⟩
  | .writeBackInvalidate =>
      log ⟨.trace, s!"{reason.name}: executing WBINVD"⟩
      emit .writeBackCaches
  return .advance

/-- Drops the guest's translation of the address in the exit qualification. -/
def serveInvlpg : Handler Outcome := do
  let address ← readExitQualification
  let vpid := (← get).policy.vpid
  log ⟨.trace, s!"INVLPG {hexText address.toNat} (VPID {vpid.toNat})"⟩
  emit (.invalidateAddress vpid address)
  return .advance

end NestedVisor.Exit
