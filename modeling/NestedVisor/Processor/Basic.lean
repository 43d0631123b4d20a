import NestedVisor.Word.Basic

/-!
The logical processor: its model-specific registers and its identification leaves.
-/

namespace NestedVisor

/-- The answer to one CPUID leaf. -/
structure CpuidLeaf where
  eax : BitVec 32 := 0
  ebx : BitVec 32 := 0
  ecx : BitVec 32 := 0
  edx : BitVec 32 := 0
  deriving DecidableEq, Repr

def CpuidLeaf.text (l : CpuidLeaf) : String :=
  s!"CpuIdResult \x7b eax: {hexText l.eax.toNat}, ebx: {hexText l.ebx.toNat}, " ++
    s!"ecx: {hexText l.ecx.toNat}, edx: {hexText l.edx.toNat} \x7d"

abbrev Msr := BitVec 32

namespace Msr

/-! ## Register numbers -/

def timeStampCounter : Msr := 0x10
def featureControl : Msr := 0x3A
def mtrrCapability : Msr := 0xFE
def sysenterCs : Msr := 0x174
def sysenterEsp : Msr := 0x175
def sysenterEip : Msr := 0x176
def debugctl : Msr := 0x1D9
def mtrrPhysBase0 : Msr := 0x200
def mtrrPhysMask0 : Msr := 0x201
def mtrrPhysMask15 : Msr := 0x21F
def mtrrFix64K00000 : Msr := 0x250
def mtrrFix16K80000 : Msr := 0x258
def mtrrFix16KA0000 : Msr := 0x259
def mtrrFix4KC0000 : Msr := 0x268
def mtrrFix4KF8000 : Msr := 0x26F
def pat : Msr := 0x277
def mtrrDefaultType : Msr := 0x2FF
def vmxCr0Fixed0 : Msr := 0x486
def vmxCr0Fixed1 : Msr := 0x487
def vmxCr4Fixed0 : Msr := 0x488
def vmxCr4Fixed1 : Msr := 0x489
def efer : Msr := 0xC0000080
def star : Msr := 0xC0000081
def lstar : Msr := 0xC0000082
def cstar : Msr := 0xC0000083
def fmask : Msr := 0xC0000084
def fsBase : Msr := 0xC0000100
def gsBase : Msr := 0xC0000101
def kernelGsBase : Msr := 0xC0000102
def tscAux : Msr := 0xC0000103

end Msr

structure Processor where
  msr : Msr → Word
  cpuid : BitVec 32 → BitVec 32 → CpuidLeaf

namespace Processor

/-- A processor whose registers and leaves are all zero. -/
def blank : Processor :=
  ⟨fun _ => 0, fun _ _ => {}⟩

instance : Inhabited Processor := ⟨blank⟩

def writeMsr (p : Processor) (register : Msr) (value : Word) : Processor :=
  { p with msr := fun r => if r = register then value else p.msr r }

@[simp] theorem msr_writeMsr_self (p : Processor) (register : Msr) (value : Word) :
    (p.writeMsr register value).msr register = value := by
  simp [writeMsr]

theorem msr_writeMsr_of_ne (p : Processor) {register other : Msr} (value : Word)
    (h : other ≠ register) : (p.writeMsr register value).msr other = p.msr other := by
  simp [writeMsr, h]

@[simp] theorem cpuid_writeMsr (p : Processor) (register : Msr) (value : Word) :
    (p.writeMsr register value).cpuid = p.cpuid := rfl

/-- The initial APIC id: the top byte of EBX of leaf 1. -/
def apicId (p : Processor) : BitVec 8 :=
  (p.cpuid 1 0).ebx.extractLsb' 24 8

end Processor

end NestedVisor
