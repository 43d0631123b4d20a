import NestedVisor.Word.Field
import NestedVisor.Journal.Record
import NestedVisor.Processor.Basic
import NestedVisor.Text.Quoted

/-!
What the host hypervisor reports about itself in its identification leaves.
-/

namespace NestedVisor.Hypercall

structure HostIdentity where
  maxLeaf : BitVec 32
  vendor : Vector (BitVec 8) 12
  interface : BitVec 32 := 0
  buildNumber : BitVec 32 := 0
  majorVersion : BitVec 16 := 0
  minorVersion : BitVec 16 := 0
  /-- The partition's privilege mask. -/
  privileges : Word := 0
  featuresEdx : BitVec 32 := 0
  deriving DecidableEq, Repr

namespace HostIdentity

def vendorLeaf : BitVec 32 := 0x40000000
def interfaceLeaf : BitVec 32 := 0x40000001
def versionLeaf : BitVec 32 := 0x40000002
def featureLeaf : BitVec 32 := 0x40000003

/-- The four bytes of a word, the lowest first. -/
def bytes (w : BitVec 32) : Vector (BitVec 8) 4 :=
  #v[w.extractLsb' 0 8, w.extractLsb' 8 8, w.extractLsb' 16 8, w.extractLsb' 24 8]

/--
Reads the leaves 0x40000000 to 0x40000003, those beyond the highest leaf as zeros; `none`
without the hypervisor-present bit.
-/
def query (p : Processor) : Option HostIdentity :=
  if (p.cpuid 1 0).ecx.getLsbD 31 then
    let head := p.cpuid vendorLeaf 0
    let maxLeaf := head.eax
    let leaf (n : BitVec 32) : CpuidLeaf := if n ≤ maxLeaf then p.cpuid n 0 else {}
    let version := leaf versionLeaf
    let features := leaf featureLeaf
    some {
      maxLeaf
      vendor := bytes head.ebx ++ bytes head.ecx ++ bytes head.edx
      interface := (leaf interfaceLeaf).eax
      buildNumber := version.eax
      majorVersion := version.ebx.extractLsb' 16 16
      minorVersion := version.ebx.extractLsb' 0 16
      privileges := features.ebx ++ features.eax
      featuresEdx := features.edx }
  else
    none

/-- The letters `Microsoft Hv`. -/
def hypervVendor : Vector (BitVec 8) 12 :=
  #v[0x4D, 0x69, 0x63, 0x72, 0x6F, 0x73, 0x6F, 0x66, 0x74, 0x20, 0x48, 0x76]

/-- The letters `Hv#1`. -/
def hypervInterface : BitVec 32 := 0x31237648

/-- Whether the host implements the Hyper-V hypercall interface. -/
def isHyperv (h : HostIdentity) : Bool :=
  h.vendor == hypervVendor && h.interface == hypervInterface

def hasXmmInput (h : HostIdentity) : Bool :=
  h.featuresEdx.getLsbD 4

/-! ## Text -/

/-- The vendor as quoted text, or a question mark when it is not UTF-8. -/
def vendorText (h : HostIdentity) : String :=
  let raw := ByteArray.mk (h.vendor.toArray.map fun b => UInt8.ofNat b.toNat)
  Text.quoted ((String.fromUTF8? raw).getD "?")

def record (h : HostIdentity) : Record :=
  ⟨.debug, s!"Host hypervisor: vendor={h.vendorText} interface={hexText h.interface.toNat} " ++
    s!"version={h.majorVersion.toNat}.{h.minorVersion.toNat} build={h.buildNumber.toNat}"⟩

end HostIdentity

end NestedVisor.Hypercall
