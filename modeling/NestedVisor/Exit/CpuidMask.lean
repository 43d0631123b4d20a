import NestedVisor.Word.Field
import NestedVisor.Processor.Basic

/-!
CPUID leaves as the guest sees them: nested virtualization is hidden.
-/

namespace NestedVisor.Exit

def featureLeaf : BitVec 32 := 1
def hostRecommendationLeaf : BitVec 32 := 0x40000004
def hostNestedFeatureLeaf : BitVec 32 := 0x4000000A

/--
Clears the VMX bit of leaf 1, the enlightened control-structure bit of the host's
recommendations, and the whole leaf of nested features.
-/
def maskLeaf (leaf : BitVec 32) (answer : CpuidLeaf) : CpuidLeaf :=
  if leaf = featureLeaf then { answer with ecx := setFlag answer.ecx 5 false }
  else if leaf = hostRecommendationLeaf then { answer with eax := setFlag answer.eax 14 false }
  else if leaf = hostNestedFeatureLeaf then {}
  else answer

end NestedVisor.Exit
