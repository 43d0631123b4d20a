import NestedVisor.Word.Basic

/-!
Memory types: how accesses to a range of physical memory are cached.
-/

namespace NestedVisor

/--
The memory types that range registers and paging entries encode.  `unspecified` stands for a
reserved encoding and for a region to which no single type applies.
-/
inductive MemoryType where
  | uncacheable
  | writeCombining
  | writeThrough
  | writeProtected
  | writeBack
  | unspecified
  deriving DecidableEq, Repr

namespace MemoryType

def code : MemoryType → BitVec 8
  | .uncacheable => 0
  | .writeCombining => 1
  | .writeThrough => 4
  | .writeProtected => 5
  | .writeBack => 6
  | .unspecified => 0xFF

/-- Every reserved code decodes to `unspecified`. -/
def ofCode (code : Word) : MemoryType :=
  if code = 0 then .uncacheable
  else if code = 1 then .writeCombining
  else if code = 4 then .writeThrough
  else if code = 5 then .writeProtected
  else if code = 6 then .writeBack
  else .unspecified

def name : MemoryType → String
  | .uncacheable => "Uncacheable"
  | .writeCombining => "WriteCombining"
  | .writeThrough => "WriteThrough"
  | .writeProtected => "WriteProtected"
  | .writeBack => "WriteBack"
  | .unspecified => "Unspecified"

@[simp] theorem ofCode_code (t : MemoryType) : ofCode (t.code.setWidth 64) = t := by
  cases t <;> rfl

end MemoryType

end NestedVisor
