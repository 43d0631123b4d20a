import NestedVisor.Word.Field
import NestedVisor.Caching.MemoryType

/-!
Entries of the extended page tables, bit for bit.
-/

namespace NestedVisor.Paging

structure Entry where
  word : Word
  deriving DecidableEq, Repr

namespace Entry

def readable (e : Entry) : Bool := e.word.getLsbD 0
def writable (e : Entry) : Bool := e.word.getLsbD 1
def executable (e : Entry) : Bool := e.word.getLsbD 2
def memoryType (e : Entry) : BitVec 3 := e.word.extractLsb' 3 3
def ignorePat (e : Entry) : Bool := e.word.getLsbD 6
def large (e : Entry) : Bool := e.word.getLsbD 7
def frameNumber (e : Entry) : BitVec 40 := e.word.extractLsb' 12 40

def withReadable (e : Entry) (b : Bool) : Entry := ⟨setFlag e.word 0 b⟩
def withWritable (e : Entry) (b : Bool) : Entry := ⟨setFlag e.word 1 b⟩
def withExecutable (e : Entry) (b : Bool) : Entry := ⟨setFlag e.word 2 b⟩
def withMemoryType (e : Entry) (n : BitVec 8) : Entry := ⟨setField e.word 3 (n.setWidth 3)⟩
def withIgnorePat (e : Entry) (b : Bool) : Entry := ⟨setFlag e.word 6 b⟩
def withLarge (e : Entry) (b : Bool) : Entry := ⟨setFlag e.word 7 b⟩
def withFrameNumber (e : Entry) (n : Word) : Entry := ⟨setField e.word 12 (n.setWidth 40)⟩

/-- An entry is present when it grants any access. -/
def present (e : Entry) : Bool :=
  e.word.extractLsb' 0 3 != 0

/-- The physical address in bits 51 to 12. -/
def address (e : Entry) : Word :=
  e.frameNumber.setWidth 64 <<< 12

def withFullAccess (e : Entry) : Entry :=
  ((e.withReadable true).withWritable true).withExecutable true

/-- The entry that refers to the next table. -/
def toTable (frame : Word) : Entry :=
  (withFullAccess ⟨0⟩).withFrameNumber (frame >>> 12)

/-- The entry that maps a page; address bits above the frame number are dropped. -/
def toPage (backing : Word) (type : MemoryType) (large : Bool) : Entry :=
  (((withFullAccess ⟨0⟩).withMemoryType type.code).withLarge large).withFrameNumber
    (backing >>> 12)

def text (e : Entry) : String :=
  layoutText "Entry" e.word.toNat
    [("readable", .flag e.readable), ("writable", .flag e.writable),
      ("executable", .flag e.executable), ("memory_type", .number e.memoryType.toNat),
      ("ignore_pat", .flag e.ignorePat), ("large", .flag e.large),
      ("pfn", .number e.frameNumber.toNat)]

end Entry

end NestedVisor.Paging
