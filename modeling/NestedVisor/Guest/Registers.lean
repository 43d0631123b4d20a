import NestedVisor.Word.Basic
import NestedVisor.Fault

/-!
The guest's registers as an exit captures them.

`Gpr` lists the general-purpose registers in the order of their instruction encoding, which is
also how exit qualifications name them.  The block of a fast hypercall is the register image
RDX, R8, XMM0 low, XMM0 high, …, XMM5 high.
-/

namespace NestedVisor

inductive Gpr where
  | rax
  | rcx
  | rdx
  | rbx
  | rsp
  | rbp
  | rsi
  | rdi
  | r8
  | r9
  | r10
  | r11
  | r12
  | r13
  | r14
  | r15
  deriving DecidableEq, Repr

namespace Gpr

/-- The general-purpose registers in encoding order. -/
def all : List Gpr :=
  [.rax, .rcx, .rdx, .rbx, .rsp, .rbp, .rsi, .rdi, .r8, .r9, .r10, .r11, .r12, .r13, .r14, .r15]

def ofIndex? (index : Nat) : Option Gpr :=
  all[index]?

def name : Gpr → String
  | .rax => "rax"
  | .rcx => "rcx"
  | .rdx => "rdx"
  | .rbx => "rbx"
  | .rsp => "rsp"
  | .rbp => "rbp"
  | .rsi => "rsi"
  | .rdi => "rdi"
  | .r8 => "r8"
  | .r9 => "r9"
  | .r10 => "r10"
  | .r11 => "r11"
  | .r12 => "r12"
  | .r13 => "r13"
  | .r14 => "r14"
  | .r15 => "r15"

/-- Four bits always name a register. -/
theorem ofIndex?_toNat_isSome (index : BitVec 4) : (ofIndex? index.toNat).isSome := by
  have : index.toNat < all.length := index.isLt
  simp [ofIndex?, this]

end Gpr

abbrev FastBlock := Vector Word 14

structure Registers where
  rax : Word := 0
  rcx : Word := 0
  rdx : Word := 0
  rbx : Word := 0
  rsp : Word := 0
  rbp : Word := 0
  rsi : Word := 0
  rdi : Word := 0
  r8 : Word := 0
  r9 : Word := 0
  r10 : Word := 0
  r11 : Word := 0
  r12 : Word := 0
  r13 : Word := 0
  r14 : Word := 0
  r15 : Word := 0
  rflags : Word := 0
  rip : Word := 0
  /-- The low and high half of XMM0 to XMM5. -/
  xmm : Vector (Word × Word) 6 := Vector.replicate 6 (0, 0)
  deriving DecidableEq, Repr

namespace Registers

/-! ## General-purpose registers -/

def get (r : Registers) : Gpr → Word
  | .rax => r.rax
  | .rcx => r.rcx
  | .rdx => r.rdx
  | .rbx => r.rbx
  | .rsp => r.rsp
  | .rbp => r.rbp
  | .rsi => r.rsi
  | .rdi => r.rdi
  | .r8 => r.r8
  | .r9 => r.r9
  | .r10 => r.r10
  | .r11 => r.r11
  | .r12 => r.r12
  | .r13 => r.r13
  | .r14 => r.r14
  | .r15 => r.r15

def set (r : Registers) (g : Gpr) (value : Word) : Registers :=
  match g with
  | .rax => { r with rax := value }
  | .rcx => { r with rcx := value }
  | .rdx => { r with rdx := value }
  | .rbx => { r with rbx := value }
  | .rsp => { r with rsp := value }
  | .rbp => { r with rbp := value }
  | .rsi => { r with rsi := value }
  | .rdi => { r with rdi := value }
  | .r8 => { r with r8 := value }
  | .r9 => { r with r9 := value }
  | .r10 => { r with r10 := value }
  | .r11 => { r with r11 := value }
  | .r12 => { r with r12 := value }
  | .r13 => { r with r13 := value }
  | .r14 => { r with r14 := value }
  | .r15 => { r with r15 := value }

@[simp] theorem get_set_self (r : Registers) (g : Gpr) (value : Word) :
    (r.set g value).get g = value := by
  cases g <;> rfl

theorem get_set_of_ne (r : Registers) {g h : Gpr} (value : Word) (hne : h ≠ g) :
    (r.set g value).get h = r.get h := by
  cases g <;> cases h <;> first | rfl | exact absurd rfl hne

@[simp] theorem rip_set (r : Registers) (g : Gpr) (value : Word) :
    (r.set g value).rip = r.rip := by
  cases g <;> rfl

@[simp] theorem rflags_set (r : Registers) (g : Gpr) (value : Word) :
    (r.set g value).rflags = r.rflags := by
  cases g <;> rfl

@[simp] theorem xmm_set (r : Registers) (g : Gpr) (value : Word) :
    (r.set g value).xmm = r.xmm := by
  cases g <;> rfl

/-- The register with this encoding, or the fault that names the index. -/
def gprAt (index : Word) : Except Fault Gpr :=
  match Gpr.ofIndex? index.toNat with
  | some g => .ok g
  | none => .error (.invalidRegister index)

/-! ## The operand pair of RDMSR and WRMSR -/

/-- EDX:EAX as one value. -/
def edxEax (r : Registers) : Word :=
  r.rdx.setWidth 32 ++ r.rax.setWidth 32

/-- Splits a value into EDX:EAX and clears the upper halves of RAX and RDX. -/
def withEdxEax (r : Registers) (value : Word) : Registers :=
  { r with
    rax := (value.extractLsb' 0 32).setWidth 64
    rdx := (value.extractLsb' 32 32).setWidth 64 }

@[simp] theorem edxEax_withEdxEax (r : Registers) (value : Word) :
    (r.withEdxEax value).edxEax = value := by
  have happend (high low : BitVec 32) (i : Nat) : (high ++ low : Word).getLsbD i =
      if i < 32 then low.getLsbD i else high.getLsbD (i - 32) := BitVec.getLsbD_append
  apply BitVec.eq_of_getLsbD_eq
  intro i hi
  rw [edxEax, happend]
  by_cases h : i < 32
  · simp [withEdxEax, h]
  · simp [withEdxEax, h, hi, show 32 + (i - 32) = i by omega, show i - 32 < 32 by omega]

/-! ## The block of a fast hypercall -/

def fastBlock (r : Registers) : FastBlock :=
  #v[r.rdx, r.r8, r.xmm[0].1, r.xmm[0].2, r.xmm[1].1, r.xmm[1].2, r.xmm[2].1, r.xmm[2].2,
    r.xmm[3].1, r.xmm[3].2, r.xmm[4].1, r.xmm[4].2, r.xmm[5].1, r.xmm[5].2]

def withFastBlock (r : Registers) (block : FastBlock) : Registers :=
  { r with
    rdx := block[0]
    r8 := block[1]
    xmm := #v[(block[2], block[3]), (block[4], block[5]), (block[6], block[7]),
      (block[8], block[9]), (block[10], block[11]), (block[12], block[13])] }

/-! ## All registers -/

/-- Every register by name, with its words. -/
def toList (r : Registers) : List (String × List Word) :=
  Gpr.all.map (fun g => (g.name, [r.get g])) ++ [("rflags", [r.rflags]), ("rip", [r.rip])] ++
    (r.xmm.toList.zipIdx.map fun ((low, high), i) => (s!"xmm{i}", [low, high]))

end Registers

end NestedVisor
