import Mathlib.Data.Nat.Bitwise

set_option autoImplicit false

/- Sv39 addresses and page numbers (`os/src/memory/address.rs`, `os/src/config.rs`). -/

namespace ChOs

def pageSize : Nat := 0x1000
def pageSizeBits : Nat := 0xc
def memoryEnd : Nat := 0x80800000
def kernelStackSize : Nat := 4096 * 2
def userStackSize : Nat := 4096 * 2
/-- `usize::MAX - PAGE_SIZE + 1`. -/
def trampoline : Nat := (2 ^ 64 - 1) - pageSize + 1
def trapContext : Nat := trampoline - pageSize

def paWidthSv39 : Nat := 56
def ppnWidthSv39 : Nat := paWidthSv39 - pageSizeBits
def vaWidthSv39 : Nat := 39
def vpnWidthSv39 : Nat := vaWidthSv39 - pageSizeBits

@[ext] structure PhysAddr where
  val : Nat
  deriving DecidableEq, Repr

@[ext] structure VirtAddr where
  val : Nat
  deriving DecidableEq, Repr

@[ext] structure PhysPageNum where
  val : Nat
  deriving DecidableEq, Repr

structure VirtPageNum where
  val : Nat
  deriving DecidableEq, Repr

/-- `From<usize> for PhysAddr`. -/
def PhysAddr.fromUsize (v : Nat) : PhysAddr := ⟨v &&& ((1 <<< paWidthSv39) - 1)⟩

/-- `From<usize> for PhysPageNum`. -/
def PhysPageNum.fromUsize (v : Nat) : PhysPageNum := ⟨v &&& ((1 <<< ppnWidthSv39) - 1)⟩

/-- `From<usize> for VirtAddr`. -/
def VirtAddr.fromUsize (v : Nat) : VirtAddr := ⟨v &&& ((1 <<< vaWidthSv39) - 1)⟩

/-- `From<usize> for VirtPageNum`. -/
def VirtPageNum.fromUsize (v : Nat) : VirtPageNum := ⟨v &&& ((1 <<< vpnWidthSv39) - 1)⟩

/-- `From<PhysPageNum> for PhysAddr`: a shift by `PAGE_SIZE_BITS`. -/
def PhysPageNum.toPhysAddr (v : PhysPageNum) : PhysAddr := ⟨(v.val <<< pageSizeBits) % 2 ^ 64⟩

/-- `From<VirtPageNum> for VirtAddr`. -/
def VirtPageNum.toVirtAddr (v : VirtPageNum) : VirtAddr := ⟨(v.val <<< pageSizeBits) % 2 ^ 64⟩

def PhysAddr.pageOffset (self : PhysAddr) : Nat := self.val &&& (pageSize - 1)
def PhysAddr.floor (self : PhysAddr) : PhysPageNum := ⟨self.val / pageSize⟩
def PhysAddr.ceil (self : PhysAddr) : PhysPageNum :=
  ⟨((self.val + (2 ^ 64 - 1)) % 2 ^ 64 + pageSize) % 2 ^ 64 / pageSize⟩

def VirtAddr.pageOffset (self : VirtAddr) : Nat := self.val &&& (pageSize - 1)
def VirtAddr.floor (self : VirtAddr) : VirtPageNum := ⟨self.val / pageSize⟩
/-- `(self.0 - 1 + PAGE_SIZE) / PAGE_SIZE`, wrapping: the ceiling of address 0 is page 0. -/
def VirtAddr.ceil (self : VirtAddr) : VirtPageNum :=
  ⟨((self.val + (2 ^ 64 - 1)) % 2 ^ 64 + pageSize) % 2 ^ 64 / pageSize⟩
def VirtAddr.aligned (self : VirtAddr) : Bool := self.pageOffset == 0

/-- `From<VirtAddr> for VirtPageNum`: `assert_eq!(v.page_offset(), 0)`, then `floor`. -/
def VirtAddr.toVirtPageNum (v : VirtAddr) : Option VirtPageNum :=
  if v.pageOffset = 0 then some v.floor else none

/-- `StepByOne for VirtPageNum`. Page numbers derived from addresses stay below
`2^52`, so the increment never wraps. -/
def VirtPageNum.step (self : VirtPageNum) : VirtPageNum := ⟨self.val + 1⟩

/-- `VirtPageNum::indexes`: the loop `for i in (0..3).rev()` takes nine bits at a
time from the low end, so the result lists the three page-table indexes from the
root level down. -/
def VirtPageNum.indexes (self : VirtPageNum) : List Nat :=
  ((List.range 3).reverse.foldl
    (fun (acc : List Nat × Nat) i => (acc.1.set i (acc.2 &&& 511), acc.2 >>> 9))
    ([0, 0, 0], self.val)).1

section Conversions

theorem mask_eq_mod (v width : Nat) : v &&& ((1 <<< width) - 1) = v % 2 ^ width := by
  rw [Nat.shiftLeft_eq, Nat.one_mul, Nat.and_two_pow_sub_one_eq_mod]

@[simp] theorem PhysAddr.fromUsize_val (v : Nat) : (PhysAddr.fromUsize v).val = v % 2 ^ 56 :=
  mask_eq_mod v 56

@[simp] theorem PhysPageNum.fromUsize_val (v : Nat) :
    (PhysPageNum.fromUsize v).val = v % 2 ^ 44 :=
  mask_eq_mod v 44

@[simp] theorem VirtAddr.fromUsize_val (v : Nat) : (VirtAddr.fromUsize v).val = v % 2 ^ 39 :=
  mask_eq_mod v 39

@[simp] theorem VirtPageNum.fromUsize_val (v : Nat) :
    (VirtPageNum.fromUsize v).val = v % 2 ^ 27 :=
  mask_eq_mod v 27

@[simp] theorem PhysPageNum.toPhysAddr_val (v : PhysPageNum) :
    v.toPhysAddr.val = v.val * 4096 % 2 ^ 64 := by
  simp [PhysPageNum.toPhysAddr, pageSizeBits, Nat.shiftLeft_eq]

@[simp] theorem VirtPageNum.toVirtAddr_val (v : VirtPageNum) :
    v.toVirtAddr.val = v.val * 4096 % 2 ^ 64 := by
  simp [VirtPageNum.toVirtAddr, pageSizeBits, Nat.shiftLeft_eq]

@[simp] theorem VirtAddr.pageOffset_eq (va : VirtAddr) : va.pageOffset = va.val % 4096 := by
  have mask := mask_eq_mod va.val 12
  simp only [Nat.shiftLeft_eq, Nat.one_mul] at mask
  exact mask

@[simp] theorem PhysAddr.pageOffset_eq (pa : PhysAddr) : pa.pageOffset = pa.val % 4096 := by
  have mask := mask_eq_mod pa.val 12
  simp only [Nat.shiftLeft_eq, Nat.one_mul] at mask
  exact mask

@[simp] theorem VirtAddr.floor_val (va : VirtAddr) : va.floor.val = va.val / 4096 := rfl

@[simp] theorem VirtPageNum.step_val (vpn : VirtPageNum) : vpn.step.val = vpn.val + 1 := rfl

theorem VirtAddr.ceil_val (va : VirtAddr) (positive : 0 < va.val)
    (small : va.val < 2 ^ 64 - 4096) : va.ceil.val = (va.val + 4095) / 4096 := by
  have wrap : ((va.val + (2 ^ 64 - 1)) % 2 ^ 64 + 4096) % 2 ^ 64 = va.val + 4095 := by
    omega
  simp only [VirtAddr.ceil, pageSize, wrap]

theorem VirtPageNum.indexes_eq (vpn : VirtPageNum) :
    vpn.indexes = [vpn.val / 2 ^ 18 % 512, vpn.val / 2 ^ 9 % 512, vpn.val % 512] := by
  have field : ∀ v : Nat, v &&& 511 = v % 512 := fun v => Nat.and_two_pow_sub_one_eq_mod v 9
  simp [VirtPageNum.indexes, List.range_succ, field, Nat.shiftRight_eq_div_pow,
    Nat.div_div_eq_div_mul]

theorem VirtPageNum.indexes_injective (vpn other : VirtPageNum)
    (small : vpn.val < 2 ^ 27) (smallOther : other.val < 2 ^ 27)
    (same : vpn.indexes = other.indexes) : vpn = other := by
  rw [VirtPageNum.indexes_eq, VirtPageNum.indexes_eq] at same
  simp only [List.cons.injEq, and_true] at same
  obtain ⟨top, middle, low⟩ := same
  cases vpn
  cases other
  simp only [VirtPageNum.mk.injEq] at *
  omega

end Conversions

end ChOs
