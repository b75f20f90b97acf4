import ChOs.Memory.FrameAllocator
import ChOs.Panic

set_option autoImplicit false

/- The Sv39 page table (`os/src/memory/page_table.rs`). -/

namespace ChOs

open ByteMemory

/-- `PTEFlags`, a `bitflags` set over a `u8`. -/
structure PTEFlags where
  bits : UInt8
  deriving DecidableEq, Repr

namespace PTEFlags

def V : PTEFlags := ⟨(1 : UInt8) <<< 0⟩
def R : PTEFlags := ⟨(1 : UInt8) <<< 1⟩
def W : PTEFlags := ⟨(1 : UInt8) <<< 2⟩
def X : PTEFlags := ⟨(1 : UInt8) <<< 3⟩
def U : PTEFlags := ⟨(1 : UInt8) <<< 4⟩
def G : PTEFlags := ⟨(1 : UInt8) <<< 5⟩
def A : PTEFlags := ⟨(1 : UInt8) <<< 6⟩
def D : PTEFlags := ⟨(1 : UInt8) <<< 7⟩
def empty : PTEFlags := ⟨0⟩

instance : OrOp PTEFlags := ⟨fun a b => ⟨a.bits ||| b.bits⟩⟩
instance : AndOp PTEFlags := ⟨fun a b => ⟨a.bits &&& b.bits⟩⟩

/-- `from_bits` refuses bits outside the declared flags; the eight flags use every
bit of the `u8`, so every value is accepted. -/
def fromBits (bits : UInt8) : Option PTEFlags :=
  if bits &&& ~~~(V.bits ||| R.bits ||| W.bits ||| X.bits ||| U.bits ||| G.bits ||| A.bits |||
      D.bits) = 0 then some ⟨bits⟩ else none

theorem fromBits_eq (bits : UInt8) : fromBits bits = some ⟨bits⟩ := by
  have none : ~~~(V.bits ||| R.bits ||| W.bits ||| X.bits ||| U.bits ||| G.bits ||| A.bits |||
      D.bits) = 0 := by decide
  simp [fromBits, none]

@[simp] theorem or_bits (a b : PTEFlags) : (a ||| b).bits = a.bits ||| b.bits := rfl
@[simp] theorem and_bits (a b : PTEFlags) : (a &&& b).bits = a.bits &&& b.bits := rfl

end PTEFlags

/-- `PageTableEntry`: a `usize` holding the page number from bit 10 and the flags
in the low byte. -/
structure PageTableEntry where
  bits : Nat
  deriving DecidableEq, Repr

namespace PageTableEntry

/-- `new`: `ppn.0 << 10 | flags.bits as usize`, the shift wrapping at 64 bits. -/
def new (ppn : PhysPageNum) (flags : PTEFlags) : PageTableEntry :=
  ⟨(ppn.val <<< 10) % 2 ^ 64 ||| flags.bits.toNat⟩

def empty : PageTableEntry := ⟨0⟩

/-- `ppn`: `(self.bits >> 10 & ((1usize << 44) - 1)).into()`. -/
def ppn (self : PageTableEntry) : PhysPageNum :=
  PhysPageNum.fromUsize ((self.bits >>> 10) &&& ((1 <<< 44) - 1))

/-- `flags`: `PTEFlags::from_bits(self.bits as u8).unwrap()`; see `PTEFlags.fromBits_eq`. -/
def flags (self : PageTableEntry) : PTEFlags := ⟨UInt8.ofNat self.bits⟩

def isValid (self : PageTableEntry) : Bool := (self.flags &&& PTEFlags.V) != PTEFlags.empty
def readable (self : PageTableEntry) : Bool := (self.flags &&& PTEFlags.R) != PTEFlags.empty
def writable (self : PageTableEntry) : Bool := (self.flags &&& PTEFlags.W) != PTEFlags.empty
def executable (self : PageTableEntry) : Bool := (self.flags &&& PTEFlags.X) != PTEFlags.empty

end PageTableEntry

/-- `ppn.get_pte_array()[index]`: the physical address of entry `index` of a node. -/
def pteAddress (ppn : PhysPageNum) (index : Nat) : Nat := ppn.toPhysAddr.val + index * 8

/-- The entry stored at a physical address. -/
def readPte (memory : Nat → UInt8) (address : Nat) : PageTableEntry := ⟨readLE memory address 8⟩

/-- `*pte = value`. -/
def writePte (memory : Nat → UInt8) (address : Nat) (pte : PageTableEntry) : Nat → UInt8 :=
  writeLE memory address 8 pte.bits

structure PageTable where
  rootPpn : PhysPageNum
  frames : List PhysPageNum

namespace PageTable

variable {σ : Type} (alloc : σ → Option PhysPageNum × σ)

/-- `PageTable::new`: one zeroed frame as the root. -/
def new (machine : Machine σ) : Except String (PageTable × Machine σ) :=
  match frameAlloc alloc machine with
  | (some frame, machine) => .ok (⟨frame, [frame]⟩, machine)
  | (none, _) => .error unwrapNone

/-- The loop of `find_pte_create` from level `level` on, at node `ppn`: at the leaf
level it returns the entry, above it it follows the entry, first installing a
fresh zeroed node with only `V` set when the entry is invalid. -/
def findPteCreateLoop : Nat → List Nat → PhysPageNum → PageTable → Machine σ →
    Except String (Option Nat × PageTable × Machine σ)
  | _, [], _, table, machine => .ok (none, table, machine)
  | level, idx :: rest, ppn, table, machine =>
      let pte := pteAddress ppn idx
      if level = 2 then .ok (some pte, table, machine)
      else if !(readPte machine.memory pte).isValid then
        match frameAlloc alloc machine with
        | (some frame, machine) =>
            let machine := { machine with
              memory := writePte machine.memory pte (PageTableEntry.new frame PTEFlags.V) }
            findPteCreateLoop (level + 1) rest (readPte machine.memory pte).ppn
              { table with frames := table.frames ++ [frame] } machine
        | (none, _) => .error unwrapNone
      else findPteCreateLoop (level + 1) rest (readPte machine.memory pte).ppn table machine

def findPteCreate (self : PageTable) (machine : Machine σ) (vpn : VirtPageNum) :
    Except String (Option Nat × PageTable × Machine σ) :=
  findPteCreateLoop alloc 0 vpn.indexes self.rootPpn self machine

/-- The loop of `find_pte`: like `find_pte_create`, but an invalid entry above the
leaf level ends the walk with `None`. The leaf entry is returned valid or not. -/
def findPteLoop (memory : Nat → UInt8) : Nat → List Nat → PhysPageNum → Option Nat
  | _, [], _ => none
  | level, idx :: rest, ppn =>
      let pte := pteAddress ppn idx
      if level = 2 then some pte
      else if !(readPte memory pte).isValid then none
      else findPteLoop memory (level + 1) rest (readPte memory pte).ppn

def findPte (self : PageTable) (memory : Nat → UInt8) (vpn : VirtPageNum) : Option Nat :=
  findPteLoop memory 0 vpn.indexes self.rootPpn

/-- `map`: the walk cannot fail to return an entry; the entry must be invalid. -/
def map (self : PageTable) (machine : Machine σ) (vpn : VirtPageNum) (ppn : PhysPageNum)
    (flags : PTEFlags) : Except String (PageTable × Machine σ) := do
  let (found, table, machine) ← self.findPteCreate alloc machine vpn
  match found with
  | none => .error unwrapNone
  | some pte =>
      if (readPte machine.memory pte).isValid then .error "vpn is mapped before mapping"
      else .ok (table, { machine with
        memory := writePte machine.memory pte (PageTableEntry.new ppn (flags ||| PTEFlags.V)) })

/-- `unmap`: the walk must reach a leaf entry, and that entry must be valid. -/
def unmap (self : PageTable) (memory : Nat → UInt8) (vpn : VirtPageNum) :
    Except String (Nat → UInt8) :=
  match self.findPte memory vpn with
  | none => .error unwrapNone
  | some pte =>
      if !(readPte memory pte).isValid then .error "vpn is invalid before unmapping"
      else .ok (writePte memory pte PageTableEntry.empty)

/-- `from_token`: a table that owns no frames, rooted at the page number in `satp`. -/
def fromToken (satp : Nat) : PageTable :=
  ⟨PhysPageNum.fromUsize (satp &&& ((1 <<< 44) - 1)), []⟩

def translate (self : PageTable) (memory : Nat → UInt8) (vpn : VirtPageNum) :
    Option PageTableEntry :=
  (self.findPte memory vpn).map (readPte memory)

def translateVa (self : PageTable) (memory : Nat → UInt8) (va : VirtAddr) : Option PhysAddr :=
  (self.findPte memory va.floor).map fun pte =>
    PhysAddr.fromUsize ((readPte memory pte).ppn.toPhysAddr.val + va.pageOffset)

/-- `token`: Sv39 mode in the top four bits of `satp`, the root below. -/
def token (self : PageTable) : Nat := 8 <<< 60 ||| self.rootPpn.val

end PageTable

namespace PTEFlags

@[simp] theorem V_bits : V.bits = 1 := by decide
@[simp] theorem R_bits : R.bits = 2 := by decide
@[simp] theorem W_bits : W.bits = 4 := by decide
@[simp] theorem X_bits : X.bits = 8 := by decide
@[simp] theorem U_bits : U.bits = 16 := by decide
@[simp] theorem empty_bits : empty.bits = 0 := rfl

theorem eq_iff (a b : PTEFlags) : a = b ↔ a.bits.toNat = b.bits.toNat := by
  cases a
  cases b
  simp [UInt8.toNat_inj]

end PTEFlags

namespace PageTableEntry

theorem flags_bits (pte : PageTableEntry) : pte.flags.bits.toNat = pte.bits % 256 := by
  simp [flags]

theorem isValid_iff (pte : PageTableEntry) : pte.isValid = true ↔ pte.bits % 2 = 1 := by
  have masked : (pte.flags &&& PTEFlags.V).bits.toNat = pte.bits % 2 := by
    simp only [PTEFlags.and_bits, UInt8.toNat_and, flags_bits, PTEFlags.V_bits, UInt8.toNat_one,
      Nat.and_one_is_mod]
    omega
  simp only [isValid, bne_iff_ne, ne_eq, PTEFlags.eq_iff, masked, PTEFlags.empty_bits,
    UInt8.toNat_zero]
  omega

theorem ppn_val (pte : PageTableEntry) : pte.ppn.val = pte.bits / 1024 % 2 ^ 44 := by
  simp only [ppn, PhysPageNum.fromUsize_val, mask_eq_mod, Nat.shiftRight_eq_div_pow, Nat.mod_mod]

theorem new_bits (ppn : PhysPageNum) (flags : PTEFlags) (small : ppn.val < 2 ^ 44) :
    (new ppn flags).bits = ppn.val * 1024 + flags.bits.toNat := by
  have low : flags.bits.toNat < 2 ^ 10 := by
    have := flags.bits.toNat_lt
    omega
  have noWrap : (ppn.val <<< 10) % 2 ^ 64 = ppn.val <<< 10 := by
    rw [Nat.shiftLeft_eq]
    exact Nat.mod_eq_of_lt (by omega)
  rw [new, noWrap, ← Nat.shiftLeft_add_eq_or_of_lt low, Nat.shiftLeft_eq]

theorem new_bits_lt (ppn : PhysPageNum) (flags : PTEFlags) (small : ppn.val < 2 ^ 44) :
    (new ppn flags).bits < 2 ^ 64 := by
  have := flags.bits.toNat_lt
  rw [new_bits ppn flags small]
  omega

@[simp] theorem new_ppn (ppn : PhysPageNum) (flags : PTEFlags) (small : ppn.val < 2 ^ 44) :
    (new ppn flags).ppn = ppn := by
  have := flags.bits.toNat_lt
  cases ppn
  rw [PhysPageNum.mk.injEq, ppn_val, new_bits _ _ small]
  simp only at small ⊢
  omega

@[simp] theorem new_flags (ppn : PhysPageNum) (flags : PTEFlags) (small : ppn.val < 2 ^ 44) :
    (new ppn flags).flags = flags := by
  have := flags.bits.toNat_lt
  rw [PTEFlags.eq_iff, flags_bits, new_bits _ _ small]
  omega

theorem new_isValid (ppn : PhysPageNum) (flags : PTEFlags) (small : ppn.val < 2 ^ 44) :
    (new ppn flags).isValid = true ↔ flags.bits.toNat % 2 = 1 := by
  rw [isValid_iff, new_bits _ _ small]
  omega

theorem new_or_V_isValid (ppn : PhysPageNum) (flags : PTEFlags) (small : ppn.val < 2 ^ 44) :
    (new ppn (flags ||| PTEFlags.V)).isValid = true := by
  rw [new_isValid _ _ small, PTEFlags.or_bits, UInt8.toNat_or, PTEFlags.V_bits, UInt8.toNat_one,
    Nat.or_mod_two_eq_one]
  exact .inr rfl

@[simp] theorem empty_isValid : empty.isValid = false := by decide

end PageTableEntry

section EntryMemory

variable (memory : Nat → UInt8)

theorem readPte_writePte (address : Nat) (pte : PageTableEntry) (small : pte.bits < 2 ^ 64) :
    readPte (writePte memory address pte) address = pte := by
  simp only [readPte, writePte, readLE_writeLE]
  rw [Nat.mod_eq_of_lt (by simpa using small)]

theorem readPte_writePte_apart (address other : Nat) (pte : PageTableEntry)
    (apart : address + 8 ≤ other ∨ other + 8 ≤ address) :
    readPte (writePte memory address pte) other = readPte memory other := by
  simp only [readPte, writePte, readLE_writeLE_disjoint memory address 8 pte.bits other 8 apart]

theorem pteAddress_val (ppn : PhysPageNum) (index : Nat) (small : ppn.val < 2 ^ 44) :
    pteAddress ppn index = ppn.val * 4096 + index * 8 := by
  rw [pteAddress, PhysPageNum.toPhysAddr_val, Nat.mod_eq_of_lt (by omega)]

theorem pteAddress_apart (ppn other : PhysPageNum) (index otherIndex : Nat)
    (small : ppn.val < 2 ^ 44) (smallOther : other.val < 2 ^ 44)
    (inside : index < 512) (insideOther : otherIndex < 512)
    (differ : ppn ≠ other ∨ index ≠ otherIndex) :
    pteAddress ppn index + 8 ≤ pteAddress other otherIndex ∨
      pteAddress other otherIndex + 8 ≤ pteAddress ppn index := by
  rw [pteAddress_val ppn index small, pteAddress_val other otherIndex smallOther]
  have distinct : ppn.val ≠ other.val ∨ index ≠ otherIndex := by
    rcases differ with node | slot
    · exact .inl fun same => node (by cases ppn; cases other; simp_all)
    · exact .inr slot
  omega

theorem readPte_frameTracker_same (ppn : PhysPageNum) (index : Nat) (small : ppn.val < 2 ^ 44)
    (inside : index < 512) :
    readPte (FrameTracker.new memory ppn) (pteAddress ppn index) = PageTableEntry.empty := by
  have zero : readLE (FrameTracker.new memory ppn) (pteAddress ppn index) 8 = 0 := by
    apply readLE_eq_zero
    intro byte below
    have start : ppn.toPhysAddr.val = ppn.val * 4096 := by
      rw [PhysPageNum.toPhysAddr_val, Nat.mod_eq_of_lt (by omega)]
    have offset : pteAddress ppn index + byte = ppn.toPhysAddr.val + (index * 8 + byte) := by
      rw [pteAddress_val ppn index small, start]
      omega
    rw [FrameTracker.new, offset,
      writeBytes_inside _ _ _ _ (by rw [List.length_replicate]; omega), List.getElem_replicate]
  simp only [readPte, zero]
  rfl

theorem readPte_frameTracker_other (ppn other : PhysPageNum) (index : Nat)
    (small : ppn.val < 2 ^ 44) (smallOther : other.val < 2 ^ 44) (inside : index < 512)
    (differ : ppn ≠ other) :
    readPte (FrameTracker.new memory ppn) (pteAddress other index) =
      readPte memory (pteAddress other index) := by
  have distinct : ppn.val ≠ other.val := fun same => differ (by cases ppn; cases other; simp_all)
  have start : ppn.toPhysAddr.val = ppn.val * 4096 := by
    rw [PhysPageNum.toPhysAddr_val, Nat.mod_eq_of_lt (by omega)]
  simp only [readPte, FrameTracker.new]
  rw [readLE_writeBytes_disjoint]
  rw [start, pteAddress_val other index smallOther, List.length_replicate]
  omega

end EntryMemory

/-- The node that entry `index` of `node` points to, when that entry is valid. -/
def entryChild (memory : Nat → UInt8) (node : PhysPageNum) (index : Nat) : Option PhysPageNum :=
  if (readPte memory (pteAddress node index)).isValid then
    some (readPte memory (pteAddress node index)).ppn
  else none

theorem frameAlloc_some {σ : Type} {alloc : σ → Option PhysPageNum × σ} {machine next : Machine σ}
    {frame : PhysPageNum} (call : frameAlloc alloc machine = (some frame, next)) :
    alloc machine.allocator = (some frame, next.allocator) ∧
      next.memory = FrameTracker.new machine.memory frame := by
  unfold frameAlloc at call
  split at call
  · rename_i allocated allocator result
    simp only [Prod.mk.injEq, Option.some.injEq] at call
    obtain ⟨rfl, rfl⟩ := call
    exact ⟨result, rfl⟩
  · simp at call

namespace PageTable

theorem findPteLoop_three (memory : Nat → UInt8) (top middle low : Nat) (root : PhysPageNum) :
    findPteLoop memory 0 [top, middle, low] root =
      ((entryChild memory root top).bind fun node => entryChild memory node middle).map
        fun bottom => pteAddress bottom low := by
  simp only [findPteLoop, entryChild]
  cases rootValid : (readPte memory (pteAddress root top)).isValid with
  | false => simp
  | true =>
      cases middleValid :
          (readPte memory (pteAddress (readPte memory (pteAddress root top)).ppn middle)).isValid
        <;> simp [middleValid]

theorem findPte_eq (table : PageTable) (memory : Nat → UInt8) (vpn : VirtPageNum) :
    table.findPte memory vpn =
      ((entryChild memory table.rootPpn (vpn.val / 2 ^ 18 % 512)).bind fun middle =>
        entryChild memory middle (vpn.val / 2 ^ 9 % 512)).map fun bottom =>
          pteAddress bottom (vpn.val % 512) := by
  rw [findPte, VirtPageNum.indexes_eq, findPteLoop_three]

variable {σ : Type} (alloc : σ → Option PhysPageNum × σ)

theorem findPteCreateLoop_leaf (idx : Nat) (rest : List Nat) (ppn : PhysPageNum)
    (table : PageTable) (machine : Machine σ) :
    findPteCreateLoop alloc 2 (idx :: rest) ppn table machine =
      .ok (some (pteAddress ppn idx), table, machine) := by
  simp [findPteCreateLoop]

theorem findPteCreateLoop_valid (level idx : Nat) (rest : List Nat) (ppn : PhysPageNum)
    (table : PageTable) (machine : Machine σ) (above : level ≠ 2)
    (valid : (readPte machine.memory (pteAddress ppn idx)).isValid = true) :
    findPteCreateLoop alloc level (idx :: rest) ppn table machine =
      findPteCreateLoop alloc (level + 1) rest (readPte machine.memory (pteAddress ppn idx)).ppn
        table machine := by
  simp [findPteCreateLoop, above, valid]

theorem findPteCreateLoop_install (level idx : Nat) (rest : List Nat) (ppn frame : PhysPageNum)
    (table : PageTable) (machine after : Machine σ) (above : level ≠ 2)
    (invalid : (readPte machine.memory (pteAddress ppn idx)).isValid = false)
    (call : frameAlloc alloc machine = (some frame, after)) :
    findPteCreateLoop alloc level (idx :: rest) ppn table machine =
      findPteCreateLoop alloc (level + 1) rest
        (readPte (writePte after.memory (pteAddress ppn idx) (PageTableEntry.new frame PTEFlags.V))
          (pteAddress ppn idx)).ppn
        { table with frames := table.frames ++ [frame] }
        { after with
          memory := writePte after.memory (pteAddress ppn idx) (PageTableEntry.new frame PTEFlags.V) }
        := by
  simp [findPteCreateLoop, above, invalid, call]

theorem findPteCreateLoop_exhausted (level idx : Nat) (rest : List Nat) (ppn : PhysPageNum)
    (table : PageTable) (machine next : Machine σ) (above : level ≠ 2)
    (invalid : (readPte machine.memory (pteAddress ppn idx)).isValid = false)
    (call : frameAlloc alloc machine = (none, next)) :
    findPteCreateLoop alloc level (idx :: rest) ppn table machine = .error unwrapNone := by
  simp [findPteCreateLoop, above, invalid, call]

theorem map_of_findPteCreate_error (table : PageTable) (machine : Machine σ) (vpn : VirtPageNum)
    (ppn : PhysPageNum) (flags : PTEFlags) (message : String)
    (call : table.findPteCreate alloc machine vpn = .error message) :
    table.map alloc machine vpn ppn flags = .error message := by
  rw [map, call]
  rfl

theorem map_of_findPteCreate_ok (table table' : PageTable) (machine machine' : Machine σ)
    (vpn : VirtPageNum) (ppn : PhysPageNum) (flags : PTEFlags) (pte : Nat)
    (call : table.findPteCreate alloc machine vpn = .ok (some pte, table', machine')) :
    table.map alloc machine vpn ppn flags =
      if (readPte machine'.memory pte).isValid then .error "vpn is mapped before mapping"
      else .ok (table', { machine' with
        memory := writePte machine'.memory pte (PageTableEntry.new ppn (flags ||| PTEFlags.V)) }) := by
  rw [map, call]
  rfl

theorem findPteCreate_eq (table : PageTable) (machine : Machine σ) (vpn : VirtPageNum) :
    table.findPteCreate alloc machine vpn =
      findPteCreateLoop alloc 0 [vpn.val / 2 ^ 18 % 512, vpn.val / 2 ^ 9 % 512, vpn.val % 512]
        table.rootPpn table machine := by
  rw [findPteCreate, VirtPageNum.indexes_eq]

end PageTable

end ChOs
