import ChOs.EasyFs.BlockDevice
import ChOs.Library.BitWord

set_option autoImplicit false

/- `Bitmap` (`easy-fs/src/bitmap.rs`). -/

namespace ChOs

namespace EasyFs

/-- `BLOCK_BITS`. -/
def blockBits : Nat := blockSz * 8

theorem blockBits_eq : blockBits = 4096 := rfl

/-- `u64::MAX`. -/
def u64Max : Nat := 2 ^ 64 - 1

/-- `decomposition`: the block, the group and the place in the group of a bit. -/
def decomposition (bit : Nat) : Nat × Nat × Nat :=
  (bit / blockBits, bit % blockBits / 64, bit % blockBits % 64)

/-- What first fit below `bound` returns on the bits `set`: the least clear bit, or
`none` when every bit below `bound` is set. -/
def FirstFit (set : Nat → Bool) (bound : Nat) : Option Nat → Prop
  | some bit => bit < bound ∧ set bit = false ∧ ∀ other < bit, set other = true
  | none => ∀ bit < bound, set bit = true

theorem FirstFit.unique {set : Nat → Bool} {bound : Nat} {found other : Option Nat}
    (first : FirstFit set bound found) (second : FirstFit set bound other) : found = other := by
  match found, other, first, second with
  | none, none, _, _ => rfl
  | some bit, none, ⟨below, clear, _⟩, full => rw [full bit below] at clear; cases clear
  | none, some bit, full, ⟨below, clear, _⟩ => rw [full bit below] at clear; cases clear
  | some bit, some other, ⟨_, clear, least⟩, ⟨_, otherClear, otherLeast⟩ =>
      rcases Nat.lt_trichotomy bit other with before | same | after
      · rw [otherLeast bit before] at clear
        cases clear
      · rw [same]
      · rw [least other after] at otherClear
        cases otherClear

structure Bitmap where
  startBlockId : Nat
  blocks : Nat
  deriving DecidableEq, Repr

namespace Bitmap

def new (startBlockId blocks : Nat) : Bitmap := ⟨startBlockId, blocks⟩

def maximum (self : Bitmap) : Nat := self.blocks * blockBits

/-- The group at `bits64Pos` of bitmap block `blockId`, a `u64`. -/
def group (self : Bitmap) (device : BlockDevice) (blockId bits64Pos : Nat) : Nat :=
  device.readField (blockId + self.startBlockId) (8 * bits64Pos) 8

/-- `.iter().enumerate().find(|(_, bits64)| **bits64 != u64::MAX)` on a bitmap block. -/
def findGroup (self : Bitmap) (device : BlockDevice) (blockId : Nat) : Option Nat :=
  (List.range 64).find? fun bits64Pos => self.group device blockId bits64Pos != u64Max

/-- The loop of `alloc` from `block_id`, with `remaining` blocks left before
`self.blocks`. -/
def allocFrom (self : Bitmap) (device : BlockDevice) (blockId : Nat) :
    Nat → Except String (Option Nat × BlockDevice)
  | 0 => .ok (none, device)
  | remaining + 1 => do
      device.getBlockCache (blockId + self.startBlockId)
      match self.findGroup device blockId with
      | some bits64Pos =>
          let bits64 := self.group device blockId bits64Pos
          let innerPos := BitWord.trailingOnes bits64 64
          .ok (some (blockId * blockBits + bits64Pos * 64 + innerPos),
            device.writeField (blockId + self.startBlockId) (8 * bits64Pos) 8
              (bits64 ||| 1 <<< innerPos))
      | none => self.allocFrom device (blockId + 1) remaining

def alloc (self : Bitmap) (device : BlockDevice) : Except String (Option Nat × BlockDevice) :=
  self.allocFrom device 0 self.blocks

def dealloc (self : Bitmap) (device : BlockDevice) (bit : Nat) : Except String BlockDevice := do
  let (blockPos, bits64Pos, innerPos) := decomposition bit
  device.getBlockCache (blockPos + self.startBlockId)
  let bits64 := self.group device blockPos bits64Pos
  if bits64 &&& 1 <<< innerPos > 0 then
    .ok (device.writeField (blockPos + self.startBlockId) (8 * bits64Pos) 8
      (bits64 - 1 <<< innerPos))
  else .error "assertion failed: bitmap_block[bits64_pos] & (1u64 << inner_pos) > 0"

/-- Bit `bit` of the region: bit `bit % 64` of its group. -/
def isSet (self : Bitmap) (device : BlockDevice) (bit : Nat) : Bool :=
  (self.group device (bit / blockBits) (bit % blockBits / 64)).testBit (bit % 64)

/-- The device with bit `bit` set, the rest of its group kept. -/
def setBit (self : Bitmap) (device : BlockDevice) (bit : Nat) : BlockDevice :=
  device.writeField (bit / blockBits + self.startBlockId) (8 * (bit % blockBits / 64)) 8
    (self.group device (bit / blockBits) (bit % blockBits / 64) ||| 2 ^ (bit % 64))

/-- The device with bit `bit` cleared, the rest of its group kept. -/
def clearBit (self : Bitmap) (device : BlockDevice) (bit : Nat) : BlockDevice :=
  device.writeField (bit / blockBits + self.startBlockId) (8 * (bit % blockBits / 64)) 8
    (self.group device (bit / blockBits) (bit % blockBits / 64) - 2 ^ (bit % 64))

/-- The device `alloc` leaves behind for what it found. -/
def allocated (self : Bitmap) (device : BlockDevice) : Option Nat → BlockDevice
  | some bit => self.setBit device bit
  | none => device

variable (self : Bitmap) (device : BlockDevice)

section Groups

theorem group_lt (blockId bits64Pos : Nat) : self.group device blockId bits64Pos < 2 ^ 64 :=
  ByteMemory.readLE_lt _ _ _

theorem address_group (bit : Nat) :
    BlockDevice.address (bit / blockBits + self.startBlockId) (8 * (bit % blockBits / 64)) =
      8 * (64 * self.startBlockId + bit / 64) := by
  unfold BlockDevice.address blockSz
  rw [blockBits_eq]
  omega

theorem group_apart {bit other : Nat} (differ : bit / 64 ≠ other / 64) :
    BlockDevice.Apart (bit / blockBits + self.startBlockId) (8 * (bit % blockBits / 64)) 8
      (other / blockBits + self.startBlockId) (8 * (other % blockBits / 64)) 8 := by
  unfold BlockDevice.Apart
  rw [address_group, address_group]
  omega

theorem group_same {bit other : Nat} (same : bit / 64 = other / 64) :
    bit / blockBits = other / blockBits ∧ bit % blockBits / 64 = other % blockBits / 64 := by
  rw [blockBits_eq]
  omega

theorem isSet_parts {blockId bits64Pos innerPos : Nat} (group : bits64Pos < 64)
    (inner : innerPos < 64) :
    self.isSet device (blockId * blockBits + bits64Pos * 64 + innerPos) =
      (self.group device blockId bits64Pos).testBit innerPos := by
  have block : (blockId * blockBits + bits64Pos * 64 + innerPos) / blockBits = blockId := by
    rw [blockBits_eq]
    omega
  have pos : (blockId * blockBits + bits64Pos * 64 + innerPos) % blockBits / 64 = bits64Pos := by
    rw [blockBits_eq]
    omega
  have place : (blockId * blockBits + bits64Pos * 64 + innerPos) % 64 = innerPos := by
    rw [blockBits_eq]
    omega
  rw [isSet, block, pos, place]

theorem testBit_u64Max {innerPos : Nat} (inner : innerPos < 64) : u64Max.testBit innerPos = true := by
  rw [u64Max, Nat.testBit_two_pow_sub_one, decide_eq_true inner]

end Groups

section Bits

theorem isSet_setBit (bit other : Nat) :
    self.isSet (self.setBit device bit) other = (self.isSet device other || decide (other = bit)) := by
  by_cases same : other / 64 = bit / 64
  · obtain ⟨block, pos⟩ := group_same same
    have bounded : self.group device (bit / blockBits) (bit % blockBits / 64) ||| 2 ^ (bit % 64) <
        256 ^ 8 :=
      Nat.or_lt_two_pow (group_lt _ _ _ _) (Nat.pow_lt_pow_right (by decide) (Nat.mod_lt _ (by decide)))
    rw [isSet, isSet, group, group, block, pos, setBit, BlockDevice.readField_writeField,
      Nat.mod_eq_of_lt bounded, Nat.testBit_or, Nat.testBit_two_pow]
    congr 1
    exact decide_eq_decide.mpr ⟨fun equal => by omega, fun equal => by rw [equal]⟩
  · have differ : other ≠ bit := fun equal => same (by rw [equal])
    rw [isSet, isSet, group, group, setBit,
      BlockDevice.readField_writeField_apart _ _ (group_apart self (Ne.symm same)),
      decide_eq_false differ, Bool.or_false]

theorem isSet_clearBit {bit : Nat} (set : self.isSet device bit = true) (other : Nat) :
    self.isSet (self.clearBit device bit) other = (self.isSet device other && !decide (other = bit)) := by
  by_cases same : other / 64 = bit / 64
  · obtain ⟨block, pos⟩ := group_same same
    have bounded : self.group device (bit / blockBits) (bit % blockBits / 64) - 2 ^ (bit % 64) <
        256 ^ 8 :=
      Nat.lt_of_le_of_lt (Nat.sub_le _ _) (group_lt _ _ _ _)
    rw [isSet, isSet, group, group, block, pos, clearBit, BlockDevice.readField_writeField,
      Nat.mod_eq_of_lt bounded, BitWord.testBit_sub_two_pow set]
    congr 2
    exact decide_eq_decide.mpr ⟨fun equal => by omega, fun equal => by rw [equal]⟩
  · have differ : other ≠ bit := fun equal => same (by rw [equal])
    rw [isSet, isSet, group, group, clearBit,
      BlockDevice.readField_writeField_apart _ _ (group_apart self (Ne.symm same)),
      decide_eq_false differ, Bool.not_false, Bool.and_true]

@[simp] theorem blocks_setBit (bit : Nat) : (self.setBit device bit).blocks = device.blocks := rfl

@[simp] theorem blocks_clearBit (bit : Nat) : (self.clearBit device bit).blocks = device.blocks :=
  rfl

end Bits

section Alloc

theorem findGroup_eq_some {blockId bits64Pos : Nat}
    (found : self.findGroup device blockId = some bits64Pos) :
    bits64Pos < 64 ∧ self.group device blockId bits64Pos ≠ u64Max ∧
      ∀ earlier < bits64Pos, self.group device blockId earlier = u64Max := by
  unfold findGroup at found
  obtain ⟨notFull, member, before⟩ := List.find?_range_eq_some.mp found
  refine ⟨List.mem_range.mp member, ?_, fun earlier below => ?_⟩
  · rw [bne_iff_ne] at notFull
    exact notFull
  · have full := before earlier below
    rw [Bool.not_eq_true', bne_eq_false_iff_eq] at full
    exact full

theorem findGroup_eq_none {blockId : Nat} (full : self.findGroup device blockId = none) :
    ∀ bits64Pos < 64, self.group device blockId bits64Pos = u64Max := fun bits64Pos below => by
  unfold findGroup at full
  have group := List.find?_range_eq_none.mp full bits64Pos below
  rw [Bool.not_eq_true', bne_eq_false_iff_eq] at group
  exact group

theorem firstFit_of_group {blockId bits64Pos : Nat}
    (below : ∀ bit < blockId * blockBits, self.isSet device bit = true)
    (found : self.findGroup device blockId = some bits64Pos) :
    let bits64 := self.group device blockId bits64Pos
    let innerPos := BitWord.trailingOnes bits64 64
    innerPos < 64 ∧ FirstFit (self.isSet device) ((blockId + 1) * blockBits)
      (some (blockId * blockBits + bits64Pos * 64 + innerPos)) := by
  intro bits64 innerPos
  obtain ⟨group, notFull, fullBefore⟩ := self.findGroup_eq_some device found
  obtain ⟨clearBit, clearBelow, clear⟩ :=
    BitWord.exists_clear_of_ne_allOnes (group_lt self device blockId bits64Pos) notFull
  have inner : innerPos < 64 := BitWord.trailingOnes_lt clearBelow clear
  refine ⟨inner, ?_, ?_, fun other before => ?_⟩
  · rw [blockBits_eq]
    omega
  · rw [isSet_parts self device group inner]
    exact BitWord.testBit_trailingOnes _ _ inner
  · by_cases earlierBlock : other < blockId * blockBits
    · exact below other earlierBlock
    · have split : other = blockId * blockBits + (other % blockBits / 64) * 64 + other % 64 := by
        rw [blockBits_eq] at earlierBlock before ⊢
        omega
      have otherGroup : other % blockBits / 64 < 64 := by
        rw [blockBits_eq]
        omega
      rw [split, isSet_parts self device otherGroup (Nat.mod_lt _ (by decide))]
      by_cases sameGroup : other % blockBits / 64 = bits64Pos
      · rw [sameGroup]
        have lower : other % 64 < innerPos := by
          rw [blockBits_eq] at earlierBlock before sameGroup
          omega
        exact BitWord.testBit_of_lt_trailingOnes _ _ lower
      · have earlierGroup : other % blockBits / 64 < bits64Pos := by
          rw [blockBits_eq] at earlierBlock before sameGroup ⊢
          omega
        rw [fullBefore _ earlierGroup]
        exact testBit_u64Max (Nat.mod_lt _ (by decide))

theorem allocFrom_spec (remaining : Nat) : ∀ blockId : Nat,
    blockId + remaining + self.startBlockId ≤ device.blocks →
    (∀ bit < blockId * blockBits, self.isSet device bit = true) →
    ∃ found, self.allocFrom device blockId remaining = .ok (found, self.allocated device found) ∧
      FirstFit (self.isSet device) ((blockId + remaining) * blockBits) found := by
  induction remaining with
  | zero =>
      intro blockId _ below
      exact ⟨none, rfl, below⟩
  | succ remaining ih =>
      intro blockId inside below
      rw [allocFrom, BlockDevice.getBlockCache_bind _ (by omega)]
      cases found : self.findGroup device blockId with
      | some bits64Pos =>
          obtain ⟨inner, first⟩ := self.firstFit_of_group device below found
          have bit : (blockId * blockBits + bits64Pos * 64 + BitWord.trailingOnes
              (self.group device blockId bits64Pos) 64) / blockBits = blockId ∧
              (blockId * blockBits + bits64Pos * 64 + BitWord.trailingOnes
                (self.group device blockId bits64Pos) 64) % blockBits / 64 = bits64Pos ∧
              (blockId * blockBits + bits64Pos * 64 + BitWord.trailingOnes
                (self.group device blockId bits64Pos) 64) % 64 =
                BitWord.trailingOnes (self.group device blockId bits64Pos) 64 := by
            have group := (self.findGroup_eq_some device found).1
            rw [blockBits_eq]
            omega
          dsimp only
          refine ⟨some (blockId * blockBits + bits64Pos * 64 +
            BitWord.trailingOnes (self.group device blockId bits64Pos) 64), ?_, ?_⟩
          · simp only [allocated, setBit, bit, Nat.one_shiftLeft]
          · obtain ⟨within, clear, least⟩ := first
            exact ⟨Nat.lt_of_lt_of_le within (Nat.mul_le_mul_right _ (by omega)), clear, least⟩
      | none =>
          have full := self.findGroup_eq_none device found
          obtain ⟨result, call, fits⟩ := ih (blockId + 1) (by omega) fun bit before => by
            by_cases earlier : bit < blockId * blockBits
            · exact below bit earlier
            · have split : bit = blockId * blockBits + (bit % blockBits / 64) * 64 + bit % 64 := by
                rw [blockBits_eq] at earlier before ⊢
                omega
              have bitGroup : bit % blockBits / 64 < 64 := by
                rw [blockBits_eq]
                omega
              rw [split, isSet_parts self device bitGroup (Nat.mod_lt _ (by decide)),
                full _ bitGroup]
              exact testBit_u64Max (Nat.mod_lt _ (by decide))
          refine ⟨result, call, ?_⟩
          rwa [show blockId + 1 + remaining = blockId + (remaining + 1) by omega] at fits

/-- `alloc` on a bitmap inside the image is first fit over the whole region, and sets
the bit it returns. -/
theorem alloc_spec (inside : self.startBlockId + self.blocks ≤ device.blocks) :
    ∃ found, self.alloc device = .ok (found, self.allocated device found) ∧
      FirstFit (self.isSet device) self.maximum found := by
  obtain ⟨found, call, fits⟩ := self.allocFrom_spec device self.blocks 0 (by omega)
    fun bit below => absurd below (by rw [Nat.zero_mul]; exact Nat.not_lt_zero _)
  refine ⟨found, call, ?_⟩
  rwa [Nat.zero_add] at fits

theorem allocFrom_blocks (remaining : Nat) : ∀ {blockId : Nat} {found : Option Nat}
    {next : BlockDevice}, self.allocFrom device blockId remaining = .ok (found, next) →
      next.blocks = device.blocks := by
  induction remaining with
  | zero =>
      intro blockId found next call
      simp only [allocFrom, Except.ok.injEq, Prod.mk.injEq] at call
      rw [← call.2]
  | succ remaining ih =>
      intro blockId found next call
      by_cases inside : blockId + self.startBlockId < device.blocks
      · rw [allocFrom, BlockDevice.getBlockCache_bind _ inside] at call
        cases group : self.findGroup device blockId with
        | some bits64Pos =>
            simp only [group, Except.ok.injEq, Prod.mk.injEq] at call
            rw [← call.2, BlockDevice.blocks_writeField]
        | none =>
            simp only [group] at call
            exact ih call
      · rw [allocFrom, BlockDevice.getBlockCache, if_neg inside] at call
        cases call

theorem alloc_blocks {found : Option Nat} {next : BlockDevice}
    (call : self.alloc device = .ok (found, next)) : next.blocks = device.blocks :=
  self.allocFrom_blocks device self.blocks call

end Alloc

section Dealloc

theorem dealloc_eq_ok {bit : Nat} {next : BlockDevice} :
    self.dealloc device bit = .ok next ↔
      bit / blockBits + self.startBlockId < device.blocks ∧ self.isSet device bit = true ∧
        next = self.clearBit device bit := by
  unfold dealloc decomposition
  simp only
  by_cases inside : bit / blockBits + self.startBlockId < device.blocks
  · rw [BlockDevice.getBlockCache_bind _ inside]
    have place : bit % blockBits % 64 = bit % 64 := by
      rw [blockBits_eq]
      omega
    rw [place, Nat.one_shiftLeft, Nat.and_two_pow]
    by_cases set : self.isSet device bit = true
    · have tested : (self.group device (bit / blockBits) (bit % blockBits / 64)).testBit
          (bit % 64) = true := set
      rw [tested, if_pos (by simp only [Bool.toNat_true, Nat.one_mul]; exact Nat.two_pow_pos _)]
      simp only [Except.ok.injEq, inside, set, true_and, clearBit]
      exact eq_comm
    · have tested : (self.group device (bit / blockBits) (bit % blockBits / 64)).testBit
          (bit % 64) = false := by simpa only [isSet, Bool.not_eq_true] using set
      rw [tested, if_neg (by simp only [Bool.toNat_false, Nat.zero_mul, gt_iff_lt,
        Nat.lt_irrefl, not_false_eq_true])]
      simp only [reduceCtorEq, set, false_and, and_false]
  · rw [BlockDevice.getBlockCache, if_neg inside]
    simp only [inside, false_and, iff_false]
    exact fun impossible => by cases impossible

end Dealloc

section Frame

variable {next : BlockDevice} {blockId : Nat}

theorem group_inside (bit : Nat) : 8 * (bit % blockBits / 64) + 8 ≤ blockSz := by
  unfold blockSz
  rw [blockBits_eq]
  omega

theorem setBit_changes (bit : Nat) :
    BlockDevice.Changes device (self.setBit device bit) (bit / blockBits + self.startBlockId) :=
  BlockDevice.writeField_changes _ (group_inside bit)

theorem clearBit_changes (bit : Nat) :
    BlockDevice.Changes device (self.clearBit device bit) (bit / blockBits + self.startBlockId) :=
  BlockDevice.writeField_changes _ (group_inside bit)

theorem isSet_changes (changes : BlockDevice.Changes device next blockId) {bit : Nat}
    (differ : bit / blockBits + self.startBlockId ≠ blockId) :
    self.isSet next bit = self.isSet device bit := by
  rw [isSet, isSet, group, group, changes.readField differ _ _ (group_inside bit)]

end Frame

section FilledBelow

/-- The bits below `count` are set and the others clear, as `count` allocations leave a
zeroed bitmap. -/
def FilledBelow (count : Nat) : Prop :=
  ∀ bit < self.maximum, self.isSet device bit = decide (bit < count)

theorem alloc_of_filledBelow {count : Nat} (inside : self.startBlockId + self.blocks ≤ device.blocks)
    (filled : self.FilledBelow device count) (room : count < self.maximum) :
    self.alloc device = .ok (some count, self.setBit device count) ∧
      self.FilledBelow (self.setBit device count) (count + 1) := by
  obtain ⟨found, call, fits⟩ := self.alloc_spec device inside
  have first : FirstFit (self.isSet device) self.maximum (some count) := by
    refine ⟨room, ?_, fun other below => ?_⟩
    · rw [filled count room, decide_eq_false (Nat.lt_irrefl count)]
    · rw [filled other (by omega), decide_eq_true below]
  rw [FirstFit.unique fits first] at call
  refine ⟨call, fun bit below => ?_⟩
  rw [isSet_setBit, filled bit below, ← Bool.decide_or]
  exact decide_eq_decide.mpr (by omega)

end FilledBelow

section Contract

theorem block_inside (inside : self.startBlockId + self.blocks ≤ device.blocks) {bit : Nat}
    (below : bit < self.maximum) : bit / blockBits + self.startBlockId < device.blocks := by
  unfold maximum at below
  rw [blockBits_eq] at below ⊢
  omega

theorem dealloc_of_clear {bit : Nat} (inBlock : bit / blockBits + self.startBlockId < device.blocks)
    (clear : self.isSet device bit = false) :
    self.dealloc device bit =
      .error "assertion failed: bitmap_block[bits64_pos] & (1u64 << inner_pos) > 0" := by
  unfold dealloc decomposition
  simp only
  rw [BlockDevice.getBlockCache_bind _ inBlock]
  have place : bit % blockBits % 64 = bit % 64 := by
    rw [blockBits_eq]
    omega
  have tested : (self.group device (bit / blockBits) (bit % blockBits / 64)).testBit
      (bit % 64) = false := clear
  rw [place, Nat.one_shiftLeft, Nat.and_two_pow, tested, if_neg (by simp only [Bool.toNat_false,
    Nat.zero_mul, gt_iff_lt, Nat.lt_irrefl, not_false_eq_true])]

theorem clearBit_setBit {bit : Nat} (clear : self.isSet device bit = false) :
    self.clearBit (self.setBit device bit) bit = device := by
  have bounded : self.group device (bit / blockBits) (bit % blockBits / 64) ||| 2 ^ (bit % 64) <
      256 ^ 8 :=
    Nat.or_lt_two_pow (group_lt _ _ _ _) (Nat.pow_lt_pow_right (by decide) (Nat.mod_lt _ (by decide)))
  have stored : self.group (self.setBit device bit) (bit / blockBits) (bit % blockBits / 64) =
      self.group device (bit / blockBits) (bit % blockBits / 64) ||| 2 ^ (bit % 64) := by
    rw [group, setBit, BlockDevice.readField_writeField, Nat.mod_eq_of_lt bounded]
  have restored := BitWord.or_two_pow_sub (show
    (self.group device (bit / blockBits) (bit % blockBits / 64)).testBit (bit % 64) = false
    from clear)
  rw [clearBit, stored, restored, setBit, BlockDevice.writeField_writeField, group,
    BlockDevice.writeField_readField]

/-- What the bitmap promises on every content of its blocks: `alloc` never panics and is
first fit, setting exactly the bit it returns, or returns `None`, changing nothing, exactly
when every bit is set; `dealloc` of a bit of the region clears exactly that bit when it is
set and fails its assertion when it is clear; `dealloc` undoes `alloc`; and `decomposition`
splits a bit into its block, group and place. -/
structure FirstFitContract (self : Bitmap) (device : BlockDevice) : Prop where
  alloc_ok : ∃ found next, self.alloc device = .ok (found, next)
  alloc_some : ∀ bit next, self.alloc device = .ok (some bit, next) →
    bit < self.maximum ∧ self.isSet device bit = false ∧
      (∀ other < bit, self.isSet device other = true) ∧
      (∀ other, self.isSet next other = (self.isSet device other || decide (other = bit))) ∧
      BlockDevice.Changes device next (bit / blockBits + self.startBlockId)
  alloc_none : (∃ next, self.alloc device = .ok (none, next)) ↔
    ∀ bit < self.maximum, self.isSet device bit = true
  alloc_none_unchanged : ∀ next, self.alloc device = .ok (none, next) → next = device
  dealloc_set : ∀ bit < self.maximum, self.isSet device bit = true →
    self.dealloc device bit = .ok (self.clearBit device bit) ∧
      ∀ other, self.isSet (self.clearBit device bit) other =
        (self.isSet device other && !decide (other = bit))
  dealloc_clear : ∀ bit < self.maximum, self.isSet device bit = false →
    self.dealloc device bit =
      .error "assertion failed: bitmap_block[bits64_pos] & (1u64 << inner_pos) > 0"
  dealloc_alloc : ∀ bit next, self.alloc device = .ok (some bit, next) →
    self.dealloc next bit = .ok device
  decomposition_split : ∀ bit, bit = (decomposition bit).1 * 4096 +
      (decomposition bit).2.1 * 64 + (decomposition bit).2.2 ∧
    (decomposition bit).2.1 < 64 ∧ (decomposition bit).2.2 < 64

theorem bitmap_first_fit (inside : self.startBlockId + self.blocks ≤ device.blocks) :
    FirstFitContract self device := by
  obtain ⟨found, call, first⟩ := self.alloc_spec device inside
  have returned : ∀ {other : Option Nat} {next : BlockDevice},
      self.alloc device = .ok (other, next) → other = found ∧ next = self.allocated device found :=
    fun {other next} again => by
      rw [call] at again
      obtain ⟨same, sameNext⟩ := Prod.mk.inj (Except.ok.inj again)
      exact ⟨same.symm, sameNext.symm⟩
  refine ⟨⟨found, _, call⟩, fun bit next again => ?_, ⟨fun ⟨next, again⟩ => ?_, fun full => ?_⟩,
    fun next again => ?_, fun bit below set => ?_, fun bit below clear => ?_,
    fun bit next again => ?_, fun bit => ?_⟩
  · obtain ⟨rfl, rfl⟩ := returned again
    obtain ⟨within, clear, least⟩ := first
    exact ⟨within, clear, least, self.isSet_setBit device bit, self.setBit_changes device bit⟩
  · obtain ⟨rfl, -⟩ := returned again
    exact first
  · have none : found = none := FirstFit.unique first (show FirstFit _ _ none from full)
    exact ⟨_, none ▸ call⟩
  · obtain ⟨rfl, rfl⟩ := returned again
    rfl
  · exact ⟨self.dealloc_eq_ok device |>.mpr ⟨self.block_inside device inside below, set, rfl⟩,
      self.isSet_clearBit device set⟩
  · exact self.dealloc_of_clear device (self.block_inside device inside below) clear
  · obtain ⟨rfl, rfl⟩ := returned again
    obtain ⟨within, clear, _⟩ := first
    have inBlock := self.block_inside device inside within
    refine (self.dealloc_eq_ok (self.setBit device bit)).mpr ⟨?_, ?_, ?_⟩
    · rwa [blocks_setBit]
    · rw [isSet_setBit, decide_eq_true rfl, Bool.or_true]
    · exact (self.clearBit_setBit device clear).symm
  · simp only [decomposition, blockBits_eq]
    omega

/-- A zeroed image of two blocks with a one-block bitmap after the super block. -/
theorem bitmap_first_fit_zeroed :
    (Bitmap.new 1 1).startBlockId + (Bitmap.new 1 1).blocks ≤ (⟨fun _ => 0, 2⟩ : BlockDevice).blocks ∧
      FirstFitContract (Bitmap.new 1 1) ⟨fun _ => 0, 2⟩ :=
  ⟨by decide, bitmap_first_fit _ _ (by decide)⟩

end Contract

end Bitmap

end EasyFs

end ChOs
