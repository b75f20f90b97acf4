import ChOs.EasyFs.Efs
import ChOs.Library.Transition

set_option autoImplicit false

/- The volume `create` lays out, and the runs of its allocators. -/

namespace ChOs

namespace EasyFs

namespace EasyFileSystem

variable {totalBlocks inodeBitmapBlocks : UInt32}

section Regions

theorem starts_toNat (admits : Admits totalBlocks inodeBitmapBlocks) :
    (layout totalBlocks inodeBitmapBlocks).inodeAreaStartBlock.toNat =
        1 + inodeBitmapBlocks.toNat ∧
      (layout totalBlocks inodeBitmapBlocks).dataBitmap.startBlockId =
        1 + inodeBitmapBlocks.toNat + (regions totalBlocks inodeBitmapBlocks).inodeAreaBlocks.toNat ∧
      (layout totalBlocks inodeBitmapBlocks).dataAreaStartBlock.toNat =
        1 + inodeBitmapBlocks.toNat + (regions totalBlocks inodeBitmapBlocks).inodeAreaBlocks.toNat +
          (regions totalBlocks inodeBitmapBlocks).dataBitmapBlocks.toNat := by
  have room : 1 + inodeBitmapBlocks.toNat +
      (regions totalBlocks inodeBitmapBlocks).inodeAreaBlocks.toNat < totalBlocks.toNat := admits
  obtain ⟨inodeTotal, dataTotal, -, -, fits⟩ := regions_toNat admits
  have bounded := totalBlocks.toNat_lt
  refine ⟨rootBlock_toNat admits, ?_, ?_⟩
  · show (1 + inodeBitmapBlocks + (regions totalBlocks inodeBitmapBlocks).inodeAreaBlocks).toNat = _
    rw [UInt32.toNat_add, rootBlock_toNat admits]
    omega
  · show (1 + (regions totalBlocks inodeBitmapBlocks).inodeTotalBlocks +
      (regions totalBlocks inodeBitmapBlocks).dataBitmapBlocks).toNat = _
    rw [UInt32.toNat_add, UInt32.toNat_add, UInt32.toNat_one]
    omega

end Regions

section Inodes

theorem inodeAreaBlocks_toNat :
    (regions totalBlocks inodeBitmapBlocks).inodeAreaBlocks.toNat =
      inodeBitmapBlocks.toNat * 1024 % 2 ^ 32 := by
  show (UInt32.ofNat ((inodeBitmapBlocks.toNat * blockBits * diskInodeSize + blockSz - 1) /
    blockSz)).toNat = _
  rw [UInt32.toNat_ofNat', blockBits_eq]
  unfold diskInodeSize blockSz
  congr 1
  omega

-- with `inode_bitmap_blocks = 2^22` the `as u32` leaves no inode area at all
example : (regions (2 ^ 22 + 2) (2 ^ 22)).inodeAreaBlocks = 0 ∧ Admits (2 ^ 22 + 2) (2 ^ 22) := by
  decide

theorem getDiskInodePos_inside (admits : Admits totalBlocks inodeBitmapBlocks)
    (untruncated : inodeBitmapBlocks.toNat < 2 ^ 22) {inodeId : Nat}
    (below : inodeId < (layout totalBlocks inodeBitmapBlocks).inodeBitmap.maximum) :
    let position := (layout totalBlocks inodeBitmapBlocks).getDiskInodePos (UInt32.ofNat inodeId)
    (layout totalBlocks inodeBitmapBlocks).inodeAreaStartBlock.toNat ≤ position.1.toNat ∧
      position.1.toNat < (layout totalBlocks inodeBitmapBlocks).inodeAreaStartBlock.toNat +
        (regions totalBlocks inodeBitmapBlocks).inodeAreaBlocks.toNat ∧
      position.2 + diskInodeSize ≤ blockSz := by
  intro position
  have room : 1 + inodeBitmapBlocks.toNat +
      (regions totalBlocks inodeBitmapBlocks).inodeAreaBlocks.toNat < totalBlocks.toNat := admits
  have area : (regions totalBlocks inodeBitmapBlocks).inodeAreaBlocks.toNat =
      inodeBitmapBlocks.toNat * 1024 := by
    rw [inodeAreaBlocks_toNat]
    exact Nat.mod_eq_of_lt (by omega)
  have inodes : inodeId < inodeBitmapBlocks.toNat * 4096 := below
  have bounded := totalBlocks.toNat_lt
  have start : (layout totalBlocks inodeBitmapBlocks).inodeAreaStartBlock.toNat =
      1 + inodeBitmapBlocks.toNat := rootBlock_toNat admits
  have id : (UInt32.ofNat inodeId).toNat = inodeId % 2 ^ 32 := UInt32.toNat_ofNat'
  have perBlock : (UInt32.ofNat (blockSz / diskInodeSize)).toNat = 4 := rfl
  have block : position.1.toNat = 1 + inodeBitmapBlocks.toNat + inodeId % 2 ^ 32 / 4 := by
    show ((layout totalBlocks inodeBitmapBlocks).inodeAreaStartBlock +
      UInt32.ofNat inodeId / UInt32.ofNat (blockSz / diskInodeSize)).toNat = _
    rw [UInt32.toNat_add, UInt32.toNat_div, id, perBlock, start]
    omega
  have offset : position.2 = inodeId % 2 ^ 32 % 4 * diskInodeSize := by
    show (UInt32.ofNat inodeId % UInt32.ofNat (blockSz / diskInodeSize)).toNat * diskInodeSize =
      _
    rw [UInt32.toNat_mod, id, perBlock]
  have inArea : inodeId % 2 ^ 32 / 4 < inodeBitmapBlocks.toNat * 1024 := by
    have := Nat.mod_le inodeId (2 ^ 32)
    omega
  rw [block, offset, start, area]
  unfold diskInodeSize blockSz
  omega

theorem allocInode_inside {device next : BlockDevice} {inodeId : UInt32}
    (admits : Admits totalBlocks inodeBitmapBlocks) (untruncated : inodeBitmapBlocks.toNat < 2 ^ 22)
    (fits : totalBlocks.toNat ≤ device.blocks)
    (call : (layout totalBlocks inodeBitmapBlocks).allocInode device = .ok (inodeId, next)) :
    let position := (layout totalBlocks inodeBitmapBlocks).getDiskInodePos inodeId
    (layout totalBlocks inodeBitmapBlocks).inodeAreaStartBlock.toNat ≤ position.1.toNat ∧
      position.1.toNat < (layout totalBlocks inodeBitmapBlocks).inodeAreaStartBlock.toNat +
        (regions totalBlocks inodeBitmapBlocks).inodeAreaBlocks.toNat ∧
      position.2 + diskInodeSize ≤ blockSz := by
  have room : 1 + inodeBitmapBlocks.toNat +
      (regions totalBlocks inodeBitmapBlocks).inodeAreaBlocks.toNat < totalBlocks.toNat := admits
  obtain ⟨bit, allocCall, rfl⟩ := (allocBit_eq_ok _ _ _).mp call
  obtain ⟨found, specCall, first⟩ := (layout totalBlocks inodeBitmapBlocks).inodeBitmap.alloc_spec
    device (by show 1 + inodeBitmapBlocks.toNat ≤ device.blocks; omega)
  rw [allocCall] at specCall
  obtain ⟨rfl, -⟩ := Prod.mk.inj (Except.ok.inj specCall)
  exact getDiskInodePos_inside admits untruncated first.1

end Inodes

section Data

theorem allocData_inside {device next : BlockDevice} {blockId : UInt32}
    (admits : Admits totalBlocks inodeBitmapBlocks) (fits : totalBlocks.toNat ≤ device.blocks)
    (call : (layout totalBlocks inodeBitmapBlocks).allocData device = .ok (blockId, next))
    (free : ∃ bit < (regions totalBlocks inodeBitmapBlocks).dataAreaBlocks.toNat,
      (layout totalBlocks inodeBitmapBlocks).dataBitmap.isSet device bit = false) :
    (layout totalBlocks inodeBitmapBlocks).dataAreaStartBlock.toNat ≤ blockId.toNat ∧
      blockId.toNat < totalBlocks.toNat := by
  obtain ⟨inodeTotal, dataTotal, -, dataArea, spare⟩ := regions_toNat admits
  obtain ⟨-, bitmapStart, dataStart⟩ := starts_toNat admits
  have room : 1 + inodeBitmapBlocks.toNat +
      (regions totalBlocks inodeBitmapBlocks).inodeAreaBlocks.toNat < totalBlocks.toNat := admits
  obtain ⟨bit, allocCall, rfl⟩ := (allocBit_eq_ok _ _ _).mp call
  obtain ⟨found, specCall, first⟩ := (layout totalBlocks inodeBitmapBlocks).dataBitmap.alloc_spec
    device (by
      show _ + (regions totalBlocks inodeBitmapBlocks).dataBitmapBlocks.toNat ≤ _
      rw [bitmapStart]
      omega)
  rw [allocCall] at specCall
  obtain ⟨rfl, -⟩ := Prod.mk.inj (Except.ok.inj specCall)
  obtain ⟨clearBit, belowArea, clear⟩ := free
  obtain ⟨-, -, least⟩ := first
  have early : bit ≤ clearBit := by
    by_contra later
    rw [least clearBit (by omega)] at clear
    cases clear
  have bounded := totalBlocks.toNat_lt
  have block : (UInt32.ofNat bit + (layout totalBlocks inodeBitmapBlocks).dataAreaStartBlock).toNat =
      bit + (layout totalBlocks inodeBitmapBlocks).dataAreaStartBlock.toNat := by
    rw [UInt32.toNat_add, UInt32.toNat_ofNat', dataStart]
    omega
  rw [block, dataStart]
  omega

end Data

section Runs

/-- One call of an allocator of the volume `efs` that returns. -/
inductive Step (efs : EasyFileSystem) : BlockDevice → BlockDevice → Prop
  | allocInode {device next : BlockDevice} {inodeId : UInt32} :
      efs.allocInode device = .ok (inodeId, next) → Step efs device next
  | allocData {device next : BlockDevice} {blockId : UInt32} :
      efs.allocData device = .ok (blockId, next) → Step efs device next
  | deallocData {device next : BlockDevice} {blockId : UInt32} :
      efs.deallocData device blockId = .ok next → Step efs device next

variable {efs : EasyFileSystem}

theorem Step.blocks {device next : BlockDevice} (step : Step efs device next) :
    next.blocks = device.blocks := by
  cases step with
  | allocInode call =>
      obtain ⟨bit, alloc, -⟩ := (allocBit_eq_ok _ _ _).mp call
      exact efs.inodeBitmap.alloc_blocks device alloc
  | allocData call =>
      obtain ⟨bit, alloc, -⟩ := (allocBit_eq_ok _ _ _).mp call
      exact efs.dataBitmap.alloc_blocks device alloc
  | @deallocData blockId call =>
      rw [EasyFileSystem.deallocData] at call
      by_cases inside : blockId.toNat < device.blocks
      · rw [BlockDevice.getBlockCache_bind _ inside] at call
        obtain ⟨-, -, rfl⟩ := (Bitmap.dealloc_eq_ok _ _).mp call
        rw [Bitmap.blocks_clearBit, BlockDevice.blocks_zeroBlock]
      · rw [BlockDevice.getBlockCache, if_neg inside] at call
        cases call

theorem reachable_blocks {start state : BlockDevice}
    (reached : Transition.Reachable (Step efs) start state) : state.blocks = start.blocks := by
  induction reached with
  | init => rfl
  | step _ last same => exact last.blocks.trans same

/-- In every state the allocators reach from the formatted volume, every inode number
`alloc_inode` returns has its disk inode inside the inode area, and every block
`alloc_data` returns while a block of the data area is free lies in the data area. -/
theorem reachable_allocations_inside {device state : BlockDevice}
    (admits : Admits totalBlocks inodeBitmapBlocks) (untruncated : inodeBitmapBlocks.toNat < 2 ^ 22)
    (fits : totalBlocks.toNat ≤ device.blocks)
    (reached : Transition.Reachable (Step (layout totalBlocks inodeBitmapBlocks))
      (formatted device totalBlocks inodeBitmapBlocks) state) :
    (∀ {inodeId next}, (layout totalBlocks inodeBitmapBlocks).allocInode state = .ok (inodeId, next) →
      let position := (layout totalBlocks inodeBitmapBlocks).getDiskInodePos inodeId
      (layout totalBlocks inodeBitmapBlocks).inodeAreaStartBlock.toNat ≤ position.1.toNat ∧
        position.1.toNat < (layout totalBlocks inodeBitmapBlocks).inodeAreaStartBlock.toNat +
          (regions totalBlocks inodeBitmapBlocks).inodeAreaBlocks.toNat ∧
        position.2 + diskInodeSize ≤ blockSz) ∧
    (∀ {blockId next}, (layout totalBlocks inodeBitmapBlocks).allocData state = .ok (blockId, next) →
      (∃ bit < (regions totalBlocks inodeBitmapBlocks).dataAreaBlocks.toNat,
        (layout totalBlocks inodeBitmapBlocks).dataBitmap.isSet state bit = false) →
      (layout totalBlocks inodeBitmapBlocks).dataAreaStartBlock.toNat ≤ blockId.toNat ∧
        blockId.toNat < totalBlocks.toNat) := by
  have inside : totalBlocks.toNat ≤ state.blocks := by
    rw [reachable_blocks reached, blocks_formatted]
    exact fits
  exact ⟨fun call => allocInode_inside admits untruncated inside call,
    fun call free => allocData_inside admits inside call free⟩

/-- From the volume `create` formats on 1030 blocks, an `alloc_inode` and then an `alloc_data`. -/
theorem formatted_allocations_inside :
    ∃ state, Transition.Reachable (Step (layout 1030 1)) (formatted ⟨fun _ => 0, 1030⟩ 1030 1) state ∧
    (∀ {inodeId next}, (layout 1030 1).allocInode state = .ok (inodeId, next) →
      let position := (layout 1030 1).getDiskInodePos inodeId
      (layout 1030 1).inodeAreaStartBlock.toNat ≤ position.1.toNat ∧
        position.1.toNat < (layout 1030 1).inodeAreaStartBlock.toNat + (regions 1030 1).inodeAreaBlocks.toNat ∧
        position.2 + diskInodeSize ≤ blockSz) ∧
    (∀ {blockId next}, (layout 1030 1).allocData state = .ok (blockId, next) →
      (∃ bit < (regions 1030 1).dataAreaBlocks.toNat,
        (layout 1030 1).dataBitmap.isSet state bit = false) →
      (layout 1030 1).dataAreaStartBlock.toNat ≤ blockId.toNat ∧ blockId.toNat < (1030 : UInt32).toNat) := by
  obtain ⟨state, reached⟩ : ∃ state,
      Transition.Reachable (Step (layout 1030 1)) (formatted ⟨fun _ => 0, 1030⟩ 1030 1) state := by
    have check : ((layout 1030 1).allocInode (formatted ⟨fun _ => 0, 1030⟩ 1030 1)).toOption.any
        (fun allocated => ((layout 1030 1).allocData allocated.2).toOption.any fun _ => true) = true := by
      decide +kernel
    obtain ⟨⟨inodeId, next⟩, allocated, check⟩ := ok_of_toOption_any check
    obtain ⟨result, allocatedData, -⟩ := ok_of_toOption_any check
    exact ⟨_, .step (.step .init (.allocInode allocated)) (.allocData allocatedData)⟩
  exact ⟨state, reached, reachable_allocations_inside (by decide) (by decide) (by decide) reached⟩

end Runs

section PastTheDevice

/-- The device after the first `count` bits of the data bitmap are set one by one, as
`count` calls of `alloc_data` leave a freshly formatted volume. -/
def fillData (efs : EasyFileSystem) (device : BlockDevice) : Nat → BlockDevice
  | 0 => device
  | count + 1 => efs.dataBitmap.setBit (fillData efs device count) count

@[simp] theorem blocks_fillData (efs : EasyFileSystem) (device : BlockDevice) (count : Nat) :
    (fillData efs device count).blocks = device.blocks := by
  induction count with
  | zero => rfl
  | succ count ih => rw [fillData, Bitmap.blocks_setBit, ih]

variable {device : BlockDevice}

theorem formatted_dataClear (admits : Admits totalBlocks inodeBitmapBlocks)
    (someInodes : 0 < inodeBitmapBlocks.toNat) (untruncated : inodeBitmapBlocks.toNat < 2 ^ 22) :
    (layout totalBlocks inodeBitmapBlocks).dataBitmap.FilledBelow
      (formatted device totalBlocks inodeBitmapBlocks) 0 := by
  obtain ⟨inodeTotal, dataTotal, -, -, fits⟩ := regions_toNat admits
  obtain ⟨areaStart, bitmapStart, -⟩ := starts_toNat admits
  have room : 1 + inodeBitmapBlocks.toNat +
      (regions totalBlocks inodeBitmapBlocks).inodeAreaBlocks.toNat < totalBlocks.toNat := admits
  have area : 0 < (regions totalBlocks inodeBitmapBlocks).inodeAreaBlocks.toNat := by
    rw [inodeAreaBlocks_toNat, Nat.mod_eq_of_lt (by omega)]
    omega
  intro bit below
  have block : bit / blockBits < (regions totalBlocks inodeBitmapBlocks).dataBitmapBlocks.toNat :=
    Nat.div_lt_of_lt_mul (by rw [Nat.mul_comm]; exact below)
  have after : 1 + inodeBitmapBlocks.toNat +
      (regions totalBlocks inodeBitmapBlocks).inodeAreaBlocks.toNat ≤
        bit / blockBits + (layout totalBlocks inodeBitmapBlocks).dataBitmap.startBlockId := by
    rw [bitmapStart]
    exact Nat.le_add_left _ _
  have before : bit / blockBits + (layout totalBlocks inodeBitmapBlocks).dataBitmap.startBlockId <
      totalBlocks.toNat := by
    rw [bitmapStart]
    omega
  unfold formatted
  simp only [getDiskInodePos_zero]
  rw [Bitmap.isSet_changes _ _ (writeDiskInode_changes _ (by decide)) (by rw [areaStart]; omega),
    Bitmap.isSet_changes _ _ (Bitmap.setBit_changes _ _ _)
      (by show _ ≠ 0 / blockBits + 1; rw [Nat.zero_div]; omega),
    Bitmap.isSet_changes _ _ (writeSuperBlock_changes _) (by omega), Bitmap.isSet, Bitmap.group,
    BlockDevice.readField_zeroPrefix_below _ _ _ before (Bitmap.group_inside bit),
    Nat.zero_testBit, decide_eq_false (Nat.not_lt_zero bit)]

section Filled

variable (fits : totalBlocks.toNat ≤ device.blocks) (admits : Admits totalBlocks inodeBitmapBlocks)
  (someInodes : 0 < inodeBitmapBlocks.toNat) (untruncated : inodeBitmapBlocks.toNat < 2 ^ 22)

include fits admits in
theorem dataBitmap_inside (count : Nat) :
    (layout totalBlocks inodeBitmapBlocks).dataBitmap.startBlockId +
        (layout totalBlocks inodeBitmapBlocks).dataBitmap.blocks ≤
      (fillData (layout totalBlocks inodeBitmapBlocks)
        (formatted device totalBlocks inodeBitmapBlocks) count).blocks := by
  obtain ⟨inodeTotal, dataTotal, -, -, spare⟩ := regions_toNat admits
  obtain ⟨-, bitmapStart, -⟩ := starts_toNat admits
  have room : 1 + inodeBitmapBlocks.toNat +
      (regions totalBlocks inodeBitmapBlocks).inodeAreaBlocks.toNat < totalBlocks.toNat := admits
  rw [blocks_fillData, blocks_formatted, bitmapStart]
  show _ + (regions totalBlocks inodeBitmapBlocks).dataBitmapBlocks.toNat ≤ _
  omega

include fits admits someInodes untruncated in
theorem fillData_filledBelow (count : Nat)
    (within : count ≤ (layout totalBlocks inodeBitmapBlocks).dataBitmap.maximum) :
    (layout totalBlocks inodeBitmapBlocks).dataBitmap.FilledBelow
      (fillData (layout totalBlocks inodeBitmapBlocks)
        (formatted device totalBlocks inodeBitmapBlocks) count) count := by
  induction count with
  | zero => exact formatted_dataClear admits someInodes untruncated
  | succ count ih =>
      exact ((layout totalBlocks inodeBitmapBlocks).dataBitmap.alloc_of_filledBelow _
        (dataBitmap_inside fits admits count) (ih (by omega)) within).2

include fits admits someInodes untruncated in
theorem allocData_fillData (count : Nat)
    (within : count < (layout totalBlocks inodeBitmapBlocks).dataBitmap.maximum) :
    (layout totalBlocks inodeBitmapBlocks).allocData
        (fillData (layout totalBlocks inodeBitmapBlocks)
          (formatted device totalBlocks inodeBitmapBlocks) count) =
      .ok (UInt32.ofNat count + (layout totalBlocks inodeBitmapBlocks).dataAreaStartBlock,
        fillData (layout totalBlocks inodeBitmapBlocks)
          (formatted device totalBlocks inodeBitmapBlocks) (count + 1)) :=
  (allocBit_eq_ok _ _ _).mpr ⟨count,
    ((layout totalBlocks inodeBitmapBlocks).dataBitmap.alloc_of_filledBelow _
      (dataBitmap_inside fits admits count)
      (fillData_filledBelow fits admits someInodes untruncated count (Nat.le_of_lt within)) within).1,
    rfl⟩

include fits admits someInodes untruncated in
theorem fillData_reachable (count : Nat)
    (within : count ≤ (layout totalBlocks inodeBitmapBlocks).dataBitmap.maximum) :
    Transition.Reachable (Step (layout totalBlocks inodeBitmapBlocks))
      (formatted device totalBlocks inodeBitmapBlocks)
      (fillData (layout totalBlocks inodeBitmapBlocks)
        (formatted device totalBlocks inodeBitmapBlocks) count) := by
  induction count with
  | zero => exact .init
  | succ count ih =>
      exact .step (ih (by omega))
        (.allocData (allocData_fillData fits admits someInodes untruncated count within))

include fits admits someInodes untruncated in
theorem allocData_past_device
    (spare : (regions totalBlocks inodeBitmapBlocks).dataAreaBlocks.toNat <
      (layout totalBlocks inodeBitmapBlocks).dataBitmap.maximum) :
    create device totalBlocks inodeBitmapBlocks =
        .ok (layout totalBlocks inodeBitmapBlocks, formatted device totalBlocks inodeBitmapBlocks) ∧
      ∃ state next, Transition.Reachable (Step (layout totalBlocks inodeBitmapBlocks))
          (formatted device totalBlocks inodeBitmapBlocks) state ∧
        (layout totalBlocks inodeBitmapBlocks).allocData state = .ok (totalBlocks, next) := by
  obtain ⟨inodeTotal, dataTotal, -, dataArea, bitmapFits⟩ := regions_toNat admits
  obtain ⟨-, -, dataStart⟩ := starts_toNat admits
  have room : 1 + inodeBitmapBlocks.toNat +
      (regions totalBlocks inodeBitmapBlocks).inodeAreaBlocks.toNat < totalBlocks.toNat := admits
  have last : UInt32.ofNat (regions totalBlocks inodeBitmapBlocks).dataAreaBlocks.toNat +
      (layout totalBlocks inodeBitmapBlocks).dataAreaStartBlock = totalBlocks := by
    rw [← UInt32.toNat_inj, UInt32.toNat_add, UInt32.toNat_ofNat', dataStart]
    have bounded := totalBlocks.toNat_lt
    omega
  refine ⟨create_eq device fits admits someInodes, _,
    fillData (layout totalBlocks inodeBitmapBlocks) (formatted device totalBlocks inodeBitmapBlocks)
      ((regions totalBlocks inodeBitmapBlocks).dataAreaBlocks.toNat + 1),
    fillData_reachable fits admits someInodes untruncated _ (Nat.le_of_lt spare), ?_⟩
  rw [allocData_fillData fits admits someInodes untruncated _ spare, last]

end Filled

/-- The image `easy_fs_pack` formats: `fs.img`, set to `16 * 2048` blocks of zeros. -/
def fsImage : BlockDevice := ⟨fun _ => 0, 16 * 2048⟩

/-- On the image of `easy_fs_pack`, 31734 calls of `alloc_data` fill the data area and
call 31735 returns block 32768, one past the last block of the image. -/
theorem fsImage_allocData_past_device :
    create fsImage (16 * 2048) 1 =
        .ok (layout (16 * 2048) 1, formatted fsImage (16 * 2048) 1) ∧
      ∃ state next, Transition.Reachable (Step (layout (16 * 2048) 1))
          (formatted fsImage (16 * 2048) 1) state ∧
        (layout (16 * 2048) 1).allocData state = .ok (16 * 2048, next) :=
  allocData_past_device (by decide) (by decide) (by decide) (by decide) (by decide)

example : (regions (16 * 2048) 1).dataAreaBlocks.toNat = 31734 ∧
    (layout (16 * 2048) 1).dataBitmap.maximum = 32768 := by decide

end PastTheDevice

end EasyFileSystem

end EasyFs

end ChOs
