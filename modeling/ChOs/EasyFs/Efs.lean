import ChOs.EasyFs.Bitmap
import ChOs.EasyFs.Layout

set_option autoImplicit false

/- `EasyFileSystem` (`easy-fs/src/efs.rs`): the layout of a volume and its allocators. -/

namespace ChOs

namespace EasyFs

structure EasyFileSystem where
  inodeBitmap : Bitmap
  dataBitmap : Bitmap
  inodeAreaStartBlock : UInt32
  dataAreaStartBlock : UInt32
  deriving DecidableEq, Repr

/-- The sizes `create` computes from `total_blocks` and `inode_bitmap_blocks`. -/
structure Regions where
  inodeAreaBlocks : UInt32
  inodeTotalBlocks : UInt32
  dataTotalBlocks : UInt32
  dataBitmapBlocks : UInt32
  dataAreaBlocks : UInt32
  deriving DecidableEq, Repr

namespace EasyFileSystem

/-- The arithmetic at the start of `create`. -/
def regions (totalBlocks inodeBitmapBlocks : UInt32) : Regions :=
  let inodeNum := (Bitmap.new 1 inodeBitmapBlocks.toNat).maximum
  let inodeAreaBlocks := UInt32.ofNat ((inodeNum * diskInodeSize + blockSz - 1) / blockSz)
  let inodeTotalBlocks := inodeBitmapBlocks + inodeAreaBlocks
  let dataTotalBlocks := totalBlocks - 1 - inodeTotalBlocks
  let dataBitmapBlocks := (dataTotalBlocks + 4096) / 4097
  let dataAreaBlocks := dataTotalBlocks - dataBitmapBlocks
  ⟨inodeAreaBlocks, inodeTotalBlocks, dataTotalBlocks, dataBitmapBlocks, dataAreaBlocks⟩

/-- The volume `create` lays out. -/
def layout (totalBlocks inodeBitmapBlocks : UInt32) : EasyFileSystem :=
  let sizes := regions totalBlocks inodeBitmapBlocks
  { inodeBitmap := Bitmap.new 1 inodeBitmapBlocks.toNat
    dataBitmap := Bitmap.new (1 + inodeBitmapBlocks + sizes.inodeAreaBlocks).toNat
      sizes.dataBitmapBlocks.toNat
    inodeAreaStartBlock := 1 + inodeBitmapBlocks
    dataAreaStartBlock := 1 + sizes.inodeTotalBlocks + sizes.dataBitmapBlocks }

/-- `get_disk_inode_pos`: the block of an inode and its offset in the block. -/
def getDiskInodePos (self : EasyFileSystem) (inodeId : UInt32) : UInt32 × Nat :=
  let inodeSize := diskInodeSize
  let inodesPerBlock := UInt32.ofNat (blockSz / inodeSize)
  let blockId := self.inodeAreaStartBlock + inodeId / inodesPerBlock
  (blockId, (inodeId % inodesPerBlock).toNat * inodeSize)

def getDataBlockId (self : EasyFileSystem) (dataBlockId : UInt32) : UInt32 :=
  self.dataAreaStartBlock + dataBlockId

/-- The body that `alloc_inode` and `alloc_data` share: a bit of `bitmap`, unwrapped, and
the number `toId` makes of it. -/
def allocBit (bitmap : Bitmap) (toId : Nat → UInt32) (device : BlockDevice) :
    Except String (UInt32 × BlockDevice) := do
  let (found, device) ← bitmap.alloc device
  match found with
  | none => .error unwrapNone
  | some bit => .ok (toId bit, device)

/-- `alloc_inode`: the bit is the inode number, cast by `as u32`. -/
def allocInode (self : EasyFileSystem) (device : BlockDevice) :
    Except String (UInt32 × BlockDevice) :=
  allocBit self.inodeBitmap UInt32.ofNat device

/-- `alloc_data`: the block number on the device, not the bit. -/
def allocData (self : EasyFileSystem) (device : BlockDevice) :
    Except String (UInt32 × BlockDevice) :=
  allocBit self.dataBitmap (fun bit => UInt32.ofNat bit + self.dataAreaStartBlock) device

def deallocData (self : EasyFileSystem) (device : BlockDevice) (blockId : UInt32) :
    Except String BlockDevice := do
  device.getBlockCache blockId.toNat
  let device := device.zeroBlock blockId.toNat
  self.dataBitmap.dealloc device (blockId - self.dataAreaStartBlock).toNat

/-- The sizes given to `create` leave room for the data regions:
`total_blocks > 1 + inode_bitmap_blocks + inode_area_blocks`, with `inode_area_blocks` as
`create` computes it. -/
def Admits (totalBlocks inodeBitmapBlocks : UInt32) : Prop :=
  1 + inodeBitmapBlocks.toNat + (regions totalBlocks inodeBitmapBlocks).inodeAreaBlocks.toNat <
    totalBlocks.toNat

instance (totalBlocks inodeBitmapBlocks : UInt32) : Decidable (Admits totalBlocks inodeBitmapBlocks) :=
  Nat.decLt _ _

/-- The loop of `create` that zeroes blocks `0..total_blocks`. -/
def zeroBlocks (device : BlockDevice) : List Nat → Except String BlockDevice
  | [] => .ok device
  | blockId :: rest => do
      device.getBlockCache blockId
      zeroBlocks (device.zeroBlock blockId) rest

def create (device : BlockDevice) (totalBlocks inodeBitmapBlocks : UInt32) :
    Except String (EasyFileSystem × BlockDevice) := do
  let sizes := regions totalBlocks inodeBitmapBlocks
  let efs := layout totalBlocks inodeBitmapBlocks
  let device ← zeroBlocks device (List.range totalBlocks.toNat)
  device.getBlockCache 0
  let device := writeSuperBlock device 0 (SuperBlock.init totalBlocks inodeBitmapBlocks
    sizes.inodeAreaBlocks sizes.dataBitmapBlocks sizes.dataAreaBlocks)
  let (root, device) ← efs.allocInode device
  if root ≠ 0 then .error (assertEqFailed root.toNat 0)
  else
    let (rootInodeBlockId, rootInodeOffset) := efs.getDiskInodePos 0
    device.getBlockCache rootInodeBlockId.toNat
    let inode := readDiskInode device rootInodeBlockId.toNat rootInodeOffset
    .ok (efs, writeDiskInode device rootInodeBlockId.toNat rootInodeOffset (inode.init .directory))

/-- The volume that `create` writes: blocks `0..total_blocks` zeroed, then the super block,
bit 0 of the inode bitmap and the root directory's disk inode. -/
def formatted (device : BlockDevice) (totalBlocks inodeBitmapBlocks : UInt32) : BlockDevice :=
  let sizes := regions totalBlocks inodeBitmapBlocks
  let efs := layout totalBlocks inodeBitmapBlocks
  let device := writeSuperBlock (device.zeroPrefix totalBlocks.toNat) 0
    (SuperBlock.init totalBlocks inodeBitmapBlocks sizes.inodeAreaBlocks sizes.dataBitmapBlocks
      sizes.dataAreaBlocks)
  let device := efs.inodeBitmap.setBit device 0
  let (rootInodeBlockId, rootInodeOffset) := efs.getDiskInodePos 0
  let inode := readDiskInode device rootInodeBlockId.toNat rootInodeOffset
  writeDiskInode device rootInodeBlockId.toNat rootInodeOffset (inode.init .directory)

/-- `open`: the layout read back from the super block. -/
def «open» (device : BlockDevice) : Except String EasyFileSystem := do
  device.getBlockCache 0
  let superBlock := readSuperBlock device 0
  if !superBlock.isValid then .error "Error loading EFS!"
  else
    let inodeTotalBlocks := superBlock.inodeBitmapBlocks + superBlock.inodeAreaBlocks
    .ok { inodeBitmap := Bitmap.new 1 superBlock.inodeBitmapBlocks.toNat
          dataBitmap := Bitmap.new (1 + inodeTotalBlocks).toNat superBlock.dataBitmapBlocks.toNat
          inodeAreaStartBlock := 1 + superBlock.inodeBitmapBlocks
          dataAreaStartBlock := 1 + inodeTotalBlocks + superBlock.dataBitmapBlocks }

section Spec

variable (self : EasyFileSystem) (device : BlockDevice)

theorem getDiskInodePos_zero : self.getDiskInodePos 0 = (self.inodeAreaStartBlock, 0) := by
  rw [getDiskInodePos, UInt32.zero_div, UInt32.add_zero, UInt32.zero_mod, UInt32.toNat_zero,
    Nat.zero_mul]

theorem allocBit_eq_ok (bitmap : Bitmap) (toId : Nat → UInt32) {value : UInt32}
    {next : BlockDevice} :
    allocBit bitmap toId device = .ok (value, next) ↔
      ∃ bit, bitmap.alloc device = .ok (some bit, next) ∧ value = toId bit := by
  unfold allocBit
  cases call : bitmap.alloc device with
  | error message =>
      exact ⟨fun impossible => (by cases impossible), fun ⟨_, failed, _⟩ => (by cases failed)⟩
  | ok result =>
      obtain ⟨found, after⟩ := result
      cases found with
      | none => exact ⟨fun impossible => (by cases impossible), fun ⟨_, same, _⟩ => (by cases same)⟩
      | some bit =>
          constructor
          · intro returned
            simp only [bind, Except.bind, Except.ok.injEq, Prod.mk.injEq] at returned
            exact ⟨bit, by rw [returned.2], returned.1.symm⟩
          · rintro ⟨other, same, rfl⟩
            simp only [Except.ok.injEq, Prod.mk.injEq, Option.some.injEq] at same
            obtain ⟨rfl, rfl⟩ := same
            rfl

theorem zeroBlocks_append (first rest : List Nat) :
    zeroBlocks device (first ++ rest) = zeroBlocks device first >>= fun device => zeroBlocks device rest := by
  induction first generalizing device with
  | nil => rfl
  | cons blockId first ih =>
      rw [List.cons_append, zeroBlocks, zeroBlocks]
      unfold BlockDevice.getBlockCache
      split
      · exact ih (device.zeroBlock blockId)
      · rfl

theorem zeroPrefix_zero : device.zeroPrefix 0 = device := by
  have unchanged : (fun target => if target < BlockDevice.address 0 0 then (0 : UInt8)
      else device.bytes target) = device.bytes :=
    funext fun target => if_neg (by unfold BlockDevice.address; omega)
  rw [BlockDevice.zeroPrefix, unchanged]

theorem zeroPrefix_succ (count : Nat) :
    (device.zeroPrefix count).zeroBlock count = device.zeroPrefix (count + 1) := by
  unfold BlockDevice.zeroPrefix BlockDevice.zeroBlock
  congr 1
  funext target
  by_cases block : BlockDevice.address count 0 ≤ target ∧
      target < BlockDevice.address count 0 + blockSz
  · obtain ⟨index, rfl⟩ : ∃ index, target = BlockDevice.address count 0 + index :=
      ⟨target - BlockDevice.address count 0, by omega⟩
    rw [ByteMemory.writeBytes_inside _ _ _ _ (by rw [List.length_replicate]; omega),
      List.getElem_replicate, if_pos (by unfold BlockDevice.address blockSz at *; omega)]
  · rw [ByteMemory.writeBytes_outside _ _ _ _ (by rw [List.length_replicate]; omega)]
    dsimp only
    by_cases low : target < BlockDevice.address count 0
    · rw [if_pos low, if_pos (by unfold BlockDevice.address blockSz at *; omega)]
    · rw [if_neg low, if_neg (by unfold BlockDevice.address blockSz at *; omega)]

theorem zeroBlocks_range (count : Nat) (fits : count ≤ device.blocks) :
    zeroBlocks device (List.range count) = .ok (device.zeroPrefix count) := by
  induction count with
  | zero => rw [List.range_zero, zeroPrefix_zero]; rfl
  | succ count ih =>
      rw [List.range_succ, zeroBlocks_append, ih (by omega)]
      show zeroBlocks (device.zeroPrefix count) [count] = _
      rw [zeroBlocks, BlockDevice.getBlockCache_bind _ (by exact fits), zeroPrefix_succ]
      rfl

section Create

variable {totalBlocks inodeBitmapBlocks : UInt32}

theorem inodeTotalBlocks_regions : (regions totalBlocks inodeBitmapBlocks).inodeTotalBlocks =
    inodeBitmapBlocks + (regions totalBlocks inodeBitmapBlocks).inodeAreaBlocks := rfl

theorem regions_toNat (admits : Admits totalBlocks inodeBitmapBlocks) :
    let sizes := regions totalBlocks inodeBitmapBlocks
    sizes.inodeTotalBlocks.toNat = inodeBitmapBlocks.toNat + sizes.inodeAreaBlocks.toNat ∧
      sizes.dataTotalBlocks.toNat = totalBlocks.toNat - 1 - sizes.inodeTotalBlocks.toNat ∧
      sizes.dataBitmapBlocks.toNat = (sizes.dataTotalBlocks.toNat + 4096) % 2 ^ 32 / 4097 ∧
      sizes.dataAreaBlocks.toNat = sizes.dataTotalBlocks.toNat - sizes.dataBitmapBlocks.toNat ∧
      sizes.dataBitmapBlocks.toNat ≤ sizes.dataTotalBlocks.toNat := by
  intro sizes
  have room : 1 + inodeBitmapBlocks.toNat + sizes.inodeAreaBlocks.toNat < totalBlocks.toNat :=
    admits
  have bounded := totalBlocks.toNat_lt
  have inodeTotal : sizes.inodeTotalBlocks.toNat =
      inodeBitmapBlocks.toNat + sizes.inodeAreaBlocks.toNat := by
    show (inodeBitmapBlocks + sizes.inodeAreaBlocks).toNat = _
    rw [UInt32.toNat_add]
    omega
  have one : (1 : UInt32) ≤ totalBlocks :=
    UInt32.le_iff_toNat_le.mpr (by rw [UInt32.toNat_one]; omega)
  have afterOne : (totalBlocks - 1).toNat = totalBlocks.toNat - 1 := by
    rw [UInt32.toNat_sub_of_le _ _ one, UInt32.toNat_one]
  have inodes : sizes.inodeTotalBlocks ≤ totalBlocks - 1 :=
    UInt32.le_iff_toNat_le.mpr (by rw [afterOne]; omega)
  have dataTotal :
      sizes.dataTotalBlocks.toNat = totalBlocks.toNat - 1 - sizes.inodeTotalBlocks.toNat := by
    show (totalBlocks - 1 - sizes.inodeTotalBlocks).toNat = _
    rw [UInt32.toNat_sub_of_le _ _ inodes, afterOne]
  have dataBitmap :
      sizes.dataBitmapBlocks.toNat = (sizes.dataTotalBlocks.toNat + 4096) % 2 ^ 32 / 4097 := by
    show ((sizes.dataTotalBlocks + 4096) / 4097).toNat = _
    rw [UInt32.toNat_div, UInt32.toNat_add]
    rfl
  have fits : sizes.dataBitmapBlocks.toNat ≤ sizes.dataTotalBlocks.toNat := by
    rw [dataBitmap]
    omega
  refine ⟨inodeTotal, dataTotal, dataBitmap, ?_, fits⟩
  show (sizes.dataTotalBlocks - sizes.dataBitmapBlocks).toNat = _
  exact UInt32.toNat_sub_of_le _ _ (UInt32.le_iff_toNat_le.mpr fits)

theorem create_eq (fits : totalBlocks.toNat ≤ device.blocks)
    (admits : Admits totalBlocks inodeBitmapBlocks) (someInodes : 0 < inodeBitmapBlocks.toNat) :
    create device totalBlocks inodeBitmapBlocks =
      .ok (layout totalBlocks inodeBitmapBlocks, formatted device totalBlocks inodeBitmapBlocks) := by
  have room : 1 + inodeBitmapBlocks.toNat +
      (regions totalBlocks inodeBitmapBlocks).inodeAreaBlocks.toNat < totalBlocks.toNat := admits
  let sizes := regions totalBlocks inodeBitmapBlocks
  let efs := layout totalBlocks inodeBitmapBlocks
  let written := writeSuperBlock (device.zeroPrefix totalBlocks.toNat) 0
    (SuperBlock.init totalBlocks inodeBitmapBlocks sizes.inodeAreaBlocks sizes.dataBitmapBlocks
      sizes.dataAreaBlocks)
  have clear : efs.inodeBitmap.FilledBelow written 0 := by
    intro bit below
    have block : bit / blockBits < inodeBitmapBlocks.toNat :=
      Nat.div_lt_of_lt_mul (by rw [Nat.mul_comm]; exact below)
    have changes : BlockDevice.Changes (device.zeroPrefix totalBlocks.toNat) written 0 :=
      writeSuperBlock_changes _
    have notSuper : bit / blockBits + efs.inodeBitmap.startBlockId ≠ 0 :=
      Nat.succ_ne_zero _
    have zeroed : bit / blockBits + efs.inodeBitmap.startBlockId < totalBlocks.toNat :=
      Nat.lt_of_lt_of_le (Nat.add_lt_add_right block 1) (by omega)
    rw [Bitmap.isSet_changes _ _ changes notSuper, Bitmap.isSet, Bitmap.group,
      BlockDevice.readField_zeroPrefix_below _ _ _ zeroed (Bitmap.group_inside bit),
      Nat.zero_testBit, decide_eq_false (Nat.not_lt_zero bit)]
  obtain ⟨call, -⟩ := efs.inodeBitmap.alloc_of_filledBelow written
    (by show 1 + inodeBitmapBlocks.toNat ≤ device.blocks; omega) clear
    (Nat.mul_pos someInodes (by decide))
  have root : efs.allocInode written = .ok (UInt32.ofNat 0, efs.inodeBitmap.setBit written 0) :=
    (allocBit_eq_ok written _ _).mpr ⟨0, call, rfl⟩
  have rootPos : efs.getDiskInodePos 0 = (1 + inodeBitmapBlocks, 0) := getDiskInodePos_zero efs
  have rootBlock : (1 + inodeBitmapBlocks).toNat < device.blocks := by
    rw [UInt32.toNat_add, UInt32.toNat_one]
    omega
  have cleared := zeroBlocks_range device totalBlocks.toNat fits
  unfold formatted
  have superBlock : (device.zeroPrefix totalBlocks.toNat).getBlockCache 0 = .ok () :=
    (BlockDevice.getBlockCache_eq_ok _).mpr (by show 0 < device.blocks; omega)
  have rootCached : (efs.inodeBitmap.setBit written 0).getBlockCache (1 + inodeBitmapBlocks).toNat =
      .ok () :=
    (BlockDevice.getBlockCache_eq_ok _).mpr rootBlock
  simp only [efs, written, sizes] at root rootPos rootCached
  simp only [create, cleared, bind, Except.bind, superBlock]
  rw [root]
  simp only [rootPos, if_neg (show ¬UInt32.ofNat 0 ≠ 0 from fun differ => differ rfl), rootCached]

@[simp] theorem blocks_formatted (totalBlocks inodeBitmapBlocks : UInt32) :
    (formatted device totalBlocks inodeBitmapBlocks).blocks = device.blocks := rfl

theorem rootBlock_toNat (admits : Admits totalBlocks inodeBitmapBlocks) :
    (1 + inodeBitmapBlocks).toNat = 1 + inodeBitmapBlocks.toNat := by
  have room : 1 + inodeBitmapBlocks.toNat +
      (regions totalBlocks inodeBitmapBlocks).inodeAreaBlocks.toNat < totalBlocks.toNat := admits
  have bounded := totalBlocks.toNat_lt
  rw [UInt32.toNat_add, UInt32.toNat_one]
  omega

theorem readSuperBlock_formatted (admits : Admits totalBlocks inodeBitmapBlocks) :
    let sizes := regions totalBlocks inodeBitmapBlocks
    readSuperBlock (formatted device totalBlocks inodeBitmapBlocks) 0 =
      SuperBlock.init totalBlocks inodeBitmapBlocks sizes.inodeAreaBlocks sizes.dataBitmapBlocks
        sizes.dataAreaBlocks := by
  intro sizes
  let efs := layout totalBlocks inodeBitmapBlocks
  let written := writeSuperBlock (device.zeroPrefix totalBlocks.toNat) 0
    (SuperBlock.init totalBlocks inodeBitmapBlocks sizes.inodeAreaBlocks sizes.dataBitmapBlocks
      sizes.dataAreaBlocks)
  have marked : BlockDevice.Changes written (efs.inodeBitmap.setBit written 0) 1 :=
    efs.inodeBitmap.setBit_changes written 0
  unfold formatted
  simp only [getDiskInodePos_zero]
  rw [readSuperBlock_changes (writeDiskInode_changes _ (by decide))
      (by rw [layout, rootBlock_toNat admits]; omega),
    readSuperBlock_changes marked (by decide), readSuperBlock_writeSuperBlock]

/-- `open` reads back the layout `create` chose. -/
theorem open_formatted (fits : totalBlocks.toNat ≤ device.blocks)
    (admits : Admits totalBlocks inodeBitmapBlocks) :
    «open» (formatted device totalBlocks inodeBitmapBlocks) =
      .ok (layout totalBlocks inodeBitmapBlocks) := by
  have room : 1 + inodeBitmapBlocks.toNat +
      (regions totalBlocks inodeBitmapBlocks).inodeAreaBlocks.toNat < totalBlocks.toNat := admits
  have cached : (formatted device totalBlocks inodeBitmapBlocks).getBlockCache 0 = .ok () :=
    (BlockDevice.getBlockCache_eq_ok _).mpr (by show 0 < device.blocks; omega)
  simp only [«open», bind, Except.bind, cached, readSuperBlock_formatted device admits,
    SuperBlock.isValid, SuperBlock.init, beq_self_eq_true, Bool.not_true, Bool.false_eq_true,
    if_false, layout, inodeTotalBlocks_regions, UInt32.add_assoc]

/-- `open` of a zeroed image of 1030 blocks that `create` formatted with one block of inode
bitmap reads back its layout. -/
theorem open_formatted_image : «open» (formatted ⟨fun _ => 0, 1030⟩ 1030 1) = .ok (layout 1030 1) :=
  open_formatted ⟨fun _ => 0, 1030⟩ (by decide) (by decide)

end Create

end Spec

end EasyFileSystem

end EasyFs

end ChOs
