import ChOs.Fs.FileStore

set_option autoImplicit false

/- The inode table of an easy-fs volume (`get_disk_inode_pos` and `alloc_inode` of
`easy-fs/src/efs.rs`, and the start of `Inode::create` in `easy-fs/src/vfs.rs`). -/

namespace ChOs

namespace EasyFs

open BlockDevice DiskInode

namespace EasyFileSystem

variable (self : EasyFileSystem)

/-- The inode of inode number `inodeId`, where `get_disk_inode_pos` puts it, as `find` and
`create` build it. -/
def inodeAt (inodeId : UInt32) : Inode :=
  let (blockId, blockOffset) := self.getDiskInodePos inodeId
  Inode.new blockId blockOffset

/-- The root directory and the files of inode numbers `1` to `count`, by number. -/
def inodesUpTo (count : Nat) : List Inode :=
  (List.range (count + 1)).map fun inodeId => self.inodeAt (UInt32.ofNat inodeId)

@[simp] theorem length_inodesUpTo (count : Nat) : (self.inodesUpTo count).length = count + 1 := by
  simp [inodesUpTo]

theorem getElem_inodesUpTo {count i : Nat} (found : i < (self.inodesUpTo count).length) :
    (self.inodesUpTo count)[i] = self.inodeAt (UInt32.ofNat i) := by
  simp [inodesUpTo]

theorem inodesUpTo_succ (count : Nat) :
    self.inodesUpTo (count + 1) = self.inodesUpTo count ++ [self.inodeAt (UInt32.ofNat (count + 1))] := by
  rw [inodesUpTo, List.range_succ, List.map_append, List.map_singleton]
  rfl

end EasyFileSystem

/-- The inode bitmap and the inode area as `create` lays them out: the bitmap lies before the
area, the area holds a disk inode for every bit of the bitmap, four to a block, and ends before
the data bitmap, and every bit is a `u32` inode number. -/
structure EasyFileSystem.InodeArea (fs : EasyFileSystem) : Prop where
  bitmapBefore : fs.inodeBitmap.startBlockId + fs.inodeBitmap.blocks ≤ fs.inodeAreaStartBlock.toNat
  areaBefore : fs.inodeAreaStartBlock.toNat + fs.inodeBitmap.maximum / 4 ≤ fs.dataBitmap.startBlockId
  numbered : fs.inodeBitmap.maximum ≤ 2 ^ 32

/-- The device after `create` initializes the disk inode of `inode` as `initialize` does. -/
def Inode.initialized (inode : Inode) (device : BlockDevice) (type_ : DiskInodeType) : BlockDevice :=
  writeDiskInode device inode.blockId inode.blockOffset ((inode.diskInodeOn device).init type_)

theorem Inode.Apart.symm {inode other : Inode} (apart : inode.Apart other) : other.Apart inode := by
  unfold Inode.Apart at *
  omega

section Slots

variable {fs : EasyFileSystem} (table : fs.InodeArea) {area blocks : Nat} (laid : fs.DataArea area blocks)
  {inodeId : Nat} (below : inodeId < fs.inodeBitmap.maximum)

include table laid below

theorem EasyFileSystem.InodeArea.inodeAt_eq :
    fs.inodeAt (UInt32.ofNat inodeId) =
      ⟨fs.inodeAreaStartBlock.toNat + inodeId / 4, inodeId % 4 * diskInodeSize⟩ := by
  have bounded := fs.dataAreaStartBlock.toNat_lt
  have before := laid.bitmapBelow
  have areaBefore := table.areaBefore
  have numbered := table.numbered
  have small : inodeId / 4 < fs.inodeBitmap.maximum / 4 := by
    unfold Bitmap.maximum at *
    rw [blockBits_eq] at *
    omega
  have id : (UInt32.ofNat inodeId).toNat = inodeId := by
    rw [UInt32.toNat_ofNat', Nat.mod_eq_of_lt (by omega)]
  have perBlock : (UInt32.ofNat (blockSz / diskInodeSize)).toNat = 4 := rfl
  simp only [EasyFileSystem.inodeAt, EasyFileSystem.getDiskInodePos, Inode.new, Inode.mk.injEq]
  rw [UInt32.toNat_add, UInt32.toNat_div, UInt32.toNat_mod, id, perBlock]
  exact ⟨by omega, rfl⟩

theorem EasyFileSystem.InodeArea.inodeAt_inArea :
    fs.inodeAreaStartBlock.toNat ≤ (fs.inodeAt (UInt32.ofNat inodeId)).blockId ∧
      (fs.inodeAt (UInt32.ofNat inodeId)).blockId < fs.dataBitmap.startBlockId ∧
      (fs.inodeAt (UInt32.ofNat inodeId)).blockOffset + diskInodeSize ≤ blockSz := by
  have areaBefore := table.areaBefore
  have small : inodeId / 4 < fs.inodeBitmap.maximum / 4 := by
    unfold Bitmap.maximum at *
    rw [blockBits_eq] at *
    omega
  rw [table.inodeAt_eq laid below]
  dsimp only
  unfold diskInodeSize blockSz
  omega

/-- The disk inodes of two numbers share no byte. -/
theorem EasyFileSystem.InodeArea.inodeAt_apart {otherId : Nat} (otherBelow : otherId < fs.inodeBitmap.maximum)
    (differ : inodeId ≠ otherId) :
    (fs.inodeAt (UInt32.ofNat inodeId)).Apart (fs.inodeAt (UInt32.ofNat otherId)) := by
  unfold Inode.Apart
  rw [table.inodeAt_eq laid below, table.inodeAt_eq laid otherBelow]
  dsimp only
  unfold diskInodeSize
  omega

end Slots

section InodeBitmap

variable {fs : EasyFileSystem} (table : fs.InodeArea)

include table

theorem EasyFileSystem.InodeArea.bitBlock_lt {bit : Nat} (below : bit < fs.inodeBitmap.maximum) :
    bit / blockBits + fs.inodeBitmap.startBlockId < fs.inodeAreaStartBlock.toNat := by
  have bitmapBefore := table.bitmapBefore
  unfold Bitmap.maximum at below
  have : bit / blockBits < fs.inodeBitmap.blocks := Nat.div_lt_of_lt_mul (by rw [Nat.mul_comm]; exact below)
  omega

theorem EasyFileSystem.InodeArea.bitmap_inside {area blocks : Nat} (laid : fs.DataArea area blocks) :
    fs.inodeBitmap.startBlockId + fs.inodeBitmap.blocks ≤ blocks := by
  have bitmapBefore := table.bitmapBefore
  have areaBefore := table.areaBefore
  have before := laid.bitmapBelow
  have inside := laid.inside
  omega

theorem Inode.Frame.keeps_beforeArea {area : Nat} {inode : Inode} {tree : List UInt32}
    {device device' : BlockDevice} (frame : inode.Frame fs area tree device device')
    (inArea : fs.inodeAreaStartBlock.toNat ≤ inode.blockId) :
    Keeps device device' fun blockId => blockId < fs.inodeAreaStartBlock.toNat := by
  have areaBefore := table.areaBefore
  refine ⟨frame.others.1, fun target before => frame.slots target (by omega) (Or.inl ?_)⟩
  unfold address blockSz at *
  omega

theorem EasyFileSystem.InodeArea.filledBelow_of_keeps {device device' : BlockDevice}
    (keeps : Keeps device device' fun blockId => blockId < fs.inodeAreaStartBlock.toNat) {count : Nat}
    (filled : fs.inodeBitmap.FilledBelow device count) : fs.inodeBitmap.FilledBelow device' count :=
  fun bit below => (fs.inodeBitmap.isSet_keeps keeps (table.bitBlock_lt below)).trans (filled bit below)

end InodeBitmap

theorem EasyFileSystem.allocInode_of_filledBelow {fs : EasyFileSystem} {device : BlockDevice} {count : Nat}
    (inside : fs.inodeBitmap.startBlockId + fs.inodeBitmap.blocks ≤ device.blocks)
    (filled : fs.inodeBitmap.FilledBelow device count) (room : count < fs.inodeBitmap.maximum) :
    fs.allocInode device = .ok (UInt32.ofNat count, fs.inodeBitmap.setBit device count) ∧
      fs.inodeBitmap.FilledBelow (fs.inodeBitmap.setBit device count) (count + 1) := by
  obtain ⟨call, filled'⟩ := fs.inodeBitmap.alloc_of_filledBelow device inside filled room
  exact ⟨(allocBit_eq_ok _ _ _).mpr ⟨count, call, rfl⟩, filled'⟩

section Append

variable {fs : EasyFileSystem} {area : Nat} {device device' : BlockDevice} {inodes : List Inode}

theorem Inode.initialized_changes {inode : Inode} (inBlock : inode.blockOffset + diskInodeSize ≤ blockSz)
    (type_ : DiskInodeType) : Changes device (inode.initialized device type_) inode.blockId :=
  writeDiskInode_changes _ inBlock

theorem Inode.readDiskInode_initialized {inode : Inode} (inside : inode.blockId < device.blocks)
    (inBlock : inode.blockOffset + diskInodeSize ≤ blockSz) (type_ : DiskInodeType) :
    inode.readDiskInode (inode.initialized device type_) = .ok ((inode.diskInodeOn device).init type_) := by
  rw [Inode.readDiskInode, getBlockCache_bind _ (by rw [(Inode.initialized_changes inBlock type_).1]; exact inside),
    Inode.initialized, readDiskInode_writeDiskInode]
  rfl

theorem FilesOnVolume.append (volume : FilesOnVolume fs area device inodes)
    (laid : fs.DataArea area device.blocks) {inode : Inode} {diskInode : DiskInode} {type_ : DiskInodeType}
    (keeps : Keeps device device' fun blockId => fs.dataBitmap.startBlockId ≤ blockId)
    (slots : ∀ other ∈ inodes, ∀ index < diskInodeSize,
      device'.bytes (address other.blockId other.blockOffset + index) =
        device.bytes (address other.blockId other.blockOffset + index))
    (located : inode.readDiskInode device' = .ok (diskInode.init type_))
    (inBlock : inode.blockOffset + diskInodeSize ≤ blockSz)
    (beforeBitmap : inode.blockId < fs.dataBitmap.startBlockId)
    (apart : ∀ other ∈ inodes, inode.Apart other) :
    FilesOnVolume fs area device' (inodes ++ [inode]) ∧
      contents (inodes ++ [inode]) device' = contents inodes device ++ [[]] ∧
      ∀ i (found : i < inodes.length), inodes[i].diskInodeOn device' = inodes[i].diskInodeOn device := by
  have areaStart := laid.bitmapBelow
  have bits : ∀ bit < area, fs.dataBitmap.isSet device' bit = fs.dataBitmap.isSet device bit :=
    fun bit _ => fs.dataBitmap.isSet_keeps keeps (Nat.le_add_left _ _)
  have kept : ∀ i (found : i < inodes.length),
      inodes[i].OnVolume fs area device' (inodes[i].diskInodeOn device) ∧
        inodes[i].treeOn device' = inodes[i].treeOn device ∧
        (inodes[i].diskInodeOn device).fileBytes device' = (inodes[i].diskInodeOn device).fileBytes device := by
    intro i found
    have onVolume := volume.onVolume i found
    obtain ⟨onVolume', tree, bytes⟩ := onVolume.of_keeps keeps
      (fun block member => by have := (onVolume.inArea block member).1; omega)
      (slots _ (List.getElem_mem found)) fun block member => by
        rw [bits _ (by have := onVolume.inArea block member; omega)]
        exact onVolume.marked block member
    have now := onVolume'.holds.diskInodeOn_eq
    refine ⟨onVolume', ?_, bytes⟩
    unfold Inode.treeOn
    rw [now]
    exact tree
  have same : ∀ i (found : i < inodes.length), inodes[i].diskInodeOn device' = inodes[i].diskInodeOn device :=
    fun i found => (kept i found).1.holds.diskInodeOn_eq
  have fresh := Inode.OnVolume.of_init located inBlock (keeps.1 ▸ laid) beforeBitmap
  have now : inode.diskInodeOn device' = diskInode.init type_ := fresh.holds.diskInodeOn_eq
  have empty : inode.treeOn device' = [] := by
    unfold Inode.treeOn
    rw [now, treeBlocks_init]
  have size : (diskInode.init type_).size.toNat = 0 := rfl
  have files : FilesOnVolume fs area device' (inodes ++ [inode]) := by
    refine ⟨fun i found => ?_, fun i j hi hj differ => ?_, ?_⟩
    · by_cases old : i < inodes.length
      · rw [List.getElem_append_left old, same i old]
        exact (kept i old).1
      · have last : i = inodes.length := by simp at found; omega
        subst last
        rw [List.getElem_concat_length rfl, now]
        exact fresh
    · by_cases oldI : i < inodes.length <;> by_cases oldJ : j < inodes.length
      · rw [List.getElem_append_left oldI, List.getElem_append_left oldJ, (kept i oldI).2.1,
          (kept j oldJ).2.1]
        exact volume.apart i j oldI oldJ differ
      · have last : j = inodes.length := by simp at hj; omega
        subst last
        rw [List.getElem_append_left oldI, List.getElem_concat_length rfl, empty]
        exact ⟨(apart _ (List.getElem_mem oldI)).symm, List.disjoint_nil_right _⟩
      · have last : i = inodes.length := by simp at hi; omega
        subst last
        rw [List.getElem_append_left oldJ, List.getElem_concat_length rfl, empty]
        exact ⟨apart _ (List.getElem_mem oldJ), List.disjoint_nil_left _⟩
      · simp at hi hj
        omega
    · have counted := volume.counted
      have sizes : inodes.map (fun other => blocksFor (other.diskInodeOn device').size.toNat) =
          inodes.map fun other => blocksFor (other.diskInodeOn device).size.toNat :=
        List.map_congr_left fun other member => by
          obtain ⟨i, found, rfl⟩ := List.getElem_of_mem member
          rw [same i found]
      rw [EasyFileSystem.freeBlocks, Bitmap.clearBits_of_keeps keeps fun _ _ => Nat.le_add_left _ _,
        List.map_append, List.sum_append, sizes, List.map_singleton, List.sum_singleton, now, size,
        show blocksFor 0 = 0 by decide, Nat.add_zero]
      exact counted
  have bytes : inodes.map (fun other => (other.diskInodeOn device').fileBytes device') =
      inodes.map fun other => (other.diskInodeOn device).fileBytes device :=
    List.map_congr_left fun other member => by
      obtain ⟨i, found, rfl⟩ := List.getElem_of_mem member
      rw [same i found, (kept i found).2.2]
  refine ⟨files, ?_, same⟩
  unfold contents
  rw [List.map_append, bytes, List.map_singleton, now,
    List.eq_nil_of_length_eq_zero (by rw [length_fileBytes, size] :
      ((diskInode.init type_).fileBytes device').length = 0)]

end Append

section Alloc

variable {fs : EasyFileSystem} (table : fs.InodeArea) {area : Nat} {device : BlockDevice} {count : Nat}

include table in
/-- `alloc_inode` and the `initialize` of the new disk inode, as `create` makes them, on a volume
whose inode bitmap has taken exactly the numbers of the root directory and its `count` files:
the new number is `count + 1`, and its file lies on the volume beside the others, empty, with
every other disk inode as it was. -/
theorem FilesOnVolume.allocInode (volume : FilesOnVolume fs area device (fs.inodesUpTo count))
    (filled : fs.inodeBitmap.FilledBelow device (count + 1)) (room : count + 1 < fs.inodeBitmap.maximum) :
    ∃ device1, fs.allocInode device = .ok (UInt32.ofNat (count + 1), device1) ∧
      (fs.inodeAt (UInt32.ofNat (count + 1))).blockId < device1.blocks ∧
      FilesOnVolume fs area ((fs.inodeAt (UInt32.ofNat (count + 1))).initialized device1 .file)
        (fs.inodesUpTo (count + 1)) ∧
      contents (fs.inodesUpTo (count + 1))
          ((fs.inodeAt (UInt32.ofNat (count + 1))).initialized device1 .file) =
        contents (fs.inodesUpTo count) device ++ [[]] ∧
      (∀ i (found : i < (fs.inodesUpTo count).length),
        (fs.inodesUpTo count)[i].diskInodeOn
            ((fs.inodeAt (UInt32.ofNat (count + 1))).initialized device1 .file) =
          (fs.inodesUpTo count)[i].diskInodeOn device) ∧
      fs.freeBlocks ((fs.inodeAt (UInt32.ofNat (count + 1))).initialized device1 .file) area =
        fs.freeBlocks device area ∧
      fs.inodeBitmap.FilledBelow ((fs.inodeAt (UInt32.ofNat (count + 1))).initialized device1 .file)
        (count + 2) := by
  have laid := (volume.onVolume 0 (by simp)).laid
  have areaStart := laid.bitmapBelow
  have areaBefore := table.areaBefore
  obtain ⟨call, filled1⟩ := EasyFileSystem.allocInode_of_filledBelow (table.bitmap_inside laid) filled room
  obtain ⟨inArea, beforeBitmap, inBlock⟩ := table.inodeAt_inArea laid room
  have bitBlock := table.bitBlock_lt room
  have setChanges := fs.inodeBitmap.setBit_changes device (count + 1)
  have initChanges : Changes (fs.inodeBitmap.setBit device (count + 1))
      ((fs.inodeAt (UInt32.ofNat (count + 1))).initialized (fs.inodeBitmap.setBit device (count + 1)) .file)
      (fs.inodeAt (UInt32.ofNat (count + 1))).blockId :=
    Inode.initialized_changes inBlock .file
  have inside : (fs.inodeAt (UInt32.ofNat (count + 1))).blockId < (fs.inodeBitmap.setBit device (count + 1)).blocks := by
    rw [setChanges.1]
    have := laid.inside
    omega
  have others : ∀ other ∈ fs.inodesUpTo count, ∃ otherId, otherId ≤ count ∧
      other = fs.inodeAt (UInt32.ofNat otherId) := fun other member => by
    simp only [EasyFileSystem.inodesUpTo, List.mem_map, List.mem_range] at member
    obtain ⟨otherId, below, rfl⟩ := member
    exact ⟨otherId, by omega, rfl⟩
  have keeps : Keeps device ((fs.inodeAt (UInt32.ofNat (count + 1))).initialized
      (fs.inodeBitmap.setBit device (count + 1)) .file) fun blockId => fs.dataBitmap.startBlockId ≤ blockId :=
    (setChanges.keeps fun kept => by omega).trans (initChanges.keeps fun kept => by omega)
  obtain ⟨files, moved, same⟩ := volume.append laid keeps
    (fun other member index below => by
      obtain ⟨otherId, early, rfl⟩ := others other member
      obtain ⟨otherArea, -, otherInBlock⟩ := table.inodeAt_inArea laid (show otherId < _ by omega)
      have apart := table.inodeAt_apart laid room (show otherId < _ by omega) (by omega)
      rw [Inode.initialized, writeDiskInode_outside _ _ _ _ (apart.outside inBlock otherInBlock below),
        setChanges.2 _ (Or.inr (by unfold address blockSz at *; omega))])
    (Inode.readDiskInode_initialized inside inBlock .file) inBlock beforeBitmap
    fun other member => by
      obtain ⟨otherId, early, rfl⟩ := others other member
      exact table.inodeAt_apart laid room (show otherId < _ by omega) (by omega)
  rw [← EasyFileSystem.inodesUpTo_succ] at files moved
  refine ⟨fs.inodeBitmap.setBit device (count + 1), call, inside, files, moved, same,
    Bitmap.clearBits_of_keeps keeps fun _ _ => Nat.le_add_left _ _, fun bit below => ?_⟩
  rw [Bitmap.isSet_changes _ _ initChanges
    (by have := table.bitBlock_lt below; omega)]
  exact filled1 bit below

end Alloc

section Formatted

variable {totalBlocks inodeBitmapBlocks : UInt32}

theorem EasyFileSystem.layout_inodeArea (admits : EasyFileSystem.Admits totalBlocks inodeBitmapBlocks)
    (few : inodeBitmapBlocks.toNat ≤ 2 ^ 20) :
    (EasyFileSystem.layout totalBlocks inodeBitmapBlocks).InodeArea := by
  obtain ⟨areaStart, bitmapStart, -⟩ := EasyFileSystem.starts_toNat admits
  have room : 1 + inodeBitmapBlocks.toNat +
      (EasyFileSystem.regions totalBlocks inodeBitmapBlocks).inodeAreaBlocks.toNat < totalBlocks.toNat := admits
  have area : (EasyFileSystem.regions totalBlocks inodeBitmapBlocks).inodeAreaBlocks.toNat =
      inodeBitmapBlocks.toNat * 1024 := by
    rw [EasyFileSystem.inodeAreaBlocks_toNat, Nat.mod_eq_of_lt (by omega)]
  have inodeBitmap : (EasyFileSystem.layout totalBlocks inodeBitmapBlocks).inodeBitmap =
      ⟨1, inodeBitmapBlocks.toNat⟩ := rfl
  refine ⟨?_, ?_, ?_⟩
  all_goals simp only [inodeBitmap, areaStart, bitmapStart, Bitmap.maximum, blockBits_eq, area]
  all_goals omega

theorem EasyFileSystem.formatted_inodeTaken {device : BlockDevice}
    (admits : EasyFileSystem.Admits totalBlocks inodeBitmapBlocks) :
    (EasyFileSystem.layout totalBlocks inodeBitmapBlocks).inodeBitmap.FilledBelow
      (EasyFileSystem.formatted device totalBlocks inodeBitmapBlocks) 1 := by
  obtain ⟨areaStart, -, -⟩ := EasyFileSystem.starts_toNat admits
  have room : 1 + inodeBitmapBlocks.toNat +
      (EasyFileSystem.regions totalBlocks inodeBitmapBlocks).inodeAreaBlocks.toNat < totalBlocks.toNat := admits
  intro bit below
  have block : bit / blockBits < inodeBitmapBlocks.toNat :=
    Nat.div_lt_of_lt_mul (by rw [Nat.mul_comm]; exact below)
  have inodeBitmap : (EasyFileSystem.layout totalBlocks inodeBitmapBlocks).inodeBitmap.startBlockId = 1 := rfl
  have superBlock : bit / blockBits + 1 ≠ 0 := Nat.succ_ne_zero _
  have rootBlock : bit / blockBits + 1 ≠ 1 + inodeBitmapBlocks.toNat := by
    rw [blockBits_eq] at block ⊢
    omega
  have zeroed : bit / blockBits + 1 < totalBlocks.toNat := by
    rw [blockBits_eq] at block ⊢
    omega
  unfold EasyFileSystem.formatted
  simp only [EasyFileSystem.getDiskInodePos_zero]
  rw [Bitmap.isSet_changes _ _ (writeDiskInode_changes _ (by decide)) (by rw [areaStart, inodeBitmap]; exact rootBlock),
    Bitmap.isSet_setBit, Bitmap.isSet_changes _ _ (writeSuperBlock_changes _) (by rw [inodeBitmap]; exact superBlock),
    Bitmap.isSet, Bitmap.group, BlockDevice.readField_zeroPrefix_below _ _ _ (by rw [inodeBitmap]; exact zeroed)
      (Bitmap.group_inside bit), Nat.zero_testBit, Bool.false_or]
  exact decide_eq_decide.mpr (by omega)

end Formatted

end EasyFs

end ChOs
