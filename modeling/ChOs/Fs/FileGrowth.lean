import ChOs.Fs.InodeFile
import ChOs.EasyFs.IndexFrame
import ChOs.EasyFs.DataAlloc

set_option autoImplicit false

/- `Inode::write_at` of bytes that reach past the end of the file (`easy-fs/src/vfs.rs`). -/

namespace ChOs

namespace EasyFs

open BlockDevice

namespace DiskInode

variable {self : DiskInode} {device device' : BlockDevice} {kept : Nat → Prop}

section Kept

variable (keeps : Keeps device device' kept) (fits : self.size.toNat ≤ indirect2Bound * blockSz)
  (held : ∀ block ∈ self.treeBlocks device (dataBlocksOf self.size).toNat, kept block.toNat)

include keeps fits held

theorem readWord_of_keeps {i : Nat} (before : i < (dataBlocksOf self.size).toNat)
    {entry : Nat × Nat} (read : entry ∈ self.entriesRead device i) :
    readWord device' entry.1 0 entry.2 = readWord device entry.1 0 entry.2 := by
  obtain ⟨p, early, block, indexed, named⟩ := entry_mem_indexBlocksAt read
  have stays : kept entry.1 := by
    rw [named]
    exact held block (self.mem_treeBlocks device (by omega) (List.mem_append_left _ indexed))
  have below := entry_index_lt (Nat.lt_of_lt_of_le before (dataBlocks_le fits)) read
  unfold readWord
  rw [keeps.readField stays _ _ (by unfold inodeIndirect1Count blockSz at *; omega)]

theorem treeBlocks_of_keeps :
    self.treeBlocks device' (dataBlocksOf self.size).toNat =
      self.treeBlocks device (dataBlocksOf self.size).toNat := by
  unfold treeBlocks
  apply List.flatMap_congr
  intro i member
  exact blocksAt_congr fun _ read =>
    readWord_of_keeps keeps fits held (List.mem_range.mp member) read

theorem fileBytes_of_keeps : self.fileBytes device' = self.fileBytes device := by
  unfold fileBytes
  apply List.map_congr_left
  intro i member
  have before := blockIndex_lt fits (List.mem_range.mp member)
  have stays := held _
    (self.mem_treeBlocks device before (List.mem_append_right _ (List.mem_singleton_self _)))
  unfold fileByte
  rw [dataBlockAt_of_treeBlocks (treeBlocks_of_keeps keeps fits held) before]
  apply keeps.2
  have sameBlock : BlockDevice.address (self.dataBlockAt device (i / blockSz)).toNat (i % blockSz) /
      blockSz = (self.dataBlockAt device (i / blockSz)).toNat := by
    unfold BlockDevice.address blockSz
    omega
  rwa [sameBlock]

theorem formed_of_keeps (formed : self.Formed device (dataBlocksOf self.size).toNat) :
    self.Formed device' (dataBlocksOf self.size).toNat where
  nodup := (treeBlocks_of_keeps keeps fits held) ▸ formed.nodup
  inside block member :=
    keeps.1 ▸ formed.inside block ((treeBlocks_of_keeps keeps fits held) ▸ member)

end Kept

theorem Wrote.keeps {start : Nat} {data : List UInt8} (wrote : self.Wrote device device' start data) :
    Keeps device device' fun blockId =>
      ∀ j < (dataBlocksOf self.size).toNat, blockId ≠ (self.dataBlockAt device j).toNat :=
  ⟨wrote.blocks, fun address away => wrote.outside address away⟩

theorem indexBlock_ne_dataBlockAt {count p j : Nat} (nodup : (self.treeBlocks device count).Nodup)
    (hp : p < count) (hj : j < count) {block : UInt32} (indexed : block ∈ self.indexBlocksAt device p) :
    block ≠ self.dataBlockAt device j := by
  have data : self.dataBlockAt device j ∈ self.blocksAt device j :=
    List.mem_append_right _ (List.mem_singleton_self _)
  by_cases here : p = j
  · subst here
    have pieces := self.nodup_blocksAt device nodup hj
    unfold blocksAt at pieces
    exact fun same => List.disjoint_of_nodup_append pieces indexed (same ▸ List.mem_singleton_self _)
  · exact self.ne_of_nodup device nodup hp hj here (List.mem_append_left _ indexed) data

theorem fileBytes_take_of_grown {self' : DiskInode} {extra : List UInt32}
    (fits : self.size.toNat ≤ indirect2Bound * blockSz) (larger : self.size.toNat ≤ self'.size.toNat)
    (grown : self'.treeBlocks device' (dataBlocksOf self'.size).toNat =
      self.treeBlocks device (dataBlocksOf self.size).toNat ++ extra)
    (ordered : (dataBlocksOf self.size).toNat ≤ (dataBlocksOf self'.size).toNat)
    (keeps : Keeps device device' kept)
    (held : ∀ j < (dataBlocksOf self.size).toNat, kept (self.dataBlockAt device j).toNat) :
    (self'.fileBytes device').take self.size.toNat = self.fileBytes device := by
  have before := treeBlocks_of_append grown ordered
  apply List.ext_getElem
  · rw [List.length_take, length_fileBytes, length_fileBytes]
    omega
  · intro i inTake inFile
    rw [length_fileBytes] at inFile
    have block := blockIndex_lt fits inFile
    simp only [List.getElem_take, fileBytes, List.getElem_map, List.getElem_range, fileByte]
    rw [dataBlockAt_of_treeBlocks before block]
    apply keeps.2
    have sameBlock : BlockDevice.address (self.dataBlockAt device (i / blockSz)).toNat
        (i % blockSz) / blockSz = (self.dataBlockAt device (i / blockSz)).toNat := by
      unfold BlockDevice.address blockSz
      omega
    rw [sameBlock]
    exact held _ block

end DiskInode

theorem fileWrite_of_take {file grown : List UInt8} {offset : Nat} {data : List UInt8}
    (start : grown.take file.length = file) (noHole : offset ≤ file.length)
    (ends : grown.length = offset + data.length) :
    fileWrite grown offset data = fileWrite file offset data := by
  have longer : file.length ≤ grown.length := by
    rw [← start, List.length_take]
    omega
  unfold fileWrite
  rw [Nat.sub_eq_zero_of_le noHole, Nat.sub_eq_zero_of_le (by omega),
    List.drop_eq_nil_of_le (by omega), List.drop_eq_nil_of_le (by omega), ← start,
    List.take_take, Nat.min_eq_left noHole]

namespace DiskInode

theorem dataBlocksOf_toNat_of_le {size : UInt32} (bounded : size.toNat ≤ indirect2Bound * blockSz) :
    (dataBlocksOf size).toNat = (size.toNat + blockSz - 1) / blockSz := by
  rw [indirect2Bound_eq] at bounded
  exact dataBlocksOf_toNat (by unfold blockSz at *; omega)

/-- The blocks, data and index, that a file of `size` bytes takes: `total_blocks` in `usize`. -/
def blocksFor (size : Nat) : Nat := blockCount ((size + blockSz - 1) / blockSz)

theorem blockCount_dataBlocksOf {size : UInt32} (bounded : size.toNat ≤ indirect2Bound * blockSz) :
    blockCount (dataBlocksOf size).toNat = blocksFor size.toNat := by
  rw [dataBlocksOf_toNat_of_le bounded, blocksFor]

theorem blocksFor_mono {size size' : Nat} (ordered : size ≤ size') : blocksFor size ≤ blocksFor size' :=
  blockCount_mono (Nat.div_le_div_right (by omega))

theorem blocksNumNeeded_of_le {self : DiskInode} {newSize : UInt32}
    (larger : self.size.toNat ≤ newSize.toNat) (bounded : newSize.toNat ≤ indirect2Bound * blockSz) :
    ∃ needed, self.blocksNumNeeded newSize = .ok needed ∧
      needed.toNat = blockCount (dataBlocksOf newSize).toNat - blockCount (dataBlocksOf self.size).toNat := by
  have count := dataBlocksOf_toNat_of_le bounded
  have oldCount := dataBlocksOf_toNat_of_le (Nat.le_trans larger bounded)
  have ordered : (dataBlocksOf self.size).toNat ≤ (dataBlocksOf newSize).toNat := by
    rw [count, oldCount]
    exact Nat.div_le_div_right (by omega)
  have reach : (dataBlocksOf newSize).toNat ≤ indirect2Bound := by
    rw [count]
    rw [indirect2Bound_eq] at bounded ⊢
    unfold blockSz at *
    omega
  have top : blockCount (dataBlocksOf newSize).toNat ≤ blockCount indirect2Bound :=
    blockCount_mono reach
  have topValue : blockCount indirect2Bound = 16670 := by decide
  have grows := blockCount_mono ordered
  have newTotal := totalBlocks_toNat newSize (by omega)
  have oldTotal := totalBlocks_toNat self.size (by omega)
  refine ⟨totalBlocks newSize - totalBlocks self.size, ?_, ?_⟩
  · rw [blocksNumNeeded, if_pos (UInt32.le_iff_toNat_le.mpr larger)]
  · rw [UInt32.toNat_sub_of_le _ _ (UInt32.le_iff_toNat_le.mpr (by omega)), newTotal, oldTotal]

end DiskInode

/-- The file of `diskInode` lies on the volume `fs`, whose data area has `area` blocks: the
inode holds the disk inode, every block of its index lies in the data area and is marked in
the data bitmap, the inode's own block lies before the data bitmap, and the roots the file does
not use are 0. -/
structure Inode.OnVolume (inode : Inode) (fs : EasyFileSystem) (area : Nat) (device : BlockDevice)
    (diskInode : DiskInode) : Prop where
  holds : inode.Holds device diskInode
  laid : fs.DataArea area device.blocks
  inArea : ∀ block ∈ diskInode.treeBlocks device (DiskInode.dataBlocksOf diskInode.size).toNat,
    fs.dataAreaStartBlock.toNat ≤ block.toNat ∧ block.toNat < fs.dataAreaStartBlock.toNat + area
  marked : ∀ block ∈ diskInode.treeBlocks device (DiskInode.dataBlocksOf diskInode.size).toNat,
    fs.dataBitmap.isSet device (block.toNat - fs.dataAreaStartBlock.toNat) = true
  beforeBitmap : inode.blockId < fs.dataBitmap.startBlockId
  rootsClear : diskInode.RootsClear (DiskInode.dataBlocksOf diskInode.size).toNat

/-- A block of the data area that the data bitmap marks and that is none of `tree`: a block that
another file may hold. -/
def EasyFileSystem.OtherBlock (fs : EasyFileSystem) (area : Nat) (device : BlockDevice)
    (tree : List UInt32) (blockId : Nat) : Prop :=
  fs.dataAreaStartBlock.toNat ≤ blockId ∧ blockId < fs.dataAreaStartBlock.toNat + area ∧
    fs.dataBitmap.isSet device (blockId - fs.dataAreaStartBlock.toNat) = true ∧
    ∀ block ∈ tree, block.toNat ≠ blockId

/-- What a call on the file of `inode`, whose blocks were `tree`, leaves of the rest of the
volume: the bytes of every block another file may hold, every byte before the data bitmap
outside the inode's own disk inode, and every bit of the data area set outside `tree`. -/
structure Inode.Frame (inode : Inode) (fs : EasyFileSystem) (area : Nat) (tree : List UInt32)
    (device device' : BlockDevice) : Prop where
  others : Keeps device device' (fs.OtherBlock area device tree)
  slots : ∀ target, target / blockSz < fs.dataBitmap.startBlockId →
    target < address inode.blockId inode.blockOffset ∨
      address inode.blockId inode.blockOffset + diskInodeSize ≤ target →
    device'.bytes target = device.bytes target
  bits : ∀ bit < area, fs.dataBitmap.isSet device bit = true →
    (∀ block ∈ tree, block.toNat - fs.dataAreaStartBlock.toNat ≠ bit) →
    fs.dataBitmap.isSet device' bit = true

/-- What `Inode::increase_size` leaves, from `diskInode` on `device` to `diskInode'` on
`device'` of size `newSize`: a formed index in the data area and marked, the free blocks fewer
by the blocks the index took, each of them free before, every block before the data bitmap and
every block another file may hold as it was, no bit of the data area cleared, and the file's
old bytes at its start, with the roots the larger file does not use still 0. -/
structure Inode.Grown (fs : EasyFileSystem) (area : Nat) (diskInode : DiskInode) (device : BlockDevice)
    (newSize : UInt32) (diskInode' : DiskInode) (device' : BlockDevice) : Prop where
  size : diskInode'.size = newSize
  formed : diskInode'.Formed device' (DiskInode.dataBlocksOf newSize).toNat
  inArea : ∀ block ∈ diskInode'.treeBlocks device' (DiskInode.dataBlocksOf newSize).toNat,
    fs.dataAreaStartBlock.toNat ≤ block.toNat ∧ block.toNat < fs.dataAreaStartBlock.toNat + area
  marked : ∀ block ∈ diskInode'.treeBlocks device' (DiskInode.dataBlocksOf newSize).toNat,
    fs.dataBitmap.isSet device' (block.toNat - fs.dataAreaStartBlock.toNat) = true
  counted : (fs.freeBlocks device' area).length +
      (DiskInode.blockCount (DiskInode.dataBlocksOf newSize).toNat -
        DiskInode.blockCount (DiskInode.dataBlocksOf diskInode.size).toNat) =
    (fs.freeBlocks device area).length
  keeps : Keeps device device' fun blockId => blockId < fs.dataBitmap.startBlockId ∨
    fs.OtherBlock area device
      (diskInode.treeBlocks device (DiskInode.dataBlocksOf diskInode.size).toNat) blockId
  bytes : (diskInode'.fileBytes device').take diskInode.size.toNat = diskInode.fileBytes device
  rootsClear : diskInode'.RootsClear (DiskInode.dataBlocksOf newSize).toNat
  stillSet : ∀ bit < area, fs.dataBitmap.isSet device bit = true → fs.dataBitmap.isSet device' bit = true
  taken : ∀ block ∈ diskInode'.treeBlocks device' (DiskInode.dataBlocksOf newSize).toNat,
    block ∈ diskInode.treeBlocks device (DiskInode.dataBlocksOf diskInode.size).toNat ∨
      fs.dataBitmap.isSet device (block.toNat - fs.dataAreaStartBlock.toNat) = false

section Grow

open DiskInode

variable {inode : Inode} {fs : EasyFileSystem} {area : Nat} {device : BlockDevice}
  {diskInode : DiskInode}

theorem isSet_of_keepsBefore {next : BlockDevice} {kept : Nat → Prop} (laid : fs.DataArea area device.blocks)
    (keeps : Keeps device next kept) (before : ∀ blockId, blockId < fs.dataAreaStartBlock.toNat → kept blockId)
    {bit : Nat} (below : bit < area) :
    fs.dataBitmap.isSet next bit = fs.dataBitmap.isSet device bit :=
  fs.dataBitmap.isSet_keeps keeps
    (before _ (Nat.lt_of_lt_of_le (laid.bitBlock_lt below) laid.bitmapBelow))

theorem isSet_of_changes_before {next : BlockDevice} {blockId : Nat} (changes : Changes device next blockId)
    (before : blockId < fs.dataBitmap.startBlockId) (bit : Nat) :
    fs.dataBitmap.isSet next bit = fs.dataBitmap.isSet device bit :=
  fs.dataBitmap.isSet_changes device changes
    (Nat.ne_of_gt (Nat.lt_of_lt_of_le before (Nat.le_add_left _ _)))

theorem freeBlocks_of_changes_before {next : BlockDevice} {blockId : Nat}
    (changes : Changes device next blockId) (before : blockId < fs.dataBitmap.startBlockId) :
    fs.freeBlocks next area = fs.freeBlocks device area := by
  unfold EasyFileSystem.freeBlocks Bitmap.clearBits
  apply List.filter_congr
  intro bit _
  rw [isSet_of_changes_before changes before bit]

theorem Inode.increaseSize_grows (onVolume : inode.OnVolume fs area device diskInode)
    {newSize : UInt32} (larger : diskInode.size.toNat ≤ newSize.toNat)
    (bounded : newSize.toNat ≤ indirect2Bound * blockSz)
    (enough : blockCount (dataBlocksOf newSize).toNat - blockCount (dataBlocksOf diskInode.size).toNat ≤
      (fs.freeBlocks device area).length) :
    ∃ diskInode' device', Inode.increaseSize fs newSize diskInode device = .ok (diskInode', device') ∧
      Inode.Grown fs area diskInode device newSize diskInode' device' := by
  obtain ⟨holds, laid, inArea, marked, -, rootsClear⟩ := onVolume
  have fits := holds.fits
  have ordered : (dataBlocksOf diskInode.size).toNat ≤ (dataBlocksOf newSize).toNat := by
    rw [dataBlocksOf_toNat_of_le bounded, dataBlocksOf_toNat_of_le fits]
    exact Nat.div_le_div_right (by omega)
  have reach : (dataBlocksOf newSize).toNat ≤ indirect2Bound := by
    rw [dataBlocksOf_toNat_of_le bounded]
    rw [indirect2Bound_eq] at bounded ⊢
    unfold blockSz at *
    omega
  obtain ⟨needed, numNeeded, neededCount⟩ := blocksNumNeeded_of_le larger bounded
  obtain ⟨v, device1, alloc, length, allocated⟩ :=
    fs.allocDataBlocks_spec needed.toNat device laid (by omega)
  have offBitmap : ∀ block ∈ diskInode.treeBlocks device (dataBlocksOf diskInode.size).toNat,
      fs.OffBitmap block.toNat := fun block member => by
    have := (inArea block member).1
    have := laid.bitmapBelow
    unfold EasyFileSystem.OffBitmap
    omega
  have tree1 := treeBlocks_of_keeps allocated.keeps fits offBitmap
  have formed1 := formed_of_keeps allocated.keeps fits offBitmap holds.formed
  have fresh : Fresh (diskInode.treeBlocks device1 (dataBlocksOf diskInode.size).toNat) device1.blocks
      v := by
    refine ⟨allocated.nodup, fun block member used => ?_, fun block member => ?_⟩
    · rw [tree1] at used
      have was := allocated.wasFree block member
      rw [marked block used] at was
      cases was
    · have := (allocated.inArea block member).2
      have := laid.inside
      rw [allocated.keeps.1]
      omega
  obtain ⟨diskInode', device2, grow, grew⟩ :=
    increaseSize_spec formed1 fresh ordered reach (by rw [length, neededCount])
  have frame : Keeps device1 device2 fun blockId => blockId < fs.dataAreaStartBlock.toNat ∨
      (∃ j < (dataBlocksOf diskInode.size).toNat, (diskInode.dataBlockAt device1 j).toNat = blockId) ∨
      fs.OtherBlock area device (diskInode.treeBlocks device (dataBlocksOf diskInode.size).toNat)
        blockId := by
    refine increaseSize_keeps (fun block member kept => ?_) (fun p before block indexed kept => ?_) grow
    · rcases kept with early | ⟨j, old, same⟩ | ⟨-, -, set, -⟩
      · have := (allocated.inArea block member).1
        omega
      · refine fresh.apart block member ?_
        rw [← UInt32.toNat_inj.mp same]
        exact mem_treeBlocks _ _ old (List.mem_append_right _ (List.mem_singleton_self _))
      · rw [allocated.wasFree block member] at set
        cases set
    · have used : block ∈ diskInode.treeBlocks device1 (dataBlocksOf diskInode.size).toNat :=
        mem_treeBlocks _ _ before (List.mem_append_left _ indexed)
      rcases kept with early | ⟨j, old, same⟩ | ⟨-, -, -, away⟩
      · rw [tree1] at used
        have := (inArea block used).1
        omega
      · exact indexBlock_ne_dataBlockAt formed1.nodup before old indexed (UInt32.toNat_inj.mp same).symm
      · rw [tree1] at used
        exact away block used rfl
  have beforeArea : ∀ blockId, blockId < fs.dataAreaStartBlock.toNat →
      blockId < fs.dataAreaStartBlock.toNat ∨
        (∃ j < (dataBlocksOf diskInode.size).toNat, (diskInode.dataBlockAt device1 j).toNat = blockId) ∨
        fs.OtherBlock area device (diskInode.treeBlocks device (dataBlocksOf diskInode.size).toNat)
          blockId :=
    fun _ early => Or.inl early
  have laid1 : fs.DataArea area device1.blocks := by rw [allocated.keeps.1]; exact laid
  have tree2 : diskInode'.treeBlocks device2 (dataBlocksOf newSize).toNat =
      diskInode.treeBlocks device (dataBlocksOf diskInode.size).toNat ++ v := by
    rw [grew.blocks, tree1]
  refine ⟨diskInode', device2, ?_, ⟨grew.size, ?_, ?_, ?_, ?_, ?_, ?_,
    rootsClear.grow grew.unused ordered, ?_, ?_⟩⟩
  · rw [Inode.increaseSize, if_neg (fun smaller => by
      rw [UInt32.lt_iff_toNat_lt] at smaller
      omega), numNeeded, ok_bind, alloc, ok_bind]
    exact grow
  · exact (formed1.extend (by rw [List.append_nil]; exact fresh) grew.blocks grew.sameBlocks).1
  · intro block member
    rw [tree2] at member
    rcases List.mem_append.mp member with old | new
    · exact inArea block old
    · exact allocated.inArea block new
  · intro block member
    rw [tree2] at member
    have inside : block.toNat - fs.dataAreaStartBlock.toNat < area := by
      rcases List.mem_append.mp member with old | new
      · have := inArea block old
        omega
      · have := allocated.inArea block new
        omega
    rw [isSet_of_keepsBefore laid1 frame beforeArea inside]
    rcases List.mem_append.mp member with old | new
    · exact allocated.stillSet _ (marked block old)
    · exact allocated.nowSet block new
  · have free2 : fs.freeBlocks device2 area = fs.freeBlocks device1 area :=
      fs.dataBitmap.clearBits_of_keeps frame fun bit below =>
        Or.inl (Nat.lt_of_lt_of_le (laid.bitBlock_lt below) laid.bitmapBelow)
    rw [free2, ← allocated.counted, length, neededCount]
  · have areaStart := laid.bitmapBelow
    refine (allocated.keeps.mono fun blockId kept => ?_).trans (frame.mono fun blockId kept => ?_)
    · rcases kept with early | ⟨inData, -, -, -⟩
      · exact Or.inl early
      · exact Or.inr (by omega)
    · rcases kept with early | other
      · exact Or.inl (by omega)
      · exact Or.inr (Or.inr other)
  · have held : ∀ j < (dataBlocksOf diskInode.size).toNat,
        (diskInode.dataBlockAt device1 j).toNat < fs.dataAreaStartBlock.toNat ∨
          (∃ i < (dataBlocksOf diskInode.size).toNat,
            (diskInode.dataBlockAt device1 i).toNat = (diskInode.dataBlockAt device1 j).toNat) ∨
          fs.OtherBlock area device (diskInode.treeBlocks device (dataBlocksOf diskInode.size).toNat)
            (diskInode.dataBlockAt device1 j).toNat :=
      fun j old => Or.inr (Or.inl ⟨j, old, rfl⟩)
    have grown : diskInode'.treeBlocks device2 (dataBlocksOf diskInode'.size).toNat =
        diskInode.treeBlocks device1 (dataBlocksOf diskInode.size).toNat ++ v := by
      rw [grew.size]
      exact grew.blocks
    rw [← fileBytes_of_keeps allocated.keeps fits offBitmap]
    exact fileBytes_take_of_grown fits (by rw [grew.size]; exact larger) grown
      (by rw [grew.size]; exact ordered) frame held
  · intro bit below set
    rw [isSet_of_keepsBefore laid1 frame beforeArea below]
    exact allocated.stillSet bit set
  · intro block member
    rw [tree2] at member
    rcases List.mem_append.mp member with old | new
    · exact Or.inl old
    · exact Or.inr (allocated.wasFree block new)

theorem Inode.OnVolume.grown_self (onVolume : inode.OnVolume fs area device diskInode) :
    Inode.Grown fs area diskInode device diskInode.size diskInode device where
  size := rfl
  formed := onVolume.holds.formed
  inArea := onVolume.inArea
  marked := onVolume.marked
  counted := by rw [Nat.sub_self, Nat.add_zero]
  keeps := Keeps.refl _ _
  bytes := by rw [← length_fileBytes, List.take_length]
  rootsClear := onVolume.rootsClear
  stillSet _ _ set := set
  taken _ member := Or.inl member

theorem writeDiskInode_outside (device : BlockDevice) (blockId offset : Nat) (diskInode : DiskInode)
    {target : Nat}
    (outside : target < address blockId offset ∨ address blockId offset + diskInodeSize ≤ target) :
    (writeDiskInode device blockId offset diskInode).bytes target = device.bytes target := by
  rw [writeDiskInode]
  dsimp only
  rw [Function.update_of_ne (by unfold address diskInodeSize at *; omega)]
  exact ByteMemory.writeWords_outside _ _ _ _ _
    (by rw [diskInode.length_words]; unfold diskInodeSize at outside; omega)

variable {offset : Nat} {buf : List UInt8}

/-- What `Inode::write_at` of `buf` at `offset` leaves, from `diskInode` on `device` to
`diskInode'` on `device'`: the file lies on the volume, ends at the later of its old end and the
end of the bytes, and holds what the file model writes; the free blocks are fewer by exactly the
blocks the larger size needs, each block the file took was free, and the rest of the volume is
as it was. -/
structure Inode.Written (inode : Inode) (fs : EasyFileSystem) (area : Nat) (diskInode : DiskInode)
    (device : BlockDevice) (offset : Nat) (buf : List UInt8) (diskInode' : DiskInode)
    (device' : BlockDevice) : Prop where
  onVolume : inode.OnVolume fs area device' diskInode'
  size : diskInode'.size.toNat = max diskInode.size.toNat (offset + buf.length)
  bytes : diskInode'.fileBytes device' = fileWrite (diskInode.fileBytes device) offset buf
  counted : (fs.freeBlocks device' area).length +
      (blocksFor diskInode'.size.toNat - blocksFor diskInode.size.toNat) =
    (fs.freeBlocks device area).length
  taken : ∀ block ∈ diskInode'.treeBlocks device' (dataBlocksOf diskInode'.size).toNat,
    block ∈ diskInode.treeBlocks device (dataBlocksOf diskInode.size).toNat ∨
      fs.dataBitmap.isSet device (block.toNat - fs.dataAreaStartBlock.toNat) = false
  frame : inode.Frame fs area (diskInode.treeBlocks device (dataBlocksOf diskInode.size).toNat)
    device device'

theorem Inode.OnVolume.writeBack (onVolume : inode.OnVolume fs area device diskInode)
    {newSize : UInt32} {diskInode' : DiskInode} {device2 : BlockDevice}
    (grow : Inode.increaseSize fs (UInt32.ofNat (offset + buf.length)) diskInode device =
      .ok (diskInode', device2))
    (grown : Inode.Grown fs area diskInode device newSize diskInode' device2) (nonempty : buf ≠ [])
    (inFile : offset + buf.length ≤ newSize.toNat) (bounded : newSize.toNat ≤ indirect2Bound * blockSz)
    (same : fileWrite (diskInode'.fileBytes device2) offset buf =
      fileWrite (diskInode.fileBytes device) offset buf) :
    ∃ device', inode.writeAt fs device offset buf = .ok (buf.length, device') ∧
      inode.OnVolume fs area device' diskInode' ∧
      diskInode'.fileBytes device' = fileWrite (diskInode.fileBytes device) offset buf ∧
      (fs.freeBlocks device' area).length +
          (blockCount (dataBlocksOf newSize).toNat - blockCount (dataBlocksOf diskInode.size).toNat) =
        (fs.freeBlocks device area).length ∧
      (∀ block ∈ diskInode'.treeBlocks device' (dataBlocksOf diskInode'.size).toNat,
        block ∈ diskInode.treeBlocks device (dataBlocksOf diskInode.size).toNat ∨
          fs.dataBitmap.isSet device (block.toNat - fs.dataAreaStartBlock.toNat) = false) ∧
      inode.Frame fs area (diskInode.treeBlocks device (dataBlocksOf diskInode.size).toNat)
        device device' := by
  obtain ⟨holds, laid, -, -, beforeBitmap, -⟩ := onVolume
  have fits : diskInode'.size.toNat ≤ indirect2Bound * blockSz := by rw [grown.size]; exact bounded
  have formed2 : diskInode'.Formed device2 (dataBlocksOf diskInode'.size).toNat := by
    rw [grown.size]
    exact grown.formed
  obtain ⟨device3, write, wrote⟩ :=
    writeAt_eq_fileWrite fits formed2 nonempty (by rw [grown.size]; exact inFile)
  obtain ⟨_, cached, read⟩ := bind_eq_ok.mp holds.located
  have inside := (BlockDevice.getBlockCache_eq_ok device).mp cached
  have stored : EasyFs.readDiskInode device inode.blockId inode.blockOffset = diskInode :=
    Except.ok.inj read
  have blocks3 : device3.blocks = device.blocks := by rw [wrote.blocks, grown.keeps.1]
  have changes : BlockDevice.Changes device3
      (writeDiskInode device3 inode.blockId inode.blockOffset diskInode') inode.blockId :=
    writeDiskInode_changes diskInode' holds.inBlock
  have laid3 : fs.DataArea area device3.blocks := by rw [blocks3]; exact laid
  have tree3 : diskInode'.treeBlocks device3 (dataBlocksOf diskInode'.size).toNat =
      diskInode'.treeBlocks device2 (dataBlocksOf newSize).toNat := by
    rw [wrote.index, grown.size]
  have own : ∀ block ∈ diskInode'.treeBlocks device3 (dataBlocksOf diskInode'.size).toNat,
      block.toNat ≠ inode.blockId := fun block member => by
    rw [tree3] at member
    have := (grown.inArea block member).1
    have := laid.bitmapBelow
    omega
  have tree4 := treeBlocks_of_apart changes fits own
  have bits : ∀ bit < area, fs.dataBitmap.isSet
      (writeDiskInode device3 inode.blockId inode.blockOffset diskInode') bit =
      fs.dataBitmap.isSet device2 bit := fun bit below => by
    have areaStart := laid.bitmapBelow
    rw [isSet_of_changes_before changes beforeBitmap]
    have inBitmap := laid.bitBlock_lt below
    refine fs.dataBitmap.isSet_keeps wrote.keeps fun j before same => ?_
    have := (grown.inArea _ (by
      rw [← grown.size]
      exact mem_treeBlocks _ _ before (List.mem_append_right _ (List.mem_singleton_self _)))).1
    omega
  refine ⟨writeDiskInode device3 inode.blockId inode.blockOffset diskInode', ?_, ⟨⟨?_, ?_, fits, ?_,
    holds.inBlock⟩, ?_, ?_, ?_, beforeBitmap, ?_⟩, ?_, ?_, ?_, ?_⟩
  · rw [Inode.writeAt, modifyDiskInode, BlockDevice.getBlockCache_bind _ inside, stored]
    dsimp only
    rw [grow, ok_bind]
    dsimp only
    rw [write, ok_bind]
    rfl
  · have kept : inode.blockId <
        (writeDiskInode device3 inode.blockId inode.blockOffset diskInode').blocks := by
      rw [changes.1, blocks3]
      exact inside
    rw [Inode.readDiskInode, BlockDevice.getBlockCache_bind _ kept, readDiskInode_writeDiskInode]
    rfl
  · exact formed_of_apart changes fits own (wrote.formed formed2)
  · rw [tree4]
    exact own
  · rw [changes.1]
    exact laid3
  · intro block member
    rw [tree4, tree3] at member
    exact grown.inArea block member
  · intro block member
    rw [tree4, tree3] at member
    have within := grown.inArea block member
    rw [bits _ (by omega)]
    exact grown.marked block member
  · rw [grown.size]
    exact grown.rootsClear
  · rw [fileBytes_of_apart changes fits own, wrote.bytes, same]
  · have free : fs.freeBlocks (writeDiskInode device3 inode.blockId inode.blockOffset diskInode') area =
        fs.freeBlocks device2 area := by
      unfold EasyFileSystem.freeBlocks Bitmap.clearBits
      apply List.filter_congr
      intro bit member
      rw [bits bit (List.mem_range.mp member)]
    rw [free, grown.counted]
  · intro block member
    rw [tree4, tree3] at member
    exact grown.taken block member
  · refine ⟨((grown.keeps.mono fun blockId other => Or.inr other).trans
        (wrote.keeps.mono fun blockId other j before same => ?_)).trans
        (changes.keeps fun other => ?_), fun target early outside => ?_, fun bit below set _ => ?_⟩
    · obtain ⟨-, -, set, away⟩ := other
      have member : diskInode'.dataBlockAt device2 j ∈
          diskInode'.treeBlocks device2 (dataBlocksOf newSize).toNat := by
        rw [← grown.size]
        exact mem_treeBlocks _ _ before (List.mem_append_right _ (List.mem_singleton_self _))
      rcases grown.taken _ member with old | free
      · exact away _ old same.symm
      · rw [same, free] at set
        cases set
    · have := other.1
      have := laid.bitmapBelow
      omega
    · have data : ∀ j < (dataBlocksOf diskInode'.size).toNat,
          target / blockSz ≠ (diskInode'.dataBlockAt device2 j).toNat := fun j before same => by
        have := (grown.inArea _ (by
          rw [← grown.size]
          exact mem_treeBlocks _ _ before (List.mem_append_right _ (List.mem_singleton_self _)))).1
        have := laid.bitmapBelow
        omega
      rw [writeDiskInode_outside _ _ _ _ outside, wrote.keeps.2 target data]
      exact grown.keeps.2 target (Or.inl early)
    · rw [bits bit below]
      exact grown.stillSet bit below set

/-- `Inode::write_at` of some bytes from an offset within the file, while the data area has the
free blocks the larger size needs: it returns their number, the file holds what the file model
writes and lies on the volume again, the free blocks decrease by the blocks it took, and the
rest of the volume is untouched. -/
theorem Inode.OnVolume.writeAt (onVolume : inode.OnVolume fs area device diskInode)
    (nonempty : buf ≠ []) (noHole : offset ≤ diskInode.size.toNat)
    (bounded : offset + buf.length ≤ indirect2Bound * blockSz)
    (enough : blocksFor (offset + buf.length) - blocksFor diskInode.size.toNat ≤
      (fs.freeBlocks device area).length) :
    ∃ device' diskInode', inode.writeAt fs device offset buf = .ok (buf.length, device') ∧
      inode.Written fs area diskInode device offset buf diskInode' device' := by
  have newSize : (UInt32.ofNat (offset + buf.length)).toNat = offset + buf.length := by
    rw [UInt32.toNat_ofNat', Nat.mod_eq_of_lt]
    rw [indirect2Bound_eq] at bounded
    unfold blockSz at bounded
    omega
  have fits := onVolume.holds.fits
  have newBlocks : blockCount (dataBlocksOf (UInt32.ofNat (offset + buf.length))).toNat =
      blocksFor (offset + buf.length) := by
    rw [blockCount_dataBlocksOf (by rw [newSize]; exact bounded), newSize]
  by_cases within : offset + buf.length < diskInode.size.toNat
  · have grow : Inode.increaseSize fs (UInt32.ofNat (offset + buf.length)) diskInode device =
        .ok (diskInode, device) := by
      rw [Inode.increaseSize, if_pos (by rw [UInt32.lt_iff_toNat_lt, newSize]; exact within)]
    obtain ⟨device', call, onVolume', bytes, counted, taken, frame⟩ :=
      onVolume.writeBack grow onVolume.grown_self nonempty within.le fits rfl
    rw [Nat.sub_self] at counted
    exact ⟨device', diskInode, call,
      ⟨onVolume', by omega, bytes, by rw [Nat.sub_self]; exact counted, taken, frame⟩⟩
  · obtain ⟨diskInode', device2, grow, grown⟩ :=
      Inode.increaseSize_grows onVolume
        (show diskInode.size.toNat ≤ (UInt32.ofNat (offset + buf.length)).toNat by omega)
        (by rw [newSize]; exact bounded) (by rw [newBlocks, blockCount_dataBlocksOf fits]; exact enough)
    have start := grown.bytes
    obtain ⟨device', call, onVolume', bytes, counted, taken, frame⟩ :=
      onVolume.writeBack grow grown nonempty (by rw [newSize]) (by rw [newSize]; exact bounded)
        (fileWrite_of_take (by rwa [length_fileBytes]) (by rwa [length_fileBytes])
          (by rw [length_fileBytes, grown.size, newSize]))
    refine ⟨device', diskInode', call,
      ⟨onVolume', by rw [grown.size, newSize]; omega, bytes, ?_, taken, frame⟩⟩
    rw [newBlocks, blockCount_dataBlocksOf fits] at counted
    rw [grown.size, newSize]
    exact counted

theorem Inode.OnVolume.writeLoop (buffers : List (List UInt8)) (nonempty : ∀ slice ∈ buffers, slice ≠ []) :
    ∀ (device : BlockDevice) (diskInode : DiskInode) (offset total : Nat),
      inode.OnVolume fs area device diskInode → offset ≤ diskInode.size.toNat →
      offset + (buffers.map List.length).sum ≤ indirect2Bound * blockSz →
      blocksFor (offset + (buffers.map List.length).sum) - blocksFor diskInode.size.toNat ≤
        (fs.freeBlocks device area).length →
      ∃ device' diskInode', OSInode.writeLoop (inode.ops fs) device offset total buffers =
          .ok (device', offset + (buffers.map List.length).sum,
            total + (buffers.map List.length).sum) ∧
        inode.OnVolume fs area device' diskInode' ∧
        diskInode'.size.toNat = max diskInode.size.toNat (offset + (buffers.map List.length).sum) ∧
        diskInode'.fileBytes device' = fileWrite (diskInode.fileBytes device) offset buffers.flatten ∧
        (fs.freeBlocks device' area).length +
            (blocksFor diskInode'.size.toNat - blocksFor diskInode.size.toNat) =
          (fs.freeBlocks device area).length := by
  induction buffers with
  | nil =>
      intro device diskInode offset total onVolume noHole _ _
      refine ⟨device, diskInode, rfl, onVolume, by simp; omega, ?_, by rw [Nat.sub_self, Nat.add_zero]⟩
      rw [List.flatten_nil, fileWrite_nil (by rw [length_fileBytes]; exact noHole)]
  | cons slice rest ih =>
      intro device diskInode offset total onVolume noHole bounded enough
      simp only [List.map_cons, List.sum_cons] at bounded enough ⊢
      have first := blocksFor_mono (show offset + slice.length ≤
        offset + (slice.length + (rest.map List.length).sum) by omega)
      obtain ⟨device1, diskInode1, call, ⟨onVolume1, size1, bytes1, counted1, -, -⟩⟩ :=
        onVolume.writeAt (nonempty slice List.mem_cons_self) noHole (by omega) (by omega)
      have larger := blocksFor_mono (show diskInode.size.toNat ≤ diskInode1.size.toNat by omega)
      obtain ⟨device', diskInode', loop, onVolume', size', bytes', counted'⟩ :=
        ih (fun other member => nonempty other (List.mem_cons_of_mem _ member)) device1 diskInode1
          (offset + slice.length) (total + slice.length) onVolume1 (by omega) (by omega)
          (by rw [Nat.add_assoc]; omega)
      have later := blocksFor_mono (show diskInode1.size.toNat ≤ diskInode'.size.toNat by omega)
      refine ⟨device', diskInode', ?_, onVolume', by omega, ?_, by omega⟩
      · rw [OSInode.writeLoop]
        show (inode.writeAt fs device offset slice >>= _) = _
        rw [call, ok_bind]
        simp only [ne_eq, not_true_eq_false, if_false]
        rw [loop, Nat.add_assoc, Nat.add_assoc]
      · rw [bytes', bytes1, fileWrite_append, List.flatten_cons]

end Grow

end EasyFs

end ChOs
