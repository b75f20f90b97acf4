import ChOs.Fs.FileGrowth

set_option autoImplicit false

/- `Inode::clear` of a file that lies on the volume (`easy-fs/src/vfs.rs`). -/

namespace ChOs

namespace EasyFs

open BlockDevice DiskInode

section Clear

variable {inode : Inode} {fs : EasyFileSystem} {area : Nat} {device : BlockDevice}
  {diskInode : DiskInode}

theorem treeBlocks_init (device : BlockDevice) (type_ : DiskInodeType) :
    (diskInode.init type_).treeBlocks device (dataBlocksOf (diskInode.init type_).size).toNat = [] := by
  rw [show (diskInode.init type_).size = 0 from rfl, show (dataBlocksOf 0).toNat = 0 by decide,
    treeBlocks_zero]

theorem Inode.OnVolume.of_init {type_ : DiskInodeType}
    (located : inode.readDiskInode device = .ok (diskInode.init type_))
    (inBlock : inode.blockOffset + diskInodeSize ≤ blockSz) (laid : fs.DataArea area device.blocks)
    (beforeBitmap : inode.blockId < fs.dataBitmap.startBlockId) :
    inode.OnVolume fs area device (diskInode.init type_) where
  holds :=
    { located := located
      formed := ⟨by rw [treeBlocks_init]; exact List.nodup_nil,
        fun _ member => absurd (treeBlocks_init device type_ ▸ member) List.not_mem_nil⟩
      fits := Nat.zero_le _
      own := fun _ member => absurd (treeBlocks_init device type_ ▸ member) List.not_mem_nil
      inBlock := inBlock }
  laid := laid
  inArea _ member := absurd (treeBlocks_init device type_ ▸ member) List.not_mem_nil
  marked _ member := absurd (treeBlocks_init device type_ ▸ member) List.not_mem_nil
  beforeBitmap := beforeBitmap
  rootsClear := ⟨fun _ _ _ => Vector.getElem_replicate _, fun _ => rfl, fun _ => rfl⟩

/-- `Inode::clear` of a file that lies on the volume: no call panics, the disk inode is as
`initialize` leaves it and lies on the volume, the rest of the volume is untouched, the free
blocks are more by the blocks of the old size, and every block the file had is free and zero. -/
theorem Inode.OnVolume.clear (onVolume : inode.OnVolume fs area device diskInode) :
    ∃ device', inode.clear fs device = .ok device' ∧
      inode.OnVolume fs area device' (diskInode.init diskInode.type_) ∧
      inode.Frame fs area (diskInode.treeBlocks device (dataBlocksOf diskInode.size).toNat)
        device device' ∧
      (fs.freeBlocks device' area).length =
        (fs.freeBlocks device area).length + blocksFor diskInode.size.toNat ∧
      ∀ block ∈ diskInode.treeBlocks device (dataBlocksOf diskInode.size).toNat,
        fs.dataBitmap.isSet device' (block.toNat - fs.dataAreaStartBlock.toNat) = false ∧
        ∀ offset < blockSz, device'.bytes (address block.toNat offset) = 0 := by
  obtain ⟨holds, laid, inArea, marked, beforeBitmap, rootsClear⟩ := onVolume
  have fits := holds.fits
  have reach : (dataBlocksOf diskInode.size).toNat ≤ indirect2Bound := by
    rw [dataBlocksOf_toNat_of_le fits]
    rw [indirect2Bound_eq] at fits ⊢
    unfold blockSz at *
    omega
  have counted : (diskInode.treeBlocks device (dataBlocksOf diskInode.size).toNat).length =
      (totalBlocks diskInode.size).toNat := by
    have top : blockCount (dataBlocksOf diskInode.size).toNat ≤ blockCount indirect2Bound :=
      blockCount_mono reach
    have topValue : blockCount indirect2Bound = 16670 := by decide
    rw [length_treeBlocks, totalBlocks_toNat _ (by omega)]
  obtain ⟨device3, dealloc, freed⟩ :=
    fs.deallocDataBlocks_spec _ device laid holds.formed.nodup inArea marked
  obtain ⟨_, cached, read⟩ := bind_eq_ok.mp holds.located
  have inside := (getBlockCache_eq_ok device).mp cached
  have stored : EasyFs.readDiskInode device inode.blockId inode.blockOffset = diskInode :=
    Except.ok.inj read
  have changes : Changes device3 (writeDiskInode device3 inode.blockId inode.blockOffset
      (diskInode.init diskInode.type_)) inode.blockId :=
    writeDiskInode_changes _ holds.inBlock
  have laid3 : fs.DataArea area device3.blocks := by rw [freed.keeps.1]; exact laid
  have areaStart := laid.bitmapBelow
  refine ⟨writeDiskInode device3 inode.blockId inode.blockOffset (diskInode.init diskInode.type_),
    ?_, ?_, ⟨?_, fun target early outside => ?_, fun bit below set away => ?_⟩, ?_,
    fun block member => ⟨?_, fun offset within => ?_⟩⟩
  · rw [Inode.clear, Inode.modifyDiskInode, getBlockCache_bind _ inside, stored]
    dsimp only
    rw [clearSize_eq holds.formed rootsClear reach, ok_bind]
    dsimp only
    rw [if_pos counted, dealloc, ok_bind]
    rfl
  · have kept : inode.blockId < (writeDiskInode device3 inode.blockId inode.blockOffset
        (diskInode.init diskInode.type_)).blocks := by
      rw [changes.1, freed.keeps.1]
      exact inside
    refine Inode.OnVolume.of_init ?_ holds.inBlock (by rw [changes.1]; exact laid3) beforeBitmap
    rw [Inode.readDiskInode, getBlockCache_bind _ kept, readDiskInode_writeDiskInode]
    rfl
  · refine (freed.keeps.mono fun blockId other => ⟨Or.inr (by have := other.1; omega),
      fun block member => (other.2.2.2 block member).symm⟩).trans (changes.keeps fun other => ?_)
    have := other.1
    omega
  · have early' : fs.OffBitmap (target / blockSz) := Or.inl early
    rw [writeDiskInode_outside _ _ _ _ outside]
    refine freed.keeps.2 target ⟨early', fun block member same => ?_⟩
    have same' : target / blockSz = block.toNat := same
    have := (inArea block member).1
    omega
  · rw [isSet_of_changes_before changes beforeBitmap,
      freed.others bit below fun block member same => away block member same.symm]
    exact set
  · rw [freeBlocks_of_changes_before changes beforeBitmap, freed.counted, length_treeBlocks,
      blockCount_dataBlocksOf fits]
  · rw [isSet_of_changes_before changes beforeBitmap]
    exact freed.nowClear block member
  · have own := holds.own block member
    rw [changes.2 _ (by
      unfold address blockSz at *
      omega)]
    exact freed.zeroed block member offset within

end Clear

end EasyFs

end ChOs
