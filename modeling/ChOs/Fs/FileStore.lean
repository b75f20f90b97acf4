import ChOs.Fs.FileClear
import ChOs.Library.Transition

set_option autoImplicit false

/- The files of an easy-fs volume as an abstract store (`easy-fs/src/vfs.rs`). -/

namespace ChOs

namespace EasyFs

open BlockDevice DiskInode

/-- The disk inode in the inode's place on the device. -/
def Inode.diskInodeOn (inode : Inode) (device : BlockDevice) : DiskInode :=
  EasyFs.readDiskInode device inode.blockId inode.blockOffset

/-- The blocks of the file, data and index blocks alike. -/
def Inode.treeOn (inode : Inode) (device : BlockDevice) : List UInt32 :=
  (inode.diskInodeOn device).treeBlocks device (dataBlocksOf (inode.diskInodeOn device).size).toNat

/-- Two inodes whose disk inodes share no byte. -/
def Inode.Apart (inode other : Inode) : Prop :=
  inode.blockId ≠ other.blockId ∨ inode.blockOffset + diskInodeSize ≤ other.blockOffset ∨
    other.blockOffset + diskInodeSize ≤ inode.blockOffset

/-- The contents of the files. -/
def contents (inodes : List Inode) (device : BlockDevice) : List (List UInt8) :=
  inodes.map fun inode => (inode.diskInodeOn device).fileBytes device

/-- A call on the files, by the file's place in the list. -/
inductive FileOp
  | writeAt (file offset : Nat) (buf : List UInt8)
  | clear (file : Nat)
  deriving DecidableEq, Repr

/-- The abstract store: what a call does to the contents of the files. -/
def FileOp.apply (store : List (List UInt8)) : FileOp → List (List UInt8)
  | .writeAt file offset buf => store.modify file fun bytes => fileWrite bytes offset buf
  | .clear file => store.set file []

example : FileOp.apply [[1, 2], [3]] (.writeAt 1 2 [9]) = [[1, 2], [3, 0, 9]] := by decide

/-- The files of `inodes` lie on the volume together: each lies on it, no two share a byte of
their disk inodes or a block, and the free blocks and the files' blocks make up the data area. -/
structure FilesOnVolume (fs : EasyFileSystem) (area : Nat) (device : BlockDevice)
    (inodes : List Inode) : Prop where
  onVolume : ∀ i (found : i < inodes.length),
    inodes[i].OnVolume fs area device (inodes[i].diskInodeOn device)
  apart : ∀ i j (found : i < inodes.length) (other : j < inodes.length), i ≠ j →
    inodes[i].Apart inodes[j] ∧ (inodes[i].treeOn device).Disjoint (inodes[j].treeOn device)
  counted : (fs.freeBlocks device area).length +
      (inodes.map fun inode => blocksFor (inode.diskInodeOn device).size.toNat).sum = area

/-- One call of the kernel on a file of the volume. A write starts within its file, ends within
the reach of the index, and finds the free blocks its size needs: nothing in `write_at` checks
the last, and without it `alloc_data` hands out blocks past the data area. -/
inductive VolumeStep (fs : EasyFileSystem) (area : Nat) (inodes : List Inode) :
    BlockDevice → Option FileOp → BlockDevice → Prop
  | writeAt {device device' : BlockDevice} {file offset written : Nat} {buf : List UInt8}
      (found : file < inodes.length) (nonempty : buf ≠ [])
      (noHole : offset ≤ (inodes[file].diskInodeOn device).size.toNat)
      (bounded : offset + buf.length ≤ indirect2Bound * blockSz)
      (room : blocksFor (offset + buf.length) - blocksFor (inodes[file].diskInodeOn device).size.toNat ≤
        (fs.freeBlocks device area).length)
      (call : inodes[file].writeAt fs device offset buf = .ok (written, device')) :
      VolumeStep fs area inodes device (some (.writeAt file offset buf)) device'
  | clear {device device' : BlockDevice} {file : Nat} (found : file < inodes.length)
      (call : inodes[file].clear fs device = .ok device') :
      VolumeStep fs area inodes device (some (.clear file)) device'

section Lists

variable {α β : Type}

theorem map_eq_modify {f g : α → β} {l : List α} {i : Nat} (found : i < l.length) {h : β → β}
    (here : g l[i] = h (f l[i])) (elsewhere : ∀ j (other : j < l.length), j ≠ i → g l[j] = f l[j]) :
    l.map g = (l.map f).modify i h := by
  apply List.ext_getElem (by simp)
  intro j inMap inModify
  rw [List.getElem_modify, List.getElem_map, List.getElem_map]
  by_cases same : i = j
  · subst same
    rw [if_pos rfl, here]
  · rw [if_neg same, elsewhere j (by simpa using inMap) (Ne.symm same)]

theorem sum_set_add {l : List Nat} {i : Nat} (found : i < l.length) (a : Nat) :
    (l.set i a).sum + l[i] = l.sum + a := by
  rw [List.sum_set, if_pos found]
  conv_rhs => rw [← List.take_append_drop i l]
  rw [List.sum_append, List.drop_eq_getElem_cons found, List.sum_cons]
  omega

end Lists

section Frame

variable {fs : EasyFileSystem} {area : Nat} {device device' : BlockDevice} {inode other : Inode}
  {diskInode otherInode : DiskInode}

theorem Inode.Holds.diskInodeOn_eq (holds : inode.Holds device diskInode) :
    inode.diskInodeOn device = diskInode := by
  obtain ⟨_, -, read⟩ := bind_eq_ok.mp holds.located
  exact Except.ok.inj read

theorem readDiskInode_congr {blockId offset : Nat}
    (same : ∀ index < diskInodeSize, device'.bytes (address blockId offset + index) =
      device.bytes (address blockId offset + index)) :
    EasyFs.readDiskInode device' blockId offset = EasyFs.readDiskInode device blockId offset := by
  have word : ∀ index < 31, readWord device' blockId offset index = readWord device blockId offset index :=
    fun index below => by
      unfold readWord BlockDevice.readField
      congr 1
      apply ByteMemory.readLE_congr
      intro byte within
      have moved : address blockId (offset + 4 * index) + byte =
          address blockId offset + (4 * index + byte) := by
        unfold address
        omega
      rw [moved]
      exact same (4 * index + byte) (by unfold diskInodeSize; omega)
  have type_ : device'.bytes (address blockId (offset + 124)) =
      device.bytes (address blockId (offset + 124)) := same 124 (by decide)
  have direct : (Vector.ofFn fun index : Fin inodeDirectCount => readWord device' blockId offset (index + 1)) =
      Vector.ofFn fun index : Fin inodeDirectCount => readWord device blockId offset (index + 1) := by
    congr 1
    funext index
    exact word _ (by have := index.isLt; unfold inodeDirectCount at this; omega)
  simp only [EasyFs.readDiskInode, word 0 (by decide), word 29 (by decide), word 30 (by decide),
    direct, type_]

theorem Inode.Apart.outside (apart : inode.Apart other) (inBlock : inode.blockOffset + diskInodeSize ≤ blockSz)
    (otherInBlock : other.blockOffset + diskInodeSize ≤ blockSz) {index : Nat} (below : index < diskInodeSize) :
    address other.blockId other.blockOffset + index < address inode.blockId inode.blockOffset ∨
      address inode.blockId inode.blockOffset + diskInodeSize ≤
        address other.blockId other.blockOffset + index := by
  unfold Inode.Apart at apart
  unfold address blockSz diskInodeSize at *
  omega

theorem Inode.OnVolume.of_keeps {kept : Nat → Prop} (onVolume : other.OnVolume fs area device otherInode)
    (keeps : Keeps device device' kept)
    (held : ∀ block ∈ otherInode.treeBlocks device (dataBlocksOf otherInode.size).toNat, kept block.toNat)
    (slot : ∀ index < diskInodeSize, device'.bytes (address other.blockId other.blockOffset + index) =
      device.bytes (address other.blockId other.blockOffset + index))
    (stillMarked : ∀ block ∈ otherInode.treeBlocks device (dataBlocksOf otherInode.size).toNat,
      fs.dataBitmap.isSet device' (block.toNat - fs.dataAreaStartBlock.toNat) = true) :
    other.OnVolume fs area device' otherInode ∧
      otherInode.treeBlocks device' (dataBlocksOf otherInode.size).toNat =
        otherInode.treeBlocks device (dataBlocksOf otherInode.size).toNat ∧
      otherInode.fileBytes device' = otherInode.fileBytes device := by
  obtain ⟨holds, laid, inArea, -, beforeBitmap, rootsClear⟩ := onVolume
  have fits := holds.fits
  have tree := treeBlocks_of_keeps keeps fits held
  obtain ⟨_, cached, read⟩ := bind_eq_ok.mp holds.located
  have inside := (getBlockCache_eq_ok device).mp cached
  have located : EasyFs.readDiskInode device' other.blockId other.blockOffset = otherInode := by
    rw [readDiskInode_congr slot]
    exact Except.ok.inj read
  refine ⟨⟨⟨?_, formed_of_keeps keeps fits held holds.formed, fits, tree ▸ holds.own,
    holds.inBlock⟩, keeps.1 ▸ laid, tree ▸ inArea, tree ▸ stillMarked, beforeBitmap, rootsClear⟩, tree,
    fileBytes_of_keeps keeps fits held⟩
  rw [Inode.readDiskInode, getBlockCache_bind _ (by rw [keeps.1]; exact inside), located]
  rfl

/-- A file apart from the file a call was on, with none of its blocks, lies on the volume after
the call as before, with the same blocks and bytes. -/
theorem Inode.OnVolume.of_frame (onVolume : other.OnVolume fs area device otherInode)
    (mine : inode.OnVolume fs area device diskInode)
    (frame : inode.Frame fs area (diskInode.treeBlocks device (dataBlocksOf diskInode.size).toNat)
      device device')
    (apart : inode.Apart other)
    (disjoint : (otherInode.treeBlocks device (dataBlocksOf otherInode.size).toNat).Disjoint
      (diskInode.treeBlocks device (dataBlocksOf diskInode.size).toNat)) :
    other.OnVolume fs area device' otherInode ∧
      otherInode.treeBlocks device' (dataBlocksOf otherInode.size).toNat =
        otherInode.treeBlocks device (dataBlocksOf otherInode.size).toNat ∧
      otherInode.fileBytes device' = otherInode.fileBytes device := by
  have inArea := onVolume.inArea
  have marked := onVolume.marked
  have held : ∀ block ∈ otherInode.treeBlocks device (dataBlocksOf otherInode.size).toNat,
      fs.OtherBlock area device (diskInode.treeBlocks device (dataBlocksOf diskInode.size).toNat)
        block.toNat :=
    fun block member => ⟨(inArea block member).1, (inArea block member).2, marked block member,
      fun used inMine same => disjoint member (UInt32.toNat_inj.mp same ▸ inMine)⟩
  refine onVolume.of_keeps frame.others held (fun index below => frame.slots _ ?_
    (apart.outside mine.holds.inBlock onVolume.holds.inBlock below)) fun block member => ?_
  · have inBlock := onVolume.holds.inBlock
    have beforeBitmap := onVolume.beforeBitmap
    unfold address blockSz diskInodeSize at *
    omega
  · have within := inArea block member
    refine frame.bits _ (by omega) (marked block member) fun used inMine same => ?_
    have there := (mine.inArea used inMine).1
    have equal : used.toNat = block.toNat := by omega
    exact disjoint member (UInt32.toNat_inj.mp equal ▸ inMine)

theorem disjoint_of_taken {tree tree' others : List UInt32}
    (taken : ∀ block ∈ tree', block ∈ tree ∨
      fs.dataBitmap.isSet device (block.toNat - fs.dataAreaStartBlock.toNat) = false)
    (marked : ∀ block ∈ others,
      fs.dataBitmap.isSet device (block.toNat - fs.dataAreaStartBlock.toNat) = true)
    (disjoint : others.Disjoint tree) : others.Disjoint tree' := by
  intro block inOthers inNew
  rcases taken block inNew with old | free
  · exact disjoint inOthers old
  · rw [marked block inOthers] at free
    cases free

end Frame

section Steps

variable {fs : EasyFileSystem} {area : Nat} {device device' : BlockDevice} {inodes : List Inode}

theorem FilesOnVolume.apart_of_step (volume : FilesOnVolume fs area device inodes) {file : Nat}
    (found : file < inodes.length)
    (taken : ∀ block ∈ inodes[file].treeOn device', block ∈ inodes[file].treeOn device ∨
      fs.dataBitmap.isSet device (block.toNat - fs.dataAreaStartBlock.toNat) = false)
    (sameTree : ∀ j (other : j < inodes.length), j ≠ file → inodes[j].treeOn device' = inodes[j].treeOn device)
    (i j : Nat) (hi : i < inodes.length) (hj : j < inodes.length) (differ : i ≠ j) :
    inodes[i].Apart inodes[j] ∧ (inodes[i].treeOn device').Disjoint (inodes[j].treeOn device') := by
  refine ⟨(volume.apart i j hi hj differ).1, ?_⟩
  have marked : ∀ k (other : k < inodes.length), ∀ block ∈ inodes[k].treeOn device,
      fs.dataBitmap.isSet device (block.toNat - fs.dataAreaStartBlock.toNat) = true :=
    fun k other => (volume.onVolume k other).marked
  by_cases first : i = file
  · subst first
    rw [sameTree j hj (Ne.symm differ)]
    exact fun block inFile inOther =>
      disjoint_of_taken taken (marked j hj) (volume.apart j i hj hi (Ne.symm differ)).2 inOther inFile
  · rw [sameTree i hi first]
    by_cases second : j = file
    · subst second
      exact disjoint_of_taken taken (marked i hi) (volume.apart i j hi hj differ).2
    · rw [sameTree j hj second]
      exact (volume.apart i j hi hj differ).2

theorem FilesOnVolume.writeAt (volume : FilesOnVolume fs area device inodes) {file offset written : Nat}
    {buf : List UInt8} (found : file < inodes.length) (nonempty : buf ≠ [])
    (noHole : offset ≤ (inodes[file].diskInodeOn device).size.toNat)
    (bounded : offset + buf.length ≤ indirect2Bound * blockSz)
    (room : blocksFor (offset + buf.length) - blocksFor (inodes[file].diskInodeOn device).size.toNat ≤
      (fs.freeBlocks device area).length)
    (call : inodes[file].writeAt fs device offset buf = .ok (written, device')) :
    FilesOnVolume fs area device' inodes ∧
      contents inodes device' = (FileOp.writeAt file offset buf).apply (contents inodes device) ∧
      ∀ j (other : j < inodes.length), j ≠ file → inodes[j].diskInodeOn device' = inodes[j].diskInodeOn device := by
  have mine := volume.onVolume file found
  obtain ⟨device'', diskInode', call', wrote⟩ := mine.writeAt nonempty noHole bounded room
  rw [call'] at call
  obtain ⟨-, rfl⟩ := Prod.mk.inj (Except.ok.inj call)
  have now : inodes[file].diskInodeOn device'' = diskInode' := wrote.onVolume.holds.diskInodeOn_eq
  have others : ∀ j (other : j < inodes.length), j ≠ file →
      inodes[j].OnVolume fs area device'' (inodes[j].diskInodeOn device) ∧
        (inodes[j].diskInodeOn device).treeBlocks device''
          (dataBlocksOf (inodes[j].diskInodeOn device).size).toNat = inodes[j].treeOn device ∧
        (inodes[j].diskInodeOn device).fileBytes device'' = (inodes[j].diskInodeOn device).fileBytes device :=
    fun j other differ => (volume.onVolume j other).of_frame mine wrote.frame
      (volume.apart file j found other (Ne.symm differ)).1 (volume.apart j file other found differ).2
  have same : ∀ j (other : j < inodes.length), j ≠ file →
      inodes[j].diskInodeOn device'' = inodes[j].diskInodeOn device :=
    fun j other differ => (others j other differ).1.holds.diskInodeOn_eq
  have sameTree : ∀ j (other : j < inodes.length), j ≠ file →
      inodes[j].treeOn device'' = inodes[j].treeOn device := fun j other differ => by
    unfold Inode.treeOn
    rw [same j other differ]
    exact (others j other differ).2.1
  have sizes := map_eq_modify (f := fun inode => blocksFor (inode.diskInodeOn device).size.toNat)
    (g := fun inode => blocksFor (inode.diskInodeOn device'').size.toNat)
    (h := fun _ => blocksFor diskInode'.size.toNat) found (by rw [now]) fun j other differ => by
      rw [same j other differ]
  have sum := sum_set_add (l := inodes.map fun inode => blocksFor (inode.diskInodeOn device).size.toNat)
    (by simpa using found) (blocksFor diskInode'.size.toNat)
  have larger := blocksFor_mono
    (show (inodes[file].diskInodeOn device).size.toNat ≤ diskInode'.size.toNat by rw [wrote.size]; omega)
  refine ⟨⟨fun j other => ?_, volume.apart_of_step found (by unfold Inode.treeOn; rw [now]; exact wrote.taken)
    sameTree, ?_⟩, ?_, same⟩
  · by_cases here : j = file
    · subst here
      rw [now]
      exact wrote.onVolume
    · rw [same j other here]
      exact (others j other here).1
  · have counted := volume.counted
    have took := wrote.counted
    rw [sizes, ← List.set_eq_modify]
    rw [List.getElem_map] at sum
    omega
  · simp only [contents, FileOp.apply]
    refine map_eq_modify found (by rw [now]; exact wrote.bytes) fun j other differ => ?_
    rw [same j other differ]
    exact (others j other differ).2.2

/-- A `clear` on one file of the volume: the files stay on the volume together, and the store
empties the file. -/
theorem FilesOnVolume.clear (volume : FilesOnVolume fs area device inodes) {file : Nat}
    (found : file < inodes.length) (call : inodes[file].clear fs device = .ok device') :
    FilesOnVolume fs area device' inodes ∧
      contents inodes device' = (FileOp.clear file).apply (contents inodes device) ∧
      ∀ j (other : j < inodes.length), j ≠ file → inodes[j].diskInodeOn device' = inodes[j].diskInodeOn device := by
  have mine := volume.onVolume file found
  obtain ⟨device'', call', onVolume', frame, freed, -⟩ := mine.clear
  rw [call'] at call
  obtain rfl := Except.ok.inj call
  have now : inodes[file].diskInodeOn device'' =
      (inodes[file].diskInodeOn device).init (inodes[file].diskInodeOn device).type_ :=
    onVolume'.holds.diskInodeOn_eq
  have others : ∀ j (other : j < inodes.length), j ≠ file →
      inodes[j].OnVolume fs area device'' (inodes[j].diskInodeOn device) ∧
        (inodes[j].diskInodeOn device).treeBlocks device''
          (dataBlocksOf (inodes[j].diskInodeOn device).size).toNat = inodes[j].treeOn device ∧
        (inodes[j].diskInodeOn device).fileBytes device'' = (inodes[j].diskInodeOn device).fileBytes device :=
    fun j other differ => (volume.onVolume j other).of_frame mine frame
      (volume.apart file j found other (Ne.symm differ)).1 (volume.apart j file other found differ).2
  have same : ∀ j (other : j < inodes.length), j ≠ file →
      inodes[j].diskInodeOn device'' = inodes[j].diskInodeOn device :=
    fun j other differ => (others j other differ).1.holds.diskInodeOn_eq
  have sameTree : ∀ j (other : j < inodes.length), j ≠ file →
      inodes[j].treeOn device'' = inodes[j].treeOn device := fun j other differ => by
    unfold Inode.treeOn
    rw [same j other differ]
    exact (others j other differ).2.1
  have empty : inodes[file].treeOn device'' = [] := by
    unfold Inode.treeOn
    rw [now, treeBlocks_init]
  have sizes := map_eq_modify (f := fun inode => blocksFor (inode.diskInodeOn device).size.toNat)
    (g := fun inode => blocksFor (inode.diskInodeOn device'').size.toNat) (h := fun _ => 0) found
    (by rw [now, show ((inodes[file].diskInodeOn device).init
      (inodes[file].diskInodeOn device).type_).size = 0 from rfl]; decide)
    fun j other differ => by rw [same j other differ]
  have sum := sum_set_add (l := inodes.map fun inode => blocksFor (inode.diskInodeOn device).size.toNat)
    (by simpa using found) 0
  refine ⟨⟨fun j other => ?_, volume.apart_of_step found (by rw [empty]; exact fun _ absent => absurd absent List.not_mem_nil)
    sameTree, ?_⟩, ?_, same⟩
  · by_cases here : j = file
    · subst here
      rw [now]
      exact onVolume'
    · rw [same j other here]
      exact (others j other here).1
  · have counted := volume.counted
    rw [sizes, ← List.set_eq_modify]
    rw [List.getElem_map] at sum
    omega
  · simp only [contents, FileOp.apply]
    rw [List.set_eq_modify]
    refine map_eq_modify found ?_ fun j other differ => ?_
    · rw [now]
      exact List.eq_nil_of_length_eq_zero (by rw [length_fileBytes]; rfl)
    · rw [same j other differ]
      exact (others j other differ).2.2

theorem FilesOnVolume.step {label : Option FileOp} (volume : FilesOnVolume fs area device inodes)
    (step : VolumeStep fs area inodes device label device') :
    FilesOnVolume fs area device' inodes ∧
      contents inodes device' = label.toList.foldl FileOp.apply (contents inodes device) := by
  cases step with
  | writeAt found nonempty noHole bounded room call =>
      obtain ⟨volume', moved, -⟩ := volume.writeAt found nonempty noHole bounded room call
      exact ⟨volume', moved⟩
  | clear found call =>
      obtain ⟨volume', moved, -⟩ := volume.clear found call
      exact ⟨volume', moved⟩

end Steps

theorem formatted_filesOnVolume {device : BlockDevice} {totalBlocks inodeBitmapBlocks : UInt32}
    (fits : totalBlocks.toNat ≤ device.blocks) (admits : EasyFileSystem.Admits totalBlocks inodeBitmapBlocks)
    (someInodes : 0 < inodeBitmapBlocks.toNat) (untruncated : inodeBitmapBlocks.toNat < 2 ^ 22)
    (unwrapped : totalBlocks.toNat + 4096 < 2 ^ 32) :
    FilesOnVolume (EasyFileSystem.layout totalBlocks inodeBitmapBlocks)
      (EasyFileSystem.regions totalBlocks inodeBitmapBlocks).dataAreaBlocks.toNat
      (EasyFileSystem.formatted device totalBlocks inodeBitmapBlocks) [(EasyFileSystem.layout totalBlocks inodeBitmapBlocks).rootInode] := by
  have laid := EasyFileSystem.layout_dataArea admits fits unwrapped
  obtain ⟨areaStart, bitmapStart, -⟩ := EasyFileSystem.starts_toNat admits
  have room : 1 + inodeBitmapBlocks.toNat +
      (EasyFileSystem.regions totalBlocks inodeBitmapBlocks).inodeAreaBlocks.toNat < totalBlocks.toNat := admits
  have inodeArea : 0 < (EasyFileSystem.regions totalBlocks inodeBitmapBlocks).inodeAreaBlocks.toNat := by
    rw [EasyFileSystem.inodeAreaBlocks_toNat, Nat.mod_eq_of_lt (by omega)]
    omega
  have root : (EasyFileSystem.layout totalBlocks inodeBitmapBlocks).rootInode =
      ⟨(EasyFileSystem.layout totalBlocks inodeBitmapBlocks).inodeAreaStartBlock.toNat, 0⟩ := by
    unfold EasyFileSystem.rootInode
    rw [EasyFileSystem.getDiskInodePos_zero]
    rfl
  obtain ⟨diskInode, stored⟩ : ∃ diskInode : DiskInode,
      EasyFs.readDiskInode (EasyFileSystem.formatted device totalBlocks inodeBitmapBlocks)
        (EasyFileSystem.layout totalBlocks inodeBitmapBlocks).inodeAreaStartBlock.toNat 0 =
          diskInode.init .directory := by
    unfold EasyFileSystem.formatted
    simp only [EasyFileSystem.getDiskInodePos_zero]
    exact ⟨_, readDiskInode_writeDiskInode _ _ _ _⟩
  have located : (EasyFileSystem.layout totalBlocks inodeBitmapBlocks).rootInode.readDiskInode
      (EasyFileSystem.formatted device totalBlocks inodeBitmapBlocks) = .ok (diskInode.init .directory) := by
    rw [root, Inode.readDiskInode,
      getBlockCache_bind _ (show _ < (EasyFileSystem.formatted device totalBlocks inodeBitmapBlocks).blocks by
        rw [EasyFileSystem.blocks_formatted, areaStart]
        dsimp only
        omega), stored]
    rfl
  have onVolume := Inode.OnVolume.of_init located (by rw [root]; dsimp only; decide) laid
    (by rw [root, areaStart, bitmapStart]; dsimp only; omega)
  have now := onVolume.holds.diskInodeOn_eq
  have clear : (EasyFileSystem.layout totalBlocks inodeBitmapBlocks).dataBitmap.FilledBelow
      (EasyFileSystem.formatted device totalBlocks inodeBitmapBlocks) 0 :=
    EasyFileSystem.formatted_dataClear admits someInodes untruncated
  have free : (EasyFileSystem.layout totalBlocks inodeBitmapBlocks).freeBlocks (EasyFileSystem.formatted device totalBlocks inodeBitmapBlocks)
      (EasyFileSystem.regions totalBlocks inodeBitmapBlocks).dataAreaBlocks.toNat =
        List.range (EasyFileSystem.regions totalBlocks inodeBitmapBlocks).dataAreaBlocks.toNat := by
    unfold EasyFileSystem.freeBlocks Bitmap.clearBits
    rw [List.filter_eq_self]
    intro bit member
    rw [clear bit (Nat.lt_of_lt_of_le (List.mem_range.mp member) laid.covered)]
    simp
  refine ⟨fun i found => ?_, fun i j hi hj differ => ?_, ?_⟩
  · obtain rfl : i = 0 := by simpa using found
    rw [List.getElem_cons_zero, now]
    exact onVolume
  · simp only [List.length_singleton] at hi hj
    omega
  · rw [free, List.length_range, List.map_singleton, List.sum_singleton, now,
      show (diskInode.init .directory).size = 0 from rfl]
    rfl

theorem emptyImage_filesOnVolume : FilesOnVolume (EasyFileSystem.layout 1030 1)
    (EasyFileSystem.regions 1030 1).dataAreaBlocks.toNat (EasyFileSystem.formatted emptyImage 1030 1)
    [(EasyFileSystem.layout 1030 1).rootInode] :=
  formatted_filesOnVolume (by decide) (by decide) (by decide) (by decide) (by decide)

/-- The volume refines the abstract store. Along every run of `write_at` and `clear` on files
that lie on the volume together, each write from within its file and with room for the blocks
it needs, the files stay on the volume together, no block of the data area is lost, and every
`read_at` answers from the contents the store computes from the calls. -/
theorem volume_refines_fileStore {fs : EasyFileSystem} {area : Nat} {inodes : List Inode}
    {device device' : BlockDevice} {log : List FileOp}
    (volume : FilesOnVolume fs area device inodes)
    (run : Transition.Run (VolumeStep fs area inodes) device log device') :
    FilesOnVolume fs area device' inodes ∧
      contents inodes device' = log.foldl FileOp.apply (contents inodes device) ∧
      ∀ i (found : i < inodes.length) (offset : Nat) (buf : List UInt8),
        inodes[i].readAt device' offset buf =
          .ok (fileRead ((log.foldl FileOp.apply (contents inodes device)).getD i []) offset buf) := by
  obtain ⟨volume', moved⟩ := run.fold (contents inodes) FileOp.apply
    (fun current _ _ (volume : FilesOnVolume fs area current inodes) step => volume.step step) volume
  refine ⟨volume', moved, fun i found offset buf => ?_⟩
  have onVolume := volume'.onVolume i found
  rw [Inode.readAt_eq_fileRead onVolume.holds.located onVolume.holds.formed onVolume.holds.fits, ← moved]
  unfold contents
  rw [List.getD_eq_getElem _ _ (by simpa using found), List.getElem_map]

/-- On the volume `create` formats, a `clear` of the root and then a write of two bytes to it,
which takes a block of the data area. -/
theorem formatted_volume_refines_fileStore :
    ∃ device', Transition.Run (VolumeStep (EasyFileSystem.layout 1030 1)
        (EasyFileSystem.regions 1030 1).dataAreaBlocks.toNat [(EasyFileSystem.layout 1030 1).rootInode])
        (EasyFileSystem.formatted emptyImage 1030 1) [.clear 0, .writeAt 0 0 [1, 2]] device' ∧
      FilesOnVolume (EasyFileSystem.layout 1030 1) (EasyFileSystem.regions 1030 1).dataAreaBlocks.toNat
        device' [(EasyFileSystem.layout 1030 1).rootInode] ∧
      contents [(EasyFileSystem.layout 1030 1).rootInode] device' = [[1, 2]] ∧
      ∀ offset buf, (EasyFileSystem.layout 1030 1).rootInode.readAt device' offset buf =
        .ok (fileRead [1, 2] offset buf) := by
  have volume := emptyImage_filesOnVolume
  obtain ⟨device1, cleared, onVolume1, -⟩ := (volume.onVolume 0 (by decide)).clear
  have first : VolumeStep (EasyFileSystem.layout 1030 1)
      (EasyFileSystem.regions 1030 1).dataAreaBlocks.toNat [(EasyFileSystem.layout 1030 1).rootInode]
      (EasyFileSystem.formatted emptyImage 1030 1) (some (.clear 0)) device1 :=
    .clear (by decide) cleared
  have volume1 := (volume.step first).1
  have emptied : ((EasyFileSystem.layout 1030 1).rootInode.diskInodeOn device1).size.toNat = 0 := by
    have cleared := onVolume1.holds.diskInodeOn_eq
    rw [List.getElem_cons_zero] at cleared
    rw [cleared]
    rfl
  have counted := volume1.counted
  simp only [List.map_cons, List.map_nil, List.sum_cons, List.sum_nil, emptied] at counted
  have free : ((EasyFileSystem.layout 1030 1).freeBlocks device1
      (EasyFileSystem.regions 1030 1).dataAreaBlocks.toNat).length = 3 := by
    have area : (EasyFileSystem.regions 1030 1).dataAreaBlocks.toNat = 3 := by decide
    have nothing : blocksFor 0 = 0 := by decide
    omega
  have room : blocksFor (0 + ([1, 2] : List UInt8).length) -
      blocksFor ([(EasyFileSystem.layout 1030 1).rootInode][0].diskInodeOn device1).size.toNat ≤
        ((EasyFileSystem.layout 1030 1).freeBlocks device1
          (EasyFileSystem.regions 1030 1).dataAreaBlocks.toNat).length := by
    rw [List.getElem_cons_zero, emptied, free]
    decide
  obtain ⟨device2, -, wrote, -⟩ := (volume1.onVolume 0 (by decide)).writeAt
    (by decide : ([1, 2] : List UInt8) ≠ []) (Nat.zero_le _) (by decide) room
  have second : VolumeStep (EasyFileSystem.layout 1030 1)
      (EasyFileSystem.regions 1030 1).dataAreaBlocks.toNat [(EasyFileSystem.layout 1030 1).rootInode]
      device1 (some (.writeAt 0 0 [1, 2])) device2 :=
    .writeAt (by decide) (by decide) (Nat.zero_le _) (by decide) room wrote
  have run : Transition.Run (VolumeStep (EasyFileSystem.layout 1030 1)
      (EasyFileSystem.regions 1030 1).dataAreaBlocks.toNat [(EasyFileSystem.layout 1030 1).rootInode])
      (EasyFileSystem.formatted emptyImage 1030 1) [.clear 0, .writeAt 0 0 [1, 2]] device2 :=
    ((Transition.Run.refl _).step first).step second
  obtain ⟨volume2, moved, reads⟩ := volume_refines_fileStore volume run
  exact ⟨device2, run, volume2, moved.trans rfl, fun offset buf => (reads 0 (by decide) offset buf).trans rfl⟩

end EasyFs

end ChOs
