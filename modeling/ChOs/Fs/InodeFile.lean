import ChOs.Fs.OsInode
import ChOs.EasyFs.Resize

set_option autoImplicit false

/- The bytes of an easy-fs file, and `read_at` and `write_at` against the file model. -/

namespace ChOs

namespace EasyFs

namespace DiskInode

variable (self : DiskInode) (device : BlockDevice)

/-- Byte `i` of the file: byte `i % BLOCK_SZ` of its data block `i / BLOCK_SZ`. -/
def fileByte (i : Nat) : UInt8 :=
  device.bytes (BlockDevice.address (self.dataBlockAt device (i / blockSz)).toNat (i % blockSz))

/-- The bytes of the file: the first `size` bytes of its data blocks. -/
def fileBytes : List UInt8 := (List.range self.size.toNat).map (self.fileByte device)

variable {self device}

@[simp] theorem length_fileBytes : (self.fileBytes device).length = self.size.toNat := by
  simp [fileBytes]

theorem readBytes_eq_fileBytes {start count : Nat} (inBlock : start % blockSz + count ≤ blockSz)
    (inFile : start + count ≤ self.size.toNat) :
    ByteMemory.readBytes device.bytes
        (BlockDevice.address (self.dataBlockAt device (start / blockSz)).toNat (start % blockSz))
        count =
      ((self.fileBytes device).drop start).take count := by
  apply List.ext_getElem
  · simp only [ByteMemory.readBytes_length, List.length_take, List.length_drop, length_fileBytes]
    omega
  · intro k inRead inSlice
    rw [ByteMemory.readBytes_length] at inRead
    have sameBlock : (start + k) / blockSz = start / blockSz := by
      unfold blockSz at *
      omega
    have offset : (start + k) % blockSz = start % blockSz + k := by
      unfold blockSz at *
      omega
    simp only [ByteMemory.readBytes, List.getElem_map, List.getElem_range, List.getElem_take,
      List.getElem_drop, fileBytes, fileByte, sameBlock, offset, BlockDevice.address,
      Nat.add_assoc]

theorem splice_twice {α : Type} (buf source : List α) {r b c : Nat}
    (room : r + b + c ≤ buf.length) (enough : b ≤ source.length) :
    (buf.take r ++ source.take b ++ buf.drop (r + b)).take (r + b) ++ (source.drop b).take c ++
        (buf.take r ++ source.take b ++ buf.drop (r + b)).drop (r + b + c) =
      buf.take r ++ source.take (b + c) ++ buf.drop (r + b + c) := by
  have front : (buf.take r ++ source.take b).length = r + b := by
    simp only [List.length_append, List.length_take]
    omega
  have back : (buf.take r ++ source.take b ++ buf.drop (r + b)).drop (r + b + c) =
      buf.drop (r + b + c) := by
    rw [List.drop_append, List.drop_eq_nil_of_le (by omega), List.nil_append, front,
      Nat.add_sub_cancel_left, List.drop_drop]
  rw [List.take_left' front, back, List.take_add, List.append_assoc (buf.take r)]

theorem entry_mem_indexBlocksAt {i : Nat} {entry : Nat × Nat}
    (read : entry ∈ self.entriesRead device i) :
    ∃ p ≤ i, ∃ block ∈ self.indexBlocksAt device p, entry.1 = block.toNat := by
  unfold entriesRead at read
  split_ifs at read with direct middle
  · cases read
  · rw [List.mem_singleton] at read
    subst read
    exact ⟨inodeDirectCount, by omega, self.indirect1,
      by simp [indexBlocksAt, indirect1Bound_eq, inodeDirectCount], rfl⟩
  · simp only [List.mem_cons, List.mem_nil_iff, or_false] at read
    rcases read with rfl | rfl
    · exact ⟨indirect1Bound, by omega, self.indirect2,
        by simp [indexBlocksAt, indirect1Bound_eq, inodeDirectCount], rfl⟩
    · refine ⟨indirect1Bound + inodeIndirect1Count * ((i - indirect1Bound) / inodeIndirect1Count),
        ?_, _, ?_, rfl⟩
      · have := Nat.mul_div_le (i - indirect1Bound) inodeIndirect1Count
        omega
      · simp [indexBlocksAt, indirect1Bound_eq, inodeIndirect1Count_eq, inodeDirectCount]

theorem entry_ne_dataBlockAt {count i j : Nat} (nodup : (self.treeBlocks device count).Nodup)
    (hi : i < count) (hj : j < count) {entry : Nat × Nat}
    (read : entry ∈ self.entriesRead device i) :
    entry.1 ≠ (self.dataBlockAt device j).toNat := by
  obtain ⟨p, early, block, indexed, named⟩ := entry_mem_indexBlocksAt read
  rw [named]
  intro same
  have sameBlock := UInt32.toNat_inj.mp same
  have data : self.dataBlockAt device j ∈ self.blocksAt device j :=
    List.mem_append_right _ (List.mem_singleton_self _)
  by_cases here : p = j
  · subst here
    have pieces := self.nodup_blocksAt device nodup hj
    unfold blocksAt at pieces
    exact List.disjoint_of_nodup_append pieces indexed (sameBlock ▸ List.mem_singleton_self _)
  · exact self.ne_of_nodup device nodup (by omega) hj here (List.mem_append_left _ indexed) data
      sameBlock

theorem readWord_writeBytes_other (device : BlockDevice) {block offset : Nat} {src : List UInt8}
    (inBlock : offset + src.length ≤ blockSz) {other index : Nat}
    (below : index < inodeIndirect1Count) (differ : other ≠ block) :
    readWord { device with
        bytes := ByteMemory.writeBytes device.bytes (BlockDevice.address block offset) src }
      other 0 index = readWord device other 0 index := by
  have changes := @BlockDevice.writeBytes_changes device block offset src inBlock
  unfold readWord
  rw [changes.readField differ _ _ (by unfold inodeIndirect1Count blockSz at *; omega)]

theorem dataBlockAt_congr {device' : BlockDevice} {i : Nat}
    (same : ∀ entry ∈ self.entriesRead device i,
      readWord device' entry.1 0 entry.2 = readWord device entry.1 0 entry.2) :
    self.dataBlockAt device' i = self.dataBlockAt device i := by
  unfold dataBlockAt
  split_ifs with direct middle
  · rfl
  · exact same (self.indirect1.toNat, i - inodeDirectCount) (by simp [entriesRead, direct, middle])
  · have late : indirect1Bound ≤ i := Nat.le_of_not_lt middle
    have sub : self.subBlock device' ((i - indirect1Bound) / inodeIndirect1Count) =
        self.subBlock device ((i - indirect1Bound) / inodeIndirect1Count) :=
      same _ (mem_entriesRead_indirect2 late)
    dsimp only
    rw [sub]
    exact same ((self.subBlock device ((i - indirect1Bound) / inodeIndirect1Count)).toNat,
      (i - indirect1Bound) % inodeIndirect1Count) (by simp [entriesRead, direct, middle])

theorem blocksAt_congr {device' : BlockDevice} {i : Nat}
    (same : ∀ entry ∈ self.entriesRead device i,
      readWord device' entry.1 0 entry.2 = readWord device entry.1 0 entry.2) :
    self.blocksAt device' i = self.blocksAt device i := by
  unfold blocksAt indexBlocksAt
  rw [dataBlockAt_congr same]
  by_cases starts : indirect1Bound ≤ i ∧ (i - indirect1Bound) % inodeIndirect1Count = 0
  · have sub : self.subBlock device' ((i - indirect1Bound) / inodeIndirect1Count) =
        self.subBlock device ((i - indirect1Bound) / inodeIndirect1Count) :=
      same _ (mem_entriesRead_indirect2 starts.1)
    rw [if_pos starts, if_pos starts, sub]
  · rw [if_neg starts, if_neg starts]

section Fits

variable (fits : self.size.toNat ≤ indirect2Bound * blockSz)

include fits

theorem dataBlocks_le : (dataBlocksOf self.size).toNat ≤ indirect2Bound := by
  rw [indirect2Bound_eq] at fits ⊢
  rw [dataBlocksOf_toNat (by unfold blockSz at *; omega)]
  unfold blockSz at *
  omega

theorem blockIndex_lt {i : Nat} (inFile : i < self.size.toNat) :
    i / blockSz < (dataBlocksOf self.size).toNat := by
  rw [indirect2Bound_eq] at fits
  rw [dataBlocksOf_toNat (by unfold blockSz at *; omega)]
  unfold blockSz at *
  omega

end Fits

section Formed

variable (formed : self.Formed device (dataBlocksOf self.size).toNat)
  (fits : self.size.toNat ≤ indirect2Bound * blockSz)

include formed fits

theorem getBlockId_of_lt {start : Nat} (inFile : start < self.size.toNat) :
    self.getBlockId (UInt32.ofNat (start / blockSz)) device =
        .ok (self.dataBlockAt device (start / blockSz)) ∧
      (self.dataBlockAt device (start / blockSz)).toNat < device.blocks := by
  have before := blockIndex_lt fits inFile
  have small : start / blockSz < 2 ^ 32 := by
    have := dataBlocks_le fits
    rw [indirect2Bound_eq] at this
    omega
  have index : (UInt32.ofNat (start / blockSz)).toNat = start / blockSz := by
    rw [UInt32.toNat_ofNat', Nat.mod_eq_of_lt small]
  refine ⟨?_, formed.inside _ (self.mem_treeBlocks device before ?_)⟩
  · rw [getBlockId_eq formed (dataBlocks_le fits) (by rw [index]; exact before), index]
  · exact List.mem_append_right _ (List.mem_singleton_self _)

theorem readLoop_eq :
    ∀ start readSize end_ (buf : List UInt8), start < end_ → end_ ≤ self.size.toNat →
      readSize + (end_ - start) ≤ buf.length →
      self.readLoop device start (start / blockSz) readSize end_ buf =
        .ok (readSize + (end_ - start),
          buf.take readSize ++ ((self.fileBytes device).drop start).take (end_ - start) ++
            buf.drop (readSize + (end_ - start))) := by
  intro start readSize end_ buf before inFile room
  induction remaining : end_ - start using Nat.strongRecOn generalizing start readSize buf with
  | ind remaining ih =>
      subst remaining
      obtain ⟨found, inDevice⟩ :=
        getBlockId_of_lt formed fits (show start < self.size.toNat by omega)
      have blockEnd : start < (start / blockSz + 1) * blockSz := by unfold blockSz; omega
      have inBlock : start % blockSz + (min ((start / blockSz + 1) * blockSz) end_ - start) ≤
          blockSz := by
        unfold blockSz at *
        omega
      have round := @readBytes_eq_fileBytes self device _ _ inBlock (by omega)
      rw [readLoop, found, ok_bind]
      dsimp only
      rw [BlockDevice.getBlockCache_bind _ inDevice]
      rw [round]
      split
      · rename_i last
        rw [last]
      · rename_i more
        have nextBlock := Nat.mul_div_cancel (start / blockSz + 1) (show 0 < blockSz by decide)
        obtain ⟨mid, named⟩ : ∃ mid, (start / blockSz + 1) * blockSz = mid := ⟨_, rfl⟩
        rw [named] at more blockEnd nextBlock
        have next : min mid end_ = mid := by omega
        rw [named, next, ← nextBlock, ih _ (by omega) mid _ _ (by omega) (by simp; omega) rfl]
        have joined := splice_twice buf ((self.fileBytes device).drop start)
          (show readSize + (mid - start) + (end_ - mid) ≤ buf.length by omega)
          (by simp; omega)
        rw [List.drop_drop, Nat.add_sub_cancel' (Nat.le_of_lt blockEnd)] at joined
        rw [joined, show mid - start + (end_ - mid) = end_ - start by omega,
          show readSize + (mid - start) + (end_ - mid) = readSize + (end_ - start) by omega]

/-- `DiskInode::read_at` over a formed index returns what the file model's `read_at` returns for
the file's bytes. -/
theorem readAt_eq_fileRead (offset : Nat) (buf : List UInt8) :
    self.readAt offset buf device = .ok (fileRead (self.fileBytes device) offset buf) := by
  unfold readAt fileRead
  dsimp only
  rw [length_fileBytes]
  split
  · rename_i nothing
    rw [show min buf.length (self.size.toNat - offset) = 0 by omega, List.take_zero,
      List.nil_append, List.drop_zero]
  · rename_i something
    rw [readLoop_eq formed fits offset 0 _ buf (by omega) (by omega) (by omega),
      show min buf.length (self.size.toNat - offset) =
        min (offset + buf.length) self.size.toNat - offset by omega,
      Nat.zero_add, List.take_zero, List.nil_append]

end Formed

/-- `device'` is `device` after `data` was written into the file of `inode` from byte `start`: the
device keeps its blocks and the index, the file's bytes are those the file model writes, and no
byte outside the file's data blocks changed. -/
structure Wrote (inode : DiskInode) (device device' : BlockDevice) (start : Nat)
    (data : List UInt8) : Prop where
  blocks : device'.blocks = device.blocks
  index : inode.treeBlocks device' (dataBlocksOf inode.size).toNat =
    inode.treeBlocks device (dataBlocksOf inode.size).toNat
  bytes : inode.fileBytes device' = fileWrite (inode.fileBytes device) start data
  outside : ∀ address, (∀ j < (dataBlocksOf inode.size).toNat,
      address / blockSz ≠ (inode.dataBlockAt device j).toNat) →
    device'.bytes address = device.bytes address

section Writes

variable {device' device'' : BlockDevice} {start : Nat} {data : List UInt8}

theorem Wrote.formed (wrote : self.Wrote device device' start data)
    (formed : self.Formed device (dataBlocksOf self.size).toNat) :
    self.Formed device' (dataBlocksOf self.size).toNat where
  nodup := wrote.index ▸ formed.nodup
  inside block member := wrote.blocks ▸ formed.inside block (wrote.index ▸ member)

theorem Wrote.dataBlockAt (wrote : self.Wrote device device' start data) {j : Nat}
    (before : j < (dataBlocksOf self.size).toNat) :
    self.dataBlockAt device' j = self.dataBlockAt device j :=
  dataBlockAt_of_treeBlocks wrote.index before

theorem Wrote.trans {more : List UInt8} (wrote : self.Wrote device device' start data)
    (again : self.Wrote device' device'' (start + data.length) more) :
    self.Wrote device device'' start (data ++ more) where
  blocks := again.blocks.trans wrote.blocks
  index := again.index.trans wrote.index
  bytes := by rw [again.bytes, wrote.bytes, fileWrite_append]
  outside address away := by
    rw [again.outside address fun j before => by rw [wrote.dataBlockAt before]; exact away j before,
      wrote.outside address away]

theorem Wrote.nil (inside : start ≤ self.size.toNat) : self.Wrote device device start [] where
  blocks := rfl
  index := rfl
  bytes := by rw [fileWrite_nil (by rw [length_fileBytes]; exact inside)]
  outside _ _ := rfl

theorem entry_index_lt {i : Nat} (small : i < indirect2Bound) {entry : Nat × Nat}
    (read : entry ∈ self.entriesRead device i) : entry.2 < inodeIndirect1Count := by
  unfold entriesRead at read
  split_ifs at read with direct middle
  · cases read
  · rw [List.mem_singleton] at read
    subst read
    simp only [indirect1Bound_eq, inodeIndirect1Count_eq, inodeDirectCount] at middle ⊢
    omega
  · simp only [List.mem_cons, List.mem_nil_iff, or_false] at read
    rcases read with rfl | rfl
    · exact sub_lt_of_lt_indirect2Bound small
    · exact Nat.mod_lt _ (by decide)

theorem dataBlockAt_ne {count p q : Nat} (nodup : (self.treeBlocks device count).Nodup)
    (hp : p < count) (hq : q < count) (differ : p ≠ q) :
    self.dataBlockAt device p ≠ self.dataBlockAt device q :=
  self.ne_of_nodup device nodup hp hq differ (List.mem_append_right _ (List.mem_singleton_self _))
    (List.mem_append_right _ (List.mem_singleton_self _))

theorem getElem?_fileWrite_within (file : List UInt8) {start : Nat} {data : List UInt8}
    (inFile : start + data.length ≤ file.length) (i : Nat) :
    (fileWrite file start data)[i]? =
      if start ≤ i ∧ i < start + data.length then data[i - start]? else file[i]? := by
  unfold fileWrite
  rw [Nat.sub_eq_zero_of_le (by omega), List.replicate_zero, List.append_nil]
  simp only [List.getElem?_append, List.length_append, List.length_take, List.getElem?_take,
    List.getElem?_drop]
  split_ifs <;> first | omega | rfl | (congr 1; omega)

end Writes

section Round

variable (formed : self.Formed device (dataBlocksOf self.size).toNat)
  (fits : self.size.toNat ≤ indirect2Bound * blockSz)

include formed fits

theorem wrote_round {start : Nat} {src : List UInt8}
    (inBlock : start % blockSz + src.length ≤ blockSz)
    (inFile : start + src.length ≤ self.size.toNat) (inside : start < self.size.toNat) :
    self.Wrote device { device with
        bytes := ByteMemory.writeBytes device.bytes
          (BlockDevice.address (self.dataBlockAt device (start / blockSz)).toNat (start % blockSz)) src }
      start src := by
  have before := blockIndex_lt fits inside
  have same : ∀ i < (dataBlocksOf self.size).toNat, ∀ entry ∈ self.entriesRead device i,
      readWord { device with
          bytes := ByteMemory.writeBytes device.bytes
            (BlockDevice.address (self.dataBlockAt device (start / blockSz)).toNat
              (start % blockSz)) src } entry.1 0 entry.2 =
        readWord device entry.1 0 entry.2 := fun i below entry read =>
    readWord_writeBytes_other device inBlock
      (entry_index_lt (Nat.lt_of_lt_of_le below (dataBlocks_le fits)) read)
      (entry_ne_dataBlockAt formed.nodup below before read)
  have index : self.treeBlocks { device with
        bytes := ByteMemory.writeBytes device.bytes
          (BlockDevice.address (self.dataBlockAt device (start / blockSz)).toNat (start % blockSz))
          src } (dataBlocksOf self.size).toNat =
      self.treeBlocks device (dataBlocksOf self.size).toNat := by
    unfold treeBlocks
    apply List.flatMap_congr
    intro i member
    exact blocksAt_congr (same i (List.mem_range.mp member))
  refine ⟨rfl, index, ?_, ?_⟩
  · apply List.ext_getElem?
    intro i
    rw [getElem?_fileWrite_within _ (by rw [length_fileBytes]; exact inFile)]
    unfold fileBytes
    rw [List.getElem?_map, List.getElem?_map]
    by_cases inByte : i < self.size.toNat
    · have dataBlock := dataBlockAt_of_treeBlocks index (blockIndex_lt fits inByte)
      rw [List.getElem?_range inByte, Option.map_some, Option.map_some]
      unfold fileByte
      rw [dataBlock]
      dsimp only
      split
      · rename_i written
        have sameBlock : i / blockSz = start / blockSz := by unfold blockSz at *; omega
        have offset : BlockDevice.address (self.dataBlockAt device (i / blockSz)).toNat (i % blockSz) =
            BlockDevice.address (self.dataBlockAt device (start / blockSz)).toNat (start % blockSz) +
              (i - start) := by
          rw [sameBlock]
          unfold BlockDevice.address blockSz at *
          omega
        rw [offset, ByteMemory.writeBytes_inside _ _ _ _ (by omega),
          List.getElem?_eq_getElem (by omega)]
      · rename_i kept
        apply congrArg some
        apply ByteMemory.writeBytes_outside
        by_cases sameBlock : i / blockSz = start / blockSz
        · rw [sameBlock]
          unfold BlockDevice.address blockSz at *
          omega
        · have differ := dataBlockAt_ne formed.nodup (blockIndex_lt fits inByte) before sameBlock
          have apart : (self.dataBlockAt device (i / blockSz)).toNat ≠
              (self.dataBlockAt device (start / blockSz)).toNat :=
            fun same => differ (UInt32.toNat_inj.mp same)
          unfold BlockDevice.address blockSz at *
          omega
    · rw [List.getElem?_eq_none (by simp; omega), Option.map_none, Option.map_none,
        if_neg (by omega)]
  · intro address away
    apply ByteMemory.writeBytes_outside
    have apart := away _ before
    unfold BlockDevice.address blockSz at *
    omega

end Round

section WriteLoop

variable (fits : self.size.toNat ≤ indirect2Bound * blockSz)

include fits

theorem writeLoop_eq (buf : List UInt8) :
    ∀ start writeSize end_ (device : BlockDevice),
      self.Formed device (dataBlocksOf self.size).toNat → start < end_ →
      end_ ≤ self.size.toNat → writeSize + (end_ - start) ≤ buf.length →
      ∃ device', self.writeLoop buf start (start / blockSz) writeSize end_ device =
          .ok (writeSize + (end_ - start), device') ∧
        self.Wrote device device' start ((buf.drop writeSize).take (end_ - start)) := by
  intro start writeSize end_ device formed before inFile room
  induction remaining : end_ - start using Nat.strongRecOn generalizing start writeSize device with
  | ind remaining ih =>
      subst remaining
      obtain ⟨found, inDevice⟩ :=
        getBlockId_of_lt formed fits (show start < self.size.toNat by omega)
      have blockEnd : start < (start / blockSz + 1) * blockSz := by unfold blockSz; omega
      have inBlock : start % blockSz +
          ((buf.drop writeSize).take (min ((start / blockSz + 1) * blockSz) end_ - start)).length ≤
            blockSz := by
        simp only [List.length_take, List.length_drop]
        unfold blockSz at *
        omega
      have round := wrote_round formed fits inBlock (by simp; omega) (by omega)
      rw [writeLoop, found, ok_bind]
      dsimp only
      rw [BlockDevice.getBlockCache_bind _ inDevice]
      split
      · rename_i last
        rw [last] at round ⊢
        exact ⟨_, rfl, round⟩
      · rename_i more
        have nextBlock := Nat.mul_div_cancel (start / blockSz + 1) (show 0 < blockSz by decide)
        obtain ⟨mid, named⟩ : ∃ mid, (start / blockSz + 1) * blockSz = mid := ⟨_, rfl⟩
        rw [named] at more blockEnd round nextBlock
        have next : min mid end_ = mid := by omega
        rw [next] at round
        rw [named, next, ← nextBlock]
        obtain ⟨device'', call, again⟩ := ih _ (by omega) mid (writeSize + (mid - start)) _
          (round.formed formed) (by omega) (by omega) rfl
        refine ⟨device'', by rw [call, show writeSize + (mid - start) + (end_ - mid) =
          writeSize + (end_ - start) by omega], ?_⟩
        have length : ((buf.drop writeSize).take (mid - start)).length = mid - start := by
          simp only [List.length_take, List.length_drop]
          omega
        have both := round.trans (by rw [length, Nat.add_sub_cancel' blockEnd.le]; exact again)
        rwa [← List.drop_drop, ← List.take_add,
          show mid - start + (end_ - mid) = end_ - start by omega] at both

/-- `DiskInode::write_at` of bytes that end within the file writes them as the file model does,
and leaves the index and every byte outside the file's data blocks alone. -/
theorem writeAt_eq_fileWrite {device : BlockDevice}
    (formed : self.Formed device (dataBlocksOf self.size).toNat) {offset : Nat} {buf : List UInt8}
    (nonempty : buf ≠ []) (inFile : offset + buf.length ≤ self.size.toNat) :
    ∃ device', self.writeAt offset buf device = .ok (buf.length, device') ∧
      self.Wrote device device' offset buf := by
  have positive : 0 < buf.length := List.length_pos_iff.mpr nonempty
  obtain ⟨device', call, wrote⟩ := writeLoop_eq fits buf offset 0 (offset + buf.length) device
    formed (by omega) inFile (by omega)
  rw [Nat.add_sub_cancel_left, List.drop_zero, List.take_length] at wrote
  rw [Nat.add_sub_cancel_left, Nat.zero_add] at call
  refine ⟨device', ?_, wrote⟩
  unfold writeAt
  dsimp only
  rw [Nat.min_eq_left inFile, if_pos (by omega), call]

theorem writeAt_nil {device : BlockDevice}
    (formed : self.Formed device (dataBlocksOf self.size).toNat) {offset : Nat}
    (inside : offset < self.size.toNat) : self.writeAt offset [] device = .ok (0, device) := by
  obtain ⟨found, inDevice⟩ := getBlockId_of_lt formed fits inside
  have blockEnd : offset < (offset / blockSz + 1) * blockSz := by unfold blockSz; omega
  unfold writeAt
  dsimp only
  rw [List.length_nil, Nat.add_zero, Nat.min_eq_left inside.le, if_pos (Nat.le_refl _), writeLoop,
    found, ok_bind]
  dsimp only
  rw [BlockDevice.getBlockCache_bind _ inDevice, Nat.min_eq_right blockEnd.le, dif_pos rfl,
    Nat.sub_self, List.take_zero, ByteMemory.writeBytes_nil]

end WriteLoop

section Apart

variable {device' : BlockDevice} {blockId : Nat}
  (changes : BlockDevice.Changes device device' blockId)
  (fits : self.size.toNat ≤ indirect2Bound * blockSz)
  (apart : ∀ block ∈ self.treeBlocks device (dataBlocksOf self.size).toNat,
    block.toNat ≠ blockId)

include changes fits apart

theorem readWord_of_apart {i : Nat} (before : i < (dataBlocksOf self.size).toNat)
    {entry : Nat × Nat} (read : entry ∈ self.entriesRead device i) :
    readWord device' entry.1 0 entry.2 = readWord device entry.1 0 entry.2 := by
  obtain ⟨p, early, block, indexed, named⟩ := entry_mem_indexBlocksAt read
  have differ : entry.1 ≠ blockId := by
    rw [named]
    exact apart block (self.mem_treeBlocks device (by omega) (List.mem_append_left _ indexed))
  have below := entry_index_lt (Nat.lt_of_lt_of_le before (dataBlocks_le fits)) read
  unfold readWord
  rw [changes.readField differ _ _ (by unfold inodeIndirect1Count blockSz at *; omega)]

theorem treeBlocks_of_apart :
    self.treeBlocks device' (dataBlocksOf self.size).toNat =
      self.treeBlocks device (dataBlocksOf self.size).toNat := by
  unfold treeBlocks
  apply List.flatMap_congr
  intro i member
  exact blocksAt_congr fun _ read =>
    readWord_of_apart changes fits apart (List.mem_range.mp member) read

theorem fileBytes_of_apart : self.fileBytes device' = self.fileBytes device := by
  unfold fileBytes
  apply List.map_congr_left
  intro i member
  have before := blockIndex_lt fits (List.mem_range.mp member)
  have differ := apart _
    (self.mem_treeBlocks device before (List.mem_append_right _ (List.mem_singleton_self _)))
  unfold fileByte
  rw [dataBlockAt_of_treeBlocks (treeBlocks_of_apart changes fits apart) before]
  apply changes.2
  unfold BlockDevice.address blockSz at *
  omega

theorem formed_of_apart (formed : self.Formed device (dataBlocksOf self.size).toNat) :
    self.Formed device' (dataBlocksOf self.size).toNat where
  nodup := (treeBlocks_of_apart changes fits apart) ▸ formed.nodup
  inside block member :=
    changes.1 ▸ formed.inside block ((treeBlocks_of_apart changes fits apart) ▸ member)

end Apart

end DiskInode

/-- The `read_at` of an easy-fs inode whose disk inode has a formed index answers as the file of
its bytes does. -/
theorem Inode.readAt_eq_fileRead {inode : Inode} {device : BlockDevice} {diskInode : DiskInode}
    (located : inode.readDiskInode device = .ok diskInode)
    (formed : diskInode.Formed device (DiskInode.dataBlocksOf diskInode.size).toNat)
    (fits : diskInode.size.toNat ≤ indirect2Bound * blockSz) (offset : Nat) (buf : List UInt8) :
    inode.readAt device offset buf = .ok (fileRead (diskInode.fileBytes device) offset buf) := by
  rw [Inode.readAt, located, ok_bind, DiskInode.readAt_eq_fileRead formed fits]

/-- The inode `inode` holds the disk inode `diskInode` on `device`: the disk inode reads there,
with a formed index within the reach of the index, and the inode's own block is no piece of it. -/
structure Inode.Holds (inode : Inode) (device : BlockDevice) (diskInode : DiskInode) : Prop where
  located : inode.readDiskInode device = .ok diskInode
  formed : diskInode.Formed device (DiskInode.dataBlocksOf diskInode.size).toNat
  fits : diskInode.size.toNat ≤ indirect2Bound * blockSz
  own : ∀ block ∈ diskInode.treeBlocks device (DiskInode.dataBlocksOf diskInode.size).toNat,
    block.toNat ≠ inode.blockId
  inBlock : inode.blockOffset + diskInodeSize ≤ blockSz

section Holds

variable {inode : Inode} {device : BlockDevice} {diskInode : DiskInode} {offset : Nat}
  {buf : List UInt8}

theorem Inode.Holds.writeBack {written : BlockDevice} (holds : inode.Holds device diskInode)
    (fs : EasyFileSystem) (before : offset + buf.length < diskInode.size.toNat)
    (call : diskInode.writeAt offset buf device = .ok (buf.length, written))
    (wrote : diskInode.Wrote device written offset buf) :
    inode.writeAt fs device offset buf =
        .ok (buf.length, writeDiskInode written inode.blockId inode.blockOffset diskInode) ∧
      inode.Holds (writeDiskInode written inode.blockId inode.blockOffset diskInode) diskInode ∧
      diskInode.fileBytes (writeDiskInode written inode.blockId inode.blockOffset diskInode) =
        fileWrite (diskInode.fileBytes device) offset buf := by
  obtain ⟨_, cached, read⟩ := bind_eq_ok.mp holds.located
  have inside := (BlockDevice.getBlockCache_eq_ok device).mp cached
  have stored : EasyFs.readDiskInode device inode.blockId inode.blockOffset = diskInode :=
    Except.ok.inj read
  have smaller : UInt32.ofNat (offset + buf.length) < diskInode.size := by
    have := diskInode.size.toNat_lt
    rw [UInt32.lt_iff_toNat_lt, UInt32.toNat_ofNat', Nat.mod_eq_of_lt (by omega)]
    exact before
  have changes : BlockDevice.Changes written
      (writeDiskInode written inode.blockId inode.blockOffset diskInode) inode.blockId :=
    writeDiskInode_changes diskInode holds.inBlock
  have own : ∀ block ∈
      diskInode.treeBlocks written (DiskInode.dataBlocksOf diskInode.size).toNat,
      block.toNat ≠ inode.blockId := by
    rw [wrote.index]
    exact holds.own
  refine ⟨?_, ⟨?_, ?_, holds.fits, ?_, holds.inBlock⟩, ?_⟩
  · rw [Inode.writeAt, modifyDiskInode, BlockDevice.getBlockCache_bind _ inside, stored]
    dsimp only
    rw [Inode.increaseSize, if_pos smaller, ok_bind]
    dsimp only
    rw [call, ok_bind]
    rfl
  · have kept : inode.blockId <
        (writeDiskInode written inode.blockId inode.blockOffset diskInode).blocks := by
      rw [changes.1, wrote.blocks]
      exact inside
    rw [Inode.readDiskInode, BlockDevice.getBlockCache_bind _ kept, readDiskInode_writeDiskInode]
    rfl
  · exact DiskInode.formed_of_apart changes holds.fits own (wrote.formed holds.formed)
  · rw [DiskInode.treeBlocks_of_apart changes holds.fits own]
    exact own
  · rw [DiskInode.fileBytes_of_apart changes holds.fits own, wrote.bytes]

/-- `Inode::write_at` of bytes that end before the end of the file writes them as the file model
does, and the inode still holds its disk inode, of the same size. -/
theorem Inode.Holds.writeAt (holds : inode.Holds device diskInode) (fs : EasyFileSystem)
    (before : offset + buf.length < diskInode.size.toNat) :
    ∃ device', inode.writeAt fs device offset buf = .ok (buf.length, device') ∧
      inode.Holds device' diskInode ∧
      diskInode.fileBytes device' = fileWrite (diskInode.fileBytes device) offset buf := by
  by_cases empty : buf = []
  · subst empty
    have inside : offset < diskInode.size.toNat := by simpa using before
    exact ⟨_, holds.writeBack fs before (DiskInode.writeAt_nil holds.fits holds.formed inside)
      (DiskInode.Wrote.nil inside.le)⟩
  · obtain ⟨written, call, wrote⟩ :=
      DiskInode.writeAt_eq_fileWrite holds.fits holds.formed empty before.le
    exact ⟨_, holds.writeBack fs before call wrote⟩

end Holds

/-- `inode` holds a file of contents `file` and size `size` on the device. -/
def Inode.HoldsFile (inode : Inode) (size : UInt32) (device : BlockDevice) (file : List UInt8) :
    Prop :=
  ∃ diskInode, inode.Holds device diskInode ∧ diskInode.size = size ∧
    diskInode.fileBytes device = file

theorem Inode.HoldsFile.length {inode : Inode} {size : UInt32} {device : BlockDevice}
    {file : List UInt8} (holding : inode.HoldsFile size device file) :
    file.length = size.toNat := by
  obtain ⟨diskInode, -, sized, rfl⟩ := holding
  rw [DiskInode.length_fileBytes, sized]

/-- The calls an `OSInode` makes of an easy-fs inode answer as the file model does, for writes
that end before the end of the file. -/
theorem Inode.ops_follows (inode : Inode) (fs : EasyFileSystem) {size : UInt32}
    (positive : 0 < size.toNat) :
    FollowsFile (inode.ops fs) (inode.HoldsFile size) (size.toNat - 1) where
  read := by
    rintro device file ⟨diskInode, holds, -, rfl⟩ offset buf
    exact Inode.readAt_eq_fileRead holds.located holds.formed holds.fits offset buf
  write := by
    rintro device file ⟨diskInode, holds, sized, rfl⟩ offset data room
    have before : offset + data.length < diskInode.size.toNat := by
      rw [sized]
      omega
    obtain ⟨device', call, holds', bytes⟩ := holds.writeAt fs before
    exact ⟨device', call, diskInode, holds', sized, bytes⟩

/-- A volume of two blocks: block 0 holds, at offset 0, the disk inode of a file of the three
bytes 1, 2, 3, which lie at the start of block 1. -/
def threeByteVolume : BlockDevice :=
  ⟨fun address => if address = 0 then 3 else if address = 4 then 1
    else if blockSz ≤ address ∧ address < blockSz + 3 then UInt8.ofNat (address - blockSz + 1)
    else 0, 2⟩

theorem threeByteVolume_holdsFile : Inode.HoldsFile ⟨0, 0⟩ 3 threeByteVolume [1, 2, 3] := by
  have tree : (EasyFs.readDiskInode threeByteVolume 0 0).treeBlocks threeByteVolume
      (DiskInode.dataBlocksOf (EasyFs.readDiskInode threeByteVolume 0 0).size).toNat = [1] := by
    decide
  refine ⟨EasyFs.readDiskInode threeByteVolume 0 0, ⟨rfl, ⟨?_, ?_⟩, by decide, ?_, by decide⟩,
    by decide, by decide⟩
  · rw [tree]
    exact List.nodup_singleton 1
  all_goals
    intro block member
    rw [tree, List.mem_singleton] at member
    subst member
    decide

/-- An `OSInode` at offset 1 of the file of `threeByteVolume`, with a buffer of two slices:
a write of its two bytes ends at the last byte of the file. The layout `fs` plays no part in
a write inside the file. -/
theorem os_inode_reads_and_writes_inode_file :
    FollowsFile (Inode.ops ⟨0, 0⟩ (EasyFileSystem.layout 1030 1)) (Inode.HoldsFile ⟨0, 0⟩ 3) 2 ∧
      OSInode.Contiguous (Inode.ops ⟨0, 0⟩ (EasyFileSystem.layout 1030 1)) (Inode.HoldsFile ⟨0, 0⟩ 3) 2
        threeByteVolume [1, 2, 3] ⟨true, true, 1⟩ ⟨[[0], [0]]⟩ :=
  ⟨Inode.ops_follows ⟨0, 0⟩ _ (by decide),
    OSInode.os_inode_reads_and_writes_contiguously (Inode.ops_follows ⟨0, 0⟩ _ (by decide))
      threeByteVolume_holdsFile _ _⟩

end EasyFs

end ChOs
