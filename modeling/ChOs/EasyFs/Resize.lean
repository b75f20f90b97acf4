import ChOs.EasyFs.InodeBlocks

set_option autoImplicit false

/- `get_block_id` and `clear_size` over the index read as a list, and what `increase_size`
and `clear_size` do together (`easy-fs/src/layout.rs`, and the assertion of `Inode::clear` in
`easy-fs/src/vfs.rs`). -/

namespace ChOs

namespace EasyFs

/-- Entries `0..count` of index block `blockId`: the blocks it names, in order. -/
def entries (device : BlockDevice) (blockId count : Nat) : List UInt32 :=
  (List.range count).map (readWord device blockId 0)

theorem entries_succ (device : BlockDevice) (blockId count : Nat) :
    entries device blockId (count + 1) =
      entries device blockId count ++ [readWord device blockId 0 count] := by
  rw [entries, entries, List.range_succ, List.map_append, List.map_singleton]

namespace DiskInode

variable (self : DiskInode) (device : BlockDevice)

theorem treeBlocks_prefix {n count : Nat} (ordered : n ≤ count) :
    ∃ rest, self.treeBlocks device count = self.treeBlocks device n ++ rest := by
  obtain ⟨k, rfl⟩ := Nat.exists_eq_add_of_le ordered
  induction k with
  | zero => exact ⟨[], by rw [Nat.add_zero, List.append_nil]⟩
  | succ k ih =>
      obtain ⟨rest, whole⟩ := ih (by omega)
      exact ⟨rest ++ self.blocksAt device (n + k),
        by rw [← Nat.add_assoc, treeBlocks_succ, whole, List.append_assoc]⟩

variable {self device}

theorem treeBlocks_of_append {inode : DiskInode} {device' : BlockDevice} {count count' : Nat}
    {extra : List UInt32} (grown : inode.treeBlocks device' count' = self.treeBlocks device count ++ extra)
    (ordered : count ≤ count') : inode.treeBlocks device' count = self.treeBlocks device count := by
  obtain ⟨rest, whole⟩ := inode.treeBlocks_prefix device' ordered
  rw [whole] at grown
  exact (List.append_inj grown (by rw [length_treeBlocks, length_treeBlocks])).1

theorem treeBlocks_of_treeBlocks {inode : DiskInode} {device' : BlockDevice} {n count : Nat}
    (same : inode.treeBlocks device' count = self.treeBlocks device count) (ordered : n ≤ count) :
    inode.treeBlocks device' n = self.treeBlocks device n := by
  obtain ⟨rest, whole⟩ := self.treeBlocks_prefix device ordered
  rw [whole] at same
  exact treeBlocks_of_append same ordered

theorem dataBlockAt_of_treeBlocks {inode : DiskInode} {device' : BlockDevice} {count i : Nat}
    (same : inode.treeBlocks device' count = self.treeBlocks device count) (before : i < count) :
    inode.dataBlockAt device' i = self.dataBlockAt device i := by
  have next := treeBlocks_of_treeBlocks same (show i + 1 ≤ count by omega)
  rw [treeBlocks_succ, treeBlocks_succ, treeBlocks_of_treeBlocks same (Nat.le_of_lt before)] at next
  have pieces := List.append_cancel_left next
  unfold blocksAt at pieces
  exact List.singleton_inj.mp (List.append_inj_right' pieces rfl)

theorem blocksAt_plain {i : Nat} (notIndirect1 : i ≠ inodeDirectCount) (notIndirect2 : i ≠ indirect1Bound)
    (notSub : ¬(indirect1Bound ≤ i ∧ (i - indirect1Bound) % inodeIndirect1Count = 0)) :
    self.blocksAt device i = [self.dataBlockAt device i] := by
  simp only [blocksAt, indexBlocksAt, if_neg notIndirect1, if_neg notIndirect2, if_neg notSub,
    List.nil_append]

theorem dataBlockAt_indirect1 {i : Nat} (early : inodeDirectCount ≤ i) (before : i < indirect1Bound) :
    self.dataBlockAt device i = readWord device self.indirect1.toNat 0 (i - inodeDirectCount) := by
  rw [dataBlockAt, dif_neg (by omega), if_pos before]

theorem dataBlockAt_indirect2 {i : Nat} (late : indirect1Bound ≤ i) :
    self.dataBlockAt device i =
      readWord device (self.subBlock device ((i - indirect1Bound) / inodeIndirect1Count)).toNat 0
        ((i - indirect1Bound) % inodeIndirect1Count) := by
  rw [dataBlockAt, dif_neg (by unfold indirect1Bound directBound at late; omega), if_neg (by omega)]

variable (self device)

/-- Sub-block `a` and its first `count` entries: the pieces of the data blocks it holds. -/
def subTree (a count : Nat) : List UInt32 :=
  self.subBlock device a :: entries device (self.subBlock device a).toNat count

variable {self device}

theorem treeBlocks_direct {count : Nat} (small : count ≤ inodeDirectCount) :
    self.treeBlocks device count = (List.range count).map (self.dataBlockAt device) := by
  rw [treeBlocks, List.map_eq_flatMap]
  apply List.flatMap_congr
  intro i member
  rw [List.mem_range] at member
  exact blocksAt_plain (by omega) (by unfold indirect1Bound directBound; omega)
    (by unfold indirect1Bound directBound; omega)

theorem treeBlocks_indirect1 {k : Nat} (positive : 0 < k) (within : k ≤ inodeIndirect1Count) :
    self.treeBlocks device (inodeDirectCount + k) =
      self.treeBlocks device inodeDirectCount ++ self.indirect1 :: entries device self.indirect1.toNat k := by
  induction k with
  | zero => omega
  | succ k ih =>
      rw [← Nat.add_assoc, treeBlocks_succ]
      rcases Nat.eq_zero_or_pos k with first | later
      · subst first
        have pieces : self.blocksAt device inodeDirectCount =
            [self.indirect1, self.dataBlockAt device inodeDirectCount] := by
          simp [blocksAt, indexBlocksAt, indirect1Bound_eq, inodeDirectCount]
        rw [Nat.add_zero, pieces, dataBlockAt_indirect1 le_rfl (by decide), Nat.sub_self]
        rfl
      · have before : inodeDirectCount + k < indirect1Bound := by
          rw [indirect1Bound_eq]; rw [inodeIndirect1Count_eq] at within; unfold inodeDirectCount; omega
        rw [ih later (by omega), @blocksAt_plain self device _ (by omega) (by omega) (by omega),
          dataBlockAt_indirect1 (by omega) before, Nat.add_sub_cancel_left, entries_succ]
        simp only [List.append_assoc, List.cons_append]

theorem treeBlocks_indirect2 {k : Nat} (positive : 0 < k) :
    self.treeBlocks device (indirect1Bound + k) =
      self.treeBlocks device indirect1Bound ++ self.indirect2 ::
        ((List.range (k / inodeIndirect1Count)).flatMap (fun a => self.subTree device a inodeIndirect1Count) ++
          if k % inodeIndirect1Count = 0 then []
          else self.subTree device (k / inodeIndirect1Count) (k % inodeIndirect1Count)) := by
  have n128 : inodeIndirect1Count = 128 := rfl
  induction k with
  | zero => omega
  | succ k ih =>
      rw [← Nat.add_assoc, treeBlocks_succ]
      rcases Nat.eq_zero_or_pos k with first | later
      · subst first
        rw [Nat.add_zero, blocksAt_indirect1Bound, dataBlockAt_indirect2 le_rfl]
        simp [subTree, entries, n128]
      · rw [ih later]
        by_cases start : k % inodeIndirect1Count = 0
        · have pieces : self.blocksAt device (indirect1Bound + k) =
              [self.subBlock device (k / inodeIndirect1Count),
                readWord device (self.subBlock device (k / inodeIndirect1Count)).toNat 0 0] := by
            simp only [blocksAt, indexBlocksAt, if_neg (show indirect1Bound + k ≠ inodeDirectCount by
                unfold indirect1Bound directBound; omega),
              if_neg (show indirect1Bound + k ≠ indirect1Bound by omega), Nat.add_sub_cancel_left,
              start, Nat.le_add_right, and_self, if_true, List.nil_append,
              dataBlockAt_indirect2 (Nat.le_add_right _ _), List.singleton_append]
          have quotient : (k + 1) / inodeIndirect1Count = k / inodeIndirect1Count := by
            rw [n128] at start ⊢; omega
          have remainder : (k + 1) % inodeIndirect1Count = 1 := by rw [n128] at start ⊢; omega
          rw [pieces, quotient, remainder, if_pos start, if_neg (by decide)]
          simp [subTree, entries]
        · have pieces := @blocksAt_plain self device _
            (show indirect1Bound + k ≠ inodeDirectCount by unfold indirect1Bound directBound; omega)
            (show indirect1Bound + k ≠ indirect1Bound by omega)
            (by rw [Nat.add_sub_cancel_left]; exact fun both => start both.2)
          rw [pieces, dataBlockAt_indirect2 (Nat.le_add_right _ _), Nat.add_sub_cancel_left, if_neg start]
          by_cases full : k % inodeIndirect1Count + 1 = inodeIndirect1Count
          · have quotient : (k + 1) / inodeIndirect1Count = k / inodeIndirect1Count + 1 := by
              rw [n128] at full ⊢; omega
            have remainder : (k + 1) % inodeIndirect1Count = 0 := by rw [n128] at full ⊢; omega
            rw [quotient, remainder, if_pos rfl, List.range_succ, List.flatMap_append, List.flatMap_singleton,
              List.append_nil, ← congrArg (self.subTree device (k / inodeIndirect1Count)) full]
            simp only [subTree, entries_succ, List.append_assoc, List.cons_append]
          · have quotient : (k + 1) / inodeIndirect1Count = k / inodeIndirect1Count := by
              rw [n128] at full start ⊢; omega
            have remainder : (k + 1) % inodeIndirect1Count = k % inodeIndirect1Count + 1 := by
              rw [n128] at full start ⊢; omega
            rw [quotient, remainder, if_neg (by omega)]
            simp only [subTree, entries_succ, List.append_assoc, List.cons_append]

theorem getBlockId_eq {count : Nat} (formed : self.Formed device count)
    (bounded : count ≤ indirect2Bound) {innerId : UInt32} (before : innerId.toNat < count) :
    self.getBlockId innerId device = .ok (self.dataBlockAt device innerId.toNat) := by
  unfold getBlockId dataBlockAt
  dsimp only
  split_ifs with direct middle
  · rfl
  · have inside : self.indirect1.toNat < device.blocks :=
      formed.inside _ (self.mem_treeBlocks device (by omega) (self.indirect1_mem_blocksAt device))
    rw [BlockDevice.getBlockCache_bind _ inside, indirectEntry_of_lt _ _
      (by simp only [indirect1Bound_eq, inodeIndirect1Count_eq, inodeDirectCount] at middle ⊢; omega)]
  · have late : indirect1Bound ≤ innerId.toNat := by omega
    have sub := sub_lt_of_lt_indirect2Bound (show innerId.toNat < indirect2Bound by omega)
    have start : indirect1Bound + inodeIndirect1Count *
        ((innerId.toNat - indirect1Bound) / inodeIndirect1Count) < count := by
      rw [inodeIndirect1Count_eq]
      omega
    have inside2 : self.indirect2.toNat < device.blocks :=
      formed.inside _ (self.mem_treeBlocks device (by omega) (self.indirect2_mem_blocksAt device))
    have insideSub : (readWord device self.indirect2.toNat 0
        ((innerId.toNat - indirect1Bound) / inodeIndirect1Count)).toNat < device.blocks :=
      formed.inside _ (self.mem_treeBlocks device start (self.subBlock_mem_blocksAt device _))
    rw [BlockDevice.getBlockCache_bind _ inside2, indirectEntry_of_lt _ _ sub, ok_bind,
      BlockDevice.getBlockCache_bind _ insideSub, indirectEntry_of_lt _ _ (Nat.mod_lt _ (by decide))]
    rfl

theorem clearDirect_spec {inode : DiskInode} {c n dataBlocks : Nat} {v : List UInt32}
    (reach : c + n = min dataBlocks inodeDirectCount) :
    ∃ direct, inode.clearDirect c dataBlocks v =
        ({ inode with direct := direct }, v ++ (List.range' c n).map (inode.dataBlockAt device)) ∧
      ∀ i (h : i < inodeDirectCount), direct[i] = if c ≤ i ∧ i < c + n then 0 else inode.direct[i] := by
  induction n generalizing inode c v with
  | zero =>
      refine ⟨inode.direct, ?_, fun i h => by rw [if_neg (by omega)]⟩
      rw [clearDirect, dif_neg (by omega), List.range'_zero, List.map_nil, List.append_nil]
  | succ n ih =>
      have clear : c < min dataBlocks inodeDirectCount := by omega
      have direct : c < inodeDirectCount := by omega
      obtain ⟨cleared, call, zeroed⟩ := @ih { inode with direct := inode.direct.set c 0 direct } (c + 1)
        (v ++ [inode.direct.get ⟨c, direct⟩]) (by omega)
      have later : (List.range' (c + 1) n).map
          (({ inode with direct := inode.direct.set c 0 direct } : DiskInode).dataBlockAt device) =
          (List.range' (c + 1) n).map (inode.dataBlockAt device) := by
        apply List.map_congr_left
        intro i member
        rw [List.mem_range'_1] at member
        have small : i < inodeDirectCount := by omega
        simp only [dataBlockAt, dif_pos small]
        exact Vector.getElem_set_ne direct small (by omega)
      refine ⟨cleared, ?_, fun i h => ?_⟩
      · rw [clearDirect, dif_pos clear, call, later, List.range'_succ, List.map_cons, List.append_assoc,
          List.singleton_append]
        simp only [dataBlockAt, dif_pos direct]
        rfl
      · rw [zeroed i h]
        by_cases here : i = c
        · subst here
          simp only [Vector.getElem_set_self, ite_self, show i ≤ i ∧ i < i + (n + 1) by omega, and_self,
            if_true]
        · rw [Vector.getElem_set_ne direct h (Ne.symm here)]
          by_cases inside : c + 1 ≤ i ∧ i < c + 1 + n
          · rw [if_pos inside, if_pos (by omega)]
          · rw [if_neg inside, if_neg (by omega)]

theorem collectEntries_spec {blockId c n : Nat} {v : List UInt32} (within : c + n ≤ inodeIndirect1Count) :
    collectEntries device blockId c (c + n) v =
      .ok (v ++ (List.range' c n).map (readWord device blockId 0)) := by
  induction n generalizing c v with
  | zero =>
      rw [collectEntries, if_neg (by omega), List.range'_zero, List.map_nil, List.append_nil]
  | succ n ih =>
      rw [collectEntries, if_pos (by omega), indirectEntry_of_lt _ _ (by omega), ok_bind,
        show c + (n + 1) = c + 1 + n by omega, ih (by omega), List.range'_succ, List.map_cons,
        List.append_assoc, List.singleton_append]

theorem collectEntries_zero {blockId count : Nat} {v : List UInt32} (within : count ≤ inodeIndirect1Count) :
    collectEntries device blockId 0 count v = .ok (v ++ entries device blockId count) := by
  have loop := @collectEntries_spec device blockId 0 count v (by omega)
  rwa [Nat.zero_add, ← List.range_eq_range'] at loop

theorem collectSubBlocks_spec {indirect2 c n : Nat} {v : List UInt32}
    (within : c + n ≤ inodeIndirect1Count)
    (inside : ∀ a, c ≤ a → a < c + n → (readWord device indirect2 0 a).toNat < device.blocks) :
    collectSubBlocks device indirect2 c (c + n) v =
      .ok (v ++ (List.range' c n).flatMap fun a =>
        readWord device indirect2 0 a :: entries device (readWord device indirect2 0 a).toNat
          inodeIndirect1Count) := by
  induction n generalizing c v with
  | zero =>
      rw [collectSubBlocks, if_neg (by omega), List.range'_zero, List.flatMap_nil, List.append_nil]
  | succ n ih =>
      rw [collectSubBlocks, if_pos (by omega), indirectEntry_of_lt _ _ (by omega), ok_bind,
        BlockDevice.getBlockCache_bind _ (inside c le_rfl (by omega)), collectEntries_zero le_rfl, ok_bind,
        show c + (n + 1) = c + 1 + n by omega,
        ih (by omega) fun a early before => inside a (by omega) (by omega), List.range'_succ,
        List.flatMap_cons, List.append_assoc, List.append_assoc, List.singleton_append, List.cons_append]

/-- The roots a file of `count` data blocks does not use are 0: `initialize` clears every
root, and `clear_size` every root it frees. -/
structure RootsClear (inode : DiskInode) (count : Nat) : Prop where
  direct : ∀ i (direct : i < inodeDirectCount), count ≤ i → inode.direct[i] = 0
  indirect1 : count ≤ inodeDirectCount → inode.indirect1 = 0
  indirect2 : count ≤ indirect1Bound → inode.indirect2 = 0

theorem RootsClear.grow {inode inode' : DiskInode} {count count' : Nat}
    (clear : inode.RootsClear count) (same : SameUnused inode inode' count') (grows : count ≤ count') :
    inode'.RootsClear count' :=
  ⟨fun i h late => (same.direct i h late).trans (clear.direct i h (by omega)),
    fun small => (same.indirect1 small).trans (clear.indirect1 (by omega)),
    fun small => (same.indirect2 small).trans (clear.indirect2 (by omega))⟩

theorem clearSize_eq (formed : self.Formed device (dataBlocksOf self.size).toNat)
    (clear : self.RootsClear (dataBlocksOf self.size).toNat)
    (bounded : (dataBlocksOf self.size).toNat ≤ indirect2Bound) :
    self.clearSize device = .ok (self.treeBlocks device (dataBlocksOf self.size).toNat,
      { self with size := 0, direct := .replicate inodeDirectCount 0, indirect1 := 0, indirect2 := 0 }) := by
  have n128 : inodeIndirect1Count = 128 := rfl
  have b156 : indirect1Bound = 156 := rfl
  have b16540 : indirect2Bound = 16540 := rfl
  have d28 : inodeDirectCount = 28 := rfl
  obtain ⟨d, old⟩ : ∃ d, (dataBlocksOf self.size).toNat = d := ⟨_, rfl⟩
  rw [old] at formed clear bounded ⊢
  obtain ⟨direct, cleared, zeroed⟩ :=
    @clearDirect_spec device { self with size := 0 } 0 (min d inodeDirectCount) d [] (by omega)
  have allClear : direct = Vector.replicate inodeDirectCount 0 := by
    apply Vector.ext
    intro i h
    rw [zeroed i h, Vector.getElem_replicate]
    split_ifs with used
    · rfl
    · exact clear.direct i h (by omega)
  have directBlocks : [] ++ (List.range' 0 (min d inodeDirectCount)).map
      (({ self with size := 0 } : DiskInode).dataBlockAt device) =
      self.treeBlocks device (min d inodeDirectCount) := by
    rw [treeBlocks_direct (Nat.min_le_right _ _), List.range_eq_range', List.nil_append]
    rfl
  simp only [clearSize, dataBlocks, old, cleared, directBlocks, allClear]
  by_cases big : d > inodeDirectCount
  · have inside1 : self.indirect1.toNat < device.blocks :=
      formed.inside _ (self.mem_treeBlocks device big (self.indirect1_mem_blocksAt device))
    rw [if_pos big, BlockDevice.getBlockCache_bind _ inside1, Nat.min_eq_right big.le,
      collectEntries_zero (Nat.min_le_right _ _), ok_bind]
    by_cases large : d - inodeDirectCount > inodeIndirect1Count
    · have inside2 : self.indirect2.toNat < device.blocks :=
        formed.inside _ (self.mem_treeBlocks device (by omega) (self.indirect2_mem_blocksAt device))
      have fullSubs : (d - inodeDirectCount - inodeIndirect1Count) / inodeIndirect1Count ≤
          inodeIndirect1Count := by rw [n128]; omega
      have subs := @collectSubBlocks_spec device self.indirect2.toNat 0
        ((d - inodeDirectCount - inodeIndirect1Count) / inodeIndirect1Count)
        (self.treeBlocks device inodeDirectCount ++ [self.indirect1] ++
          entries device self.indirect1.toNat inodeIndirect1Count ++ [self.indirect2])
        (by omega) fun a _ before => formed.inside _ (self.mem_treeBlocks device
          (by rw [n128] at before ⊢; omega) (self.subBlock_mem_blocksAt device a))
      rw [Nat.zero_add, ← List.range_eq_range'] at subs
      have first : self.treeBlocks device indirect1Bound = self.treeBlocks device inodeDirectCount ++
          self.indirect1 :: entries device self.indirect1.toNat inodeIndirect1Count :=
        treeBlocks_indirect1 (by decide) le_rfl
      have tree : self.treeBlocks device d =
          self.treeBlocks device (indirect1Bound + (d - inodeDirectCount - inodeIndirect1Count)) := by
        rw [show indirect1Bound + (d - inodeDirectCount - inodeIndirect1Count) = d by omega]
      rw [tree, treeBlocks_indirect2 (by omega), first, if_pos large,
        if_pos (by unfold inodeIndirect2Count; rw [n128]; omega), Nat.min_eq_right (Nat.le_of_lt large),
        BlockDevice.getBlockCache_bind _ inside2, Nat.min_eq_left fullSubs, subs, ok_bind]
      by_cases last : (d - inodeDirectCount - inodeIndirect1Count) % inodeIndirect1Count = 0
      · rw [if_neg (by omega), if_pos last]
        simp only [subTree, subBlock, List.append_assoc, List.cons_append, List.nil_append,
          List.append_nil]
        rfl
      · have named : (d - inodeDirectCount - inodeIndirect1Count) / inodeIndirect1Count <
            inodeIndirect1Count := by rw [n128] at last ⊢; omega
        have insideLast : (readWord device self.indirect2.toNat 0
            ((d - inodeDirectCount - inodeIndirect1Count) / inodeIndirect1Count)).toNat < device.blocks :=
          formed.inside _ (self.mem_treeBlocks device (by rw [n128] at last ⊢; omega)
            (self.subBlock_mem_blocksAt device _))
        rw [if_pos (by omega), if_neg last, indirectEntry_of_lt _ _ named, ok_bind,
          BlockDevice.getBlockCache_bind _ insideLast,
          collectEntries_zero (Nat.le_of_lt (Nat.mod_lt _ (by decide))), ok_bind]
        simp only [subTree, subBlock, List.append_assoc, List.cons_append, List.nil_append]
        rfl
    · have tree : self.treeBlocks device d =
          self.treeBlocks device (inodeDirectCount + (d - inodeDirectCount)) := by
        rw [show inodeDirectCount + (d - inodeDirectCount) = d by omega]
      rw [if_neg large, tree, treeBlocks_indirect1 (by omega) (by omega),
        Nat.min_eq_left (by omega), clear.indirect2 (by omega), List.append_assoc, List.singleton_append]
      rfl
  · rw [if_neg big, Nat.min_eq_left (by omega), clear.indirect1 (by omega), clear.indirect2 (by omega)]
    rfl

theorem dataBlocksOf_toNat {size : UInt32} (fits : size.toNat + blockSz < 2 ^ 32) :
    (dataBlocksOf size).toNat = (size.toNat + blockSz - 1) / blockSz := by
  unfold dataBlocksOf
  unfold blockSz at *
  have sum : (size + UInt32.ofNat 512).toNat = size.toNat + 512 := by
    rw [UInt32.toNat_add, UInt32.toNat_ofNat', Nat.mod_eq_of_lt (by decide : 512 < 2 ^ 32),
      Nat.mod_eq_of_lt fits]
  rw [UInt32.toNat_div, UInt32.toNat_sub_of_le _ _ (by rw [UInt32.le_iff_toNat_le, sum]; simp), sum]
  simp

/-- A formed index whose unused roots are clear, grown from `size` to `new_size` with fresh
blocks of the device, as many as `blocks_num_needed` asks: `increase_size` takes every one of
them, keeps every data block the file had, and lists the old blocks, then the new ones.
`clear_size` then returns that list, `total_blocks(new_size)` distinct blocks, and leaves the
size and every root 0. -/
theorem increase_size_extends_index_by_fresh_blocks {newSize : UInt32} {newBlocks : List UInt32}
    (formed : self.Formed device (dataBlocksOf self.size).toNat)
    (clear : self.RootsClear (dataBlocksOf self.size).toNat)
    (grows : self.size ≤ newSize) (fits : newSize.toNat ≤ indirect2Bound * blockSz)
    (needed : newBlocks.length = (totalBlocks newSize - totalBlocks self.size).toNat)
    (fresh : Fresh (self.treeBlocks device (dataBlocksOf self.size).toNat) device.blocks newBlocks) :
    ∃ self' device', self.increaseSize newSize newBlocks device = .ok (self', device') ∧
      (∀ innerId : UInt32, innerId.toNat < (dataBlocksOf self.size).toNat →
        self'.getBlockId innerId device' = self.getBlockId innerId device) ∧
      (∀ innerId : UInt32, innerId.toNat < (dataBlocksOf newSize).toNat →
        self'.getBlockId innerId device' = .ok (self'.dataBlockAt device' innerId.toNat)) ∧
      self'.treeBlocks device' (dataBlocksOf newSize).toNat =
        self.treeBlocks device (dataBlocksOf self.size).toNat ++ newBlocks ∧
      (self'.treeBlocks device' (dataBlocksOf newSize).toNat).Nodup ∧
      (self'.treeBlocks device' (dataBlocksOf newSize).toNat).length = (totalBlocks newSize).toNat ∧
      self'.clearSize device' = .ok (self'.treeBlocks device' (dataBlocksOf newSize).toNat,
        { self' with size := 0, direct := .replicate inodeDirectCount 0, indirect1 := 0, indirect2 := 0 }) := by
  have b16540 : indirect2Bound = 16540 := rfl
  have ordered := UInt32.le_iff_toNat_le.mp grows
  have old := @dataBlocksOf_toNat self.size (by unfold blockSz at *; omega)
  have new := @dataBlocksOf_toNat newSize (by unfold blockSz at *; omega)
  have larger : (dataBlocksOf self.size).toNat ≤ (dataBlocksOf newSize).toNat := by
    rw [old, new]
    exact Nat.div_le_div_right (by omega)
  have bounded : (dataBlocksOf newSize).toNat ≤ indirect2Bound := by
    rw [new]; unfold blockSz at *; omega
  have oldTotal := totalBlocks_toNat self.size
    (Nat.lt_of_le_of_lt (blockCount_mono (larger.trans bounded)) (by decide))
  have newTotal := totalBlocks_toNat newSize
    (Nat.lt_of_le_of_lt (blockCount_mono bounded) (by decide))
  have count : newBlocks.length =
      blockCount (dataBlocksOf newSize).toNat - blockCount (dataBlocksOf self.size).toNat := by
    have totals : totalBlocks self.size ≤ totalBlocks newSize := by
      rw [UInt32.le_iff_toNat_le, oldTotal, newTotal]
      exact blockCount_mono larger
    rw [needed, UInt32.toNat_sub_of_le _ _ totals, oldTotal, newTotal]
  obtain ⟨self', device', call, grew⟩ := increaseSize_spec formed fresh larger bounded count
  have formed' : self'.Formed device' (dataBlocksOf newSize).toNat :=
    (formed.extend (show Fresh _ _ (newBlocks ++ []) by rwa [List.append_nil]) grew.blocks
      grew.sameBlocks).1
  refine ⟨self', device', call, fun innerId before => ?_, fun innerId before => ?_, grew.blocks,
    formed'.nodup, ?_, ?_⟩
  · rw [getBlockId_eq formed' bounded (Nat.lt_of_lt_of_le before larger),
      getBlockId_eq formed (larger.trans bounded) before,
      dataBlockAt_of_treeBlocks (treeBlocks_of_append grew.blocks larger) before]
  · exact getBlockId_eq formed' bounded before
  · rw [length_treeBlocks, newTotal]
  · have cleared := @clearSize_eq self' device' (by rw [grew.size]; exact formed')
      (by rw [grew.size]; exact clear.grow grew.unused larger) (by rw [grew.size]; exact bounded)
    rwa [grew.size] at cleared

theorem inside_of_all {list : List UInt32} {blocks : Nat}
    (checked : list.all (fun block => decide (block.toNat < blocks)) = true) :
    ∀ block ∈ list, block.toNat < blocks := fun block member =>
  of_decide_eq_true (List.all_eq_true.mp checked block member)

theorem apart_of_all {list used : List UInt32}
    (checked : list.all (fun block => !used.contains block) = true) :
    ∀ block ∈ list, block ∉ used := fun block member => by
  simpa using List.all_eq_true.mp checked block member

/-- A file of 156 data blocks, its index full up to `INDIRECT1_BOUND`: the direct entries
name blocks 2 to 29, and `indirect1`, block 1, names blocks 300 to 427. -/
def fullIndirect1 : DiskInode :=
  ⟨156 * 512, Vector.ofFn fun i => UInt32.ofNat (i.val + 2), 1, 0, .file⟩

/-- An image of 1000 blocks whose block 1 holds the entries 300 to 427. -/
def fullIndirect1Device : BlockDevice where
  bytes address :=
    if blockSz ≤ address ∧ address < 2 * blockSz then
      if (address - blockSz) % 4 = 0 then UInt8.ofNat (300 + (address - blockSz) / 4)
      else if (address - blockSz) % 4 = 1 then UInt8.ofNat ((300 + (address - blockSz) / 4) / 256)
      else 0
    else 0
  blocks := 1000

theorem fullIndirect1_count : (dataBlocksOf fullIndirect1.size).toNat = 156 := by decide

theorem fullIndirect1_formed :
    fullIndirect1.Formed fullIndirect1Device (dataBlocksOf fullIndirect1.size).toNat :=
  ⟨by decide +kernel, inside_of_all (by decide +kernel)⟩

theorem fullIndirect1_clear :
    fullIndirect1.RootsClear (dataBlocksOf fullIndirect1.size).toNat := by
  have count := fullIndirect1_count
  exact ⟨fun _ direct late => absurd late (by unfold inodeDirectCount at direct; omega),
    fun small => absurd small (by rw [count]; decide), fun _ => rfl⟩

/-- The file of 156 data blocks grown by one block into `indirect2`, with three fresh
blocks: the new data block, `indirect2` and its first sub-block. -/
theorem full_indirect1_grows_into_indirect2 :
    fullIndirect1.Formed fullIndirect1Device (dataBlocksOf fullIndirect1.size).toNat ∧
      fullIndirect1.RootsClear (dataBlocksOf fullIndirect1.size).toNat ∧
      fullIndirect1.size ≤ 157 * 512 ∧ (157 * 512 : UInt32).toNat ≤ indirect2Bound * blockSz ∧
      [500, 501, 502].length = (totalBlocks (157 * 512) - totalBlocks fullIndirect1.size).toNat ∧
      Fresh (fullIndirect1.treeBlocks fullIndirect1Device (dataBlocksOf fullIndirect1.size).toNat)
        fullIndirect1Device.blocks [500, 501, 502] ∧
      ∃ self' device', fullIndirect1.increaseSize (157 * 512) [500, 501, 502] fullIndirect1Device =
          .ok (self', device') ∧
        (∀ innerId : UInt32, innerId.toNat < (dataBlocksOf fullIndirect1.size).toNat →
          self'.getBlockId innerId device' = fullIndirect1.getBlockId innerId fullIndirect1Device) ∧
        (∀ innerId : UInt32, innerId.toNat < (dataBlocksOf (157 * 512)).toNat →
          self'.getBlockId innerId device' = .ok (self'.dataBlockAt device' innerId.toNat)) ∧
        self'.treeBlocks device' (dataBlocksOf (157 * 512)).toNat =
          fullIndirect1.treeBlocks fullIndirect1Device (dataBlocksOf fullIndirect1.size).toNat ++
            [500, 501, 502] ∧
        (self'.treeBlocks device' (dataBlocksOf (157 * 512)).toNat).Nodup ∧
        (self'.treeBlocks device' (dataBlocksOf (157 * 512)).toNat).length =
          (totalBlocks (157 * 512)).toNat ∧
        self'.clearSize device' = .ok (self'.treeBlocks device' (dataBlocksOf (157 * 512)).toNat,
          { self' with
            size := 0, direct := .replicate inodeDirectCount 0, indirect1 := 0, indirect2 := 0 }) := by
  have fresh : Fresh (fullIndirect1.treeBlocks fullIndirect1Device
      (dataBlocksOf fullIndirect1.size).toNat) fullIndirect1Device.blocks [500, 501, 502] :=
    ⟨by decide, apart_of_all (by decide +kernel), inside_of_all (by decide)⟩
  exact ⟨fullIndirect1_formed, fullIndirect1_clear, by decide, by decide, by decide, fresh,
    increase_size_extends_index_by_fresh_blocks fullIndirect1_formed fullIndirect1_clear
      (by decide) (by decide) (by decide) fresh⟩

/-- `increase_size` trusts that the blocks it is handed are unused. Handed block 1, which is
already `indirect1`, as the new `indirect2` of a file growing by one block, it writes the first
sub-block into entry 0 of block 1: data block 28, block 300 before the call, is block 500
after it. -/
theorem increase_size_with_used_block_moves_data_block :
    fullIndirect1.Formed fullIndirect1Device (dataBlocksOf fullIndirect1.size).toNat ∧
      fullIndirect1.RootsClear (dataBlocksOf fullIndirect1.size).toNat ∧
      fullIndirect1.size ≤ 157 * 512 ∧ (157 * 512 : UInt32).toNat ≤ indirect2Bound * blockSz ∧
      [1, 500, 501].length = (totalBlocks (157 * 512) - totalBlocks fullIndirect1.size).toNat ∧
      fullIndirect1.getBlockId 28 fullIndirect1Device = .ok 300 ∧
      ∃ self' device', fullIndirect1.increaseSize (157 * 512) [1, 500, 501] fullIndirect1Device =
          .ok (self', device') ∧ self'.getBlockId 28 device' = .ok 500 := by
  have check : (fullIndirect1.increaseSize (157 * 512) [1, 500, 501] fullIndirect1Device).toOption.any
      (fun (self', device') => (self'.getBlockId 28 device').toOption.any (· == 500)) = true := by
    decide +kernel
  obtain ⟨⟨self', device'⟩, grown, check⟩ := ok_of_toOption_any check
  obtain ⟨block, found, moved⟩ := ok_of_toOption_any check
  refine ⟨fullIndirect1_formed, fullIndirect1_clear, by decide, by decide, by decide,
    by decide +kernel, self', device', grown, ?_⟩
  rw [found, beq_iff_eq.mp moved]

end DiskInode

end EasyFs

end ChOs
