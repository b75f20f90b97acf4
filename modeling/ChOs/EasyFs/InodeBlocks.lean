import ChOs.EasyFs.DiskInode
import Mathlib.Data.List.Nodup

set_option autoImplicit false

/- The blocks of a disk inode's index (`easy-fs/src/layout.rs`). -/

namespace ChOs

namespace EasyFs

/-- `INDIRECT2_BOUND`: the most data blocks a file can have. -/
def indirect2Bound : Nat := indirect1Bound + inodeIndirect2Count

theorem inodeIndirect1Count_eq : inodeIndirect1Count = 128 := rfl

theorem indirect1Bound_eq : indirect1Bound = 156 := rfl

theorem indirect2Bound_eq : indirect2Bound = 16540 := rfl

section Entries

variable (device : BlockDevice)

theorem indirectEntry_of_lt {index : Nat} (blockId : Nat) (below : index < inodeIndirect1Count) :
    indirectEntry device blockId index = .ok (readWord device blockId 0 index) :=
  if_pos below

theorem setIndirectEntry_of_lt {index : Nat} (blockId : Nat) (value : UInt32)
    (below : index < inodeIndirect1Count) :
    setIndirectEntry device blockId index value =
      .ok (device.writeField blockId (4 * index) 4 value.toNat) :=
  if_pos below

theorem readWord_writeField_same (blockId index : Nat) (value : UInt32) :
    readWord (device.writeField blockId (4 * index) 4 value.toNat) blockId 0 index = value := by
  have fits : value.toNat < 256 ^ 4 := value.toNat_lt
  rw [readWord, Nat.zero_add, BlockDevice.readField_writeField, Nat.mod_eq_of_lt fits,
    UInt32.ofNat_toNat]

theorem readWord_writeField_other {blockId index other otherIndex : Nat} (value : Nat)
    (below : index < inodeIndirect1Count) (otherBelow : otherIndex < inodeIndirect1Count)
    (differ : (blockId, index) ≠ (other, otherIndex)) :
    readWord (device.writeField blockId (4 * index) 4 value) other 0 otherIndex =
      readWord device other 0 otherIndex := by
  unfold readWord
  rw [Nat.zero_add, BlockDevice.readField_writeField_apart]
  rw [ne_eq, Prod.mk.injEq] at differ
  unfold BlockDevice.Apart BlockDevice.address
  simp only [inodeIndirect1Count, blockSz] at below otherBelow ⊢
  omega

end Entries

namespace DiskInode

variable (self : DiskInode) (device : BlockDevice)

/-- Sub-block `a` of `indirect2`: the block that entry `a` of `indirect2` names. -/
def subBlock (a : Nat) : UInt32 := readWord device self.indirect2.toNat 0 a

/-- The index blocks that data block `i` is the first to need: `indirect1` for the first
block past the direct ones, `indirect2` for the first past `indirect1`, and a sub-block
for every 128th block from there. -/
def indexBlocksAt (i : Nat) : List UInt32 :=
  (if i = inodeDirectCount then [self.indirect1] else []) ++
    (if i = indirect1Bound then [self.indirect2] else []) ++
    (if indirect1Bound ≤ i ∧ (i - indirect1Bound) % inodeIndirect1Count = 0 then
      [self.subBlock device ((i - indirect1Bound) / inodeIndirect1Count)] else [])

/-- The block that holds data block `i`: what `get_block_id` reads, without its checks. -/
def dataBlockAt (i : Nat) : UInt32 :=
  if direct : i < inodeDirectCount then self.direct[i]
  else if i < indirect1Bound then readWord device self.indirect1.toNat 0 (i - inodeDirectCount)
  else
    let last := i - indirect1Bound
    readWord device (self.subBlock device (last / inodeIndirect1Count)).toNat 0
      (last % inodeIndirect1Count)

def blocksAt (i : Nat) : List UInt32 := self.indexBlocksAt device i ++ [self.dataBlockAt device i]

/-- The index of the first `count` data blocks, in the order `increase_size` takes the
blocks and `clear_size` returns them. -/
def treeBlocks (count : Nat) : List UInt32 := (List.range count).flatMap (self.blocksAt device)

/-- `total_blocks` for `count` data blocks, in `usize`. -/
def blockCount (count : Nat) : Nat :=
  count + (if count > inodeDirectCount then 1 else 0) +
    (if count > indirect1Bound then
      1 + (count - indirect1Bound + inodeIndirect1Count - 1) / inodeIndirect1Count
    else 0)

theorem treeBlocks_zero : self.treeBlocks device 0 = [] := rfl

theorem treeBlocks_succ (count : Nat) :
    self.treeBlocks device (count + 1) = self.treeBlocks device count ++ self.blocksAt device count := by
  simp only [treeBlocks, List.range_succ, List.flatMap_append, List.flatMap_cons, List.flatMap_nil,
    List.append_nil]

theorem length_blocksAt (i : Nat) :
    (self.blocksAt device i).length =
      (if i = inodeDirectCount then 1 else 0) + (if i = indirect1Bound then 1 else 0) +
        (if indirect1Bound ≤ i ∧ (i - indirect1Bound) % inodeIndirect1Count = 0 then 1 else 0) +
          1 := by
  unfold blocksAt indexBlocksAt
  split_ifs <;> rfl

theorem length_treeBlocks (count : Nat) : (self.treeBlocks device count).length = blockCount count := by
  induction count with
  | zero => rfl
  | succ count ih =>
      rw [treeBlocks_succ, List.length_append, ih, length_blocksAt]
      unfold blockCount
      split_ifs <;> simp only [inodeDirectCount, indirect1Bound_eq, inodeIndirect1Count_eq] at * <;>
        omega

theorem totalBlocks_toNat (size : UInt32) (fits : blockCount (dataBlocksOf size).toNat < 2 ^ 32) :
    (totalBlocks size).toNat = blockCount (dataBlocksOf size).toNat := by
  unfold totalBlocks
  unfold blockCount at fits ⊢
  rw [UInt32.toNat_ofNat', Nat.mod_eq_of_lt] <;> split_ifs at fits ⊢ <;> omega

theorem blockCount_mono {count count' : Nat} (ordered : count ≤ count') :
    blockCount count ≤ blockCount count' := by
  simp only [blockCount, gt_iff_lt, inodeIndirect1Count_eq, indirect1Bound_eq, inodeDirectCount]
  split_ifs <;> omega

theorem blockCount_startSub (a : Nat) :
    blockCount (indirect1Bound + inodeIndirect1Count * a + 1) =
      blockCount (indirect1Bound + inodeIndirect1Count * a) + (if a = 0 then 1 else 0) + 2 := by
  simp only [blockCount, gt_iff_lt, inodeIndirect1Count_eq, indirect1Bound_eq, inodeDirectCount]
  split_ifs <;> omega

theorem blockCount_fillSub {a b : Nat} (filling : 0 < b) (below : b < inodeIndirect1Count) :
    blockCount (indirect1Bound + inodeIndirect1Count * a + b + 1) =
      blockCount (indirect1Bound + inodeIndirect1Count * a + b) + 1 := by
  rw [inodeIndirect1Count_eq] at below
  simp only [blockCount, gt_iff_lt, inodeIndirect1Count_eq, indirect1Bound_eq, inodeDirectCount]
  split_ifs <;> omega

theorem blockCount_of_le {count : Nat} (direct : count ≤ inodeDirectCount) : blockCount count = count := by
  simp only [blockCount, gt_iff_lt, inodeIndirect1Count_eq, indirect1Bound_eq, inodeDirectCount] at direct ⊢
  split_ifs <;> omega

theorem blockCount_fillDirect (c : Nat) :
    blockCount (max c inodeDirectCount) = blockCount c + (inodeDirectCount - c) := by
  simp only [blockCount, gt_iff_lt, inodeIndirect1Count_eq, indirect1Bound_eq, inodeDirectCount]
  split_ifs <;> omega

theorem blockCount_fillIndirect1 {c m : Nat} (within : m ≤ inodeIndirect1Count) :
    blockCount (inodeDirectCount + max c m) =
      blockCount (inodeDirectCount + c) + ((if c = 0 ∧ c < m then 1 else 0) + (m - c)) := by
  rw [inodeIndirect1Count_eq] at within
  simp only [blockCount, gt_iff_lt, inodeIndirect1Count_eq, indirect1Bound_eq, inodeDirectCount]
  split_ifs <;> omega

/-- The entries of index blocks that data block `i` reads: none for a direct block, its
entry of `indirect1`, or the entry of `indirect2` that names its sub-block and its entry
there. -/
def entriesRead (i : Nat) : List (Nat × Nat) :=
  if i < inodeDirectCount then []
  else if i < indirect1Bound then [(self.indirect1.toNat, i - inodeDirectCount)]
  else
    let last := i - indirect1Bound
    [(self.indirect2.toNat, last / inodeIndirect1Count),
      ((self.subBlock device (last / inodeIndirect1Count)).toNat, last % inodeIndirect1Count)]

theorem mem_treeBlocks {count i : Nat} {block : UInt32} (before : i < count)
    (member : block ∈ self.blocksAt device i) : block ∈ self.treeBlocks device count :=
  List.mem_flatMap.mpr ⟨i, List.mem_range.mpr before, member⟩

theorem indirect1_mem_blocksAt : self.indirect1 ∈ self.blocksAt device inodeDirectCount := by
  simp [blocksAt, indexBlocksAt]

theorem indirect2_mem_blocksAt : self.indirect2 ∈ self.blocksAt device indirect1Bound := by
  simp [blocksAt, indexBlocksAt]

theorem subBlock_mem_blocksAt (a : Nat) :
    self.subBlock device a ∈ self.blocksAt device (indirect1Bound + inodeIndirect1Count * a) := by
  simp [blocksAt, indexBlocksAt, inodeIndirect1Count_eq]

theorem blocksAt_indirect1Bound :
    self.blocksAt device indirect1Bound =
      [self.indirect2, self.subBlock device 0, self.dataBlockAt device indirect1Bound] := by
  simp [blocksAt, indexBlocksAt, indirect1Bound_eq, inodeDirectCount]

theorem ne_of_nodup {count p q : Nat} {x y : UInt32} (nodup : (self.treeBlocks device count).Nodup)
    (hp : p < count) (hq : q < count) (differ : p ≠ q) (hx : x ∈ self.blocksAt device p)
    (hy : y ∈ self.blocksAt device q) : x ≠ y := by
  induction count with
  | zero => omega
  | succ count ih =>
      rw [treeBlocks_succ, List.nodup_append] at nodup
      obtain ⟨first, _, apart⟩ := nodup
      by_cases lastP : p = count
      · subst lastP
        exact fun same => apart y (self.mem_treeBlocks device (by omega) hy) x hx same.symm
      · by_cases lastQ : q = count
        · subst lastQ
          exact apart x (self.mem_treeBlocks device (by omega) hx) y hy
        · exact ih first (by omega) (by omega)

theorem nodup_blocksAt {count i : Nat} (nodup : (self.treeBlocks device count).Nodup)
    (before : i < count) : (self.blocksAt device i).Nodup :=
  (List.nodup_flatMap.mp nodup).1 i (List.mem_range.mpr before)

theorem unread_of_not_mem {count : Nat} {block : UInt32}
    (fresh : block ∉ self.treeBlocks device count) (index : Nat) :
    ∀ i < count, (block.toNat, index) ∉ self.entriesRead device i := by
  intro i before member
  unfold entriesRead at member
  split_ifs at member with direct middle
  · cases member
  · rw [List.mem_singleton, Prod.mk.injEq, UInt32.toNat_inj] at member
    exact fresh (member.1 ▸ self.mem_treeBlocks device (by omega) (self.indirect1_mem_blocksAt device))
  · simp only [List.mem_cons, List.mem_nil_iff, or_false, Prod.mk.injEq, UInt32.toNat_inj] at member
    rcases member with ⟨named, _⟩ | ⟨named, _⟩
    · exact fresh (named ▸ self.mem_treeBlocks device (by omega) (self.indirect2_mem_blocksAt device))
    · have start : indirect1Bound + inodeIndirect1Count * ((i - indirect1Bound) / inodeIndirect1Count)
          < count := by
        rw [inodeIndirect1Count_eq]
        omega
      exact fresh (named ▸ self.mem_treeBlocks device start (self.subBlock_mem_blocksAt device _))

section Frame

variable {self device} {blockId index : Nat} (value : Nat)

theorem subBlock_writeField {a : Nat} (below : index < inodeIndirect1Count)
    (small : a < inodeIndirect1Count) (differ : (blockId, index) ≠ (self.indirect2.toNat, a)) :
    self.subBlock (device.writeField blockId (4 * index) 4 value) a = self.subBlock device a :=
  readWord_writeField_other device value below small differ

theorem mem_entriesRead_indirect2 {i : Nat} (late : indirect1Bound ≤ i) :
    (self.indirect2.toNat, (i - indirect1Bound) / inodeIndirect1Count) ∈ self.entriesRead device i := by
  unfold entriesRead
  rw [if_neg (by unfold indirect1Bound directBound at late; omega), if_neg (by omega)]
  exact List.mem_cons_self

theorem sub_lt_of_lt_indirect2Bound {i : Nat} (small : i < indirect2Bound) :
    (i - indirect1Bound) / inodeIndirect1Count < inodeIndirect1Count := by
  rw [indirect2Bound_eq] at small
  rw [indirect1Bound_eq, inodeIndirect1Count_eq]
  omega

theorem blocksAt_writeField {i : Nat} (below : index < inodeIndirect1Count)
    (small : i < indirect2Bound) (unread : (blockId, index) ∉ self.entriesRead device i) :
    self.blocksAt (device.writeField blockId (4 * index) 4 value) i = self.blocksAt device i := by
  have sub : indirect1Bound ≤ i →
      self.subBlock (device.writeField blockId (4 * index) 4 value)
          ((i - indirect1Bound) / inodeIndirect1Count) =
        self.subBlock device ((i - indirect1Bound) / inodeIndirect1Count) := fun late =>
    subBlock_writeField value below (sub_lt_of_lt_indirect2Bound small)
      fun same => unread (same ▸ mem_entriesRead_indirect2 late)
  have index_ : self.indexBlocksAt (device.writeField blockId (4 * index) 4 value) i =
      self.indexBlocksAt device i := by
    unfold indexBlocksAt
    congr 1
    split_ifs with named
    · rw [sub named.1]
    · rfl
  have data : self.dataBlockAt (device.writeField blockId (4 * index) 4 value) i =
      self.dataBlockAt device i := by
    unfold dataBlockAt
    split_ifs with direct middle
    · rfl
    · apply readWord_writeField_other device value below
        (by simp only [indirect1Bound_eq, inodeIndirect1Count_eq, inodeDirectCount] at middle ⊢; omega)
      intro same
      apply unread
      unfold entriesRead
      rw [if_neg direct, if_pos middle, same]
      exact List.mem_singleton_self _
    · have late : indirect1Bound ≤ i := by omega
      dsimp only
      rw [sub late]
      apply readWord_writeField_other device value below (Nat.mod_lt _ (by decide))
      intro same
      apply unread
      unfold entriesRead
      rw [if_neg direct, if_neg middle, same]
      exact List.mem_cons_of_mem _ (List.mem_singleton_self _)
  rw [blocksAt, blocksAt, index_, data]

theorem treeBlocks_writeField {count : Nat} (below : index < inodeIndirect1Count)
    (small : count ≤ indirect2Bound)
    (unread : ∀ i < count, (blockId, index) ∉ self.entriesRead device i) :
    self.treeBlocks (device.writeField blockId (4 * index) 4 value) count =
      self.treeBlocks device count := by
  unfold treeBlocks
  apply List.flatMap_congr
  intro i member
  rw [List.mem_range] at member
  exact blocksAt_writeField value below (by omega) (unread i member)

theorem treeBlocks_setSize (size : UInt32) (count : Nat) :
    ({ self with size := size } : DiskInode).treeBlocks device count = self.treeBlocks device count :=
  rfl

theorem treeBlocks_setDirect {c : Nat} (direct : c < inodeDirectCount) (block : UInt32) :
    ({ self with direct := self.direct.set c block direct } : DiskInode).treeBlocks device c =
      self.treeBlocks device c := by
  unfold treeBlocks
  apply List.flatMap_congr
  intro i member
  rw [List.mem_range] at member
  have early : i < inodeDirectCount := by omega
  have other : c ≠ i := by omega
  simp only [blocksAt, indexBlocksAt, dataBlockAt, subBlock, dif_pos early,
    Vector.getElem_set_ne _ _ other]

theorem treeBlocks_setIndirect1 {c : Nat} (early : c ≤ inodeDirectCount) (block : UInt32) :
    ({ self with indirect1 := block } : DiskInode).treeBlocks device c = self.treeBlocks device c := by
  unfold treeBlocks
  apply List.flatMap_congr
  intro i member
  rw [List.mem_range] at member
  have direct : i < inodeDirectCount := by omega
  have before : ¬ indirect1Bound ≤ i := by rw [indirect1Bound_eq]; unfold inodeDirectCount at direct; omega
  simp only [blocksAt, indexBlocksAt, dataBlockAt, dif_pos direct, if_neg (Nat.ne_of_lt direct),
    if_neg (Nat.ne_of_lt (Nat.lt_of_lt_of_le direct (by decide : inodeDirectCount ≤ indirect1Bound))),
    before, false_and, if_false]

theorem treeBlocks_setIndirect2 {c : Nat} (early : c ≤ indirect1Bound) (block : UInt32) :
    ({ self with indirect2 := block } : DiskInode).treeBlocks device c = self.treeBlocks device c := by
  unfold treeBlocks
  apply List.flatMap_congr
  intro i member
  rw [List.mem_range] at member
  have before : i < indirect1Bound := by omega
  have notLate : ¬ indirect1Bound ≤ i := by omega
  simp only [blocksAt, indexBlocksAt, dataBlockAt, if_neg (Nat.ne_of_lt before), notLate,
    false_and, if_false, if_pos before]

end Frame

section Unread

variable {self device}

theorem unread_indirect1 {c : Nat} (early : c ≤ indirect1Bound) :
    ∀ i < c, (self.indirect1.toNat, c - inodeDirectCount) ∉ self.entriesRead device i := by
  intro i before member
  unfold entriesRead at member
  split_ifs at member with direct middle
  · cases member
  · rw [List.mem_singleton, Prod.mk.injEq] at member
    omega
  · omega

theorem indirect2_ne_subBlock {count a : Nat} (nodup : (self.treeBlocks device count).Nodup)
    (named : indirect1Bound + inodeIndirect1Count * a < count) :
    self.indirect2 ≠ self.subBlock device a := by
  rcases Nat.eq_zero_or_pos a with first | later
  · subst first
    have pieces := self.nodup_blocksAt device nodup (by omega : indirect1Bound < count)
    rw [blocksAt_indirect1Bound] at pieces
    exact fun same => (List.nodup_cons.mp pieces).1 (same ▸ List.mem_cons_self)
  · apply self.ne_of_nodup device nodup (by omega) named (by rw [inodeIndirect1Count_eq]; omega)
      (self.indirect2_mem_blocksAt device) (self.subBlock_mem_blocksAt device a)

theorem unread_indirect2 {a : Nat} (formed : (self.treeBlocks device
      (indirect1Bound + inodeIndirect1Count * a)).Nodup) (later : 0 < a) :
    ∀ i < indirect1Bound + inodeIndirect1Count * a,
      (self.indirect2.toNat, a) ∉ self.entriesRead device i := by
  intro i before member
  unfold entriesRead at member
  split_ifs at member with direct middle
  · cases member
  · rw [List.mem_singleton, Prod.mk.injEq, UInt32.toNat_inj] at member
    exact self.ne_of_nodup device formed (by unfold inodeDirectCount at direct; omega)
      (by rw [inodeIndirect1Count_eq] at before ⊢; omega) (by decide)
      (self.indirect1_mem_blocksAt device) (self.indirect2_mem_blocksAt device) member.1.symm
  · simp only [List.mem_cons, List.mem_nil_iff, or_false, Prod.mk.injEq, UInt32.toNat_inj] at member
    rcases member with ⟨_, same⟩ | ⟨named, _⟩
    · rw [inodeIndirect1Count_eq] at before same
      omega
    · have start : indirect1Bound + inodeIndirect1Count * ((i - indirect1Bound) / inodeIndirect1Count)
          < indirect1Bound + inodeIndirect1Count * a := by
        rw [inodeIndirect1Count_eq] at before ⊢
        omega
      exact indirect2_ne_subBlock formed start named

theorem unread_subBlock {a b : Nat} (formed : (self.treeBlocks device
      (indirect1Bound + inodeIndirect1Count * a + b)).Nodup) (filling : 0 < b) :
    ∀ i < indirect1Bound + inodeIndirect1Count * a + b,
      ((self.subBlock device a).toNat, b) ∉ self.entriesRead device i := by
  have named : indirect1Bound + inodeIndirect1Count * a < indirect1Bound + inodeIndirect1Count * a + b :=
    by omega
  intro i before member
  unfold entriesRead at member
  split_ifs at member with direct middle
  · cases member
  · rw [List.mem_singleton, Prod.mk.injEq, UInt32.toNat_inj] at member
    exact self.ne_of_nodup device formed (by unfold inodeDirectCount at direct; omega) named
      (by rw [indirect1Bound_eq]; unfold inodeDirectCount; omega)
      (self.indirect1_mem_blocksAt device) (self.subBlock_mem_blocksAt device a) member.1.symm
  · simp only [List.mem_cons, List.mem_nil_iff, or_false, Prod.mk.injEq, UInt32.toNat_inj] at member
    rcases member with ⟨same, _⟩ | ⟨same, entry⟩
    · exact indirect2_ne_subBlock formed named same.symm
    · by_cases one : (i - indirect1Bound) / inodeIndirect1Count = a
      · rw [inodeIndirect1Count_eq] at before one entry
        omega
      · have start : indirect1Bound + inodeIndirect1Count * ((i - indirect1Bound) / inodeIndirect1Count)
            < indirect1Bound + inodeIndirect1Count * a + b := by
          rw [inodeIndirect1Count_eq] at before ⊢
          omega
        refine self.ne_of_nodup device formed start named ?_ (self.subBlock_mem_blocksAt device _)
          (self.subBlock_mem_blocksAt device a) same.symm
        rw [inodeIndirect1Count_eq] at one ⊢
        omega

end Unread

/-- The index of the first `count` data blocks lists distinct blocks of the device. -/
structure Formed (inode : DiskInode) (device : BlockDevice) (count : Nat) : Prop where
  nodup : (inode.treeBlocks device count).Nodup
  inside : ∀ block ∈ inode.treeBlocks device count, block.toNat < device.blocks

/-- Blocks handed out after the blocks `used`: distinct, none of them used, all among the
`blocks` of the device. -/
structure Fresh (used : List UInt32) (blocks : Nat) (newBlocks : List UInt32) : Prop where
  nodup : newBlocks.Nodup
  apart : ∀ block ∈ newBlocks, block ∉ used
  inside : ∀ block ∈ newBlocks, block.toNat < blocks

section Handing

variable {self device}

theorem Fresh.tail {used : List UInt32} {blocks : Nat} {block : UInt32} {rest : List UInt32}
    (fresh : Fresh used blocks (block :: rest)) : Fresh (used ++ [block]) blocks rest := by
  obtain ⟨nodup, apart, inside⟩ := fresh
  rw [List.nodup_cons] at nodup
  refine ⟨nodup.2, fun other member => ?_, fun other member => inside other (List.mem_cons_of_mem _ member)⟩
  rw [List.mem_append, List.mem_singleton, not_or]
  exact ⟨apart other (List.mem_cons_of_mem _ member), fun same => nodup.1 (same ▸ member)⟩

theorem Formed.append {self' : DiskInode} {device' : BlockDevice} {count count' k : Nat}
    {newBlocks : List UInt32} (formed : self.Formed device count)
    (fresh : Fresh (self.treeBlocks device count) device.blocks newBlocks)
    (grown : self'.treeBlocks device' count' = self.treeBlocks device count ++ newBlocks.take k)
    (same : device'.blocks = device.blocks) :
    self'.Formed device' count' ∧
      Fresh (self'.treeBlocks device' count') device'.blocks (newBlocks.drop k) := by
  have whole := List.take_append_drop k newBlocks
  have nodup := fresh.nodup
  rw [← whole, List.nodup_append] at nodup
  refine ⟨⟨?_, ?_⟩, ⟨nodup.2.1, ?_, ?_⟩⟩
  · rw [grown, List.nodup_append]
    exact ⟨formed.nodup, nodup.1, fun block used other taken same =>
      fresh.apart other (List.mem_of_mem_take taken) (same ▸ used)⟩
  · intro block member
    rw [grown, List.mem_append] at member
    rw [same]
    rcases member with used | taken
    · exact formed.inside block used
    · exact fresh.inside block (List.mem_of_mem_take taken)
  · intro block later
    rw [grown, List.mem_append, not_or]
    exact ⟨fresh.apart block (List.mem_of_mem_drop later),
      fun taken => nodup.2.2 block taken block later rfl⟩
  · intro block later
    rw [same]
    exact fresh.inside block (List.mem_of_mem_drop later)

theorem Formed.extend {self' : DiskInode} {device' : BlockDevice} {count count' : Nat}
    {taken rest : List UInt32} (formed : self.Formed device count)
    (fresh : Fresh (self.treeBlocks device count) device.blocks (taken ++ rest))
    (grown : self'.treeBlocks device' count' = self.treeBlocks device count ++ taken)
    (same : device'.blocks = device.blocks) :
    self'.Formed device' count' ∧ Fresh (self'.treeBlocks device' count') device'.blocks rest := by
  have prefix_ : self'.treeBlocks device' count' =
      self.treeBlocks device count ++ (taken ++ rest).take taken.length := by
    rw [List.take_left' rfl]
    exact grown
  have extended := formed.append fresh prefix_ same
  rwa [List.drop_left' rfl] at extended

end Handing

section Direct

variable {self device}

theorem fillDirect_cons {c total : Nat} (block : UInt32) (rest : List UInt32)
    (fill : c < min total inodeDirectCount) :
    fillDirect self c total (block :: rest) =
      fillDirect
        { self with direct := self.direct.set c block (Nat.lt_of_lt_of_le fill (Nat.min_le_right _ _)) }
        (c + 1) total rest := by
  rw [fillDirect, dif_pos fill]
  rfl

theorem fillDirect_done {c total : Nat} (newBlocks : List UInt32)
    (done : ¬c < min total inodeDirectCount) :
    fillDirect self c total newBlocks = .ok (self, c, newBlocks) := by
  rw [fillDirect, dif_neg done]

theorem treeBlocks_setDirect_succ {c : Nat} (direct : c < inodeDirectCount) (block : UInt32) :
    ({ self with direct := self.direct.set c block direct } : DiskInode).treeBlocks device (c + 1) =
      self.treeBlocks device c ++ [block] := by
  have pieces : ({ self with direct := self.direct.set c block direct } : DiskInode).blocksAt
      device c = [block] := by
    have notIndirect1 : c ≠ inodeDirectCount := by omega
    have notIndirect2 : c ≠ indirect1Bound := by rw [indirect1Bound_eq]; unfold inodeDirectCount at direct; omega
    have notSub : ¬(indirect1Bound ≤ c ∧ (c - indirect1Bound) % inodeIndirect1Count = 0) := by
      rw [indirect1Bound_eq]; unfold inodeDirectCount at direct; omega
    simp only [blocksAt, indexBlocksAt, dataBlockAt, dif_pos direct, if_neg notIndirect1,
      if_neg notIndirect2, if_neg notSub, Vector.getElem_set_self, List.append_nil, List.nil_append]
  rw [treeBlocks_succ, treeBlocks_setDirect, pieces]

theorem fillDirect_spec {c total : Nat} {newBlocks : List UInt32}
    (enough : min total inodeDirectCount - c ≤ newBlocks.length) :
    ∃ self', fillDirect self c total newBlocks =
        .ok (self', max c (min total inodeDirectCount),
          newBlocks.drop (min total inodeDirectCount - c)) ∧
      self'.treeBlocks device (max c (min total inodeDirectCount)) =
        self.treeBlocks device c ++ newBlocks.take (min total inodeDirectCount - c) ∧
      self'.size = self.size ∧ self'.indirect1 = self.indirect1 ∧ self'.indirect2 = self.indirect2 ∧
      ∀ i (direct : i < inodeDirectCount), max c (min total inodeDirectCount) ≤ i →
        self'.direct[i] = self.direct[i] := by
  induction remaining : min total inodeDirectCount - c generalizing self c newBlocks with
  | zero =>
      have done : ¬c < min total inodeDirectCount := by omega
      refine ⟨self, ?_, ?_, rfl, rfl, rfl, fun _ _ _ => rfl⟩
      · rw [fillDirect_done newBlocks done, Nat.max_eq_left (by omega), List.drop_zero]
      · rw [Nat.max_eq_left (by omega), List.take_zero, List.append_nil]
  | succ remaining ih =>
      obtain ⟨block, rest, rfl⟩ : ∃ block rest, newBlocks = block :: rest := by
        cases newBlocks with
        | nil => simp at enough; omega
        | cons block rest => exact ⟨block, rest, rfl⟩
      have fill : c < min total inodeDirectCount := by omega
      obtain ⟨self', call, grown, size, indirect1, indirect2, untouched⟩ :=
        @ih { self with direct := self.direct.set c block (by omega) } (c + 1) rest
          (by simp at enough; omega) (by omega)
      have top : max (c + 1) (min total inodeDirectCount) = max c (min total inodeDirectCount) := by
        omega
      refine ⟨self', ?_, ?_, size, indirect1, indirect2, fun i direct late => ?_⟩
      · rw [fillDirect_cons block rest fill, call, top, List.drop_succ_cons]
      · rw [← top, grown, treeBlocks_setDirect_succ (by omega), List.take_succ_cons,
          List.append_assoc, List.singleton_append]
      · rw [untouched i direct (by omega)]
        exact Vector.getElem_set_ne (by omega) direct (by omega)

end Direct

section Indirect1

variable {self device}

theorem fillIndirect1_cons {blockId c total : Nat} (block : UInt32) (rest : List UInt32)
    (fill : c < min total inodeIndirect1Count) :
    fillIndirect1 device blockId c total (block :: rest) =
      fillIndirect1 (device.writeField blockId (4 * c) 4 block.toNat) blockId (c + 1) total rest := by
  rw [fillIndirect1, if_pos fill]
  show (setIndirectEntry device blockId c block >>= fun device =>
    fillIndirect1 device blockId (c + 1) total rest) = _
  rw [setIndirectEntry_of_lt device blockId block (Nat.lt_of_lt_of_le fill (Nat.min_le_right _ _))]
  rfl

theorem fillIndirect1_done {blockId c total : Nat} (newBlocks : List UInt32)
    (done : ¬c < min total inodeIndirect1Count) :
    fillIndirect1 device blockId c total newBlocks = .ok (device, c, newBlocks) := by
  rw [fillIndirect1, if_neg done]

theorem treeBlocks_setIndirect1_succ {c : Nat} (below : c < inodeIndirect1Count) (block : UInt32) :
    self.treeBlocks (device.writeField self.indirect1.toNat (4 * c) 4 block.toNat)
        (inodeDirectCount + c + 1) =
      self.treeBlocks device (inodeDirectCount + c) ++
        ((if c = 0 then [self.indirect1] else []) ++ [block]) := by
  have early : inodeDirectCount + c < indirect1Bound := by
    rw [indirect1Bound_eq]; rw [inodeIndirect1Count_eq] at below; unfold inodeDirectCount; omega
  have unread := @unread_indirect1 self device (inodeDirectCount + c) early.le
  rw [Nat.add_sub_cancel_left] at unread
  have pieces : self.blocksAt (device.writeField self.indirect1.toNat (4 * c) 4 block.toNat)
      (inodeDirectCount + c) = (if c = 0 then [self.indirect1] else []) ++ [block] := by
    have notDirect : ¬inodeDirectCount + c < inodeDirectCount := by omega
    have notIndirect2 : inodeDirectCount + c ≠ indirect1Bound := by omega
    have notSub : ¬(indirect1Bound ≤ inodeDirectCount + c ∧
        (inodeDirectCount + c - indirect1Bound) % inodeIndirect1Count = 0) := by omega
    have first : (inodeDirectCount + c = inodeDirectCount) = (c = 0) := by
      rw [Nat.add_eq_left]
    simp only [blocksAt, indexBlocksAt, dataBlockAt, dif_neg notDirect, if_pos early,
      if_neg notIndirect2, if_neg notSub, Nat.add_sub_cancel_left, readWord_writeField_same,
      List.append_nil, first]
  rw [treeBlocks_succ, treeBlocks_writeField _ below (by unfold indirect2Bound; omega) unread, pieces]

theorem fillIndirect1_spec {c total : Nat} {newBlocks : List UInt32}
    (enough : min total inodeIndirect1Count - c ≤ newBlocks.length) :
    ∃ device', fillIndirect1 device self.indirect1.toNat c total newBlocks =
        .ok (device', max c (min total inodeIndirect1Count),
          newBlocks.drop (min total inodeIndirect1Count - c)) ∧
      self.treeBlocks device' (inodeDirectCount + max c (min total inodeIndirect1Count)) =
        self.treeBlocks device (inodeDirectCount + c) ++
          ((if c = 0 ∧ c < min total inodeIndirect1Count then [self.indirect1] else []) ++
            newBlocks.take (min total inodeIndirect1Count - c)) ∧
      device'.blocks = device.blocks := by
  induction remaining : min total inodeIndirect1Count - c generalizing device c newBlocks with
  | zero =>
      have done : ¬c < min total inodeIndirect1Count := by omega
      refine ⟨device, ?_, ?_, rfl⟩
      · rw [fillIndirect1_done newBlocks done, Nat.max_eq_left (by omega), List.drop_zero]
      · rw [Nat.max_eq_left (by omega), List.take_zero, if_neg (fun both => done both.2),
          List.append_nil, List.append_nil]
  | succ remaining ih =>
      obtain ⟨block, rest, rfl⟩ : ∃ block rest, newBlocks = block :: rest := by
        cases newBlocks with
        | nil => simp at enough; omega
        | cons block rest => exact ⟨block, rest, rfl⟩
      have fill : c < min total inodeIndirect1Count := by omega
      obtain ⟨device', call, grown, same⟩ :=
        @ih (device.writeField self.indirect1.toNat (4 * c) 4 block.toNat) (c + 1) rest
          (by simp at enough; omega) (by omega)
      have top : max (c + 1) (min total inodeIndirect1Count) = max c (min total inodeIndirect1Count) :=
        by omega
      refine ⟨device', ?_, ?_, same⟩
      · rw [fillIndirect1_cons block rest fill, call, top, List.drop_succ_cons]
      · rw [← top, grown, if_neg (fun both => Nat.succ_ne_zero c both.1), List.nil_append,
          ← Nat.add_assoc,
          treeBlocks_setIndirect1_succ (Nat.lt_of_lt_of_le fill (Nat.min_le_right _ _)),
          List.take_succ_cons]
        by_cases first : c = 0
        · subst first
          simp only [true_and, if_pos fill, if_true, List.append_assoc, List.cons_append,
            List.nil_append]
        · simp only [first, false_and, if_false, List.nil_append, List.append_assoc,
            List.singleton_append]

end Indirect1

section Indirect2

variable {self device}

theorem fillIndirect2_start {blockId a0 a1 b1 : Nat} (sub block : UInt32) (rest : List UInt32)
    (going : a0 < a1 ∨ a0 = a1 ∧ 0 < b1) (small : a0 < inodeIndirect1Count)
    (inside : sub.toNat < device.blocks) :
    fillIndirect2 device blockId a0 ⟨0, by decide⟩ a1 b1 (sub :: block :: rest) =
      fillIndirect2 ((device.writeField blockId (4 * a0) 4 sub.toNat).writeField sub.toNat (4 * 0) 4
        block.toNat) blockId a0 ⟨1, by decide⟩ a1 b1 rest := by
  have inside' : sub.toNat < (device.writeField blockId (4 * a0) 4 sub.toNat).blocks := inside
  rw [fillIndirect2, if_pos going]
  simp only [if_true, nextBlock, ok_bind, pure_bind, setIndirectEntry_of_lt device blockId sub small,
    indirectEntry_of_lt _ _ small, readWord_writeField_same,
    BlockDevice.getBlockCache_bind _ inside', setIndirectEntry_of_lt _ _ _ (by decide : 0 < 128)]
  rfl

theorem fillIndirect2_fill {blockId a0 a1 b1 : Nat} {b0 : Fin inodeIndirect1Count} (block : UInt32)
    (rest : List UInt32) (going : a0 < a1 ∨ a0 = a1 ∧ b0.val < b1) (filling : b0.val ≠ 0)
    (small : a0 < inodeIndirect1Count) (inside : (readWord device blockId 0 a0).toNat < device.blocks) :
    fillIndirect2 device blockId a0 b0 a1 b1 (block :: rest) =
      if next : b0.val + 1 < inodeIndirect1Count then
        fillIndirect2 (device.writeField (readWord device blockId 0 a0).toNat (4 * b0.val) 4 block.toNat)
          blockId a0 ⟨b0.val + 1, next⟩ a1 b1 rest
      else
        fillIndirect2 (device.writeField (readWord device blockId 0 a0).toNat (4 * b0.val) 4 block.toNat)
          blockId (a0 + 1) ⟨0, by decide⟩ a1 b1 rest := by
  rw [fillIndirect2, if_pos going]
  simp only [if_neg filling, nextBlock, ok_bind, pure_bind, indirectEntry_of_lt _ _ small,
    BlockDevice.getBlockCache_bind _ inside, setIndirectEntry_of_lt _ _ _ b0.isLt]

theorem fillIndirect2_done {blockId a0 a1 b1 : Nat} {b0 : Fin inodeIndirect1Count}
    (newBlocks : List UInt32) (done : ¬(a0 < a1 ∨ a0 = a1 ∧ b0.val < b1)) :
    fillIndirect2 device blockId a0 b0 a1 b1 newBlocks = .ok (device, newBlocks) := by
  rw [fillIndirect2, if_neg done]

theorem treeBlocks_startSub {a : Nat} (small : a < inodeIndirect1Count) (sub block : UInt32)
    {rest : List UInt32}
    (nodup : (self.treeBlocks device (indirect1Bound + inodeIndirect1Count * a)).Nodup)
    (fresh : Fresh (self.treeBlocks device (indirect1Bound + inodeIndirect1Count * a)) device.blocks
      ((if a = 0 then [self.indirect2] else []) ++ sub :: block :: rest)) :
    self.treeBlocks ((device.writeField self.indirect2.toNat (4 * a) 4 sub.toNat).writeField sub.toNat
        (4 * 0) 4 block.toNat) (indirect1Bound + inodeIndirect1Count * a + 1) =
      self.treeBlocks device (indirect1Bound + inodeIndirect1Count * a) ++
        ((if a = 0 then [self.indirect2] else []) ++ [sub, block]) := by
  have bounded : indirect1Bound + inodeIndirect1Count * a ≤ indirect2Bound := by
    rw [indirect1Bound_eq, indirect2Bound_eq, inodeIndirect1Count_eq] at *
    omega
  have subFresh : sub ∉ self.treeBlocks device (indirect1Bound + inodeIndirect1Count * a) :=
    fresh.apart sub (by simp)
  have subNe : sub ≠ self.indirect2 := by
    by_cases first : a = 0
    · have distinct := fresh.nodup
      rw [if_pos first, List.singleton_append, List.nodup_cons] at distinct
      exact fun same => distinct.1 (same ▸ List.mem_cons_self)
    · exact fun same => subFresh (same ▸ self.mem_treeBlocks device
        (by rw [inodeIndirect1Count_eq]; omega) (self.indirect2_mem_blocksAt device))
  have first : ∀ i < indirect1Bound + inodeIndirect1Count * a,
      (self.indirect2.toNat, a) ∉ self.entriesRead device i := by
    by_cases start : a = 0
    · apply self.unread_of_not_mem device
      exact fresh.apart self.indirect2 (by simp [start])
    · exact unread_indirect2 nodup (by omega)
  have frame1 := treeBlocks_writeField sub.toNat small bounded first
  have second := self.unread_of_not_mem (device.writeField self.indirect2.toNat (4 * a) 4 sub.toNat)
    (frame1 ▸ subFresh) 0
  have frame2 := treeBlocks_writeField block.toNat (by decide) bounded second
  have named : self.subBlock ((device.writeField self.indirect2.toNat (4 * a) 4 sub.toNat).writeField
      sub.toNat (4 * 0) 4 block.toNat) a = sub := by
    rw [subBlock, readWord_writeField_other _ _ (by decide) small
      (by rw [ne_eq, Prod.mk.injEq, UInt32.toNat_inj, not_and]; exact fun same => absurd same subNe),
      readWord_writeField_same]
  have pieces : self.blocksAt ((device.writeField self.indirect2.toNat (4 * a) 4 sub.toNat).writeField
      sub.toNat (4 * 0) 4 block.toNat) (indirect1Bound + inodeIndirect1Count * a) =
      (if a = 0 then [self.indirect2] else []) ++ [sub, block] := by
    have notIndirect1 : indirect1Bound + inodeIndirect1Count * a ≠ inodeDirectCount := by
      rw [indirect1Bound_eq]; unfold inodeDirectCount; omega
    have indirect2At : (indirect1Bound + inodeIndirect1Count * a = indirect1Bound) = (a = 0) := by
      rw [Nat.add_eq_left, Nat.mul_eq_zero, inodeIndirect1Count_eq]
      simp
    have notDirect : ¬indirect1Bound + inodeIndirect1Count * a < inodeDirectCount := by
      rw [indirect1Bound_eq]; unfold inodeDirectCount; omega
    have notMiddle : ¬indirect1Bound + inodeIndirect1Count * a < indirect1Bound := by omega
    have quotient : (indirect1Bound + inodeIndirect1Count * a - indirect1Bound) / inodeIndirect1Count = a := by
      rw [Nat.add_sub_cancel_left, inodeIndirect1Count_eq]; omega
    have remainder : (indirect1Bound + inodeIndirect1Count * a - indirect1Bound) % inodeIndirect1Count = 0 := by
      rw [Nat.add_sub_cancel_left, inodeIndirect1Count_eq]; omega
    simp only [blocksAt, indexBlocksAt, dataBlockAt, if_neg notIndirect1, indirect2At,
      dif_neg notDirect, if_neg notMiddle, quotient, remainder, Nat.le_add_right, and_self, if_true,
      named, List.nil_append, readWord_writeField_same]
    rw [List.append_assoc, List.singleton_append]
  rw [treeBlocks_succ, frame2, frame1, pieces]

theorem treeBlocks_fillSub {a b : Nat} (small : a < inodeIndirect1Count) (filling : 0 < b)
    (below : b < inodeIndirect1Count) (block : UInt32)
    (nodup : (self.treeBlocks device (indirect1Bound + inodeIndirect1Count * a + b)).Nodup) :
    self.treeBlocks (device.writeField (self.subBlock device a).toNat (4 * b) 4 block.toNat)
        (indirect1Bound + inodeIndirect1Count * a + b + 1) =
      self.treeBlocks device (indirect1Bound + inodeIndirect1Count * a + b) ++ [block] := by
  have bounded : indirect1Bound + inodeIndirect1Count * a + b ≤ indirect2Bound := by
    rw [indirect1Bound_eq, indirect2Bound_eq, inodeIndirect1Count_eq] at *
    omega
  have frame := treeBlocks_writeField block.toNat below bounded (unread_subBlock nodup filling)
  have subNe : self.indirect2 ≠ self.subBlock device a :=
    indirect2_ne_subBlock nodup (by omega)
  have named : self.subBlock (device.writeField (self.subBlock device a).toNat (4 * b) 4 block.toNat) a =
      self.subBlock device a := by
    apply subBlock_writeField _ below small
    rw [ne_eq, Prod.mk.injEq, UInt32.toNat_inj, not_and]
    exact fun same => absurd same.symm subNe
  have pieces : self.blocksAt (device.writeField (self.subBlock device a).toNat (4 * b) 4 block.toNat)
      (indirect1Bound + inodeIndirect1Count * a + b) = [block] := by
    have notIndirect1 : indirect1Bound + inodeIndirect1Count * a + b ≠ inodeDirectCount := by
      rw [indirect1Bound_eq]; unfold inodeDirectCount; omega
    have notIndirect2 : indirect1Bound + inodeIndirect1Count * a + b ≠ indirect1Bound := by omega
    have notDirect : ¬indirect1Bound + inodeIndirect1Count * a + b < inodeDirectCount := by
      rw [indirect1Bound_eq]; unfold inodeDirectCount; omega
    have notMiddle : ¬indirect1Bound + inodeIndirect1Count * a + b < indirect1Bound := by omega
    have quotient :
        (indirect1Bound + inodeIndirect1Count * a + b - indirect1Bound) / inodeIndirect1Count = a := by
      rw [inodeIndirect1Count_eq] at below ⊢
      omega
    have remainder :
        (indirect1Bound + inodeIndirect1Count * a + b - indirect1Bound) % inodeIndirect1Count = b := by
      rw [inodeIndirect1Count_eq] at below ⊢
      omega
    simp only [blocksAt, indexBlocksAt, dataBlockAt, if_neg notIndirect1, if_neg notIndirect2,
      dif_neg notDirect, if_neg notMiddle, quotient, remainder, named, Nat.pos_iff_ne_zero.mp filling,
      and_false, if_false, readWord_writeField_same, List.nil_append]
  rw [treeBlocks_succ, frame, pieces]

theorem fillIndirect2_spec {a1 b1 : Nat} (target : b1 < inodeIndirect1Count)
    (bounded : indirect1Bound + inodeIndirect1Count * a1 + b1 ≤ indirect2Bound)
    (started : indirect1Bound < indirect1Bound + inodeIndirect1Count * a1 + b1) :
    ∀ (n : Nat) (device : BlockDevice) (a0 b0 : Nat) (below : b0 < inodeIndirect1Count)
      (pending newBlocks : List UInt32),
      n = inodeIndirect1Count * a1 + b1 - (inodeIndirect1Count * a0 + b0) →
      inodeIndirect1Count * a0 + b0 ≤ inodeIndirect1Count * a1 + b1 →
      pending = (if a0 = 0 ∧ b0 = 0 then [self.indirect2] else []) →
      self.Formed device (indirect1Bound + inodeIndirect1Count * a0 + b0) →
      Fresh (self.treeBlocks device (indirect1Bound + inodeIndirect1Count * a0 + b0))
        device.blocks (pending ++ newBlocks) →
      blockCount (indirect1Bound + inodeIndirect1Count * a1 + b1) ≤
        blockCount (indirect1Bound + inodeIndirect1Count * a0 + b0) + pending.length +
          newBlocks.length →
      ∃ device' taken rest, newBlocks = taken ++ rest ∧
        fillIndirect2 device self.indirect2.toNat a0 ⟨b0, below⟩ a1 b1 newBlocks =
          .ok (device', rest) ∧
        self.treeBlocks device' (indirect1Bound + inodeIndirect1Count * a1 + b1) =
          self.treeBlocks device (indirect1Bound + inodeIndirect1Count * a0 + b0) ++
            (pending ++ taken) ∧
        device'.blocks = device.blocks := by
  have n128 : inodeIndirect1Count = 128 := rfl
  have b156 : indirect1Bound = 156 := rfl
  have b16540 : indirect2Bound = 16540 := rfl
  have d28 : inodeDirectCount = 28 := rfl
  have e1 : inodeIndirect1Count * a1 = 128 * a1 := by rw [n128]
  intro n
  induction n with
  | zero =>
      intro device a0 b0 below pending newBlocks remaining ordered placed _ _ _
      have e0 : inodeIndirect1Count * a0 = 128 * a0 := by rw [n128]
      have same : indirect1Bound + inodeIndirect1Count * a1 + b1 =
          indirect1Bound + inodeIndirect1Count * a0 + b0 := by omega
      have notFirst : ¬(a0 = 0 ∧ b0 = 0) := by omega
      rw [if_neg notFirst] at placed
      subst placed
      refine ⟨device, [], newBlocks, rfl, fillIndirect2_done newBlocks (by dsimp only; omega), ?_, rfl⟩
      rw [same, List.append_nil, List.append_nil]
  | succ n ih =>
      intro device a0 b0 below pending newBlocks remaining ordered placed formed fresh enough
      have e0 : inodeIndirect1Count * a0 = 128 * a0 := by rw [n128]
      have going : a0 < a1 ∨ a0 = a1 ∧ b0 < b1 := by omega
      have small : a0 < inodeIndirect1Count := by omega
      by_cases start : b0 = 0
      · subst start
        simp only [Nat.add_zero] at formed fresh enough ⊢
        have shape : pending = if a0 = 0 then [self.indirect2] else [] := by
          rw [placed]
          simp only [and_true]
        have pendingLength : pending.length = if a0 = 0 then 1 else 0 := by
          rw [shape]
          split_ifs <;> rfl
        have counted := blockCount_startSub a0
        have grows := blockCount_mono (show indirect1Bound + inodeIndirect1Count * a0 + 1 ≤
          indirect1Bound + inodeIndirect1Count * a1 + b1 by omega)
        obtain ⟨sub, block, rest, rfl⟩ : ∃ sub block rest, newBlocks = sub :: block :: rest := by
          match newBlocks, enough with
          | sub :: block :: rest, _ => exact ⟨sub, block, rest, rfl⟩
          | [], enough | [_], enough =>
              exfalso
              simp only [List.length_nil, List.length_cons] at enough
              omega
        have subInside : sub.toNat < device.blocks := fresh.inside sub (by simp)
        have grown := treeBlocks_startSub small sub block formed.nodup (by rw [← shape]; exact fresh)
        rw [← shape] at grown
        have fresh' : Fresh (self.treeBlocks device (indirect1Bound + inodeIndirect1Count * a0))
            device.blocks ((pending ++ [sub, block]) ++ rest) := by
          rw [List.append_assoc]
          exact fresh
        obtain ⟨formed1, fresh1⟩ := formed.extend fresh' grown rfl
        obtain ⟨device', taken, rest', split, call, grown', same⟩ :=
          ih _ a0 1 (by decide) [] rest (by omega) (by omega) (by simp) formed1
            (by rw [List.nil_append]; exact fresh1)
            (by simp only [List.length_nil, List.length_cons] at enough ⊢; omega)
        refine ⟨device', sub :: block :: taken, rest', by rw [split]; rfl, ?_, ?_, same⟩
        · rw [fillIndirect2_start sub block rest going small subInside]
          exact call
        · rw [grown', grown]
          simp only [List.append_assoc, List.nil_append, List.cons_append]
      · have notFirst : ¬(a0 = 0 ∧ b0 = 0) := fun both => start both.2
        rw [if_neg notFirst] at placed
        subst placed
        have filling : 0 < b0 := Nat.pos_of_ne_zero start
        have counted := @blockCount_fillSub a0 b0 filling below
        have grows := blockCount_mono (show indirect1Bound + inodeIndirect1Count * a0 + b0 + 1 ≤
          indirect1Bound + inodeIndirect1Count * a1 + b1 by omega)
        obtain ⟨block, rest, rfl⟩ : ∃ block rest, newBlocks = block :: rest := by
          match newBlocks, enough with
          | block :: rest, _ => exact ⟨block, rest, rfl⟩
          | [], enough =>
              exfalso
              simp only [List.length_nil] at enough
              omega
        have subInside : (self.subBlock device a0).toNat < device.blocks :=
          formed.inside _ (self.mem_treeBlocks device (by omega) (self.subBlock_mem_blocksAt device a0))
        have grown := treeBlocks_fillSub small filling below block formed.nodup
        have fresh' : Fresh (self.treeBlocks device (indirect1Bound + inodeIndirect1Count * a0 + b0))
            device.blocks ([block] ++ rest) := fresh
        obtain ⟨formed1, fresh1⟩ := formed.extend fresh' grown rfl
        have enough1 : blockCount (indirect1Bound + inodeIndirect1Count * a1 + b1) ≤
            blockCount (indirect1Bound + inodeIndirect1Count * a0 + b0 + 1) +
              ([] : List UInt32).length + rest.length := by
          simp only [List.length_nil, List.length_cons] at enough ⊢
          omega
        rw [fillIndirect2_fill block rest going start small subInside]
        by_cases next : b0 + 1 < inodeIndirect1Count
        · rw [dif_pos next]
          rw [Nat.add_assoc] at formed1 fresh1
          obtain ⟨device', taken, rest', split, call, grown', same⟩ :=
            ih _ a0 (b0 + 1) next [] rest (by omega) (by omega) (by simp) formed1
              (by rw [List.nil_append]; exact fresh1) (by rw [← Nat.add_assoc]; exact enough1)
          refine ⟨device', block :: taken, rest', by rw [split]; rfl, call, ?_, same⟩
          rw [grown', ← Nat.add_assoc, grown]
          simp only [List.append_assoc, List.nil_append, List.singleton_append]
        · rw [dif_neg next]
          have moved : indirect1Bound + inodeIndirect1Count * a0 + b0 + 1 =
              indirect1Bound + inodeIndirect1Count * (a0 + 1) + 0 := by
            rw [Nat.mul_succ]
            omega
          rw [moved] at formed1 fresh1 enough1
          obtain ⟨device', taken, rest', split, call, grown', same⟩ :=
            ih _ (a0 + 1) 0 (by decide) [] rest (by rw [Nat.mul_succ]; omega)
              (by rw [Nat.mul_succ]; omega) (by simp) formed1
              (by rw [List.nil_append]; exact fresh1) enough1
          refine ⟨device', block :: taken, rest', by rw [split]; rfl, call, ?_, same⟩
          rw [grown', ← moved, grown]
          simp only [List.append_assoc, List.nil_append, List.singleton_append]

end Indirect2

/-- The roots a file of `count` data blocks does not use are those of `self`. -/
structure SameUnused (inode inode' : DiskInode) (count : Nat) : Prop where
  direct : ∀ i (direct : i < inodeDirectCount), count ≤ i → inode'.direct[i] = inode.direct[i]
  indirect1 : count ≤ inodeDirectCount → inode'.indirect1 = inode.indirect1
  indirect2 : count ≤ indirect1Bound → inode'.indirect2 = inode.indirect2

/-- What `increase_size` does to an index: the size is the new one, the index lists the old
blocks and then the blocks handed out, and the roots the larger file does not use are as
they were. -/
structure Grew (inode : DiskInode) (device : BlockDevice) (newSize : UInt32)
    (newBlocks : List UInt32) (inode' : DiskInode) (device' : BlockDevice) : Prop where
  size : inode'.size = newSize
  blocks : inode'.treeBlocks device' (dataBlocksOf newSize).toNat =
    inode.treeBlocks device (dataBlocksOf inode.size).toNat ++ newBlocks
  sameBlocks : device'.blocks = device.blocks
  unused : SameUnused inode inode' (dataBlocksOf newSize).toNat

/-- Midway through `increase_size`, with the index filled up to data block `count`: the
index so far is formed, the blocks still to take are fresh for it, and the two together are
the old index `used` and the blocks `handed` out. -/
structure Midway (used handed : List UInt32) (blocks : Nat) (inode : DiskInode)
    (device : BlockDevice) (count : Nat) (rest : List UInt32) : Prop where
  formed : inode.Formed device count
  fresh : Fresh (inode.treeBlocks device count) device.blocks rest
  conserved : inode.treeBlocks device count ++ rest = used ++ handed
  sameBlocks : device.blocks = blocks

section Increase

variable {self device}

section Midway

variable {used handed : List UInt32} {blocks : Nat} {inode inode' : DiskInode}
  {device' : BlockDevice} {count count' : Nat}

theorem Midway.advance {taken rest : List UInt32}
    (midway : Midway used handed blocks inode device count (taken ++ rest))
    (grown : inode'.treeBlocks device' count' = inode.treeBlocks device count ++ taken)
    (same : device'.blocks = device.blocks) : Midway used handed blocks inode' device' count' rest := by
  obtain ⟨formed', fresh'⟩ := midway.formed.extend midway.fresh grown same
  refine ⟨formed', fresh', ?_, same.trans midway.sameBlocks⟩
  rw [grown, List.append_assoc]
  exact midway.conserved

theorem Midway.retarget {rest : List UInt32} (midway : Midway used handed blocks inode device count rest)
    (same : inode'.treeBlocks device count = inode.treeBlocks device count) :
    Midway used handed blocks inode' device count rest :=
  (show Midway used handed blocks inode device count ([] ++ rest) from midway).advance
    (by rw [same, List.append_nil]) rfl

theorem Midway.length {rest : List UInt32} (midway : Midway used handed blocks inode device count rest) :
    blockCount count + rest.length = used.length + handed.length := by
  rw [← length_treeBlocks inode device, ← List.length_append, midway.conserved, List.length_append]

theorem Midway.alloc (root : DiskInode → UInt32) (set : DiskInode → UInt32 → DiskInode)
    {full : Prop} [Decidable full] {bound c : Nat} {block : UInt32} {rest : List UInt32}
    (frame : (set inode block).treeBlocks device bound = inode.treeBlocks device bound)
    (named : root inode ∈ inode.blocksAt device bound) (rootOf : root (set inode block) = block)
    (reached : full ↔ c = bound)
    (midway : Midway used handed blocks inode device c ((if full then [block] else []) ++ rest))
    (chosen : inode' = if full then set inode block else inode) (early : bound ≤ c) :
    Midway used handed blocks inode' device c ((if full then [root inode'] else []) ++ rest) ∧
      (root inode').toNat < device.blocks := by
  by_cases filled : full
  · obtain rfl := reached.mp filled
    rw [if_pos filled] at chosen midway ⊢
    subst inode'
    rw [rootOf]
    exact ⟨midway.retarget frame,
      midway.fresh.inside block (List.mem_append_left _ (List.mem_singleton_self _))⟩
  · have later : bound < c := Nat.lt_of_le_of_ne early fun same => filled (reached.mpr same.symm)
    rw [if_neg filled] at chosen midway ⊢
    subst inode'
    exact ⟨midway, midway.formed.inside _ (inode.mem_treeBlocks device later named)⟩

theorem fillDirect_midway {c total : Nat} {rest : List UInt32}
    (midway : Midway used handed blocks inode device c rest) (full : inodeDirectCount ≤ total)
    (room : blockCount (max c inodeDirectCount) ≤ used.length + handed.length) :
    ∃ inode', fillDirect inode c total rest =
        .ok (inode', max c inodeDirectCount, rest.drop (inodeDirectCount - c)) ∧
      Midway used handed blocks inode' device (max c inodeDirectCount)
        (rest.drop (inodeDirectCount - c)) ∧
      inode'.size = inode.size ∧ inode'.indirect1 = inode.indirect1 ∧
      inode'.indirect2 = inode.indirect2 := by
  have filled : min total inodeDirectCount = inodeDirectCount := Nat.min_eq_right full
  have enough : inodeDirectCount - c ≤ rest.length := by
    have counted := midway.length
    rw [blockCount_fillDirect] at room
    omega
  obtain ⟨inode', call, grown, size, indirect1, indirect2, _⟩ :=
    @fillDirect_spec inode device c total rest (by rw [filled]; exact enough)
  rw [filled] at call grown
  rw [← List.take_append_drop (inodeDirectCount - c) rest] at midway
  exact ⟨inode', call, midway.advance grown rfl, size, indirect1, indirect2⟩

theorem fillIndirect1_midway {c total : Nat} {rest : List UInt32} (early : inodeDirectCount ≤ c)
    (big : inodeDirectCount < total)
    (midway : Midway used handed blocks inode device c
      ((if c = inodeDirectCount then [inode.indirect1] else []) ++ rest))
    (room : blockCount (inodeDirectCount + max (c - inodeDirectCount)
      (min (total - inodeDirectCount) inodeIndirect1Count)) ≤ used.length + handed.length) :
    ∃ device', fillIndirect1 device inode.indirect1.toNat (c - inodeDirectCount)
        (total - inodeDirectCount) rest =
        .ok (device', max (c - inodeDirectCount) (min (total - inodeDirectCount) inodeIndirect1Count),
          rest.drop (min (total - inodeDirectCount) inodeIndirect1Count - (c - inodeDirectCount))) ∧
      Midway used handed blocks inode device'
        (inodeDirectCount + max (c - inodeDirectCount)
          (min (total - inodeDirectCount) inodeIndirect1Count))
        (rest.drop (min (total - inodeDirectCount) inodeIndirect1Count - (c - inodeDirectCount))) := by
  have shifted : inodeDirectCount + (c - inodeDirectCount) = c := by omega
  have pending : (if c - inodeDirectCount = 0 ∧
      c - inodeDirectCount < min (total - inodeDirectCount) inodeIndirect1Count
        then [inode.indirect1] else []) = if c = inodeDirectCount then [inode.indirect1] else [] := by
    by_cases filled : c = inodeDirectCount
    · rw [if_pos filled, if_pos (by rw [inodeIndirect1Count_eq]; omega)]
    · rw [if_neg filled, if_neg (by omega)]
  have counted := midway.length
  have enough : min (total - inodeDirectCount) inodeIndirect1Count - (c - inodeDirectCount) ≤
      rest.length := by
    rw [blockCount_fillIndirect1 (Nat.min_le_right _ _), shifted] at room
    rw [List.length_append] at counted
    split_ifs at room counted <;>
      simp only [List.length_singleton, List.length_nil] at counted <;> omega
  obtain ⟨device', call, grown, same⟩ := @fillIndirect1_spec inode device _ _ rest enough
  rw [shifted, pending] at grown
  rw [← List.take_append_drop (min (total - inodeDirectCount) inodeIndirect1Count -
    (c - inodeDirectCount)) rest, ← List.append_assoc] at midway
  exact ⟨device', call, midway.advance grown same⟩

theorem fillIndirect2_midway {c total : Nat} {rest : List UInt32} (early : inodeIndirect1Count ≤ c)
    (ordered : c ≤ total) (started : inodeIndirect1Count < total)
    (bounded : inodeDirectCount + total ≤ indirect2Bound)
    (midway : Midway used handed blocks inode device (inodeDirectCount + c)
      ((if c = inodeIndirect1Count then [inode.indirect2] else []) ++ rest))
    (room : blockCount (inodeDirectCount + total) ≤ used.length + handed.length) :
    ∃ device' rest', fillIndirect2 device inode.indirect2.toNat
        ((c - inodeIndirect1Count) / inodeIndirect1Count)
        ⟨(c - inodeIndirect1Count) % inodeIndirect1Count, Nat.mod_lt _ (by decide)⟩
        ((total - inodeIndirect1Count) / inodeIndirect1Count)
        ((total - inodeIndirect1Count) % inodeIndirect1Count) rest = .ok (device', rest') ∧
      Midway used handed blocks inode device' (inodeDirectCount + total) rest' := by
  have n128 : inodeIndirect1Count = 128 := rfl
  have position : ∀ n, inodeIndirect1Count ≤ n →
      indirect1Bound + inodeIndirect1Count * ((n - inodeIndirect1Count) / inodeIndirect1Count) +
        (n - inodeIndirect1Count) % inodeIndirect1Count = inodeDirectCount + n := by
    intro n late
    rw [Nat.add_assoc, Nat.div_add_mod]
    unfold indirect1Bound directBound
    omega
  have pending : (if c = inodeIndirect1Count then [inode.indirect2] else []) =
      if (c - inodeIndirect1Count) / inodeIndirect1Count = 0 ∧
        (c - inodeIndirect1Count) % inodeIndirect1Count = 0 then [inode.indirect2] else [] := by
    by_cases filled : c = inodeIndirect1Count
    · rw [if_pos filled, if_pos (by rw [n128] at filled ⊢; omega)]
    · rw [if_neg filled, if_neg (by rw [n128] at filled early ⊢; omega)]
  have counted := midway.length
  rw [List.length_append] at counted
  obtain ⟨device', taken, rest', split, call, grown, same⟩ :=
    fillIndirect2_spec (Nat.mod_lt _ (by decide)) (by rw [position total started.le]; exact bounded)
      (by rw [position total started.le]; unfold indirect1Bound directBound; omega) _ device
      ((c - inodeIndirect1Count) / inodeIndirect1Count) ((c - inodeIndirect1Count) % inodeIndirect1Count)
      (Nat.mod_lt _ (by decide)) _ rest rfl (by rw [n128] at early ⊢; omega) pending
      (by rw [position c early]; exact midway.formed) (by rw [position c early]; exact midway.fresh)
      (by rw [position c early, position total started.le]; omega)
  rw [position c early, position total started.le] at grown
  rw [split, ← List.append_assoc] at midway
  exact ⟨device', rest', call, midway.advance grown same⟩

end Midway

theorem alloc_bind {β : Type} (set : DiskInode → UInt32 → DiskInode) (inode : DiskInode)
    (full : Prop) [Decidable full] (newBlocks : List UInt32) (enough : full → newBlocks ≠ []) :
    ∃ inode' block rest, inode' = (if full then set inode block else inode) ∧
      newBlocks = (if full then [block] else []) ++ rest ∧
      ∀ k : DiskInode × List UInt32 → Except String β,
        (if full then nextBlock newBlocks >>= fun x => pure (set inode x.1, x.2) >>= k
          else pure (inode, newBlocks) >>= k) = k (inode', rest) := by
  by_cases filled : full
  · obtain ⟨block, rest, rfl⟩ : ∃ block rest, newBlocks = block :: rest := by
      cases newBlocks with
      | nil => exact absurd rfl (enough filled)
      | cons block rest => exact ⟨block, rest, rfl⟩
    refine ⟨set inode block, block, rest, by rw [if_pos filled], by rw [if_pos filled]; rfl,
      fun k => ?_⟩
    rw [if_pos filled]
    rfl
  · refine ⟨inode, 0, newBlocks, by rw [if_neg filled], by rw [if_neg filled]; rfl, fun k => ?_⟩
    rw [if_neg filled]
    rfl

theorem Midway.grew {newSize : UInt32} {newBlocks rest : List UInt32} {self' : DiskInode}
    {device' : BlockDevice}
    (midway : Midway (self.treeBlocks device (dataBlocksOf self.size).toNat) newBlocks device.blocks
      self' device' (dataBlocksOf newSize).toNat rest)
    (total : blockCount (dataBlocksOf newSize).toNat =
      (self.treeBlocks device (dataBlocksOf self.size).toNat).length + newBlocks.length)
    (size : self'.size = newSize) (unused : SameUnused self self' (dataBlocksOf newSize).toNat) :
    Grew self device newSize newBlocks self' device' := by
  have counted := midway.length
  have empty : rest = [] := List.eq_nil_of_length_eq_zero (by omega)
  have conserved := midway.conserved
  rw [empty, List.append_nil] at conserved
  exact ⟨size, conserved, midway.sameBlocks, unused⟩

theorem increaseSize_direct {newSize : UInt32} {newBlocks : List UInt32}
    (small : (dataBlocksOf newSize).toNat ≤ inodeDirectCount)
    (grows : (dataBlocksOf self.size).toNat ≤ (dataBlocksOf newSize).toNat)
    (count : newBlocks.length =
      blockCount (dataBlocksOf newSize).toNat - blockCount (dataBlocksOf self.size).toNat) :
    ∃ self', increaseSize self newSize newBlocks device = .ok (self', device) ∧
      Grew self device newSize newBlocks self' device := by
  rw [blockCount_of_le small, blockCount_of_le (Nat.le_trans grows small)] at count
  obtain ⟨self1, call, grown, size, indirect1, indirect2, untouched⟩ :=
    @fillDirect_spec { self with size := newSize } device (dataBlocksOf self.size).toNat
      (dataBlocksOf newSize).toNat newBlocks (by omega)
  have top : max (dataBlocksOf self.size).toNat (min (dataBlocksOf newSize).toNat inodeDirectCount) =
      (dataBlocksOf newSize).toNat := by omega
  have taken : min (dataBlocksOf newSize).toNat inodeDirectCount - (dataBlocksOf self.size).toNat =
      newBlocks.length := by omega
  refine ⟨self1, ?_, ⟨size, ?_, rfl, ⟨fun i direct late => ?_, fun _ => indirect1,
    fun _ => indirect2⟩⟩⟩
  · have within : ¬(dataBlocksOf newSize).toNat > inodeDirectCount := by omega
    simp only [increaseSize, dataBlocks, call, ok_bind, within, if_false]
    rfl
  · rw [← top, grown, taken, List.take_length]
    rfl
  · exact untouched i direct (by omega)

theorem increaseSize_indirect {newSize : UInt32} {newBlocks : List UInt32}
    (formed : self.Formed device (dataBlocksOf self.size).toNat)
    (fresh : Fresh (self.treeBlocks device (dataBlocksOf self.size).toNat) device.blocks newBlocks)
    (big : inodeDirectCount < (dataBlocksOf newSize).toNat)
    (grows : (dataBlocksOf self.size).toNat ≤ (dataBlocksOf newSize).toNat)
    (bounded : (dataBlocksOf newSize).toNat ≤ indirect2Bound)
    (count : newBlocks.length =
      blockCount (dataBlocksOf newSize).toNat - blockCount (dataBlocksOf self.size).toNat) :
    ∃ self' device', increaseSize self newSize newBlocks device = .ok (self', device') ∧
      Grew self device newSize newBlocks self' device' := by
  have n128 : inodeIndirect1Count = 128 := rfl
  have b156 : indirect1Bound = 156 := rfl
  have b16540 : indirect2Bound = 16540 := rfl
  have d28 : inodeDirectCount = 28 := rfl
  have total : blockCount (dataBlocksOf newSize).toNat =
      (self.treeBlocks device (dataBlocksOf self.size).toNat).length + newBlocks.length := by
    rw [length_treeBlocks, count]
    have := blockCount_mono grows
    omega
  have room : ∀ {c}, c ≤ (dataBlocksOf newSize).toNat →
      blockCount c ≤ (self.treeBlocks device (dataBlocksOf self.size).toNat).length + newBlocks.length :=
    fun before => by rw [← total]; exact blockCount_mono before
  have start : Midway (self.treeBlocks device (dataBlocksOf self.size).toNat) newBlocks device.blocks
      { self with size := newSize } device (dataBlocksOf self.size).toNat newBlocks :=
    (⟨formed, fresh, rfl, rfl⟩ : Midway _ newBlocks device.blocks self device _ newBlocks).retarget
      (treeBlocks_setSize newSize _)
  obtain ⟨self1, call1, midway1, size1, -, indirect2Of1⟩ :=
    fillDirect_midway start big.le (room (by omega))
  obtain ⟨self2, block1, rest2, chosen1, split1, alloc1⟩ :=
    @alloc_bind (DiskInode × BlockDevice) (fun inode block => { inode with indirect1 := block })
      self1 (max (dataBlocksOf self.size).toNat inodeDirectCount = inodeDirectCount) _
      (newBlocks.drop (inodeDirectCount - (dataBlocksOf self.size).toNat)) fun filled => by
        have counted := midway1.length
        have past := room (show inodeDirectCount + 1 ≤ (dataBlocksOf newSize).toNat by omega)
        have next : blockCount (inodeDirectCount + 1) = inodeDirectCount + 2 := by decide
        rw [filled, blockCount_of_le le_rfl] at counted
        apply List.ne_nil_of_length_pos
        omega
  rw [split1] at midway1
  obtain ⟨midway2, inside2⟩ := midway1.alloc DiskInode.indirect1
    (fun inode block => { inode with indirect1 := block }) (treeBlocks_setIndirect1 le_rfl block1)
    (self1.indirect1_mem_blocksAt device) rfl Iff.rfl chosen1 (Nat.le_max_right _ _)
  obtain ⟨device3, call3, midway3⟩ :=
    fillIndirect1_midway (Nat.le_max_right _ _) big midway2 (room (by omega))
  have big' : (dataBlocksOf newSize).toNat > inodeDirectCount := big
  by_cases small : (dataBlocksOf newSize).toNat ≤ indirect1Bound
  · have small' : ¬(dataBlocksOf newSize).toNat - inodeDirectCount > inodeIndirect1Count := by omega
    have top : inodeDirectCount + max (max (dataBlocksOf self.size).toNat inodeDirectCount -
        inodeDirectCount) (min ((dataBlocksOf newSize).toNat - inodeDirectCount) inodeIndirect1Count) =
        (dataBlocksOf newSize).toNat := by omega
    rw [top] at midway3
    refine ⟨self2, device3, ?_, midway3.grew total ?_ ⟨fun i _ late => absurd late (by omega),
      fun early => absurd early (by omega), fun _ => ?_⟩⟩
    · simp only [increaseSize, dataBlocks, call1, ok_bind, big', if_true]
      rw [alloc1]
      simp only [BlockDevice.getBlockCache_bind _ inside2, call3, ok_bind, small', if_false]
      rfl
    · rw [chosen1]
      split_ifs <;> exact size1
    · rw [chosen1]
      split_ifs <;> exact indirect2Of1
  · have large' : (dataBlocksOf newSize).toNat - inodeDirectCount > inodeIndirect1Count := by omega
    obtain ⟨self4, block2, rest4, chosen2, split2, alloc2⟩ :=
      @alloc_bind (DiskInode × BlockDevice) (fun inode block => { inode with indirect2 := block })
        self2 (max (max (dataBlocksOf self.size).toNat inodeDirectCount - inodeDirectCount)
          (min ((dataBlocksOf newSize).toNat - inodeDirectCount) inodeIndirect1Count) =
          inodeIndirect1Count) _
        (rest2.drop (min ((dataBlocksOf newSize).toNat - inodeDirectCount) inodeIndirect1Count -
          (max (dataBlocksOf self.size).toNat inodeDirectCount - inodeDirectCount))) fun filled => by
          have counted := midway3.length
          have past := room (show indirect1Bound + 1 ≤ (dataBlocksOf newSize).toNat by omega)
          have here : blockCount (inodeDirectCount + inodeIndirect1Count) = indirect1Bound + 1 := by
            decide
          have next : blockCount (indirect1Bound + 1) = indirect1Bound + 4 := by decide
          rw [filled, here] at counted
          apply List.ne_nil_of_length_pos
          omega
    rw [split2] at midway3
    obtain ⟨midway4, inside4⟩ := midway3.alloc DiskInode.indirect2
      (fun inode block => { inode with indirect2 := block }) (treeBlocks_setIndirect2 le_rfl block2)
      (self2.indirect2_mem_blocksAt device3) rfl (by constructor <;> intro <;> omega) chosen2
      (by omega)
    obtain ⟨device5, rest5, call5, midway5⟩ :=
      fillIndirect2_midway (by omega) (by omega) (by omega) (by omega) midway4
        (room (show inodeDirectCount + ((dataBlocksOf newSize).toNat - inodeDirectCount) ≤
          (dataBlocksOf newSize).toNat by omega))
    have top : inodeDirectCount + ((dataBlocksOf newSize).toNat - inodeDirectCount) =
        (dataBlocksOf newSize).toNat := by omega
    rw [top] at midway5
    refine ⟨self4, device5, ?_, midway5.grew total ?_ ⟨fun i _ late => absurd late (by omega),
      fun early => absurd early (by omega), fun early => absurd early small⟩⟩
    · simp only [increaseSize, dataBlocks, call1, ok_bind, big', if_true]
      rw [alloc1]
      simp only [BlockDevice.getBlockCache_bind _ inside2, call3, ok_bind, large', if_true]
      rw [alloc2]
      simp only [BlockDevice.getBlockCache_bind _ inside4, call5, ok_bind]
      rfl
    · rw [chosen2, chosen1]
      split_ifs <;> exact size1

theorem increaseSize_spec {newSize : UInt32} {newBlocks : List UInt32}
    (formed : self.Formed device (dataBlocksOf self.size).toNat)
    (fresh : Fresh (self.treeBlocks device (dataBlocksOf self.size).toNat) device.blocks newBlocks)
    (grows : (dataBlocksOf self.size).toNat ≤ (dataBlocksOf newSize).toNat)
    (bounded : (dataBlocksOf newSize).toNat ≤ indirect2Bound)
    (count : newBlocks.length =
      blockCount (dataBlocksOf newSize).toNat - blockCount (dataBlocksOf self.size).toNat) :
    ∃ self' device', increaseSize self newSize newBlocks device = .ok (self', device') ∧
      Grew self device newSize newBlocks self' device' := by
  by_cases small : (dataBlocksOf newSize).toNat ≤ inodeDirectCount
  · obtain ⟨self', call, grew⟩ := increaseSize_direct small grows count
    exact ⟨self', device, call, grew⟩
  · exact increaseSize_indirect formed fresh (by omega) grows bounded count

end Increase

end DiskInode

end EasyFs

end ChOs
