import ChOs.EasyFs.Vfs
import ChOs.EasyFs.Volume

set_option autoImplicit false

/- The blocks `Inode::increase_size` takes from `alloc_data` (`easy-fs/src/efs.rs`,
`easy-fs/src/vfs.rs`). -/

namespace ChOs

namespace EasyFs

open BlockDevice

namespace Bitmap

variable (self : Bitmap) (device : BlockDevice)

/-- The clear bits below `area`, in order. -/
def clearBits (area : Nat) : List Nat := (List.range area).filter fun bit => !self.isSet device bit

variable {self device}

theorem mem_clearBits {area bit : Nat} :
    bit ∈ self.clearBits device area ↔ bit < area ∧ self.isSet device bit = false := by
  simp [clearBits]

theorem length_clearBits_of_differ {next : BlockDevice} {area bit : Nat} (below : bit < area)
    (clear : self.isSet next bit = false) (set : self.isSet device bit = true)
    (same : ∀ other, other ≠ bit → self.isSet next other = self.isSet device other) :
    (self.clearBits next area).length = (self.clearBits device area).length + 1 := by
  have erased : self.clearBits device area = (self.clearBits next area).erase bit := by
    unfold clearBits
    rw [List.Nodup.erase_eq_filter ((List.nodup_range).filter _), List.filter_filter]
    congr 1
    funext other
    by_cases here : other = bit
    · simp [here, set]
    · simp [here, same other here]
  have member : bit ∈ self.clearBits next area := mem_clearBits.mpr ⟨below, clear⟩
  rw [erased, List.length_erase_of_mem member]
  have := List.length_pos_of_mem member
  omega

theorem length_clearBits_setBit {area bit : Nat} (clear : self.isSet device bit = false)
    (below : bit < area) :
    (self.clearBits (self.setBit device bit) area).length + 1 = (self.clearBits device area).length := by
  refine (length_clearBits_of_differ below clear (by simp [isSet_setBit]) fun other differ => ?_).symm
  simp [isSet_setBit, differ]

theorem length_clearBits_clearBit {area bit : Nat} (set : self.isSet device bit = true)
    (below : bit < area) :
    (self.clearBits (self.clearBit device bit) area).length = (self.clearBits device area).length + 1 :=
  length_clearBits_of_differ below (by simp [isSet_clearBit _ _ set]) set fun other differ => by
    simp [isSet_clearBit _ _ set, differ]

theorem isSet_keeps {next : BlockDevice} {kept : Nat → Prop} (keeps : Keeps device next kept)
    {bit : Nat} (held : kept (bit / blockBits + self.startBlockId)) :
    self.isSet next bit = self.isSet device bit := by
  rw [isSet, isSet, group, group, keeps.readField held _ _ (group_inside bit)]

theorem clearBits_of_keeps {next : BlockDevice} {kept : Nat → Prop} (keeps : Keeps device next kept)
    {area : Nat} (held : ∀ bit < area, kept (bit / blockBits + self.startBlockId)) :
    self.clearBits next area = self.clearBits device area := by
  unfold clearBits
  apply List.filter_congr
  intro bit member
  rw [self.isSet_keeps keeps (held bit (List.mem_range.mp member))]

end Bitmap

namespace EasyFileSystem

/-- What `alloc_data` rests on: the data bitmap lies inside the image, below the data area, and
has a bit for each of the `area` blocks of the data area, which lie inside the image and have
`u32` numbers. -/
structure DataArea (fs : EasyFileSystem) (area blocks : Nat) : Prop where
  bitmapBelow : fs.dataBitmap.startBlockId + fs.dataBitmap.blocks ≤ fs.dataAreaStartBlock.toNat
  covered : area ≤ fs.dataBitmap.maximum
  inside : fs.dataAreaStartBlock.toNat + area ≤ blocks
  numbered : fs.dataAreaStartBlock.toNat + area ≤ 2 ^ 32

theorem DataArea.bitBlock_lt {fs : EasyFileSystem} {area blocks : Nat} (laid : fs.DataArea area blocks)
    {bit : Nat} (below : bit < area) :
    bit / blockBits + fs.dataBitmap.startBlockId < fs.dataBitmap.startBlockId + fs.dataBitmap.blocks := by
  have covered := laid.covered
  unfold Bitmap.maximum at covered
  rw [blockBits_eq] at covered ⊢
  omega

variable (self : EasyFileSystem)

/-- The free blocks of the data area: the clear bits of the data bitmap below `area`. -/
def freeBlocks (device : BlockDevice) (area : Nat) : List Nat := self.dataBitmap.clearBits device area

/-- A block outside the data bitmap: `alloc_data` does not store into it. -/
def OffBitmap (blockId : Nat) : Prop :=
  blockId < self.dataBitmap.startBlockId ∨ self.dataBitmap.startBlockId + self.dataBitmap.blocks ≤ blockId

/-- What `count` calls of `alloc_data` leave: the blocks `v` are distinct, in the data area and
free before, their bits are set after, no bit was cleared, the free blocks decrease by the
blocks handed out, and only the data bitmap changed. -/
structure Allocated (fs : EasyFileSystem) (area : Nat) (device : BlockDevice) (v : List UInt32)
    (next : BlockDevice) : Prop where
  nodup : v.Nodup
  inArea : ∀ block ∈ v, fs.dataAreaStartBlock.toNat ≤ block.toNat ∧
    block.toNat < fs.dataAreaStartBlock.toNat + area
  wasFree : ∀ block ∈ v,
    fs.dataBitmap.isSet device (block.toNat - fs.dataAreaStartBlock.toNat) = false
  nowSet : ∀ block ∈ v,
    fs.dataBitmap.isSet next (block.toNat - fs.dataAreaStartBlock.toNat) = true
  stillSet : ∀ bit, fs.dataBitmap.isSet device bit = true → fs.dataBitmap.isSet next bit = true
  counted : (fs.freeBlocks next area).length + v.length = (fs.freeBlocks device area).length
  keeps : Keeps device next fs.OffBitmap

variable {self} {area : Nat}

section Alloc

variable {device : BlockDevice} (laid : self.DataArea area device.blocks)

include laid

theorem allocData_spec (free : self.freeBlocks device area ≠ []) :
    ∃ bit, self.allocData device =
        .ok (UInt32.ofNat bit + self.dataAreaStartBlock, self.dataBitmap.setBit device bit) ∧
      bit < area ∧ self.dataBitmap.isSet device bit = false ∧
      (UInt32.ofNat bit + self.dataAreaStartBlock).toNat = bit + self.dataAreaStartBlock.toNat := by
  obtain ⟨clearBit, member⟩ := List.exists_mem_of_ne_nil _ free
  obtain ⟨belowArea, clear⟩ := Bitmap.mem_clearBits.mp member
  obtain ⟨found, call, first⟩ := self.dataBitmap.alloc_spec device (by
    have := laid.bitmapBelow
    have := laid.inside
    omega)
  cases found with
  | none =>
      have full : self.dataBitmap.isSet device clearBit = true :=
        first clearBit (Nat.lt_of_lt_of_le belowArea laid.covered)
      rw [full] at clear
      cases clear
  | some bit =>
      obtain ⟨-, bitClear, least⟩ := first
      have early : bit ≤ clearBit := by
        by_contra later
        rw [least clearBit (by omega)] at clear
        cases clear
      have numbered := laid.numbered
      refine ⟨bit, ?_, by omega, bitClear, ?_⟩
      · rw [allocData, allocBit, call]
        rfl
      · rw [UInt32.toNat_add, UInt32.toNat_ofNat']
        omega

theorem setBit_keeps (bit : Nat) (below : bit < area) :
    Keeps device (self.dataBitmap.setBit device bit) self.OffBitmap := by
  apply (self.dataBitmap.setBit_changes device bit).keeps
  have inBitmap := laid.bitBlock_lt below
  unfold OffBitmap
  generalize bit / blockBits = bitBlock at inBitmap ⊢
  omega

end Alloc

/-- `count` calls of `alloc_data` in a row, as `Inode::increase_size` makes them, while the data
area has at least `count` free blocks. -/
theorem allocDataBlocks_spec (count : Nat) :
    ∀ device : BlockDevice, self.DataArea area device.blocks →
      count ≤ (self.freeBlocks device area).length →
      ∃ v next, Inode.allocDataBlocks self device count = .ok (v, next) ∧ v.length = count ∧
        self.Allocated area device v next := by
  induction count with
  | zero =>
      intro device _ _
      exact ⟨[], device, rfl, rfl, ⟨List.nodup_nil, by simp, by simp, by simp, fun _ set => set,
        by simp, Keeps.refl _ _⟩⟩
  | succ count ih =>
      intro device laid enough
      obtain ⟨bit, call, below, clear, number⟩ :=
        allocData_spec laid (List.ne_nil_of_length_pos (by omega))
      have fewer := Bitmap.length_clearBits_setBit clear below
      have laid' : self.DataArea area (self.dataBitmap.setBit device bit).blocks := laid
      obtain ⟨v, next, rest, length, allocated⟩ :=
        ih (self.dataBitmap.setBit device bit) laid' (by unfold freeBlocks at *; omega)
      have setNow : self.dataBitmap.isSet (self.dataBitmap.setBit device bit) bit = true := by
        rw [Bitmap.isSet_setBit]
        simp
      have offset : (UInt32.ofNat bit + self.dataAreaStartBlock).toNat -
          self.dataAreaStartBlock.toNat = bit := by
        omega
      refine ⟨(UInt32.ofNat bit + self.dataAreaStartBlock) :: v, next, ?_, by rw [List.length_cons, length],
        ⟨?_, ?_, ?_, ?_, ?_, ?_, ?_⟩⟩
      · rw [Inode.allocDataBlocks, call, ok_bind]
        dsimp only
        rw [rest, ok_bind]
        rfl
      · refine List.nodup_cons.mpr ⟨fun member => ?_, allocated.nodup⟩
        have later := allocated.wasFree _ member
        rw [offset, setNow] at later
        cases later
      · intro block member
        rcases List.mem_cons.mp member with rfl | later
        · omega
        · exact allocated.inArea block later
      · intro block member
        rcases List.mem_cons.mp member with rfl | later
        · rw [offset]
          exact clear
        · have was := allocated.wasFree block later
          rw [Bitmap.isSet_setBit, Bool.or_eq_false_iff] at was
          exact was.1
      · intro block member
        rcases List.mem_cons.mp member with rfl | later
        · rw [offset]
          exact allocated.stillSet bit setNow
        · exact allocated.nowSet block later
      · intro other set
        apply allocated.stillSet
        rw [Bitmap.isSet_setBit, set, Bool.true_or]
      · have counted := allocated.counted
        unfold freeBlocks at counted fewer ⊢
        rw [List.length_cons]
        omega
      · exact (setBit_keeps laid bit below).trans allocated.keeps

/-- The layout `create` makes has the geometry `alloc_data` rests on, as long as
`total_blocks + 4096` does not wrap in the sizing of the data bitmap. -/
theorem layout_dataArea {totalBlocks inodeBitmapBlocks : UInt32} {blocks : Nat}
    (admits : Admits totalBlocks inodeBitmapBlocks) (fits : totalBlocks.toNat ≤ blocks)
    (unwrapped : totalBlocks.toNat + 4096 < 2 ^ 32) :
    (layout totalBlocks inodeBitmapBlocks).DataArea
      (regions totalBlocks inodeBitmapBlocks).dataAreaBlocks.toNat blocks := by
  obtain ⟨inodeTotal, dataTotal, bitmapBlocks, dataArea, spare⟩ := regions_toNat admits
  obtain ⟨-, bitmapStart, dataStart⟩ := starts_toNat admits
  have room : 1 + inodeBitmapBlocks.toNat +
      (regions totalBlocks inodeBitmapBlocks).inodeAreaBlocks.toNat < totalBlocks.toNat := admits
  have dataBitmapBlocks : (layout totalBlocks inodeBitmapBlocks).dataBitmap.blocks =
      (regions totalBlocks inodeBitmapBlocks).dataBitmapBlocks.toNat := rfl
  rw [Nat.mod_eq_of_lt (by omega)] at bitmapBlocks
  refine ⟨?_, ?_, ?_, ?_⟩
  · rw [bitmapStart, dataStart, dataBitmapBlocks]
  · rw [Bitmap.maximum, dataBitmapBlocks, blockBits_eq]
    omega
  · rw [dataStart]
    omega
  · rw [dataStart]
    omega

section Dealloc

variable {device : BlockDevice} (laid : self.DataArea area device.blocks)

include laid

theorem isSet_zeroBlock {blockId : Nat} (inData : self.dataAreaStartBlock.toNat ≤ blockId) {bit : Nat}
    (below : bit < area) :
    self.dataBitmap.isSet (device.zeroBlock blockId) bit = self.dataBitmap.isSet device bit := by
  apply self.dataBitmap.isSet_changes device BlockDevice.zeroBlock_changes
  have inBitmap := laid.bitBlock_lt below
  have := laid.bitmapBelow
  generalize bit / blockBits = bitBlock at inBitmap ⊢
  omega

theorem deallocData_spec {block : UInt32}
    (inArea : self.dataAreaStartBlock.toNat ≤ block.toNat ∧
      block.toNat < self.dataAreaStartBlock.toNat + area)
    (set : self.dataBitmap.isSet device (block.toNat - self.dataAreaStartBlock.toNat) = true) :
    self.deallocData device block = .ok (self.dataBitmap.clearBit (device.zeroBlock block.toNat)
      (block.toNat - self.dataAreaStartBlock.toNat)) := by
  have inside : block.toNat < device.blocks := by
    have := laid.inside
    omega
  have bit : (block - self.dataAreaStartBlock).toNat = block.toNat - self.dataAreaStartBlock.toNat :=
    UInt32.toNat_sub_of_le _ _ (UInt32.le_iff_toNat_le.mpr inArea.1)
  have inBitmap := laid.bitBlock_lt (show block.toNat - self.dataAreaStartBlock.toNat < area by omega)
  have inBlock : (block.toNat - self.dataAreaStartBlock.toNat) / blockBits +
      self.dataBitmap.startBlockId < device.blocks := by
    have := laid.bitmapBelow
    omega
  rw [deallocData, BlockDevice.getBlockCache_bind _ inside, bit]
  refine (self.dataBitmap.dealloc_eq_ok _).mpr ⟨inBlock, ?_, rfl⟩
  rw [isSet_zeroBlock laid inArea.1 (by omega)]
  exact set

end Dealloc

/-- What `dealloc_data` of the blocks `v` leaves: their bits are clear and their bytes zero,
every other bit below `area` is as it was, the free blocks are more by the blocks handed back,
and every block off the bitmap and outside `v` is as it was. -/
structure Freed (fs : EasyFileSystem) (area : Nat) (device : BlockDevice) (v : List UInt32)
    (next : BlockDevice) : Prop where
  nowClear : ∀ block ∈ v,
    fs.dataBitmap.isSet next (block.toNat - fs.dataAreaStartBlock.toNat) = false
  zeroed : ∀ block ∈ v, ∀ offset < blockSz, next.bytes (BlockDevice.address block.toNat offset) = 0
  others : ∀ bit < area, (∀ block ∈ v, bit ≠ block.toNat - fs.dataAreaStartBlock.toNat) →
    fs.dataBitmap.isSet next bit = fs.dataBitmap.isSet device bit
  counted : (fs.freeBlocks next area).length = (fs.freeBlocks device area).length + v.length
  keeps : Keeps device next fun blockId => fs.OffBitmap blockId ∧ ∀ block ∈ v, blockId ≠ block.toNat

theorem deallocDataBlocks_spec (v : List UInt32) :
    ∀ device : BlockDevice, self.DataArea area device.blocks → v.Nodup →
      (∀ block ∈ v, self.dataAreaStartBlock.toNat ≤ block.toNat ∧
        block.toNat < self.dataAreaStartBlock.toNat + area) →
      (∀ block ∈ v, self.dataBitmap.isSet device (block.toNat - self.dataAreaStartBlock.toNat) = true) →
      ∃ next, Inode.deallocDataBlocks self device v = .ok next ∧ self.Freed area device v next := by
  induction v with
  | nil =>
      intro device _ _ _ _
      exact ⟨device, rfl, ⟨by simp, by simp, fun _ _ _ => rfl, by simp, Keeps.refl _ _⟩⟩
  | cons block rest ih =>
      intro device laid nodup inArea marked
      obtain ⟨fresh, distinct⟩ := List.nodup_cons.mp nodup
      have here := inArea block List.mem_cons_self
      have below : block.toNat - self.dataAreaStartBlock.toNat < area := by omega
      have set1 : self.dataBitmap.isSet (device.zeroBlock block.toNat)
          (block.toNat - self.dataAreaStartBlock.toNat) = true := by
        rw [isSet_zeroBlock laid here.1 below]
        exact marked block List.mem_cons_self
      have bits1 : ∀ bit < area, self.dataBitmap.isSet (self.dataBitmap.clearBit
          (device.zeroBlock block.toNat) (block.toNat - self.dataAreaStartBlock.toNat)) bit =
          (self.dataBitmap.isSet device bit &&
            !decide (bit = block.toNat - self.dataAreaStartBlock.toNat)) := fun bit inside => by
        rw [Bitmap.isSet_clearBit _ _ set1, isSet_zeroBlock laid here.1 inside]
      have apart : ∀ other ∈ rest,
          other.toNat - self.dataAreaStartBlock.toNat ≠ block.toNat - self.dataAreaStartBlock.toNat :=
        fun other member same => by
          have there := inArea other (List.mem_cons_of_mem _ member)
          have equal : other.toNat = block.toNat := by omega
          exact fresh (UInt32.toNat_inj.mp equal ▸ member)
      obtain ⟨next, loop, freed⟩ := ih (self.dataBitmap.clearBit (device.zeroBlock block.toNat)
          (block.toNat - self.dataAreaStartBlock.toNat)) laid distinct
        (fun other member => inArea other (List.mem_cons_of_mem _ member))
        (fun other member => by
          have there := inArea other (List.mem_cons_of_mem _ member)
          rw [bits1 _ (by omega), marked other (List.mem_cons_of_mem _ member),
            decide_eq_false (apart other member)]
          rfl)
      have offBitmap : self.OffBitmap block.toNat := by
        have := laid.bitmapBelow
        unfold OffBitmap
        omega
      have cleared : BlockDevice.Changes (device.zeroBlock block.toNat) (self.dataBitmap.clearBit
          (device.zeroBlock block.toNat) (block.toNat - self.dataAreaStartBlock.toNat))
          ((block.toNat - self.dataAreaStartBlock.toNat) / blockBits + self.dataBitmap.startBlockId) :=
        self.dataBitmap.clearBit_changes _ _
      have notBitmap := laid.bitBlock_lt below
      refine ⟨next, ?_, ⟨?_, ?_, ?_, ?_, ?_⟩⟩
      · rw [Inode.deallocDataBlocks, deallocData_spec laid here (marked block List.mem_cons_self),
          ok_bind]
        exact loop
      · intro other member
        rcases List.mem_cons.mp member with rfl | later
        · rw [freed.others _ below fun later member => (apart later member).symm, bits1 _ below]
          simp
        · exact freed.nowClear other later
      · intro other member offset inside
        rcases List.mem_cons.mp member with rfl | later
        · rw [freed.keeps.2 _ (by
            rw [BlockDevice.address_div _ inside]
            exact ⟨offBitmap, fun later member same => fresh (UInt32.toNat_inj.mp same ▸ member)⟩)]
          rw [cleared.2 _ (by
            have := laid.bitmapBelow
            unfold BlockDevice.address blockSz at *
            generalize (other.toNat - self.dataAreaStartBlock.toNat) / blockBits = bitBlock at *
            omega)]
          exact BlockDevice.bytes_zeroBlock_same _ _ inside
        · exact freed.zeroed other later offset inside
      · intro bit inside away
        rw [freed.others bit inside fun other member => away other (List.mem_cons_of_mem _ member),
          bits1 bit inside, decide_eq_false (away block List.mem_cons_self)]
        simp
      · have counted := freed.counted
        have more := Bitmap.length_clearBits_clearBit set1 below
        have zeroed : self.dataBitmap.clearBits (device.zeroBlock block.toNat) area =
            self.dataBitmap.clearBits device area := by
          unfold Bitmap.clearBits
          apply List.filter_congr
          intro bit member
          rw [isSet_zeroBlock laid here.1 (List.mem_range.mp member)]
        unfold freeBlocks at counted ⊢
        rw [zeroed] at more
        rw [counted, more, List.length_cons]
        omega
      · refine ((BlockDevice.zeroBlock_changes.keeps fun kept => ?_).trans
          (cleared.keeps fun kept => ?_)).trans (freed.keeps.mono fun blockId kept =>
            ⟨kept.1, fun other member => kept.2 other (List.mem_cons_of_mem _ member)⟩)
        · exact kept.2 block List.mem_cons_self rfl
        · have := kept.1
          unfold OffBitmap at this
          generalize (block.toNat - self.dataAreaStartBlock.toNat) / blockBits = bitBlock at *
          omega

end EasyFileSystem

end EasyFs

end ChOs
