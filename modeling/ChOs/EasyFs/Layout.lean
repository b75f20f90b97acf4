import ChOs.EasyFs.BlockDevice
import Mathlib.Data.Vector.Basic

set_option autoImplicit false

/- The on-disk structures of `easy-fs` (`easy-fs/src/layout.rs`) and their layouts. -/

namespace ChOs

namespace EasyFs

/-- `EFS_MAGIC`. -/
def efsMagic : UInt32 := 0x3b800001

/-- `INODE_DIRECT_COUNT`. -/
def inodeDirectCount : Nat := 28

/-- `INODE_INDIRECT1_COUNT`. -/
def inodeIndirect1Count : Nat := blockSz / 4

/-- `INODE_INDIRECT2_COUNT`. -/
def inodeIndirect2Count : Nat := inodeIndirect1Count * inodeIndirect1Count

/-- `DIRECT_BOUND`. -/
def directBound : Nat := inodeDirectCount

/-- `INDIRECT1_BOUND`. -/
def indirect1Bound : Nat := directBound + inodeIndirect1Count

/-- `core::mem::size_of::<DiskInode>()`: 125 bytes of fields, padded to the alignment of
`u32`. -/
def diskInodeSize : Nat := 128

structure SuperBlock where
  magic : UInt32
  totalBlocks : UInt32
  inodeBitmapBlocks : UInt32
  inodeAreaBlocks : UInt32
  dataBitmapBlocks : UInt32
  dataAreaBlocks : UInt32
  deriving DecidableEq, Repr

namespace SuperBlock

/-- `SuperBlock::initialize`, which overwrites every field. -/
def init (totalBlocks inodeBitmapBlocks inodeAreaBlocks dataBitmapBlocks
    dataAreaBlocks : UInt32) : SuperBlock :=
  ⟨efsMagic, totalBlocks, inodeBitmapBlocks, inodeAreaBlocks, dataBitmapBlocks, dataAreaBlocks⟩

def isValid (self : SuperBlock) : Bool := self.magic == efsMagic

/-- The fields in their `#[repr(C)]` order. -/
def fields (self : SuperBlock) : List Nat :=
  [self.magic.toNat, self.totalBlocks.toNat, self.inodeBitmapBlocks.toNat,
    self.inodeAreaBlocks.toNat, self.dataBitmapBlocks.toNat, self.dataAreaBlocks.toNat]

end SuperBlock

/-- The `u32` field `index` of a structure at byte `offset` of block `blockId`. -/
def readWord (device : BlockDevice) (blockId offset index : Nat) : UInt32 :=
  .ofNat (device.readField blockId (offset + 4 * index) 4)

/-- A closure of `modify` that stores consecutive `u32` fields from `offset`. -/
def storeWords (device : BlockDevice) (blockId offset : Nat) (words : List Nat) : BlockDevice :=
  { device with
    bytes := ByteMemory.writeWords device.bytes (BlockDevice.address blockId offset) 4 words }

/-- The super block at the start of block `blockId`. -/
def readSuperBlock (device : BlockDevice) (blockId : Nat) : SuperBlock :=
  let word := readWord device blockId 0
  ⟨word 0, word 1, word 2, word 3, word 4, word 5⟩

def writeSuperBlock (device : BlockDevice) (blockId : Nat) (superBlock : SuperBlock) :
    BlockDevice :=
  storeWords device blockId 0 superBlock.fields

inductive DiskInodeType
  | file
  | directory
  deriving DecidableEq, Repr

namespace DiskInodeType

/-- The byte of a `DiskInodeType` field: its discriminant. -/
def byte : DiskInodeType → UInt8
  | .file => 0
  | .directory => 1

/-- The type a byte holds; only the two discriminants are ever written. -/
def ofByte (byte : UInt8) : DiskInodeType := if byte = 1 then .directory else .file

@[simp] theorem ofByte_byte (type_ : DiskInodeType) : ofByte type_.byte = type_ := by
  cases type_ <;> rfl

end DiskInodeType

structure DiskInode where
  size : UInt32
  direct : Vector UInt32 inodeDirectCount
  indirect1 : UInt32
  indirect2 : UInt32
  type_ : DiskInodeType
  deriving DecidableEq, Repr

namespace DiskInode

/-- The 31 `u32` fields in their `#[repr(C)]` order. -/
def words (self : DiskInode) : List Nat :=
  self.size.toNat :: (self.direct.toList.map UInt32.toNat ++
    [self.indirect1.toNat, self.indirect2.toNat])

/-- `DiskInode::initialize`. -/
def init (self : DiskInode) (type_ : DiskInodeType) : DiskInode :=
  { self with
    size := 0
    direct := Vector.replicate inodeDirectCount 0
    indirect1 := 0
    indirect2 := 0
    type_ := type_ }

def isDir (self : DiskInode) : Bool := self.type_ == .directory

theorem length_words (self : DiskInode) : self.words.length = 31 := by
  simp only [words, List.length_append, List.length_cons, List.length_map, Vector.length_toList,
    List.length_nil]
  rfl

theorem words_lt (self : DiskInode) : ∀ word ∈ self.words, word < 2 ^ 32 := by
  intro word member
  simp only [words, List.mem_cons, List.mem_append, List.mem_map,
    List.not_mem_nil, or_false] at member
  rcases member with same | ⟨entry, _, same⟩ | same | same
  · rw [same]
    exact UInt32.toNat_lt _
  · rw [← same]
    exact UInt32.toNat_lt _
  · rw [same]
    exact UInt32.toNat_lt _
  · rw [same]
    exact UInt32.toNat_lt _

end DiskInode

/-- The disk inode at byte `offset` of block `blockId`. -/
def readDiskInode (device : BlockDevice) (blockId offset : Nat) : DiskInode :=
  let word := readWord device blockId offset
  { size := word 0
    direct := Vector.ofFn fun index => word (index + 1)
    indirect1 := word 29
    indirect2 := word 30
    type_ := .ofByte (device.bytes (BlockDevice.address blockId (offset + 124))) }

def writeDiskInode (device : BlockDevice) (blockId offset : Nat) (inode : DiskInode) :
    BlockDevice :=
  let device := storeWords device blockId offset inode.words
  { device with
    bytes := Function.update device.bytes (BlockDevice.address blockId (offset + 124))
      inode.type_.byte }

section RoundTrip

variable (device : BlockDevice) (blockId : Nat)

theorem readWord_storeWords (offset : Nat) (words : List Nat) (index : Nat)
    (inside : index < words.length) (fits : words[index] < 2 ^ 32) :
    readWord (storeWords device blockId offset words) blockId offset index = .ofNat words[index] := by
  have shifted : BlockDevice.address blockId (offset + 4 * index) =
      BlockDevice.address blockId offset + 4 * index := by
    unfold BlockDevice.address
    omega
  have bounded : words[index] < 256 ^ 4 := by
    rw [show (256 : Nat) ^ 4 = 2 ^ 32 from rfl]
    exact fits
  rw [readWord, BlockDevice.readField, shifted, storeWords,
    ByteMemory.readLE_writeWords _ _ _ _ _ inside, Nat.mod_eq_of_lt bounded]

theorem readSuperBlock_writeSuperBlock (superBlock : SuperBlock) :
    readSuperBlock (writeSuperBlock device blockId superBlock) blockId = superBlock := by
  have field : ∀ index (inside : index < superBlock.fields.length),
      readWord (writeSuperBlock device blockId superBlock) blockId 0 index =
        .ofNat superBlock.fields[index] := fun index inside =>
    readWord_storeWords device blockId 0 superBlock.fields index inside (by
      simp only [SuperBlock.fields, List.length_cons, List.length_nil] at inside
      match index, inside with
      | 0, _ | 1, _ | 2, _ | 3, _ | 4, _ | 5, _ => exact UInt32.toNat_lt _)
  have six : superBlock.fields.length = 6 := rfl
  rw [readSuperBlock, field 0 (by rw [six]; decide), field 1 (by rw [six]; decide),
    field 2 (by rw [six]; decide), field 3 (by rw [six]; decide), field 4 (by rw [six]; decide),
    field 5 (by rw [six]; decide)]
  simp only [SuperBlock.fields, List.getElem_cons_zero, List.getElem_cons_succ,
    UInt32.ofNat_toNat]

theorem readDiskInode_writeDiskInode (offset : Nat) (inode : DiskInode) :
    readDiskInode (writeDiskInode device blockId offset inode) blockId offset = inode := by
  have field : ∀ index (inside : index < inode.words.length),
      readWord (writeDiskInode device blockId offset inode) blockId offset index =
        .ofNat inode.words[index] := fun index inside => by
    rw [← readWord_storeWords device blockId offset inode.words index inside
      (inode.words_lt _ (List.getElem_mem inside))]
    unfold readWord BlockDevice.readField
    congr 1
    apply ByteMemory.readLE_congr
    intro byte within
    apply Function.update_of_ne
    rw [inode.length_words] at inside
    unfold BlockDevice.address
    omega
  have direct : (Vector.ofFn fun index : Fin inodeDirectCount =>
      readWord (writeDiskInode device blockId offset inode) blockId offset (index + 1)) =
        inode.direct := by
    apply Vector.ext
    intro index below
    rw [Vector.getElem_ofFn, field (index + 1)
      (by rw [inode.length_words]; unfold inodeDirectCount at below; omega)]
    simp [DiskInode.words, List.getElem_append_left, Vector.length_toList, below]
  have type_ : (writeDiskInode device blockId offset inode).bytes
      (BlockDevice.address blockId (offset + 124)) = inode.type_.byte := Function.update_self ..
  rw [readDiskInode, field 0 (by rw [inode.length_words]; decide),
    field 29 (by rw [inode.length_words]; decide), field 30 (by rw [inode.length_words]; decide),
    direct, type_, DiskInodeType.ofByte_byte]
  simp only [DiskInode.words, List.getElem_cons_succ, List.getElem_append, Vector.length_toList,
    List.length_map]
  simp [inodeDirectCount]

end RoundTrip

section Frame

variable {device next : BlockDevice} {blockId : Nat}

theorem storeWords_changes {offset : Nat} {words : List Nat}
    (inside : offset + 4 * words.length ≤ blockSz) :
    BlockDevice.Changes device (storeWords device blockId offset words) blockId := by
  refine ⟨rfl, fun target outside => ByteMemory.writeWords_outside _ _ _ _ _ ?_⟩
  unfold BlockDevice.address at *
  omega

theorem writeSuperBlock_changes (superBlock : SuperBlock) :
    BlockDevice.Changes device (writeSuperBlock device blockId superBlock) blockId := by
  apply storeWords_changes
  simp [SuperBlock.fields, blockSz]

theorem writeDiskInode_changes {offset : Nat} (inode : DiskInode)
    (inside : offset + diskInodeSize ≤ blockSz) :
    BlockDevice.Changes device (writeDiskInode device blockId offset inode) blockId := by
  have words : BlockDevice.Changes device (storeWords device blockId offset inode.words) blockId :=
    storeWords_changes (by rw [inode.length_words]; unfold diskInodeSize at inside; omega)
  refine ⟨rfl, fun target outside => ?_⟩
  rw [writeDiskInode]
  dsimp only
  rw [Function.update_of_ne (by unfold BlockDevice.address diskInodeSize at *; omega)]
  exact words.2 target outside

theorem readSuperBlock_changes (changes : BlockDevice.Changes device next blockId) {other : Nat}
    (differ : other ≠ blockId) : readSuperBlock next other = readSuperBlock device other := by
  have word : ∀ index, index < 6 → readWord next other 0 index = readWord device other 0 index :=
    fun index below => by
      rw [readWord, readWord, changes.readField differ _ _ (by unfold blockSz; omega)]
  rw [readSuperBlock, readSuperBlock, word 0 (by decide), word 1 (by decide), word 2 (by decide),
    word 3 (by decide), word 4 (by decide), word 5 (by decide)]

end Frame

end EasyFs

end ChOs
