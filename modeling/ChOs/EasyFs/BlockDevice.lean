import ChOs.Library.ByteMemory
import ChOs.Panic

set_option autoImplicit false

/- The block device under `easy-fs`, as the block cache presents it. -/

namespace ChOs

namespace EasyFs

/-- `BLOCK_SZ`. -/
def blockSz : Nat := 512

structure BlockDevice where
  bytes : Nat → UInt8
  /-- The number of blocks of the image. -/
  blocks : Nat

/-- The panic of `BlockFile::read_block` past the end of the image, where `read` returns
no byte. -/
def notCompleteBlock : String := assertEqFailed 0 blockSz ++ ": Not a complete block!"

namespace BlockDevice

/-- The address of byte `offset` of block `blockId`. -/
def address (blockId offset : Nat) : Nat := blockSz * blockId + offset

/-- `get_block_cache(block_id, ..)`: the block is read from the image unless it is
cached, and only blocks of the image are ever cached. -/
def getBlockCache (device : BlockDevice) (blockId : Nat) : Except String Unit :=
  if blockId < device.blocks then .ok () else .error notCompleteBlock

/-- The little-endian field of `width` bytes at `offset` of a block. -/
def readField (device : BlockDevice) (blockId offset width : Nat) : Nat :=
  ByteMemory.readLE device.bytes (address blockId offset) width

/-- A closure of `modify` that stores a little-endian field. -/
def writeField (device : BlockDevice) (blockId offset width value : Nat) : BlockDevice :=
  { device with bytes := ByteMemory.writeLE device.bytes (address blockId offset) width value }

/-- The closure of `create` and `dealloc_data` that sets every byte of a block to 0. -/
def zeroBlock (device : BlockDevice) (blockId : Nat) : BlockDevice :=
  { device with
    bytes := ByteMemory.writeBytes device.bytes (address blockId 0) (List.replicate blockSz 0) }

/-- The device with blocks `0..count` zeroed, as the first loop of `create` leaves it. -/
def zeroPrefix (device : BlockDevice) (count : Nat) : BlockDevice :=
  { device with bytes := fun target => if target < address count 0 then 0 else device.bytes target }

/-- `next` has the blocks of `device` and differs from it only inside block `blockId`. -/
def Changes (device next : BlockDevice) (blockId : Nat) : Prop :=
  next.blocks = device.blocks ∧
    ∀ target, target < address blockId 0 ∨ address blockId 0 + blockSz ≤ target →
      next.bytes target = device.bytes target

/-- `next` has the blocks of `device` and the bytes of every block that `kept` holds of: the
frame of a run of stores, none of which goes to such a block. -/
def Keeps (device next : BlockDevice) (kept : Nat → Prop) : Prop :=
  next.blocks = device.blocks ∧
    ∀ target, kept (target / blockSz) → next.bytes target = device.bytes target

variable (device : BlockDevice)

theorem getBlockCache_eq_ok {blockId : Nat} {done : Unit} :
    device.getBlockCache blockId = .ok done ↔ blockId < device.blocks := by
  unfold getBlockCache
  split
  · rename_i inside
    exact ⟨fun _ => inside, fun _ => rfl⟩
  · rename_i outside
    exact ⟨fun impossible => (by cases impossible), fun inside => absurd inside outside⟩

theorem getBlockCache_bind {α : Type} {blockId : Nat} (inside : blockId < device.blocks)
    (rest : Unit → Except String α) : (device.getBlockCache blockId >>= rest) = rest () := by
  rw [getBlockCache, if_pos inside]
  rfl

@[simp] theorem blocks_writeField (blockId offset width value : Nat) :
    (device.writeField blockId offset width value).blocks = device.blocks := rfl

@[simp] theorem blocks_zeroBlock (blockId : Nat) : (device.zeroBlock blockId).blocks = device.blocks :=
  rfl

/-- Two fields of the device that share no byte. -/
def Apart (blockId offset width other otherOffset otherWidth : Nat) : Prop :=
  address blockId offset + width ≤ address other otherOffset ∨
    address other otherOffset + otherWidth ≤ address blockId offset

theorem readField_writeField (blockId offset width value : Nat) :
    (device.writeField blockId offset width value).readField blockId offset width =
      value % 256 ^ width :=
  ByteMemory.readLE_writeLE _ _ _ _

theorem readField_writeField_apart {blockId offset width other otherOffset otherWidth : Nat}
    (value : Nat) (apart : Apart blockId offset width other otherOffset otherWidth) :
    (device.writeField blockId offset width value).readField other otherOffset otherWidth =
      device.readField other otherOffset otherWidth :=
  ByteMemory.readLE_writeLE_disjoint _ _ _ _ _ _ apart

theorem writeField_writeField (blockId offset width first second : Nat) :
    (device.writeField blockId offset width first).writeField blockId offset width second =
      device.writeField blockId offset width second := by
  simp only [writeField, ByteMemory.writeLE_writeLE]

theorem writeField_readField (blockId offset width : Nat) :
    device.writeField blockId offset width (device.readField blockId offset width) = device := by
  simp only [writeField, readField, ByteMemory.writeLE_readLE]

theorem address_div (blockId : Nat) {offset : Nat} (inside : offset < blockSz) :
    address blockId offset / blockSz = blockId := by
  unfold address blockSz at *
  omega

theorem bytes_zeroBlock_same (blockId : Nat) {offset : Nat} (inside : offset < blockSz) :
    (device.zeroBlock blockId).bytes (address blockId offset) = 0 := by
  have within : address blockId offset = address blockId 0 + offset := by
    unfold address
    omega
  dsimp only [zeroBlock]
  rw [within, ByteMemory.writeBytes_inside _ _ _ _ (by simp only [List.length_replicate]; exact inside),
    List.getElem_replicate]

theorem readField_zeroPrefix_below {blockId count : Nat} (offset width : Nat) (below : blockId < count)
    (inside : offset + width ≤ blockSz) : (device.zeroPrefix count).readField blockId offset width = 0 := by
  apply ByteMemory.readLE_eq_zero
  intro index within
  have early : address blockId offset + index < address count 0 := by
    unfold address blockSz at *
    have := Nat.mul_le_mul_left 512 (Nat.succ_le_of_lt below)
    omega
  exact if_pos early

section Changes

variable {device} {next : BlockDevice} {blockId : Nat}

theorem Changes.readField (changes : Changes device next blockId) {other : Nat} (differ : other ≠ blockId)
    (offset width : Nat) (inside : offset + width ≤ blockSz) :
    next.readField other offset width = device.readField other offset width := by
  apply ByteMemory.readLE_congr
  intro index within
  apply changes.2
  unfold address blockSz at *
  rcases Nat.lt_or_gt_of_ne differ with below | above
  · left
    have := Nat.mul_le_mul_left 512 (Nat.succ_le_of_lt below)
    omega
  · right
    have := Nat.mul_le_mul_left 512 (Nat.succ_le_of_lt above)
    omega

theorem Changes.trans {last : BlockDevice} (first : Changes device next blockId)
    (second : Changes next last blockId) : Changes device last blockId :=
  ⟨second.1.trans first.1, fun target outside => (second.2 target outside).trans (first.2 target outside)⟩

theorem writeField_changes {offset width : Nat} (value : Nat) (inside : offset + width ≤ blockSz) :
    Changes device (device.writeField blockId offset width value) blockId := by
  refine ⟨rfl, fun target outside => ByteMemory.writeLE_outside _ _ _ _ _ ?_⟩
  unfold address at *
  omega

theorem writeBytes_changes {offset : Nat} {src : List UInt8} (inside : offset + src.length ≤ blockSz) :
    Changes device
      { device with bytes := ByteMemory.writeBytes device.bytes (address blockId offset) src }
      blockId := by
  refine ⟨rfl, fun target outside => ByteMemory.writeBytes_outside _ _ _ _ ?_⟩
  unfold address at *
  omega

theorem zeroBlock_changes : Changes device (device.zeroBlock blockId) blockId :=
  writeBytes_changes (by simp)

end Changes

section Keeps

variable {device next last : BlockDevice} {kept : Nat → Prop}

theorem Keeps.refl (device : BlockDevice) (kept : Nat → Prop) : Keeps device device kept :=
  ⟨rfl, fun _ _ => rfl⟩

theorem Keeps.trans (first : Keeps device next kept) (second : Keeps next last kept) :
    Keeps device last kept :=
  ⟨second.1.trans first.1, fun target held => (second.2 target held).trans (first.2 target held)⟩

theorem Keeps.mono {fewer : Nat → Prop} (keeps : Keeps device next kept)
    (within : ∀ blockId, fewer blockId → kept blockId) : Keeps device next fewer :=
  ⟨keeps.1, fun target held => keeps.2 target (within _ held)⟩

theorem Changes.keeps {blockId : Nat} (changes : Changes device next blockId)
    (free : ¬kept blockId) : Keeps device next kept := by
  refine ⟨changes.1, fun target held => changes.2 target ?_⟩
  have differ : target / blockSz ≠ blockId := fun same => free (same ▸ held)
  unfold address blockSz at *
  omega

theorem Keeps.readField (keeps : Keeps device next kept) {blockId : Nat} (held : kept blockId)
    (offset width : Nat) (inside : offset + width ≤ blockSz) :
    next.readField blockId offset width = device.readField blockId offset width := by
  apply ByteMemory.readLE_congr
  intro index within
  apply keeps.2
  have sameBlock : (address blockId offset + index) / blockSz = blockId := by
    unfold address blockSz at *
    omega
  rwa [sameBlock]

end Keeps

end BlockDevice

end EasyFs

end ChOs
