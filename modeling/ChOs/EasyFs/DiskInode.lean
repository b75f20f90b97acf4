import ChOs.EasyFs.Layout

set_option autoImplicit false

/- The index of a disk inode and the byte loops over it (`easy-fs/src/layout.rs`). -/

namespace ChOs

namespace EasyFs

/-- `IndirectBlock[index]`: entry `index` of an index block, an array of
`INODE_INDIRECT1_COUNT` words. -/
def indirectEntry (device : BlockDevice) (blockId index : Nat) : Except String UInt32 :=
  if index < inodeIndirect1Count then .ok (readWord device blockId 0 index)
  else .error (indexOutOfBounds inodeIndirect1Count index)

/-- `IndirectBlock[index] = value`, in a closure of `modify`. -/
def setIndirectEntry (device : BlockDevice) (blockId index : Nat) (value : UInt32) :
    Except String BlockDevice :=
  if index < inodeIndirect1Count then .ok (device.writeField blockId (4 * index) 4 value.toNat)
  else .error (indexOutOfBounds inodeIndirect1Count index)

/-- `new_blocks.next().unwrap()`. -/
def nextBlock : List UInt32 → Except String (UInt32 × List UInt32)
  | [] => .error unwrapNone
  | block :: rest => .ok (block, rest)

namespace DiskInode

/-- `DiskInode::_data_blocks`, in `u32` arithmetic. -/
def dataBlocksOf (size : UInt32) : UInt32 :=
  (size + UInt32.ofNat blockSz - 1) / UInt32.ofNat blockSz

/-- `DiskInode::data_blocks`. -/
def dataBlocks (self : DiskInode) : UInt32 := dataBlocksOf self.size

/-- `DiskInode::total_blocks`: the data blocks of a file of `size` bytes and the index blocks
that name them. -/
def totalBlocks (size : UInt32) : UInt32 :=
  let dataBlocks := (dataBlocksOf size).toNat
  let total := dataBlocks
  let total := if dataBlocks > inodeDirectCount then total + 1 else total
  let total := if dataBlocks > indirect1Bound then
      total + 1 + (dataBlocks - indirect1Bound + inodeIndirect1Count - 1) / inodeIndirect1Count
    else total
  UInt32.ofNat total

def blocksNumNeeded (self : DiskInode) (newSize : UInt32) : Except String UInt32 :=
  if newSize ≥ self.size then .ok (totalBlocks newSize - totalBlocks self.size)
  else .error "assertion failed: new_size >= self.size"

/-- `DiskInode::get_block_id`: the block that holds data block `inner_id` of the file. -/
def getBlockId (self : DiskInode) (innerId : UInt32) (device : BlockDevice) :
    Except String UInt32 :=
  let innerId := innerId.toNat
  if direct : innerId < inodeDirectCount then .ok self.direct[innerId]
  else if innerId < indirect1Bound then do
    device.getBlockCache self.indirect1.toNat
    indirectEntry device self.indirect1.toNat (innerId - inodeDirectCount)
  else do
    let last := innerId - indirect1Bound
    device.getBlockCache self.indirect2.toNat
    let indirect1 ← indirectEntry device self.indirect2.toNat (last / inodeIndirect1Count)
    device.getBlockCache indirect1.toNat
    indirectEntry device indirect1.toNat (last % inodeIndirect1Count)

/-- The loop `fill direct` of `increase_size`. -/
def fillDirect (self : DiskInode) (current total : Nat) (newBlocks : List UInt32) :
    Except String (DiskInode × Nat × List UInt32) :=
  if fill : current < min total inodeDirectCount then do
    let (block, newBlocks) ← nextBlock newBlocks
    fillDirect { self with direct := self.direct.set current block (by omega) } (current + 1)
      total newBlocks
  else .ok (self, current, newBlocks)
termination_by min total inodeDirectCount - current

/-- The loop `fill indirect1` of `increase_size`, in the closure that modifies the block
`indirect1`. -/
def fillIndirect1 (device : BlockDevice) (indirect1 current total : Nat)
    (newBlocks : List UInt32) : Except String (BlockDevice × Nat × List UInt32) :=
  if current < min total inodeIndirect1Count then do
    let (block, newBlocks) ← nextBlock newBlocks
    let device ← setIndirectEntry device indirect1 current block
    fillIndirect1 device indirect1 (current + 1) total newBlocks
  else .ok (device, current, newBlocks)
termination_by min total inodeIndirect1Count - current

/-- The loop `fill indirect2 from (a0, b0) -> (a1, b1)` of `increase_size`: entry `b0` of the
sub-block that entry `a0` of `indirect2` names, with a new sub-block each time `b0` is 0.
`b0` starts as a remainder and the loop resets it at `INODE_INDIRECT1_COUNT`, so it is a
`Fin`. -/
def fillIndirect2 (device : BlockDevice) (indirect2 a0 : Nat) (b0 : Fin inodeIndirect1Count)
    (a1 b1 : Nat) (newBlocks : List UInt32) : Except String (BlockDevice × List UInt32) :=
  if a0 < a1 ∨ (a0 = a1 ∧ b0.val < b1) then do
    let (device, newBlocks) ← if b0.val = 0 then do
        let (block, newBlocks) ← nextBlock newBlocks
        let device ← setIndirectEntry device indirect2 a0 block
        pure (device, newBlocks)
      else pure (device, newBlocks)
    let sub ← indirectEntry device indirect2 a0
    device.getBlockCache sub.toNat
    let (block, newBlocks) ← nextBlock newBlocks
    let device ← setIndirectEntry device sub.toNat b0 block
    if next : b0.val + 1 < inodeIndirect1Count then
      fillIndirect2 device indirect2 a0 ⟨b0.val + 1, next⟩ a1 b1 newBlocks
    else fillIndirect2 device indirect2 (a0 + 1) ⟨0, by decide⟩ a1 b1 newBlocks
  else .ok (device, newBlocks)
termination_by (a1 * inodeIndirect1Count + b1) - (a0 * inodeIndirect1Count + b0.val)
decreasing_by
  all_goals
    have := b0.isLt
    simp only [inodeIndirect1Count, blockSz] at *
    omega

/-- `DiskInode::increase_size`: the size becomes `new_size`, and `new_blocks` fill the
entries that the larger size needs. The counters are `u32` in the source; they never wrap,
as each subtraction follows a check that it does not go below 0. -/
def increaseSize (self : DiskInode) (newSize : UInt32) (newBlocks : List UInt32)
    (device : BlockDevice) : Except String (DiskInode × BlockDevice) := do
  let current := self.dataBlocks.toNat
  let self := { self with size := newSize }
  let total := self.dataBlocks.toNat
  let (self, current, newBlocks) ← fillDirect self current total newBlocks
  if total > inodeDirectCount then
    let (self, newBlocks) ← if current = inodeDirectCount then do
        let (block, newBlocks) ← nextBlock newBlocks
        pure ({ self with indirect1 := block }, newBlocks)
      else pure (self, newBlocks)
    let current := current - inodeDirectCount
    let total := total - inodeDirectCount
    device.getBlockCache self.indirect1.toNat
    let (device, current, newBlocks) ←
      fillIndirect1 device self.indirect1.toNat current total newBlocks
    if total > inodeIndirect1Count then
      let (self, newBlocks) ← if current = inodeIndirect1Count then do
          let (block, newBlocks) ← nextBlock newBlocks
          pure ({ self with indirect2 := block }, newBlocks)
        else pure (self, newBlocks)
      let current := current - inodeIndirect1Count
      let total := total - inodeIndirect1Count
      device.getBlockCache self.indirect2.toNat
      let (device, _) ← fillIndirect2 device self.indirect2.toNat
        (current / inodeIndirect1Count) ⟨current % inodeIndirect1Count, Nat.mod_lt _ (by decide)⟩
        (total / inodeIndirect1Count) (total % inodeIndirect1Count) newBlocks
      pure (self, device)
    else pure (self, device)
  else pure (self, device)

/-- The loop `direct` of `clear_size`: each direct entry is pushed to `v`, then set to 0. -/
def clearDirect (self : DiskInode) (current dataBlocks : Nat) (v : List UInt32) :
    DiskInode × List UInt32 :=
  if clear : current < min dataBlocks inodeDirectCount then
    clearDirect { self with direct := self.direct.set current 0 (by omega) } (current + 1)
      dataBlocks (v ++ [self.direct.get ⟨current, by omega⟩])
  else (self, v)
termination_by min dataBlocks inodeDirectCount - current

/-- The entries `current..count` of an index block, pushed to `v`: the loop `indirect1` of
`clear_size` and its iterations over a sub-block. -/
def collectEntries (device : BlockDevice) (blockId current count : Nat) (v : List UInt32) :
    Except String (List UInt32) :=
  if current < count then do
    let entry ← indirectEntry device blockId current
    collectEntries device blockId (current + 1) count (v ++ [entry])
  else .ok v
termination_by count - current

/-- The loop `full indirect1 blocks` of `clear_size`: each sub-block that `indirect2` names,
then all its entries. -/
def collectSubBlocks (device : BlockDevice) (indirect2 current count : Nat) (v : List UInt32) :
    Except String (List UInt32) :=
  if current < count then do
    let entry ← indirectEntry device indirect2 current
    device.getBlockCache entry.toNat
    let v ← collectEntries device entry.toNat 0 inodeIndirect1Count (v ++ [entry])
    collectSubBlocks device indirect2 (current + 1) count v
  else .ok v
termination_by count - current

/-- `DiskInode::clear_size`: the size becomes 0 and every data block and index block of the
file is returned, in the order `increase_size` handed them out. The closures of `modify` here
change no byte (the resets of the entries are commented out in the source). -/
def clearSize (self : DiskInode) (device : BlockDevice) :
    Except String (List UInt32 × DiskInode) := do
  let dataBlocks := self.dataBlocks.toNat
  let self := { self with size := 0 }
  let (self, v) := clearDirect self 0 dataBlocks []
  if dataBlocks > inodeDirectCount then
    let v := v ++ [self.indirect1]
    let dataBlocks := dataBlocks - inodeDirectCount
    device.getBlockCache self.indirect1.toNat
    let v ← collectEntries device self.indirect1.toNat 0 (min dataBlocks inodeIndirect1Count) v
    let self := { self with indirect1 := 0 }
    if dataBlocks > inodeIndirect1Count then
      let v := v ++ [self.indirect2]
      let dataBlocks := dataBlocks - inodeIndirect1Count
      if dataBlocks ≤ inodeIndirect2Count then
        let a1 := dataBlocks / inodeIndirect1Count
        let b1 := dataBlocks % inodeIndirect1Count
        device.getBlockCache self.indirect2.toNat
        let v ← collectSubBlocks device self.indirect2.toNat 0 (min a1 inodeIndirect1Count) v
        let v ← if b1 > 0 then do
            let entry ← indirectEntry device self.indirect2.toNat a1
            device.getBlockCache entry.toNat
            collectEntries device entry.toNat 0 b1 (v ++ [entry])
          else pure v
        pure (v, { self with indirect2 := 0 })
      else .error "assertion failed: data_blocks <= INODE_INDIRECT2_COUNT"
    else pure (v, self)
  else pure (v, self)

/-- The loop of `read_at` from byte `start` of the file, in its data block `start_block`,
with `read_size` bytes already copied to `buf`. -/
def readLoop (self : DiskInode) (device : BlockDevice) (start startBlock readSize end_ : Nat)
    (buf : List UInt8) : Except String (Nat × List UInt8) := do
  let endCurrentBlock := min ((start / blockSz + 1) * blockSz) end_
  let blockReadSize := endCurrentBlock - start
  let blockId ← self.getBlockId (UInt32.ofNat startBlock) device
  device.getBlockCache blockId.toNat
  let src := ByteMemory.readBytes device.bytes
    (BlockDevice.address blockId.toNat (start % blockSz)) blockReadSize
  let buf := buf.take readSize ++ src ++ buf.drop (readSize + blockReadSize)
  let readSize := readSize + blockReadSize
  if last : endCurrentBlock = end_ then .ok (readSize, buf)
  else readLoop self device endCurrentBlock (startBlock + 1) readSize end_ buf
termination_by end_ - start
decreasing_by
  have after : start < (start / blockSz + 1) * blockSz := by unfold blockSz; omega
  have cut : min ((start / blockSz + 1) * blockSz) end_ ≠ end_ := last
  omega

/-- `DiskInode::read_at`: the bytes from `offset` up to the end of `buf` or of the file are
copied to the start of `buf`, and their number is returned. -/
def readAt (self : DiskInode) (offset : Nat) (buf : List UInt8) (device : BlockDevice) :
    Except String (Nat × List UInt8) :=
  let start := offset
  let end_ := min (offset + buf.length) self.size.toNat
  if start ≥ end_ then .ok (0, buf)
  else self.readLoop device start (start / blockSz) 0 end_ buf

/-- The loop of `write_at` from byte `start` of the file, in its data block `start_block`,
with `write_size` bytes of `buf` already written. -/
def writeLoop (self : DiskInode) (buf : List UInt8) (start startBlock writeSize end_ : Nat)
    (device : BlockDevice) : Except String (Nat × BlockDevice) := do
  let endCurrentBlock := min ((start / blockSz + 1) * blockSz) end_
  let blockWriteSize := endCurrentBlock - start
  let blockId ← self.getBlockId (UInt32.ofNat startBlock) device
  device.getBlockCache blockId.toNat
  let src := (buf.drop writeSize).take blockWriteSize
  let device := { device with
    bytes := ByteMemory.writeBytes device.bytes
      (BlockDevice.address blockId.toNat (start % blockSz)) src }
  let writeSize := writeSize + blockWriteSize
  if last : endCurrentBlock = end_ then .ok (writeSize, device)
  else self.writeLoop buf endCurrentBlock (startBlock + 1) writeSize end_ device
termination_by end_ - start
decreasing_by
  have after : start < (start / blockSz + 1) * blockSz := by unfold blockSz; omega
  have cut : min ((start / blockSz + 1) * blockSz) end_ ≠ end_ := last
  omega

/-- `DiskInode::write_at`: the file's size must already cover the bytes written. -/
def writeAt (self : DiskInode) (offset : Nat) (buf : List UInt8) (device : BlockDevice) :
    Except String (Nat × BlockDevice) :=
  let start := offset
  let end_ := min (offset + buf.length) self.size.toNat
  if start ≤ end_ then self.writeLoop buf start (start / blockSz) 0 end_ device
  else .error "assertion failed: start <= end"

end DiskInode

end EasyFs

end ChOs
