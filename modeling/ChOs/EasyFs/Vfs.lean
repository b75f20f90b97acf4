import ChOs.EasyFs.DirEntry
import ChOs.EasyFs.DiskInode
import ChOs.EasyFs.Efs

set_option autoImplicit false

/- The root directory and its files (`Inode` of `easy-fs/src/vfs.rs`). -/

namespace ChOs

namespace EasyFs

/-- `Inode`: the block of its disk inode and the offset in that block. -/
structure Inode where
  blockId : Nat
  blockOffset : Nat
  deriving DecidableEq, Repr

namespace Inode

def new (blockId : UInt32) (blockOffset : Nat) : Inode := ⟨blockId.toNat, blockOffset⟩

/-- `read_disk_inode`: the disk inode, read through its block's cache. -/
def readDiskInode (self : Inode) (device : BlockDevice) : Except String DiskInode := do
  device.getBlockCache self.blockId
  pure (EasyFs.readDiskInode device self.blockId self.blockOffset)

/-- `modify_disk_inode`: `f` changes the disk inode and the device, and the disk inode goes
back to its place. No write of `f` touches the inode's own block: every block it writes is a
data or bitmap block. -/
def modifyDiskInode {α : Type} (self : Inode) (device : BlockDevice)
    (f : DiskInode → BlockDevice → Except String (α × DiskInode × BlockDevice)) :
    Except String (α × BlockDevice) := do
  device.getBlockCache self.blockId
  let (value, diskInode, device) ←
    f (EasyFs.readDiskInode device self.blockId self.blockOffset) device
  pure (value, writeDiskInode device self.blockId self.blockOffset diskInode)

/-- The loop of `find_inode_id` over the entries `i`, with the `DirEntry` that each
`read_at` fills. -/
def findInodeIdLoop (name : String) (diskInode : DiskInode) (device : BlockDevice) :
    List Nat → List UInt8 → Except String (Option UInt32)
  | [], _ => .ok none
  | i :: rest, dirent => do
      let (read, dirent) ← diskInode.readAt (direntSz * i) dirent device
      if read ≠ direntSz then .error (assertEqFailed read direntSz)
      else
        let entry := DirEntry.ofBytes dirent
        let entryName ← entry.name
        if entryName = name then .ok (some entry.inodeNumber)
        else findInodeIdLoop name diskInode device rest dirent

def findInodeId (name : String) (diskInode : DiskInode) (device : BlockDevice) :
    Except String (Option UInt32) :=
  if diskInode.isDir then
    findInodeIdLoop name diskInode device (List.range (diskInode.size.toNat / direntSz))
      DirEntry.empty.asBytes
  else .error "assertion failed: disk_inode.is_dir()"

def find (self : Inode) (fs : EasyFileSystem) (device : BlockDevice) (name : String) :
    Except String (Option Inode) := do
  let diskInode ← self.readDiskInode device
  let inodeId ← findInodeId name diskInode device
  pure (inodeId.map fun inodeId =>
    let (blockId, blockOffset) := fs.getDiskInodePos inodeId
    Inode.new blockId blockOffset)

/-- The loop of `increase_size` that pushes `blocks_needed` blocks of `alloc_data`. -/
def allocDataBlocks (fs : EasyFileSystem) (device : BlockDevice) :
    Nat → Except String (List UInt32 × BlockDevice)
  | 0 => .ok ([], device)
  | count + 1 => do
      let (block, device) ← fs.allocData device
      let (v, device) ← allocDataBlocks fs device count
      pure (block :: v, device)

/-- `Inode::increase_size`: nothing for a smaller size, otherwise the blocks the larger size
needs, from `alloc_data`, handed to `DiskInode::increase_size`. -/
def increaseSize (fs : EasyFileSystem) (newSize : UInt32) (diskInode : DiskInode)
    (device : BlockDevice) : Except String (DiskInode × BlockDevice) :=
  if newSize < diskInode.size then .ok (diskInode, device)
  else do
    let blocksNeeded ← diskInode.blocksNumNeeded newSize
    let (v, device) ← allocDataBlocks fs device blocksNeeded.toNat
    diskInode.increaseSize newSize v device

/-- `create`: `none` when the name is already in the directory; otherwise a new inode,
initialized as a file, whose entry is appended to the directory. -/
def create (self : Inode) (fs : EasyFileSystem) (device : BlockDevice) (name : String) :
    Except String (Option Inode × BlockDevice) := do
  let rootInode ← self.readDiskInode device
  if !rootInode.isDir then .error "assertion failed: root_inode.is_dir()"
  else
    let found ← findInodeId name rootInode device
    if found.isSome then .ok (none, device)
    else
      let (newInodeId, device) ← fs.allocInode device
      let (newInodeBlockId, newInodeBlockOffset) := fs.getDiskInodePos newInodeId
      device.getBlockCache newInodeBlockId.toNat
      let newInode := EasyFs.readDiskInode device newInodeBlockId.toNat newInodeBlockOffset
      let device := writeDiskInode device newInodeBlockId.toNat newInodeBlockOffset
        (newInode.init .file)
      let ((), device) ← self.modifyDiskInode device fun rootInode device => do
        let fileCount := rootInode.size.toNat / direntSz
        let newSize := (fileCount + 1) * direntSz
        let (rootInode, device) ← increaseSize fs (UInt32.ofNat newSize) rootInode device
        let dirent ← DirEntry.new name newInodeId
        let (_, device) ← rootInode.writeAt (fileCount * direntSz) dirent.asBytes device
        pure ((), rootInode, device)
      let (blockId, blockOffset) := fs.getDiskInodePos newInodeId
      pure (some (Inode.new blockId blockOffset), device)

/-- The loop of `ls`, each entry read into a fresh `DirEntry`. -/
def lsLoop (diskInode : DiskInode) (device : BlockDevice) :
    List Nat → Except String (List String)
  | [] => .ok []
  | i :: rest => do
      let (read, dirent) ← diskInode.readAt (i * direntSz) DirEntry.empty.asBytes device
      if read ≠ direntSz then .error (assertEqFailed read direntSz)
      else
        let name ← (DirEntry.ofBytes dirent).name
        let names ← lsLoop diskInode device rest
        pure (name :: names)

def ls (self : Inode) (device : BlockDevice) : Except String (List String) := do
  let diskInode ← self.readDiskInode device
  lsLoop diskInode device (List.range (diskInode.size.toNat / direntSz))

def readAt (self : Inode) (device : BlockDevice) (offset : Nat) (buf : List UInt8) :
    Except String (Nat × List UInt8) := do
  let diskInode ← self.readDiskInode device
  diskInode.readAt offset buf device

/-- `write_at`: the file grows to cover the bytes, which are then written. -/
def writeAt (self : Inode) (fs : EasyFileSystem) (device : BlockDevice) (offset : Nat)
    (buf : List UInt8) : Except String (Nat × BlockDevice) :=
  self.modifyDiskInode device fun diskInode device => do
    let (diskInode, device) ←
      increaseSize fs (UInt32.ofNat (offset + buf.length)) diskInode device
    let (size, device) ← diskInode.writeAt offset buf device
    pure (size, diskInode, device)

/-- The loop of `clear` that hands every block back with `dealloc_data`. -/
def deallocDataBlocks (fs : EasyFileSystem) (device : BlockDevice) :
    List UInt32 → Except String BlockDevice
  | [] => .ok device
  | block :: rest => do
      let device ← fs.deallocData device block
      deallocDataBlocks fs device rest

/-- `clear`: the file's blocks, as `clear_size` returns them, go back to the data bitmap. -/
def clear (self : Inode) (fs : EasyFileSystem) (device : BlockDevice) :
    Except String BlockDevice := do
  let ((), device) ← self.modifyDiskInode device fun diskInode device => do
    let size := diskInode.size
    let (dataBlocksDealloc, diskInode) ← diskInode.clearSize device
    if dataBlocksDealloc.length = (DiskInode.totalBlocks size).toNat then
      let device ← deallocDataBlocks fs device dataBlocksDealloc
      pure ((), diskInode, device)
    else
      .error "assertion failed: data_blocks_dealloc.len() == DiskInode::total_blocks(size) as usize"
  pure device

/-- Entry `i` of a directory reads back as `entry`, whatever the 32 bytes of the buffer
held before. -/
def ReadsEntry (diskInode : DiskInode) (device : BlockDevice) (i : Nat) (entry : DirEntry) :
    Prop :=
  ∀ buf : List UInt8, buf.length = direntSz →
    diskInode.readAt (direntSz * i) buf device = .ok (direntSz, entry.asBytes)

/-- The directory holds `entries`: one for each `DIRENT_SZ` bytes of its size, each read
back by `read_at`. -/
structure Listing (diskInode : DiskInode) (device : BlockDevice) (entries : List DirEntry) :
    Prop where
  count : diskInode.size.toNat / direntSz = entries.length
  reads : ∀ i (inside : i < entries.length), ReadsEntry diskInode device i entries[i]

/-- What `find_inode_id` looks up in a list of entries: the inode number of the first entry
of that name, decoding the name of every entry up to it. -/
def lookup (name : String) : List DirEntry → Except String (Option UInt32)
  | [] => .ok none
  | entry :: rest => do
      let entryName ← entry.name
      if entryName = name then .ok (some entry.inodeNumber) else lookup name rest

section Listing

variable {diskInode : DiskInode} {device : BlockDevice}

theorem ReadsEntry.tail {entry : DirEntry} {rest : List DirEntry} {first : Nat}
    (reads : ∀ k (inside : k < (entry :: rest).length),
      ReadsEntry diskInode device (first + k) (entry :: rest)[k]) :
    ∀ k (inside : k < rest.length), ReadsEntry diskInode device (first + 1 + k) rest[k] := by
  intro k inside
  have shifted : ReadsEntry diskInode device (first + (k + 1)) rest[k] :=
    reads (k + 1) (Nat.succ_lt_succ inside)
  rwa [← Nat.add_assoc, Nat.add_right_comm] at shifted

theorem findInodeIdLoop_eq_lookup (name : String) (entries : List DirEntry) (first : Nat)
    (reads : ∀ k (inside : k < entries.length),
      ReadsEntry diskInode device (first + k) entries[k])
    (buf : List UInt8) (sized : buf.length = direntSz) :
    findInodeIdLoop name diskInode device (List.range' first entries.length) buf =
      lookup name entries := by
  induction entries generalizing first buf with
  | nil => rfl
  | cons entry rest ih =>
      have read : diskInode.readAt (direntSz * first) buf device = .ok (direntSz, entry.asBytes) :=
        reads 0 (Nat.zero_lt_succ _) buf sized
      rw [List.length_cons, List.range'_succ, findInodeIdLoop, read, ok_bind]
      simp only [ne_eq, not_true_eq_false, if_false, DirEntry.ofBytes_asBytes, lookup]
      cases entry.name with
      | error message => rfl
      | ok entryName =>
          simp only [ok_bind]
          split
          · rfl
          · exact ih (first + 1) (ReadsEntry.tail reads) entry.asBytes (DirEntry.length_asBytes _)

theorem lsLoop_eq_mapM (entries : List DirEntry) (first : Nat)
    (reads : ∀ k (inside : k < entries.length),
      ReadsEntry diskInode device (first + k) entries[k]) :
    lsLoop diskInode device (List.range' first entries.length) = entries.mapM DirEntry.name := by
  induction entries generalizing first with
  | nil => rfl
  | cons entry rest ih =>
      have read : diskInode.readAt (first * direntSz) DirEntry.empty.asBytes device =
          .ok (direntSz, entry.asBytes) := by
        rw [Nat.mul_comm]
        exact reads 0 (Nat.zero_lt_succ _) _ (DirEntry.length_asBytes _)
      rw [List.length_cons, List.range'_succ, lsLoop, read, ok_bind, List.mapM_cons,
        ih (first + 1) (ReadsEntry.tail reads)]
      simp only [ne_eq, not_true_eq_false, if_false, DirEntry.ofBytes_asBytes]

theorem Listing.readsFromZero {entries : List DirEntry} (listing : Listing diskInode device entries) :
    ∀ k (inside : k < entries.length), ReadsEntry diskInode device (0 + k) entries[k] := by
  intro k inside
  rw [Nat.zero_add]
  exact listing.reads k inside

variable {entries : List DirEntry}

theorem findInodeId_eq_lookup (name : String) (listing : Listing diskInode device entries)
    (dir : diskInode.isDir = true) :
    findInodeId name diskInode device = lookup name entries := by
  rw [findInodeId, if_pos dir, listing.count, List.range_eq_range']
  exact findInodeIdLoop_eq_lookup name entries 0 listing.readsFromZero _
    (DirEntry.length_asBytes _)

theorem ls_eq_mapM {self : Inode} (located : self.readDiskInode device = .ok diskInode)
    (listing : Listing diskInode device entries) :
    self.ls device = entries.mapM DirEntry.name := by
  rw [ls, located, ok_bind, listing.count, List.range_eq_range']
  exact lsLoop_eq_mapM entries 0 listing.readsFromZero

theorem find_of_lookup_error {self : Inode} (fs : EasyFileSystem) {name : String}
    {message : String} (located : self.readDiskInode device = .ok diskInode)
    (listing : Listing diskInode device entries) (dir : diskInode.isDir = true)
    (failed : lookup name entries = .error message) :
    self.find fs device name = .error message := by
  rw [find, located, ok_bind, findInodeId_eq_lookup name listing dir, failed, error_bind]

theorem create_of_lookup_error {self : Inode} (fs : EasyFileSystem) {name : String}
    {message : String} (located : self.readDiskInode device = .ok diskInode)
    (listing : Listing diskInode device entries) (dir : diskInode.isDir = true)
    (failed : lookup name entries = .error message) :
    self.create fs device name = .error message := by
  rw [create, located, ok_bind, if_neg (by rw [dir]; decide),
    findInodeId_eq_lookup name listing dir, failed, error_bind]

end Listing

section Entries

theorem lookup_append_of_error (name : String) {front : List DirEntry} {entry : DirEntry}
    (rest : List DirEntry) {message : String}
    (others : ∀ other ∈ front, ∃ otherName, other.name = .ok otherName ∧ otherName ≠ name)
    (failed : entry.name = .error message) :
    lookup name (front ++ entry :: rest) = .error message := by
  induction front with
  | nil => rw [List.nil_append, lookup, failed, error_bind]
  | cons other front ih =>
      obtain ⟨⟨otherName, decoded, differ⟩, later⟩ := List.forall_mem_cons.mp others
      rw [List.cons_append, lookup, decoded, ok_bind, if_neg differ]
      exact ih later

theorem mapM_name_append_of_error {front : List DirEntry} {entry : DirEntry}
    (rest : List DirEntry) {message : String}
    (decoded : ∀ other ∈ front, ∃ otherName, other.name = .ok otherName)
    (failed : entry.name = .error message) :
    (front ++ entry :: rest).mapM DirEntry.name = .error message := by
  induction front with
  | nil => rw [List.nil_append, List.mapM_cons, failed, error_bind]
  | cons other front ih =>
      obtain ⟨⟨otherName, named⟩, later⟩ := List.forall_mem_cons.mp decoded
      rw [List.cons_append, List.mapM_cons, named, ok_bind, ih later, error_bind]

end Entries

end Inode

namespace EasyFileSystem

/-- `root_inode`: the inode of inode number 0. -/
def rootInode (self : EasyFileSystem) : Inode :=
  let (blockId, blockOffset) := self.getDiskInodePos 0
  Inode.new blockId blockOffset

end EasyFileSystem

/-- An image of 1030 zeroed blocks: with one block of inode bitmap, `create` gives it 1024
blocks of disk inodes and a data area of three blocks. -/
def emptyImage : BlockDevice := ⟨fun _ => 0, 1030⟩

/-- A name of 28 bytes, `NAME_LENGTH_LIMIT + 1`, with no zero byte. -/
def fullName : String := "abcdefghijklmnopqrstuvwxyz01"

/-- On a fresh volume, `create` of a name of 28 bytes succeeds, but its entry has no zero
byte: afterwards `find` of the name, `ls` and a second `create` of the name all panic with
the index `DirEntry::name` takes past the name field. -/
theorem create_full_name_breaks_root_directory :
    ∃ efs device, EasyFileSystem.create emptyImage 1030 1 = .ok (efs, device) ∧
      ∃ inode device', efs.rootInode.create efs device fullName = .ok (some inode, device') ∧
        efs.rootInode.find efs device' fullName =
          .error (indexOutOfBounds (nameLengthLimit + 1) (nameLengthLimit + 1)) ∧
        efs.rootInode.ls device' =
          .error (indexOutOfBounds (nameLengthLimit + 1) (nameLengthLimit + 1)) ∧
        efs.rootInode.create efs device' fullName =
          .error (indexOutOfBounds (nameLengthLimit + 1) (nameLengthLimit + 1)) := by
  refine ⟨_, _, EasyFileSystem.create_eq emptyImage (by decide) (by decide) (by decide), ?_⟩
  have check : (match (EasyFileSystem.layout 1030 1).rootInode.create
        (EasyFileSystem.layout 1030 1) (EasyFileSystem.formatted emptyImage 1030 1) fullName with
      | .ok (some _, device') =>
          decide ((EasyFileSystem.layout 1030 1).rootInode.find (EasyFileSystem.layout 1030 1)
              device' fullName =
            .error (indexOutOfBounds (nameLengthLimit + 1) (nameLengthLimit + 1))) &&
          decide ((EasyFileSystem.layout 1030 1).rootInode.ls device' =
            .error (indexOutOfBounds (nameLengthLimit + 1) (nameLengthLimit + 1))) &&
          panicsWith (indexOutOfBounds (nameLengthLimit + 1) (nameLengthLimit + 1))
            ((EasyFileSystem.layout 1030 1).rootInode.create (EasyFileSystem.layout 1030 1)
              device' fullName)
      | _ => false) = true := by
    decide +kernel
  split at check
  · rename_i inode device' created
    simp only [Bool.and_eq_true, decide_eq_true_eq, panicsWith_eq_true] at check
    obtain ⟨⟨found, listed⟩, again⟩ := check
    exact ⟨inode, device', created, found, listed, again⟩
  · cases check

theorem DiskInode.writeAt_nil_past_direct {self : DiskInode} {device : BlockDevice}
    (full : self.size.toNat = inodeDirectCount * blockSz) (unused : self.indirect1 = 0)
    (superBlock : 0 < device.blocks) (past : device.blocks ≤ (readWord device 0 0 0).toNat) :
    self.writeAt (inodeDirectCount * blockSz) [] device = .error notCompleteBlock := by
  have within : inodeDirectCount * blockSz ≤
      min (inodeDirectCount * blockSz + ([] : List UInt8).length) self.size.toNat := by
    rw [full, List.length_nil, Nat.add_zero, Nat.min_self]
  have lookup : self.getBlockId (UInt32.ofNat (inodeDirectCount * blockSz / blockSz)) device =
      .ok (readWord device 0 0 0) := by
    have notDirect : ¬(UInt32.ofNat (inodeDirectCount * blockSz / blockSz)).toNat <
        inodeDirectCount := by decide
    have inIndirect1 : (UInt32.ofNat (inodeDirectCount * blockSz / blockSz)).toNat <
        indirect1Bound := by decide
    have cached : device.getBlockCache self.indirect1.toNat = .ok () := by
      rw [unused, BlockDevice.getBlockCache_eq_ok]
      exact superBlock
    rw [DiskInode.getBlockId, dif_neg notDirect, if_pos inIndirect1, cached, ok_bind, unused]
    rfl
  have uncached : device.getBlockCache (readWord device 0 0 0).toNat = .error notCompleteBlock := by
    rw [BlockDevice.getBlockCache, if_neg (Nat.not_lt_of_le past)]
  rw [DiskInode.writeAt, if_pos within, DiskInode.writeLoop, lookup, ok_bind, uncached, error_bind]

/-- An image of 1060 zeroed blocks: with one block of inode bitmap, `create` gives it a data
area of 33 blocks. -/
def fileImage : BlockDevice := ⟨fun _ => 0, 1060⟩

theorem formatted_full_direct_write_nothing_panics :
    (⟨14336, Vector.ofFn fun i => UInt32.ofNat (i.val + 40), 0, 0, .file⟩ : DiskInode).writeAt
        (inodeDirectCount * blockSz) [] (EasyFileSystem.formatted fileImage 1060 1) =
      .error notCompleteBlock :=
  DiskInode.writeAt_nil_past_direct (by decide) rfl (by decide) (by decide +kernel)

/-- On a fresh volume, a file `f` whose last byte is byte 14335, at the end of its 28 direct
blocks: a write of no bytes at its end panics, where it should return 0. -/
theorem write_at_nothing_after_direct_blocks_panics :
    ∃ efs device, EasyFileSystem.create fileImage 1060 1 = .ok (efs, device) ∧
      ∃ inode created, efs.rootInode.create efs device "f" = .ok (some inode, created) ∧
        ∃ grown, inode.writeAt efs created 14335 [1] = .ok (1, grown) ∧
          inode.readAt grown 14335 [0, 0] = .ok (1, [1, 0]) ∧
          inode.writeAt efs grown 14336 [] = .error notCompleteBlock := by
  refine ⟨_, _, EasyFileSystem.create_eq fileImage (by decide) (by decide) (by decide), ?_⟩
  have check : (match (EasyFileSystem.layout 1060 1).rootInode.create
        (EasyFileSystem.layout 1060 1) (EasyFileSystem.formatted fileImage 1060 1) "f" with
      | .ok (some inode, created) =>
          match inode.writeAt (EasyFileSystem.layout 1060 1) created 14335 [1] with
          | .ok (1, grown) =>
              decide (inode.readAt grown 14335 [0, 0] = .ok (1, [1, 0])) &&
              panicsWith notCompleteBlock (inode.writeAt (EasyFileSystem.layout 1060 1) grown 14336 [])
          | _ => false
      | _ => false) = true := by
    decide +kernel
  split at check
  · rename_i inode created made
    split at check
    · rename_i grown wrote
      simp only [Bool.and_eq_true, decide_eq_true_eq, panicsWith_eq_true] at check
      obtain ⟨ends, again⟩ := check
      exact ⟨inode, created, made, grown, wrote, ends, again⟩
    · cases check
  · cases check

end EasyFs

end ChOs
