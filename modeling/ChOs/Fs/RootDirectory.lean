import Mathlib.Data.List.Induction
import ChOs.Fs.InodeTable

set_option autoImplicit false

/- The root directory of an easy-fs volume as a directory of named files
(`Inode::create`, `find`, `ls`, `write_at` and `clear` of `easy-fs/src/vfs.rs`). -/

namespace ChOs

namespace EasyFs

open BlockDevice DiskInode

namespace DiskInode

theorem fillDirect_type {self self' : DiskInode} {current total current' : Nat}
    {newBlocks rest : List UInt32}
    (call : fillDirect self current total newBlocks = .ok (self', current', rest)) :
    self'.type_ = self.type_ := by
  fun_induction fillDirect self current total newBlocks with
  | case1 self current newBlocks fill ih =>
      obtain ⟨⟨block, rest'⟩, -, recursive⟩ := bind_eq_ok.mp call
      exact ih _ _ recursive
  | case2 self current newBlocks stop =>
      cases call
      rfl

theorem increaseSize_type {self self' : DiskInode} {newSize : UInt32} {newBlocks : List UInt32}
    {device device' : BlockDevice} (call : self.increaseSize newSize newBlocks device = .ok (self', device')) :
    self'.type_ = self.type_ := by
  unfold increaseSize at call
  obtain ⟨⟨filled, current, rest⟩, direct, call⟩ := bind_eq_ok.mp call
  have typeDirect := fillDirect_type direct
  simp only [bind, Except.bind, pure, Except.pure] at call
  repeat' split at call
  all_goals cases call
  all_goals exact typeDirect

end DiskInode

theorem Inode.increaseSize_type {fs : EasyFileSystem} {newSize : UInt32} {diskInode diskInode' : DiskInode}
    {device device' : BlockDevice}
    (call : Inode.increaseSize fs newSize diskInode device = .ok (diskInode', device')) :
    diskInode'.type_ = diskInode.type_ := by
  unfold Inode.increaseSize at call
  split at call
  · cases call
    rfl
  · obtain ⟨_, -, call⟩ := bind_eq_ok.mp call
    obtain ⟨_, -, call⟩ := bind_eq_ok.mp call
    exact DiskInode.increaseSize_type call

theorem Inode.writeAt_type {inode : Inode} {fs : EasyFileSystem} {device device' : BlockDevice}
    {offset written : Nat} {buf : List UInt8} (call : inode.writeAt fs device offset buf = .ok (written, device')) :
    (inode.diskInodeOn device').type_ = (inode.diskInodeOn device).type_ := by
  unfold Inode.writeAt Inode.modifyDiskInode at call
  obtain ⟨_, -, call⟩ := bind_eq_ok.mp call
  obtain ⟨⟨size, diskInode', device1⟩, body, stored⟩ := bind_eq_ok.mp call
  obtain ⟨⟨grown, device2⟩, grow, body⟩ := bind_eq_ok.mp body
  obtain ⟨_, -, body⟩ := bind_eq_ok.mp body
  cases body
  cases stored
  rw [Inode.diskInodeOn, readDiskInode_writeDiskInode]
  exact Inode.increaseSize_type grow

/-- The entries `create` appends for `names`, in order, the `k`-th under inode number
`k + 1`. -/
def dirEntries (names : List String) : Except String (List DirEntry) :=
  (names.zipIdx 1).mapM fun (name, inodeId) => DirEntry.new name (UInt32.ofNat inodeId)

/-- A name `DirEntry` keeps: at most `NAME_LENGTH_LIMIT` bytes, and no zero byte. -/
def NameFits (name : String) : Prop := (nameBytes name).length ≤ nameLengthLimit ∧ 0 ∉ nameBytes name

instance (name : String) : Decidable (NameFits name) := inferInstanceAs (Decidable (_ ∧ _))

theorem dirEntries_append (names : List String) (name : String) :
    dirEntries (names ++ [name]) = (dirEntries names >>= fun entries =>
      DirEntry.new name (UInt32.ofNat (names.length + 1)) >>= fun entry => pure (entries ++ [entry])) := by
  rw [dirEntries, List.zipIdx_append, List.mapM_append]
  simp [dirEntries, Nat.add_comm]

theorem dirEntries_spec (names : List String) (fit : ∀ name ∈ names, NameFits name) :
    ∃ entries, dirEntries names = .ok entries ∧ entries.mapM DirEntry.name = .ok names ∧
      entries.length = names.length ∧
      ∀ k (found : k < entries.length), entries[k].inodeNumber = UInt32.ofNat (k + 1) := by
  induction names using List.reverseRecOn with
  | nil => exact ⟨[], rfl, rfl, rfl, fun k found => absurd found (Nat.not_lt_zero k)⟩
  | append_singleton names name ih =>
      obtain ⟨entries, built, named, length, numbered⟩ :=
        ih fun other member => fit other (List.mem_append_left _ member)
      obtain ⟨short, free⟩ := fit name (List.mem_append_right _ (List.mem_singleton_self _))
      obtain ⟨entry, created, number, -⟩ :=
        @DirEntry.new_eq name (UInt32.ofNat (names.length + 1)) (Nat.le_succ_of_le short)
      have decoded : entry.name = .ok name := by
        have back := @DirEntry.name_new_of_short name (UInt32.ofNat (names.length + 1)) short free
        rwa [created, ok_bind] at back
      refine ⟨entries ++ [entry], ?_, ?_, by simp [length], fun k found => ?_⟩
      · rw [dirEntries_append, built, ok_bind, created, ok_bind]
        rfl
      · rw [List.mapM_append, named, ok_bind]
        simp [decoded]
      · by_cases old : k < entries.length
        · rw [List.getElem_append_left old]
          exact numbered k old
        · have last : k = entries.length := by simp at found; omega
          subst last
          rw [List.getElem_concat_length rfl, number, length]

theorem take_drop_flatten {α : Type} {pieces : List (List α)} {width : Nat}
    (uniform : ∀ piece ∈ pieces, piece.length = width) {k : Nat} (found : k < pieces.length) :
    (pieces.flatten.drop (width * k)).take width = pieces[k] := by
  induction pieces generalizing k with
  | nil => exact absurd found (Nat.not_lt_zero k)
  | cons piece rest ih =>
      have wide := uniform piece List.mem_cons_self
      cases k with
      | zero =>
          rw [List.flatten_cons, Nat.mul_zero, List.drop_zero, ← wide, List.take_left]
          rfl
      | succ k =>
          rw [List.flatten_cons, Nat.mul_succ, Nat.add_comm, ← wide, List.drop_length_add_append, wide,
            List.getElem_cons_succ]
          exact ih (fun other member => uniform other (List.mem_cons_of_mem _ member))
            (by simpa using found)

theorem length_flatten_asBytes (entries : List DirEntry) :
    (entries.map DirEntry.asBytes).flatten.length = direntSz * entries.length := by
  induction entries with
  | nil => rfl
  | cons entry rest ih =>
      rw [List.map_cons, List.flatten_cons, List.length_append, ih, DirEntry.length_asBytes,
        List.length_cons, Nat.mul_succ, Nat.add_comm]

theorem Inode.Holds.listing {inode : Inode} {device : BlockDevice} {diskInode : DiskInode}
    (holds : inode.Holds device diskInode) {entries : List DirEntry}
    (listed : diskInode.fileBytes device = (entries.map DirEntry.asBytes).flatten) :
    Listing diskInode device entries where
  count := by
    rw [← length_fileBytes, listed, length_flatten_asBytes, direntSz]
    omega
  reads i inside buf sized := by
    have total := length_flatten_asBytes entries
    rw [DiskInode.readAt_eq_fileRead holds.formed holds.fits, fileRead, listed, total, sized]
    have full : min direntSz (direntSz * entries.length - direntSz * i) = direntSz := by
      unfold direntSz
      omega
    rw [full, take_drop_flatten (fun piece member => by
      obtain ⟨entry, -, rfl⟩ := List.mem_map.mp member
      exact DirEntry.length_asBytes entry) (by simpa using inside), List.getElem_map,
      ← sized, List.drop_length, List.append_nil]

/-- Once an entry of a directory does not decode as a name, `ls` panics with its error, and so
does every `find` or `create` of a name that no entry before it carries. -/
theorem Inode.directory_breaks_at_undecodable_entry {inode : Inode} (fs : EasyFileSystem)
    {device : BlockDevice} {diskInode : DiskInode} (holds : inode.Holds device diskInode)
    (dir : diskInode.isDir = true) {front rest : List DirEntry} {entry : DirEntry}
    (listed : diskInode.fileBytes device = ((front ++ entry :: rest).map DirEntry.asBytes).flatten)
    {message name : String} (failed : entry.name = .error message)
    (others : ∀ other ∈ front, ∃ otherName, other.name = .ok otherName ∧ otherName ≠ name) :
    inode.find fs device name = .error message ∧ inode.create fs device name = .error message ∧
      inode.ls device = .error message := by
  have listing := holds.listing listed
  have lookedUp := Inode.lookup_append_of_error name rest others failed
  refine ⟨Inode.find_of_lookup_error fs holds.located listing dir lookedUp,
    Inode.create_of_lookup_error fs holds.located listing dir lookedUp, ?_⟩
  rw [Inode.ls_eq_mapM holds.located listing]
  exact Inode.mapM_name_append_of_error rest
    (fun other member => (others other member).elim fun otherName named => ⟨otherName, named.1⟩)
    failed

/-- A directory of one entry at inode `⟨0, 0⟩`, its entry in block 1: the 32 bytes `create`
stores for `fullName`, whose 28 name bytes leave no terminating zero. -/
def fullNameVolume : BlockDevice :=
  writeDiskInode ⟨ByteMemory.writeBytes (fun _ => 0) blockSz (nameBytes fullName ++ [1, 0, 0, 0]), 2⟩
    0 0 ⟨32, Vector.ofFn fun i => if i.val = 0 then 1 else 0, 0, 0, .directory⟩

theorem fullNameVolume_holds :
    Inode.Holds ⟨0, 0⟩ fullNameVolume (EasyFs.readDiskInode fullNameVolume 0 0) := by
  have tree : (EasyFs.readDiskInode fullNameVolume 0 0).treeBlocks fullNameVolume
      (DiskInode.dataBlocksOf (EasyFs.readDiskInode fullNameVolume 0 0).size).toNat = [1] := by
    decide +kernel
  refine ⟨rfl, ⟨?_, ?_⟩, by decide, ?_, by decide⟩
  · rw [tree]
    exact List.nodup_singleton 1
  all_goals
    intro block member
    rw [tree, List.mem_singleton] at member
    subst member
    decide

theorem fullNameVolume_breaks :
    Inode.find ⟨0, 0⟩ (EasyFileSystem.layout 1030 1) fullNameVolume "a" =
        .error (indexOutOfBounds (nameLengthLimit + 1) (nameLengthLimit + 1)) ∧
      Inode.create ⟨0, 0⟩ (EasyFileSystem.layout 1030 1) fullNameVolume "a" =
        .error (indexOutOfBounds (nameLengthLimit + 1) (nameLengthLimit + 1)) ∧
      Inode.ls ⟨0, 0⟩ fullNameVolume =
        .error (indexOutOfBounds (nameLengthLimit + 1) (nameLengthLimit + 1)) := by
  have listed : (EasyFs.readDiskInode fullNameVolume 0 0).fileBytes fullNameVolume =
      (([] ++ [DirEntry.ofBytes (nameBytes fullName ++ [1, 0, 0, 0])]).map DirEntry.asBytes).flatten := by
    decide +kernel
  exact Inode.directory_breaks_at_undecodable_entry _ fullNameVolume_holds (by decide) listed
    (by decide) (fun _ absent => absurd absent List.not_mem_nil)

section Lookup

variable {entries : List DirEntry} {names : List String}

theorem mapM_cons_eq_ok {α β : Type} {f : α → Except String β} {x : α} {xs : List α} {ys : List β} :
    (x :: xs).mapM f = .ok ys ↔ ∃ y rest, f x = .ok y ∧ xs.mapM f = .ok rest ∧ ys = y :: rest := by
  rw [List.mapM_cons]
  constructor
  · intro call
    obtain ⟨y, first, call⟩ := bind_eq_ok.mp call
    obtain ⟨rest, others, call⟩ := bind_eq_ok.mp call
    exact ⟨y, rest, first, others, (Except.ok.inj call).symm⟩
  · rintro ⟨y, rest, first, others, rfl⟩
    rw [first, ok_bind, others, ok_bind]
    rfl

theorem Inode.lookup_of_not_mem (named : entries.mapM DirEntry.name = .ok names) {name : String}
    (absent : name ∉ names) : lookup name entries = .ok none := by
  induction entries generalizing names with
  | nil => rfl
  | cons entry rest ih =>
      obtain ⟨first, others, decoded, named', rfl⟩ := mapM_cons_eq_ok.mp named
      rw [lookup, decoded, ok_bind, if_neg fun same : first = name => absent (same ▸ List.mem_cons_self)]
      exact ih named' fun member => absent (List.mem_cons_of_mem _ member)

theorem Inode.lookup_of_getElem (named : entries.mapM DirEntry.name = .ok names) (distinct : names.Nodup)
    {k : Nat} (found : k < names.length) :
    lookup names[k] entries = .ok (entries[k]?.map DirEntry.inodeNumber) := by
  induction entries generalizing names k with
  | nil =>
      obtain rfl : ([] : List String) = names := Except.ok.inj named
      exact absurd found (Nat.not_lt_zero k)
  | cons entry rest ih =>
      obtain ⟨first, others, decoded, named', rfl⟩ := mapM_cons_eq_ok.mp named
      cases k with
      | zero =>
          rw [List.getElem_cons_zero, lookup, decoded, ok_bind, if_pos rfl]
          rfl
      | succ k =>
          have later : k < others.length := by simpa using found
          have away : first ≠ others[k] := fun same =>
            (List.nodup_cons.mp distinct).1 (same ▸ List.getElem_mem later)
          rw [List.getElem_cons_succ, lookup, decoded, ok_bind, if_neg away,
            ih named' (List.nodup_cons.mp distinct).2 later]
          rfl

end Lookup

/-- A call on the root directory, by the name of the file. -/
inductive DirOp
  | create (name : String)
  | writeAt (name : String) (offset : Nat) (buf : List UInt8)
  | clear (name : String)
  deriving DecidableEq, Repr

/-- The abstract directory: the files by name, in the order they were created. -/
def DirOp.apply (directory : List (String × List UInt8)) : DirOp → List (String × List UInt8)
  | .create name => if name ∈ directory.map Prod.fst then directory else directory ++ [(name, [])]
  | .writeAt name offset buf =>
      directory.map fun file => if file.1 = name then (file.1, fileWrite file.2 offset buf) else file
  | .clear name => directory.map fun file => if file.1 = name then (file.1, []) else file

example : DirOp.apply [("a", [1])] (.create "b") = [("a", [1]), ("b", [])] := by decide

/-- The bytes of the file `find` opens under a name, and none where it opens none. -/
def fileOn (fs : EasyFileSystem) (device : BlockDevice) (name : String) : List UInt8 :=
  match fs.rootInode.find fs device name with
  | .ok (some inode) => (inode.diskInodeOn device).fileBytes device
  | _ => []

/-- The volume as a directory: the names `ls` lists, each with the file `find` opens under it. -/
def directoryOn (fs : EasyFileSystem) (device : BlockDevice) : List (String × List UInt8) :=
  match fs.rootInode.ls device with
  | .ok names => names.map fun name => (name, fileOn fs device name)
  | .error _ => []

/-- The entries of the root directory, as `create` counts them in `file_count`. -/
def fileCount (fs : EasyFileSystem) (device : BlockDevice) : Nat :=
  (fs.rootInode.diskInodeOn device).size.toNat / direntSz

/-- The volume holds the root directory of `names`: the root and the files of numbers `1` to
`n` lie on it together, the root is a directory whose bytes are the entries `create` wrote for
`names`, the names fit in an entry and are distinct, and the inode bitmap has taken exactly the
numbers `0` to `n`. -/
structure DirectoryOnVolume (fs : EasyFileSystem) (area : Nat) (device : BlockDevice)
    (names : List String) : Prop where
  files : FilesOnVolume fs area device (fs.inodesUpTo names.length)
  isDir : (fs.rootInode.diskInodeOn device).isDir = true
  listed : ∃ entries, dirEntries names = .ok entries ∧
    (fs.rootInode.diskInodeOn device).fileBytes device = (entries.map DirEntry.asBytes).flatten
  fit : ∀ name ∈ names, NameFits name
  distinct : names.Nodup
  taken : fs.inodeBitmap.FilledBelow device (names.length + 1)
  room : names.length < fs.inodeBitmap.maximum

/-- One call of the kernel on the root directory. A name `find` does not open fits in an entry,
and the inode bitmap and the index of the root have room for one more file: nothing in `create`
checks either. A write goes to the file `find` opens, from within it and with the free blocks it
needs, as for `VolumeStep`. -/
inductive DirStep (fs : EasyFileSystem) (area : Nat) : BlockDevice → Option DirOp → BlockDevice → Prop
  | create {device device' : BlockDevice} {name : String} {created : Option Inode}
      (absent : fs.rootInode.find fs device name = .ok none)
      (fits : NameFits name) (inodeRoom : fileCount fs device + 1 < fs.inodeBitmap.maximum)
      (bounded : (fileCount fs device + 1) * direntSz ≤ indirect2Bound * blockSz)
      (room : blocksFor ((fileCount fs device + 1) * direntSz) -
          blocksFor (fs.rootInode.diskInodeOn device).size.toNat ≤ (fs.freeBlocks device area).length)
      (call : fs.rootInode.create fs device name = .ok (created, device')) :
      DirStep fs area device (some (.create name)) device'
  | createFound {device device' : BlockDevice} {name : String} {inode : Inode} {created : Option Inode}
      (found : fs.rootInode.find fs device name = .ok (some inode))
      (call : fs.rootInode.create fs device name = .ok (created, device')) :
      DirStep fs area device (some (.create name)) device'
  | writeAt {device device' : BlockDevice} {name : String} {inode : Inode} {offset written : Nat}
      {buf : List UInt8} (found : fs.rootInode.find fs device name = .ok (some inode)) (nonempty : buf ≠ [])
      (noHole : offset ≤ (inode.diskInodeOn device).size.toNat)
      (bounded : offset + buf.length ≤ indirect2Bound * blockSz)
      (room : blocksFor (offset + buf.length) - blocksFor (inode.diskInodeOn device).size.toNat ≤
        (fs.freeBlocks device area).length)
      (call : inode.writeAt fs device offset buf = .ok (written, device')) :
      DirStep fs area device (some (.writeAt name offset buf)) device'
  | clear {device device' : BlockDevice} {name : String} {inode : Inode}
      (found : fs.rootInode.find fs device name = .ok (some inode))
      (call : inode.clear fs device = .ok device') :
      DirStep fs area device (some (.clear name)) device'

theorem EasyFileSystem.getElem_inodesUpTo_zero (fs : EasyFileSystem) (count : Nat)
    (found : 0 < (fs.inodesUpTo count).length) : (fs.inodesUpTo count)[0] = fs.rootInode := by
  rw [EasyFileSystem.getElem_inodesUpTo]
  rfl

section Holds

variable {fs : EasyFileSystem} {area : Nat} {device : BlockDevice} {names : List String}

theorem DirectoryOnVolume.root (volume : DirectoryOnVolume fs area device names) :
    fs.rootInode.OnVolume fs area device (fs.rootInode.diskInodeOn device) := by
  have onVolume := volume.files.onVolume 0 (by simp)
  rwa [EasyFileSystem.getElem_inodesUpTo_zero] at onVolume

theorem DirectoryOnVolume.entries (volume : DirectoryOnVolume fs area device names) :
    ∃ entries, dirEntries names = .ok entries ∧
      (fs.rootInode.diskInodeOn device).fileBytes device = (entries.map DirEntry.asBytes).flatten ∧
      Inode.Listing (fs.rootInode.diskInodeOn device) device entries ∧
      entries.mapM DirEntry.name = .ok names ∧ entries.length = names.length ∧
      ∀ k (found : k < entries.length), entries[k].inodeNumber = UInt32.ofNat (k + 1) := by
  obtain ⟨entries, built, listed⟩ := volume.listed
  obtain ⟨entries', built', named, length, numbered⟩ := dirEntries_spec names volume.fit
  obtain rfl : entries = entries' := Except.ok.inj (built.symm.trans built')
  exact ⟨entries, built, listed, volume.root.holds.listing listed, named, length, numbered⟩

theorem DirectoryOnVolume.fileCount_eq (volume : DirectoryOnVolume fs area device names) :
    fileCount fs device = names.length := by
  obtain ⟨entries, -, -, listing, -, length, -⟩ := volume.entries
  rw [fileCount, listing.count, length]

/-- `ls` lists the names. -/
theorem DirectoryOnVolume.ls (volume : DirectoryOnVolume fs area device names) :
    fs.rootInode.ls device = .ok names := by
  obtain ⟨entries, -, -, listing, named, -, -⟩ := volume.entries
  rw [Inode.ls_eq_mapM volume.root.holds.located listing, named]

theorem DirectoryOnVolume.findInodeId_getElem (volume : DirectoryOnVolume fs area device names) {k : Nat}
    (found : k < names.length) :
    Inode.findInodeId names[k] (fs.rootInode.diskInodeOn device) device = .ok (some (UInt32.ofNat (k + 1))) := by
  obtain ⟨entries, -, -, listing, named, length, numbered⟩ := volume.entries
  have inEntries : k < entries.length := by omega
  rw [Inode.findInodeId_eq_lookup _ listing volume.isDir, Inode.lookup_of_getElem named volume.distinct found,
    List.getElem?_eq_getElem inEntries, Option.map_some, numbered k inEntries]

theorem DirectoryOnVolume.findInodeId_of_not_mem (volume : DirectoryOnVolume fs area device names)
    {name : String} (absent : name ∉ names) :
    Inode.findInodeId name (fs.rootInode.diskInodeOn device) device = .ok none := by
  obtain ⟨entries, -, -, listing, named, -, -⟩ := volume.entries
  rw [Inode.findInodeId_eq_lookup _ listing volume.isDir, Inode.lookup_of_not_mem named absent]

theorem DirectoryOnVolume.find_getElem (volume : DirectoryOnVolume fs area device names) {k : Nat}
    (found : k < names.length) :
    fs.rootInode.find fs device names[k] = .ok (some (fs.inodeAt (UInt32.ofNat (k + 1)))) := by
  rw [Inode.find, volume.root.holds.located, ok_bind, volume.findInodeId_getElem found, ok_bind]
  rfl

theorem DirectoryOnVolume.find_of_not_mem (volume : DirectoryOnVolume fs area device names)
    {name : String} (absent : name ∉ names) : fs.rootInode.find fs device name = .ok none := by
  rw [Inode.find, volume.root.holds.located, ok_bind, volume.findInodeId_of_not_mem absent, ok_bind]
  rfl

theorem DirectoryOnVolume.not_mem_of_find (volume : DirectoryOnVolume fs area device names) {name : String}
    (absent : fs.rootInode.find fs device name = .ok none) : name ∉ names := fun member => by
  obtain ⟨k, below, rfl⟩ := List.getElem_of_mem member
  rw [volume.find_getElem below] at absent
  cases absent

theorem DirectoryOnVolume.exists_of_find (volume : DirectoryOnVolume fs area device names) {name : String}
    {inode : Inode} (found : fs.rootInode.find fs device name = .ok (some inode)) :
    ∃ k, ∃ below : k < names.length, names[k] = name ∧ inode = fs.inodeAt (UInt32.ofNat (k + 1)) := by
  by_cases member : name ∈ names
  · obtain ⟨k, below, rfl⟩ := List.getElem_of_mem member
    rw [volume.find_getElem below] at found
    exact ⟨k, below, rfl, (Option.some.inj (Except.ok.inj found)).symm⟩
  · rw [volume.find_of_not_mem member] at found
    cases found

theorem DirectoryOnVolume.directoryOn_eq (volume : DirectoryOnVolume fs area device names) :
    directoryOn fs device = names.zip (contents (fs.inodesUpTo names.length) device).tail := by
  rw [directoryOn, volume.ls]
  dsimp only
  apply List.ext_getElem (by simp [contents])
  intro k inMap inZip
  have found : k < names.length := by simpa using inMap
  rw [List.getElem_map, List.getElem_zip, List.getElem_tail, fileOn, volume.find_getElem found]
  simp only [contents, List.getElem_map, EasyFileSystem.getElem_inodesUpTo]

theorem DirectoryOnVolume.map_fst_directoryOn (volume : DirectoryOnVolume fs area device names) :
    (directoryOn fs device).map Prod.fst = names := by
  rw [directoryOn, volume.ls]
  dsimp only
  rw [List.map_map]
  exact List.map_id'' (fun _ => rfl) names

theorem DirectoryOnVolume.find_of_mem (volume : DirectoryOnVolume fs area device names)
    {file : String × List UInt8} (member : file ∈ directoryOn fs device) :
    ∃ inode, fs.rootInode.find fs device file.1 = .ok (some inode) ∧
      inode.OnVolume fs area device (inode.diskInodeOn device) ∧
      (inode.diskInodeOn device).fileBytes device = file.2 := by
  rw [directoryOn, volume.ls] at member
  obtain ⟨name, inNames, rfl⟩ := List.mem_map.mp member
  obtain ⟨k, below, rfl⟩ := List.getElem_of_mem inNames
  have inFiles : k + 1 < (fs.inodesUpTo names.length).length := by simpa using below
  have onVolume := volume.files.onVolume (k + 1) inFiles
  rw [EasyFileSystem.getElem_inodesUpTo] at onVolume
  refine ⟨_, volume.find_getElem below, onVolume, ?_⟩
  rw [fileOn, volume.find_getElem below]

theorem DirectoryOnVolume.readAt_of_mem (volume : DirectoryOnVolume fs area device names)
    {file : String × List UInt8} (member : file ∈ directoryOn fs device) :
    ∃ inode, fs.rootInode.find fs device file.1 = .ok (some inode) ∧
      ∀ offset buf, inode.readAt device offset buf = .ok (fileRead file.2 offset buf) := by
  obtain ⟨inode, found, onVolume, bytes⟩ := volume.find_of_mem member
  refine ⟨inode, found, fun offset buf => ?_⟩
  rw [← bytes]
  exact Inode.readAt_eq_fileRead onVolume.holds.located onVolume.holds.formed onVolume.holds.fits offset buf

end Holds

section Lists

variable {α β : Type}

theorem map_zip_eq_zip_modify [DecidableEq α] {keys : List α} {values : List β} (distinct : keys.Nodup)
    {k : Nat} (found : k < keys.length) (f : β → β) :
    (keys.zip values).map (fun entry => if entry.1 = keys[k] then (entry.1, f entry.2) else entry) =
      keys.zip (values.modify k f) := by
  apply List.ext_getElem (by simp)
  intro j inMap inZip
  rw [List.getElem_map, List.getElem_zip, List.getElem_zip, List.getElem_modify]
  by_cases here : j = k
  · subst here
    simp
  · simp [distinct.getElem_inj_iff, here, Ne.symm here]

end Lists

theorem fileWrite_length (file data : List UInt8) : fileWrite file file.length data = file ++ data := by
  simp [fileWrite]

theorem EasyFileSystem.contents_inodesUpTo (fs : EasyFileSystem) (count : Nat) (device : BlockDevice) :
    contents (fs.inodesUpTo count) device =
      (fs.rootInode.diskInodeOn device).fileBytes device :: (contents (fs.inodesUpTo count) device).tail := by
  simp only [contents, EasyFileSystem.inodesUpTo, List.range_succ_eq_map, List.map_cons, List.tail_cons]
  rfl

section Calls

variable {fs : EasyFileSystem} {area : Nat} {device device' : BlockDevice} {inode : Inode}
  {diskInode : DiskInode}

theorem Inode.OnVolume.inside (onVolume : inode.OnVolume fs area device diskInode) :
    inode.blockId < device.blocks := by
  have before := onVolume.beforeBitmap
  have below := onVolume.laid.bitmapBelow
  have inside := onVolume.laid.inside
  omega

variable (table : fs.InodeArea)

include table

theorem Inode.OnVolume.writeAt_keeps (onVolume : inode.OnVolume fs area device diskInode)
    (inArea : fs.inodeAreaStartBlock.toNat ≤ inode.blockId) {offset written : Nat} {buf : List UInt8}
    (nonempty : buf ≠ []) (noHole : offset ≤ diskInode.size.toNat)
    (bounded : offset + buf.length ≤ indirect2Bound * blockSz)
    (room : blocksFor (offset + buf.length) - blocksFor diskInode.size.toNat ≤ (fs.freeBlocks device area).length)
    (call : inode.writeAt fs device offset buf = .ok (written, device')) :
    Keeps device device' fun blockId => blockId < fs.inodeAreaStartBlock.toNat := by
  obtain ⟨device'', diskInode', call', wrote⟩ := onVolume.writeAt nonempty noHole bounded room
  rw [call'] at call
  obtain ⟨-, rfl⟩ := Prod.mk.inj (Except.ok.inj call)
  exact wrote.frame.keeps_beforeArea table inArea

theorem Inode.OnVolume.clear_keeps (onVolume : inode.OnVolume fs area device diskInode)
    (inArea : fs.inodeAreaStartBlock.toNat ≤ inode.blockId) (call : inode.clear fs device = .ok device') :
    Keeps device device' fun blockId => blockId < fs.inodeAreaStartBlock.toNat := by
  obtain ⟨device'', call', -, frame, -⟩ := onVolume.clear
  rw [call'] at call
  obtain rfl := Except.ok.inj call
  exact frame.keeps_beforeArea table inArea

end Calls

section Create

variable {self : Inode} {fs : EasyFileSystem} {device : BlockDevice} {name : String} {rootInode : DiskInode}

theorem Inode.create_of_found {inodeId : UInt32} (located : self.readDiskInode device = .ok rootInode)
    (dir : rootInode.isDir = true) (found : Inode.findInodeId name rootInode device = .ok (some inodeId)) :
    self.create fs device name = .ok (none, device) := by
  rw [Inode.create, located, ok_bind, if_neg (by rw [dir]; decide), found, ok_bind, if_pos Option.isSome_some]

theorem Inode.create_of_absent {device1 : BlockDevice} {newInodeId : UInt32} {entry : DirEntry}
    (located : self.readDiskInode device = .ok rootInode) (dir : rootInode.isDir = true)
    (absent : Inode.findInodeId name rootInode device = .ok none)
    (alloc : fs.allocInode device = .ok (newInodeId, device1))
    (inside : (fs.inodeAt newInodeId).blockId < device1.blocks)
    (made : DirEntry.new name newInodeId = .ok entry)
    (rootInside : self.blockId < ((fs.inodeAt newInodeId).initialized device1 .file).blocks) :
    self.create fs device name =
      (self.writeAt fs ((fs.inodeAt newInodeId).initialized device1 .file)
          ((self.diskInodeOn ((fs.inodeAt newInodeId).initialized device1 .file)).size.toNat / direntSz *
            direntSz) entry.asBytes >>= fun result => pure (some (fs.inodeAt newInodeId), result.2)) := by
  rw [Inode.create, located, ok_bind, if_neg (by rw [dir]; decide), absent, ok_bind,
    if_neg (by decide), alloc, ok_bind]
  dsimp only
  rw [getBlockCache_bind _ (show (fs.getDiskInodePos newInodeId).1.toNat < device1.blocks from inside)]
  change (Inode.modifyDiskInode self ((fs.inodeAt newInodeId).initialized device1 .file) _ >>= _) = _
  unfold Inode.writeAt Inode.modifyDiskInode
  rw [getBlockCache_bind _ rootInside, getBlockCache_bind _ rootInside, DirEntry.length_asBytes, ← Nat.succ_mul]
  simp only [Inode.diskInodeOn]
  cases increaseSize fs (UInt32.ofNat (((EasyFs.readDiskInode ((fs.inodeAt newInodeId).initialized device1 .file)
      self.blockId self.blockOffset).size.toNat / direntSz).succ * direntSz))
      (EasyFs.readDiskInode ((fs.inodeAt newInodeId).initialized device1 .file) self.blockId self.blockOffset)
      ((fs.inodeAt newInodeId).initialized device1 .file) with
  | error message => rfl
  | ok grown =>
      simp only [ok_bind, made]
      cases grown.1.writeAt ((EasyFs.readDiskInode ((fs.inodeAt newInodeId).initialized device1 .file)
        self.blockId self.blockOffset).size.toNat / direntSz * direntSz) entry.asBytes grown.2 <;> rfl

end Create

section Steps

variable {fs : EasyFileSystem} (table : fs.InodeArea) {area : Nat} {device device' : BlockDevice}
  {names : List String}

include table

theorem DirectoryOnVolume.of_call (volume : DirectoryOnVolume fs area device names)
    (files : FilesOnVolume fs area device' (fs.inodesUpTo names.length))
    (root : fs.rootInode.diskInodeOn device' = fs.rootInode.diskInodeOn device)
    (rootBytes : (fs.rootInode.diskInodeOn device').fileBytes device' =
      (fs.rootInode.diskInodeOn device).fileBytes device)
    (keeps : Keeps device device' fun blockId => blockId < fs.inodeAreaStartBlock.toNat) :
    DirectoryOnVolume fs area device' names where
  files := files
  isDir := by rw [root]; exact volume.isDir
  listed := by rw [rootBytes]; exact volume.listed
  fit := volume.fit
  distinct := volume.distinct
  taken := table.filledBelow_of_keeps keeps volume.taken
  room := volume.room

theorem DirectoryOnVolume.of_fileCall (volume : DirectoryOnVolume fs area device names) {k : Nat}
    (files : FilesOnVolume fs area device' (fs.inodesUpTo names.length))
    (root : fs.rootInode.diskInodeOn device' = fs.rootInode.diskInodeOn device)
    (keeps : Keeps device device' fun blockId => blockId < fs.inodeAreaStartBlock.toNat)
    {change : List UInt8 → List UInt8}
    (moved : contents (fs.inodesUpTo names.length) device' =
      (contents (fs.inodesUpTo names.length) device).modify (k + 1) change) :
    DirectoryOnVolume fs area device' names ∧
      directoryOn fs device' = names.zip ((contents (fs.inodesUpTo names.length) device).tail.modify k change) := by
  rw [EasyFileSystem.contents_inodesUpTo fs _ device', EasyFileSystem.contents_inodesUpTo fs _ device,
    List.modify_succ_cons] at moved
  obtain ⟨rootBytes, rest⟩ := List.cons.inj moved
  have volume' := volume.of_call table files root rootBytes keeps
  refine ⟨volume', ?_⟩
  rw [volume'.directoryOn_eq, rest]

theorem DirectoryOnVolume.writeAt (volume : DirectoryOnVolume fs area device names) {name : String}
    {inode : Inode} {offset : Nat} {buf : List UInt8}
    (found : fs.rootInode.find fs device name = .ok (some inode)) (nonempty : buf ≠ [])
    (noHole : offset ≤ (inode.diskInodeOn device).size.toNat)
    (bounded : offset + buf.length ≤ indirect2Bound * blockSz)
    (room : blocksFor (offset + buf.length) - blocksFor (inode.diskInodeOn device).size.toNat ≤
      (fs.freeBlocks device area).length) :
    ∃ device', inode.writeAt fs device offset buf = .ok (buf.length, device') ∧
      DirectoryOnVolume fs area device' names ∧
      directoryOn fs device' = (DirOp.writeAt name offset buf).apply (directoryOn fs device) := by
  obtain ⟨k, below, rfl, rfl⟩ := volume.exists_of_find found
  have inFiles : k + 1 < (fs.inodesUpTo names.length).length := by simpa using below
  have index : (fs.inodesUpTo names.length)[k + 1] = fs.inodeAt (UInt32.ofNat (k + 1)) :=
    EasyFileSystem.getElem_inodesUpTo fs inFiles
  have inArea := (table.inodeAt_inArea volume.root.laid (show k + 1 < fs.inodeBitmap.maximum by
    have := volume.room; omega)).1
  rw [← index] at noHole room inArea ⊢
  obtain ⟨device', -, call, -⟩ := (volume.files.onVolume (k + 1) inFiles).writeAt nonempty noHole bounded room
  have keeps := (volume.files.onVolume (k + 1) inFiles).writeAt_keeps table inArea nonempty noHole bounded
    room call
  obtain ⟨files, moved, same⟩ := volume.files.writeAt inFiles nonempty noHole bounded room call
  have root := same 0 (by simp) (by omega)
  rw [EasyFileSystem.getElem_inodesUpTo_zero] at root
  obtain ⟨volume', view⟩ := volume.of_fileCall table files root keeps moved
  refine ⟨device', call, volume', ?_⟩
  rw [view, volume.directoryOn_eq]
  exact (map_zip_eq_zip_modify volume.distinct below _).symm

/-- A `clear` through `find` returns and moves the directory as `DirOp.clear`. -/
theorem DirectoryOnVolume.clear (volume : DirectoryOnVolume fs area device names) {name : String}
    {inode : Inode} (found : fs.rootInode.find fs device name = .ok (some inode)) :
    ∃ device', inode.clear fs device = .ok device' ∧ DirectoryOnVolume fs area device' names ∧
      directoryOn fs device' = (DirOp.clear name).apply (directoryOn fs device) := by
  obtain ⟨k, below, rfl, rfl⟩ := volume.exists_of_find found
  have inFiles : k + 1 < (fs.inodesUpTo names.length).length := by simpa using below
  have index : (fs.inodesUpTo names.length)[k + 1] = fs.inodeAt (UInt32.ofNat (k + 1)) :=
    EasyFileSystem.getElem_inodesUpTo fs inFiles
  have inArea := (table.inodeAt_inArea volume.root.laid (show k + 1 < fs.inodeBitmap.maximum by
    have := volume.room; omega)).1
  rw [← index] at inArea ⊢
  obtain ⟨device', call, -⟩ := (volume.files.onVolume (k + 1) inFiles).clear
  have keeps := (volume.files.onVolume (k + 1) inFiles).clear_keeps table inArea call
  obtain ⟨files, moved, same⟩ := volume.files.clear inFiles call
  have root := same 0 (by simp) (by omega)
  rw [EasyFileSystem.getElem_inodesUpTo_zero] at root
  rw [FileOp.apply, List.set_eq_modify] at moved
  obtain ⟨volume', view⟩ := volume.of_fileCall table files root keeps moved
  refine ⟨device', call, volume', ?_⟩
  rw [view, volume.directoryOn_eq]
  exact (map_zip_eq_zip_modify volume.distinct below _).symm

omit table in
theorem DirectoryOnVolume.create_of_mem (volume : DirectoryOnVolume fs area device names) {name : String}
    (present : name ∈ names) : fs.rootInode.create fs device name = .ok (none, device) := by
  obtain ⟨k, below, rfl⟩ := List.getElem_of_mem present
  exact Inode.create_of_found volume.root.holds.located volume.isDir (volume.findInodeId_getElem below)

theorem DirectoryOnVolume.create_of_not_mem (volume : DirectoryOnVolume fs area device names)
    {name : String} (fits : NameFits name) (absent : name ∉ names)
    (inodeRoom : names.length + 1 < fs.inodeBitmap.maximum)
    (bounded : (names.length + 1) * direntSz ≤ indirect2Bound * blockSz)
    (room : blocksFor ((names.length + 1) * direntSz) -
        blocksFor (fs.rootInode.diskInodeOn device).size.toNat ≤ (fs.freeBlocks device area).length) :
    ∃ device', fs.rootInode.create fs device name =
        .ok (some (fs.inodeAt (UInt32.ofNat (names.length + 1))), device') ∧
      DirectoryOnVolume fs area device' (names ++ [name]) ∧
      directoryOn fs device' = directoryOn fs device ++ [(name, [])] := by
  obtain ⟨entries, built, listed, listing, -, length, -⟩ := volume.entries
  obtain ⟨device1, alloc, inside, files2, moved2, same2, free2, filled2⟩ :=
    volume.files.allocInode table volume.taken inodeRoom
  obtain ⟨entry, made, -, -⟩ :=
    @DirEntry.new_eq name (UInt32.ofNat (names.length + 1)) (Nat.le_succ_of_le fits.1)
  have rootFile : 0 < (fs.inodesUpTo (names.length + 1)).length := by simp
  have root2 := same2 0 (by simp)
  rw [EasyFileSystem.getElem_inodesUpTo_zero] at root2
  have onVolume2 := files2.onVolume 0 rootFile
  rw [EasyFileSystem.getElem_inodesUpTo_zero, root2] at onVolume2
  have counted : (fs.rootInode.diskInodeOn device).size.toNat / direntSz = names.length := by
    rw [listing.count, length]
  have nonempty : entry.asBytes ≠ [] := List.ne_nil_of_length_pos (by rw [DirEntry.length_asBytes]; decide)
  have noHole : names.length * direntSz ≤ (fs.rootInode.diskInodeOn device).size.toNat := by
    rw [← counted]
    exact Nat.div_mul_le_self _ _
  have bounded' : names.length * direntSz + entry.asBytes.length ≤ indirect2Bound * blockSz := by
    rw [DirEntry.length_asBytes, ← Nat.succ_mul]
    exact bounded
  have room' : blocksFor (names.length * direntSz + entry.asBytes.length) -
      blocksFor (fs.rootInode.diskInodeOn device).size.toNat ≤
        (fs.freeBlocks ((fs.inodeAt (UInt32.ofNat (names.length + 1))).initialized device1 .file) area).length := by
    rw [free2, DirEntry.length_asBytes, ← Nat.succ_mul]
    exact room
  have rootArea : fs.inodeAreaStartBlock.toNat ≤ fs.rootInode.blockId :=
    (table.inodeAt_inArea volume.root.laid (show 0 < fs.inodeBitmap.maximum by omega)).1
  obtain ⟨device', -, wrote, -⟩ := onVolume2.writeAt nonempty noHole bounded' room'
  have created : fs.rootInode.create fs device name =
      .ok (some (fs.inodeAt (UInt32.ofNat (names.length + 1))), device') := by
    rw [Inode.create_of_absent volume.root.holds.located volume.isDir (volume.findInodeId_of_not_mem absent)
      alloc inside made onVolume2.inside, root2, counted, wrote]
    rfl
  have keeps := onVolume2.writeAt_keeps table rootArea nonempty noHole bounded' room' wrote
  have dir : (fs.rootInode.diskInodeOn device').isDir = true := by
    have dir := volume.isDir
    unfold DiskInode.isDir at dir ⊢
    rw [Inode.writeAt_type wrote, root2]
    exact dir
  rw [← root2] at noHole room'
  rw [← EasyFileSystem.getElem_inodesUpTo_zero fs (names.length + 1) rootFile] at noHole room' wrote
  obtain ⟨files3, moved3, -⟩ := files2.writeAt rootFile nonempty noHole bounded' room' wrote
  rw [FileOp.apply, moved2, EasyFileSystem.contents_inodesUpTo fs _ device, List.cons_append,
    List.modify_zero_cons, EasyFileSystem.contents_inodesUpTo fs _ device'] at moved3
  obtain ⟨rootBytes, rest⟩ := List.cons.inj moved3
  have lengthBytes : names.length * direntSz = ((entries.map DirEntry.asBytes).flatten).length := by
    rw [length_flatten_asBytes, length, Nat.mul_comm]
  rw [listed, lengthBytes, fileWrite_length] at rootBytes
  have volume' : DirectoryOnVolume fs area device' (names ++ [name]) :=
    { files := by rw [List.length_append, List.length_singleton]; exact files3
      isDir := dir
      listed := ⟨entries ++ [entry], by rw [dirEntries_append, built, ok_bind, made]; rfl, by
        rw [rootBytes, List.map_append, List.flatten_append, List.map_singleton, List.flatten_singleton]⟩
      fit := fun other member => by
        rcases List.mem_append.mp member with old | new
        · exact volume.fit other old
        · rw [List.mem_singleton.mp new]
          exact fits
      distinct := by
        rw [← List.concat_eq_append]
        exact volume.distinct.concat absent
      taken := by
        rw [List.length_append, List.length_singleton]
        exact table.filledBelow_of_keeps keeps filled2
      room := by
        rw [List.length_append, List.length_singleton]
        exact inodeRoom }
  refine ⟨device', created, volume', ?_⟩
  have tailLength : (contents (fs.inodesUpTo names.length) device).tail.length = names.length := by
    simp [contents]
  rw [volume'.directoryOn_eq, volume.directoryOn_eq, List.length_append, List.length_singleton, rest,
    List.zip_append tailLength.symm]
  rfl

theorem DirectoryOnVolume.step (volume : DirectoryOnVolume fs area device names) {label : Option DirOp}
    (step : DirStep fs area device label device') :
    (∃ names', DirectoryOnVolume fs area device' names') ∧
      directoryOn fs device' = label.toList.foldl DirOp.apply (directoryOn fs device) := by
  cases step with
  | create absent fits inodeRoom bounded room call =>
      rw [volume.fileCount_eq] at inodeRoom bounded room
      obtain ⟨device'', created, volume', view⟩ := volume.create_of_not_mem table fits
        (volume.not_mem_of_find absent) inodeRoom bounded room
      rw [created] at call
      obtain ⟨-, rfl⟩ := Prod.mk.inj (Except.ok.inj call)
      refine ⟨⟨_, volume'⟩, ?_⟩
      simp only [Option.toList_some, List.foldl_cons, List.foldl_nil]
      rw [view, DirOp.apply, if_neg (by rw [volume.map_fst_directoryOn]; exact volume.not_mem_of_find absent)]
  | createFound found call =>
      obtain ⟨k, below, rfl, -⟩ := volume.exists_of_find found
      rw [volume.create_of_mem (List.getElem_mem below)] at call
      obtain ⟨-, rfl⟩ := Prod.mk.inj (Except.ok.inj call)
      refine ⟨⟨names, volume⟩, ?_⟩
      simp only [Option.toList_some, List.foldl_cons, List.foldl_nil]
      rw [DirOp.apply, if_pos (by rw [volume.map_fst_directoryOn]; exact List.getElem_mem below)]
  | writeAt found nonempty noHole bounded room call =>
      obtain ⟨device'', returned, volume', view⟩ := volume.writeAt table found nonempty noHole bounded room
      rw [returned] at call
      obtain ⟨-, rfl⟩ := Prod.mk.inj (Except.ok.inj call)
      exact ⟨⟨names, volume'⟩, view⟩
  | clear found call =>
      obtain ⟨device'', returned, volume', view⟩ := volume.clear table found
      rw [returned] at call
      obtain rfl := Except.ok.inj call
      exact ⟨⟨names, volume'⟩, view⟩

end Steps

section Formatted

variable {totalBlocks inodeBitmapBlocks : UInt32}

theorem formatted_directoryOnVolume {device : BlockDevice} (fits : totalBlocks.toNat ≤ device.blocks)
    (admits : EasyFileSystem.Admits totalBlocks inodeBitmapBlocks) (someInodes : 0 < inodeBitmapBlocks.toNat)
    (untruncated : inodeBitmapBlocks.toNat < 2 ^ 22) (unwrapped : totalBlocks.toNat + 4096 < 2 ^ 32) :
    DirectoryOnVolume (EasyFileSystem.layout totalBlocks inodeBitmapBlocks)
      (EasyFileSystem.regions totalBlocks inodeBitmapBlocks).dataAreaBlocks.toNat
      (EasyFileSystem.formatted device totalBlocks inodeBitmapBlocks) [] := by
  obtain ⟨diskInode, stored⟩ : ∃ diskInode : DiskInode,
      (EasyFileSystem.layout totalBlocks inodeBitmapBlocks).rootInode.diskInodeOn
        (EasyFileSystem.formatted device totalBlocks inodeBitmapBlocks) = diskInode.init .directory := by
    unfold Inode.diskInodeOn EasyFileSystem.rootInode EasyFileSystem.formatted
    simp only [EasyFileSystem.getDiskInodePos_zero]
    exact ⟨_, readDiskInode_writeDiskInode _ _ _ _⟩
  have maximum : 0 < (EasyFileSystem.layout totalBlocks inodeBitmapBlocks).inodeBitmap.maximum := by
    show 0 < inodeBitmapBlocks.toNat * blockBits
    rw [blockBits_eq]
    omega
  refine ⟨formatted_filesOnVolume fits admits someInodes untruncated unwrapped, by rw [stored]; rfl,
    ⟨[], rfl, ?_⟩, fun _ absent => absurd absent List.not_mem_nil, List.nodup_nil,
    EasyFileSystem.formatted_inodeTaken admits, maximum⟩
  rw [stored]
  exact List.eq_nil_of_length_eq_zero (by rw [length_fileBytes]; rfl)

theorem emptyImage_directoryOnVolume : DirectoryOnVolume (EasyFileSystem.layout 1030 1)
    (EasyFileSystem.regions 1030 1).dataAreaBlocks.toNat (EasyFileSystem.formatted emptyImage 1030 1) [] :=
  formatted_directoryOnVolume (by decide) (by decide) (by decide) (by decide) (by decide)

theorem directoryOn_emptyImage :
    directoryOn (EasyFileSystem.layout 1030 1) (EasyFileSystem.formatted emptyImage 1030 1) = [] := by
  rw [emptyImage_directoryOnVolume.directoryOn_eq, List.zip_nil_left]

end Formatted

theorem DirectoryOnVolume.run {fs : EasyFileSystem} {area : Nat} {names : List String}
    {device device' : BlockDevice} {log : List DirOp} (table : fs.InodeArea)
    (volume : DirectoryOnVolume fs area device names)
    (run : Transition.Run (DirStep fs area) device log device') :
    (∃ names', DirectoryOnVolume fs area device' names') ∧
      directoryOn fs device' = log.foldl DirOp.apply (directoryOn fs device) :=
  run.fold (directoryOn fs) DirOp.apply
    (fun current _ _ (holds : ∃ names', DirectoryOnVolume fs area current names') step =>
      holds.elim fun _ volume => volume.step table step) ⟨names, volume⟩

end EasyFs

end ChOs
