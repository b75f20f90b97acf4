import ChOs.Fs.RootDirectory

set_option autoImplicit false

/- The runs a directory volume has (`Inode::create`, `find`, `write_at` and `clear` of
`easy-fs/src/vfs.rs`). -/

namespace ChOs

namespace EasyFs

open BlockDevice DiskInode

/-- The blocks the root and the files of a directory take: the root holds one entry per file. -/
def usedBlocks (directory : List (String × List UInt8)) : Nat :=
  blocksFor (direntSz * directory.length) + (directory.map fun file => blocksFor file.2.length).sum

/-- A call the directory has room for, in a data area of `area` blocks and an inode bitmap of
`maximum` bits. -/
def DirOp.Fits (area maximum : Nat) (directory : List (String × List UInt8)) : DirOp → Prop
  | .create name => name ∈ directory.map Prod.fst ∨
      NameFits name ∧ directory.length + 1 < maximum ∧
        (directory.length + 1) * direntSz ≤ indirect2Bound * blockSz ∧
        blocksFor ((directory.length + 1) * direntSz) - blocksFor (direntSz * directory.length) ≤
          area - usedBlocks directory
  | .writeAt name offset buf => ∃ file ∈ directory, file.1 = name ∧ buf ≠ [] ∧
      offset ≤ file.2.length ∧ offset + buf.length ≤ indirect2Bound * blockSz ∧
      blocksFor (offset + buf.length) - blocksFor file.2.length ≤ area - usedBlocks directory
  | .clear name => name ∈ directory.map Prod.fst

instance (area maximum : Nat) (directory : List (String × List UInt8)) :
    (op : DirOp) → Decidable (DirOp.Fits area maximum directory op)
  | .create _ => inferInstanceAs (Decidable (_ ∨ _))
  | .writeAt _ _ _ => inferInstanceAs (Decidable (∃ _ ∈ _, _))
  | .clear _ => inferInstanceAs (Decidable (_ ∈ _))

/-- A log of calls each of which fits the directory the calls before it leave. -/
def DirOp.Allowed (area maximum : Nat) (directory : List (String × List UInt8)) (log : List DirOp) :
    Prop :=
  ∀ k (found : k < log.length), DirOp.Fits area maximum ((log.take k).foldl DirOp.apply directory) log[k]

instance (area maximum : Nat) (directory : List (String × List UInt8)) (log : List DirOp) :
    Decidable (DirOp.Allowed area maximum directory log) :=
  inferInstanceAs (Decidable (∀ k (_ : k < log.length), _))

theorem DirOp.allowed_append {area maximum : Nat} {directory : List (String × List UInt8)}
    {log : List DirOp} {op : DirOp} :
    DirOp.Allowed area maximum directory (log ++ [op]) ↔
      DirOp.Allowed area maximum directory log ∧
        DirOp.Fits area maximum (log.foldl DirOp.apply directory) op := by
  constructor
  · intro allowed
    refine ⟨fun k found => ?_, ?_⟩
    · have fits := allowed k (by simp; omega)
      rwa [List.take_append_of_le_length (Nat.le_of_lt found), List.getElem_append_left found] at fits
    · have fits := allowed log.length (by simp)
      rwa [List.take_left, List.getElem_concat_length rfl] at fits
  · rintro ⟨allowed, fits⟩ k found
    by_cases old : k < log.length
    · rw [List.take_append_of_le_length (Nat.le_of_lt old), List.getElem_append_left old]
      exact allowed k old
    · have last : k = log.length := by simp at found; omega
      subst last
      rw [List.take_left, List.getElem_concat_length rfl]
      exact fits

section Room

variable {fs : EasyFileSystem} {area : Nat} {device : BlockDevice} {names : List String}

theorem DirectoryOnVolume.rootSize (volume : DirectoryOnVolume fs area device names) :
    (fs.rootInode.diskInodeOn device).size.toNat = direntSz * names.length := by
  obtain ⟨entries, -, listed, -, -, length, -⟩ := volume.entries
  rw [← length_fileBytes, listed, length_flatten_asBytes, length]

theorem DirectoryOnVolume.length_directoryOn (volume : DirectoryOnVolume fs area device names) :
    (directoryOn fs device).length = names.length := by
  rw [← List.length_map Prod.fst, volume.map_fst_directoryOn]

theorem DirectoryOnVolume.freeBlocks_length (volume : DirectoryOnVolume fs area device names) :
    (fs.freeBlocks device area).length = area - usedBlocks (directoryOn fs device) := by
  have counted := volume.files.counted
  have tailLength : (contents (fs.inodesUpTo names.length) device).tail.length = names.length := by
    simp [contents]
  have sizes : (fs.inodesUpTo names.length).map (fun inode => blocksFor (inode.diskInodeOn device).size.toNat) =
      (contents (fs.inodesUpTo names.length) device).map fun bytes => blocksFor bytes.length := by
    simp [contents]
  have files : (directoryOn fs device).map (fun file => blocksFor file.2.length) =
      (contents (fs.inodesUpTo names.length) device).tail.map fun bytes => blocksFor bytes.length := by
    rw [volume.directoryOn_eq, show (fun file : String × List UInt8 => blocksFor file.2.length) =
      (fun bytes => blocksFor bytes.length) ∘ Prod.snd from rfl, ← List.map_map, List.map_snd_zip (by omega)]
  rw [sizes, EasyFileSystem.contents_inodesUpTo fs _ device, List.map_cons, List.sum_cons, length_fileBytes,
    volume.rootSize, ← files] at counted
  unfold usedBlocks
  rw [volume.length_directoryOn]
  omega

end Room

section Steps

variable {fs : EasyFileSystem} (table : fs.InodeArea) {area : Nat} {device : BlockDevice}
  {names : List String}

include table

theorem DirectoryOnVolume.create_of_fits (volume : DirectoryOnVolume fs area device names) {name : String}
    (absent : name ∉ names) (fits : DirOp.Fits area fs.inodeBitmap.maximum (directoryOn fs device) (.create name)) :
    ∃ device', fs.rootInode.create fs device name =
        .ok (some (fs.inodeAt (UInt32.ofNat (names.length + 1))), device') ∧
      DirStep fs area device (some (.create name)) device' ∧ DirectoryOnVolume fs area device' (names ++ [name]) := by
  rcases fits with taken | ⟨nameFits, inodeRoom, bounded, room⟩
  · rw [volume.map_fst_directoryOn] at taken
    exact absurd taken absent
  rw [volume.length_directoryOn] at inodeRoom bounded room
  rw [← volume.freeBlocks_length, ← volume.rootSize] at room
  obtain ⟨device', created, volume', -⟩ := volume.create_of_not_mem table nameFits absent inodeRoom bounded room
  rw [← volume.fileCount_eq] at inodeRoom bounded room
  exact ⟨device', created, .create (volume.find_of_not_mem absent) nameFits inodeRoom bounded room created, volume'⟩

theorem DirectoryOnVolume.step_of_fits (volume : DirectoryOnVolume fs area device names) {op : DirOp}
    (fits : DirOp.Fits area fs.inodeBitmap.maximum (directoryOn fs device) op) :
    ∃ device', DirStep fs area device (some op) device' := by
  have free := volume.freeBlocks_length
  cases op with
  | create name =>
      by_cases present : name ∈ names
      · obtain ⟨k, below, rfl⟩ := List.getElem_of_mem present
        exact ⟨device, .createFound (volume.find_getElem below) (volume.create_of_mem present)⟩
      · obtain ⟨device', -, step, -⟩ := volume.create_of_fits table present fits
        exact ⟨device', step⟩
  | writeAt name offset buf =>
      obtain ⟨file, member, rfl, nonempty, noHole, bounded, room⟩ := fits
      obtain ⟨inode, found, -, bytes⟩ := volume.find_of_mem member
      have size : (inode.diskInodeOn device).size.toNat = file.2.length := by
        rw [← length_fileBytes, bytes]
      rw [← size] at noHole room
      rw [← free] at room
      obtain ⟨device', call, -⟩ := volume.writeAt table found nonempty noHole bounded room
      exact ⟨device', .writeAt found nonempty noHole bounded room call⟩
  | clear name =>
      obtain ⟨file, member, rfl⟩ := List.mem_map.mp fits
      obtain ⟨inode, found, -⟩ := volume.find_of_mem member
      obtain ⟨device', call, -⟩ := volume.clear table found
      exact ⟨device', .clear found call⟩

end Steps

/-- The volume refines the abstract directory. Along every run of `create`, and of `write_at` and
`clear` through `find`, from a volume that holds a directory, the volume still holds one, `ls`
lists the names of the directory the calls compute, `find` opens under each of them a file whose
`read_at` reads its contents, and under every other name opens nothing. -/
theorem volume_refines_directory {fs : EasyFileSystem} {area : Nat} {names : List String}
    {device device' : BlockDevice} {log : List DirOp} (table : fs.InodeArea)
    (volume : DirectoryOnVolume fs area device names)
    (run : Transition.Run (DirStep fs area) device log device') :
    (∃ names', DirectoryOnVolume fs area device' names') ∧
      directoryOn fs device' = log.foldl DirOp.apply (directoryOn fs device) ∧
      fs.rootInode.ls device' = .ok ((log.foldl DirOp.apply (directoryOn fs device)).map Prod.fst) ∧
      (∀ file ∈ log.foldl DirOp.apply (directoryOn fs device), ∃ inode,
        fs.rootInode.find fs device' file.1 = .ok (some inode) ∧
        ∀ offset buf, inode.readAt device' offset buf = .ok (fileRead file.2 offset buf)) ∧
      ∀ name ∉ (log.foldl DirOp.apply (directoryOn fs device)).map Prod.fst,
        fs.rootInode.find fs device' name = .ok none := by
  obtain ⟨⟨names', volume'⟩, moved⟩ := volume.run table run
  rw [← moved, volume'.map_fst_directoryOn]
  exact ⟨⟨names', volume'⟩, rfl, volume'.ls, fun file member => volume'.readAt_of_mem member,
    fun name absent => volume'.find_of_not_mem absent⟩

/-- On the volume `create` formats, `create "a"` and then a write of the byte 1 to it: `ls` lists
`a`, `find` opens under it a file that reads the byte back, and opens nothing under any other
name. -/
theorem formatted_volume_refines_directory :
    ∃ device', Transition.Run (DirStep (EasyFileSystem.layout 1030 1)
        (EasyFileSystem.regions 1030 1).dataAreaBlocks.toNat) (EasyFileSystem.formatted emptyImage 1030 1)
        [.create "a", .writeAt "a" 0 [1]] device' ∧
      (∃ names', DirectoryOnVolume (EasyFileSystem.layout 1030 1)
        (EasyFileSystem.regions 1030 1).dataAreaBlocks.toNat device' names') ∧
      (EasyFileSystem.layout 1030 1).rootInode.ls device' = .ok ["a"] ∧
      (∃ inode, (EasyFileSystem.layout 1030 1).rootInode.find (EasyFileSystem.layout 1030 1) device' "a" =
          .ok (some inode) ∧ ∀ offset buf, inode.readAt device' offset buf = .ok (fileRead [1] offset buf)) ∧
      ∀ name, name ≠ "a" →
        (EasyFileSystem.layout 1030 1).rootInode.find (EasyFileSystem.layout 1030 1) device' name = .ok none := by
  have table : (EasyFileSystem.layout 1030 1).InodeArea :=
    EasyFileSystem.layout_inodeArea (by decide) (by decide)
  have volume := emptyImage_directoryOnVolume
  have empty := directoryOn_emptyImage
  have fitsCreate : DirOp.Fits (EasyFileSystem.regions 1030 1).dataAreaBlocks.toNat
      (EasyFileSystem.layout 1030 1).inodeBitmap.maximum
      (directoryOn (EasyFileSystem.layout 1030 1) (EasyFileSystem.formatted emptyImage 1030 1)) (.create "a") := by
    rw [empty]
    decide
  obtain ⟨device1, created⟩ := volume.step_of_fits table fitsCreate
  obtain ⟨⟨names1, volume1⟩, view1⟩ := volume.step table created
  have fitsWrite : DirOp.Fits (EasyFileSystem.regions 1030 1).dataAreaBlocks.toNat
      (EasyFileSystem.layout 1030 1).inodeBitmap.maximum
      (directoryOn (EasyFileSystem.layout 1030 1) device1) (.writeAt "a" 0 [1]) := by
    rw [view1, empty]
    decide
  obtain ⟨device2, wrote⟩ := volume1.step_of_fits table fitsWrite
  have run : Transition.Run (DirStep (EasyFileSystem.layout 1030 1)
      (EasyFileSystem.regions 1030 1).dataAreaBlocks.toNat) (EasyFileSystem.formatted emptyImage 1030 1)
      [.create "a", .writeAt "a" 0 [1]] device2 :=
    ((Transition.Run.refl _).step created).step wrote
  obtain ⟨onVolume, -, listed, found, others⟩ := volume_refines_directory table volume run
  have files : [DirOp.create "a", .writeAt "a" 0 [1]].foldl DirOp.apply
      (directoryOn (EasyFileSystem.layout 1030 1) (EasyFileSystem.formatted emptyImage 1030 1)) =
        [("a", [1])] := by
    rw [empty]
    decide
  rw [files] at listed found others
  exact ⟨device2, run, onVolume, listed, found ("a", [1]) List.mem_cons_self,
    fun name differ => others name (by simpa using differ)⟩

/-- The abstract directory runs on the volume. From a volume that holds a directory, every log of
calls each of which fits the directory the calls before it leave is a run of the kernel's calls:
none of them panics, and the run moves what `ls` and `find` show as the abstract directory does. -/
theorem volume_runs_directory {fs : EasyFileSystem} {area : Nat} {names : List String}
    {device : BlockDevice} (table : fs.InodeArea) (volume : DirectoryOnVolume fs area device names)
    {log : List DirOp} (allowed : DirOp.Allowed area fs.inodeBitmap.maximum (directoryOn fs device) log) :
    ∃ device', Transition.Run (DirStep fs area) device log device' ∧
      directoryOn fs device' = log.foldl DirOp.apply (directoryOn fs device) := by
  induction log using List.reverseRecOn with
  | nil => exact ⟨device, .refl device, rfl⟩
  | append_singleton log op ih =>
      obtain ⟨before, fits⟩ := DirOp.allowed_append.mp allowed
      obtain ⟨device1, run1, view1⟩ := ih before
      obtain ⟨⟨names1, volume1⟩, -⟩ := volume.run table run1
      rw [← view1] at fits
      obtain ⟨device2, step⟩ := volume1.step_of_fits table fits
      have run2 : Transition.Run (DirStep fs area) device (log ++ [op]) device2 := run1.step step
      exact ⟨device2, run2, (volume.run table run2).2⟩

/-- On the volume `create` formats, a file can be created and written. -/
theorem formatted_volume_runs_directory :
    ∃ device', Transition.Run (DirStep (EasyFileSystem.layout 1030 1)
        (EasyFileSystem.regions 1030 1).dataAreaBlocks.toNat) (EasyFileSystem.formatted emptyImage 1030 1)
        [.create "a", .writeAt "a" 0 [1]] device' ∧
      directoryOn (EasyFileSystem.layout 1030 1) device' = [DirOp.create "a", .writeAt "a" 0 [1]].foldl
        DirOp.apply (directoryOn (EasyFileSystem.layout 1030 1) (EasyFileSystem.formatted emptyImage 1030 1)) :=
  volume_runs_directory (EasyFileSystem.layout_inodeArea (by decide) (by decide))
    emptyImage_directoryOnVolume (by rw [directoryOn_emptyImage]; decide)

end EasyFs

end ChOs
