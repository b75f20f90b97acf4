import ChOs.Fs.DirectoryRuns
import ChOs.Fs.OpenFile

set_option autoImplicit false

/- `open_file` of `os/src/fs/inode.rs` on a volume that holds a directory. -/

namespace ChOs

namespace EasyFs

open BlockDevice DiskInode

/-- The directory's calls that `open_file` makes. -/
def DirOp.ofOpen (name : String) (flags : OpenFlags) (directory : List (String × List UInt8)) : List DirOp :=
  if flags.contains OpenFlags.CREATE then
    if name ∈ directory.map Prod.fst then [.clear name] else [.create name]
  else if name ∈ directory.map Prod.fst ∧ flags.contains OpenFlags.TRUNC then [.clear name] else []

example : DirOp.ofOpen "a" OpenFlags.CREATE [] = [.create "a"] := by decide

theorem openFile_of_found {fs : EasyFileSystem} {device device' : BlockDevice} {name : String}
    (flags : OpenFlags) {inode : Inode} (found : fs.rootInode.find fs device name = .ok (some inode))
    (cleared : (if flags.contains OpenFlags.CREATE || flags.contains OpenFlags.TRUNC then inode.clear fs device
      else pure device) = .ok device') :
    openFile fs device name flags =
      .ok (some (OSInode.new flags.readWrite.1 flags.readWrite.2, inode), device') := by
  unfold openFile
  by_cases create : flags.contains OpenFlags.CREATE
  · rw [create, Bool.true_or, if_pos rfl] at cleared
    simp only [if_pos create, found, ok_bind, cleared]
    rfl
  · rw [Bool.not_eq_true] at create
    rw [create, Bool.false_or] at cleared
    simp only [create, Bool.false_eq_true, if_false, found, ok_bind]
    by_cases trunc : flags.contains OpenFlags.TRUNC
    · rw [if_pos trunc] at cleared
      simp only [if_pos trunc, cleared, ok_bind]
      rfl
    · rw [if_neg trunc] at cleared
      simp only [if_neg trunc]
      rw [cleared]
      rfl

section Open

variable {fs : EasyFileSystem} (table : fs.InodeArea) {area : Nat} {device : BlockDevice}
  {names : List String} {name : String} {flags : OpenFlags}

include table

theorem DirectoryOnVolume.openFile_run (volume : DirectoryOnVolume fs area device names)
    (fits : flags.contains OpenFlags.CREATE = true →
      DirOp.Fits area fs.inodeBitmap.maximum (directoryOn fs device) (.create name)) :
    ∃ result device', openFile fs device name flags = .ok (result, device') ∧
      Transition.Run (DirStep fs area) device (DirOp.ofOpen name flags (directoryOn fs device)) device' ∧
      (flags.contains OpenFlags.CREATE = true ∨ name ∈ names →
        ∃ inode, result = some (OSInode.new flags.readWrite.1 flags.readWrite.2, inode) ∧
          fs.rootInode.find fs device' name = .ok (some inode)) ∧
      (flags.contains OpenFlags.CREATE = false → name ∉ names → result = none) := by
  rw [DirOp.ofOpen, volume.map_fst_directoryOn]
  by_cases present : name ∈ names
  · obtain ⟨k, below, rfl⟩ := List.getElem_of_mem present
    have found := volume.find_getElem below
    by_cases clearing : flags.contains OpenFlags.CREATE || flags.contains OpenFlags.TRUNC
    · obtain ⟨device', call, volume', -⟩ := volume.clear table found
      have opened := openFile_of_found flags found (by rw [if_pos clearing]; exact call)
      have step : Transition.Run (DirStep fs area) device [.clear names[k]] device' :=
        (Transition.Run.refl device).step (DirStep.clear found call)
      refine ⟨_, device', opened, ?_, fun _ => ⟨_, rfl, volume'.find_getElem below⟩, fun _ absent =>
        absurd present absent⟩
      rcases Bool.or_eq_true _ _ ▸ clearing with create | trunc
      · rwa [if_pos create, if_pos present]
      · by_cases create : flags.contains OpenFlags.CREATE
        · rwa [if_pos create, if_pos present]
        · rwa [if_neg create, if_pos ⟨present, trunc⟩]
    · have opened := openFile_of_found flags found (by rw [if_neg clearing]; rfl)
      rw [Bool.or_eq_true, not_or] at clearing
      refine ⟨_, device, opened, ?_, fun _ => ⟨_, rfl, found⟩, fun _ absent => absurd present absent⟩
      rw [if_neg clearing.1, if_neg fun both => clearing.2 both.2]
      exact .refl device
  · have absent := volume.find_of_not_mem present
    by_cases create : flags.contains OpenFlags.CREATE
    · obtain ⟨device', created, step, volume'⟩ := volume.create_of_fits table present (fits create)
      have opened : openFile fs device name flags = .ok (some (OSInode.new flags.readWrite.1 flags.readWrite.2,
          fs.inodeAt (UInt32.ofNat (names.length + 1))), device') := by
        unfold openFile
        simp only [if_pos create, absent, ok_bind]
        rw [created, ok_bind]
        rfl
      have inNames : names.length < (names ++ [name]).length := by simp
      have now := volume'.find_getElem inNames
      rw [List.getElem_concat_length rfl] at now
      refine ⟨_, device', opened, ?_, fun _ => ⟨_, rfl, now⟩, fun notCreate => absurd create (by simp [notCreate])⟩
      rw [if_pos create, if_neg present]
      exact (Transition.Run.refl device).step step
    · have opened : openFile fs device name flags = .ok (none, device) := by
        unfold openFile
        simp only [create, absent, ok_bind]
        rfl
      refine ⟨none, device, opened, ?_, fun either => ?_, fun _ _ => rfl⟩
      · rw [if_neg create, if_neg fun both => present both.1]
        exact .refl device
      · rcases either with created | member
        · exact absurd created create
        · exact absurd member present

end Open

/-- `open_file` refines the directory. On a volume that holds a directory, with room for the new
file under `CREATE`, `open_file` returns; the volume still holds a directory, the one the calls
`DirOp.ofOpen` makes compute; and the file it opens, under `CREATE` or for a name the directory
has, is the one `find` then opens, whose `read_at` reads the contents the directory gives the
name. -/
theorem open_file_refines_directory {fs : EasyFileSystem} {area : Nat} {names : List String}
    {device : BlockDevice} {name : String} {flags : OpenFlags} (table : fs.InodeArea)
    (volume : DirectoryOnVolume fs area device names)
    (fits : flags.contains OpenFlags.CREATE = true →
      DirOp.Fits area fs.inodeBitmap.maximum (directoryOn fs device) (.create name)) :
    ∃ result device', openFile fs device name flags = .ok (result, device') ∧
      (∃ names', DirectoryOnVolume fs area device' names') ∧
      directoryOn fs device' =
        (DirOp.ofOpen name flags (directoryOn fs device)).foldl DirOp.apply (directoryOn fs device) ∧
      (flags.contains OpenFlags.CREATE = true ∨ name ∈ names →
        ∃ inode, result = some (OSInode.new flags.readWrite.1 flags.readWrite.2, inode) ∧
          fs.rootInode.find fs device' name = .ok (some inode) ∧
          ∃ file ∈ directoryOn fs device', file.1 = name ∧
            ∀ offset buf, inode.readAt device' offset buf = .ok (fileRead file.2 offset buf)) ∧
      (flags.contains OpenFlags.CREATE = false → name ∉ names → result = none) := by
  obtain ⟨result, device', opened, run, some, none⟩ := volume.openFile_run table fits
  obtain ⟨⟨names', volume'⟩, view⟩ := volume.run table run
  refine ⟨result, device', opened, ⟨names', volume'⟩, view, fun either => ?_, none⟩
  obtain ⟨inode, rfl, found⟩ := some either
  have member : name ∈ names' := by
    by_contra absent
    rw [volume'.find_of_not_mem absent] at found
    cases found
  rw [← volume'.map_fst_directoryOn] at member
  obtain ⟨file, inDirectory, rfl⟩ := List.mem_map.mp member
  obtain ⟨inode', found', reads⟩ := volume'.readAt_of_mem inDirectory
  rw [found] at found'
  obtain rfl := Option.some.inj (Except.ok.inj found')
  exact ⟨inode, rfl, found, file, inDirectory, rfl, reads⟩

/-- On the volume `create` formats, `open_file` of a new name under `CREATE` creates and opens
its file. -/
theorem formatted_open_file_refines_directory :
    ∃ result device', openFile (EasyFileSystem.layout 1030 1) (EasyFileSystem.formatted emptyImage 1030 1) "a"
        OpenFlags.CREATE = .ok (result, device') ∧
      (∃ names', DirectoryOnVolume (EasyFileSystem.layout 1030 1) (EasyFileSystem.regions 1030 1).dataAreaBlocks.toNat
        device' names') ∧
      directoryOn (EasyFileSystem.layout 1030 1) device' =
        (DirOp.ofOpen "a" OpenFlags.CREATE (directoryOn (EasyFileSystem.layout 1030 1)
          (EasyFileSystem.formatted emptyImage 1030 1))).foldl DirOp.apply
          (directoryOn (EasyFileSystem.layout 1030 1) (EasyFileSystem.formatted emptyImage 1030 1)) ∧
      (OpenFlags.CREATE.contains OpenFlags.CREATE = true ∨ "a" ∈ ([] : List String) →
        ∃ inode, result = some (OSInode.new OpenFlags.CREATE.readWrite.1 OpenFlags.CREATE.readWrite.2, inode) ∧
          (EasyFileSystem.layout 1030 1).rootInode.find (EasyFileSystem.layout 1030 1) device' "a" =
            .ok (some inode) ∧
          ∃ file ∈ directoryOn (EasyFileSystem.layout 1030 1) device', file.1 = "a" ∧
            ∀ offset buf, inode.readAt device' offset buf = .ok (fileRead file.2 offset buf)) ∧
      (OpenFlags.CREATE.contains OpenFlags.CREATE = false → "a" ∉ ([] : List String) → result = none) :=
  open_file_refines_directory (EasyFileSystem.layout_inodeArea (by decide) (by decide))
    emptyImage_directoryOnVolume fun _ => by
      rw [directoryOn_emptyImage]
      decide

end EasyFs

end ChOs
