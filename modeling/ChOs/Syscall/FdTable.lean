import ChOs.Syscall.Fs
import ChOs.Fs.OpenFile
import ChOs.Library.Transition
import ChOs.Fs.OpenDirectory

set_option autoImplicit false

/- The fd table under the file system calls: `sys_open` and `sys_close`
(`os/src/syscall/fs.rs`) and `TaskControlBlockInner::alloc_fd` (`os/src/task/task.rs`), with
`sys_read` and `sys_write` of `ChOs.Syscall.Fs`. -/

namespace ChOs

open EasyFs

/-- `alloc_fd`: the first slot that holds no file, or a new slot pushed at the end. -/
def allocFd (fdTable : List (Option File)) : Nat × List (Option File) :=
  match (List.range fdTable.length).find? fun fd => (fdTable.getD fd none).isNone with
  | some fd => (fd, fdTable)
  | none =>
      let fdTable := fdTable ++ [none]
      (fdTable.length - 1, fdTable)

/-- `sys_open(path, flags)` of the current task over the volume `device` of `fs`: the return
value with the volume and the fd table after the call. -/
def sysOpen (fs : EasyFileSystem) (device : BlockDevice) (memory : Nat → UInt8) (token : Nat)
    (fdTable : List (Option File)) (path : Nat) (flags : UInt32) (fuel : Nat) :
    Option (Except String (Int × BlockDevice × List (Option File))) :=
  match translatedStr memory token path fuel with
  | none => none
  | some (.error message) => some (.error message)
  | some (.ok path) =>
      match OpenFlags.fromBits flags with
      | none => some (.error unwrapNone)
      | some flags =>
          some do
            let (opened, device) ← openFile fs device path flags
            match opened with
            | some (inode, _) =>
                let (fd, fdTable) := allocFd fdTable
                pure (usizeAsIsize fd, device, fdTable.set fd (some (.osInode inode)))
            | none => pure (-1, device, fdTable)

/-- `sys_close(fd)`: the return value and the fd table after the call. -/
def sysClose (fdTable : List (Option File)) (fd : Nat) : Int × List (Option File) :=
  if outside : fd ≥ fdTable.length then (-1, fdTable)
  else if fdTable[fd].isNone then (-1, fdTable)
  else (0, fdTable.set fd none)

/-- `fd` is the first slot of `fdTable` without a file: every slot before it holds one, and it
holds none or lies just past the end. -/
structure LeastFree (fdTable : List (Option File)) (fd : Nat) : Prop where
  within : fd ≤ fdTable.length
  occupied : ∀ other < fd, ∃ file, fdTable[other]? = some (some file)
  free : ∀ file, fdTable[fd]? ≠ some (some file)

section AllocFd

variable (fdTable : List (Option File))

theorem getD_isNone_iff (fd : Nat) :
    (fdTable.getD fd none).isNone = true ↔ ∀ file, fdTable[fd]? ≠ some (some file) := by
  rw [List.getD_eq_getElem?_getD]
  cases fdTable[fd]? with
  | none => simp
  | some slot => cases slot <;> simp

theorem occupied_of_passed {fd : Nat} (passed : (!(fdTable.getD fd none).isNone) = true) :
    ∃ file, fdTable[fd]? = some (some file) := by
  rw [Bool.not_eq_true', ← Bool.not_eq_true, getD_isNone_iff] at passed
  exact Classical.not_forall_not.mp passed

theorem allocFd_leastFree : LeastFree fdTable (allocFd fdTable).1 := by
  unfold allocFd
  split
  · rename_i fd found
    obtain ⟨isFree, member, before⟩ := List.find?_range_eq_some.mp found
    exact ⟨(List.mem_range.mp member).le,
      fun other below => occupied_of_passed _ (before other below),
      (getD_isNone_iff _ _).mp isFree⟩
  · rename_i missing
    have everyTaken := List.find?_range_eq_none.mp missing
    refine ⟨by simp, fun other below => occupied_of_passed _ (everyTaken other ?_),
      fun file held => ?_⟩
    · simpa using below
    · simp at held

theorem allocFd_table :
    ((allocFd fdTable).1 < fdTable.length ∧ (allocFd fdTable).2 = fdTable) ∨
      ((allocFd fdTable).1 = fdTable.length ∧ (allocFd fdTable).2 = fdTable ++ [none]) := by
  unfold allocFd
  split
  · rename_i fd found
    exact .inl ⟨List.mem_range.mp (List.find?_range_eq_some.mp found).2.1, rfl⟩
  · exact .inr ⟨by simp, rfl⟩

theorem getElem?_allocFd_set_ne (file : Option File) {other : Nat}
    (apart : other ≠ (allocFd fdTable).1) :
    ((allocFd fdTable).2.set (allocFd fdTable).1 file)[other]? = fdTable[other]? := by
  rw [List.getElem?_set_ne (Ne.symm apart)]
  rcases allocFd_table fdTable with ⟨-, same⟩ | ⟨pushed, grown⟩
  · rw [same]
  · rw [grown, List.getElem?_append]
    split
    · rfl
    · rename_i beyond
      rw [pushed] at apart
      rw [List.getElem?_eq_none (show [none].length ≤ other - fdTable.length by simp; omega),
        List.getElem?_eq_none (show fdTable.length ≤ other by omega)]

theorem getElem?_allocFd_set_self (file : Option File) :
    ((allocFd fdTable).2.set (allocFd fdTable).1 file)[(allocFd fdTable).1]? = some file := by
  apply List.getElem?_set_self
  rcases allocFd_table fdTable with ⟨inside, same⟩ | ⟨pushed, grown⟩
  · rw [same]
    exact inside
  · rw [grown, pushed, List.length_append, List.length_singleton]
    exact Nat.lt_succ_self _

end AllocFd

theorem sysClose_cases (fdTable : List (Option File)) (fd : Nat) :
    ((∃ file, fdTable[fd]? = some (some file)) ∧
        sysClose fdTable fd = (0, fdTable.set fd none)) ∨
      ((∀ file, fdTable[fd]? ≠ some (some file)) ∧ sysClose fdTable fd = (-1, fdTable)) := by
  unfold sysClose
  split
  · rename_i outside
    exact .inr ⟨fun file => by rw [List.getElem?_eq_none outside]; simp, rfl⟩
  · rename_i inside
    rw [List.getElem?_eq_getElem (by omega)]
    cases slot : fdTable[fd] with
    | none => exact .inr ⟨by simp, by simp⟩
    | some file => exact .inl ⟨⟨file, rfl⟩, by simp⟩

section SysOpen

variable {fs : EasyFileSystem} {device device' : BlockDevice} {memory : Nat → UInt8}
  {token : Nat} {fdTable fdTable' : List (Option File)} {path : Nat} {flags : UInt32}
  {fuel : Nat} {name : String}

theorem sysOpen_of_opened {openFlags : OpenFlags} {osInode : OSInode} {inode : Inode}
    (translated : translatedStr memory token path fuel = some (.ok name))
    (accepted : OpenFlags.fromBits flags = some openFlags)
    (opened : openFile fs device name openFlags = .ok (some (osInode, inode), device')) :
    sysOpen fs device memory token fdTable path flags fuel =
      some (.ok (usizeAsIsize (allocFd fdTable).1, device',
        (allocFd fdTable).2.set (allocFd fdTable).1 (some (.osInode osInode)))) := by
  rw [sysOpen, translated]
  dsimp only
  rw [accepted]
  dsimp only
  rw [opened, ok_bind]
  rfl

/-- A `sys_open` that opens a file returns the first slot without a file, which then holds the
new `OSInode` at offset 0 with the rights of `read_write`; every other slot is as it was. -/
theorem sysOpen_opens_least_free {openFlags : OpenFlags} {osInode : OSInode} {inode : Inode}
    (translated : translatedStr memory token path fuel = some (.ok name))
    (accepted : OpenFlags.fromBits flags = some openFlags)
    (opened : openFile fs device name openFlags = .ok (some (osInode, inode), device')) :
    ∃ fd, LeastFree fdTable fd ∧ ∃ fdTable',
      sysOpen fs device memory token fdTable path flags fuel =
        some (.ok (usizeAsIsize fd, device', fdTable')) ∧
      fdTable'[fd]? =
        some (some (.osInode (OSInode.new openFlags.readWrite.1 openFlags.readWrite.2))) ∧
      ∀ other, other ≠ fd → fdTable'[other]? = fdTable[other]? := by
  obtain ⟨rights, -⟩ := openFile_cases opened
  refine ⟨(allocFd fdTable).1, allocFd_leastFree fdTable, _,
    sysOpen_of_opened translated accepted opened, ?_,
    fun other apart => getElem?_allocFd_set_ne fdTable _ apart⟩
  rw [getElem?_allocFd_set_self, rights]

theorem sysOpen_takes_closed_slot :
    ∃ table machine, twoPageSpace = .ok (table, machine) ∧ ∃ device' fd,
      LeastFree [some .stdin, none, some .stdout] fd ∧ ∃ fdTable',
        sysOpen (EasyFileSystem.layout 1030 1) (EasyFileSystem.formatted emptyImage 1030 1)
            (hiAtZero machine.memory) table.token [some .stdin, none, some .stdout] 0 0x200 4 =
          some (.ok (usizeAsIsize fd, device', fdTable')) ∧
        fdTable'[fd]? = some (some (.osInode
          (OSInode.new OpenFlags.CREATE.readWrite.1 OpenFlags.CREATE.readWrite.2))) ∧
        ∀ other, other ≠ fd →
          fdTable'[other]? = ([some .stdin, none, some .stdout] : List (Option File))[other]? := by
  obtain ⟨table, machine, built, -, -, -, named⟩ := twoPageSpace_hi
  have fits : OpenFlags.CREATE.contains OpenFlags.CREATE = true →
      DirOp.Fits (EasyFileSystem.regions 1030 1).dataAreaBlocks.toNat
        (EasyFileSystem.layout 1030 1).inodeBitmap.maximum
        (directoryOn (EasyFileSystem.layout 1030 1) (EasyFileSystem.formatted emptyImage 1030 1))
        (.create "hi") := fun _ => by
    rw [directoryOn_emptyImage]
    decide
  obtain ⟨result, device', opened, -, created, -⟩ :=
    emptyImage_directoryOnVolume.openFile_run (EasyFileSystem.layout_inodeArea (by decide) (by decide)) fits
  obtain ⟨inode, rfl, -⟩ := created (.inl rfl)
  exact ⟨table, machine, built, device',
    sysOpen_opens_least_free named (rfl : OpenFlags.fromBits 0x200 = some OpenFlags.CREATE) opened⟩

theorem sysOpen_table {result : Int}
    (returned : sysOpen fs device memory token fdTable path flags fuel =
      some (.ok (result, device', fdTable'))) :
    fdTable' = fdTable ∨
      ∃ file, fdTable' = (allocFd fdTable).2.set (allocFd fdTable).1 (some file) := by
  unfold sysOpen at returned
  split at returned
  · cases returned
  · cases returned
  · split at returned
    · cases returned
    · obtain ⟨⟨opened, device''⟩, -, returned⟩ := bind_eq_ok.mp (Option.some.inj returned)
      cases opened with
      | none =>
          cases returned
          exact .inl rfl
      | some pair =>
          obtain ⟨osInode, inode⟩ := pair
          rcases allocated : allocFd fdTable with ⟨fd, table⟩
          rw [allocated] at returned
          cases returned
          exact .inr ⟨.osInode osInode, rfl⟩

end SysOpen

/-- `after` is the file `before` after reads and writes: the same stream, or the same
`OSInode` at another offset. -/
def File.Advanced : File → File → Prop
  | .stdin, after => after = .stdin
  | .stdout, after => after = .stdout
  | .osInode inode, after => ∃ offset, after = .osInode { inode with offset := offset }

namespace File.Advanced

theorem refl : ∀ file : File, file.Advanced file
  | .stdin => rfl
  | .stdout => rfl
  | .osInode inode => ⟨inode.offset, rfl⟩

theorem trans {first second third : File} (moved : first.Advanced second)
    (again : second.Advanced third) : first.Advanced third := by
  cases first with
  | stdin =>
      cases moved
      exact again
  | stdout =>
      cases moved
      exact again
  | osInode inode =>
      obtain ⟨offset, rfl⟩ := moved
      obtain ⟨offset', rfl⟩ := again
      exact ⟨offset', rfl⟩

end File.Advanced

section Calls

variable {σ : Type} {ops : InodeOps σ} {state state' : σ} {userBuf : UserBuffer}
  {file after : File}

theorem OSInode.write_offset {self inode : OSInode} {written : Nat}
    (wrote : self.write ops state userBuf = .ok (written, state', inode)) :
    ∃ offset, inode = { self with offset := offset } := by
  unfold OSInode.write at wrote
  obtain ⟨⟨state'', offset, total⟩, -, wrote⟩ := bind_eq_ok.mp wrote
  cases wrote
  exact ⟨offset, rfl⟩

theorem OSInode.read_offset {self inode : OSInode} {read : Nat} {filled : UserBuffer}
    (wrote : self.read ops state userBuf = .ok (read, filled, inode)) :
    ∃ offset, inode = { self with offset := offset } := by
  unfold OSInode.read at wrote
  obtain ⟨⟨offset, total, buffers⟩, -, wrote⟩ := bind_eq_ok.mp wrote
  cases wrote
  exact ⟨offset, rfl⟩

theorem File.write_advanced {printed : String} {written : Nat}
    (wrote : file.write ops state userBuf = (printed, .ok (written, state', after))) :
    file.Advanced after := by
  cases file with
  | stdin => cases wrote
  | stdout =>
      cases printedOk : Stdout.write userBuf with
      | mk printed' result =>
          rw [File.write, printedOk] at wrote
          cases result with
          | error message => cases wrote
          | ok length =>
              cases wrote
              rfl
  | osInode inode =>
      rw [File.write] at wrote
      cases written' : inode.write ops state userBuf with
      | error message =>
          rw [written'] at wrote
          cases wrote
      | ok triple =>
          obtain ⟨count, state'', inode'⟩ := triple
          rw [written'] at wrote
          cases wrote
          obtain ⟨offset, moved⟩ := OSInode.write_offset written'
          exact ⟨offset, by rw [moved]⟩

theorem File.read_advanced {ch read : Nat} {filled : UserBuffer}
    (wasRead : file.read ops state ch userBuf = .ok (read, filled, after)) :
    file.Advanced after := by
  cases file with
  | stdin =>
      rw [File.read] at wasRead
      cases stdin : Stdin.read userBuf ch with
      | error message =>
          rw [stdin] at wasRead
          cases wasRead
      | ok pair =>
          rw [stdin] at wasRead
          cases wasRead
          rfl
  | stdout => cases wasRead
  | osInode inode =>
      rw [File.read] at wasRead
      cases readOk : inode.read ops state userBuf with
      | error message =>
          rw [readOk] at wasRead
          cases wasRead
      | ok triple =>
          obtain ⟨count, buffers, inode'⟩ := triple
          rw [readOk] at wasRead
          cases wasRead
          obtain ⟨offset, moved⟩ := OSInode.read_offset readOk
          exact ⟨offset, by rw [moved]⟩

theorem sysWrite_table {memory : Nat → UInt8} {token fd buf len fuel : Nat}
    {fdTable fdTable' : List (Option File)} {printed : String} {result : Int}
    (returned : sysWrite ops state memory token fdTable fd buf len fuel =
      some (printed, .ok (result, state', fdTable'))) :
    fdTable' = fdTable ∨ ∃ file after, fdTable[fd]? = some (some file) ∧
      file.Advanced after ∧ fdTable' = fdTable.set fd (some after) := by
  unfold sysWrite at returned
  split at returned
  · cases returned
    exact .inl rfl
  · rename_i inside
    split at returned
    · cases returned
      exact .inl rfl
    · rename_i file present
      split at returned
      · cases returned
        exact .inl rfl
      · split at returned
        · cases returned
        · cases returned
        · rename_i buffers translated
          cases wrote : file.write ops state (UserBuffer.new memory buffers) with
          | mk printed' written =>
              rw [wrote] at returned
              cases written with
              | error message => cases returned
              | ok triple =>
                  obtain ⟨count, state'', after⟩ := triple
                  cases returned
                  refine .inr ⟨file, after, ?_, File.write_advanced wrote, rfl⟩
                  rw [List.getElem?_eq_getElem (by omega), present]

theorem sysRead_table {memory memory' : Nat → UInt8} {token fd buf len fuel ch : Nat}
    {fdTable fdTable' : List (Option File)} {result : Int}
    (returned : sysRead ops state memory token fdTable fd buf len fuel ch =
      some (.ok (result, memory', fdTable'))) :
    fdTable' = fdTable ∨ ∃ file after, fdTable[fd]? = some (some file) ∧
      file.Advanced after ∧ fdTable' = fdTable.set fd (some after) := by
  unfold sysRead at returned
  split at returned
  · cases returned
    exact .inl rfl
  · rename_i inside
    split at returned
    · cases returned
      exact .inl rfl
    · rename_i file present
      split at returned
      · cases returned
        exact .inl rfl
      · split at returned
        · cases returned
        · cases returned
        · rename_i buffers translated
          cases wasRead : file.read ops state ch (UserBuffer.new memory buffers) with
          | error message =>
              rw [wasRead] at returned
              cases returned
          | ok triple =>
              obtain ⟨count, filled, after⟩ := triple
              rw [wasRead] at returned
              cases returned
              refine .inr ⟨file, after, ?_, File.read_advanced wasRead, rfl⟩
              rw [List.getElem?_eq_getElem (by omega), present]

end Calls

/-- The file system calls of a task, with the slot each addresses. -/
inductive FdCall where
  | sysOpen
  | sysClose (fd : Nat)
  | sysRead (fd : Nat)
  | sysWrite (fd : Nat)
  deriving DecidableEq, Repr

/-- A file system call that returns, with the fd table before and after it. The volume, the
memory and the other arguments of each call are any. -/
inductive FdStep : List (Option File) → Option FdCall → List (Option File) → Prop
  | sysOpen {fdTable fdTable' : List (Option File)} (fs : EasyFileSystem)
      (device device' : BlockDevice) (memory : Nat → UInt8) (token path : Nat) (flags : UInt32)
      (fuel : Nat) (result : Int)
      (returned : sysOpen fs device memory token fdTable path flags fuel =
        some (.ok (result, device', fdTable'))) :
      FdStep fdTable (some .sysOpen) fdTable'
  | sysClose (fdTable : List (Option File)) (fd : Nat) :
      FdStep fdTable (some (.sysClose fd)) (sysClose fdTable fd).2
  | sysRead {σ : Type} {fdTable fdTable' : List (Option File)} (ops : InodeOps σ) (state : σ)
      (memory memory' : Nat → UInt8) (token fd buf len fuel ch : Nat) (result : Int)
      (returned : sysRead ops state memory token fdTable fd buf len fuel ch =
        some (.ok (result, memory', fdTable'))) :
      FdStep fdTable (some (.sysRead fd)) fdTable'
  | sysWrite {σ : Type} {fdTable fdTable' : List (Option File)} (ops : InodeOps σ)
      (state state' : σ) (memory : Nat → UInt8) (token fd buf len fuel : Nat) (printed : String)
      (result : Int)
      (returned : sysWrite ops state memory token fdTable fd buf len fuel =
        some (printed, .ok (result, state', fdTable'))) :
      FdStep fdTable (some (.sysWrite fd)) fdTable'

section Runs

variable {fdTable fdTable' : List (Option File)} {fd : Nat} {file : File}

theorem kept_of_use {other : Nat}
    (used : fdTable' = fdTable ∨ ∃ file after, fdTable[other]? = some (some file) ∧
      file.Advanced after ∧ fdTable' = fdTable.set other (some after))
    (held : fdTable[fd]? = some (some file)) :
    ∃ after, fdTable'[fd]? = some (some after) ∧ file.Advanced after := by
  rcases used with same | ⟨file', after, present, advanced, stored⟩
  · exact ⟨file, by rw [same, held], .refl file⟩
  · subst stored
    by_cases here : other = fd
    · subst here
      rw [held, Option.some.injEq, Option.some.injEq] at present
      subst present
      have inside : other < fdTable.length := (List.getElem?_eq_some_iff.mp held).1
      exact ⟨after, List.getElem?_set_self inside, advanced⟩
    · exact ⟨file, by rw [List.getElem?_set_ne here, held], .refl file⟩

theorem FdStep.keeps {call : Option FdCall} (step : FdStep fdTable call fdTable')
    (notClosed : call ≠ some (.sysClose fd)) (held : fdTable[fd]? = some (some file)) :
    ∃ after, fdTable'[fd]? = some (some after) ∧ file.Advanced after := by
  cases step with
  | sysOpen fs device device' memory token path flags fuel result returned =>
      rcases sysOpen_table returned with same | ⟨opened, stored⟩
      · exact ⟨file, by rw [same, held], .refl file⟩
      · have apart : fd ≠ (allocFd fdTable).1 := by
          intro same
          exact (allocFd_leastFree fdTable).free file (same ▸ held)
        exact ⟨file, by rw [stored, getElem?_allocFd_set_ne fdTable _ apart, held], .refl file⟩
  | sysClose _ other =>
      have apart : other ≠ fd := fun same => notClosed (by rw [same])
      rcases sysClose_cases fdTable other with ⟨-, closed⟩ | ⟨-, refused⟩
      · exact ⟨file, by rw [closed, List.getElem?_set_ne apart, held], .refl file⟩
      · exact ⟨file, by rw [refused, held], .refl file⟩
  | sysRead ops state memory memory' token other buf len fuel ch result returned =>
      exact kept_of_use (sysRead_table returned) held
  | sysWrite ops state state' memory token other buf len fuel printed result returned =>
      exact kept_of_use (sysWrite_table returned) held

/-- Along every run of file system calls, a slot that holds a file keeps it, advanced by the
reads and writes, as long as no call closes that slot. -/
theorem fd_kept_until_closed {log : List FdCall} (run : Transition.Run FdStep fdTable log fdTable')
    (neverClosed : FdCall.sysClose fd ∉ log) (held : fdTable[fd]? = some (some file)) :
    ∃ after, fdTable'[fd]? = some (some after) ∧ file.Advanced after := by
  have start : ∃ after, fdTable[fd]? = some (some after) ∧ file.Advanced after :=
    ⟨file, held, .refl file⟩
  have allowed : ∀ call ∈ log, call ≠ FdCall.sysClose fd :=
    fun call member same => neverClosed (same ▸ member)
  refine @Transition.Run.preserve _ _ FdStep
    (fun table => ∃ after, table[fd]? = some (some after) ∧ file.Advanced after)
    (fun call => call ≠ FdCall.sysClose fd) ?_ _ _ _ run allowed start
  rintro current call next ⟨before, present, advanced⟩ step allowed
  have notClosed : call ≠ some (.sysClose fd) := by
    rintro rfl
    exact allowed _ (List.mem_singleton_self _) rfl
  obtain ⟨after, present', advanced'⟩ := step.keeps notClosed present
  exact ⟨after, present', advanced.trans advanced'⟩

/-- Closing `Stdin`, a write of no bytes to slot 1, a read of slot 5 past the table, and
closing slot 2. -/
theorem closing_run : Transition.Run FdStep initialFdTable
    [.sysClose 0, .sysWrite 1, .sysRead 5, .sysClose 2] [none, some .stdout, none] := by
  have written : sysWrite (Inode.ops ⟨0, 0⟩ (EasyFileSystem.layout 1030 1)) threeByteVolume
      (fun _ => 0) 0 [none, some .stdout, some .stdout] 1 0 0 1 =
        some ("", .ok (0, threeByteVolume, [none, some .stdout, some .stdout])) := rfl
  have refused : sysRead (Inode.ops ⟨0, 0⟩ (EasyFileSystem.layout 1030 1)) threeByteVolume
      (fun _ => 0) 0 [none, some .stdout, some .stdout] 5 0 0 0 0 =
        some (.ok (-1, fun _ => 0, [none, some .stdout, some .stdout])) := rfl
  exact ((((Transition.Run.refl _).step (FdStep.sysClose initialFdTable 0)).step
    (FdStep.sysWrite _ _ _ _ _ _ _ _ _ _ _ written)).step
    (FdStep.sysRead _ _ _ _ _ _ _ _ _ _ _ refused)).step
    (FdStep.sysClose [none, some .stdout, some .stdout] 2)

theorem stdout_kept_after_run :
    ∃ after, ([none, some .stdout, none] : List (Option File))[1]? = some (some after) ∧
      File.Advanced .stdout after :=
  fd_kept_until_closed closing_run (by decide) rfl

theorem stdout_prints_after_run {log : List FdCall}
    (run : Transition.Run FdStep initialFdTable log fdTable)
    (neverClosed : FdCall.sysClose 1 ∉ log) {σ : Type} (ops : InodeOps σ) (state : σ)
    {memory : Nat → UInt8} {token ptr len fuel : Nat} {bytes : List UInt8} {text : String}
    (small : ptr + len < 2 ^ 39) (enough : (pageChunks ptr (ptr + len)).length < fuel)
    (shown : userBytes memory token ptr len = some bytes)
    (decoded : String.fromUTF8? ⟨bytes.toArray⟩ = some text)
    (cuts : ∀ k, 0 < k → k < len → (ptr + k) % 4096 = 0 → Utf8.Boundary bytes k) :
    sysWrite ops state memory token fdTable 1 ptr len fuel =
      some (text, .ok (len, state, fdTable)) := by
  obtain ⟨after, present, advanced⟩ :=
    fd_kept_until_closed run neverClosed (show initialFdTable[1]? = some (some .stdout) from rfl)
  cases advanced
  exact sysWrite_stdout_of_boundaries ops state present small enough shown decoded cuts

theorem stdout_prints_hi_after_run :
    ∃ table machine, twoPageSpace = .ok (table, machine) ∧
      sysWrite (Inode.ops ⟨0, 0⟩ (EasyFileSystem.layout 1030 1)) threeByteVolume
          (hiAtZero machine.memory) table.token [none, some .stdout, none] 1 0 2 3 =
        some ("hi", .ok (2, threeByteVolume, [none, some .stdout, none])) := by
  obtain ⟨table, machine, built, -, two, -, -⟩ := twoPageSpace_hi
  have enough : (pageChunks 0 (0 + 2)).length < 3 := by
    rw [pageChunks_single (by decide) (by decide)]
    decide
  exact ⟨table, machine, built, stdout_prints_after_run closing_run (by decide) _ _ (by decide)
    enough two (by decide) fun k positive below aligned => absurd aligned (by omega)⟩

end Runs

end ChOs
