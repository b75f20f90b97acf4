import ChOs.Fs.OsInode
import ChOs.Memory.UserAccess
import ChOs.Library.Utf8

set_option autoImplicit false

/- The standard streams and the files of an fd table (`os/src/fs/stdio.rs`,
`os/src/fs/mod.rs`). -/

namespace ChOs

open EasyFs

/-- `UserBuffer::new(buffers)`, each slice read as the bytes it borrows. -/
def UserBuffer.new (memory : Nat → UInt8) (buffers : List PageSlice) : UserBuffer :=
  ⟨buffers.map (PageSlice.bytes memory)⟩

/-- The files an fd table holds. -/
inductive File where
  | stdin
  | stdout
  | osInode (inode : OSInode)
  deriving DecidableEq, Repr

/-- The panic of `Stdin::write`. -/
def cannotWriteToStdin : String := "Cannot write to stdin!"

/-- The panic of `Stdout::read`. -/
def cannotReadFromStdout : String := "Cannot read from stdout!"

namespace File

def readable : File → Bool
  | .stdin => true
  | .stdout => false
  | .osInode inode => inode.readable

def writable : File → Bool
  | .stdin => false
  | .stdout => true
  | .osInode inode => inode.writable

end File

/-- The loop of `Stdout::write` over the slices, each printed as `from_utf8(..).unwrap()`
gives it: the text printed, then `ok` or the panic of the first slice that is not UTF-8. -/
def Stdout.writeLoop : List (List UInt8) → String × Except String Unit
  | [] => ("", .ok ())
  | buffer :: rest =>
      match String.fromUTF8? ⟨buffer.toArray⟩ with
      | none => ("", .error invalidUtf8)
      | some text =>
          let (printed, result) := writeLoop rest
          (text ++ printed, result)

/-- `Stdout::write`: the text printed, and `user_buf.len()` once every slice is printed. -/
def Stdout.write (userBuf : UserBuffer) : String × Except String Nat :=
  let (printed, result) := Stdout.writeLoop userBuf.buffers
  (printed, result.map fun _ => userBuf.len)

/-- `File::write`: the text printed, and the bytes written with the volume and the file after
the call. -/
def File.write {σ : Type} (ops : InodeOps σ) (state : σ) :
    File → UserBuffer → String × Except String (Nat × σ × File)
  | .stdin, _ => ("", .error cannotWriteToStdin)
  | .stdout, userBuf =>
      let (printed, result) := Stdout.write userBuf
      (printed, result.map fun written => (written, state, .stdout))
  | .osInode inode, userBuf =>
      ("", (inode.write ops state userBuf).map fun (written, state, inode) =>
        (written, state, .osInode inode))

/-- `Stdin::read`: `assert_eq!(user_buf.len(), 1)`, then the first character the console
gives, `ch`, stored as `c as u8` into the first byte of the first slice. The busy loop, which
suspends the task while `console_getchar()` returns 0, is the wait for `ch`. -/
def Stdin.read (userBuf : UserBuffer) (ch : Nat) : Except String (Nat × UserBuffer) :=
  if userBuf.len ≠ 1 then .error (assertEqFailed userBuf.len 1)
  else
    .ok (1, ⟨match userBuf.buffers with
      | first :: rest => (UInt8.ofNat ch :: first.drop 1) :: rest
      | [] => []⟩)

/-- `File::read`: the bytes read, the filled buffer and the file after the call; `ch` is the
character a read of `Stdin` waits for. The volume does not change. -/
def File.read {σ : Type} (ops : InodeOps σ) (state : σ) (ch : Nat) :
    File → UserBuffer → Except String (Nat × UserBuffer × File)
  | .stdin, userBuf => (Stdin.read userBuf ch).map fun (read, userBuf) => (read, userBuf, .stdin)
  | .stdout, _ => .error cannotReadFromStdout
  | .osInode inode, userBuf =>
      (inode.read ops state userBuf).map fun (read, userBuf, inode) =>
        (read, userBuf, .osInode inode)

namespace Stdout

/-- Slices that are each UTF-8 print their decodings, which together decode the
concatenation of the slices, and the loop ends without a panic. -/
theorem writeLoop_of_valid {buffers : List (List UInt8)}
    (valid : ∀ buffer ∈ buffers, Utf8.Valid buffer) :
    ∃ printed, writeLoop buffers = (printed, .ok ()) ∧
      String.fromUTF8? ⟨buffers.flatten.toArray⟩ = some printed := by
  induction buffers with
  | nil => exact ⟨"", rfl, Utf8.fromUTF8?_eq_some_iff.mpr rfl⟩
  | cons buffer rest ih =>
      obtain ⟨first, later⟩ := List.forall_mem_cons.mp valid
      obtain ⟨text, decoded⟩ := Utf8.exists_fromUTF8? first
      obtain ⟨printed, loop, joined⟩ := ih later
      refine ⟨text ++ printed, ?_, ?_⟩
      · rw [writeLoop, decoded]
        dsimp only
        rw [loop]
      · rw [List.flatten_cons]
        exact Utf8.fromUTF8?_append decoded joined

/-- A slice that is not UTF-8 on its own makes the loop panic. -/
theorem writeLoop_of_invalid {buffers : List (List UInt8)}
    (invalid : ∃ buffer ∈ buffers, ¬ Utf8.Valid buffer) :
    (writeLoop buffers).2 = .error invalidUtf8 := by
  induction buffers with
  | nil =>
      obtain ⟨buffer, member, -⟩ := invalid
      cases member
  | cons buffer rest ih =>
      rw [writeLoop]
      cases decoded : String.fromUTF8? ⟨buffer.toArray⟩ with
      | none => rfl
      | some text =>
          have later : ∃ other ∈ rest, ¬ Utf8.Valid other := by
            obtain ⟨other, member, bad⟩ := invalid
            rcases List.mem_cons.mp member with same | further
            · exact absurd (same ▸ Utf8.valid_of_fromUTF8? decoded) bad
            · exact ⟨other, further, bad⟩
          exact ih later

theorem write_of_valid {userBuf : UserBuffer}
    (valid : ∀ buffer ∈ userBuf.buffers, Utf8.Valid buffer) :
    ∃ printed, write userBuf = (printed, .ok userBuf.len) ∧
      String.fromUTF8? ⟨userBuf.buffers.flatten.toArray⟩ = some printed := by
  obtain ⟨printed, loop, joined⟩ := writeLoop_of_valid valid
  refine ⟨printed, ?_, joined⟩
  rw [write, loop]
  rfl

theorem write_of_invalid {userBuf : UserBuffer}
    (invalid : ∃ buffer ∈ userBuf.buffers, ¬ Utf8.Valid buffer) :
    (write userBuf).2 = .error invalidUtf8 := by
  have loop := writeLoop_of_invalid invalid
  unfold write
  revert loop
  cases writeLoop userBuf.buffers with
  | mk printed result =>
      intro failed
      dsimp only at failed ⊢
      rw [failed]
      rfl

end Stdout

end ChOs
