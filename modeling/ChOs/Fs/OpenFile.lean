import ChOs.Fs.OsInode

set_option autoImplicit false

/- Opening a file of the root directory (`open_file` and `OpenFlags` of
`os/src/fs/inode.rs`). -/

namespace ChOs

open EasyFs

/-- `OpenFlags`, a `bitflags` set over a `u32`. -/
structure OpenFlags where
  bits : UInt32
  deriving DecidableEq, Repr

namespace OpenFlags

def RDONLY : OpenFlags := ⟨0⟩
def WRONLY : OpenFlags := ⟨(1 : UInt32) <<< 0⟩
def RDWR : OpenFlags := ⟨(1 : UInt32) <<< 1⟩
def CREATE : OpenFlags := ⟨(1 : UInt32) <<< 9⟩
def TRUNC : OpenFlags := ⟨(1 : UInt32) <<< 10⟩

/-- `from_bits` refuses bits outside the declared flags. -/
def fromBits (bits : UInt32) : Option OpenFlags :=
  if bits &&& ~~~(RDONLY.bits ||| WRONLY.bits ||| RDWR.bits ||| CREATE.bits ||| TRUNC.bits) = 0
  then some ⟨bits⟩ else none

def isEmpty (self : OpenFlags) : Bool := self.bits = 0

def contains (self other : OpenFlags) : Bool := self.bits &&& other.bits = other.bits

/-- `read_write`: `(readable, writable)`, without a check of the flags. -/
def readWrite (self : OpenFlags) : Bool × Bool :=
  if self.isEmpty then (true, false)
  else if self.contains WRONLY then (false, true)
  else (true, true)

example : fromBits 4 = none := by decide

end OpenFlags

/-- `open_file(name, flags)` over the root directory of `fs`: the new `OSInode` with the inode
it reads, or `none`, and the volume after the call. -/
def openFile (fs : EasyFileSystem) (device : BlockDevice) (name : String) (flags : OpenFlags) :
    Except String (Option (OSInode × Inode) × BlockDevice) := do
  let (readable, writable) := flags.readWrite
  if flags.contains OpenFlags.CREATE then
    let found ← fs.rootInode.find fs device name
    match found with
    | some inode =>
        let device ← inode.clear fs device
        pure (some (OSInode.new readable writable, inode), device)
    | none =>
        let (created, device) ← fs.rootInode.create fs device name
        pure (created.map fun inode => (OSInode.new readable writable, inode), device)
  else
    let found ← fs.rootInode.find fs device name
    match found with
    | some inode =>
        let device ← if flags.contains OpenFlags.TRUNC then inode.clear fs device else pure device
        pure (some (OSInode.new readable writable, inode), device)
    | none => pure (none, device)

section OpenFile

variable {fs : EasyFileSystem} {device device' : BlockDevice} {name : String}
  {flags : OpenFlags} {osInode : OSInode} {inode : Inode}

/-- The two ways `open_file` opens a file: one `find` gives, cleared or not, or one `create`
makes under `CREATE` for a name `find` does not give. -/
theorem openFile_cases
    (opened : openFile fs device name flags = .ok (some (osInode, inode), device')) :
    osInode = OSInode.new flags.readWrite.1 flags.readWrite.2 ∧
      (fs.rootInode.find fs device name = .ok (some inode) ∨
        (flags.contains OpenFlags.CREATE ∧ fs.rootInode.find fs device name = .ok none ∧
          fs.rootInode.create fs device name = .ok (some inode, device'))) := by
  unfold openFile at opened
  generalize flags.readWrite = pair at opened ⊢
  obtain ⟨readable, writable⟩ := pair
  dsimp only at opened ⊢
  by_cases create : flags.contains OpenFlags.CREATE
  · rw [if_pos create] at opened
    obtain ⟨found, findOk, opened⟩ := bind_eq_ok.mp opened
    cases found with
    | some existing =>
        obtain ⟨cleared, -, opened⟩ := bind_eq_ok.mp opened
        cases opened
        exact ⟨rfl, .inl findOk⟩
    | none =>
        obtain ⟨⟨made, madeDevice⟩, createOk, opened⟩ := bind_eq_ok.mp opened
        cases made with
        | none => cases opened
        | some made =>
            cases opened
            exact ⟨rfl, .inr ⟨create, findOk, createOk⟩⟩
  · rw [if_neg create] at opened
    obtain ⟨found, findOk, opened⟩ := bind_eq_ok.mp opened
    cases found with
    | none => cases opened
    | some existing =>
        dsimp only at opened
        split at opened
        all_goals
          obtain ⟨cleared, -, opened⟩ := bind_eq_ok.mp opened
          cases opened
          exact ⟨rfl, .inl findOk⟩

end OpenFile

end ChOs
