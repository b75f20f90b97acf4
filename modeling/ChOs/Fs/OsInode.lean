import ChOs.EasyFs.Vfs

set_option autoImplicit false

/- Kernel files backed by easy-fs (`OSInode` of `os/src/fs/inode.rs`, and `UserBuffer` of
`os/src/memory/page_table.rs`). -/

namespace ChOs

open EasyFs

/-- `UserBuffer`: the bytes of its slices, in order. -/
structure UserBuffer where
  buffers : List (List UInt8)
  deriving DecidableEq, Repr

/-- `UserBuffer::len`. -/
def UserBuffer.len (self : UserBuffer) : Nat := (self.buffers.map List.length).sum

/-- The two calls an `OSInode` makes of its inode, over the state `σ` of the volume: `read_at`
fills a buffer, `write_at` changes the volume. -/
structure InodeOps (σ : Type) where
  readAt : σ → Nat → List UInt8 → Except String (Nat × List UInt8)
  writeAt : σ → Nat → List UInt8 → Except String (Nat × σ)

/-- The calls of an easy-fs `Inode`, over its block device. -/
def EasyFs.Inode.ops (inode : Inode) (fs : EasyFileSystem) : InodeOps BlockDevice where
  readAt device offset buf := inode.readAt device offset buf
  writeAt device offset buf := inode.writeAt fs device offset buf

/-- `read_at` of a file of contents `file`: the bytes from `offset` that fit in `buf`, copied
to its start. -/
def fileRead (file : List UInt8) (offset : Nat) (buf : List UInt8) : Nat × List UInt8 :=
  let n := min buf.length (file.length - offset)
  (n, (file.drop offset).take n ++ buf.drop n)

/-- `write_at` of `data` at `offset` in a file of contents `file`: zeros up to `offset`, and
the file grows to cover `data`. -/
def fileWrite (file : List UInt8) (offset : Nat) (data : List UInt8) : List UInt8 :=
  file.take offset ++ List.replicate (offset - file.length) 0 ++ data ++
    file.drop (offset + data.length)

/-- `ops` follows the file model: a state that holds a file answers every `read_at` as the file
does, and takes every write that ends by `capacity` as the file does. -/
structure FollowsFile {σ : Type} (ops : InodeOps σ) (holds : σ → List UInt8 → Prop)
    (capacity : Nat) : Prop where
  read : ∀ {state file}, holds state file → ∀ offset buf,
    ops.readAt state offset buf = .ok (fileRead file offset buf)
  write : ∀ {state file}, holds state file → ∀ offset data, offset + data.length ≤ capacity →
    ∃ state', ops.writeAt state offset data = .ok (data.length, state') ∧
      holds state' (fileWrite file offset data)

/-- The bytes of the slices before the first empty one: all that a `read` can fill. -/
def beforeEmpty (buffers : List (List UInt8)) : Nat :=
  ((buffers.takeWhile fun slice => !slice.isEmpty).map List.length).sum

section FileModel

@[simp] theorem length_fileRead (file : List UInt8) (offset : Nat) (buf : List UInt8) :
    (fileRead file offset buf).2.length = buf.length := by
  simp only [fileRead, List.length_append, List.length_take, List.length_drop]
  omega

@[simp] theorem length_fileWrite (file : List UInt8) (offset : Nat) (data : List UInt8) :
    (fileWrite file offset data).length = max file.length (offset + data.length) := by
  simp only [fileWrite, List.length_append, List.length_take, List.length_replicate,
    List.length_drop]
  omega

theorem fileWrite_append (file : List UInt8) (offset : Nat) (first second : List UInt8) :
    fileWrite (fileWrite file offset first) (offset + first.length) second =
      fileWrite file offset (first ++ second) := by
  have front : (fileWrite file offset first).take (offset + first.length) =
      file.take offset ++ List.replicate (offset - file.length) 0 ++ first := by
    rw [fileWrite, List.take_append_of_le_length (by simp; omega),
      List.take_of_length_le (by simp; omega)]
  have back : (fileWrite file offset first).drop (offset + first.length + second.length) =
      file.drop (offset + (first ++ second).length) := by
    rw [fileWrite, List.drop_append, List.drop_eq_nil_of_le (by simp; omega),
      List.nil_append, List.drop_drop]
    congr 1
    simp only [List.length_append, List.length_take, List.length_replicate]
    omega
  rw [fileWrite, front, back, length_fileWrite, Nat.sub_eq_zero_of_le (Nat.le_max_right _ _),
    List.replicate_zero, List.append_nil, List.append_assoc _ first second]
  rfl

theorem fileWrite_nil {file : List UInt8} {offset : Nat} (inside : offset ≤ file.length) :
    fileWrite file offset [] = file := by
  rw [fileWrite, Nat.sub_eq_zero_of_le inside, List.replicate_zero, List.append_nil,
    List.append_nil, List.length_nil, Nat.add_zero, List.take_append_drop]

theorem fileRead_fileWrite (file : List UInt8) (offset : Nat) (data buf : List UInt8)
    (sized : buf.length = data.length) :
    fileRead (fileWrite file offset data) offset buf = (data.length, data) := by
  have front : (file.take offset ++ List.replicate (offset - file.length) 0).length = offset := by
    simp only [List.length_append, List.length_take, List.length_replicate]
    omega
  have written : (fileWrite file offset data).drop offset =
      data ++ file.drop (offset + data.length) := by
    rw [fileWrite, List.append_assoc, List.drop_left' front]
  have filled : min buf.length ((fileWrite file offset data).length - offset) = data.length := by
    rw [length_fileWrite]
    omega
  rw [fileRead, filled, written, List.take_left, List.drop_eq_nil_of_le (Nat.le_of_eq sized),
    List.append_nil]

theorem fill_append {α : Type} (source slice rest : List α) (filled more : Nat)
    (cut : filled = min slice.length source.length)
    (stopped : filled < slice.length → more = 0) :
    source.take filled ++ slice.drop filled ++ ((source.drop filled).take more ++ rest.drop more) =
      source.take (filled + more) ++ (slice ++ rest).drop (filled + more) := by
  by_cases whole : filled = slice.length
  · rw [whole, List.drop_length, List.append_nil, List.take_add, List.drop_append,
      List.drop_eq_nil_of_le (Nat.le_add_right slice.length more), List.nil_append,
      Nat.add_sub_cancel_left, List.append_assoc]
  · have none := stopped (by omega)
    subst none
    rw [Nat.add_zero, List.take_zero, List.drop_zero, List.nil_append,
      List.drop_append_of_le_length (by omega), List.append_assoc]

@[simp] theorem beforeEmpty_nil : beforeEmpty [] = 0 := rfl

theorem beforeEmpty_cons {slice : List UInt8} (nonempty : slice ≠ [])
    (rest : List (List UInt8)) :
    beforeEmpty (slice :: rest) = slice.length + beforeEmpty rest := by
  have notEmpty : (!slice.isEmpty) = true := by
    rw [Bool.not_eq_true', List.isEmpty_eq_false_iff]
    exact nonempty
  rw [beforeEmpty, List.takeWhile_cons, if_pos notEmpty, List.map_cons, List.sum_cons]
  rfl

theorem beforeEmpty_of_nonempty {buffers : List (List UInt8)}
    (nonempty : ∀ slice ∈ buffers, slice ≠ []) :
    beforeEmpty buffers = (buffers.map List.length).sum := by
  induction buffers with
  | nil => rfl
  | cons slice rest ih =>
      obtain ⟨first, later⟩ := List.forall_mem_cons.mp nonempty
      rw [beforeEmpty_cons first, List.map_cons, List.sum_cons, ih later]

end FileModel

/-- `OSInode`: its rights and the offset of its `OSInodeInner`. Its inode is the `InodeOps`
each operation is given. -/
structure OSInode where
  readable : Bool
  writable : Bool
  offset : Nat
  deriving DecidableEq, Repr

namespace OSInode

def new (readable writable : Bool) : OSInode := ⟨readable, writable, 0⟩

section Loops

variable {σ : Type} (ops : InodeOps σ)

/-- The loop of `read` over the slices from `offset`, with `total_read_size` so far: the offset,
the total and the slices after the loop. -/
def readLoop (state : σ) :
    Nat → Nat → List (List UInt8) → Except String (Nat × Nat × List (List UInt8))
  | offset, total, [] => .ok (offset, total, [])
  | offset, total, slice :: rest => do
      let (readSize, slice) ← ops.readAt state offset slice
      if readSize = 0 then .ok (offset, total, slice :: rest)
      else
        let (offset, total, rest) ← readLoop state (offset + readSize) (total + readSize) rest
        pure (offset, total, slice :: rest)

/-- `File::read`: the number of bytes read, the filled buffer and the file at its new
offset. -/
def read (self : OSInode) (state : σ) (buf : UserBuffer) :
    Except String (Nat × UserBuffer × OSInode) := do
  let (offset, totalReadSize, buffers) ← readLoop ops state self.offset 0 buf.buffers
  pure (totalReadSize, ⟨buffers⟩, { self with offset := offset })

/-- The loop of `write` over the slices from `offset`, with `total_write_size` so far. -/
def writeLoop : σ → Nat → Nat → List (List UInt8) → Except String (σ × Nat × Nat)
  | state, offset, total, [] => .ok (state, offset, total)
  | state, offset, total, slice :: rest => do
      let (writeSize, state) ← ops.writeAt state offset slice
      if writeSize ≠ slice.length then .error (assertEqFailed writeSize slice.length)
      else writeLoop state (offset + writeSize) (total + writeSize) rest

/-- `File::write`: the number of bytes written, the volume and the file at its new offset. -/
def write (self : OSInode) (state : σ) (buf : UserBuffer) :
    Except String (Nat × σ × OSInode) := do
  let (state, offset, totalWriteSize) ← writeLoop ops state self.offset 0 buf.buffers
  pure (totalWriteSize, state, { self with offset := offset })

/-- The loop of `read_all` from `offset`, with the bytes `v` read so far and the buffer of 512
bytes that every `read_at` fills; `fuel` bounds its rounds. -/
def readAllLoop (state : σ) :
    Nat → Nat → List UInt8 → List UInt8 → Option (Except String (Nat × List UInt8))
  | 0, _, _, _ => none
  | fuel + 1, offset, buffer, v =>
      match ops.readAt state offset buffer with
      | .error message => some (.error message)
      | .ok (len, buffer) =>
          if len = 0 then some (.ok (offset, v))
          else if len ≤ buffer.length then
            readAllLoop state fuel (offset + len) buffer (v ++ buffer.take len)
          else some (.error (sliceEndIndexLenFail len buffer.length))

/-- `read_all`: the bytes from the offset to the end of the file, and the file at its new
offset. -/
def readAll (self : OSInode) (state : σ) (fuel : Nat) :
    Option (Except String (List UInt8 × OSInode)) :=
  (readAllLoop ops state fuel self.offset (List.replicate 512 0) []).map
    (Except.map fun (offset, v) => (v, { self with offset := offset }))

end Loops

section Specs

variable {σ : Type} {ops : InodeOps σ} {holds : σ → List UInt8 → Prop} {capacity : Nat}
  (follows : FollowsFile ops holds capacity)

include follows

theorem readLoop_spec {state : σ} {file : List UInt8} (holding : holds state file)
    (buffers : List (List UInt8)) (offset total : Nat) :
    ∃ filled, readLoop ops state offset total buffers =
        .ok (offset + min (beforeEmpty buffers) (file.length - offset),
          total + min (beforeEmpty buffers) (file.length - offset), filled) ∧
      filled.flatten = (file.drop offset).take (min (beforeEmpty buffers) (file.length - offset)) ++
        buffers.flatten.drop (min (beforeEmpty buffers) (file.length - offset)) ∧
      filled.map List.length = buffers.map List.length := by
  induction buffers generalizing offset total with
  | nil => exact ⟨[], rfl, rfl, rfl⟩
  | cons slice rest ih =>
      have read : ops.readAt state offset slice =
          .ok (min slice.length (file.length - offset),
            (file.drop offset).take (min slice.length (file.length - offset)) ++
              slice.drop (min slice.length (file.length - offset))) :=
        follows.read holding offset slice
      rw [readLoop, read, ok_bind]
      dsimp only
      by_cases none : min slice.length (file.length - offset) = 0
      · rw [if_pos none]
        have stops : min (beforeEmpty (slice :: rest)) (file.length - offset) = 0 := by
          cases slice with
          | nil => rfl
          | cons byte bytes =>
              rw [beforeEmpty_cons (List.cons_ne_nil _ _)]
              simp only [List.length_cons] at none ⊢
              omega
        refine ⟨slice :: rest, ?_, ?_, rfl⟩
        · rw [stops, none, List.take_zero, List.drop_zero, List.nil_append]
          rfl
        · rw [stops, List.take_zero, List.drop_zero, List.nil_append]
      · rw [if_neg none]
        have nonempty : slice ≠ [] := by
          rintro rfl
          exact none (Nat.min_eq_left (Nat.zero_le _))
        obtain ⟨filled, loop, flat, lengths⟩ :=
          ih (offset + min slice.length (file.length - offset))
            (total + min slice.length (file.length - offset))
        rw [loop, ok_bind]
        have sum : min slice.length (file.length - offset) +
            min (beforeEmpty rest) (file.length - (offset + min slice.length (file.length - offset))) =
            min (beforeEmpty (slice :: rest)) (file.length - offset) := by
          rw [beforeEmpty_cons nonempty]
          omega
        refine ⟨((file.drop offset).take (min slice.length (file.length - offset)) ++
            slice.drop (min slice.length (file.length - offset))) :: filled, ?_, ?_, ?_⟩
        · rw [← sum, Nat.add_assoc, Nat.add_assoc]
          rfl
        · rw [List.flatten_cons, List.flatten_cons, flat, ← List.drop_drop, ← sum]
          apply fill_append
          · rw [List.length_drop]
          · intro inside
            omega
        · rw [List.map_cons, lengths, List.map_cons]
          exact congrArg (· :: _) (length_fileRead file offset slice)

theorem writeLoop_spec (buffers : List (List UInt8)) :
    ∀ (state : σ) (file : List UInt8) (offset total : Nat), holds state file →
      offset + (buffers.map List.length).sum ≤ capacity →
      ∃ state', writeLoop ops state offset total buffers =
          .ok (state', offset + (buffers.map List.length).sum,
            total + (buffers.map List.length).sum) ∧
        holds state' (if buffers = [] then file else fileWrite file offset buffers.flatten) := by
  induction buffers with
  | nil =>
      intro state file offset total holding _
      exact ⟨state, rfl, holding⟩
  | cons slice rest ih =>
      intro state file offset total holding room
      rw [List.map_cons, List.sum_cons] at room
      obtain ⟨written, call, holdsWritten⟩ := follows.write holding offset slice (by omega)
      obtain ⟨state', loop, holds'⟩ :=
        ih written _ (offset + slice.length) (total + slice.length) holdsWritten (by omega)
      have contents : (if rest = [] then fileWrite file offset slice
          else fileWrite (fileWrite file offset slice) (offset + slice.length) rest.flatten) =
          fileWrite file offset (slice :: rest).flatten := by
        rw [List.flatten_cons]
        split
        · rename_i nothing
          rw [nothing, List.flatten_nil, List.append_nil]
        · rw [fileWrite_append]
      refine ⟨state', ?_, ?_⟩
      · rw [writeLoop, call, ok_bind]
        simp only [ne_eq, not_true_eq_false, if_false]
        rw [loop, List.map_cons, List.sum_cons, Nat.add_assoc, Nat.add_assoc]
      · rw [if_neg (List.cons_ne_nil _ _), ← contents]
        exact holds'

theorem readAllLoop_spec {state : σ} {file : List UInt8} (holding : holds state file) :
    ∀ (fuel offset : Nat) (buffer v : List UInt8), buffer.length = 512 →
      file.length - offset < fuel →
      readAllLoop ops state fuel offset buffer v =
        some (.ok (max offset file.length, v ++ file.drop offset)) := by
  intro fuel
  induction fuel with
  | zero =>
      intro offset buffer v _ enough
      exact absurd enough (Nat.not_lt_zero _)
  | succ fuel ih =>
      intro offset buffer v sized enough
      rw [readAllLoop, follows.read holding offset buffer]
      simp only [fileRead, sized]
      split
      · rename_i none
        have past : file.length ≤ offset := by omega
        rw [Nat.max_eq_left past, List.drop_eq_nil_of_le past, List.append_nil]
      · rename_i some
        have refilled : ((file.drop offset).take (min 512 (file.length - offset)) ++
            buffer.drop (min 512 (file.length - offset))).length = 512 := by
          rw [← sized]
          exact length_fileRead file offset buffer
        have fits : min 512 (file.length - offset) ≤
            ((file.drop offset).take (min 512 (file.length - offset)) ++
              buffer.drop (min 512 (file.length - offset))).length := by
          rw [refilled]
          omega
        rw [if_pos fits, ih _ _ _ refilled (by omega)]
        have taken : ((file.drop offset).take (min 512 (file.length - offset)) ++
            buffer.drop (min 512 (file.length - offset))).take (min 512 (file.length - offset)) =
            (file.drop offset).take (min 512 (file.length - offset)) :=
          List.take_left' (by simp only [List.length_take, List.length_drop]; omega)
        rw [taken, List.append_assoc, ← List.drop_drop, List.take_append_drop,
          Nat.max_eq_right (show offset + min 512 (file.length - offset) ≤ file.length by omega),
          Nat.max_eq_right (show offset ≤ file.length by omega)]

end Specs

/-- What an `OSInode` over a file of contents `file` does with a buffer: `read` fills the
concatenation of the slices from the offset, up to the end of the file or the first empty
slice; `write` writes each slice right after the one before; `read_all` takes the rest of the
file, and leaves the offset at the end of the file or where it was. -/
structure Contiguous {σ : Type} (ops : InodeOps σ) (holds : σ → List UInt8 → Prop)
    (capacity : Nat) (state : σ) (file : List UInt8) (self : OSInode) (buf : UserBuffer) :
    Prop where
  read : ∃ filled, self.read ops state buf =
      .ok (min (beforeEmpty buf.buffers) (file.length - self.offset), filled,
        { self with offset := self.offset + min (beforeEmpty buf.buffers) (file.length - self.offset) }) ∧
    filled.buffers.flatten =
      (file.drop self.offset).take (min (beforeEmpty buf.buffers) (file.length - self.offset)) ++
        buf.buffers.flatten.drop (min (beforeEmpty buf.buffers) (file.length - self.offset)) ∧
    filled.buffers.map List.length = buf.buffers.map List.length
  write : self.offset + buf.len ≤ capacity →
    ∃ state', self.write ops state buf =
        .ok (buf.len, state', { self with offset := self.offset + buf.len }) ∧
      holds state' (if buf.buffers = [] then file else fileWrite file self.offset buf.buffers.flatten)
  readAll : ∀ fuel, file.length - self.offset < fuel →
    self.readAll ops state fuel =
      some (.ok (file.drop self.offset, { self with offset := max self.offset file.length }))

/-- Over every inode that follows the file model, `OSInode` reads and writes the slices of a
buffer as one range of the file. -/
theorem os_inode_reads_and_writes_contiguously {σ : Type} {ops : InodeOps σ}
    {holds : σ → List UInt8 → Prop} {capacity : Nat} (follows : FollowsFile ops holds capacity)
    {state : σ} {file : List UInt8} (holding : holds state file) (self : OSInode)
    (buf : UserBuffer) :
    Contiguous ops holds capacity state file self buf where
  read := by
    obtain ⟨filled, loop, flat, lengths⟩ := readLoop_spec follows holding buf.buffers self.offset 0
    refine ⟨⟨filled⟩, ?_, flat, lengths⟩
    rw [read, loop, ok_bind, Nat.zero_add]
    rfl
  write := by
    intro room
    obtain ⟨state', loop, holds'⟩ :=
      writeLoop_spec follows buf.buffers state file self.offset 0 holding room
    refine ⟨state', ?_, holds'⟩
    rw [write, loop, ok_bind, Nat.zero_add]
    rfl
  readAll := by
    intro fuel enough
    rw [readAll, readAllLoop_spec follows holding fuel self.offset _ [] List.length_replicate enough,
      List.nil_append]
    rfl

/-- On a fresh volume, a file `f` of the one byte 1: `read` with an empty slice before a slice
of one byte reads nothing, and `read_all` from offset 2 leaves the offset at 2, past the end
of the file. -/
theorem os_inode_read_stops_at_empty_slice :
    ∃ efs device, EasyFileSystem.create emptyImage 1030 1 = .ok (efs, device) ∧
      ∃ inode created, efs.rootInode.create efs device "f" = .ok (some inode, created) ∧
        ∃ written, inode.writeAt efs created 0 [1] = .ok (1, written) ∧
          inode.readAt written 0 [0, 0] = .ok (1, [1, 0]) ∧
          (OSInode.new true true).read (inode.ops efs) written ⟨[[], [0]]⟩ =
            .ok (0, ⟨[[], [0]]⟩, OSInode.new true true) ∧
          ({ OSInode.new true true with offset := 2 }).readAll (inode.ops efs) written 3 =
            some (.ok ([], { OSInode.new true true with offset := 2 })) := by
  refine ⟨_, _, EasyFileSystem.create_eq emptyImage (by decide) (by decide) (by decide), ?_⟩
  have check : (match (EasyFileSystem.layout 1030 1).rootInode.create
        (EasyFileSystem.layout 1030 1) (EasyFileSystem.formatted emptyImage 1030 1) "f" with
      | .ok (some inode, created) =>
          match inode.writeAt (EasyFileSystem.layout 1030 1) created 0 [1] with
          | .ok (1, written) =>
              decide (inode.readAt written 0 [0, 0] = .ok (1, [1, 0])) &&
              decide ((OSInode.new true true).read (inode.ops (EasyFileSystem.layout 1030 1))
                  written ⟨[[], [0]]⟩ = .ok (0, ⟨[[], [0]]⟩, OSInode.new true true)) &&
              decide (({ OSInode.new true true with offset := 2 }).readAll
                  (inode.ops (EasyFileSystem.layout 1030 1)) written 3 =
                some (.ok ([], { OSInode.new true true with offset := 2 })))
          | _ => false
      | _ => false) = true := by
    decide +kernel
  split at check
  · rename_i inode created made
    split at check
    · rename_i written wrote
      simp only [Bool.and_eq_true, decide_eq_true_eq] at check
      obtain ⟨⟨holding, stopped⟩, rest⟩ := check
      exact ⟨inode, created, made, written, wrote, holding, stopped, rest⟩
    · cases check
  · cases check

end OSInode

end ChOs
