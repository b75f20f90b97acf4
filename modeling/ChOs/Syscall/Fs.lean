import ChOs.Fs.Stdio
import ChOs.Fs.InodeFile

set_option autoImplicit false

/- `sys_write` and `sys_read` (`os/src/syscall/fs.rs`): what they print on the console and
what they store into user memory. -/

namespace ChOs

open EasyFs

/-- `as isize` of a `usize`. -/
def usizeAsIsize (n : Nat) : Int := if n < 2 ^ 63 then n else n - 2 ^ 64

/-- The fd table `TaskControlBlock::new` gives a task: `Stdin` at 0, `Stdout` at 1 and 2. -/
def initialFdTable : List (Option File) := [some .stdin, some .stdout, some .stdout]

/-- `sys_write(fd, buf, len)` of the current task over the volume `state`: the text printed,
and the return value with the volume and the fd table after the call. -/
def sysWrite {σ : Type} (ops : InodeOps σ) (state : σ) (memory : Nat → UInt8) (token : Nat)
    (fdTable : List (Option File)) (fd buf len fuel : Nat) :
    Option (String × Except String (Int × σ × List (Option File))) :=
  if outside : fdTable.length ≤ fd then some ("", .ok (-1, state, fdTable))
  else
    match fdTable[fd] with
    | none => some ("", .ok (-1, state, fdTable))
    | some file =>
        if !file.writable then some ("", .ok (-1, state, fdTable))
        else
          match translatedByteBuffer memory token buf len fuel with
          | none => none
          | some (.error message) => some ("", .error message)
          | some (.ok buffers) =>
              let (printed, result) := file.write ops state (UserBuffer.new memory buffers)
              some (printed, result.map fun (written, state, file) =>
                (usizeAsIsize written, state, fdTable.set fd (some file)))

/-- `sys_read(fd, buf, len)` of the current task over the volume `state`, where `ch` is the
character a read of `Stdin` waits for: the return value, the memory with the filled slices
stored back into their frames, and the fd table after the call. -/
def sysRead {σ : Type} (ops : InodeOps σ) (state : σ) (memory : Nat → UInt8) (token : Nat)
    (fdTable : List (Option File)) (fd buf len fuel ch : Nat) :
    Option (Except String (Int × (Nat → UInt8) × List (Option File))) :=
  if outside : fdTable.length ≤ fd then some (.ok (-1, memory, fdTable))
  else
    match fdTable[fd] with
    | none => some (.ok (-1, memory, fdTable))
    | some file =>
        if !file.readable then some (.ok (-1, memory, fdTable))
        else
          match translatedByteBuffer memory token buf len fuel with
          | none => none
          | some (.error message) => some (.error message)
          | some (.ok buffers) =>
              some ((file.read ops state ch (UserBuffer.new memory buffers)).map
                fun (read, userBuf, file) =>
                  (usizeAsIsize read, PageSlice.storeAll memory buffers userBuf.buffers,
                    fdTable.set fd (some file)))

section Pieces

variable {bytes : List UInt8} {ptr : Nat}

theorem flatten_chunkPieces {start finish : Nat} (after : ptr ≤ start)
    (ends : finish = ptr + bytes.length) :
    ((pageChunks start finish).map (chunkPiece bytes ptr)).flatten = bytes.drop (start - ptr) := by
  fun_induction pageChunks start finish with
  | case1 start below ih =>
      rw [List.map_cons, List.flatten_cons, ih (by omega), chunkPiece]
      dsimp only
      rw [show min ((start / 4096 + 1) * 4096) finish - ptr =
          start - ptr + (min ((start / 4096 + 1) * 4096) finish - start) by omega,
        ← List.drop_drop, List.take_append_drop]
  | case2 start above =>
      rw [List.map_nil, List.flatten_nil, List.drop_eq_nil_of_le (by omega)]

theorem valid_chunkPieces_iff (valid : Utf8.Valid bytes) {start finish : Nat} (after : ptr ≤ start)
    (ends : finish = ptr + bytes.length) (boundary : Utf8.Boundary bytes (start - ptr)) :
    (∀ chunk ∈ pageChunks start finish, Utf8.Valid (chunkPiece bytes ptr chunk)) ↔
      ∀ k, start - ptr < k → k < bytes.length → (ptr + k) % 4096 = 0 →
        Utf8.Boundary bytes k := by
  fun_induction pageChunks start finish with
  | case1 start below ih =>
      have piece :
          Utf8.Valid (chunkPiece bytes ptr (start, min ((start / 4096 + 1) * 4096) finish)) ↔
          Utf8.Boundary bytes (min ((start / 4096 + 1) * 4096) finish - ptr) := by
        rw [chunkPiece]
        dsimp only
        rw [show min ((start / 4096 + 1) * 4096) finish - start =
            (min ((start / 4096 + 1) * 4096) finish - ptr) - (start - ptr) by omega,
          Utf8.valid_slice_iff valid (by omega) (by omega)]
        constructor
        · rintro (same | ⟨-, reached⟩)
          · omega
          · exact reached
        · intro reached
          exact Or.inr ⟨boundary, reached⟩
      rw [List.forall_mem_cons, piece]
      constructor
      · rintro ⟨reached, rest⟩ k past inside aligned
        by_cases beyond : min ((start / 4096 + 1) * 4096) finish - ptr < k
        · exact (ih (by omega) reached).mp rest k beyond inside aligned
        · have same : k = min ((start / 4096 + 1) * 4096) finish - ptr := by omega
          rw [same]
          exact reached
      · intro cuts
        have reached : Utf8.Boundary bytes (min ((start / 4096 + 1) * 4096) finish - ptr) := by
          by_cases last : finish ≤ (start / 4096 + 1) * 4096
          · rw [Nat.min_eq_right last, ends, Nat.add_sub_cancel_left]
            exact Utf8.boundary_length valid
          · rw [Nat.min_eq_left (by omega)]
            exact cuts _ (by omega) (by omega) (by omega)
        refine ⟨reached, (ih (by omega) reached).mpr ?_⟩
        intro k past inside aligned
        exact cuts k (by omega) inside aligned
  | case2 start above =>
      constructor
      · intro _ k past inside
        omega
      · intro _ chunk member
        cases member

theorem chunkPiece_ne_nil {chunk : Nat × Nat} (member : chunk ∈ pageChunks ptr (ptr + bytes.length)) :
    chunkPiece bytes ptr chunk ≠ [] := by
  obtain ⟨after, before⟩ := pageChunks_inside _ _ chunk member
  obtain ⟨below, -⟩ := pageChunks_within_page _ _ chunk member
  rw [← List.length_pos_iff, chunkPiece, List.length_take, List.length_drop]
  omega

theorem valid_chunkPieces_iff_cuts (valid : Utf8.Valid bytes) :
    (∀ chunk ∈ pageChunks ptr (ptr + bytes.length), Utf8.Valid (chunkPiece bytes ptr chunk)) ↔
      ∀ k, 0 < k → k < bytes.length → (ptr + k) % 4096 = 0 → Utf8.Boundary bytes k := by
  have start : Utf8.Boundary bytes (ptr - ptr) := by
    rw [Nat.sub_self]
    exact Utf8.boundary_zero bytes
  rw [valid_chunkPieces_iff valid (Nat.le_refl ptr) rfl start, Nat.sub_self]

end Pieces

section Stdout

variable {σ : Type} (ops : InodeOps σ) (state : σ) {memory : Nat → UInt8} {token : Nat}
  {fdTable : List (Option File)} {fd ptr len fuel : Nat} {bytes : List UInt8}

theorem sysWrite_of_writable {file : File} (found : fdTable[fd]? = some (some file))
    (writable : file.writable = true) (small : ptr + len < 2 ^ 39)
    (enough : (pageChunks ptr (ptr + len)).length < fuel)
    (shown : userBytes memory token ptr len = some bytes) :
    sysWrite ops state memory token fdTable fd ptr len fuel =
      some ((file.write ops state ⟨(pageChunks ptr (ptr + len)).map (chunkPiece bytes ptr)⟩).1,
        (file.write ops state ⟨(pageChunks ptr (ptr + len)).map (chunkPiece bytes ptr)⟩).2.map
          fun (written, state, file) =>
            (usizeAsIsize written, state, fdTable.set fd (some file))) := by
  obtain ⟨inside, present⟩ := List.getElem?_eq_some_iff.mp found
  obtain ⟨slices, translated, pieces, -⟩ :=
    translatedByteBuffer_pieces memory token small enough shown
  rw [sysWrite, dif_neg (by omega)]
  split
  · rename_i empty
    rw [present] at empty
    cases empty
  · rename_i other held
    rw [present, Option.some.injEq] at held
    subst held
    rw [if_neg (by rw [writable]; decide), translated]
    dsimp only
    rw [UserBuffer.new, pieces]

theorem sysWrite_of_stdout (stdout : fdTable[fd]? = some (some .stdout)) (small : ptr + len < 2 ^ 39)
    (enough : (pageChunks ptr (ptr + len)).length < fuel)
    (shown : userBytes memory token ptr len = some bytes) :
    sysWrite ops state memory token fdTable fd ptr len fuel =
      some ((Stdout.write ⟨(pageChunks ptr (ptr + len)).map (chunkPiece bytes ptr)⟩).1,
        (Stdout.write ⟨(pageChunks ptr (ptr + len)).map (chunkPiece bytes ptr)⟩).2.map
          fun written => (usizeAsIsize written, state, fdTable)) := by
  obtain ⟨inside, found⟩ := List.getElem?_eq_some_iff.mp stdout
  rw [sysWrite_of_writable ops state stdout rfl small enough shown, File.write]
  dsimp only
  cases (Stdout.write ⟨(pageChunks ptr (ptr + len)).map (chunkPiece bytes ptr)⟩).2 with
  | error message => rfl
  | ok written =>
      simp only [Except.map]
      rw [← found, List.set_getElem_self inside]

theorem flatten_chunkPieces_of_shown (shown : userBytes memory token ptr len = some bytes) :
    ((pageChunks ptr (ptr + len)).map (chunkPiece bytes ptr)).flatten = bytes := by
  obtain ⟨sized, -⟩ := userBytes_getElem shown
  rw [flatten_chunkPieces (Nat.le_refl ptr) (by omega), Nat.sub_self, List.drop_zero]

theorem len_chunkPieces (shown : userBytes memory token ptr len = some bytes) :
    (UserBuffer.len ⟨(pageChunks ptr (ptr + len)).map (chunkPiece bytes ptr)⟩) = len := by
  obtain ⟨sized, -⟩ := userBytes_getElem shown
  rw [UserBuffer.len, ← List.length_flatten, flatten_chunkPieces_of_shown shown, sized]

/-- A text all of whose page boundaries fall between two characters is printed whole, and
`sys_write` returns its length. -/
theorem sysWrite_stdout_of_boundaries (stdout : fdTable[fd]? = some (some .stdout))
    (small : ptr + len < 2 ^ 39) (enough : (pageChunks ptr (ptr + len)).length < fuel)
    (shown : userBytes memory token ptr len = some bytes) {text : String}
    (decoded : String.fromUTF8? ⟨bytes.toArray⟩ = some text)
    (cuts : ∀ k, 0 < k → k < len → (ptr + k) % 4096 = 0 → Utf8.Boundary bytes k) :
    sysWrite ops state memory token fdTable fd ptr len fuel =
      some (text, .ok (len, state, fdTable)) := by
  obtain ⟨sized, -⟩ := userBytes_getElem shown
  have valid :
      ∀ piece ∈ (pageChunks ptr (ptr + len)).map (chunkPiece bytes ptr), Utf8.Valid piece := by
    rw [List.forall_mem_map, ← sized]
    exact (valid_chunkPieces_iff_cuts (Utf8.valid_of_fromUTF8? decoded)).mpr (sized ▸ cuts)
  obtain ⟨printed, written, joined⟩ := Stdout.write_of_valid valid
  rw [flatten_chunkPieces_of_shown shown, decoded, Option.some.injEq] at joined
  rw [sysWrite_of_stdout ops state stdout small enough shown, written, ← joined,
    len_chunkPieces shown]
  simp only [Except.map, usizeAsIsize, if_pos (show len < 2 ^ 63 by omega)]

/-- A valid text with a page boundary inside a character makes `sys_write` panic. -/
theorem sysWrite_stdout_of_split_char (stdout : fdTable[fd]? = some (some .stdout))
    (small : ptr + len < 2 ^ 39) (enough : (pageChunks ptr (ptr + len)).length < fuel)
    (shown : userBytes memory token ptr len = some bytes) (valid : Utf8.Valid bytes)
    (split : ∃ k, 0 < k ∧ k < len ∧ (ptr + k) % 4096 = 0 ∧ ¬ Utf8.Boundary bytes k) :
    ∃ printed, sysWrite ops state memory token fdTable fd ptr len fuel =
      some (printed, .error invalidUtf8) := by
  obtain ⟨sized, -⟩ := userBytes_getElem shown
  have invalid : ∃ piece ∈ (pageChunks ptr (ptr + len)).map (chunkPiece bytes ptr),
      ¬ Utf8.Valid piece := by
    obtain ⟨k, positive, inside, aligned, straddles⟩ := split
    by_contra none
    have everyValid :
        ∀ chunk ∈ pageChunks ptr (ptr + len), Utf8.Valid (chunkPiece bytes ptr chunk) := by
      intro chunk member
      by_contra bad
      exact none ⟨_, List.mem_map_of_mem member, bad⟩
    rw [← sized] at everyValid
    exact straddles ((valid_chunkPieces_iff_cuts valid).mp everyValid k positive (by omega) aligned)
  have failed := Stdout.write_of_invalid invalid
  refine ⟨(Stdout.write ⟨(pageChunks ptr (ptr + len)).map (chunkPiece bytes ptr)⟩).1, ?_⟩
  rw [sysWrite_of_stdout ops state stdout small enough shown, failed]
  rfl

end Stdout

section Read

variable {σ : Type} (ops : InodeOps σ) (state : σ) {memory : Nat → UInt8} {token : Nat}
  {fdTable : List (Option File)} {fd ptr len fuel : Nat} {bytes : List UInt8} (ch : Nat)

theorem sysRead_of_readable {file : File} (found : fdTable[fd]? = some (some file))
    (readable : file.readable = true) (small : ptr + len < 2 ^ 39)
    (enough : (pageChunks ptr (ptr + len)).length < fuel)
    (shown : userBytes memory token ptr len = some bytes) :
    ∃ slices, translatedByteBuffer memory token ptr len fuel = some (.ok slices) ∧
      slices.map (PageSlice.bytes memory) =
        (pageChunks ptr (ptr + len)).map (chunkPiece bytes ptr) ∧
      (∀ slice ∈ slices, slice.Framed) ∧
      sysRead ops state memory token fdTable fd ptr len fuel ch =
        some ((file.read ops state ch ⟨(pageChunks ptr (ptr + len)).map (chunkPiece bytes ptr)⟩).map
          fun (read, userBuf, file) =>
            (usizeAsIsize read, PageSlice.storeAll memory slices userBuf.buffers,
              fdTable.set fd (some file))) := by
  obtain ⟨inside, present⟩ := List.getElem?_eq_some_iff.mp found
  obtain ⟨slices, translated, pieces, framed⟩ :=
    translatedByteBuffer_pieces memory token small enough shown
  refine ⟨slices, translated, pieces, framed, ?_⟩
  rw [sysRead, dif_neg (by omega)]
  split
  · rename_i empty
    rw [present] at empty
    cases empty
  · rename_i other held
    rw [present, Option.some.injEq] at held
    subst held
    rw [if_neg (by rw [readable]; decide), translated]
    dsimp only
    rw [UserBuffer.new, pieces]

/-- `Stdin::read` asserts a buffer of one byte, so a `sys_read` of `Stdin` of any other length
panics, a read of no bytes included. -/
theorem sysRead_stdin_of_len_ne_one (found : fdTable[fd]? = some (some .stdin))
    (small : ptr + len < 2 ^ 39) (enough : (pageChunks ptr (ptr + len)).length < fuel)
    (shown : userBytes memory token ptr len = some bytes) (other : len ≠ 1) :
    sysRead ops state memory token fdTable fd ptr len fuel ch =
      some (.error (assertEqFailed len 1)) := by
  obtain ⟨slices, -, -, -, read⟩ := sysRead_of_readable ops state ch found rfl small enough shown
  rw [read, File.read, Stdin.read, len_chunkPieces shown, if_pos other]
  rfl

theorem pageChunks_single {start finish : Nat} (below : start < finish)
    (within : finish ≤ (start / 4096 + 1) * 4096) : pageChunks start finish = [(start, finish)] := by
  rw [pageChunks, dif_pos below, Nat.min_eq_right within, pageChunks, dif_neg (Nat.lt_irrefl _)]

theorem sysRead_stdin (found : fdTable[fd]? = some (some .stdin)) (small : ptr + 1 < 2 ^ 39)
    (enough : (pageChunks ptr (ptr + 1)).length < fuel)
    (shown : userBytes memory token ptr 1 = some bytes) :
    ∃ slices memory', translatedByteBuffer memory token ptr 1 fuel = some (.ok slices) ∧
      sysRead ops state memory token fdTable fd ptr 1 fuel ch = some (.ok (1, memory', fdTable)) ∧
      slices.map (PageSlice.bytes memory') = [[UInt8.ofNat ch]] := by
  obtain ⟨sized, -⟩ := userBytes_getElem shown
  have chunks : pageChunks ptr (ptr + 1) = [(ptr, ptr + 1)] :=
    pageChunks_single (Nat.lt_succ_self ptr) (by omega)
  have piece : chunkPiece bytes ptr (ptr, ptr + 1) = bytes := by
    rw [chunkPiece]
    dsimp only
    rw [Nat.sub_self, List.drop_zero, Nat.add_sub_cancel_left, List.take_of_length_le (by omega)]
  obtain ⟨slices, translated, pieces, -, read⟩ :=
    sysRead_of_readable ops state ch found rfl small enough shown
  rw [chunks, List.map_cons, List.map_nil, piece] at pieces read
  obtain ⟨slice, rfl, holds⟩ := List.map_eq_singleton_iff.mp pieces
  have width : [[UInt8.ofNat ch]].map List.length = [slice].map fun slice => slice.hi - slice.lo := by
    have one : slice.hi - slice.lo = 1 := by
      rw [← ByteMemory.readBytes_length memory slice.start (slice.hi - slice.lo)]
      exact (congrArg List.length holds).trans sized
    rw [List.map_singleton, List.map_singleton, one]
    rfl
  have stored :=
    @bytes_storeAll memory [slice] [[UInt8.ofNat ch]] (List.pairwise_singleton _ slice) width
  refine ⟨[slice], PageSlice.storeAll memory [slice] [[UInt8.ofNat ch]], translated, ?_, stored⟩
  obtain ⟨inside, present⟩ := List.getElem?_eq_some_iff.mp found
  have single : UserBuffer.len ⟨[bytes]⟩ = 1 := by
    rw [UserBuffer.len, List.map_singleton, List.sum_singleton, sized]
  have rest : bytes.drop 1 = [] := List.drop_eq_nil_of_le (by omega)
  rw [read, File.read, Stdin.read, single, if_neg (by decide)]
  dsimp only [Except.map]
  rw [rest, ← present, List.set_getElem_self inside]
  rfl

/-- `Stdin::read` reads one byte. A `sys_read` of one byte stores the character the console
gives into the frame behind the user's byte and returns 1; a read of any other length panics on
the `assert_eq!` of the buffer's length. -/
theorem sysRead_stdin_reads_one_byte (found : fdTable[fd]? = some (some .stdin))
    (small : ptr + len < 2 ^ 39) (enough : (pageChunks ptr (ptr + len)).length < fuel)
    (shown : userBytes memory token ptr len = some bytes) :
    (len = 1 → ∃ slices memory', translatedByteBuffer memory token ptr 1 fuel = some (.ok slices) ∧
        sysRead ops state memory token fdTable fd ptr 1 fuel ch = some (.ok (1, memory', fdTable)) ∧
        slices.map (PageSlice.bytes memory') = [[UInt8.ofNat ch]]) ∧
      (len ≠ 1 → sysRead ops state memory token fdTable fd ptr len fuel ch =
        some (.error (assertEqFailed len 1))) := by
  refine ⟨fun one => ?_, sysRead_stdin_of_len_ne_one ops state ch found small enough shown⟩
  subst one
  exact sysRead_stdin ops state ch found small enough shown

/-- `sys_read` of a readable `OSInode` whose inode follows the file model reads
`min len (len F - offset)` bytes of the file from its offset, returns that count and moves the
offset past them. When the slices lie in distinct frames, those frames then hold the bytes read,
followed by the rest of the user's buffer as it was. -/
theorem sysRead_osInode {holds : σ → List UInt8 → Prop} {capacity : Nat}
    (follows : FollowsFile ops holds capacity) {file : List UInt8} (holding : holds state file)
    {inode : OSInode} (found : fdTable[fd]? = some (some (.osInode inode)))
    (readable : inode.readable = true) (small : ptr + len < 2 ^ 39)
    (enough : (pageChunks ptr (ptr + len)).length < fuel)
    (shown : userBytes memory token ptr len = some bytes) :
    ∃ slices, translatedByteBuffer memory token ptr len fuel = some (.ok slices) ∧
      ((slices.map PageSlice.ppn).Nodup →
        ∃ memory', sysRead ops state memory token fdTable fd ptr len fuel ch =
            some (.ok (((min len (file.length - inode.offset) : Nat) : Int), memory',
              fdTable.set fd (some (.osInode
                { inode with offset := inode.offset + min len (file.length - inode.offset) })))) ∧
          (slices.map (PageSlice.bytes memory')).flatten =
            (file.drop inode.offset).take (min len (file.length - inode.offset)) ++
              bytes.drop (min len (file.length - inode.offset))) := by
  obtain ⟨sized, -⟩ := userBytes_getElem shown
  obtain ⟨slices, translated, pieces, framed, read⟩ :=
    sysRead_of_readable ops state ch found readable small enough shown
  refine ⟨slices, translated, fun distinct => ?_⟩
  have whole := flatten_chunkPieces_of_shown shown
  have total : beforeEmpty ((pageChunks ptr (ptr + len)).map (chunkPiece bytes ptr)) = len := by
    have nonempty : ∀ piece ∈ (pageChunks ptr (ptr + len)).map (chunkPiece bytes ptr),
        piece ≠ [] := by
      rw [List.forall_mem_map]
      intro chunk member
      exact chunkPiece_ne_nil (by rw [sized]; exact member)
    rw [beforeEmpty_of_nonempty nonempty, ← List.length_flatten, whole, sized]
  obtain ⟨filled, loop, flat, lengths⟩ :=
    OSInode.readLoop_spec follows holding ((pageChunks ptr (ptr + len)).map (chunkPiece bytes ptr))
      inode.offset 0
  rw [total] at loop flat
  have widths : filled.map List.length = slices.map fun slice => slice.hi - slice.lo := by
    rw [lengths, ← pieces, List.map_map]
    apply List.map_congr_left
    intro slice _
    exact ByteMemory.readBytes_length memory _ _
  refine ⟨PageSlice.storeAll memory slices filled, ?_, ?_⟩
  · rw [read, File.read, OSInode.read, loop]
    simp only [ok_bind, Nat.zero_add, pure, Except.pure, Except.map]
    rw [usizeAsIsize, if_pos (by omega)]
  · rw [bytes_storeAll (PageSlice.pairwise_apart framed distinct) widths, flat, whole]

end Read

/-- A user address space whose pages 0 and 1 are mapped `R | W | U` to frames 7 and 9. -/
def twoPageSpace : Except String (PageTable × Machine Frames) := do
  let (table, machine) ← PageTable.new Frames.allocHeld ⟨fun _ => 0, Frames.initial 1 4⟩
  let (table, machine) ← table.map Frames.allocHeld machine ⟨0⟩ ⟨7⟩
    (PTEFlags.R ||| PTEFlags.W ||| PTEFlags.U)
  table.map Frames.allocHeld machine ⟨1⟩ ⟨9⟩ (PTEFlags.R ||| PTEFlags.W ||| PTEFlags.U)

/-- The two UTF-8 bytes of "é" at the last address of page 0, `0xC3` in frame 7 and `0xA9` at
the start of frame 9. -/
def eAcuteAcrossPages (memory : Nat → UInt8) : Nat → UInt8 :=
  ByteMemory.writeBytes (ByteMemory.writeBytes memory (7 * 4096 + 4095) [0xC3]) (9 * 4096) [0xA9]

theorem twoPageSpace_eAcute :
    ∃ table machine, twoPageSpace = .ok (table, machine) ∧
      (∀ vpn ∈ [0, 1], ∃ pte, (PageTable.fromToken table.token).translate
        (eAcuteAcrossPages machine.memory) ⟨vpn⟩ = some pte ∧ pte.isValid = true) ∧
      userBytes (eAcuteAcrossPages machine.memory) table.token 4095 2 = some [0xC3, 0xA9] := by
  have check : twoPageSpace.toOption.any (fun (table, machine) =>
      [0, 1].all (fun vpn => ((PageTable.fromToken table.token).translate
        (eAcuteAcrossPages machine.memory) ⟨vpn⟩).any PageTableEntry.isValid) &&
      decide (userBytes (eAcuteAcrossPages machine.memory) table.token 4095 2 =
        some [0xC3, 0xA9])) = true := by
    decide +kernel
  obtain ⟨⟨table, machine⟩, built, check⟩ := ok_of_toOption_any check
  simp only [Bool.and_eq_true, decide_eq_true_eq, List.all_eq_true] at check
  obtain ⟨mapped, shown⟩ := check
  exact ⟨table, machine, built, fun vpn member => (Option.any_eq_true _ _).mp (mapped vpn member),
    shown⟩

theorem pageChunks_eAcute : pageChunks 4095 4097 = [(4095, 4096), (4096, 4097)] := by
  rw [pageChunks, dif_pos (by decide), Nat.min_eq_left (by decide),
    pageChunks_single (by decide) (by decide)]

/-- `print!("é")` from a user whose string sits at address 4095, across pages 0 and 1 that are
both validly mapped: `sys_write(1, 4095, 2)` panics, with nothing printed, for every number of
rounds of `translated_byte_buffer` beyond the two it needs. -/
theorem stdout_write_panics_on_char_across_pages :
    ∃ table machine, twoPageSpace = .ok (table, machine) ∧
      (∀ vpn ∈ [0, 1], ∃ pte, (PageTable.fromToken table.token).translate
        (eAcuteAcrossPages machine.memory) ⟨vpn⟩ = some pte ∧ pte.isValid = true) ∧
      userBytes (eAcuteAcrossPages machine.memory) table.token 4095 2 = some [0xC3, 0xA9] ∧
      String.fromUTF8? ⟨#[0xC3, 0xA9]⟩ = some "é" ∧
      ∀ {σ : Type} (ops : InodeOps σ) (state : σ) (fuel : Nat),
        sysWrite ops state (eAcuteAcrossPages machine.memory) table.token initialFdTable 1 4095 2
          (fuel + 3) = some ("", .error invalidUtf8) := by
  obtain ⟨table, machine, built, mapped, shown⟩ := twoPageSpace_eAcute
  refine ⟨table, machine, built, mapped, shown, by decide, ?_⟩
  intro σ ops state fuel
  have enough : (pageChunks 4095 (4095 + 2)).length < fuel + 3 := by
    rw [pageChunks_eAcute, List.length_cons, List.length_cons, List.length_nil]
    omega
  rw [sysWrite_of_stdout ops state (by rfl) (by decide) enough shown, pageChunks_eAcute]
  rfl

theorem eAcute_write_panics :
    ∃ table machine, twoPageSpace = .ok (table, machine) ∧ ∃ printed,
      sysWrite (Inode.ops ⟨0, 0⟩ (EasyFileSystem.layout 1030 1)) threeByteVolume
        (eAcuteAcrossPages machine.memory) table.token initialFdTable 1 4095 2 3 =
          some (printed, .error invalidUtf8) := by
  obtain ⟨table, machine, built, -, shown⟩ := twoPageSpace_eAcute
  have enough : (pageChunks 4095 (4095 + 2)).length < 3 := by
    rw [pageChunks_eAcute]
    decide
  exact ⟨table, machine, built, sysWrite_stdout_of_split_char _ _ rfl (by decide) enough shown
    (by decide) ⟨1, by decide, by decide, by decide, by decide⟩⟩

/-- The bytes of "hi" at address 0, in frame 7. -/
def hiAtZero (memory : Nat → UInt8) : Nat → UInt8 :=
  ByteMemory.writeBytes memory (7 * 4096) [0x68, 0x69]

theorem twoPageSpace_hi :
    ∃ table machine, twoPageSpace = .ok (table, machine) ∧
      userBytes (hiAtZero machine.memory) table.token 0 1 = some [0x68] ∧
      userBytes (hiAtZero machine.memory) table.token 0 2 = some [0x68, 0x69] ∧
      userBytes (hiAtZero machine.memory) table.token 4096 2 = some [0, 0] ∧
      translatedStr (hiAtZero machine.memory) table.token 0 4 = some (.ok "hi") := by
  have check : twoPageSpace.toOption.any (fun (table, machine) =>
      decide (userBytes (hiAtZero machine.memory) table.token 0 1 = some [0x68]) &&
      decide (userBytes (hiAtZero machine.memory) table.token 0 2 = some [0x68, 0x69]) &&
      decide (userBytes (hiAtZero machine.memory) table.token 4096 2 = some [0, 0]) &&
      decide (translatedStr (hiAtZero machine.memory) table.token 0 4 = some (.ok "hi"))) = true := by
    decide +kernel
  obtain ⟨⟨table, machine⟩, built, check⟩ := ok_of_toOption_any check
  simp only [Bool.and_eq_true, decide_eq_true_eq] at check
  obtain ⟨⟨⟨one, two⟩, blank⟩, named⟩ := check
  exact ⟨table, machine, built, one, two, blank, named⟩

theorem stdin_reads_one_byte_of_two_pages :
    ∃ table machine, twoPageSpace = .ok (table, machine) ∧
      (∃ slices memory', translatedByteBuffer (hiAtZero machine.memory) table.token 0 1 2 =
          some (.ok slices) ∧
        sysRead (Inode.ops ⟨0, 0⟩ (EasyFileSystem.layout 1030 1)) threeByteVolume
            (hiAtZero machine.memory) table.token initialFdTable 0 0 1 2 0x61 =
          some (.ok (1, memory', initialFdTable)) ∧
        slices.map (PageSlice.bytes memory') = [[UInt8.ofNat 0x61]]) ∧
      sysRead (Inode.ops ⟨0, 0⟩ (EasyFileSystem.layout 1030 1)) threeByteVolume
          (hiAtZero machine.memory) table.token initialFdTable 0 0 2 3 0x61 =
        some (.error (assertEqFailed 2 1)) := by
  obtain ⟨table, machine, built, one, two, -, -⟩ := twoPageSpace_hi
  have enoughOne : (pageChunks 0 (0 + 1)).length < 2 := by
    rw [pageChunks_single (by decide) (by decide)]
    decide
  have enoughTwo : (pageChunks 0 (0 + 2)).length < 3 := by
    rw [pageChunks_single (by decide) (by decide)]
    decide
  exact ⟨table, machine, built,
    (sysRead_stdin_reads_one_byte _ _ 0x61 rfl (by decide) enoughOne one).1 rfl,
    (sysRead_stdin_reads_one_byte _ _ 0x61 rfl (by decide) enoughTwo two).2 (by decide)⟩

end ChOs
