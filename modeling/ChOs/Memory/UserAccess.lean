import ChOs.Memory.PageTableRun

set_option autoImplicit false

/- Kernel access to user memory (`os/src/memory/page_table.rs`). -/

namespace ChOs

/-- `Ord::min` for the derived order of `VirtAddr`: the first argument on a tie. -/
def VirtAddr.min (self other : VirtAddr) : VirtAddr := if self.val ≤ other.val then self else other

/-- `PhysAddr::get_mut`: `as_mut` of the null pointer is `None`, and `unwrap` panics. -/
def PhysAddr.getMut (self : PhysAddr) : Except String PhysAddr :=
  if self.val = 0 then .error unwrapNone else .ok self

/-- `&mut ppn.get_bytes_array()[lo..hi]`: the bytes from offset `lo` up to `hi` of
frame `ppn`. -/
structure PageSlice where
  ppn : PhysPageNum
  lo : Nat
  hi : Nat
  deriving DecidableEq, Repr

/-- Indexing `[lo..hi]` of a frame's byte array: bounds out of order panic. The end is
a page offset, below the array's length. -/
def PageSlice.range (ppn : PhysPageNum) (lo hi : Nat) : Except String PageSlice :=
  if lo ≤ hi then .ok ⟨ppn, lo, hi⟩
  else .error ("slice index starts at " ++ toString lo ++ " but ends at " ++ toString hi)

/-- The physical address of the slice's first byte: `get_bytes_array` starts at the frame's
physical address. -/
def PageSlice.start (slice : PageSlice) : Nat := slice.ppn.toPhysAddr.val + slice.lo

/-- The bytes the slice borrows. -/
def PageSlice.bytes (memory : Nat → UInt8) (slice : PageSlice) : List UInt8 :=
  ByteMemory.readBytes memory slice.start (slice.hi - slice.lo)

/-- Stores of `buffers` through the slices they fill, one after another: the writes `read_at`
and `Stdin::read` make through the `&mut [u8]` slices of a `UserBuffer`. -/
def PageSlice.storeAll (memory : Nat → UInt8) : List PageSlice → List (List UInt8) → Nat → UInt8
  | slice :: slices, bytes :: buffers =>
      storeAll (ByteMemory.writeBytes memory slice.start bytes) slices buffers
  | _, _ => memory

/-- The loop of `translated_byte_buffer` from `start` on. The slice `[lo..]` cannot
panic, since a page offset is below 4096. -/
def translatedByteBufferLoop (pageTable : PageTable) (memory : Nat → UInt8) (finish : Nat) :
    Nat → Nat → List PageSlice → Option (Except String (List PageSlice))
  | 0, _, _ => none
  | fuel + 1, start, v =>
      if start < finish then
        let startVa := VirtAddr.fromUsize start
        let vpn := startVa.floor
        match pageTable.translate memory vpn with
        | none => some (.error unwrapNone)
        | some pte =>
            let ppn := pte.ppn
            let endVa := vpn.step.toVirtAddr.min (VirtAddr.fromUsize finish)
            let slice := if endVa.pageOffset = 0 then .ok ⟨ppn, startVa.pageOffset, 4096⟩
              else PageSlice.range ppn startVa.pageOffset endVa.pageOffset
            match slice with
            | .error message => some (.error message)
            | .ok slice =>
                translatedByteBufferLoop pageTable memory finish fuel endVa.val (v ++ [slice])
      else some (.ok v)

/-- `translated_byte_buffer(token, ptr, len)`; `end = start + len` wraps. -/
def translatedByteBuffer (memory : Nat → UInt8) (token ptr len fuel : Nat) :
    Option (Except String (List PageSlice)) :=
  translatedByteBufferLoop (PageTable.fromToken token) memory ((ptr + len) % 2 ^ 64) fuel ptr []

/-- `translated_refmut(token, ptr)`: the physical address the reference points at. -/
def translatedRefmut (memory : Nat → UInt8) (token ptr : Nat) : Except String PhysAddr :=
  match (PageTable.fromToken token).translateVa memory (VirtAddr.fromUsize ptr) with
  | none => .error unwrapNone
  | some pa => pa.getMut

/-- The loop of `translated_str`: read a byte through `translate_va`, stop at a zero
byte, push it as a `char` otherwise; `va += 1` wraps. -/
def translatedStrLoop (pageTable : PageTable) (memory : Nat → UInt8) :
    Nat → Nat → String → Option (Except String String)
  | 0, _, _ => none
  | fuel + 1, va, string =>
      match pageTable.translateVa memory (VirtAddr.fromUsize va) with
      | none => some (.error unwrapNone)
      | some pa =>
          match pa.getMut with
          | .error message => some (.error message)
          | .ok pa =>
              let ch := memory pa.val
              if ch = 0 then some (.ok string)
              else translatedStrLoop pageTable memory fuel ((va + 1) % 2 ^ 64)
                (string.push (Char.ofNat ch.toNat))

def translatedStr (memory : Nat → UInt8) (token ptr fuel : Nat) : Option (Except String String) :=
  translatedStrLoop (PageTable.fromToken token) memory fuel ptr ""

end ChOs

namespace ChOs

open IndexTree

theorem PageTable.translateVa_eq (table : PageTable) (memory : Nat → UInt8) (va : VirtAddr) :
    table.translateVa memory va =
      (table.translate memory va.floor).map fun pte => ⟨pte.ppn.val * 4096 + va.val % 4096⟩ := by
  unfold PageTable.translateVa PageTable.translate
  cases table.findPte memory va.floor with
  | none => rfl
  | some address =>
      have small := (readPte memory address).ppn_lt
      have offset := Nat.mod_lt va.val (show 4096 > 0 by decide)
      rw [Option.map_some, Option.map_some, Option.map_some, Option.some.injEq]
      apply PhysAddr.ext
      rw [PhysAddr.fromUsize_val, PhysPageNum.toPhysAddr_val, VirtAddr.pageOffset_eq]
      dsimp only
      omega

theorem translatedRefmut_eq (memory : Nat → UInt8) (token ptr : Nat) :
    translatedRefmut memory token ptr =
      match (PageTable.fromToken token).translate memory (VirtAddr.fromUsize ptr).floor with
      | none => .error unwrapNone
      | some pte => PhysAddr.getMut ⟨pte.ppn.val * 4096 + ptr % 4096⟩ := by
  have offset : (VirtAddr.fromUsize ptr).val % 4096 = ptr % 4096 := by
    rw [VirtAddr.fromUsize_val]
    omega
  rw [translatedRefmut, PageTable.translateVa_eq]
  cases (PageTable.fromToken token).translate memory (VirtAddr.fromUsize ptr).floor with
  | none => rfl
  | some pte => rw [Option.map_some, offset]

/-- `[start, finish)` cut at page boundaries, in address order. -/
def pageChunks (start finish : Nat) : List (Nat × Nat) :=
  if below : start < finish then
    (start, min ((start / 4096 + 1) * 4096) finish) ::
      pageChunks (min ((start / 4096 + 1) * 4096) finish) finish
  else []
termination_by finish - start
decreasing_by omega

/-- The slice of the chunk `[a, b)` of a page whose leaf entry is `pte`: from the
offset of `a` to the offset of `b`, or to the end of the frame when `b` is on a page
boundary. -/
def chunkSlice (pte : PageTableEntry) (chunk : Nat × Nat) : PageSlice :=
  ⟨pte.ppn, chunk.1 % 4096, if chunk.2 % 4096 = 0 then 4096 else chunk.2 % 4096⟩

theorem translatedByteBufferLoop_step (pageTable : PageTable) (memory : Nat → UInt8)
    {finish : Nat} (fuel : Nat) {start : Nat} (v : List PageSlice) (below : start < finish)
    (small : finish < 2 ^ 39) :
    translatedByteBufferLoop pageTable memory finish (fuel + 1) start v =
      match pageTable.translate memory ⟨start / 4096⟩ with
      | none => some (.error unwrapNone)
      | some pte =>
          translatedByteBufferLoop pageTable memory finish fuel
            (min ((start / 4096 + 1) * 4096) finish)
            (v ++ [chunkSlice pte (start, min ((start / 4096 + 1) * 4096) finish)]) := by
  have startVa : VirtAddr.fromUsize start = ⟨start⟩ :=
    VirtAddr.ext (by rw [VirtAddr.fromUsize_val]; exact Nat.mod_eq_of_lt (by omega))
  have finishVa : VirtAddr.fromUsize finish = ⟨finish⟩ :=
    VirtAddr.ext (by rw [VirtAddr.fromUsize_val]; exact Nat.mod_eq_of_lt (by omega))
  have floor : VirtAddr.floor ⟨start⟩ = ⟨start / 4096⟩ := rfl
  have endVa : (VirtAddr.floor ⟨start⟩).step.toVirtAddr.min ⟨finish⟩ =
      ⟨min ((start / 4096 + 1) * 4096) finish⟩ := by
    have boundary : ((start / 4096 + 1) * 4096) % 2 ^ 64 = (start / 4096 + 1) * 4096 := by
      omega
    unfold VirtAddr.min
    split
    · rename_i first
      apply VirtAddr.ext
      simp only [VirtPageNum.toVirtAddr_val, VirtPageNum.step_val, VirtAddr.floor_val] at first ⊢
      omega
    · rename_i second
      apply VirtAddr.ext
      simp only [VirtPageNum.toVirtAddr_val, VirtPageNum.step_val, VirtAddr.floor_val] at second ⊢
      omega
  rw [translatedByteBufferLoop, if_pos below, startVa, finishVa]
  dsimp only
  rw [endVa, floor]
  cases pageTable.translate memory ⟨start / 4096⟩ with
  | none => rfl
  | some pte =>
      have ordered : min ((start / 4096 + 1) * 4096) finish % 4096 ≠ 0 →
          start % 4096 ≤ min ((start / 4096 + 1) * 4096) finish % 4096 := by
        intro inside
        omega
      simp only [VirtAddr.pageOffset_eq, chunkSlice]
      by_cases boundary : min ((start / 4096 + 1) * 4096) finish % 4096 = 0
      · rw [if_pos boundary, if_pos boundary]
      · rw [if_neg boundary, if_neg boundary, PageSlice.range, if_pos (ordered boundary)]

theorem translatedByteBufferLoop_chunks (pageTable : PageTable) (memory : Nat → UInt8)
    {finish : Nat} (small : finish < 2 ^ 39) (start fuel : Nat) (v : List PageSlice)
    (enough : (pageChunks start finish).length < fuel) :
    translatedByteBufferLoop pageTable memory finish fuel start v =
      some (match (pageChunks start finish).mapM (fun chunk =>
          (pageTable.translate memory ⟨chunk.1 / 4096⟩).map fun pte => chunkSlice pte chunk) with
        | none => .error unwrapNone
        | some slices => .ok (v ++ slices)) := by
  fun_induction pageChunks start finish generalizing fuel v with
  | case1 start below ih =>
      obtain ⟨fuel, rfl⟩ : ∃ rest, fuel = rest + 1 := ⟨fuel - 1, by omega⟩
      rw [translatedByteBufferLoop_step pageTable memory fuel v below small, List.mapM_cons]
      cases pageTable.translate memory ⟨start / 4096⟩ with
      | none => rfl
      | some pte =>
          dsimp only
          rw [ih fuel _ (by simp only [List.length_cons] at enough; omega)]
          cases (pageChunks (min ((start / 4096 + 1) * 4096) finish) finish).mapM
            (fun chunk => (pageTable.translate memory ⟨chunk.1 / 4096⟩).map
              fun pte => chunkSlice pte chunk) with
          | none => rfl
          | some slices => simp
  | case2 start above =>
      obtain ⟨fuel, rfl⟩ : ∃ rest, fuel = rest + 1 := ⟨fuel - 1, by omega⟩
      rw [translatedByteBufferLoop, if_neg above]
      simp

theorem pageChunks_within_page (start finish : Nat) :
    ∀ chunk ∈ pageChunks start finish,
      chunk.1 < chunk.2 ∧ chunk.2 ≤ (chunk.1 / 4096 + 1) * 4096 := by
  fun_induction pageChunks start finish with
  | case1 start below ih =>
      intro chunk member
      rcases List.mem_cons.mp member with first | rest
      · rw [first]
        constructor <;> omega
      · exact ih chunk rest
  | case2 start above =>
      intro chunk member
      cases member

theorem pageChunks_inside (start finish : Nat) :
    ∀ chunk ∈ pageChunks start finish, start ≤ chunk.1 ∧ chunk.2 ≤ finish := by
  fun_induction pageChunks start finish with
  | case1 start below ih =>
      intro chunk member
      rcases List.mem_cons.mp member with first | rest
      · rw [first]
        constructor <;> omega
      · obtain ⟨after, before⟩ := ih chunk rest
        constructor <;> omega
  | case2 start above =>
      intro chunk member
      cases member

/-- The byte a user load from `va` reads, through the leaf entry of its page; `none` when the
walk finds no leaf. -/
def userByte (memory : Nat → UInt8) (token va : Nat) : Option UInt8 :=
  ((PageTable.fromToken token).translateVa memory (VirtAddr.fromUsize va)).map fun pa =>
    memory pa.val

/-- The `len` bytes user loads read from `ptr` on, or `none` when one of them is not mapped. -/
def userBytes (memory : Nat → UInt8) (token ptr len : Nat) : Option (List UInt8) :=
  (List.range' ptr len).mapM (userByte memory token)

/-- The bytes of `chunk` among the bytes `bytes` of a range that starts at `ptr`. -/
def chunkPiece (bytes : List UInt8) (ptr : Nat) (chunk : Nat × Nat) : List UInt8 :=
  (bytes.drop (chunk.1 - ptr)).take (chunk.2 - chunk.1)

theorem userByte_eq (memory : Nat → UInt8) (token : Nat) {va : Nat} (small : va < 2 ^ 39) :
    userByte memory token va =
      ((PageTable.fromToken token).translate memory ⟨va / 4096⟩).map fun pte =>
        memory (pte.ppn.val * 4096 + va % 4096) := by
  have masked : VirtAddr.fromUsize va = ⟨va⟩ :=
    VirtAddr.ext (by rw [VirtAddr.fromUsize_val]; exact Nat.mod_eq_of_lt small)
  rw [userByte, PageTable.translateVa_eq, masked, Option.map_map]
  rfl

theorem userBytes_getElem {memory : Nat → UInt8} {token : Nat} :
    ∀ {ptr len : Nat} {bytes : List UInt8}, userBytes memory token ptr len = some bytes →
      bytes.length = len ∧ ∀ index (inside : index < bytes.length),
        userByte memory token (ptr + index) = some bytes[index] := by
  intro ptr len
  induction len generalizing ptr with
  | zero =>
      intro bytes shown
      rw [userBytes, List.range'_zero, List.mapM_nil] at shown
      cases shown
      exact ⟨rfl, fun index inside => absurd inside (Nat.not_lt_zero _)⟩
  | succ len ih =>
      intro bytes shown
      rw [userBytes, List.range'_succ, List.mapM_cons] at shown
      cases first : userByte memory token ptr with
      | none =>
          rw [first] at shown
          cases shown
      | some byte =>
          cases rest : (List.range' (ptr + 1) len).mapM (userByte memory token) with
          | none =>
              rw [first, rest] at shown
              cases shown
          | some later =>
              rw [first, rest] at shown
              cases shown
              obtain ⟨sized, loads⟩ := ih rest
              refine ⟨by rw [List.length_cons, sized], ?_⟩
              intro index inside
              cases index with
              | zero => exact first
              | succ index =>
                  rw [← Nat.add_assoc, Nat.add_right_comm]
                  exact loads index (by simp only [List.length_cons] at inside; omega)

theorem mapM_eq_some_of_forall {α β γ : Type} {f : α → Option β} {g : β → γ} {h : α → γ}
    {P : β → Prop} {l : List α} (each : ∀ x ∈ l, ∃ y, f x = some y ∧ g y = h x ∧ P y) :
    ∃ ys, l.mapM f = some ys ∧ ys.map g = l.map h ∧ ∀ y ∈ ys, P y := by
  induction l with
  | nil => exact ⟨[], rfl, rfl, fun _ member => nomatch member⟩
  | cons x rest ih =>
      obtain ⟨⟨y, first, observed, holds⟩, later⟩ := List.forall_mem_cons.mp each
      obtain ⟨ys, traversed, mapped, hold⟩ := ih later
      refine ⟨y :: ys, ?_, ?_, List.forall_mem_cons.mpr ⟨holds, hold⟩⟩
      · rw [List.mapM_cons, first, traversed]
        rfl
      · rw [List.map_cons, List.map_cons, observed, mapped]

/-- A slice inside one frame of a page number that a page-table entry can hold. -/
structure PageSlice.Framed (slice : PageSlice) : Prop where
  ordered : slice.lo ≤ slice.hi
  within : slice.hi ≤ 4096
  ppn_lt : slice.ppn.val < 2 ^ 44

theorem framed_chunkSlice (pte : PageTableEntry) {a b : Nat} (below : a < b)
    (within : b ≤ (a / 4096 + 1) * 4096) : (chunkSlice pte (a, b)).Framed where
  ordered := by
    simp only [chunkSlice]
    split <;> omega
  within := by
    simp only [chunkSlice]
    split <;> omega
  ppn_lt := pte.ppn_lt

theorem bytes_chunkSlice {memory : Nat → UInt8} {token ptr : Nat} {bytes : List UInt8}
    (loads : ∀ index (inside : index < bytes.length),
      userByte memory token (ptr + index) = some bytes[index])
    {pte : PageTableEntry} {a b : Nat} (after : ptr ≤ a) (below : a < b)
    (within : b ≤ (a / 4096 + 1) * 4096) (before : b ≤ ptr + bytes.length) (small : b ≤ 2 ^ 39)
    (mapped : (PageTable.fromToken token).translate memory ⟨a / 4096⟩ = some pte) :
    (chunkSlice pte (a, b)).bytes memory = chunkPiece bytes ptr (a, b) := by
  have frame : pte.ppn.toPhysAddr.val = pte.ppn.val * 4096 := by
    have bounded := pte.ppn_lt
    rw [PhysPageNum.toPhysAddr_val]
    exact Nat.mod_eq_of_lt (by omega)
  have width : (chunkSlice pte (a, b)).hi - (chunkSlice pte (a, b)).lo = b - a := by
    simp only [chunkSlice]
    split <;> omega
  unfold chunkPiece
  apply List.ext_getElem
  · rw [PageSlice.bytes, ByteMemory.readBytes_length, width, List.length_take, List.length_drop]
    omega
  · intro index inSlice inPiece
    rw [List.length_take, List.length_drop] at inPiece
    have load := loads (a - ptr + index) (by omega)
    rw [userByte_eq memory token (by omega),
      show (ptr + (a - ptr + index)) / 4096 = a / 4096 by omega, mapped, Option.map_some,
      Option.some.injEq] at load
    rw [List.getElem_take, List.getElem_drop, ← load]
    simp only [PageSlice.bytes, PageSlice.start, ByteMemory.readBytes, List.getElem_map,
      List.getElem_range, frame, chunkSlice]
    exact congrArg memory (by omega)

theorem translatedByteBuffer_pieces (memory : Nat → UInt8) (token : Nat) {ptr len fuel : Nat}
    {bytes : List UInt8} (small : ptr + len < 2 ^ 39)
    (enough : (pageChunks ptr (ptr + len)).length < fuel)
    (shown : userBytes memory token ptr len = some bytes) :
    ∃ slices, translatedByteBuffer memory token ptr len fuel = some (.ok slices) ∧
      slices.map (PageSlice.bytes memory) =
        (pageChunks ptr (ptr + len)).map (chunkPiece bytes ptr) ∧
      ∀ slice ∈ slices, slice.Framed := by
  obtain ⟨sized, loads⟩ := userBytes_getElem shown
  have each : ∀ chunk ∈ pageChunks ptr (ptr + len), ∃ slice,
      ((PageTable.fromToken token).translate memory ⟨chunk.1 / 4096⟩).map
        (fun pte => chunkSlice pte chunk) = some slice ∧
      slice.bytes memory = chunkPiece bytes ptr chunk ∧ slice.Framed := by
    intro chunk member
    obtain ⟨after, before⟩ := pageChunks_inside _ _ chunk member
    obtain ⟨below, within⟩ := pageChunks_within_page _ _ chunk member
    have load := loads (chunk.1 - ptr) (by omega)
    rw [userByte_eq memory token (by omega), show ptr + (chunk.1 - ptr) = chunk.1 by omega] at load
    cases mapped : (PageTable.fromToken token).translate memory ⟨chunk.1 / 4096⟩ with
    | none =>
        rw [mapped] at load
        cases load
    | some pte =>
        exact ⟨chunkSlice pte chunk, rfl,
          bytes_chunkSlice loads after below within (by omega) (by omega) mapped,
          framed_chunkSlice pte below within⟩
  obtain ⟨slices, traversed, pieces, framed⟩ := mapM_eq_some_of_forall each
  refine ⟨slices, ?_, pieces, framed⟩
  rw [translatedByteBuffer, Nat.mod_eq_of_lt (by omega),
    translatedByteBufferLoop_chunks _ memory small ptr fuel [] enough, traversed]
  rfl

/-- Two slices that share no byte. -/
def PageSlice.Apart (first second : PageSlice) : Prop :=
  first.start + (first.hi - first.lo) ≤ second.start ∨
    second.start + (second.hi - second.lo) ≤ first.start

theorem PageSlice.apart_of_ppn_ne {first second : PageSlice} (framedFirst : first.Framed)
    (framedSecond : second.Framed) (distinct : first.ppn ≠ second.ppn) : first.Apart second := by
  have apartFrames : first.ppn.val ≠ second.ppn.val := fun same => distinct (PhysPageNum.ext same)
  have firstStart : first.start = first.ppn.val * 4096 + first.lo := by
    rw [PageSlice.start, PhysPageNum.toPhysAddr_val,
      Nat.mod_eq_of_lt (by have := framedFirst.ppn_lt; omega)]
  have secondStart : second.start = second.ppn.val * 4096 + second.lo := by
    rw [PageSlice.start, PhysPageNum.toPhysAddr_val,
      Nat.mod_eq_of_lt (by have := framedSecond.ppn_lt; omega)]
  have firstFits := framedFirst.within
  have secondFits := framedSecond.within
  unfold PageSlice.Apart
  rw [firstStart, secondStart, Nat.add_assoc, Nat.add_sub_of_le framedFirst.ordered,
    Nat.add_assoc (second.ppn.val * 4096), Nat.add_sub_of_le framedSecond.ordered]
  rcases Nat.lt_or_gt_of_ne apartFrames with before | after
  · left
    omega
  · right
    omega

theorem PageSlice.pairwise_apart {slices : List PageSlice}
    (framed : ∀ slice ∈ slices, slice.Framed) (distinct : (slices.map PageSlice.ppn).Nodup) :
    slices.Pairwise PageSlice.Apart :=
  (List.pairwise_map.mp distinct).imp_of_mem fun first second differ =>
    PageSlice.apart_of_ppn_ne (framed _ first) (framed _ second) differ

theorem storeAll_outside {address : Nat} :
    ∀ {memory : Nat → UInt8} {slices : List PageSlice} {buffers : List (List UInt8)},
      buffers.map List.length = slices.map (fun slice => slice.hi - slice.lo) →
      (∀ slice ∈ slices, address < slice.start ∨ slice.start + (slice.hi - slice.lo) ≤ address) →
      PageSlice.storeAll memory slices buffers address = memory address := by
  intro memory slices
  induction slices generalizing memory with
  | nil =>
      intro buffers _ _
      cases buffers <;> rfl
  | cons slice rest ih =>
      intro buffers sized outside
      obtain ⟨away, later⟩ := List.forall_mem_cons.mp outside
      cases buffers with
      | nil => cases sized
      | cons bytes more =>
          rw [List.map_cons, List.map_cons, List.cons.injEq] at sized
          rw [PageSlice.storeAll, ih sized.2 later]
          exact ByteMemory.writeBytes_outside memory slice.start bytes address (by omega)

theorem bytes_storeAll :
    ∀ {memory : Nat → UInt8} {slices : List PageSlice} {buffers : List (List UInt8)},
      slices.Pairwise PageSlice.Apart →
      buffers.map List.length = slices.map (fun slice => slice.hi - slice.lo) →
      slices.map (PageSlice.bytes (PageSlice.storeAll memory slices buffers)) = buffers := by
  intro memory slices
  induction slices generalizing memory with
  | nil =>
      intro buffers _ sized
      cases buffers with
      | nil => rfl
      | cons _ _ => cases sized
  | cons slice rest ih =>
      intro buffers apart sized
      obtain ⟨fromRest, restApart⟩ := List.pairwise_cons.mp apart
      cases buffers with
      | nil => cases sized
      | cons bytes more =>
          rw [List.map_cons, List.map_cons, List.cons.injEq] at sized
          rw [PageSlice.storeAll, List.map_cons, ih restApart sized.2]
          have kept : slice.bytes (PageSlice.storeAll
              (ByteMemory.writeBytes memory slice.start bytes) rest more) =
              slice.bytes (ByteMemory.writeBytes memory slice.start bytes) := by
            apply ByteMemory.readBytes_congr
            intro index inside
            apply storeAll_outside sized.2
            intro other member
            rcases fromRest other member with before | after
            · omega
            · omega
          rw [kept, PageSlice.bytes, ← sized.1, ByteMemory.readBytes_writeBytes]

theorem translatedByteBufferLoop_stuck (pageTable : PageTable) (memory : Nat → UInt8)
    {pte : PageTableEntry} (mapped : pageTable.translate memory ⟨0⟩ = some pte) :
    ∀ fuel v, translatedByteBufferLoop pageTable memory (2 ^ 39 + 15) fuel 15 v = none := by
  intro fuel
  induction fuel with
  | zero => intro v; rfl
  | succ fuel ih =>
      intro v
      have startVa : VirtAddr.fromUsize 15 = ⟨15⟩ := by decide
      have endVa : (VirtAddr.floor ⟨15⟩).step.toVirtAddr.min (VirtAddr.fromUsize (2 ^ 39 + 15)) =
          ⟨15⟩ := by decide
      have floor : VirtAddr.floor ⟨15⟩ = ⟨0⟩ := rfl
      rw [translatedByteBufferLoop, if_pos (by decide), startVa]
      dsimp only
      rw [endVa, floor, mapped]
      dsimp only
      rw [if_neg (by decide), PageSlice.range, if_pos (by decide)]
      exact ih _

theorem translatedByteBuffer_past_va_width (memory : Nat → UInt8) (token : Nat)
    {pte : PageTableEntry} (mapped : (PageTable.fromToken token).translate memory ⟨0⟩ = some pte)
    (fuel : Nat) : translatedByteBuffer memory token (2 ^ 39 + 5) 10 fuel = none := by
  cases fuel with
  | zero => rfl
  | succ fuel =>
      have startVa : VirtAddr.fromUsize (2 ^ 39 + 5) = ⟨5⟩ := by decide
      have endVa : (VirtAddr.floor ⟨5⟩).step.toVirtAddr.min (VirtAddr.fromUsize (2 ^ 39 + 15)) =
          ⟨15⟩ := by decide
      have floor : VirtAddr.floor ⟨5⟩ = ⟨0⟩ := rfl
      rw [translatedByteBuffer, show (2 ^ 39 + 5 + 10) % 2 ^ 64 = 2 ^ 39 + 15 by decide,
        translatedByteBufferLoop, if_pos (by decide), startVa]
      dsimp only
      rw [endVa, floor, mapped]
      dsimp only
      rw [if_neg (by decide), PageSlice.range, if_pos (by decide)]
      exact translatedByteBufferLoop_stuck _ memory mapped fuel _

/-- A user page table whose one mapping is page 0, `R | W | U` to frame 7. -/
def pageZeroSpace : Except String (PageTable × Machine Frames) := do
  let (table, machine) ← PageTable.new Frames.allocHeld ⟨fun _ => 0, Frames.initial 1 4⟩
  table.map Frames.allocHeld machine ⟨0⟩ ⟨7⟩ (PTEFlags.R ||| PTEFlags.W ||| PTEFlags.U)

/-- `translated_byte_buffer(token, 2^39 + 5, 10)` on a table that validly maps page 0, the one
page the `VirtAddr` view of the range touches, never returns. -/
theorem translated_byte_buffer_loops_past_va_width :
    ∃ table machine, pageZeroSpace = .ok (table, machine) ∧
      (∃ pte, (PageTable.fromToken table.token).translate machine.memory ⟨0⟩ = some pte ∧
        pte.isValid = true) ∧
      ∀ fuel, translatedByteBuffer machine.memory table.token (2 ^ 39 + 5) 10 fuel = none := by
  have check : pageZeroSpace.toOption.any (fun (table, machine) =>
      ((PageTable.fromToken table.token).translate machine.memory ⟨0⟩).any
        PageTableEntry.isValid) = true := by
    decide +kernel
  obtain ⟨⟨table, machine⟩, built, check⟩ := ok_of_toOption_any check
  obtain ⟨pte, found, valid⟩ := (Option.any_eq_true _ _).mp check
  exact ⟨table, machine, built, ⟨pte, found, valid⟩,
    translatedByteBuffer_past_va_width machine.memory table.token found⟩

end ChOs
