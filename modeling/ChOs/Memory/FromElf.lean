import ChOs.Memory.PageTableOps
import ChOs.Memory.UserAccess

set_option autoImplicit false

/- Application address spaces from ELF images (`MemorySet::from_elf`, `MemorySet::push`
and `MapArea::copy_data` of `os/src/memory/memory_set.rs`). -/

namespace ChOs

/-- `xmas_elf::program::Type`, as far as `from_elf` tells types apart. -/
inductive ProgramType
  | load
  | other
  deriving DecidableEq, Repr

/-- What `from_elf` reads of a program header; `get_type` decodes the type and may fail. -/
structure ProgramHeader where
  type_ : Except String ProgramType
  virtualAddr : Nat
  memSize : Nat
  offset : Nat
  fileSize : Nat
  isRead : Bool
  isWrite : Bool
  isExecute : Bool

/-- What `from_elf` reads of an `ElfFile`: the bytes of the image, the magic of the header,
the number of program headers, each header (whose decoding may fail) and the entry
point. -/
structure ElfFile where
  input : List UInt8
  magic : List UInt8
  phCount : Nat
  programHeader : Nat → Except String ProgramHeader
  entryPoint : Nat

def elfMagic : List UInt8 := [0x7f, 0x45, 0x4c, 0x46]

/-- The panic of `assert_eq!(magic, [0x7f, 0x45, 0x4c, 0x46], "invalid elf!")`. -/
def invalidElf (magic : List UInt8) : String :=
  "assertion failed: `(left == right)`\n  left: `" ++ toString magic ++ "`,\n right: `" ++
    toString elfMagic ++ "`: invalid elf!"

/-- `Result::unwrap` of a `Result` whose error is a `&str`. -/
def unwrapResult {α : Type} : Except String α → Except String α
  | .ok value => .ok value
  | .error error => .error (unwrapErr error)

/-- `&input[start..finish]`, with the two checks of slice indexing. -/
def sliceRange (input : List UInt8) (start finish : Nat) : Except String (List UInt8) :=
  if start > finish then .error (sliceIndexOrderFail start finish)
  else if finish > input.length then .error (sliceEndIndexLenFail finish input.length)
  else .ok ((input.take finish).drop start)

/-- Where an image of one ELF class keeps what `from_elf` reads, as `(offset, width)`: the
size of the header, its entry point and program-header offset, the offsets of its `u16`
program-header entry size and count; the size of a program header and the offsets of its
`u32` type and flags and of its other fields. -/
structure ElfLayout where
  headerSize : Nat
  entry : Nat × Nat
  phOffset : Nat × Nat
  phEntrySize : Nat
  phCount : Nat
  phSize : Nat
  type_ : Nat
  flags : Nat
  offset : Nat × Nat
  virtualAddr : Nat × Nat
  fileSize : Nat × Nat
  memSize : Nat × Nat

def elf32 : ElfLayout := ⟨52, (24, 4), (28, 4), 42, 44, 32, 0, 24, (4, 4), (8, 4), (16, 4), (20, 4)⟩

def elf64 : ElfLayout := ⟨64, (24, 8), (32, 8), 54, 56, 56, 0, 4, (8, 8), (16, 8), (32, 8), (40, 8)⟩

/-- The little-endian field of `width` bytes at `offset` of an image, as `xmas_elf` reads it
on a little-endian machine. -/
def imageField (input : List UInt8) (offset width : Nat) : Nat :=
  ByteMemory.readLE (fun index => input.getD index 0) offset width

/-- `program::Type_::as_type`: `PT_LOAD` is 1, and the other types of the ELF specification,
of the OS and of the processor ranges are the ones `from_elf` skips. -/
def ProgramType.decode (value : Nat) : Except String ProgramType :=
  if value = 1 then .ok .load
  else if value ≤ 7 ∨ (0x60000000 ≤ value ∧ value ≤ 0x7fffffff) then .ok .other
  else .error "Invalid type"

/-- `ElfFile::program_header(index)`: the table must be there, and the entry is the slice
`input[start..start + ph_entry_size]`, which must hold a whole program header. A slice past
the end panics in the code; here it is an error. -/
def ElfLayout.programHeader (layout : ElfLayout) (input : List UInt8) (index : Nat) :
    Except String ProgramHeader :=
  let phOffset := imageField input layout.phOffset.1 layout.phOffset.2
  let entrySize := imageField input layout.phEntrySize 2
  if ¬ (index < imageField input layout.phCount 2 ∧ 0 < phOffset ∧ 0 < entrySize) then
    .error "There are no program headers in this file"
  else
    let start := phOffset + index * entrySize
    if start + entrySize > input.length then
      .error (sliceEndIndexLenFail (start + entrySize) input.length)
    else if entrySize < layout.phSize then .error "assertion failed: mem::size_of::<T>() <= input.len()"
    else
      let read := fun (place : Nat × Nat) => imageField input (start + place.1) place.2
      let flags := imageField input (start + layout.flags) 4
      .ok ⟨ProgramType.decode (imageField input (start + layout.type_) 4), read layout.virtualAddr,
        read layout.memSize, read layout.offset, read layout.fileSize, flags &&& 4 != 0,
        flags &&& 2 != 0, flags &&& 1 != 0⟩

/-- `xmas_elf::ElfFile::new`: `parse_header` asks for the 16 bytes of the header's first part,
the ELF magic, a class of 32 or 64 bits, and the rest of that class's header. -/
def ElfFile.parse (input : List UInt8) : Except String ElfFile :=
  if input.length < 16 then .error "File is shorter than the first ELF header part"
  else if input.take 4 ≠ elfMagic then .error "Did not find ELF magic number"
  else if input.getD 4 0 = 1 then ofLayout elf32
  else if input.getD 4 0 = 2 then ofLayout elf64
  else .error "Invalid ELF class"
where
  ofLayout (layout : ElfLayout) : Except String ElfFile :=
    if input.length < layout.headerSize then .error "File is shorter than ELF header part 2"
    else .ok ⟨input, input.take 4, imageField input layout.phCount 2, layout.programHeader input,
      imageField input layout.entry.1 layout.entry.2⟩

/-- The permission of a segment's area: `U`, then `R`, `W` and `X` as its flags say. -/
def ProgramHeader.mapPerm (ph : ProgramHeader) : MapPermission :=
  let mapPerm := MapPermission.U
  let mapPerm := if ph.isRead then mapPerm ||| MapPermission.R else mapPerm
  let mapPerm := if ph.isWrite then mapPerm ||| MapPermission.W else mapPerm
  if ph.isExecute then mapPerm ||| MapPermission.X else mapPerm

/-- The two page-table operations `copy_data` makes: the frame of a page's leaf entry
(`translate(vpn).unwrap().ppn()`, `none` where the walk finds no leaf), and
`ppn.get_bytes_array()[..src.len()].copy_from_slice(src)`. -/
structure FrameAccess (T : Type) where
  translate : T → VirtPageNum → Option PhysPageNum
  copyToFrame : T → PhysPageNum → List UInt8 → T

namespace MapArea

variable {T : Type} (access : FrameAccess T)

/-- The loop of `copy_data` from byte `start` of `data` and page `current_vpn`: the next
page-sized piece of `data` goes to the start of the page's frame. -/
def copyDataLoop (data : List UInt8) (pageTable : T) (start : Nat) (currentVpn : VirtPageNum) :
    Except String T :=
  let src := (data.take (min data.length (start + pageSize))).drop start
  match access.translate pageTable currentVpn with
  | none => .error unwrapNone
  | some ppn =>
      let pageTable := access.copyToFrame pageTable ppn src
      if start + pageSize ≥ data.length then .ok pageTable
      else copyDataLoop data pageTable (start + pageSize) currentVpn.step
termination_by data.length - start
decreasing_by
  simp only [pageSize] at *
  omega

/-- `copy_data`: `assert_eq!(self.map_type, MapType::Framed)`, then the loop from the first
page of the area. -/
def copyData (self : MapArea) (pageTable : T) (data : List UInt8) : Except String T :=
  if self.mapType = .framed then copyDataLoop access data pageTable 0 self.vpnRange.l
  else .error "assertion failed: `(left == right)`\n  left: `Identical`,\n right: `Framed`"

end MapArea

namespace MemorySet

variable {T : Type} (ops : PageTableOps T) (access : FrameAccess T)

/-- `push(map_area, Some(data))`: map the area, copy `data` into its frames, then keep it. -/
def pushData (self : MemorySet T) (mapArea : MapArea) (data : List UInt8) :
    Except String (MemorySet T) := do
  let (mapArea, pageTable) ← mapArea.map ops self.pageTable
  let pageTable ← mapArea.copyData access pageTable data
  .ok ⟨pageTable, self.areas ++ [mapArea]⟩

/-- The loop of `from_elf` over the program headers `i` still to read, with `max_end_vpn`,
the end page of the last `LOAD` segment pushed so far. -/
def loadSegments (elf : ElfFile) :
    MemorySet T → VirtPageNum → List Nat → Except String (MemorySet T × VirtPageNum)
  | memorySet, maxEndVpn, [] => .ok (memorySet, maxEndVpn)
  | memorySet, maxEndVpn, i :: rest => do
      let ph ← unwrapResult (elf.programHeader i)
      let type_ ← unwrapResult ph.type_
      if type_ = .load then
        let startVa := VirtAddr.fromUsize ph.virtualAddr
        let endVa := VirtAddr.fromUsize ((ph.virtualAddr + ph.memSize) % 2 ^ 64)
        let mapArea ← MapArea.new startVa endVa .framed ph.mapPerm
        let data ← sliceRange elf.input ph.offset ((ph.offset + ph.fileSize) % 2 ^ 64)
        let memorySet ← memorySet.pushData ops access mapArea data
        loadSegments elf memorySet mapArea.vpnRange.r rest
      else loadSegments elf memorySet maxEndVpn rest

/-- `from_elf`, on the table `PageTable::new()` returned, with `parse` for
`xmas_elf::ElfFile::new`: the address space, the top of the user stack and the entry
point. -/
def fromElf (pageTable : T) (strampoline : Nat) (parse : List UInt8 → Except String ElfFile)
    (elfData : List UInt8) : Except String (MemorySet T × Nat × Nat) := do
  let memorySet ← (newBare pageTable).mapTrampoline ops strampoline
  let elf ← unwrapResult (parse elfData)
  if elf.magic ≠ elfMagic then .error (invalidElf elf.magic)
  else
    let (memorySet, maxEndVpn) ←
      loadSegments ops access elf memorySet ⟨0⟩ (List.range elf.phCount)
    let userStackBottom := (maxEndVpn.toVirtAddr.val + pageSize) % 2 ^ 64
    let userStackTop := (userStackBottom + userStackSize) % 2 ^ 64
    let stack ← MapArea.new (VirtAddr.fromUsize userStackBottom)
      (VirtAddr.fromUsize userStackTop) .framed
      (MapPermission.R ||| MapPermission.W ||| MapPermission.U)
    let memorySet ← memorySet.push ops stack
    let trapCx ← MapArea.new (VirtAddr.fromUsize trapContext) (VirtAddr.fromUsize trampoline)
      .framed (MapPermission.R ||| MapPermission.W)
    let memorySet ← memorySet.push ops trapCx
    .ok (memorySet, userStackTop, elf.entryPoint)

end MemorySet

/-- The frame lookups and copies of the kernel's page table: the page number of the leaf
entry, and a write of the bytes at the physical address of the frame. -/
def PageTable.access : FrameAccess (PageTable × Machine Frames) where
  translate t vpn := (t.1.translate t.2.memory vpn).map PageTableEntry.ppn
  copyToFrame t ppn src := (t.1, { t.2 with
    memory := ByteMemory.writeBytes t.2.memory ppn.toPhysAddr.val src })

/-- The low `width` bytes of `value`, least significant first. -/
def leBytes (value width : Nat) : List UInt8 :=
  (List.range width).map fun index => UInt8.ofNat (value / 256 ^ index)

/-- An ELF64 executable for RISC-V of `0x1008` bytes with one `LOAD` program header: the
four bytes `[1, 2, 3, 4]` at file offset `0x1004`, read-only, at virtual address `0x10004`.
The offset and the address agree modulo the page size, as the ELF specification asks. -/
def offsetElfImage : List UInt8 :=
  elfMagic ++ [2, 1, 1, 0] ++ List.replicate 8 0 ++ leBytes 2 2 ++ leBytes 0xf3 2 ++ leBytes 1 4 ++
    leBytes 0x10004 8 ++ leBytes 64 8 ++ leBytes 0 8 ++ leBytes 0 4 ++ leBytes 64 2 ++
    leBytes 56 2 ++ leBytes 1 2 ++ leBytes 64 2 ++ leBytes 0 2 ++ leBytes 0 2 ++
    leBytes 1 4 ++ leBytes 4 4 ++ leBytes 0x1004 8 ++ leBytes 0x10004 8 ++ leBytes 0x10004 8 ++
    leBytes 4 8 ++ leBytes 4 8 ++ leBytes 0x1000 8 ++ List.replicate (0x1004 - 120) 0 ++ [1, 2, 3, 4]

/-- `from_elf` of `offsetElfImage` on a fresh page table, with the trampoline's frame where the
kernel's linker script puts it. -/
def offsetElfSpace : Except String (MemorySet (PageTable × Machine Frames) × Nat × Nat) := do
  let pageTable ← PageTable.new Frames.allocHeld ⟨fun _ => 0, Frames.initial 1 16⟩
  MemorySet.fromElf PageTable.ops PageTable.access pageTable 0x80201000 ElfFile.parse offsetElfImage

/-- `copy_data` copies a segment to the start of its first page, whatever the page offset of
its `vaddr`: the byte at virtual address `0x10004` stays 0, and the segment's first byte 1
sits at `0x10000`. -/
theorem from_elf_ignores_page_offset :
    ∃ space userSp entry, offsetElfSpace = .ok (space, userSp, entry) ∧
      (∃ pa, space.pageTable.1.translateVa space.pageTable.2.memory ⟨0x10004⟩ = some pa ∧
        space.pageTable.2.memory pa.val = 0) ∧
      ∃ pa, space.pageTable.1.translateVa space.pageTable.2.memory ⟨0x10000⟩ = some pa ∧
        space.pageTable.2.memory pa.val = 1 := by
  have check : offsetElfSpace.toOption.any (fun (space, _, _) =>
      (space.pageTable.1.translateVa space.pageTable.2.memory ⟨0x10004⟩).any
        (fun pa => space.pageTable.2.memory pa.val == 0) &&
      (space.pageTable.1.translateVa space.pageTable.2.memory ⟨0x10000⟩).any
        (fun pa => space.pageTable.2.memory pa.val == 1)) = true := by
    decide +kernel
  obtain ⟨⟨space, userSp, entry⟩, built, check⟩ := ok_of_toOption_any check
  simp only [Bool.and_eq_true, Option.any_eq_true, beq_iff_eq] at check
  obtain ⟨inside, start⟩ := check
  exact ⟨space, userSp, entry, built, inside, start⟩

/-- In the address space `from_elf` builds for `offsetElfImage` no flag is checked.
`translated_refmut` of `TRAP_CONTEXT` reaches the trap context's frame, whose leaf entry lacks
`U`. A pointer 8 bytes into page `0x11`, the unmapped guard page below the user stack, reaches
physical address 8 in frame 0: `find_pte` hands out the page's leaf entry, which is invalid. -/
theorem user_references_skip_flag_checks :
    ∃ space userSp entry, offsetElfSpace = .ok (space, userSp, entry) ∧ userSp = 0x14000 ∧
      (∃ pte, space.pageTable.1.translate space.pageTable.2.memory
          (VirtAddr.fromUsize trapContext).floor = some pte ∧
        pte.isValid = true ∧ (pte.flags &&& PTEFlags.U) = PTEFlags.empty ∧
        translatedRefmut space.pageTable.2.memory space.pageTable.1.token trapContext =
          .ok ⟨pte.ppn.val * 4096⟩) ∧
      ∃ pte, space.pageTable.1.translate space.pageTable.2.memory ⟨0x11⟩ = some pte ∧
        pte.isValid = false ∧
        translatedRefmut space.pageTable.2.memory space.pageTable.1.token 0x11008 = .ok ⟨8⟩ := by
  have check : offsetElfSpace.toOption.any (fun (space, userSp, _) =>
      decide (userSp = 0x14000) &&
      (space.pageTable.1.translate space.pageTable.2.memory
          (VirtAddr.fromUsize trapContext).floor).any
        (fun pte => pte.isValid && decide ((pte.flags &&& PTEFlags.U) = PTEFlags.empty) &&
          decide (translatedRefmut space.pageTable.2.memory space.pageTable.1.token trapContext =
            .ok ⟨pte.ppn.val * 4096⟩)) &&
      (space.pageTable.1.translate space.pageTable.2.memory ⟨0x11⟩).any
        (fun pte => !pte.isValid &&
          decide (translatedRefmut space.pageTable.2.memory space.pageTable.1.token 0x11008 =
            .ok ⟨8⟩))) = true := by
    decide +kernel
  obtain ⟨⟨space, userSp, entry⟩, built, check⟩ := ok_of_toOption_any check
  simp only [Bool.and_eq_true, Bool.not_eq_true', Option.any_eq_true, decide_eq_true_eq] at check
  obtain ⟨⟨top, pte, found, ⟨valid, user⟩, reached⟩, guard⟩ := check
  exact ⟨space, userSp, entry, built, top, ⟨pte, found, valid, user, reached⟩, guard⟩

end ChOs
