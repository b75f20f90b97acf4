import ChOs.Memory.FromElf

set_option autoImplicit false

/- `TaskControlBlock::exec` and `sys_exec` (`os/src/task/task.rs`,
`os/src/syscall/process.rs`, `os/src/trap/context.rs`). -/

namespace ChOs

/-- `TrapContext`, `#[repr(C)]`: the 32 general registers, then `sstatus`, `sepc`,
`kernel_satp`, `kernel_sp` and `trap_handler`. -/
structure TrapContext where
  x : Vector Nat 32
  sstatus : Nat
  sepc : Nat
  kernelSatp : Nat
  kernelSp : Nat
  trapHandler : Nat

namespace TrapContext

/-- The `SPP` bit of `sstatus`: the privilege `sret` returns to, 0 for User. -/
def sppBit : Nat := 8

/-- `app_init_context`: all registers 0 but `sp`, and `sstatus` as read with `SPP`
cleared, so that `sret` enters User mode at `entry`. -/
def appInitContext (entry sp kernelSatp kernelSp trapHandler sstatus : Nat) : TrapContext :=
  { x := (Vector.replicate 32 0).set 2 sp
    sstatus := sstatus &&& (2 ^ 64 - 1 - 2 ^ sppBit)
    sepc := entry
    kernelSatp := kernelSatp
    kernelSp := kernelSp
    trapHandler := trapHandler }

/-- The bytes of the context in memory: 37 `usize`s, least significant byte first. -/
def bytes (cx : TrapContext) : List UInt8 :=
  (cx.x.toList ++ [cx.sstatus, cx.sepc, cx.kernelSatp, cx.kernelSp, cx.trapHandler]).flatMap
    fun word => (List.range 8).map fun i => UInt8.ofNat (word / 256 ^ i)

end TrapContext

/-- What `exec` reads of the rest of the kernel: the frame of the trampoline,
`KERNEL_SPACE.token()`, the top of the task's kernel stack, the address of
`trap_handler` and the `sstatus` register. -/
structure ExecEnv where
  strampoline : Nat
  kernelToken : Nat
  kernelStackTop : Nat
  trapHandler : Nat
  sstatus : Nat

/-- Of a `TaskControlBlockInner`, what `exec` replaces: the frame of the trap context and
the address space. The other fields are left as they are. -/
structure TaskControlBlockInner (T : Type) where
  trapCxPpn : PhysPageNum
  memorySet : MemorySet T

namespace TaskControlBlockInner

variable {T : Type} (ops : PageTableOps T) (access : FrameAccess T)

/-- `exec(elf_data)` on the table `PageTable::new()` returned: build the address space,
take the frame of `TRAP_CONTEXT`'s page in it, switch to both, and write the initial
trap context into that frame. -/
def exec (self : TaskControlBlockInner T) (env : ExecEnv)
    (parse : List UInt8 → Except String ElfFile) (pageTable : T) (elfData : List UInt8) :
    Except String (TaskControlBlockInner T) := do
  let (memorySet, userSp, entryPoint) ←
    MemorySet.fromElf ops access pageTable env.strampoline parse elfData
  let vpn ← (VirtAddr.fromUsize trapContext).intoVpn
  match access.translate memorySet.pageTable vpn with
  | none => .error unwrapNone
  | some trapCxPpn =>
      let cx := TrapContext.appInitContext entryPoint userSp env.kernelToken env.kernelStackTop
        env.trapHandler env.sstatus
      .ok { self with
        trapCxPpn := trapCxPpn
        memorySet := { memorySet with
          pageTable := access.copyToFrame memorySet.pageTable trapCxPpn cx.bytes } }

/-- `sys_exec`, with `app` the contents `open_file(path, RDONLY)` and `read_all` give:
`none` when the root directory has no file of that name. -/
def sysExec (self : TaskControlBlockInner T) (env : ExecEnv)
    (parse : List UInt8 → Except String ElfFile) (pageTable : T) (app : Option (List UInt8)) :
    Except String (TaskControlBlockInner T × Int) :=
  match app with
  | some allData => do
      let self ← self.exec ops access env parse pageTable allData
      .ok (self, 0)
  | none => .ok (self, -1)

section Panics

variable {self : TaskControlBlockInner T} {env : ExecEnv}
  {parse : List UInt8 → Except String ElfFile} {pageTable : T}

theorem sysExec_of_fromElf_error {allData : List UInt8} {message : String}
    (failed : MemorySet.fromElf ops access pageTable env.strampoline parse allData =
      .error message) :
    sysExec ops access self env parse pageTable (some allData) = .error message := by
  simp only [sysExec, exec, failed]
  rfl

theorem fromElf_of_rejected {allData : List UInt8} {message : String}
    {memorySet : MemorySet T}
    (mapped : (MemorySet.newBare pageTable).mapTrampoline ops env.strampoline = .ok memorySet)
    (rejected : parse allData = .error message) :
    MemorySet.fromElf ops access pageTable env.strampoline parse allData =
      .error (unwrapErr message) := by
  simp only [MemorySet.fromElf, mapped, rejected]
  rfl

/-- `sys_exec` of a file `xmas_elf` does not accept as an ELF image neither fails with -1
nor replaces the address space: it panics with the parser's error. -/
theorem sys_exec_panics_on_rejected_image (allData : List UInt8) (message : String)
    (rejected : parse allData = .error message)
    (mapped : ∃ memorySet,
      (MemorySet.newBare pageTable).mapTrampoline ops env.strampoline = .ok memorySet) :
    sysExec ops access self env parse pageTable (some allData) = .error (unwrapErr message) := by
  obtain ⟨memorySet, trampoline⟩ := mapped
  exact sysExec_of_fromElf_error ops access (fromElf_of_rejected ops access trampoline rejected)

end Panics

/-- A table whose root is the zeroed frame 1, with frames 2 to 15 free. -/
def freshTable : PageTable × Machine Frames := (⟨⟨1⟩, [⟨1⟩]⟩, ⟨fun _ => 0, Frames.initial 2 16⟩)

theorem freshTable_mapTrampoline :
    ∃ memorySet, (MemorySet.newBare freshTable).mapTrampoline PageTable.ops 0x80201000 =
      .ok memorySet := by
  have check : ((MemorySet.newBare freshTable).mapTrampoline PageTable.ops 0x80201000).toOption.any
      (fun _ => true) = true := by
    decide +kernel
  obtain ⟨memorySet, mapped, -⟩ := ok_of_toOption_any check
  exact ⟨memorySet, mapped⟩

/-- A task that `exec`s an empty file on `freshTable`: the parser rejects the image, and
the kernel panics. -/
theorem sys_exec_panics_on_empty_file :
    (fun _ => .error "File is too short" : List UInt8 → Except String ElfFile) [] =
        .error "File is too short" ∧
      (∃ memorySet, (MemorySet.newBare freshTable).mapTrampoline PageTable.ops
        (⟨0x80201000, 0, 0, 0, 0⟩ : ExecEnv).strampoline = .ok memorySet) ∧
      sysExec PageTable.ops PageTable.access ⟨⟨1⟩, MemorySet.newBare freshTable⟩
        ⟨0x80201000, 0, 0, 0, 0⟩ (fun _ => .error "File is too short") freshTable (some []) =
        .error (unwrapErr "File is too short") :=
  ⟨rfl, freshTable_mapTrampoline,
    sys_exec_panics_on_rejected_image PageTable.ops PageTable.access [] _ rfl
      freshTable_mapTrampoline⟩

end TaskControlBlockInner

end ChOs
