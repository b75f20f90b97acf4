import ChOs.Task.Contract
import ChOs.Memory.UserAccess

set_option autoImplicit false

/- `sys_waitpid` with the store of the exit code (`os/src/syscall/process.rs`). -/

namespace ChOs

/-- `sys_waitpid(pid, exit_code_ptr)` with its store: the exit code of a reaped child is
written as an `i32`, least significant byte first, at the physical address that
`translated_refmut` gives for the pointer in the caller's address space. -/
def sysWaitpidStore (k : Kernel) (pid : Int) (memory : Nat → UInt8) (token exitCodePtr : Nat) :
    Except String (Kernel × Int × (Nat → UInt8)) := do
  let (next, result, exitCode) ← sysWaitpid k pid
  match exitCode with
  | none => .ok (next, result, memory)
  | some code => do
      let pa ← translatedRefmut memory token exitCodePtr
      .ok (next, result, ByteMemory.writeLE memory pa.val 4 (code % 2 ^ 32).toNat)

section Store

variable {k next : Kernel} {pid result : Int} (memory : Nat → UInt8) (token exitCodePtr : Nat)

theorem sysWaitpidStore_of_some {code : Int} (call : sysWaitpid k pid = .ok (next, result, some code)) :
    sysWaitpidStore k pid memory token exitCodePtr =
      (translatedRefmut memory token exitCodePtr).map fun pa =>
        (next, result, ByteMemory.writeLE memory pa.val 4 (code % 2 ^ 32).toNat) := by
  rw [sysWaitpidStore, call]
  cases translatedRefmut memory token exitCodePtr <;> rfl

end Store

theorem translatedRefmut_null (memory : Nat → UInt8) (token : Nat)
    (unmapped : ∀ pte, (PageTable.fromToken token).translate memory ⟨0⟩ = some pte →
      pte.ppn.val = 0) :
    translatedRefmut memory token 0 = .error unwrapNone := by
  have floor : (VirtAddr.fromUsize 0).floor = ⟨0⟩ := rfl
  rw [translatedRefmut_eq, floor]
  cases found : (PageTable.fromToken token).translate memory ⟨0⟩ with
  | none => rfl
  | some pte =>
      dsimp only
      rw [unmapped pte found, PhysAddr.getMut]
      rfl

theorem sysWaitpidStore_null_panics {k next : Kernel} {pid result code : Int}
    (call : sysWaitpid k pid = .ok (next, result, some code)) (memory : Nat → UInt8)
    (token : Nat)
    (unmapped : ∀ pte, (PageTable.fromToken token).translate memory ⟨0⟩ = some pte →
      pte.ppn.val = 0) :
    sysWaitpidStore k pid memory token 0 = .error unwrapNone := by
  rw [sysWaitpidStore_of_some memory token 0 call, translatedRefmut_null memory token unmapped]
  rfl

/-- The run of `forktest` in miniature: `INITPROC` forks a child, the child runs and exits
with code 7, and `INITPROC` runs again. Its `sys_waitpid(-1, null)` would reap the child and
return PID 1 with code 7, but in the address space of a fresh page table, which maps nothing,
the store through the null pointer panics. -/
theorem waitpid_null_exit_code_panics :
    ∃ k, Transition.Reachable Step Kernel.init k ∧
      (∃ next, sysWaitpid k (-1) = .ok (next, 1, some 7)) ∧
      ∃ table machine,
        PageTable.new Frames.allocHeld ⟨fun _ => 0, Frames.initial 1 4⟩ = .ok (table, machine) ∧
        sysWaitpidStore k (-1) machine.memory table.token 0 = .error unwrapNone := by
  have check : (PageTable.new Frames.allocHeld ⟨fun _ => 0, Frames.initial 1 4⟩).toOption.any
      (fun built =>
        (PageTable.fromToken built.1.token).translate built.2.memory ⟨0⟩ == none) = true := by
    decide +kernel
  obtain ⟨⟨table, machine⟩, built, check⟩ := ok_of_toOption_any check
  have empty : (PageTable.fromToken table.token).translate machine.memory ⟨0⟩ = none :=
    beq_iff_eq.mp check
  refine ⟨_, .step (.step (.step (.step (.step (.step .init (.runTasks rfl)) (.fork rfl))
    (.suspend rfl)) (.runTasks rfl)) (.exit 7 rfl)) (.runTasks rfl), ⟨_, rfl⟩, table, machine,
    built, ?_⟩
  exact sysWaitpidStore_null_panics rfl machine.memory table.token fun pte found => by
    rw [empty] at found
    cases found

end ChOs
