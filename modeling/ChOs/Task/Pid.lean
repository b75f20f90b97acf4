import ChOs.Library.Transition
import Mathlib.Data.List.Nodup
import Mathlib.Data.List.Perm.Basic

set_option autoImplicit false

/- `PidAllocator` (`os/src/task/pid.rs`). -/

namespace ChOs

structure PidAllocator where
  current : Nat
  recycled : List Nat
  deriving DecidableEq, Repr

namespace PidAllocator

/-- `PidAllocator::new`. -/
def new : PidAllocator := ⟨0, []⟩

/-- `alloc`: pop the recycled stack, else take `current` and bump it. -/
def alloc (self : PidAllocator) : Nat × PidAllocator :=
  match self.recycled.getLast? with
  | some pid => (pid, { self with recycled := self.recycled.dropLast })
  | none =>
      (self.current, { self with current := self.current + 1 })

/-- `dealloc`, with the panics of its two assertions. -/
def dealloc (self : PidAllocator) (pid : Nat) : Except String PidAllocator :=
  if ¬pid < self.current then .error "assertion failed: pid < self.current"
  else if (self.recycled.find? (· == pid)).isSome then
    .error ("pid " ++ toString pid ++ " has been deallocated!")
  else .ok { self with recycled := self.recycled ++ [pid] }

theorem alloc_cases {self next : PidAllocator} {pid : Nat} (call : self.alloc = (pid, next)) :
    (∃ rest, self.recycled = rest ++ [pid] ∧ next = { self with recycled := rest }) ∨
    (self.recycled = [] ∧ pid = self.current ∧ next = { self with current := self.current + 1 }) := by
  unfold alloc at call
  split at call
  · rename_i top popped
    obtain ⟨rest, split⟩ := List.getLast?_eq_some_iff.mp popped
    simp only [Prod.mk.injEq] at call
    obtain ⟨rfl, rfl⟩ := call
    exact .inl ⟨rest, split, by rw [split, List.dropLast_concat]⟩
  · rename_i empty
    simp only [Prod.mk.injEq] at call
    exact .inr ⟨List.getLast?_eq_none_iff.mp empty, call.1.symm, call.2.symm⟩

theorem dealloc_eq_ok {self next : PidAllocator} {pid : Nat} :
    self.dealloc pid = .ok next ↔
      pid < self.current ∧ pid ∉ self.recycled ∧
        next = { self with recycled := self.recycled ++ [pid] } := by
  unfold dealloc
  split
  · rename_i above
    simp only [reduceCtorEq, false_iff, not_and]
    intro below
    exact absurd below above
  · rename_i below
    split
    · rename_i found
      simp only [List.find?_isSome, beq_iff_eq, exists_eq_right] at found
      simp only [reduceCtorEq, false_iff, not_and]
      intro _ absent
      exact absurd found absent
    · rename_i absent
      simp only [List.find?_isSome, beq_iff_eq, exists_eq_right] at absent
      simp only [Except.ok.injEq, Decidable.not_not.mp below, absent, not_false_eq_true,
        true_and]
      exact eq_comm

/-- The allocator accounts for the PIDs `Held` by live handles: each is below
`current` and off the recycled stack, which holds distinct PIDs below `current`. -/
structure Accounts (Held : Nat → Prop) (allocator : PidAllocator) : Prop where
  held_below : ∀ pid, Held pid → pid < allocator.current
  held_not_recycled : ∀ pid, Held pid → pid ∉ allocator.recycled
  recycled_below : ∀ pid ∈ allocator.recycled, pid < allocator.current
  recycled_nodup : allocator.recycled.Nodup

section Accounts

variable {Held : Nat → Prop} {allocator : PidAllocator}

theorem Accounts.congr {Other : Nat → Prop} (accounts : Accounts Held allocator)
    (same : ∀ pid, Other pid ↔ Held pid) : Accounts Other allocator :=
  ⟨fun pid held => accounts.held_below pid ((same pid).mp held),
    fun pid held => accounts.held_not_recycled pid ((same pid).mp held),
    accounts.recycled_below, accounts.recycled_nodup⟩

theorem Accounts.alloc {next : PidAllocator} {pid : Nat} (accounts : Accounts Held allocator)
    (call : allocator.alloc = (pid, next)) :
    ¬Held pid ∧ Accounts (fun other => Held other ∨ other = pid) next := by
  rcases alloc_cases call with ⟨rest, top, rfl⟩ | ⟨empty, rfl, rfl⟩
  · have member : pid ∈ allocator.recycled := by simp [top]
    have apart := accounts.recycled_nodup
    rw [top, List.nodup_append] at apart
    refine ⟨fun held => accounts.held_not_recycled pid held member, ?_, ?_, ?_, apart.1⟩
    · rintro other (held | rfl)
      · exact accounts.held_below other held
      · exact accounts.recycled_below other member
    · rintro other (held | rfl) inRest
      · exact accounts.held_not_recycled other held (by simp [top, inRest])
      · exact apart.2.2 other inRest other (List.mem_singleton_self other) rfl
    · intro other inRest
      exact accounts.recycled_below other (by simp [top, inRest])
  · refine ⟨fun held => Nat.lt_irrefl _ (accounts.held_below _ held), ?_, ?_, ?_, ?_⟩
    · rintro other (held | rfl)
      · exact Nat.lt_succ_of_lt (accounts.held_below other held)
      · exact Nat.lt_succ_self _
    · rintro other (held | rfl)
      · exact accounts.held_not_recycled other held
      · simp [empty]
    · simp [empty]
    · simp [empty]

/-- `dealloc` of a held PID never panics, and once the handle is gone the PID is
accounted for on the recycled stack. -/
theorem Accounts.dealloc {pid : Nat} (accounts : Accounts Held allocator) (held : Held pid)
    {Rest : Nat → Prop} (released : ∀ other, Rest other → Held other ∧ other ≠ pid) :
    ∃ next, allocator.dealloc pid = .ok next ∧ Accounts Rest next := by
  have below := accounts.held_below pid held
  have absent := accounts.held_not_recycled pid held
  refine ⟨_, dealloc_eq_ok.mpr ⟨below, absent, rfl⟩, ?_, ?_, ?_, ?_⟩
  · intro other rest
    exact accounts.held_below other (released other rest).1
  · intro other rest member
    rcases List.mem_append.mp member with old | last
    · exact accounts.held_not_recycled other (released other rest).1 old
    · exact (released other rest).2 (List.mem_singleton.mp last)
  · intro other member
    rcases List.mem_append.mp member with old | last
    · exact accounts.recycled_below other old
    · rw [List.mem_singleton.mp last]
      exact below
  · exact accounts.recycled_nodup.append (List.nodup_singleton pid)
      (List.disjoint_singleton.mpr absent)

end Accounts

/-- The allocator with the PIDs whose `PidHandle`s are alive: those `alloc` handed out that
no `dealloc` has taken back. -/
structure Handles where
  allocator : PidAllocator
  held : List Nat

namespace Handles

/-- `PidAllocator::new()`, with no handle alive. -/
def initial : Handles := ⟨PidAllocator.new, []⟩

/-- One call: any `alloc`, or a `dealloc` of any PID that passes both assertions. -/
inductive Step : Handles → Handles → Prop
  | alloc {state : Handles} {pid : Nat} {next : PidAllocator}
      (call : state.allocator.alloc = (pid, next)) : Step state ⟨next, pid :: state.held⟩
  | dealloc {state : Handles} {pid : Nat} {next : PidAllocator}
      (call : state.allocator.dealloc pid = .ok next) : Step state ⟨next, state.held.erase pid⟩

/-- The recycled stack and the held PIDs together are `[0, current)`, each PID once. -/
structure Partition (state : Handles) : Prop where
  perm : (state.allocator.recycled ++ state.held).Perm (List.range state.allocator.current)

section Partition

variable {state : Handles}

theorem Partition.nodup (part : state.Partition) : (state.allocator.recycled ++ state.held).Nodup :=
  part.perm.nodup_iff.mpr List.nodup_range

theorem Partition.mem_iff (part : state.Partition) (pid : Nat) :
    pid ∈ state.allocator.recycled ++ state.held ↔ pid < state.allocator.current := by
  rw [part.perm.mem_iff, List.mem_range]

theorem Partition.held_iff (part : state.Partition) (pid : Nat) :
    pid ∈ state.held ↔ pid < state.allocator.current ∧ pid ∉ state.allocator.recycled := by
  have apart := List.disjoint_of_nodup_append part.nodup
  rw [← part.mem_iff, List.mem_append]
  constructor
  · intro held
    exact ⟨.inr held, fun recycled => apart recycled held⟩
  · rintro ⟨recycled | held, absent⟩
    · exact absurd recycled absent
    · exact held

theorem initial_partition : initial.Partition := ⟨List.Perm.refl []⟩

theorem Partition.alloc (part : state.Partition) {pid : Nat} {next : PidAllocator}
    (call : state.allocator.alloc = (pid, next)) :
    (⟨next, pid :: state.held⟩ : Handles).Partition := by
  rcases alloc_cases call with ⟨rest, top, rfl⟩ | ⟨empty, rfl, rfl⟩
  · have moved := part.perm
    rw [top, List.append_assoc, List.singleton_append] at moved
    exact ⟨moved⟩
  · have counted := part.perm
    rw [empty, List.nil_append] at counted
    refine ⟨?_⟩
    rw [empty, List.nil_append, List.range_succ]
    exact (counted.cons state.allocator.current).trans (List.perm_append_singleton _ _).symm

/-- A `dealloc` that passes its assertions takes a held PID back onto the stack. -/
theorem Partition.dealloc (part : state.Partition) {pid : Nat} {next : PidAllocator}
    (call : state.allocator.dealloc pid = .ok next) :
    pid ∈ state.held ∧ (⟨next, state.held.erase pid⟩ : Handles).Partition := by
  obtain ⟨below, absent, rfl⟩ := dealloc_eq_ok.mp call
  have held : pid ∈ state.held := (part.held_iff pid).mpr ⟨below, absent⟩
  refine ⟨held, ⟨List.Perm.trans ?_ part.perm⟩⟩
  rw [List.append_assoc, List.singleton_append]
  exact List.Perm.append_left _ (List.perm_cons_erase held).symm

theorem Partition.step (part : state.Partition) {next : Handles} (step : Step state next) :
    next.Partition := by
  cases step with
  | alloc call => exact part.alloc call
  | dealloc call => exact (part.dealloc call).2

end Partition

/-- What the allocator promises in every state a run reaches: `dealloc(p)` passes its
assertions exactly for a held PID, `alloc` never hands out a held one, the held PIDs are
exactly `[0, current)` without the recycled stack, and neither list repeats a PID. -/
structure Contract (state : Handles) : Prop where
  dealloc_iff : ∀ pid, (∃ next, state.allocator.dealloc pid = .ok next) ↔ pid ∈ state.held
  alloc_fresh : ∀ pid next, state.allocator.alloc = (pid, next) → pid ∉ state.held
  held_iff : ∀ pid, pid ∈ state.held ↔ pid < state.allocator.current ∧ pid ∉ state.allocator.recycled
  recycled_nodup : state.allocator.recycled.Nodup
  held_nodup : state.held.Nodup

theorem Partition.contract {state : Handles} (part : state.Partition) : state.Contract where
  dealloc_iff pid := by
    constructor
    · rintro ⟨next, call⟩
      exact (part.dealloc call).1
    · intro held
      have split := (part.held_iff pid).mp held
      exact ⟨_, dealloc_eq_ok.mpr ⟨split.1, split.2, rfl⟩⟩
  alloc_fresh pid next call held := by
    have twice := (part.alloc call).nodup
    rw [List.nodup_append, List.nodup_cons] at twice
    exact twice.2.1.1 held
  held_iff := part.held_iff
  recycled_nodup := (List.nodup_append.mp part.nodup).1
  held_nodup := (List.nodup_append.mp part.nodup).2.1

end Handles

end PidAllocator

end ChOs
