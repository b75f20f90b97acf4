import ChOs.Memory.Address
import ChOs.Library.Transition
import ChOs.Library.ByteMemory
import Mathlib.Data.List.Perm.Basic

set_option autoImplicit false

/- `StackFrameAllocator` (`os/src/memory/frame_allocator.rs`). -/

namespace ChOs

structure StackFrameAllocator where
  current : Nat
  end_ : Nat
  recycled : List Nat
  deriving DecidableEq, Repr

namespace StackFrameAllocator

/-- `FrameAllocator::new`. -/
def new : StackFrameAllocator := ⟨0, 0, []⟩

/-- `init`: the bump range becomes `[l, r)`. -/
def init (self : StackFrameAllocator) (l r : PhysPageNum) : StackFrameAllocator :=
  { self with current := l.val, end_ := r.val }

/-- `alloc`: pop the recycled stack, else take `current` and bump it. Both results
go through `into()`, which masks them to the 44 bits of an Sv39 page number. -/
def alloc (self : StackFrameAllocator) : Option PhysPageNum × StackFrameAllocator :=
  match self.recycled.getLast? with
  | some ppn =>
      (some (PhysPageNum.fromUsize ppn), { self with recycled := self.recycled.dropLast })
  | none =>
      if self.current = self.end_ then (none, self)
      else
        (some (PhysPageNum.fromUsize self.current), { self with current := self.current + 1 })

/-- `dealloc`: `none` is the panic "Frame ppn has not been allocated!", raised for a
frame at or above `current` or already on the recycled stack. -/
def dealloc (self : StackFrameAllocator) (ppn : PhysPageNum) : Option StackFrameAllocator :=
  if ppn.val ≥ self.current ∨ (self.recycled.find? (· == ppn.val)).isSome then none
  else some { self with recycled := self.recycled ++ [ppn.val] }

theorem alloc_cases {self next : StackFrameAllocator} {result : Option PhysPageNum}
    (call : self.alloc = (result, next)) :
    (∃ rest ppn, self.recycled = rest ++ [ppn] ∧
        result = some (PhysPageNum.fromUsize ppn) ∧ next = { self with recycled := rest }) ∨
    (self.recycled = [] ∧ self.current ≠ self.end_ ∧
        result = some (PhysPageNum.fromUsize self.current) ∧
        next = { self with current := self.current + 1 }) ∨
    (self.recycled = [] ∧ self.current = self.end_ ∧ result = none ∧ next = self) := by
  unfold alloc at call
  split at call
  · rename_i ppn top
    obtain ⟨rest, split⟩ := List.getLast?_eq_some_iff.mp top
    simp only [Prod.mk.injEq] at call
    refine .inl ⟨rest, ppn, split, call.1.symm, ?_⟩
    rw [← call.2, split, List.dropLast_concat]
  · rename_i empty
    have none : self.recycled = [] := List.getLast?_eq_none_iff.mp empty
    split at call
    · simp only [Prod.mk.injEq] at call
      exact .inr (.inr ⟨none, ‹_›, call.1.symm, call.2.symm⟩)
    · simp only [Prod.mk.injEq] at call
      exact .inr (.inl ⟨none, ‹_›, call.1.symm, call.2.symm⟩)

theorem dealloc_eq_some {self next : StackFrameAllocator} {ppn : PhysPageNum} :
    self.dealloc ppn = some next ↔
      ppn.val < self.current ∧ ppn.val ∉ self.recycled ∧
        next = { self with recycled := self.recycled ++ [ppn.val] } := by
  unfold dealloc
  split
  · rename_i refused
    simp only [reduceCtorEq, false_iff, not_and]
    intro below absent
    rcases refused with above | found
    · omega
    · simp only [List.find?_isSome, beq_iff_eq, exists_eq_right] at found
      exact absurd found absent
  · rename_i accepted
    simp only [List.find?_isSome, beq_iff_eq, exists_eq_right, not_or, not_le] at accepted
    simp only [Option.some.injEq]
    exact ⟨fun same => ⟨accepted.1, accepted.2, same.symm⟩, fun ⟨_, _, same⟩ => same.symm⟩

end StackFrameAllocator

/-- The allocator with the frames that `alloc` handed out and no `dealloc` has
taken back yet: what the `FrameTracker`s of the kernel hold. -/
structure Frames where
  allocator : StackFrameAllocator
  allocated : List Nat

namespace Frames

/-- `new()` followed by `init(l, r)`, with no frame handed out. -/
def initial (l r : Nat) : Frames := ⟨StackFrameAllocator.new.init ⟨l⟩ ⟨r⟩, []⟩

/-- One call of a run: any `alloc`, or the `dealloc` of a held frame that
`FrameTracker::drop` performs. -/
inductive Step : Frames → Frames → Prop
  | alloc {frames : Frames} {result : Option PhysPageNum} {next : StackFrameAllocator}
      (call : frames.allocator.alloc = (result, next)) :
      Step frames ⟨next, result.toList.map PhysPageNum.val ++ frames.allocated⟩
  | dealloc {frames : Frames} {ppn : Nat} {next : StackFrameAllocator}
      (held : ppn ∈ frames.allocated) (call : frames.allocator.dealloc ⟨ppn⟩ = some next) :
      Step frames ⟨next, frames.allocated.erase ppn⟩

/-- The recycled stack, the held frames and the bump range are a permutation of
`[l, r)`: together they cover it, and no frame is in two of them or twice in one. -/
structure Partition (l r : Nat) (frames : Frames) : Prop where
  low : l ≤ frames.allocator.current
  high : frames.allocator.current ≤ r
  end_eq : frames.allocator.end_ = r
  perm : (frames.allocator.recycled ++ frames.allocated ++
    List.range' frames.allocator.current (r - frames.allocator.current)).Perm (List.range' l (r - l))

section Partition

variable {l r : Nat} {frames : Frames}

theorem Partition.nodup (part : Partition l r frames) :
    (frames.allocator.recycled ++ frames.allocated ++
      List.range' frames.allocator.current (r - frames.allocator.current)).Nodup :=
  part.perm.nodup_iff.mpr List.nodup_range'

theorem Partition.mem_iff (part : Partition l r frames) (ppn : Nat) :
    ppn ∈ frames.allocator.recycled ++ frames.allocated ++
      List.range' frames.allocator.current (r - frames.allocator.current) ↔ l ≤ ppn ∧ ppn < r := by
  rw [part.perm.mem_iff, List.mem_range'_1]
  omega

theorem Partition.recycled_bounds (part : Partition l r frames) {ppn : Nat}
    (member : ppn ∈ frames.allocator.recycled) : l ≤ ppn ∧ ppn < r :=
  (part.mem_iff ppn).mp (by simp [member])

theorem Partition.disjoint (part : Partition l r frames) :
    (∀ ppn ∈ frames.allocator.recycled, ppn ∉ frames.allocated) ∧
    (∀ ppn ∈ frames.allocator.recycled ++ frames.allocated,
      ppn ∉ List.range' frames.allocator.current (r - frames.allocator.current)) := by
  have apart := part.nodup
  rw [List.nodup_append, List.nodup_append] at apart
  obtain ⟨⟨_, _, recycledHeld⟩, _, rangeApart⟩ := apart
  exact ⟨fun ppn member held => recycledHeld ppn member ppn held rfl,
    fun ppn member bumped => rangeApart ppn member ppn bumped rfl⟩

theorem Partition.recycled_not_allocated (part : Partition l r frames) {ppn : Nat}
    (member : ppn ∈ frames.allocator.recycled) : ppn ∉ frames.allocated :=
  part.disjoint.1 ppn member

theorem Partition.allocated_below (part : Partition l r frames) {ppn : Nat}
    (held : ppn ∈ frames.allocated) :
    ppn < frames.allocator.current ∧ ppn ∉ frames.allocator.recycled := by
  have bounds := (part.mem_iff ppn).mp (by simp [held])
  have fresh := part.disjoint.2 ppn (by simp [held])
  rw [List.mem_range'_1] at fresh
  exact ⟨by omega, fun recycled => part.recycled_not_allocated recycled held⟩

theorem Partition.current_not_allocated (part : Partition l r frames) :
    frames.allocator.current ∉ frames.allocated := by
  intro held
  have := (part.allocated_below held).1
  omega

end Partition

theorem initial_partition (l r : Nat) (ordered : l ≤ r) : Partition l r (initial l r) :=
  ⟨Nat.le_refl l, ordered, rfl, by simp [initial, StackFrameAllocator.init,
    StackFrameAllocator.new]⟩

theorem step_partition {l r : Nat} (fits : r ≤ 2 ^ 44) {frames next : Frames}
    (part : Partition l r frames) (step : Step frames next) : Partition l r next := by
  cases step with
  | alloc call =>
      rcases StackFrameAllocator.alloc_cases call with
        ⟨rest, ppn, top, rfl, rfl⟩ | ⟨empty, room, rfl, rfl⟩ | ⟨empty, full, rfl, rfl⟩
      · have bounds : l ≤ ppn ∧ ppn < r := part.recycled_bounds (by simp [top])
        have unmasked : (PhysPageNum.fromUsize ppn).val = ppn := by
          rw [PhysPageNum.fromUsize_val]
          exact Nat.mod_eq_of_lt (by omega)
        refine ⟨part.low, part.high, part.end_eq, ?_⟩
        have moved := part.perm
        rw [top] at moved
        simpa only [Option.toList_some, List.map_cons, List.map_nil, List.cons_append,
          List.nil_append, unmasked, List.append_assoc, List.singleton_append] using moved
      · have below : frames.allocator.current < r := by
          have := part.high
          have := part.end_eq
          omega
        have unmasked : (PhysPageNum.fromUsize frames.allocator.current).val =
            frames.allocator.current := by
          rw [PhysPageNum.fromUsize_val]
          exact Nat.mod_eq_of_lt (by omega)
        refine ⟨by have := part.low; simp only; omega, by simp only; omega, part.end_eq, ?_⟩
        have split : r - frames.allocator.current = (r - (frames.allocator.current + 1)) + 1 := by
          omega
        have moved := part.perm
        rw [split, List.range'_succ, empty] at moved
        simp only [List.nil_append] at moved
        simp only [Option.toList_some, List.map_cons, List.map_nil, List.cons_append,
          List.nil_append, unmasked, empty]
        exact List.perm_middle.symm.trans moved
      · refine ⟨part.low, part.high, part.end_eq, ?_⟩
        simpa only [Option.toList_none, List.map_nil, List.nil_append] using part.perm
  | dealloc held call =>
      rename_i ppn next
      obtain ⟨_, _, rfl⟩ := StackFrameAllocator.dealloc_eq_some.mp call
      refine ⟨part.low, part.high, part.end_eq, ?_⟩
      have split : frames.allocated.Perm (ppn :: frames.allocated.erase ppn) :=
        List.perm_cons_erase held
      refine List.Perm.trans ?_ part.perm
      simp only [List.append_assoc, List.singleton_append]
      apply List.Perm.append_left
      simpa only [List.cons_append] using (split.append_right _).symm

theorem reachable_partition {l r : Nat} (ordered : l ≤ r) (fits : r ≤ 2 ^ 44) {frames : Frames}
    (reached : Transition.Reachable Step (initial l r) frames) : Partition l r frames :=
  reached.invariant (initial_partition l r ordered)
    (fun _ _ part step => step_partition fits part step)

theorem Partition.alloc_fresh {l r : Nat} {frames : Frames} (fits : r ≤ 2 ^ 44)
    (part : Partition l r frames) {ppn : PhysPageNum} {next : StackFrameAllocator}
    (call : frames.allocator.alloc = (some ppn, next)) :
    ppn.val ∉ frames.allocated ∧ l ≤ ppn.val ∧ ppn.val < r := by
  rcases StackFrameAllocator.alloc_cases call with
    ⟨rest, top, split, same, _⟩ | ⟨_, _, same, _⟩ | ⟨_, _, impossible, _⟩
  · have member : top ∈ frames.allocator.recycled := by simp [split]
    have bounds := part.recycled_bounds member
    obtain rfl := Option.some.inj same
    rw [PhysPageNum.fromUsize_val, Nat.mod_eq_of_lt (by omega)]
    exact ⟨part.recycled_not_allocated member, bounds⟩
  · have below : frames.allocator.current < r := by
      have := part.high
      have := part.end_eq
      omega
    obtain rfl := Option.some.inj same
    rw [PhysPageNum.fromUsize_val, Nat.mod_eq_of_lt (by omega)]
    exact ⟨part.current_not_allocated, part.low, below⟩
  · cases impossible

/-- The check of `dealloc` (`ppn >= current` or `ppn` recycled) accepts, in a partitioned
state, the held frames and also every frame below `l`, which no `alloc` returns. -/
theorem Partition.dealloc_accepts_iff {l r : Nat} {frames : Frames} (part : Partition l r frames)
    (ppn : Nat) :
    (∃ next, frames.allocator.dealloc ⟨ppn⟩ = some next) ↔ ppn ∈ frames.allocated ∨ ppn < l := by
  constructor
  · rintro ⟨next, call⟩
    obtain ⟨below, absent, -⟩ := StackFrameAllocator.dealloc_eq_some.mp call
    change ppn < frames.allocator.current at below
    change ppn ∉ frames.allocator.recycled at absent
    by_cases low : ppn < l
    · exact .inr low
    · have covered := (part.mem_iff ppn).mpr ⟨by omega, by have := part.high; omega⟩
      simp only [List.mem_append, List.mem_range'_1] at covered
      rcases covered with (recycled | held) | bumped
      · exact absurd recycled absent
      · exact .inl held
      · omega
  · rintro (held | low)
    · have accepted := part.allocated_below held
      exact ⟨_, StackFrameAllocator.dealloc_eq_some.mpr ⟨accepted.1, accepted.2, rfl⟩⟩
    · have below : ppn < frames.allocator.current := Nat.lt_of_lt_of_le low part.low
      have absent : ppn ∉ frames.allocator.recycled := fun recycled =>
        absurd (part.recycled_bounds recycled).1 (Nat.not_le.mpr low)
      exact ⟨_, StackFrameAllocator.dealloc_eq_some.mpr ⟨below, absent, rfl⟩⟩

theorem recycled_reachable : Transition.Reachable Step (initial 1 4) ⟨⟨3, 4, [1]⟩, [2]⟩ := by
  have first : Transition.Reachable Step (initial 1 4) ⟨⟨2, 4, []⟩, [1]⟩ := .step .init (.alloc rfl)
  have second : Transition.Reachable Step (initial 1 4) ⟨⟨3, 4, []⟩, [2, 1]⟩ := .step first (.alloc rfl)
  exact .step second (@Step.dealloc _ 1 _ (by decide) rfl)

/-- After two `alloc`s from `init(1, 4)` and the `dealloc` of frame 1, a second `dealloc` of
frame 1, now recycled, is refused: it is neither held nor below the range. -/
theorem dealloc_accepts_iff_recycled :
    (∃ next, (⟨⟨3, 4, [1]⟩, [2]⟩ : Frames).allocator.dealloc ⟨1⟩ = some next) ↔
      1 ∈ (⟨⟨3, 4, [1]⟩, [2]⟩ : Frames).allocated ∨ 1 < 1 :=
  Partition.dealloc_accepts_iff (reachable_partition (by decide) (by decide) recycled_reachable) 1

/-- What the allocator promises its callers in a reachable state: the recycled
stack has no duplicates and, with the held frames and the bump range, partitions
`[l, r)`; `alloc` hands out a frame of `[l, r)` that nobody holds, and returns
`None` only when every frame of `[l, r)` is held. -/
structure Contract (l r : Nat) (frames : Frames) : Prop where
  recycled_nodup : frames.allocator.recycled.Nodup
  partition : (frames.allocator.recycled ++ frames.allocated ++
    List.range' frames.allocator.current (frames.allocator.end_ - frames.allocator.current)).Perm
      (List.range' l (r - l))
  alloc_fresh : ∀ ppn next, frames.allocator.alloc = (some ppn, next) →
    ppn.val ∉ frames.allocated ∧ l ≤ ppn.val ∧ ppn.val < r
  alloc_none : ∀ next, frames.allocator.alloc = (none, next) →
    ∀ ppn, l ≤ ppn → ppn < r → ppn ∈ frames.allocated

/-- For page-number ranges that fit the 44 bits `PhysPageNum::from` keeps, every
state reached by `init(l, r)` and `alloc`/`dealloc` calls meets the contract. -/
theorem frame_allocator_contract (l r : Nat) (ordered : l ≤ r) (fits : r ≤ 2 ^ 44)
    {frames : Frames} (reached : Transition.Reachable Step (initial l r) frames) :
    Contract l r frames := by
  have part := reachable_partition ordered fits reached
  refine ⟨(List.nodup_append.mp (List.nodup_append.mp part.nodup).1).1,
    by rw [part.end_eq]; exact part.perm, fun ppn next call => part.alloc_fresh fits call, ?_⟩
  · intro next call ppn low high
    rcases StackFrameAllocator.alloc_cases call with
      ⟨_, _, _, impossible, _⟩ | ⟨_, _, impossible, _⟩ | ⟨empty, full, _, _⟩
    · cases impossible
    · cases impossible
    · have covered := (part.mem_iff ppn).mpr ⟨low, high⟩
      rw [empty, full, part.end_eq, Nat.sub_self] at covered
      simpa using covered

/-- Two `alloc`s, the `dealloc` of the first frame and an `alloc` that takes it back off the
recycled stack. -/
theorem frame_allocator_contract_recycled : Contract 1 4 ⟨⟨3, 4, []⟩, [1, 2]⟩ :=
  frame_allocator_contract 1 4 (by decide) (by decide) (.step recycled_reachable (.alloc rfl))

/-- Past the 44 bits of a page number `into()` wraps: after `init(2^44, 2^44 + 1)`
the first `alloc` returns page 0, outside the range it was given. -/
theorem frame_alloc_outside_range_beyond_ppn_width :
    ∃ ppn next, (initial (2 ^ 44) (2 ^ 44 + 1)).allocator.alloc = (some ppn, next) ∧
      ¬ (2 ^ 44 ≤ ppn.val ∧ ppn.val < 2 ^ 44 + 1) :=
  ⟨⟨0⟩, ⟨2 ^ 44 + 1, 2 ^ 44 + 1, []⟩, by decide, by decide⟩

/-- The kernel's own range on QEMU, `init(ceil(ekernel), floor(MEMORY_END))` with `ekernel`
at `0x80230000` and `MEMORY_END` at `0x80800000`: `dealloc` of frame `0x80200`, the first
frame of the kernel's text, which no `alloc` returned, passes the check, and the next
`alloc` hands that frame out. -/
theorem frame_dealloc_accepts_kernel_frame :
    (initial 0x80230 0x80800).allocated = [] ∧
      ∃ next, (initial 0x80230 0x80800).allocator.dealloc ⟨0x80200⟩ = some next ∧
        next.alloc.1 = some ⟨0x80200⟩ :=
  ⟨rfl, ⟨0x80230, 0x80800, [0x80200]⟩, rfl, by decide⟩

end Frames

end ChOs

namespace ChOs

/-- `FrameTracker::new`: zero the 4096 bytes of the frame before handing it out. -/
def FrameTracker.new (memory : Nat → UInt8) (ppn : PhysPageNum) : Nat → UInt8 :=
  ByteMemory.writeBytes memory ppn.toPhysAddr.val (List.replicate 4096 0)

/-- Physical memory together with the state of the frame allocator. -/
structure Machine (σ : Type) where
  memory : Nat → UInt8
  allocator : σ

/-- `frame_alloc`: `FRAME_ALLOCATOR.alloc().map(FrameTracker::new)`, for any allocator
`alloc` with the signature of `StackFrameAllocator::alloc`. -/
def frameAlloc {σ : Type} (alloc : σ → Option PhysPageNum × σ) (machine : Machine σ) :
    Option PhysPageNum × Machine σ :=
  match alloc machine.allocator with
  | (some ppn, allocator) => (some ppn, ⟨FrameTracker.new machine.memory ppn, allocator⟩)
  | (none, allocator) => (none, ⟨machine.memory, allocator⟩)

end ChOs
