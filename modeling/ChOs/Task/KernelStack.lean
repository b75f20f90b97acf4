import ChOs.Memory.MemorySet
import ChOs.Memory.FrameBudget
import ChOs.Library.Transition

set_option autoImplicit false

/- Kernel stacks in the kernel address space (`os/src/task/pid.rs`, with `new_kernel`,
`insert_framed_area` and `remove_area_with_start_vpn` of `os/src/memory/memory_set.rs`). -/

namespace ChOs

/-- `a - b` in `usize`, wrapping in the release build. -/
def usizeSub (a b : Nat) : Nat := (a + 2 ^ 64 - b % 2 ^ 64) % 2 ^ 64

/-- `kernel_stack_position`: `(bottom, top)` of the stack of `app_id`. -/
def kernelStackPosition (appId : Nat) : Nat × Nat :=
  let top := usizeSub trampoline (appId * (kernelStackSize + pageSize) % 2 ^ 64)
  let bottom := usizeSub top kernelStackSize
  (bottom, top)

namespace KernelStack

variable {T : Type} (ops : PageTableOps T)

/-- `KernelStack::new(pid_handle)`: `KERNEL_SPACE` after the stack's area is inserted. -/
def new (kernelSpace : MemorySet T) (pid : Nat) : Except String (MemorySet T) :=
  let (kernelStackBottom, kernelStackTop) := kernelStackPosition pid
  kernelSpace.insertFramedArea ops (VirtAddr.fromUsize kernelStackBottom)
    (VirtAddr.fromUsize kernelStackTop) (MapPermission.R ||| MapPermission.W)

/-- `Drop for KernelStack`: `KERNEL_SPACE` after the area starting at the stack's first
page is removed. -/
def drop (kernelSpace : MemorySet T) (pid : Nat) : Except String (MemorySet T) := do
  let kernelStackBottomVa := VirtAddr.fromUsize (kernelStackPosition pid).1
  let startVpn ← kernelStackBottomVa.intoVpn
  kernelSpace.removeAreaWithStartVpn ops startVpn

end KernelStack

/-- The pids whose stacks, once masked to 39 bits, stay above `MEMORY_END`. -/
def Fits (pid : Nat) : Prop :=
  pid * (kernelStackSize + pageSize) + kernelStackSize + pageSize ≤ 2 ^ 39 - memoryEnd

instance (pid : Nat) : Decidable (Fits pid) := Nat.decLe _ _

/-- The two pages of the stack of `pid`. -/
def stackRange (pid : Nat) : VPNRange := ⟨⟨2 ^ 27 - 3 - 3 * pid⟩, ⟨2 ^ 27 - 1 - 3 * pid⟩⟩

/-- The page right above the stack of `pid`. -/
def guardPage (pid : Nat) : VirtPageNum := ⟨2 ^ 27 - 1 - 3 * pid⟩

/-- The area `KernelStack::new` inserts for `pid`. -/
def stackArea (pid : Nat) : MapArea :=
  ⟨stackRange pid, fun _ => none, .framed, MapPermission.R ||| MapPermission.W⟩

/-- The ranges of the areas of a kernel space whose live stacks are those of `alive`. -/
def kernelRanges (symbols : KernelSymbols) (alive : List Nat) : List VPNRange :=
  sectionRanges symbols ++ alive.map stackRange

section Position

variable {pid : Nat}

theorem Fits.bound (fits : Fits pid) : 3 * pid + 3 + 0x80800 ≤ 2 ^ 27 := by
  unfold Fits at fits
  simp only [kernelStackSize, pageSize, memoryEnd] at fits
  omega

theorem kernelStackPosition_eq (fits : Fits pid) :
    kernelStackPosition pid = (2 ^ 64 - 12288 - 12288 * pid, 2 ^ 64 - 4096 - 12288 * pid) := by
  have bound := fits.bound
  simp only [kernelStackPosition, usizeSub, trampoline, kernelStackSize, pageSize, Prod.mk.injEq]
  omega

theorem stack_masked (fits : Fits pid) :
    (VirtAddr.fromUsize (kernelStackPosition pid).1).val = 2 ^ 39 - 12288 - 12288 * pid ∧
      (VirtAddr.fromUsize (kernelStackPosition pid).2).val = 2 ^ 39 - 4096 - 12288 * pid := by
  have bound := fits.bound
  rw [kernelStackPosition_eq fits, VirtAddr.fromUsize_val, VirtAddr.fromUsize_val]
  omega

theorem mapArea_new_stack (fits : Fits pid) :
    MapArea.new (VirtAddr.fromUsize (kernelStackPosition pid).1)
      (VirtAddr.fromUsize (kernelStackPosition pid).2) .framed
      (MapPermission.R ||| MapPermission.W) = .ok (stackArea pid) := by
  have bound := fits.bound
  obtain ⟨bottom, top⟩ := stack_masked fits
  rw [MapArea.new_of_aligned _ _ (by omega) (by omega) (by omega) (by omega)]
  simp only [stackArea, stackRange, VirtAddr.floor, pageSize, bottom, top]
  congr 4 <;> omega

theorem new_eq {T : Type} (ops : PageTableOps T) (space : MemorySet T) (fits : Fits pid) :
    KernelStack.new ops space pid = space.push ops (stackArea pid) := by
  simp only [KernelStack.new, MemorySet.insertFramedArea, mapArea_new_stack fits, ok_bind]

theorem drop_eq {T : Type} (ops : PageTableOps T) (space : MemorySet T) (fits : Fits pid) :
    KernelStack.drop ops space pid = space.removeAreaWithStartVpn ops (stackRange pid).l := by
  have bound := fits.bound
  have start : (VirtAddr.fromUsize (kernelStackPosition pid).1).intoVpn = .ok (stackRange pid).l := by
    have offset : (VirtAddr.fromUsize (kernelStackPosition pid).1).pageOffset = 0 := by
      rw [VirtAddr.pageOffset_eq, (stack_masked fits).1]
      omega
    rw [VirtAddr.intoVpn, if_pos offset]
    simp only [stackRange, VirtAddr.floor, pageSize, (stack_masked fits).1]
    congr 2
    omega
  simp only [KernelStack.drop, start, ok_bind]

theorem mem_stackRange (v : VirtPageNum) :
    v ∈ (stackRange pid).vpns ↔ 2 ^ 27 - 3 - 3 * pid ≤ v.val ∧ v.val < 2 ^ 27 - 1 - 3 * pid :=
  VPNRange.mem_vpns _ v

theorem stack_below_trampoline (v : VirtPageNum) (inside : v ∈ (stackRange pid).vpns) :
    v.val < 2 ^ 27 - 1 := by
  rw [mem_stackRange] at inside
  omega

end Position

theorem stacks_apart {p q : Nat} (fitsP : Fits p) (fitsQ : Fits q) (differ : p ≠ q) :
    (stackRange p).Apart (stackRange q) := by
  have boundP := fitsP.bound
  have boundQ := fitsQ.bound
  refine VPNRange.apart_of_separated ?_
  simp only [stackRange]
  omega

theorem guardPage_not_mem {p q : Nat} (fitsP : Fits p) (fitsQ : Fits q) :
    guardPage q ∉ (stackRange p).vpns := by
  have boundP := fitsP.bound
  have boundQ := fitsQ.bound
  rw [mem_stackRange]
  simp only [guardPage]
  omega

namespace KernelSymbols

variable {symbols : KernelSymbols}

theorem Laid.sections_below (laid : symbols.Laid) :
    ∀ range ∈ sectionRanges symbols, range.l.val < 0x80800 ∧ range.r.val ≤ 0x80800 := by
  obtain ⟨stext, srodata, sdata, sbss, ekernel, ordered, below, aligned⟩ := laid
  simp only [sectionRanges, kernelSections, mmio, sectionRange, List.map_cons, List.map_nil,
    List.cons_append, List.nil_append, List.mem_cons, List.not_mem_nil, or_false,
    forall_eq_or_imp, forall_eq, Nat.reduceAdd, Nat.reducePow]
  simp only [memoryEnd] at below ⊢
  omega

theorem Laid.section_stack_apart (laid : symbols.Laid) {pid : Nat} (fits : Fits pid) :
    ∀ range ∈ sectionRanges symbols, range.Apart (stackRange pid) := by
  intro range listed
  have bound := fits.bound
  have below := laid.sections_below range listed
  refine VPNRange.apart_of_separated (.inl ?_)
  simp only [stackRange]
  omega

end KernelSymbols

section Ranges

variable {symbols : KernelSymbols} {alive : List Nat}

theorem kernelRanges_pairwise (laid : symbols.Laid) (distinct : alive.Nodup)
    (fits : ∀ pid ∈ alive, Fits pid) : (kernelRanges symbols alive).Pairwise VPNRange.Apart := by
  refine List.pairwise_append.mpr ⟨laid.sections_pairwise, ?_, ?_⟩
  · refine List.pairwise_map.mpr (distinct.imp_of_mem fun {p q} memberP memberQ differ => ?_)
    exact stacks_apart (fits p memberP) (fits q memberQ) differ
  · intro range listed other stack
    obtain ⟨pid, member, rfl⟩ := List.mem_map.mp stack
    exact laid.section_stack_apart (fits pid member) range listed

theorem trampoline_not_mem_kernelRanges (laid : symbols.Laid) :
    ∀ range ∈ kernelRanges symbols alive, (⟨2 ^ 27 - 1⟩ : VirtPageNum) ∉ range.vpns := by
  intro range listed inside
  rcases List.mem_append.mp listed with identity | stack
  · have below := laid.sections_below range identity
    rw [VPNRange.mem_vpns] at inside
    dsimp only at inside
    omega
  · obtain ⟨pid, -, rfl⟩ := List.mem_map.mp stack
    exact absurd (stack_below_trampoline _ inside) (Nat.lt_irrefl _)

theorem stack_apart_kernelRanges (laid : symbols.Laid) (fits : ∀ pid ∈ alive, Fits pid)
    {pid : Nat} (fresh : pid ∉ alive) (fitsPid : Fits pid) :
    ∀ v ∈ (stackRange pid).vpns, v.val < 2 ^ 27 ∧ v ≠ ⟨2 ^ 27 - 1⟩ ∧
      ∀ range ∈ kernelRanges symbols alive, v ∉ range.vpns := by
  intro v inside
  have below := stack_below_trampoline v inside
  refine ⟨by omega, fun same => by rw [same] at below; exact Nat.lt_irrefl _ below,
    fun range listed => ?_⟩
  rcases List.mem_append.mp listed with identity | stack
  · exact (laid.section_stack_apart fitsPid range identity).symm v inside
  · obtain ⟨other, member, rfl⟩ := List.mem_map.mp stack
    exact stacks_apart fitsPid (fits other member)
      (fun same => fresh (same ▸ member)) v inside

end Ranges

section Runs

variable {T : Type} {ops : PageTableOps T} {Good : T → List PhysPageNum → Prop}
  {mapping : T → VirtPageNum → Option (PhysPageNum × PTEFlags)}

variable (Good mapping) in
/-- The kernel space with the stacks of `alive` live: its areas are the identical ones of
`new_kernel` and the live stacks, in that order, mapped with the trampoline and nothing
else; the live pids are distinct and fit. -/
structure KernelSpace (symbols : KernelSymbols) (space : MemorySet T) (alive : List Nat) :
    Prop where
  tracks : MemorySet.Tracks Good mapping space (kernelRanges symbols alive)
  alive_nodup : alive.Nodup
  alive_fits : ∀ pid ∈ alive, Fits pid

variable (ops) in
/-- One call of a run that returns: `KernelStack::new` for a pid that is not live and
fits, or the drop of a live pid's `KernelStack`. -/
inductive KernelStack.Step : MemorySet T × List Nat → MemorySet T × List Nat → Prop
  | new {space space' : MemorySet T} {alive : List Nat} (pid : Nat) (fresh : pid ∉ alive)
      (fits : Fits pid) (call : KernelStack.new ops space pid = .ok space') :
      Step (space, alive) (space', alive ++ [pid])
  | drop {space space' : MemorySet T} {alive : List Nat} (pid : Nat) (live : pid ∈ alive)
      (call : KernelStack.drop ops space pid = .ok space') :
      Step (space, alive) (space', alive.erase pid)

variable {symbols : KernelSymbols} {space : MemorySet T} {alive : List Nat}

theorem KernelSpace.new (lawful : ops.Lawful Good mapping) (laid : symbols.Laid)
    (kernel : KernelSpace Good mapping symbols space alive) {pid : Nat} (fresh : pid ∉ alive)
    (fits : Fits pid) :
    KernelStack.new ops space pid = .error unwrapNone ∨
      ∃ space', KernelStack.new ops space pid = .ok space' ∧
        KernelSpace Good mapping symbols space' (alive ++ [pid]) := by
  rw [new_eq ops space fits]
  rcases kernel.tracks.push lawful (fun v => (rfl : (stackArea pid).dataFrames v = none))
      (stack_apart_kernelRanges laid kernel.alive_fits fresh fits) with
    failed | ⟨space', call, tracks', -⟩
  · exact .inl failed.1
  refine .inr ⟨space', call, ⟨?_, ?_, ?_⟩⟩
  · simpa [kernelRanges, stackArea] using tracks'
  · refine List.nodup_append.mpr ⟨kernel.alive_nodup, List.nodup_singleton pid,
      fun p member q same => ?_⟩
    rw [List.mem_singleton.mp same]
    rintro rfl
    exact fresh member
  · intro other member
    rcases List.mem_append.mp member with old | new
    · exact kernel.alive_fits other old
    · rw [List.mem_singleton.mp new]
      exact fits

theorem KernelSpace.drop (lawful : ops.Lawful Good mapping) (laid : symbols.Laid)
    (kernel : KernelSpace Good mapping symbols space alive) {pid : Nat} (live : pid ∈ alive) :
    ∃ space', KernelStack.drop ops space pid = .ok space' ∧
      space'.areas = space.areas.eraseIdx ((sectionRanges symbols).length + alive.idxOf pid) ∧
      KernelSpace Good mapping symbols space' (alive.erase pid) ∧
      ∀ other, other.val < 2 ^ 27 → mapping space'.pageTable other =
        if other ∈ (stackRange pid).vpns then none else mapping space.pageTable other := by
  have fits := kernel.alive_fits pid live
  have bound := fits.bound
  have atIndex : (kernelRanges symbols alive)[(sectionRanges symbols).length + alive.idxOf pid]? =
      some (stackRange pid) := by
    rw [kernelRanges, List.getElem?_append_right (Nat.le_add_right _ _), Nat.add_sub_cancel_left,
      List.getElem?_map, List.getElem?_idxOf live, Option.map_some]
  have only : ∀ j other, (kernelRanges symbols alive)[j]? = some other →
      other.l = (stackRange pid).l → j = (sectionRanges symbols).length + alive.idxOf pid := by
    intro j other atJ starts
    by_cases early : j < (sectionRanges symbols).length
    · rw [kernelRanges, List.getElem?_append_left early] at atJ
      have below := (laid.sections_below other (List.mem_of_getElem? atJ)).1
      rw [starts] at below
      simp only [stackRange] at below
      omega
    · rw [kernelRanges, List.getElem?_append_right (Nat.le_of_not_lt early),
        List.getElem?_map] at atJ
      cases atAlive : alive[j - (sectionRanges symbols).length]? with
      | none => rw [atAlive] at atJ; cases atJ
      | some q =>
          rw [atAlive, Option.map_some, Option.some.injEq] at atJ
          subst atJ
          have boundQ := (kernel.alive_fits q (List.mem_of_getElem? atAlive)).bound
          have same : q = pid := by
            simp only [stackRange, VirtPageNum.mk.injEq] at starts
            omega
          subst same
          have within : j - (sectionRanges symbols).length < alive.length :=
            (List.getElem?_eq_some_iff.mp atAlive).1
          have index := (List.getElem?_inj within kernel.alive_nodup).mp
            (atAlive.trans (List.getElem?_idxOf live).symm)
          omega
  obtain ⟨t', call, tracks', moved⟩ := kernel.tracks.removeAreaWithStartVpn lawful
    (kernelRanges_pairwise laid kernel.alive_nodup kernel.alive_fits)
    (trampoline_not_mem_kernelRanges laid) atIndex only
    (fun v inside => by have := stack_below_trampoline v inside; omega)
  have erased : (kernelRanges symbols alive).eraseIdx
      ((sectionRanges symbols).length + alive.idxOf pid) = kernelRanges symbols (alive.erase pid) := by
    rw [kernelRanges, List.eraseIdx_append_of_length_le (Nat.le_add_right _ _),
      Nat.add_sub_cancel_left, List.eraseIdx_map,
      KeyedList.eraseIdx_eq_erase kernel.alive_nodup (List.getElem?_idxOf live), kernelRanges]
  refine ⟨_, by rw [drop_eq ops space fits]; exact call, rfl, ⟨erased ▸ tracks',
    kernel.alive_nodup.erase pid, fun other member => kernel.alive_fits other
      (List.mem_of_mem_erase member)⟩, moved⟩

theorem newKernel_kernelSpace (lawful : ops.Lawful Good mapping) (laid : symbols.Laid)
    {pageTable : T} (good : Good pageTable [])
    (empty : ∀ vpn, vpn.val < 2 ^ 27 → mapping pageTable vpn = none)
    (booted : MemorySet.newKernel ops pageTable symbols = .ok space) :
    KernelSpace Good mapping symbols space [] := by
  rcases MemorySet.newKernel_tracks lawful laid good empty with failed | ⟨boot, call, tracks⟩
  · rw [failed.1] at booted
    cases booted
  · rw [call] at booted
    cases booted
    exact ⟨by simpa [kernelRanges] using tracks, List.nodup_nil,
      fun _ member => absurd member List.not_mem_nil⟩

theorem reachable_kernelSpace (lawful : ops.Lawful Good mapping) (laid : symbols.Laid)
    {pageTable : T} (good : Good pageTable [])
    (empty : ∀ vpn, vpn.val < 2 ^ 27 → mapping pageTable vpn = none)
    (booted : MemorySet.newKernel ops pageTable symbols = .ok space)
    {state : MemorySet T × List Nat} (reached : Transition.Reachable (KernelStack.Step ops) (space, []) state) :
    KernelSpace Good mapping symbols state.1 state.2 := by
  refine @Transition.Reachable.invariant _ (KernelStack.Step ops) (space, [])
    (fun state => KernelSpace Good mapping symbols state.1 state.2)
    (newKernel_kernelSpace lawful laid good empty booted) ?_ state reached
  intro current next kernel step
  cases step with
  | new pid fresh fits call =>
      rcases kernel.new lawful laid fresh fits with failed | ⟨space', returned, kernel'⟩
      · rw [failed] at call
        cases call
      · rw [returned] at call
        cases call
        exact kernel'
  | drop pid live call =>
      obtain ⟨space', returned, -, kernel', -⟩ := kernel.drop lawful laid live
      rw [returned] at call
      cases call
      exact kernel'

variable (ops mapping) in
/-- What the kernel stacks can rely on in a kernel space: its areas are pairwise apart; a
live stack overlaps neither the trampoline's page nor an identical area; between two
live stacks lies the unmapped guard page of the lower one; `KernelStack::new` of a pid
that is not live and fits fails only because `frame_alloc` does, never on an assertion;
and the drop of a live stack removes exactly its area and unmaps exactly its pages. -/
structure KernelStackContract (symbols : KernelSymbols) (space : MemorySet T)
    (alive : List Nat) : Prop where
  areas_apart : (space.areas.map MapArea.vpnRange).Pairwise VPNRange.Apart
  stacks_apart : ∀ pid ∈ alive, ∀ vpn ∈ (stackRange pid).vpns,
    vpn ≠ ⟨2 ^ 27 - 1⟩ ∧ ∀ range ∈ sectionRanges symbols, vpn ∉ range.vpns
  guarded : ∀ p ∈ alive, ∀ q ∈ alive, p < q →
    (stackRange q).r.val ≤ (guardPage q).val ∧ (guardPage q).val < (stackRange p).l.val ∧
      mapping space.pageTable (guardPage q) = none
  new_fails : ∀ pid, pid ∉ alive → Fits pid → ∀ message,
    KernelStack.new ops space pid = .error message → message = unwrapNone
  drop_removes : ∀ pid ∈ alive, ∃ i space',
    (space.areas[i]?).map MapArea.vpnRange = some (stackRange pid) ∧
    KernelStack.drop ops space pid = .ok space' ∧ space'.areas = space.areas.eraseIdx i ∧
    ∀ vpn, vpn.val < 2 ^ 27 → mapping space'.pageTable vpn =
      if vpn ∈ (stackRange pid).vpns then none else mapping space.pageTable vpn

theorem KernelSpace.contract (lawful : ops.Lawful Good mapping) (laid : symbols.Laid)
    (kernel : KernelSpace Good mapping symbols space alive) :
    KernelStackContract ops mapping symbols space alive where
  areas_apart := by
    rw [kernel.tracks.areas_ranges]
    exact kernelRanges_pairwise laid kernel.alive_nodup kernel.alive_fits
  stacks_apart pid live vpn inside := by
    have below := stack_below_trampoline vpn inside
    refine ⟨fun same => by rw [same] at below; exact Nat.lt_irrefl _ below,
      fun range listed => (laid.section_stack_apart (kernel.alive_fits pid live) range listed).symm
        vpn inside⟩
  guarded p liveP q liveQ lower := by
    have boundP := (kernel.alive_fits p liveP).bound
    have boundQ := (kernel.alive_fits q liveQ).bound
    refine ⟨by simp [stackRange, guardPage], by simp only [stackRange, guardPage]; omega, ?_⟩
    have small : (guardPage q).val < 2 ^ 27 := by simp only [guardPage]; omega
    by_contra mapped
    rcases (kernel.tracks.mapped _ small).mp mapped with same | ⟨range, listed, inside⟩
    · simp only [guardPage, VirtPageNum.mk.injEq] at same
      omega
    · rcases List.mem_append.mp listed with identity | stack
      · have below := laid.sections_below range identity
        rw [VPNRange.mem_vpns] at inside
        simp only [guardPage] at inside
        omega
      · obtain ⟨other, member, rfl⟩ := List.mem_map.mp stack
        exact guardPage_not_mem (kernel.alive_fits other member) (kernel.alive_fits q liveQ) inside
  new_fails pid fresh fits message failed := by
    rcases kernel.new lawful laid fresh fits with exhausted | ⟨space', returned, -⟩
    · rw [exhausted] at failed
      exact (Except.error.inj failed).symm
    · rw [returned] at failed
      cases failed
  drop_removes pid live := by
    obtain ⟨space', call, areas', -, moved⟩ := kernel.drop lawful laid live
    refine ⟨_, space', ?_, call, areas', moved⟩
    rw [← List.getElem?_map, kernel.tracks.areas_ranges, kernelRanges,
      List.getElem?_append_right (Nat.le_add_right _ _), Nat.add_sub_cancel_left,
      List.getElem?_map, List.getElem?_idxOf live, Option.map_some]

/-- Along every run of `KernelStack::new` calls and drops from `new_kernel`, the kernel
stacks keep their contract. -/
theorem kernel_stack_contract (lawful : ops.Lawful Good mapping) (laid : symbols.Laid)
    {pageTable : T} (good : Good pageTable [])
    (empty : ∀ vpn, vpn.val < 2 ^ 27 → mapping pageTable vpn = none)
    (booted : MemorySet.newKernel ops pageTable symbols = .ok space)
    {state : MemorySet T × List Nat} (reached : Transition.Reachable (KernelStack.Step ops) (space, []) state) :
    KernelStackContract ops mapping symbols state.1 state.2 :=
  (reachable_kernelSpace lawful laid good empty booted reached).contract lawful laid

variable {free : T → Nat}

theorem KernelSpace.new_ok (lawful : ops.Lawful Good mapping) (budget : ops.Budget free)
    (laid : symbols.Laid) (kernel : KernelSpace Good mapping symbols space alive) {pid : Nat}
    (fresh : pid ∉ alive) (fits : Fits pid) (enough : 6 ≤ free space.pageTable) :
    ∃ space', KernelStack.new ops space pid = .ok space' ∧
      KernelSpace Good mapping symbols space' (alive ++ [pid]) ∧
      free space.pageTable ≤ free space'.pageTable + 6 := by
  have bound := fits.bound
  have pages : (stackArea pid).vpnRange.vpns.length = 2 := by
    rw [VPNRange.length_vpns]
    simp only [stackArea, stackRange]
    omega
  rcases kernel.new lawful laid fresh fits with failed | ⟨space', call, kernel'⟩
  · rw [new_eq ops space fits] at failed
    exact absurd failed (MemorySet.push_returns budget (fun _ _ => rfl) (by omega))
  · have spent := MemorySet.push_spends budget ((new_eq ops space fits).symm.trans call)
    exact ⟨space', call, kernel', by omega⟩

end Runs

/-- A kernel image as `linker-qemu.ld` lays it out. -/
def qemuSymbols : KernelSymbols :=
  ⟨0x80200000, 0x8020a000, 0x8020a000, 0x8020c000, 0x8020c000, 0x8020d000, 0x8020d000,
    0x80230000, 0x80230000, 0x80201000⟩

theorem qemuSymbols_laid : qemuSymbols.Laid :=
  ⟨rfl, rfl, rfl, rfl, rfl, by decide, by decide, by decide⟩

theorem qemuSymbols_pages : sectionPages (kernelSections qemuSymbols) = 1537 := by
  simp [sectionPages, kernelSections, sectionRange, VPNRange.length_vpns, qemuSymbols, mmio,
    memoryEnd]

/-- `new_kernel` on the table `PageTable::new()` makes from a stack allocator of the 6144
frames above `MEMORY_END`, then the stacks of pids 1 and 2 and the drop of the first:
the kernel stacks keep their contract. -/
theorem kernel_stack_contract_two_stacks :
    ∃ table space state,
      PageTable.new Frames.allocHeld ⟨fun _ => 0, Frames.initial 0x80800 0x82000⟩ = .ok table ∧
      MemorySet.newKernel PageTable.ops table qemuSymbols = .ok space ∧
      Transition.Reachable (KernelStack.Step PageTable.ops) (space, []) state ∧ state.2 = [2] ∧
      KernelStackContract PageTable.ops PageTable.mappingOf qemuSymbols state.1 state.2 := by
  have fits : (0x82000 : Nat) ≤ 2 ^ 44 := by decide
  have created : PageTable.new Frames.allocHeld ⟨fun _ => 0, Frames.initial 0x80800 0x82000⟩ =
      .ok (⟨⟨0x80800⟩, [⟨0x80800⟩]⟩,
        ⟨FrameTracker.new (fun _ => 0) ⟨0x80800⟩, ⟨⟨0x80801, 0x82000, []⟩, [0x80800]⟩⟩) := rfl
  obtain ⟨good, unmapped⟩ := PageTable.new_good fits
    (Frames.initial_partition 0x80800 0x82000 (by decide)) rfl created
  have lawful := PageTable.lawful (l := 0x80800) fits
  obtain ⟨space, booted, spent⟩ := MemorySet.newKernel_ok lawful PageTable.budget qemuSymbols_laid
    good unmapped (by rw [qemuSymbols_pages]; decide)
  have initial : Frames.free ⟨⟨0x80801, 0x82000, []⟩, [0x80800]⟩ = 6143 := rfl
  rw [qemuSymbols_pages] at spent
  dsimp only at spent
  rw [initial] at spent
  have kernel := newKernel_kernelSpace lawful qemuSymbols_laid good unmapped booted
  obtain ⟨space₁, first, kernel₁, spent₁⟩ := kernel.new_ok lawful PageTable.budget qemuSymbols_laid
    List.not_mem_nil (by decide : Fits 1) (by omega)
  obtain ⟨space₂, second, kernel₂, -⟩ := kernel₁.new_ok lawful PageTable.budget qemuSymbols_laid
    (by decide : 2 ∉ [] ++ [1]) (by decide : Fits 2) (by omega)
  obtain ⟨space₃, third, -, -, -⟩ := kernel₂.drop lawful qemuSymbols_laid (by decide : 1 ∈ [] ++ [1] ++ [2])
  have reached : Transition.Reachable (KernelStack.Step PageTable.ops) (space, [])
      (space₃, ([] ++ [1] ++ [2]).erase 1) :=
    .step (.step (.step .init (.new 1 List.not_mem_nil (by decide) first))
      (.new 2 (by decide) (by decide) second)) (.drop 1 (by decide) third)
  exact ⟨_, space, _, created, booted, reached, rfl,
    kernel_stack_contract lawful qemuSymbols_laid good unmapped booted reached⟩

end ChOs
