import ChOs.Task.ProcessTable

set_option autoImplicit false

/- What the process-table invariant gives the rest of the kernel. -/

namespace ChOs

namespace ProcessTable

section Family

variable {status : Nat → Option TaskStatus} {parent : Nat → Option Nat}
  {children : Nat → List Nat}

theorem Family.one_parent (family : Family status parent children) {task : Nat}
    (alive : status task ≠ none) (notInit : task ≠ initproc) :
    ∃ up, parent task = some up ∧ status up ≠ none ∧
      ∀ holder, (children holder).count task = if holder = up then 1 else 0 := by
  obtain ⟨up, found, -, upAlive⟩ := family.parent_alive task alive notInit
  refine ⟨up, found, upAlive, fun holder => ?_⟩
  by_cases holderAlive : status holder = none
  · have apart : holder ≠ up := fun same => upAlive (same ▸ holderAlive)
    rw [(family.freed holder holderAlive).2, List.count_nil, if_neg apart]
  · rw [family.children_count holder task holderAlive, found]
    by_cases same : holder = up
    · rw [if_pos ⟨notInit, by rw [same]⟩, if_pos same]
    · rw [if_neg fun ⟨_, points⟩ => same (Option.some.inj points).symm, if_neg same]

theorem Family.initproc_orphan (family : Family status parent children) (holder : Nat) :
    initproc ∉ children holder := by
  by_cases holderAlive : status holder = none
  · rw [(family.freed holder holderAlive).2]
    exact List.not_mem_nil
  · rw [← List.count_eq_zero, family.children_count holder initproc holderAlive,
      if_neg fun ⟨notInit, _⟩ => notInit rfl]

theorem Family.count_erase (family : Family status parent children) {task child : Nat}
    (alive : status task ≠ none) (member : child ∈ children task) (holder : Nat) :
    (Function.update children task ((children task).erase child) holder).count child = 0 := by
  obtain ⟨notInit, points, childAlive⟩ := family.of_child alive member
  obtain ⟨up, found, -, holders⟩ := family.one_parent childAlive notInit
  rw [Option.some.inj (found.symm.trans points)] at holders
  by_cases atTask : holder = task
  · rw [atTask, Function.update_self, List.count_erase_self, holders, if_pos rfl]
  · rw [Function.update_of_ne atTask, holders, if_neg atTask]

end Family

end ProcessTable

namespace Kernel

open ProcessTable TaskHeap

variable {k : Kernel}

theorem Invariant.strongCount_reaped (inv : Invariant k) {task idx child : Nat} {pid : Int}
    (current : k.current = some task)
    (found : findZombie k.tasks task pid 0 (k.tasks.childrenOf task) = .ok (some (idx, child))) :
    (removeChild k task idx).strongCount child = 0 := by
  obtain ⟨-, member, zombie, -, notTask, erased⟩ := findZombie_eq_some _ 0 idx child found
  rw [Nat.sub_zero] at erased
  have alive := alive_of_status (inv.scheduled.current_running task current)
  have zombieStatus := isZombie_iff.mp zombie
  have notInit := (inv.family.of_child alive member).1
  have unqueued : k.readyQueue.count child = 0 := List.count_eq_zero.mpr fun queued => by
    have ready := inv.scheduled.queued_ready child queued
    rw [zombieStatus] at ready
    cases ready
  have idle : k.current ≠ some child := fun running => by
    rw [current] at running
    exact notTask (Option.some.inj running).symm
  have unheld : ∀ holder,
      ((k.tasks.modifyChildren task (·.eraseIdx idx)).childrenOf holder).count child = 0 :=
    fun holder => by
      rw [childrenOf_eraseIdx _ (statusOf_ne_none.mp alive) erased]
      exact inv.family.count_erase alive member holder
  unfold strongCount
  dsimp only [removeChild]
  rw [unqueued, Finset.sum_eq_zero fun holder _ => unheld holder]
  simp only [idle, notInit, if_false, Nat.add_zero]

theorem Invariant.sysWaitpid_ok (inv : Invariant k) {task : Nat} (current : k.current = some task)
    (pid : Int) : ∃ answer, sysWaitpid k pid = .ok answer := by
  have alive := alive_of_status (inv.scheduled.current_running task current)
  unfold sysWaitpid
  rw [current]
  simp only
  split
  · exact ⟨_, rfl⟩
  · obtain ⟨found, search⟩ :=
      findZombie_ok (k.tasks.childrenOf task) 0 (inv.family.not_own_child alive)
    rw [search]
    rcases found with _ | ⟨idx, child⟩
    · exact ⟨_, rfl⟩
    · obtain ⟨-, -, zombie, -, notTask, -⟩ := findZombie_eq_some _ 0 idx child search
      obtain ⟨pidAllocator, freed, -⟩ := inv.dealloc_zombie (isZombie_iff.mp zombie)
      refine ⟨_, reapZombie_eq_ok.mpr ⟨?_, pidAllocator, ?_, rfl, rfl, rfl⟩⟩
      · rw [inv.strongCount_reaped current search, if_neg notTask]
      · dsimp only [removeChild]
        rw [getpid_modifyChildren]
        exact freed

/-- What the process table guarantees between calls, in the kernel's own terms. -/
structure SchedulerContract (k : Kernel) : Prop where
  /-- A Ready task is queued once and is not current. -/
  ready_queued : ∀ task, k.tasks.statusOf task = some .ready →
    k.readyQueue.count task = 1 ∧ k.current ≠ some task
  /-- The current task is Running and not queued. -/
  current_running : ∀ task, k.current = some task →
    k.tasks.statusOf task = some .running ∧ task ∉ k.readyQueue
  /-- A zombie is neither queued nor current. -/
  zombie_idle : ∀ task, k.tasks.statusOf task = some .zombie →
    task ∉ k.readyQueue ∧ k.current ≠ some task
  /-- A live task other than `INITPROC` is in the children vector of the live task its
  parent points to, once, and in no other. -/
  one_parent : ∀ task, k.tasks task ≠ none → task ≠ initproc →
    ∃ up, k.tasks.parentOf task = some up ∧ k.tasks up ≠ none ∧
      ∀ holder, (k.tasks.childrenOf holder).count task = if holder = up then 1 else 0
  initproc_orphan : ∀ holder, initproc ∉ k.tasks.childrenOf holder
  pids_distinct : ∀ task other number, k.tasks.pidOf task = some number →
    k.tasks.pidOf other = some number → task = other
  /-- The zombie that `sys_waitpid` removes has no other strong reference. -/
  reaped_unreferenced : ∀ task idx child (pid : Int), k.current = some task →
    findZombie k.tasks task pid 0 (k.tasks.childrenOf task) = .ok (some (idx, child)) →
      (removeChild k task idx).strongCount child = 0
  waitpid_returns : ∀ task (pid : Int), k.current = some task →
    ∃ answer, sysWaitpid k pid = .ok answer

theorem Invariant.contract (inv : Invariant k) : SchedulerContract k where
  ready_queued task ready := by
    refine ⟨inv.scheduled.ready_once task ready, fun running => ?_⟩
    rw [inv.scheduled.current_running task running] at ready
    cases ready
  current_running task running :=
    ⟨inv.scheduled.current_running task running, inv.scheduled.current_not_queued running⟩
  zombie_idle task zombie := by
    refine ⟨fun queued => ?_, fun running => ?_⟩
    · rw [inv.scheduled.queued_ready task queued] at zombie
      cases zombie
    · rw [inv.scheduled.current_running task running] at zombie
      cases zombie
  one_parent task alive notInit := by
    obtain ⟨up, found, upAlive, holders⟩ :=
      inv.family.one_parent (statusOf_ne_none.mpr alive) notInit
    exact ⟨up, found, statusOf_ne_none.mp upAlive, holders⟩
  initproc_orphan := inv.family.initproc_orphan
  pids_distinct := inv.pids.unique
  reaped_unreferenced _ _ _ _ current found := inv.strongCount_reaped current found
  waitpid_returns _ pid current := inv.sysWaitpid_ok current pid

/-- Over every run of the scheduler and the process syscalls from `add_initproc()`, the
process table keeps its contract. -/
theorem process_table_invariant {k : Kernel} (reached : Transition.Reachable Step init k) :
    SchedulerContract k :=
  (reachable_invariant reached).contract

/-- The run of `forktest` in miniature: `INITPROC` forks, the child exits with code 7, and
`sys_waitpid` reaps it. -/
theorem process_table_invariant_forktest :
    ∃ k, Transition.Reachable Step init k ∧ k.tasks.childrenOf initproc = [] ∧
      k.tasks.statusOf 1 = none ∧ SchedulerContract k := by
  obtain ⟨k, reached, reaped, freed⟩ : ∃ k, Transition.Reachable Step init k ∧
      k.tasks.childrenOf initproc = [] ∧ k.tasks.statusOf 1 = none :=
    ⟨_, .step (.step (.step (.step (.step (.step (.step .init (.runTasks rfl)) (.fork rfl))
      (.suspend rfl)) (.runTasks rfl)) (.exit 7 rfl)) (.runTasks rfl)) (.waitpid (-1) rfl), rfl, rfl⟩
  exact ⟨k, reached, reaped, freed, process_table_invariant reached⟩

end Kernel

end ChOs
