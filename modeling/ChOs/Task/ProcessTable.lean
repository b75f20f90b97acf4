import ChOs.Task.Scheduler
import ChOs.Library.Transition

set_option autoImplicit false

/- The process table as the rest of the kernel sees it, and what each call does to it. -/

namespace ChOs

namespace ProcessTable

/-- The queue holds Ready tasks, each Ready task once, and the current task is the one
Running task. -/
structure Scheduled (status : Nat → Option TaskStatus) (queue : List Nat) (current : Option Nat) :
    Prop where
  queued_ready : ∀ task ∈ queue, status task = some .ready
  ready_once : ∀ task, status task = some .ready → queue.count task = 1
  current_running : ∀ task, current = some task → status task = some .running
  running_current : ∀ task, status task = some .running → current = some task

/-- The process tree: `INITPROC` lives and is no zombie; every other live TCB has a live
parent other than itself, whose children vector holds it once, and no other vector holds
it; `INITPROC` and freed TCBs are nobody's children, zombies have none, and a freed TCB
has no fields. -/
structure Family (status : Nat → Option TaskStatus) (parent : Nat → Option Nat)
    (children : Nat → List Nat) : Prop where
  initproc_alive : status initproc ≠ none
  initproc_not_zombie : status initproc ≠ some .zombie
  parent_alive : ∀ task, status task ≠ none → task ≠ initproc →
    ∃ up, parent task = some up ∧ up ≠ task ∧ status up ≠ none
  children_count : ∀ holder task, status holder ≠ none →
    (children holder).count task = if task ≠ initproc ∧ parent task = some holder then 1 else 0
  zombie_childless : ∀ task, status task = some .zombie → children task = []
  freed : ∀ task, status task = none → parent task = none ∧ children task = []

/-- The PIDs of the live TCBs are distinct and accounted for by the allocator. -/
structure Pids (pid : Nat → Option Nat) (allocator : PidAllocator) : Prop where
  accounts : allocator.Accounts fun number => ∃ task, pid task = some number
  unique : ∀ task other number, pid task = some number → pid other = some number → task = other

/-- No TCB lives at or above the next identity `Arc::new` hands out. -/
def Bounded (status : Nat → Option TaskStatus) (nextTask : Nat) : Prop :=
  ∀ task, nextTask ≤ task → status task = none

section Scheduled

variable {status : Nat → Option TaskStatus} {queue : List Nat} {current : Option Nat}

theorem Scheduled.current_not_queued (scheduled : Scheduled status queue current) {task : Nat}
    (running : current = some task) : task ∉ queue := fun queued => by
  have both := scheduled.current_running task running
  rw [scheduled.queued_ready task queued] at both
  cases both

theorem Scheduled.fetch {task : Nat} {rest : List Nat} (scheduled : Scheduled status (task :: rest) none) :
    Scheduled (Function.update status task (some .running)) rest (some task) := by
  have ready := scheduled.queued_ready task List.mem_cons_self
  have once := scheduled.ready_once task ready
  rw [List.count_cons_self] at once
  have gone : task ∉ rest := fun member => by
    have := List.count_pos_iff.mpr member
    omega
  refine ⟨fun other member => ?_, fun other otherReady => ?_, fun other current => ?_,
    fun other running => ?_⟩
  · rw [Function.update_of_ne fun (same : other = task) => gone (same ▸ member)]
    exact scheduled.queued_ready other (List.mem_cons_of_mem task member)
  · by_cases same : other = task
    · rw [same, Function.update_self] at otherReady
      cases otherReady
    · rw [Function.update_of_ne same] at otherReady
      have counted := scheduled.ready_once other otherReady
      rwa [List.count_cons_of_ne (Ne.symm same)] at counted
  · cases current
    rw [Function.update_self]
  · by_cases same : other = task
    · rw [same]
    · rw [Function.update_of_ne same] at running
      cases scheduled.running_current other running

theorem Scheduled.suspend {task : Nat} (scheduled : Scheduled status queue (some task)) :
    Scheduled (Function.update status task (some .ready)) (queue ++ [task]) none := by
  have gone := scheduled.current_not_queued rfl
  refine ⟨fun other member => ?_, fun other otherReady => ?_, fun other current => ?_,
    fun other otherRunning => ?_⟩
  · rcases List.mem_append.mp member with queued | last
    · rw [Function.update_of_ne fun (same : other = task) => gone (same ▸ queued)]
      exact scheduled.queued_ready other queued
    · rw [List.mem_singleton.mp last, Function.update_self]
  · rw [List.count_append]
    by_cases same : other = task
    · rw [same, List.count_eq_zero_of_not_mem gone, List.count_singleton_self]
    · rw [Function.update_of_ne same] at otherReady
      rw [scheduled.ready_once other otherReady, List.count_singleton,
        if_neg (by simpa using Ne.symm same)]
  · cases current
  · by_cases same : other = task
    · rw [same, Function.update_self] at otherRunning
      cases otherRunning
    · rw [Function.update_of_ne same] at otherRunning
      exact absurd (Option.some.inj (scheduled.running_current other otherRunning)).symm same

theorem Scheduled.retire {task : Nat} (scheduled : Scheduled status queue (some task)) :
    Scheduled (Function.update status task (some .zombie)) queue none := by
  have gone := scheduled.current_not_queued rfl
  refine ⟨fun other member => ?_, fun other otherReady => ?_, fun other current => ?_,
    fun other otherRunning => ?_⟩
  · rw [Function.update_of_ne fun (same : other = task) => gone (same ▸ member)]
    exact scheduled.queued_ready other member
  · by_cases same : other = task
    · rw [same, Function.update_self] at otherReady
      cases otherReady
    · rw [Function.update_of_ne same] at otherReady
      exact scheduled.ready_once other otherReady
  · cases current
  · by_cases same : other = task
    · rw [same, Function.update_self] at otherRunning
      cases otherRunning
    · rw [Function.update_of_ne same] at otherRunning
      exact absurd (Option.some.inj (scheduled.running_current other otherRunning)).symm same

theorem Scheduled.spawn {child : Nat} (scheduled : Scheduled status queue current)
    (fresh : status child = none) :
    Scheduled (Function.update status child (some .ready)) (queue ++ [child]) current := by
  have gone : child ∉ queue := fun queued => by
    rw [scheduled.queued_ready child queued] at fresh
    cases fresh
  refine ⟨fun other member => ?_, fun other otherReady => ?_, fun other isCurrent => ?_,
    fun other otherRunning => ?_⟩
  · rcases List.mem_append.mp member with queued | last
    · rw [Function.update_of_ne fun (same : other = child) => gone (same ▸ queued)]
      exact scheduled.queued_ready other queued
    · rw [List.mem_singleton.mp last, Function.update_self]
  · rw [List.count_append]
    by_cases same : other = child
    · rw [same, List.count_eq_zero_of_not_mem gone, List.count_singleton_self]
    · rw [Function.update_of_ne same] at otherReady
      rw [scheduled.ready_once other otherReady, List.count_singleton,
        if_neg (by simpa using Ne.symm same)]
  · have running := scheduled.current_running other isCurrent
    have apart : other ≠ child := fun same => by
      rw [same, fresh] at running
      cases running
    rw [Function.update_of_ne apart]
    exact running
  · by_cases same : other = child
    · rw [same, Function.update_self] at otherRunning
      cases otherRunning
    · rw [Function.update_of_ne same] at otherRunning
      exact scheduled.running_current other otherRunning

theorem Scheduled.reap {child : Nat} (scheduled : Scheduled status queue current)
    (zombie : status child = some .zombie) :
    Scheduled (Function.update status child none) queue current := by
  have apart : ∀ other, status other = some .ready ∨ status other = some .running → other ≠ child :=
    fun other live same => by
      rw [same, zombie] at live
      rcases live with impossible | impossible <;> cases impossible
  refine ⟨fun other member => ?_, fun other otherReady => ?_, fun other isCurrent => ?_,
    fun other otherRunning => ?_⟩
  · have ready := scheduled.queued_ready other member
    rw [Function.update_of_ne (apart other (.inl ready))]
    exact ready
  · by_cases same : other = child
    · rw [same, Function.update_self] at otherReady
      cases otherReady
    · rw [Function.update_of_ne same] at otherReady
      exact scheduled.ready_once other otherReady
  · have running := scheduled.current_running other isCurrent
    rw [Function.update_of_ne (apart other (.inr running))]
    exact running
  · by_cases same : other = child
    · rw [same, Function.update_self] at otherRunning
      cases otherRunning
    · rw [Function.update_of_ne same] at otherRunning
      exact scheduled.running_current other otherRunning

end Scheduled

section Family

variable {status : Nat → Option TaskStatus} {parent : Nat → Option Nat} {children : Nat → List Nat}

theorem Family.of_child (family : Family status parent children) {holder task : Nat}
    (holderAlive : status holder ≠ none) (member : task ∈ children holder) :
    task ≠ initproc ∧ parent task = some holder ∧ status task ≠ none := by
  have counted := family.children_count holder task holderAlive
  have positive := List.count_pos_iff.mpr member
  split at counted
  · rename_i child
    refine ⟨child.1, child.2, fun freed => ?_⟩
    have orphan := (family.freed task freed).1
    rw [child.2] at orphan
    cases orphan
  · omega

theorem Family.count_of_child (family : Family status parent children) {holder task : Nat}
    (holderAlive : status holder ≠ none) (member : task ∈ children holder) :
    (children holder).count task = 1 := by
  obtain ⟨notInit, up, _⟩ := family.of_child holderAlive member
  rw [family.children_count holder task holderAlive, if_pos ⟨notInit, up⟩]

theorem Family.not_own_child (family : Family status parent children) {task : Nat}
    (alive : status task ≠ none) : task ∉ children task := fun member => by
  obtain ⟨notInit, up, _⟩ := family.of_child alive member
  obtain ⟨other, found, apart, _⟩ := family.parent_alive task alive notInit
  rw [up] at found
  exact apart (Option.some.inj found).symm

theorem Family.of_status {next : Nat → Option TaskStatus} (family : Family status parent children)
    (alive : ∀ task, next task = none ↔ status task = none)
    (zombies : ∀ task, next task = some .zombie ↔ status task = some .zombie) :
    Family next parent children := by
  have living : ∀ task, next task ≠ none ↔ status task ≠ none := fun task => not_congr (alive task)
  refine ⟨(living initproc).mpr family.initproc_alive,
    fun zombie => family.initproc_not_zombie ((zombies initproc).mp zombie), ?_, ?_, ?_, ?_⟩
  · intro task isAlive notInit
    obtain ⟨up, found, apart, upAlive⟩ := family.parent_alive task ((living task).mp isAlive) notInit
    exact ⟨up, found, apart, (living up).mpr upAlive⟩
  · intro holder task isAlive
    exact family.children_count holder task ((living holder).mp isAlive)
  · intro task zombie
    exact family.zombie_childless task ((zombies task).mp zombie)
  · intro task freed
    exact family.freed task ((alive task).mp freed)

theorem Family.restatus (family : Family status parent children) {task : Nat}
    (alive : status task ≠ none) (was : status task ≠ some .zombie) {now : TaskStatus}
    (notZombie : now ≠ .zombie) : Family (Function.update status task (some now)) parent children := by
  refine family.of_status (fun other => ?_) (fun other => ?_)
  · by_cases same : other = task
    · rw [same, Function.update_self]
      exact ⟨fun impossible => (by cases impossible), fun freed => absurd freed alive⟩
    · rw [Function.update_of_ne same]
  · by_cases same : other = task
    · rw [same, Function.update_self]
      exact ⟨fun zombie => absurd (Option.some.inj zombie) notZombie, fun zombie => absurd zombie was⟩
    · rw [Function.update_of_ne same]

theorem Family.retire (family : Family status parent children) {task : Nat}
    (alive : status task ≠ none) (notInit : task ≠ initproc) :
    Family (Function.update status task (some .zombie))
      (fun other => if other ∈ children task then some initproc else parent other)
      (Function.update (Function.update children initproc (children initproc ++ children task))
        task []) := by
  have living : ∀ other, Function.update status task (some .zombie) other ≠ none ↔
      status other ≠ none := fun other => by
    by_cases same : other = task
    · rw [same, Function.update_self]
      exact ⟨fun _ => alive, fun _ impossible => by cases impossible⟩
    · rw [Function.update_of_ne same]
  refine ⟨?_, ?_, ?_, ?_, ?_, ?_⟩
  · rw [Function.update_of_ne (Ne.symm notInit)]
    exact family.initproc_alive
  · rw [Function.update_of_ne (Ne.symm notInit)]
    exact family.initproc_not_zombie
  · intro other isAlive otherNotInit
    by_cases member : other ∈ children task
    · rw [if_pos member]
      exact ⟨initproc, rfl, Ne.symm otherNotInit, (living initproc).mpr family.initproc_alive⟩
    · rw [if_neg member]
      obtain ⟨up, found, apart, upAlive⟩ :=
        family.parent_alive other ((living other).mp isAlive) otherNotInit
      exact ⟨up, found, apart, (living up).mpr upAlive⟩
  · intro holder other holderAlive
    have old := (living holder).mp holderAlive
    by_cases atTask : holder = task
    · rw [atTask, Function.update_self, List.count_nil, if_neg]
      rintro ⟨otherNotInit, points⟩
      split at points
      · exact notInit (Option.some.inj points).symm
      · rename_i member
        have counted := family.children_count task other alive
        rw [if_pos ⟨otherNotInit, points⟩] at counted
        exact member (List.count_pos_iff.mp (by omega))
    · rw [Function.update_of_ne atTask]
      by_cases atInit : holder = initproc
      · rw [atInit, Function.update_self, List.count_append]
        by_cases member : other ∈ children task
        · obtain ⟨otherNotInit, points, _⟩ := family.of_child alive member
          have notInits : (children initproc).count other = 0 := by
            rw [family.children_count initproc other family.initproc_alive, if_neg]
            rintro ⟨_, pointsInit⟩
            rw [points] at pointsInit
            exact notInit (Option.some.inj pointsInit)
          rw [notInits, family.count_of_child alive member, if_pos member,
            if_pos ⟨otherNotInit, rfl⟩]
        · rw [List.count_eq_zero_of_not_mem member, Nat.add_zero, if_neg member]
          exact family.children_count initproc other family.initproc_alive
      · rw [Function.update_of_ne atInit, family.children_count holder other old]
        by_cases member : other ∈ children task
        · obtain ⟨_, points, _⟩ := family.of_child alive member
          rw [if_pos member, points,
            if_neg fun ⟨_, same⟩ => atTask (Option.some.inj same).symm,
            if_neg fun ⟨_, same⟩ => atInit (Option.some.inj same).symm]
        · rw [if_neg member]
  · intro other zombie
    by_cases atTask : other = task
    · rw [atTask, Function.update_self]
    · rw [Function.update_of_ne atTask] at zombie ⊢
      have atInit : other ≠ initproc := fun same => family.initproc_not_zombie (same ▸ zombie)
      rw [Function.update_of_ne atInit]
      exact family.zombie_childless other zombie
  · intro other freed
    have atTask : other ≠ task := fun same => by
      rw [same, Function.update_self] at freed
      cases freed
    rw [Function.update_of_ne atTask] at freed
    have member : other ∉ children task := fun member => (family.of_child alive member).2.2 freed
    have atInit : other ≠ initproc := fun same => family.initproc_alive (same ▸ freed)
    rw [if_neg member, Function.update_of_ne atTask, Function.update_of_ne atInit]
    exact family.freed other freed

theorem Family.spawn (family : Family status parent children) {task child : Nat}
    (alive : status task ≠ none) (was : status task ≠ some .zombie) (fresh : status child = none)
    (now : TaskStatus) :
    Family (Function.update status child (some now)) (Function.update parent child (some task))
      (Function.update children task (children task ++ [child])) := by
  have apart : task ≠ child := fun same => alive (same ▸ fresh)
  have childNotInit : child ≠ initproc := fun same => family.initproc_alive (same ▸ fresh)
  obtain ⟨orphan, childless⟩ := family.freed child fresh
  have noneBelow : ∀ other, other ≠ initproc → parent other ≠ some child := fun other notInit below => by
    by_cases otherAlive : status other = none
    · rw [(family.freed other otherAlive).1] at below
      cases below
    · obtain ⟨up, found, _, upAlive⟩ := family.parent_alive other otherAlive notInit
      rw [below] at found
      exact upAlive ((Option.some.inj found) ▸ fresh)
  refine ⟨?_, ?_, ?_, ?_, ?_, ?_⟩
  · rw [Function.update_of_ne (Ne.symm childNotInit)]
    exact family.initproc_alive
  · rw [Function.update_of_ne (Ne.symm childNotInit)]
    exact family.initproc_not_zombie
  · intro other isAlive otherNotInit
    by_cases same : other = child
    · rw [same, Function.update_self]
      exact ⟨task, rfl, apart, by rw [Function.update_of_ne apart]; exact alive⟩
    · rw [Function.update_of_ne same] at isAlive ⊢
      obtain ⟨up, found, upApart, upAlive⟩ := family.parent_alive other isAlive otherNotInit
      have upNotChild : up ≠ child := fun same => upAlive (same ▸ fresh)
      exact ⟨up, found, upApart, by rw [Function.update_of_ne upNotChild]; exact upAlive⟩
  · intro holder other holderAlive
    by_cases atChild : holder = child
    · rw [atChild, Function.update_of_ne (Ne.symm apart), childless, List.count_nil, if_neg]
      rintro ⟨otherNotInit, points⟩
      by_cases same : other = child
      · rw [same, Function.update_self] at points
        exact apart (Option.some.inj points)
      · rw [Function.update_of_ne same] at points
        exact noneBelow other otherNotInit points
    · rw [Function.update_of_ne atChild] at holderAlive
      by_cases atTask : holder = task
      · rw [atTask, Function.update_self, List.count_append]
        by_cases same : other = child
        · rw [same, Function.update_self, family.children_count task child alive, orphan,
            List.count_singleton_self, if_neg (fun ⟨_, impossible⟩ => by cases impossible),
            if_pos ⟨childNotInit, rfl⟩]
        · have notLast : other ∉ [child] := by simpa using same
          rw [Function.update_of_ne same, family.children_count task other alive,
            List.count_eq_zero_of_not_mem notLast, Nat.add_zero]
      · rw [Function.update_of_ne atTask, family.children_count holder other holderAlive]
        by_cases same : other = child
        · rw [same, Function.update_self, orphan, if_neg (fun ⟨_, impossible⟩ => by cases impossible),
            if_neg fun ⟨_, points⟩ => atTask (Option.some.inj points).symm]
        · rw [Function.update_of_ne same]
  · intro other zombie
    by_cases same : other = child
    · rw [same, Function.update_self] at zombie
      rw [same, Function.update_of_ne (Ne.symm apart), childless]
    · rw [Function.update_of_ne same] at zombie
      have notTask : other ≠ task := fun atTask => was (atTask ▸ zombie)
      rw [Function.update_of_ne notTask]
      exact family.zombie_childless other zombie
  · intro other freed
    have same : other ≠ child := fun same => by
      rw [same, Function.update_self] at freed
      cases freed
    rw [Function.update_of_ne same] at freed
    have notTask : other ≠ task := fun atTask => alive (atTask ▸ freed)
    rw [Function.update_of_ne same, Function.update_of_ne notTask]
    exact family.freed other freed

theorem Family.reap (family : Family status parent children) {task child : Nat}
    (alive : status task ≠ none) (was : status task ≠ some .zombie)
    (member : child ∈ children task) (zombie : status child = some .zombie) :
    Family (Function.update status child none) (Function.update parent child none)
      (Function.update children task ((children task).erase child)) := by
  obtain ⟨childNotInit, points, childAlive⟩ := family.of_child alive member
  have apart : task ≠ child := fun same => was (same ▸ zombie)
  have childless := family.zombie_childless child zombie
  have noneBelow : ∀ other, other ≠ initproc → parent other ≠ some child := fun other notInit below => by
    have counted := family.children_count child other childAlive
    rw [childless, List.count_nil, if_pos ⟨notInit, below⟩] at counted
    cases counted
  refine ⟨?_, ?_, ?_, ?_, ?_, ?_⟩
  · rw [Function.update_of_ne (Ne.symm childNotInit)]
    exact family.initproc_alive
  · rw [Function.update_of_ne (Ne.symm childNotInit)]
    exact family.initproc_not_zombie
  · intro other isAlive otherNotInit
    have same : other ≠ child := fun same => by
      rw [same, Function.update_self] at isAlive
      exact isAlive rfl
    rw [Function.update_of_ne same] at isAlive ⊢
    obtain ⟨up, found, upApart, upAlive⟩ := family.parent_alive other isAlive otherNotInit
    have upNotChild : up ≠ child := fun atChild => noneBelow other otherNotInit (atChild ▸ found)
    exact ⟨up, found, upApart, by rw [Function.update_of_ne upNotChild]; exact upAlive⟩
  · intro holder other holderAlive
    have atChild : holder ≠ child := fun same => by
      rw [same, Function.update_self] at holderAlive
      exact holderAlive rfl
    rw [Function.update_of_ne atChild] at holderAlive
    by_cases atTask : holder = task
    · rw [atTask, Function.update_self]
      by_cases same : other = child
      · rw [same, List.count_erase_self, family.count_of_child alive member, Function.update_self,
          if_neg (fun ⟨_, impossible⟩ => by cases impossible)]
      · rw [List.count_erase_of_ne same, Function.update_of_ne same]
        exact family.children_count task other alive
    · rw [Function.update_of_ne atTask, family.children_count holder other holderAlive]
      by_cases same : other = child
      · rw [same, Function.update_self, points,
          if_neg (fun ⟨_, found⟩ => atTask (Option.some.inj found).symm),
          if_neg (fun ⟨_, impossible⟩ => by cases impossible)]
      · rw [Function.update_of_ne same]
  · intro other otherZombie
    have same : other ≠ child := fun same => by
      rw [same, Function.update_self] at otherZombie
      cases otherZombie
    rw [Function.update_of_ne same] at otherZombie
    have notTask : other ≠ task := fun atTask => was (atTask ▸ otherZombie)
    rw [Function.update_of_ne notTask]
    exact family.zombie_childless other otherZombie
  · intro other freed
    by_cases same : other = child
    · rw [same, Function.update_self, Function.update_of_ne (Ne.symm apart)]
      exact ⟨rfl, childless⟩
    · rw [Function.update_of_ne same] at freed
      have notTask : other ≠ task := fun atTask => alive (atTask ▸ freed)
      rw [Function.update_of_ne same, Function.update_of_ne notTask]
      exact family.freed other freed

end Family

section Pids

variable {pid : Nat → Option Nat} {allocator : PidAllocator}

theorem Pids.spawn (pids : Pids pid allocator) {child number : Nat} {next : PidAllocator}
    (fresh : pid child = none) (call : allocator.alloc = (number, next)) :
    Pids (Function.update pid child (some number)) next := by
  obtain ⟨unheld, accounts⟩ := pids.accounts.alloc call
  have found : ∀ task other, Function.update pid child (some number) task = some other →
      (task = child ∧ other = number) ∨ (task ≠ child ∧ pid task = some other) := fun task other held => by
    by_cases same : task = child
    · rw [same, Function.update_self] at held
      exact .inl ⟨same, (Option.some.inj held).symm⟩
    · rw [Function.update_of_ne same] at held
      exact .inr ⟨same, held⟩
  refine ⟨accounts.congr fun other => ⟨?_, ?_⟩, ?_⟩
  · rintro ⟨task, held⟩
    rcases found task other held with ⟨_, rfl⟩ | ⟨_, old⟩
    · exact .inr rfl
    · exact .inl ⟨task, old⟩
  · rintro (⟨task, held⟩ | rfl)
    · have apart : task ≠ child := fun same => by
        rw [same, fresh] at held
        cases held
      exact ⟨task, by rw [Function.update_of_ne apart]; exact held⟩
    · exact ⟨child, Function.update_self child _ pid⟩
  · intro task other shared held heldOther
    rcases found task shared held with ⟨rfl, rfl⟩ | ⟨_, old⟩ <;>
      rcases found other _ heldOther with ⟨rfl, same⟩ | ⟨_, oldOther⟩
    · rfl
    · exact absurd ⟨other, oldOther⟩ unheld
    · exact absurd ⟨task, same ▸ old⟩ unheld
    · exact pids.unique task other shared old oldOther

theorem Pids.reap (pids : Pids pid allocator) {child number : Nat} (found : pid child = some number) :
    ∃ next, allocator.dealloc number = .ok next ∧ Pids (Function.update pid child none) next := by
  have older : ∀ task other, Function.update pid child none task = some other →
      task ≠ child ∧ pid task = some other := fun task other held => by
    have apart : task ≠ child := fun same => by
      rw [same, Function.update_self] at held
      cases held
    rw [Function.update_of_ne apart] at held
    exact ⟨apart, held⟩
  have released : ∀ other, (∃ task, Function.update pid child none task = some other) →
      (∃ task, pid task = some other) ∧ other ≠ number := by
    rintro other ⟨task, held⟩
    obtain ⟨apart, old⟩ := older task other held
    exact ⟨⟨task, old⟩, fun same => apart (pids.unique task child number (same ▸ old) found)⟩
  obtain ⟨next, call, accounts⟩ := pids.accounts.dealloc ⟨child, found⟩ released
  refine ⟨next, call, accounts, fun task other shared held heldOther => ?_⟩
  exact pids.unique task other shared (older task shared held).2 (older other shared heldOther).2

end Pids

section Bounded

variable {status : Nat → Option TaskStatus} {nextTask : Nat}

theorem Bounded.restatus (bounded : Bounded status nextTask) {task : Nat} (alive : status task ≠ none)
    (now : Option TaskStatus) : Bounded (Function.update status task now) nextTask := by
  intro other above
  have apart : other ≠ task := fun same => alive (bounded task (same ▸ above))
  rw [Function.update_of_ne apart]
  exact bounded other above

theorem Bounded.spawn (bounded : Bounded status nextTask) (now : TaskStatus) :
    Bounded (Function.update status nextTask (some now)) (nextTask + 1) := by
  intro other above
  rw [Function.update_of_ne (by omega)]
  exact bounded other (by omega)

theorem Bounded.reap (bounded : Bounded status nextTask) (child : Nat) :
    Bounded (Function.update status child none) nextTask := by
  intro other above
  by_cases same : other = child
  · rw [same, Function.update_self]
  · rw [Function.update_of_ne same]
    exact bounded other above

end Bounded

end ProcessTable

namespace Kernel

open ProcessTable TaskHeap

/-- The invariant of the kernel's process table, read through its views. -/
structure Invariant (k : Kernel) : Prop where
  scheduled : Scheduled k.tasks.statusOf k.readyQueue k.current
  family : Family k.tasks.statusOf k.tasks.parentOf k.tasks.childrenOf
  pids : Pids k.tasks.pidOf k.pidAllocator
  bounded : Bounded k.tasks.statusOf k.nextTask

theorem alive_of_status {tasks : TaskHeap} {task : Nat} {status : TaskStatus}
    (found : tasks.statusOf task = some status) : tasks.statusOf task ≠ none := by
  rw [found]
  exact Option.some_ne_none _

theorem init_invariant : Invariant init := by
  have status : init.tasks.statusOf = Function.update (fun _ => none) initproc (some .ready) :=
    statusOf_insert _ _ _
  have parents : init.tasks.parentOf = Function.update (fun _ => none) initproc none :=
    parentOf_insert _ _ _
  have children : init.tasks.childrenOf = Function.update (fun _ => []) initproc [] :=
    childrenOf_insert _ _ _
  have pids : init.tasks.pidOf = Function.update (fun _ => none) initproc (some 0) :=
    pidOf_insert _ _ _
  have alone : ∀ task, task ≠ initproc → init.tasks.statusOf task = none := fun task apart => by
    rw [status, Function.update_of_ne apart]
  have childless : ∀ holder, init.tasks.childrenOf holder = [] := fun holder => by
    rw [children, Function.update_apply]
    split <;> rfl
  have orphan : ∀ task, init.tasks.parentOf task = none := fun task => by
    rw [parents, Function.update_apply]
    split <;> rfl
  have pidZero : ∀ task number, init.tasks.pidOf task = some number → task = initproc ∧ number = 0 :=
    fun task number found => by
      rw [pids, Function.update_apply] at found
      split at found
      · rename_i same
        exact ⟨same, (Option.some.inj found).symm⟩
      · cases found
  refine ⟨⟨?_, ?_, ?_, ?_⟩, ⟨?_, ?_, ?_, ?_, ?_, ?_⟩, ⟨⟨?_, ?_, ?_, ?_⟩, ?_⟩, ?_⟩
  · intro task queued
    rw [List.mem_singleton.mp queued, status, Function.update_self]
  · intro task ready
    by_cases same : task = initproc
    · rw [same]
      rfl
    · rw [alone task same] at ready
      cases ready
  · intro task current
    cases current
  · intro task running
    by_cases same : task = initproc
    · rw [same, status, Function.update_self] at running
      cases running
    · rw [alone task same] at running
      cases running
  · rw [status, Function.update_self]
    exact Option.some_ne_none _
  · rw [status, Function.update_self]
    exact fun impossible => by cases impossible
  · intro task alive notInit
    exact absurd (alone task notInit) alive
  · intro holder task _
    rw [childless, orphan, List.count_nil, if_neg (fun ⟨_, impossible⟩ => by cases impossible)]
  · intro task zombie
    by_cases same : task = initproc
    · rw [same, status, Function.update_self] at zombie
      cases zombie
    · rw [alone task same] at zombie
      cases zombie
  · intro task _
    exact ⟨orphan task, childless task⟩
  · rintro number ⟨task, found⟩
    rw [(pidZero task number found).2]
    decide
  · rintro number ⟨task, found⟩
    exact List.not_mem_nil
  · intro number member
    cases member
  · exact List.nodup_nil
  · intro task other number found foundOther
    rw [(pidZero task number found).1, (pidZero other number foundOther).1]
  · intro task above
    exact alone task (Nat.ne_of_gt above)

section Calls

variable {k next : Kernel} (inv : Invariant k)
include inv

theorem Invariant.runTasks (idle : k.current = none) : Invariant (runTasks k) := by
  cases queue : k.readyQueue with
  | nil =>
      rw [runTasks_of_nil queue]
      exact inv
  | cons task rest =>
      have scheduled := inv.scheduled
      rw [queue, idle] at scheduled
      have ready := scheduled.queued_ready task List.mem_cons_self
      have alive := alive_of_status ready
      have status := statusOf_setStatus k.tasks (statusOf_ne_none.mp alive) .running
      rw [runTasks_of_cons queue]
      refine ⟨?_, ?_, ?_, ?_⟩ <;> dsimp only
      · rw [status]
        exact scheduled.fetch
      · rw [status, parentOf_setStatus, childrenOf_setStatus]
        exact inv.family.restatus alive (by rw [ready]; decide) (by decide)
      · rw [pidOf_setStatus]
        exact inv.pids
      · rw [status]
        exact inv.bounded.restatus alive _

theorem Invariant.suspend (call : suspendCurrentAndRunNext k = .ok next) : Invariant next := by
  obtain ⟨task, current, rfl⟩ := suspendCurrentAndRunNext_eq_ok.mp call
  have scheduled := inv.scheduled
  rw [current] at scheduled
  have running := scheduled.current_running task rfl
  have alive := alive_of_status running
  have status := statusOf_setStatus k.tasks (statusOf_ne_none.mp alive) .ready
  refine ⟨?_, ?_, ?_, ?_⟩ <;> dsimp only
  · rw [status]
    exact scheduled.suspend
  · rw [status, parentOf_setStatus, childrenOf_setStatus]
    exact inv.family.restatus alive (by rw [running]; decide) (by decide)
  · rw [pidOf_setStatus]
    exact inv.pids
  · rw [status]
    exact inv.bounded.restatus alive _

theorem Invariant.exit {exitCode : Int} (call : exitCurrentAndRunNext k exitCode = .ok next) :
    Invariant next := by
  obtain ⟨task, tasks, current, notInit, loop, rfl⟩ := exitCurrentAndRunNext_eq_ok.mp call
  have scheduled := inv.scheduled
  rw [current] at scheduled
  have running := scheduled.current_running task rfl
  have alive := alive_of_status running
  let marked := (k.tasks.setStatus task .zombie).setExitCode task exitCode
  have markedStatus : marked.statusOf = Function.update k.tasks.statusOf task (some .zombie) := by
    rw [statusOf_setExitCode, statusOf_setStatus _ (statusOf_ne_none.mp alive)]
  have markedAlive : ∀ other, marked other ≠ none ↔ k.tasks other ≠ none := fun other => by
    rw [← statusOf_ne_none, ← statusOf_ne_none, markedStatus]
    by_cases same : other = task
    · rw [same, Function.update_self]
      exact ⟨fun _ => alive, fun _ => Option.some_ne_none _⟩
    · rw [Function.update_of_ne same]
  have guard : ∀ child ∈ k.tasks.childrenOf task,
      child ≠ task ∧ child ≠ initproc ∧ marked child ≠ none := fun child member => by
    obtain ⟨childNotInit, _, childAlive⟩ := inv.family.of_child alive member
    exact ⟨fun same => inv.family.not_own_child alive (same ▸ member), childNotInit,
      (markedAlive child).mpr (statusOf_ne_none.mp childAlive)⟩
  obtain ⟨reparented, loop', after⟩ := reparentChildren_ok (k.tasks.childrenOf task) marked
    ((markedAlive initproc).mpr (statusOf_ne_none.mp inv.family.initproc_alive)) guard
  rw [loop] at loop'
  cases loop'
  have tasksAlive : tasks task ≠ none := by
    rw [← statusOf_ne_none, after.statusOf, markedStatus, Function.update_self]
    exact Option.some_ne_none _
  refine ⟨?_, ?_, ?_, ?_⟩ <;> dsimp only
  · rw [statusOf_modifyChildren, after.statusOf, markedStatus]
    exact scheduled.retire
  · rw [statusOf_modifyChildren, after.statusOf, markedStatus, parentOf_modifyChildren,
      after.parentOf, parentOf_setExitCode, parentOf_setStatus,
      childrenOf_modifyChildren _ tasksAlive, after.childrenOf, childrenOf_setExitCode,
      childrenOf_setStatus]
    exact inv.family.retire alive notInit
  · rw [pidOf_modifyChildren, after.pidOf, pidOf_setExitCode, pidOf_setStatus]
    exact inv.pids
  · rw [statusOf_modifyChildren, after.statusOf, markedStatus]
    exact inv.bounded.restatus alive _

theorem Invariant.fork {pid : Int} (call : sysFork k = .ok (next, pid)) : Invariant next := by
  obtain ⟨task, current, rfl, -⟩ := sysFork_eq_ok.mp call
  have running := inv.scheduled.current_running task current
  have alive := alive_of_status running
  have was : k.tasks.statusOf task ≠ some .zombie := by rw [running]; decide
  have fresh : k.tasks.statusOf k.nextTask = none := inv.bounded k.nextTask (Nat.le_refl _)
  have apart : task ≠ k.nextTask := fun same => alive (same ▸ fresh)
  have childless := (inv.family.freed _ fresh).2
  let created := k.tasks.insert k.nextTask ⟨k.pidAllocator.alloc.1, .ready, some task, [], 0⟩
  have createdAlive : created task ≠ none := by
    rw [← statusOf_ne_none, statusOf_insert, Function.update_of_ne apart]
    exact alive
  have kept : Function.update k.tasks.childrenOf k.nextTask [] = k.tasks.childrenOf := by
    rw [← childless]
    exact Function.update_eq_self _ _
  refine ⟨?_, ?_, ?_, ?_⟩ <;> dsimp only [fork, addTask]
  · rw [statusOf_modifyChildren, statusOf_insert]
    exact inv.scheduled.spawn fresh
  · rw [statusOf_modifyChildren, statusOf_insert, parentOf_modifyChildren, parentOf_insert,
      childrenOf_modifyChildren _ createdAlive, childrenOf_insert, kept]
    exact inv.family.spawn alive was fresh .ready
  · rw [pidOf_modifyChildren, pidOf_insert]
    exact inv.pids.spawn (pidOf_eq_none.mpr (statusOf_eq_none.mp fresh)) rfl
  · rw [statusOf_modifyChildren, statusOf_insert]
    exact inv.bounded.spawn .ready

theorem Invariant.dealloc_zombie {child : Nat} (zombie : k.tasks.statusOf child = some .zombie) :
    ∃ pidAllocator, k.pidAllocator.dealloc (k.tasks.getpid child) = .ok pidAllocator ∧
      Pids (Function.update k.tasks.pidOf child none) pidAllocator := by
  obtain ⟨number, pidFound⟩ := Option.ne_none_iff_exists'.mp
    (fun none => statusOf_ne_none.mp (alive_of_status zombie) (pidOf_eq_none.mp none))
  obtain ⟨pidAllocator, call, pids⟩ := inv.pids.reap pidFound
  refine ⟨pidAllocator, ?_, pids⟩
  rw [getpid, pidFound, Option.getD_some]
  exact call

theorem Invariant.waitpid {pid result : Int} {exitCode : Option Int}
    (call : sysWaitpid k pid = .ok (next, result, exitCode)) : Invariant next := by
  rcases sysWaitpid_eq_ok call with rfl | ⟨task, idx, child, current, found, reaped⟩
  · exact inv
  obtain ⟨-, member, zombie, -, notTask, erased⟩ := findZombie_eq_some _ 0 idx child found
  obtain ⟨-, pidAllocator, freed, rfl, -, -⟩ := reapZombie_eq_ok.mp reaped
  have running := inv.scheduled.current_running task current
  have alive := alive_of_status running
  have was : k.tasks.statusOf task ≠ some .zombie := by rw [running]; decide
  have zombieStatus := isZombie_iff.mp zombie
  have childless := inv.family.zombie_childless child zombieStatus
  obtain ⟨released, call, pids⟩ := inv.dealloc_zombie zombieStatus
  dsimp only [removeChild] at freed
  rw [getpid_modifyChildren, call] at freed
  cases freed
  rw [Nat.sub_zero] at erased
  have kept : Function.update (Function.update k.tasks.childrenOf task
      ((k.tasks.childrenOf task).erase child)) child [] =
        Function.update k.tasks.childrenOf task ((k.tasks.childrenOf task).erase child) := by
    rw [← childless, Function.update_comm (Ne.symm notTask), Function.update_eq_self]
  refine ⟨?_, ?_, ?_, ?_⟩ <;> dsimp only [removeChild]
  · rw [statusOf_free, statusOf_modifyChildren]
    exact inv.scheduled.reap zombieStatus
  · rw [statusOf_free, statusOf_modifyChildren, parentOf_free, parentOf_modifyChildren,
      childrenOf_free, childrenOf_eraseIdx _ (statusOf_ne_none.mp alive) erased, kept]
    exact inv.family.reap alive was member zombieStatus
  · rw [pidOf_free, pidOf_modifyChildren]
    exact pids
  · rw [statusOf_free, statusOf_modifyChildren]
    exact inv.bounded.reap child

omit inv in
theorem Invariant.step (inv : Invariant k) (step : Step k next) : Invariant next := by
  cases step with
  | runTasks idle => exact inv.runTasks idle
  | suspend call => exact inv.suspend call
  | exit exitCode call => exact inv.exit call
  | fork call => exact inv.fork call
  | exec found call =>
      rw [sysExec_eq_ok call]
      exact inv
  | waitpid pid call => exact inv.waitpid call

end Calls

theorem reachable_invariant {k : Kernel} (reached : Transition.Reachable Step init k) :
    Invariant k :=
  reached.invariant init_invariant fun _ _ inv step => inv.step step

end Kernel

end ChOs
