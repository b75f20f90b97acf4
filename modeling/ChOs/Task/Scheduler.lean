import ChOs.Task.Pid
import ChOs.Panic
import Mathlib.Algebra.BigOperators.Group.Finset.Basic

set_option autoImplicit false

/- The process table and the scheduler (`os/src/task/`, `os/src/syscall/process.rs`). -/

namespace ChOs

inductive TaskStatus
  | ready
  | running
  | zombie
  deriving DecidableEq, Repr

structure TaskControlBlock where
  pid : Nat
  taskStatus : TaskStatus
  parent : Option Nat
  children : List Nat
  exitCode : Int
  deriving DecidableEq, Repr

/-- The TCBs by the identity of their `Arc` allocation; a freed one is `none`. -/
abbrev TaskHeap := Nat → Option TaskControlBlock

/-- The identity of the `INITPROC` TCB, the first one allocated. -/
def initproc : Nat := 0

namespace TaskHeap

/-- `Arc::new` of a TCB at a fresh identity. -/
def insert (tasks : TaskHeap) (task : Nat) (tcb : TaskControlBlock) : TaskHeap :=
  Function.update tasks task (some tcb)

/-- The drop of the last strong reference. -/
def free (tasks : TaskHeap) (task : Nat) : TaskHeap := Function.update tasks task none

/-- Change the inner of one TCB, through `inner_exclusive_access`. -/
def update (tasks : TaskHeap) (task : Nat) (change : TaskControlBlock → TaskControlBlock) :
    TaskHeap :=
  Function.update tasks task ((tasks task).map change)

/-- The fields of a TCB as the rest of the kernel reads them; a freed TCB has none. -/
def statusOf (tasks : TaskHeap) (task : Nat) : Option TaskStatus := (tasks task).map (·.taskStatus)

def parentOf (tasks : TaskHeap) (task : Nat) : Option Nat := (tasks task).bind (·.parent)

def childrenOf (tasks : TaskHeap) (task : Nat) : List Nat := ((tasks task).map (·.children)).getD []

def pidOf (tasks : TaskHeap) (task : Nat) : Option Nat := (tasks task).map (·.pid)

/-- `getpid`: `self.pid.0`. -/
def getpid (tasks : TaskHeap) (task : Nat) : Nat := (tasks.pidOf task).getD 0

/-- `is_zombie`. -/
def isZombie (tasks : TaskHeap) (task : Nat) : Bool := tasks.statusOf task == some .zombie

/-- `inner.task_status = status`. -/
def setStatus (tasks : TaskHeap) (task : Nat) (status : TaskStatus) : TaskHeap :=
  tasks.update task fun inner => { inner with taskStatus := status }

/-- `inner.exit_code = exitCode`. -/
def setExitCode (tasks : TaskHeap) (task : Nat) (exitCode : Int) : TaskHeap :=
  tasks.update task fun inner => { inner with exitCode := exitCode }

/-- `inner.parent = parent`. -/
def setParent (tasks : TaskHeap) (task : Nat) (parent : Option Nat) : TaskHeap :=
  tasks.update task fun inner => { inner with parent := parent }

/-- A change of `inner.children`: a `push`, a `clear` or a `remove`. -/
def modifyChildren (tasks : TaskHeap) (task : Nat) (change : List Nat → List Nat) : TaskHeap :=
  tasks.update task fun inner => { inner with children := change inner.children }

section Update

variable (tasks : TaskHeap) (task : Nat) (change : TaskControlBlock → TaskControlBlock)

theorem update_apply (other : Nat) :
    tasks.update task change other = if other = task then (tasks task).map change else tasks other := by
  by_cases same : other = task
  · rw [if_pos same, same]
    exact Function.update_self task _ tasks
  · rw [if_neg same]
    exact Function.update_of_ne same _ tasks

theorem statusOf_update (keeps : ∀ tcb, (change tcb).taskStatus = tcb.taskStatus) :
    (tasks.update task change).statusOf = tasks.statusOf := by
  funext other
  rw [statusOf, statusOf, update_apply]
  split
  · rename_i same
    rw [same, Option.map_map]
    exact Option.map_congr fun tcb _ => keeps tcb
  · rfl

theorem parentOf_update (keeps : ∀ tcb, (change tcb).parent = tcb.parent) :
    (tasks.update task change).parentOf = tasks.parentOf := by
  funext other
  rw [parentOf, parentOf, update_apply]
  split
  · rename_i same
    rw [same]
    cases tasks task with
    | none => rfl
    | some tcb => exact keeps tcb
  · rfl

theorem childrenOf_update (keeps : ∀ tcb, (change tcb).children = tcb.children) :
    (tasks.update task change).childrenOf = tasks.childrenOf := by
  funext other
  rw [childrenOf, childrenOf, update_apply]
  split
  · rename_i same
    rw [same, Option.map_map]
    exact congrArg (Option.getD · []) (Option.map_congr fun tcb _ => keeps tcb)
  · rfl

theorem pidOf_update (keeps : ∀ tcb, (change tcb).pid = tcb.pid) :
    (tasks.update task change).pidOf = tasks.pidOf := by
  funext other
  rw [pidOf, pidOf, update_apply]
  split
  · rename_i same
    rw [same, Option.map_map]
    exact Option.map_congr fun tcb _ => keeps tcb
  · rfl

end Update

section Setters

variable (tasks : TaskHeap) {task : Nat}

theorem statusOf_setStatus (alive : tasks task ≠ none) (status : TaskStatus) :
    (tasks.setStatus task status).statusOf = Function.update tasks.statusOf task (some status) := by
  obtain ⟨tcb, found⟩ := Option.ne_none_iff_exists'.mp alive
  funext other
  rw [setStatus, statusOf, update_apply, Function.update_apply]
  split
  · rw [found]
    rfl
  · rfl

theorem parentOf_setParent (alive : tasks task ≠ none) (parent : Option Nat) :
    (tasks.setParent task parent).parentOf = Function.update tasks.parentOf task parent := by
  obtain ⟨tcb, found⟩ := Option.ne_none_iff_exists'.mp alive
  funext other
  rw [setParent, parentOf, update_apply, Function.update_apply]
  split
  · rw [found]
    rfl
  · rfl

theorem childrenOf_modifyChildren (alive : tasks task ≠ none) (change : List Nat → List Nat) :
    (tasks.modifyChildren task change).childrenOf =
      Function.update tasks.childrenOf task (change (tasks.childrenOf task)) := by
  obtain ⟨tcb, found⟩ := Option.ne_none_iff_exists'.mp alive
  funext other
  rw [modifyChildren, childrenOf, update_apply, Function.update_apply]
  split
  · simp only [childrenOf, found, Option.map_some, Option.getD_some]
  · rfl

theorem childrenOf_eraseIdx (alive : tasks task ≠ none) {idx child : Nat}
    (erased : (tasks.childrenOf task).eraseIdx idx = (tasks.childrenOf task).erase child) :
    (tasks.modifyChildren task (·.eraseIdx idx)).childrenOf =
      Function.update tasks.childrenOf task ((tasks.childrenOf task).erase child) := by
  rw [childrenOf_modifyChildren _ alive, erased]

variable (task)

@[simp] theorem parentOf_setStatus (status : TaskStatus) :
    (tasks.setStatus task status).parentOf = tasks.parentOf := parentOf_update _ _ _ fun _ => rfl
@[simp] theorem childrenOf_setStatus (status : TaskStatus) :
    (tasks.setStatus task status).childrenOf = tasks.childrenOf :=
  childrenOf_update _ _ _ fun _ => rfl
@[simp] theorem pidOf_setStatus (status : TaskStatus) :
    (tasks.setStatus task status).pidOf = tasks.pidOf := pidOf_update _ _ _ fun _ => rfl

@[simp] theorem statusOf_setExitCode (exitCode : Int) :
    (tasks.setExitCode task exitCode).statusOf = tasks.statusOf := statusOf_update _ _ _ fun _ => rfl
@[simp] theorem parentOf_setExitCode (exitCode : Int) :
    (tasks.setExitCode task exitCode).parentOf = tasks.parentOf := parentOf_update _ _ _ fun _ => rfl
@[simp] theorem childrenOf_setExitCode (exitCode : Int) :
    (tasks.setExitCode task exitCode).childrenOf = tasks.childrenOf :=
  childrenOf_update _ _ _ fun _ => rfl
@[simp] theorem pidOf_setExitCode (exitCode : Int) :
    (tasks.setExitCode task exitCode).pidOf = tasks.pidOf := pidOf_update _ _ _ fun _ => rfl

@[simp] theorem statusOf_setParent (parent : Option Nat) :
    (tasks.setParent task parent).statusOf = tasks.statusOf := statusOf_update _ _ _ fun _ => rfl
@[simp] theorem childrenOf_setParent (parent : Option Nat) :
    (tasks.setParent task parent).childrenOf = tasks.childrenOf :=
  childrenOf_update _ _ _ fun _ => rfl
@[simp] theorem pidOf_setParent (parent : Option Nat) :
    (tasks.setParent task parent).pidOf = tasks.pidOf := pidOf_update _ _ _ fun _ => rfl

@[simp] theorem statusOf_modifyChildren (change : List Nat → List Nat) :
    (tasks.modifyChildren task change).statusOf = tasks.statusOf :=
  statusOf_update _ _ _ fun _ => rfl
@[simp] theorem parentOf_modifyChildren (change : List Nat → List Nat) :
    (tasks.modifyChildren task change).parentOf = tasks.parentOf :=
  parentOf_update _ _ _ fun _ => rfl
@[simp] theorem pidOf_modifyChildren (change : List Nat → List Nat) :
    (tasks.modifyChildren task change).pidOf = tasks.pidOf := pidOf_update _ _ _ fun _ => rfl
@[simp] theorem getpid_modifyChildren (change : List Nat → List Nat) (other : Nat) :
    (tasks.modifyChildren task change).getpid other = tasks.getpid other := by
  simp only [getpid, pidOf_modifyChildren]

end Setters

section Allocation

variable (tasks : TaskHeap) (task : Nat)

theorem statusOf_insert (tcb : TaskControlBlock) :
    (tasks.insert task tcb).statusOf = Function.update tasks.statusOf task (some tcb.taskStatus) :=
  Function.comp_update (Option.map TaskControlBlock.taskStatus) tasks task (some tcb)

theorem parentOf_insert (tcb : TaskControlBlock) :
    (tasks.insert task tcb).parentOf = Function.update tasks.parentOf task tcb.parent :=
  Function.comp_update (Option.bind · TaskControlBlock.parent) tasks task (some tcb)

theorem childrenOf_insert (tcb : TaskControlBlock) :
    (tasks.insert task tcb).childrenOf = Function.update tasks.childrenOf task tcb.children :=
  Function.comp_update
    (fun found : Option TaskControlBlock => (found.map TaskControlBlock.children).getD []) tasks task
    (some tcb)

theorem pidOf_insert (tcb : TaskControlBlock) :
    (tasks.insert task tcb).pidOf = Function.update tasks.pidOf task (some tcb.pid) :=
  Function.comp_update (Option.map TaskControlBlock.pid) tasks task (some tcb)

theorem statusOf_free : (tasks.free task).statusOf = Function.update tasks.statusOf task none :=
  Function.comp_update (Option.map TaskControlBlock.taskStatus) tasks task none

theorem parentOf_free : (tasks.free task).parentOf = Function.update tasks.parentOf task none :=
  Function.comp_update (Option.bind · TaskControlBlock.parent) tasks task none

theorem childrenOf_free : (tasks.free task).childrenOf = Function.update tasks.childrenOf task [] :=
  Function.comp_update
    (fun found : Option TaskControlBlock => (found.map TaskControlBlock.children).getD []) tasks task
    none

theorem pidOf_free : (tasks.free task).pidOf = Function.update tasks.pidOf task none :=
  Function.comp_update (Option.map TaskControlBlock.pid) tasks task none

end Allocation

section Alive

variable {tasks : TaskHeap} {task : Nat}

theorem statusOf_eq_none : tasks.statusOf task = none ↔ tasks task = none := Option.map_eq_none_iff

theorem statusOf_ne_none : tasks.statusOf task ≠ none ↔ tasks task ≠ none := statusOf_eq_none.not

theorem pidOf_eq_none : tasks.pidOf task = none ↔ tasks task = none := Option.map_eq_none_iff

theorem isZombie_iff : tasks.isZombie task = true ↔ tasks.statusOf task = some .zombie := beq_iff_eq

end Alive

end TaskHeap

open TaskHeap

/-- The TCB heap with the kernel's statics. `nextTask` is where `Arc::new` places the
next TCB: no TCB lives there or above. -/
structure Kernel where
  tasks : TaskHeap
  readyQueue : List Nat
  current : Option Nat
  pidAllocator : PidAllocator
  nextTask : Nat

namespace Kernel

/-- The kernel after `add_initproc()`: `TaskControlBlock::new` gave `INITPROC` the first
PID, status Ready, no parent and no children, and it waits in the ready queue. -/
def init : Kernel :=
  { tasks := TaskHeap.insert (fun _ => none) initproc ⟨PidAllocator.new.alloc.1, .ready, none, [], 0⟩
    readyQueue := [initproc]
    current := none
    pidAllocator := PidAllocator.new.alloc.2
    nextTask := initproc + 1 }

/-- The strong references the kernel holds to a TCB between calls: its entries in the
ready queue, the processor's current task, the children vectors of the TCBs and the
`INITPROC` static. -/
def strongCount (k : Kernel) (task : Nat) : Nat :=
  k.readyQueue.count task + (if k.current = some task then 1 else 0) +
    (∑ holder ∈ Finset.range k.nextTask, (k.tasks.childrenOf holder).count task) +
    (if task = initproc then 1 else 0)

end Kernel

/-- `add_task`: `TaskManager::add` pushes at the back of the ready queue. -/
def addTask (k : Kernel) (task : Nat) : Kernel := { k with readyQueue := k.readyQueue ++ [task] }

/-- `fetch_task`: `TaskManager::fetch` pops the front of the ready queue. -/
def fetchTask (k : Kernel) : Option Nat × Kernel :=
  match k.readyQueue with
  | [] => (none, k)
  | task :: rest => (some task, { k with readyQueue := rest })

/-- `take_current_task`. -/
def takeCurrentTask (k : Kernel) : Option Nat × Kernel := (k.current, { k with current := none })

/-- One turn of the loop of `run_tasks` on the idle control flow: the fetched task turns
Running and becomes current; with an empty queue the loop prints and turns again. -/
def runTasks (k : Kernel) : Kernel :=
  match fetchTask k with
  | (some task, k) => { k with tasks := k.tasks.setStatus task .running, current := some task }
  | (none, k) => k

/-- `suspend_current_and_run_next`: the current task turns Ready and goes to the back of
the queue. -/
def suspendCurrentAndRunNext (k : Kernel) : Except String Kernel :=
  match takeCurrentTask k with
  | (none, _) => .error unwrapNone
  | (some task, k) => .ok (addTask { k with tasks := k.tasks.setStatus task .ready } task)

/-- The loop of `exit_current_and_run_next` over the exiting task's children: each gets
`INITPROC` as its parent and is pushed onto `INITPROC`'s children. Each child's inner is
borrowed while the exiting task's and `INITPROC`'s are held. -/
def reparentChildren (exiting : Nat) : List Nat → TaskHeap → Except String TaskHeap
  | [], tasks => .ok tasks
  | child :: rest, tasks =>
      if child = exiting ∨ child = initproc then .error alreadyBorrowed
      else
        reparentChildren exiting rest
          ((tasks.setParent child (some initproc)).modifyChildren initproc (· ++ [child]))

/-- `exit_current_and_run_next`: the current task turns Zombie with its exit code, hands
its children to `INITPROC` and clears its own; the `Arc` taken from the processor is
dropped, so the parent's children vector holds the zombie. -/
def exitCurrentAndRunNext (k : Kernel) (exitCode : Int) : Except String Kernel :=
  match takeCurrentTask k with
  | (none, _) => .error unwrapNone
  | (some task, k) =>
      if task = initproc then .error alreadyBorrowed
      else
        let tasks := (k.tasks.setStatus task .zombie).setExitCode task exitCode
        match reparentChildren task (tasks.childrenOf task) tasks with
        | .error message => .error message
        | .ok tasks => .ok { k with tasks := tasks.modifyChildren task fun _ => [] }

/-- `TaskControlBlock::fork`: a new TCB with a fresh PID, Ready, with the caller as its
parent and no children, pushed onto the caller's children. -/
def fork (k : Kernel) (parent : Nat) : Nat × Kernel :=
  let child := k.nextTask
  let tasks := k.tasks.insert child ⟨k.pidAllocator.alloc.1, .ready, some parent, [], 0⟩
  (child,
    { k with
      tasks := tasks.modifyChildren parent (· ++ [child])
      pidAllocator := k.pidAllocator.alloc.2
      nextTask := child + 1 })

/-- `sys_fork`: fork the current task and queue the child; the parent gets its PID. -/
def sysFork (k : Kernel) : Except String (Kernel × Int) :=
  match k.current with
  | none => .error unwrapNone
  | some task =>
      let (child, k) := fork k task
      .ok (addTask k child, k.tasks.getpid child)

/-- `sys_exec`: whether `open_file` finds the program is the file system's answer. The
process table stays as it is: `exec` replaces the address space and the trap context. -/
def sysExec (k : Kernel) (found : Bool) : Except String (Kernel × Int) :=
  match k.current with
  | none => .error unwrapNone
  | some _ => .ok (k, if found then 0 else -1)

/-- The test of `sys_waitpid` on a child: `pid == -1 || pid as usize == p.getpid()`. -/
def pidMatches (pid : Int) (childPid : Nat) : Bool := pid == -1 || (pid % 2 ^ 64).toNat == childPid

/-- `children.iter().enumerate().find(..)` in `sys_waitpid`: the first matching zombie
child and its index. Each child's inner is borrowed while the caller's is held. -/
def findZombie (tasks : TaskHeap) (task : Nat) (pid : Int) :
    Nat → List Nat → Except String (Option (Nat × Nat))
  | _, [] => .ok none
  | idx, child :: rest =>
      if child = task then .error alreadyBorrowed
      else if tasks.isZombie child && pidMatches pid (tasks.getpid child) then .ok (some (idx, child))
      else findZombie tasks task pid (idx + 1) rest

/-- `inner.children.remove(idx)` on the caller's children. -/
def removeChild (k : Kernel) (task idx : Nat) : Kernel :=
  { k with tasks := k.tasks.modifyChildren task (·.eraseIdx idx) }

/-- The branch of `sys_waitpid` that found the zombie `child` at `idx` of the caller's
children: remove it, assert that the removed `Arc` is the last strong reference, and
return the child's PID and exit code. The TCB is freed when the local `child` goes out of
scope, and its `PidHandle` returns the PID. -/
def reapZombie (k : Kernel) (task idx child : Nat) : Except String (Kernel × Int × Option Int) :=
  let k := removeChild k task idx
  let count := k.strongCount child + 1 + (if child = task then 1 else 0)
  if count ≠ 1 then .error (assertEqFailed count 1)
  else
    match k.pidAllocator.dealloc (k.tasks.getpid child) with
    | .error message => .error message
    | .ok pidAllocator =>
        .ok ({ k with tasks := k.tasks.free child, pidAllocator := pidAllocator },
          k.tasks.getpid child, (k.tasks child).map (·.exitCode))

/-- `sys_waitpid`: the next kernel, the return value, and the exit code written through
`exit_code_ptr` when a zombie child is reaped. -/
def sysWaitpid (k : Kernel) (pid : Int) : Except String (Kernel × Int × Option Int) :=
  match k.current with
  | none => .error unwrapNone
  | some task =>
      if !(k.tasks.childrenOf task).any (fun child => pidMatches pid (k.tasks.getpid child)) then
        .ok (k, -1, none)
      else
        match findZombie k.tasks task pid 0 (k.tasks.childrenOf task) with
        | .error message => .error message
        | .ok none => .ok (k, -2, none)
        | .ok (some (idx, child)) => reapZombie k task idx child

/-- One call of the scheduler or the process syscalls that returns. A call that panics
ends the run. -/
inductive Step : Kernel → Kernel → Prop
  | runTasks {k : Kernel} (idle : k.current = none) : Step k (runTasks k)
  | suspend {k next : Kernel} (call : suspendCurrentAndRunNext k = .ok next) : Step k next
  | exit {k next : Kernel} (exitCode : Int) (call : exitCurrentAndRunNext k exitCode = .ok next) :
      Step k next
  | fork {k next : Kernel} {pid : Int} (call : sysFork k = .ok (next, pid)) : Step k next
  | exec {k next : Kernel} {result : Int} (found : Bool) (call : sysExec k found = .ok (next, result)) :
      Step k next
  | waitpid {k next : Kernel} {result : Int} {exitCode : Option Int} (pid : Int)
      (call : sysWaitpid k pid = .ok (next, result, exitCode)) : Step k next

/-- What the loop of `exit_current_and_run_next` does: the children point at `INITPROC`
and follow its own children, and nothing else changes. -/
structure Reparented (tasks : TaskHeap) (children : List Nat) (next : TaskHeap) : Prop where
  statusOf : next.statusOf = tasks.statusOf
  pidOf : next.pidOf = tasks.pidOf
  parentOf : next.parentOf = fun task => if task ∈ children then some initproc else tasks.parentOf task
  childrenOf : next.childrenOf =
    Function.update tasks.childrenOf initproc (tasks.childrenOf initproc ++ children)

theorem reparentChildren_ok {exiting : Nat} : ∀ (children : List Nat) (tasks : TaskHeap),
    tasks initproc ≠ none →
    (∀ child ∈ children, child ≠ exiting ∧ child ≠ initproc ∧ tasks child ≠ none) →
      ∃ next, reparentChildren exiting children tasks = .ok next ∧ Reparented tasks children next := by
  intro children
  induction children with
  | nil =>
      intro tasks _ _
      refine ⟨tasks, rfl, rfl, rfl, ?_, ?_⟩
      · funext task
        rw [if_neg List.not_mem_nil]
      · rw [List.append_nil, Function.update_eq_self]
  | cons child rest ih =>
      intro tasks initAlive guard
      obtain ⟨notExiting, notInit, childAlive⟩ := guard child List.mem_cons_self
      let pointed := tasks.setParent child (some initproc)
      let pushed := pointed.modifyChildren initproc (· ++ [child])
      have pushedStatus : pushed.statusOf = tasks.statusOf := by
        rw [statusOf_modifyChildren, statusOf_setParent]
      have pushedAlive : ∀ task, pushed task = none ↔ tasks task = none := fun task => by
        rw [← statusOf_eq_none, ← statusOf_eq_none, pushedStatus]
      have pointedAlive : pointed initproc ≠ none := by
        rw [Ne, ← statusOf_eq_none, statusOf_setParent, statusOf_eq_none]
        exact initAlive
      obtain ⟨next, call, after⟩ := ih pushed
        (by rw [Ne, pushedAlive]; exact initAlive)
        (fun other member => by
          obtain ⟨apart, notInitOther, alive⟩ := guard other (List.mem_cons_of_mem child member)
          exact ⟨apart, notInitOther, by rw [Ne, pushedAlive]; exact alive⟩)
      refine ⟨next, ?_, ?_, ?_, ?_, ?_⟩
      · unfold reparentChildren
        rw [if_neg (by rintro (same | same) <;> contradiction)]
        exact call
      · rw [after.statusOf, pushedStatus]
      · rw [after.pidOf, pidOf_modifyChildren, pidOf_setParent]
      · rw [after.parentOf, parentOf_modifyChildren, parentOf_setParent tasks childAlive]
        funext task
        by_cases inRest : task ∈ rest
        · rw [if_pos inRest, if_pos (List.mem_cons_of_mem child inRest)]
        · by_cases same : task = child
          · rw [if_neg inRest, same, Function.update_self, if_pos List.mem_cons_self]
          · rw [if_neg inRest, Function.update_of_ne same, if_neg (by simp [same, inRest])]
      · rw [after.childrenOf, childrenOf_modifyChildren _ pointedAlive, childrenOf_setParent,
          Function.update_self, Function.update_idem, List.append_assoc, List.singleton_append]

section Calls

variable {k next : Kernel}

theorem runTasks_of_cons {task : Nat} {rest : List Nat} (queue : k.readyQueue = task :: rest) :
    runTasks k =
      { k with tasks := k.tasks.setStatus task .running, readyQueue := rest, current := some task } := by
  simp only [runTasks, fetchTask, queue]

theorem runTasks_of_nil (queue : k.readyQueue = []) : runTasks k = k := by
  simp only [runTasks, fetchTask, queue]

theorem suspendCurrentAndRunNext_eq_ok :
    suspendCurrentAndRunNext k = .ok next ↔ ∃ task, k.current = some task ∧
      next =
        { k with
          tasks := k.tasks.setStatus task .ready
          readyQueue := k.readyQueue ++ [task]
          current := none } := by
  unfold suspendCurrentAndRunNext takeCurrentTask addTask
  cases k.current with
  | none => simp only [reduceCtorEq, false_and, exists_false]
  | some task => simp only [Except.ok.injEq, Option.some.injEq, exists_eq_left', eq_comm]

theorem exitCurrentAndRunNext_eq_ok {exitCode : Int} :
    exitCurrentAndRunNext k exitCode = .ok next ↔ ∃ task tasks, k.current = some task ∧
      task ≠ initproc ∧
      reparentChildren task (k.tasks.childrenOf task)
        ((k.tasks.setStatus task .zombie).setExitCode task exitCode) = .ok tasks ∧
      next = { k with tasks := tasks.modifyChildren task fun _ => [], current := none } := by
  unfold exitCurrentAndRunNext takeCurrentTask
  cases k.current with
  | none => simp only [reduceCtorEq, false_and, exists_false]
  | some task =>
      simp only [Option.some.injEq, exists_and_left, exists_eq_left']
      by_cases init : task = initproc
      · simp only [init, if_true, reduceCtorEq, ne_eq, not_true_eq_false, false_and]
      · simp only [init, if_false, ne_eq, not_false_eq_true, true_and, childrenOf_setExitCode,
          childrenOf_setStatus]
        cases reparentChildren task (k.tasks.childrenOf task) _ with
        | error message => simp only [reduceCtorEq, false_and, exists_false]
        | ok tasks => simp only [Except.ok.injEq, exists_eq_left', eq_comm]

theorem sysFork_eq_ok {pid : Int} :
    sysFork k = .ok (next, pid) ↔ ∃ task, k.current = some task ∧
      next = addTask (fork k task).2 (fork k task).1 ∧
      pid = (fork k task).2.tasks.getpid (fork k task).1 := by
  unfold sysFork
  cases k.current with
  | none => simp only [reduceCtorEq, false_and, exists_false]
  | some task =>
      simp only [Except.ok.injEq, Prod.mk.injEq, Option.some.injEq, exists_eq_left', eq_comm]

theorem sysExec_eq_ok {found : Bool} {result : Int} (call : sysExec k found = .ok (next, result)) :
    next = k := by
  unfold sysExec at call
  split at call
  · cases call
  · simp only [Except.ok.injEq, Prod.mk.injEq] at call
    exact call.1.symm

theorem sysWaitpid_eq_ok {pid result : Int} {exitCode : Option Int}
    (call : sysWaitpid k pid = .ok (next, result, exitCode)) :
    next = k ∨ ∃ task idx child, k.current = some task ∧
      findZombie k.tasks task pid 0 (k.tasks.childrenOf task) = .ok (some (idx, child)) ∧
      reapZombie k task idx child = .ok (next, result, exitCode) := by
  unfold sysWaitpid at call
  cases current : k.current with
  | none => rw [current] at call; cases call
  | some task =>
      rw [current] at call
      simp only at call
      split at call
      · simp only [Except.ok.injEq, Prod.mk.injEq] at call
        exact .inl call.1.symm
      · split at call
        · cases call
        · simp only [Except.ok.injEq, Prod.mk.injEq] at call
          exact .inl call.1.symm
        · rename_i idx child found
          exact .inr ⟨task, idx, child, rfl, found, call⟩

theorem reapZombie_eq_ok {task idx child : Nat} {result : Int} {exitCode : Option Int} :
    reapZombie k task idx child = .ok (next, result, exitCode) ↔
      (removeChild k task idx).strongCount child + 1 + (if child = task then 1 else 0) = 1 ∧
      ∃ pidAllocator,
        k.pidAllocator.dealloc ((removeChild k task idx).tasks.getpid child) = .ok pidAllocator ∧
        next =
          { removeChild k task idx with
            tasks := (removeChild k task idx).tasks.free child
            pidAllocator := pidAllocator } ∧
        result = (removeChild k task idx).tasks.getpid child ∧
        exitCode = ((removeChild k task idx).tasks child).map (·.exitCode) := by
  unfold reapZombie
  dsimp only
  by_cases counted :
      (removeChild k task idx).strongCount child + 1 + (if child = task then 1 else 0) = 1
  · rw [if_neg (fun refused => refused counted)]
    simp only [counted, true_and]
    have kept : (removeChild k task idx).pidAllocator = k.pidAllocator := rfl
    rw [kept]
    split
    · rename_i message failed
      simp only [reduceCtorEq, false_iff, not_exists, not_and]
      intro _ same
      rw [same] at failed
      cases failed
    · rename_i pidAllocator freed
      simp only [Except.ok.injEq, Prod.mk.injEq]
      constructor
      · rintro ⟨rfl, rfl, rfl⟩
        exact ⟨pidAllocator, freed, rfl, rfl, rfl⟩
      · rintro ⟨other, same, rfl, rfl, rfl⟩
        rw [same] at freed
        cases freed
        exact ⟨rfl, rfl, rfl⟩
  · rw [if_pos counted]
    simp only [reduceCtorEq, counted, false_and]

theorem findZombie_eq_some {tasks : TaskHeap} {task : Nat} {pid : Int} :
    ∀ (children : List Nat) (start idx child : Nat),
      findZombie tasks task pid start children = .ok (some (idx, child)) →
        start ≤ idx ∧ child ∈ children ∧ tasks.isZombie child = true ∧
          pidMatches pid (tasks.getpid child) = true ∧ child ≠ task ∧
          children.eraseIdx (idx - start) = children.erase child := by
  intro children
  induction children with
  | nil => intro start idx child found; cases found
  | cons first rest ih =>
      intro start idx child found
      unfold findZombie at found
      split at found
      · cases found
      · rename_i notTask
        split at found
        · rename_i matched
          simp only [Except.ok.injEq, Option.some.injEq, Prod.mk.injEq] at found
          obtain ⟨rfl, rfl⟩ := found
          rw [Bool.and_eq_true] at matched
          refine ⟨Nat.le_refl _, List.mem_cons_self, matched.1, matched.2, notTask, ?_⟩
          rw [Nat.sub_self, List.eraseIdx_cons_zero, List.erase_cons_head]
        · rename_i unmatched
          obtain ⟨later, member, zombie, matching, other, erased⟩ := ih (start + 1) idx child found
          have differ : first ≠ child := by
            rintro rfl
            exact unmatched (by rw [zombie, matching]; rfl)
          have shift : idx - start = idx - (start + 1) + 1 := by omega
          refine ⟨by omega, List.mem_cons_of_mem first member, zombie, matching, other, ?_⟩
          rw [shift, List.eraseIdx_cons_succ, erased,
            List.erase_cons_tail (by simpa only [beq_iff_eq] using differ)]

theorem findZombie_ok {tasks : TaskHeap} {task : Nat} {pid : Int} :
    ∀ (children : List Nat) (start : Nat), task ∉ children →
      ∃ found, findZombie tasks task pid start children = .ok found := by
  intro children
  induction children with
  | nil => intro start _; exact ⟨none, rfl⟩
  | cons first rest ih =>
      intro start absent
      have differ : first ≠ task := fun same => absent (same ▸ List.mem_cons_self)
      unfold findZombie
      rw [if_neg differ]
      split
      · exact ⟨_, rfl⟩
      · exact ih (start + 1) fun member => absent (List.mem_cons_of_mem first member)

end Calls

end ChOs
