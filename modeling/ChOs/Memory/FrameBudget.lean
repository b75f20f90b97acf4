import ChOs.Memory.PageTableOps

set_option autoImplicit false

/- How many frames the calls of a `MemorySet` take from `frame_alloc`
(`os/src/memory/memory_set.rs`, `page_table.rs`, `frame_allocator.rs`): a call that maps `n`
pages takes at most `3 * n`, and with that many free it does not panic. -/

namespace ChOs

section Fallible

variable {ε α β : Type}

theorem bind_ne_error {x : Except ε α} {f : α → Except ε β} {e : ε} (first : x ≠ .error e)
    (rest : ∀ a, x = .ok a → f a ≠ .error e) : (x >>= f) ≠ .error e := by
  cases x with
  | error e' => simpa using first
  | ok a => simpa using rest a rfl

theorem map_eq_ok {x : Except ε α} {f : α → β} {b : β} :
    x.map f = .ok b ↔ ∃ a, x = .ok a ∧ f a = b := by
  cases x with
  | error e => simp [Except.map]
  | ok a => simp [Except.map]

end Fallible

/-- `free s` counts the frames `alloc` can still hand out from the state `s`: while one is
left it hands one out, and each one it hands out is spent. -/
structure AllocBudget {σ : Type} (alloc : σ → Option PhysPageNum × σ) (free : σ → Nat) :
    Prop where
  alloc_some : ∀ s, 0 < free s → ∃ frame s', alloc s = (some frame, s')
  alloc_spends : ∀ {s frame s'}, alloc s = (some frame, s') → free s ≤ free s' + 1

/-- The frame count of a table under its calls: `frame_alloc` spends one frame, `map` at most
two, and `frame_dealloc` none; `map` does not run out while two are free. -/
structure PageTableOps.Budget {T : Type} (ops : PageTableOps T) (free : T → Nat) : Prop where
  frameAlloc_budget : AllocBudget ops.frameAlloc free
  map_returns : ∀ t vpn ppn flags, 2 ≤ free t → ops.map t vpn ppn flags ≠ .error unwrapNone
  map_spends : ∀ {t vpn ppn flags t'}, ops.map t vpn ppn flags = .ok t' → free t ≤ free t' + 2
  frameDealloc_keeps : ∀ {t frame t'}, ops.frameDealloc t frame = .ok t' → free t ≤ free t'

theorem AllocBudget.frameAlloc {σ : Type} {alloc : σ → Option PhysPageNum × σ} {free : σ → Nat}
    (budget : AllocBudget alloc free) :
    AllocBudget (frameAlloc alloc) fun machine => free machine.allocator where
  alloc_some machine enough := by
    obtain ⟨frame, allocator, call⟩ := budget.alloc_some machine.allocator enough
    exact ⟨frame, ⟨FrameTracker.new machine.memory frame, allocator⟩,
      by simp only [ChOs.frameAlloc, call]⟩
  alloc_spends call := budget.alloc_spends (frameAlloc_some call).1

/- ### The walk of `find_pte_create` -/

namespace PageTable

variable {σ : Type} {alloc : σ → Option PhysPageNum × σ} {free : σ → Nat}

theorem findPteCreateLoop_returns (budget : AllocBudget alloc free) :
    ∀ (idxs : List Nat) (level : Nat) (ppn : PhysPageNum) (table : PageTable)
      (machine : Machine σ), level ≤ 2 → idxs.length + level = 3 →
      2 - level ≤ free machine.allocator →
      ∃ pte table' machine', findPteCreateLoop alloc level idxs ppn table machine =
        .ok (some pte, table', machine')
  | [], level, _, _, _, below, length, _ => by
      simp only [List.length_nil, Nat.zero_add] at length
      omega
  | idx :: rest, level, ppn, table, machine, below, length, enough => by
      simp only [List.length_cons] at length
      by_cases leaf : level = 2
      · subst leaf
        exact ⟨_, _, _, findPteCreateLoop_leaf alloc idx rest ppn table machine⟩
      cases valid : (readPte machine.memory (pteAddress ppn idx)).isValid with
      | true =>
          rw [findPteCreateLoop_valid alloc level idx rest ppn table machine leaf valid]
          exact findPteCreateLoop_returns budget rest (level + 1) _ table machine (by omega)
            (by omega) (by omega)
      | false =>
          obtain ⟨frame, after, call⟩ := budget.frameAlloc.alloc_some machine (by omega)
          have spent := budget.frameAlloc.alloc_spends call
          rw [findPteCreateLoop_install alloc level idx rest ppn frame table machine after leaf
            valid call]
          exact findPteCreateLoop_returns budget rest (level + 1) _ _ _ (by omega) (by omega)
            (by dsimp only at spent ⊢; omega)

theorem findPteCreateLoop_spends (budget : AllocBudget alloc free) :
    ∀ (idxs : List Nat) (level : Nat) (ppn : PhysPageNum) (table : PageTable)
      (machine : Machine σ) {found : Option Nat} {table' : PageTable} {machine' : Machine σ},
      level ≤ 2 → findPteCreateLoop alloc level idxs ppn table machine = .ok (found, table', machine') →
      free machine.allocator ≤ free machine'.allocator + (2 - level)
  | [], level, _, _, _, _, _, _, _, call => by
      simp only [findPteCreateLoop, Except.ok.injEq, Prod.mk.injEq] at call
      rw [call.2.2]
      omega
  | idx :: rest, level, ppn, table, machine, found, table', machine', below, call => by
      by_cases leaf : level = 2
      · subst leaf
        rw [findPteCreateLoop_leaf, Except.ok.injEq, Prod.mk.injEq, Prod.mk.injEq] at call
        rw [call.2.2]
        omega
      cases valid : (readPte machine.memory (pteAddress ppn idx)).isValid with
      | true =>
          rw [findPteCreateLoop_valid alloc level idx rest ppn table machine leaf valid] at call
          have later := findPteCreateLoop_spends budget rest (level + 1) _ _ _ (by omega) call
          omega
      | false =>
          rcases next : ChOs.frameAlloc alloc machine with ⟨_ | frame, after⟩
          · rw [findPteCreateLoop_exhausted alloc level idx rest ppn table machine after leaf valid
              next] at call
            cases call
          · have spent := budget.frameAlloc.alloc_spends next
            rw [findPteCreateLoop_install alloc level idx rest ppn frame table machine after leaf
              valid next] at call
            have later := findPteCreateLoop_spends budget rest (level + 1) _ _ _ (by omega) call
            dsimp only at spent later
            omega

theorem map_returns (budget : AllocBudget alloc free) (table : PageTable) (machine : Machine σ)
    (vpn : VirtPageNum) (ppn : PhysPageNum) (flags : PTEFlags) (enough : 2 ≤ free machine.allocator) :
    table.map alloc machine vpn ppn flags ≠ .error unwrapNone := by
  obtain ⟨pte, table', machine', found⟩ :=
    findPteCreateLoop_returns budget [vpn.val / 2 ^ 18 % 512, vpn.val / 2 ^ 9 % 512, vpn.val % 512]
      0 table.rootPpn table machine (by decide) rfl enough
  rw [← findPteCreate_eq] at found
  rw [map_of_findPteCreate_ok alloc table table' machine machine' vpn ppn flags pte found]
  split
  · exact fun failed => absurd (Except.error.inj failed) (by decide)
  · exact fun failed => by cases failed

theorem map_spends (budget : AllocBudget alloc free) {table table' : PageTable}
    {machine machine' : Machine σ} {vpn : VirtPageNum} {ppn : PhysPageNum} {flags : PTEFlags}
    (call : table.map alloc machine vpn ppn flags = .ok (table', machine')) :
    free machine.allocator ≤ free machine'.allocator + 2 := by
  rcases found : table.findPteCreate alloc machine vpn with message | ⟨_ | pte, table₁, machine₁⟩
  · rw [map_of_findPteCreate_error alloc table machine vpn ppn flags message found] at call
    cases call
  · rw [map, found] at call
    cases call
  · have spent := findPteCreateLoop_spends budget _ 0 _ _ _ (by decide) found
    rw [map_of_findPteCreate_ok alloc table table₁ machine machine₁ vpn ppn flags pte found] at call
    split at call
    · cases call
    · rw [Except.ok.injEq, Prod.mk.injEq] at call
      rw [← call.2]
      exact spent

end PageTable

namespace Frames

/-- The frames `alloc` can still hand out: the rest of the bump range and the recycled
stack. -/
def free (frames : Frames) : Nat :=
  frames.allocator.end_ - frames.allocator.current + frames.allocator.recycled.length

theorem allocHeld_budget : AllocBudget allocHeld free where
  alloc_some frames enough := by
    rcases call : frames.allocator.alloc with ⟨result, next⟩
    rcases StackFrameAllocator.alloc_cases call with
      ⟨rest, ppn, -, rfl, -⟩ | ⟨-, -, rfl, -⟩ | ⟨empty, exhausted, -, -⟩
    · exact ⟨_, _, by rw [allocHeld, call]⟩
    · exact ⟨_, _, by rw [allocHeld, call]⟩
    · simp only [free, empty, exhausted, Nat.sub_self, List.length_nil] at enough
      omega
  alloc_spends {frames frame next} call := by
    simp only [allocHeld, Prod.mk.injEq] at call
    obtain ⟨first, rfl⟩ := call
    rcases StackFrameAllocator.alloc_cases (Prod.ext first rfl) with
      ⟨rest, ppn, split, -, moved⟩ | ⟨-, -, -, moved⟩ | ⟨-, -, none, -⟩
    · simp only [free, split, moved, List.length_append, List.length_singleton]
      omega
    · simp only [free, moved]
      omega
    · cases none

theorem deallocHeld_keeps {frames next : Frames} {ppn : PhysPageNum}
    (call : deallocHeld frames ppn = .ok next) : free frames ≤ free next := by
  unfold deallocHeld at call
  split at call
  · rename_i allocator accepted
    rw [Except.ok.injEq] at call
    obtain ⟨-, -, rfl⟩ := StackFrameAllocator.dealloc_eq_some.mp accepted
    rw [← call]
    simp only [free, List.length_append, List.length_singleton]
    omega
  · cases call

end Frames

theorem PageTable.budget : PageTable.ops.Budget fun t => t.2.allocator.free where
  frameAlloc_budget :=
    ⟨fun t enough => by
      obtain ⟨frame, machine, call⟩ := Frames.allocHeld_budget.frameAlloc.alloc_some t.2 enough
      exact ⟨frame, (t.1, machine), by simp only [PageTable.ops, call]⟩,
    fun {t frame t'} call => by
      simp only [PageTable.ops, Prod.mk.injEq] at call
      obtain ⟨first, rfl⟩ := call
      exact Frames.allocHeld_budget.frameAlloc.alloc_spends (Prod.ext first rfl)⟩
  map_returns t vpn ppn flags enough :=
    PageTable.map_returns Frames.allocHeld_budget t.1 t.2 vpn ppn flags enough
  map_spends call := PageTable.map_spends Frames.allocHeld_budget call
  frameDealloc_keeps {t frame t'} call := by
    obtain ⟨frames, freed, rfl⟩ := map_eq_ok.mp call
    exact Frames.deallocHeld_keeps freed

theorem VPNRange.length_vpns (range : VPNRange) : range.vpns.length = range.r.val - range.l.val := by
  simp [VPNRange.vpns]

namespace MapArea

variable {T : Type} {ops : PageTableOps T} {free : T → Nat}

theorem dropTracker_keeps (budget : ops.Budget free) {t t' : T} {tracker : Option PhysPageNum}
    (call : dropTracker ops t tracker = .ok t') : free t ≤ free t' := by
  cases tracker with
  | none =>
      rw [dropTracker, Except.ok.injEq] at call
      rw [call]
  | some frame => exact budget.frameDealloc_keeps call

theorem placeFrame_returns (budget : ops.Budget free) {area : MapArea} {t : T} {vpn : VirtPageNum}
    (empty : area.dataFrames vpn = none) (enough : 1 ≤ free t) :
    ∃ area' ppn t', area.placeFrame ops t vpn = .ok (area', ppn, t') := by
  unfold placeFrame
  split
  · exact ⟨_, _, _, rfl⟩
  · obtain ⟨frame, t₁, call⟩ := budget.frameAlloc_budget.alloc_some t enough
    simp only [call, empty, dropTracker, ok_bind]
    exact ⟨_, _, _, rfl⟩

theorem placeFrame_spends (budget : ops.Budget free) {area area' : MapArea} {t t' : T}
    {vpn : VirtPageNum} {ppn : PhysPageNum} (call : area.placeFrame ops t vpn = .ok (area', ppn, t')) :
    free t ≤ free t' + 1 := by
  unfold placeFrame at call
  split at call
  · rw [Except.ok.injEq, Prod.mk.injEq, Prod.mk.injEq] at call
    rw [call.2.2]
    omega
  · split at call
    · rename_i frame t₁ allocated
      obtain ⟨t₂, dropped, placed⟩ := bind_eq_ok.mp call
      rw [Except.ok.injEq, Prod.mk.injEq, Prod.mk.injEq] at placed
      rw [← placed.2.2]
      have spent := budget.frameAlloc_budget.alloc_spends allocated
      have kept := dropTracker_keeps budget dropped
      omega
    · cases call

theorem placeFrame_dataFrames {area area' : MapArea} {t t' : T} {vpn : VirtPageNum}
    {ppn : PhysPageNum} (call : area.placeFrame ops t vpn = .ok (area', ppn, t')) (v : VirtPageNum)
    (other : v ≠ vpn) : area'.dataFrames v = area.dataFrames v := by
  unfold placeFrame at call
  split at call
  · rw [Except.ok.injEq, Prod.mk.injEq] at call
    rw [call.1]
  · split at call
    · obtain ⟨t₂, -, placed⟩ := bind_eq_ok.mp call
      rw [Except.ok.injEq, Prod.mk.injEq] at placed
      rw [← placed.1]
      exact Function.update_of_ne other _ _
    · cases call

theorem mapOne_eq (area : MapArea) (t : T) (vpn : VirtPageNum) :
    area.mapOne ops t vpn = area.placeFrame ops t vpn >>= fun placed =>
      ops.map placed.2.2 vpn placed.2.1 ⟨placed.1.mapPerm.bits⟩ >>= fun t' => .ok (placed.1, t') := by
  unfold mapOne
  congr 1
  funext placed
  simp only [PTEFlags.fromBits_eq]

theorem mapOne_returns (budget : ops.Budget free) {area : MapArea} {t : T} {vpn : VirtPageNum}
    (empty : area.dataFrames vpn = none) (enough : 3 ≤ free t) :
    area.mapOne ops t vpn ≠ .error unwrapNone := by
  obtain ⟨area₁, ppn, t₁, placed⟩ := placeFrame_returns budget empty (show 1 ≤ free t by omega)
  have spent := placeFrame_spends budget placed
  have mapped := budget.map_returns t₁ vpn ppn ⟨area₁.mapPerm.bits⟩ (by omega)
  rw [mapOne_eq, placed, ok_bind]
  exact bind_ne_error mapped fun _ _ => by simp

theorem mapOne_spends (budget : ops.Budget free) {area area' : MapArea} {t t' : T}
    {vpn : VirtPageNum} (call : area.mapOne ops t vpn = .ok (area', t')) : free t ≤ free t' + 3 := by
  rw [mapOne_eq] at call
  obtain ⟨⟨area₁, ppn, t₁⟩, placed, rest⟩ := bind_eq_ok.mp call
  dsimp only at rest
  obtain ⟨t₂, mapped, done⟩ := bind_eq_ok.mp rest
  rw [Except.ok.injEq, Prod.mk.injEq] at done
  rw [← done.2]
  have first := placeFrame_spends budget placed
  have second := budget.map_spends mapped
  omega

theorem mapOne_dataFrames {area area' : MapArea} {t t' : T} {vpn : VirtPageNum}
    (call : area.mapOne ops t vpn = .ok (area', t')) (v : VirtPageNum) (other : v ≠ vpn) :
    area'.dataFrames v = area.dataFrames v := by
  rw [mapOne_eq] at call
  obtain ⟨⟨area₁, ppn, t₁⟩, placed, rest⟩ := bind_eq_ok.mp call
  dsimp only at rest
  obtain ⟨t₂, -, done⟩ := bind_eq_ok.mp rest
  rw [Except.ok.injEq, Prod.mk.injEq] at done
  rw [← done.1]
  exact placeFrame_dataFrames placed v other

theorem mapVpns_returns (budget : ops.Budget free) :
    ∀ (rest : List VirtPageNum) (area : MapArea) (t : T), rest.Nodup →
      (∀ v ∈ rest, area.dataFrames v = none) → 3 * rest.length ≤ free t →
      area.mapVpns ops t rest ≠ .error unwrapNone
  | [], _, _, _, _, _ => by simp [mapVpns]
  | vpn :: rest, area, t, distinct, empty, enough => by
      rw [List.nodup_cons] at distinct
      rw [List.length_cons] at enough
      rw [mapVpns]
      refine bind_ne_error (mapOne_returns budget (empty vpn List.mem_cons_self) (by omega)) ?_
      rintro ⟨area₁, t₁⟩ first
      have spent := mapOne_spends budget first
      refine mapVpns_returns budget rest area₁ t₁ distinct.2 (fun v member => ?_) (by omega)
      rw [mapOne_dataFrames first v (fun same => distinct.1 (same ▸ member))]
      exact empty v (List.mem_cons_of_mem _ member)

theorem mapVpns_spends (budget : ops.Budget free) :
    ∀ (rest : List VirtPageNum) (area : MapArea) (t : T) {area' : MapArea} {t' : T},
      area.mapVpns ops t rest = .ok (area', t') → free t ≤ free t' + 3 * rest.length
  | [], _, _, _, _, call => by
      rw [mapVpns, Except.ok.injEq, Prod.mk.injEq] at call
      rw [call.2]
      omega
  | vpn :: rest, area, t, _, _, call => by
      rw [mapVpns] at call
      obtain ⟨⟨area₁, t₁⟩, first, later⟩ := bind_eq_ok.mp call
      have spent := mapOne_spends budget first
      have spentLater := mapVpns_spends budget rest area₁ t₁ later
      rw [List.length_cons]
      omega

end MapArea

/-- The pages of the identical areas `parts`. -/
def sectionPages (parts : List (Nat × Nat × MapPermission)) : Nat :=
  (parts.map fun part => (sectionRange part).vpns.length).sum

namespace MemorySet

variable {T : Type} {ops : PageTableOps T} {free : T → Nat}

theorem push_returns (budget : ops.Budget free) {self : MemorySet T} {area : MapArea}
    (empty : ∀ v ∈ area.vpnRange.vpns, area.dataFrames v = none)
    (enough : 3 * area.vpnRange.vpns.length ≤ free self.pageTable) :
    self.push ops area ≠ .error unwrapNone :=
  bind_ne_error (MapArea.mapVpns_returns budget _ _ _ (VPNRange.vpns_nodup _) empty enough)
    fun _ _ => by simp

theorem push_spends (budget : ops.Budget free) {self self' : MemorySet T} {area : MapArea}
    (call : self.push ops area = .ok self') :
    free self.pageTable ≤ free self'.pageTable + 3 * area.vpnRange.vpns.length := by
  obtain ⟨⟨area', t'⟩, mapped, pushed⟩ := bind_eq_ok.mp call
  rw [Except.ok.injEq] at pushed
  rw [← pushed]
  exact MapArea.mapVpns_spends budget _ _ _ mapped

theorem mapTrampoline_returns (budget : ops.Budget free) {self : MemorySet T} {strampoline : Nat}
    (aligned : strampoline % 4096 = 0) (enough : 2 ≤ free self.pageTable) :
    self.mapTrampoline ops strampoline ≠ .error unwrapNone := by
  rw [mapTrampoline, trampoline_intoVpn, ok_bind, intoPpn_of_aligned aligned, ok_bind]
  exact bind_ne_error (budget.map_returns _ _ _ _ enough) fun _ _ => by simp

theorem mapTrampoline_spends (budget : ops.Budget free) {self self' : MemorySet T}
    {strampoline : Nat} (call : self.mapTrampoline ops strampoline = .ok self') :
    free self.pageTable ≤ free self'.pageTable + 2 := by
  obtain ⟨vpn, -, rest⟩ := bind_eq_ok.mp call
  obtain ⟨ppn, -, rest⟩ := bind_eq_ok.mp rest
  obtain ⟨t', mapped, kept⟩ := bind_eq_ok.mp rest
  rw [Except.ok.injEq] at kept
  rw [← kept]
  exact budget.map_spends mapped

theorem pushIdentical_eq (self : MemorySet T) {part : Nat × Nat × MapPermission}
    (fits : SectionFits part) :
    self.pushIdentical ops part.1 part.2.1 part.2.2 =
      self.push ops ⟨sectionRange part, fun _ => none, .identical, part.2.2⟩ := by
  rw [pushIdentical, MapArea.new_section fits, ok_bind]

theorem pushIdenticals_returns (budget : ops.Budget free) :
    ∀ (parts : List (Nat × Nat × MapPermission)) (space : MemorySet T),
      (∀ part ∈ parts, SectionFits part) → 3 * sectionPages parts ≤ free space.pageTable →
      parts.foldlM (fun space part => space.pushIdentical ops part.1 part.2.1 part.2.2) space ≠
        .error unwrapNone
  | [], _, _, _ => fun failed => by cases failed
  | part :: rest, space, fits, enough => by
      have pages : sectionPages (part :: rest) =
          (sectionRange part).vpns.length + sectionPages rest := by
        simp only [sectionPages, List.map_cons, List.sum_cons]
      rw [List.foldlM_cons, pushIdentical_eq space (fits part List.mem_cons_self)]
      refine bind_ne_error (push_returns budget (fun _ _ => rfl) (by dsimp only; omega))
        fun space₁ first => ?_
      have spent := push_spends budget first
      exact pushIdenticals_returns budget rest space₁
        (fun other member => fits other (List.mem_cons_of_mem _ member)) (by dsimp only at spent; omega)

theorem pushIdenticals_spends (budget : ops.Budget free) :
    ∀ (parts : List (Nat × Nat × MapPermission)) (space : MemorySet T) {space' : MemorySet T},
      (∀ part ∈ parts, SectionFits part) →
      parts.foldlM (fun space part => space.pushIdentical ops part.1 part.2.1 part.2.2) space =
        .ok space' →
      free space.pageTable ≤ free space'.pageTable + 3 * sectionPages parts
  | [], space, _, _, call => by
      rw [List.foldlM_nil] at call
      cases call
      simp [sectionPages]
  | part :: rest, space, _, fits, call => by
      have pages : sectionPages (part :: rest) =
          (sectionRange part).vpns.length + sectionPages rest := by
        simp only [sectionPages, List.map_cons, List.sum_cons]
      rw [List.foldlM_cons, pushIdentical_eq space (fits part List.mem_cons_self)] at call
      obtain ⟨space₁, first, later⟩ := bind_eq_ok.mp call
      have spent := push_spends budget first
      have spentLater := pushIdenticals_spends budget rest space₁
        (fun other member => fits other (List.mem_cons_of_mem _ member)) later
      dsimp only at spent
      omega

variable {symbols : KernelSymbols}

theorem newKernel_returns (budget : ops.Budget free) (laid : symbols.Laid) {pageTable : T}
    (enough : 2 + 3 * sectionPages (kernelSections symbols) ≤ free pageTable) :
    newKernel ops pageTable symbols ≠ .error unwrapNone := by
  rw [newKernel_eq]
  refine bind_ne_error (mapTrampoline_returns budget laid.aligned.2.2.2.2 (by dsimp [newBare]; omega))
    fun space call => ?_
  have spent := mapTrampoline_spends budget call
  exact pushIdenticals_returns budget _ space laid.sections_fit (by dsimp [newBare] at spent; omega)

theorem newKernel_spends (budget : ops.Budget free) (laid : symbols.Laid) {pageTable : T}
    {space : MemorySet T} (call : newKernel ops pageTable symbols = .ok space) :
    free pageTable ≤ free space.pageTable + (2 + 3 * sectionPages (kernelSections symbols)) := by
  rw [newKernel_eq] at call
  obtain ⟨space₁, first, later⟩ := bind_eq_ok.mp call
  have spent := mapTrampoline_spends budget first
  have spentLater := pushIdenticals_spends budget _ space₁ laid.sections_fit later
  dsimp [newBare] at spent
  omega

variable {Good : T → List PhysPageNum → Prop}
  {mapping : T → VirtPageNum → Option (PhysPageNum × PTEFlags)}

theorem newKernel_ok (lawful : ops.Lawful Good mapping) (budget : ops.Budget free)
    (laid : symbols.Laid) {pageTable : T} (good : Good pageTable [])
    (empty : ∀ vpn, vpn.val < 2 ^ 27 → mapping pageTable vpn = none)
    (enough : 2 + 3 * sectionPages (kernelSections symbols) ≤ free pageTable) :
    ∃ space, newKernel ops pageTable symbols = .ok space ∧
      free pageTable ≤ free space.pageTable + (2 + 3 * sectionPages (kernelSections symbols)) := by
  rcases newKernel_tracks lawful laid good empty with failed | ⟨space, call, -⟩
  · exact absurd failed.1 (newKernel_returns budget laid enough)
  · exact ⟨space, call, newKernel_spends budget laid call⟩

end MemorySet

end ChOs
