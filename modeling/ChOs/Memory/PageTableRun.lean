import ChOs.Memory.PageTableRefinement
import ChOs.Library.Transition

set_option autoImplicit false

/- Runs of `map` and `unmap` on one page table (`os/src/memory/page_table.rs`). -/

namespace ChOs

open IndexTree

namespace PageTable

variable {σ : Type} (alloc : σ → Option PhysPageNum × σ) (Avoids : σ → List PhysPageNum → Prop)

/-- A state of a run: the table, the machine it lives in, and the partial map the
calls so far stand for. -/
structure Run (σ : Type) where
  table : PageTable
  machine : Machine σ
  abstract : VirtPageNum → Option (PhysPageNum × PTEFlags)

/-- One call of a run that returns. -/
inductive Step : Run σ → Run σ → Prop
  | map {state : Run σ} {table : PageTable} {machine : Machine σ} (vpn : VirtPageNum)
      (ppn : PhysPageNum) (flags : PTEFlags) (small : vpn.val < 2 ^ 27)
      (fits : ppn.val < 2 ^ 44)
      (call : state.table.map alloc state.machine vpn ppn flags = .ok (table, machine)) :
      Step state
        ⟨table, machine, Function.update state.abstract vpn (some (ppn, flags ||| PTEFlags.V))⟩
  | unmap {state : Run σ} {memory : Nat → UInt8} (vpn : VirtPageNum) (small : vpn.val < 2 ^ 27)
      (call : state.table.unmap state.machine.memory vpn = .ok memory) :
      Step state
        ⟨state.table, { state.machine with memory := memory },
          Function.update state.abstract vpn none⟩

/-- The invariant of a run: the table keeps its shape in a machine whose allocator
avoids its frames, and below `2^27` it maps exactly what the partial map does, which
maps nothing above. -/
structure Refines (state : Run σ) : Prop where
  sound : Sound Avoids state.table state.machine
  agrees : ∀ vpn, vpn.val < 2 ^ 27 →
    state.table.mapping state.machine.memory vpn = state.abstract vpn
  domain : ∀ vpn, state.abstract vpn ≠ none → vpn.val < 2 ^ 27

theorem follow_fresh_root (memory : Nat → UInt8) (frame : PhysPageNum)
    (small : frame.val < 2 ^ 44) (index : Nat) (path : List Nat) (inside : index < 512) :
    follow (entryChild (FrameTracker.new memory frame)) frame (index :: path) = none := by
  have empty : entryChild (FrameTracker.new memory frame) frame index = none := by
    rw [entryChild_eq_none, readPte_frameTracker_same memory frame index small inside,
      PageTableEntry.empty_isValid]
  simp only [follow, empty, Option.bind_none]

theorem tree_new (memory : Nat → UInt8) (frame : PhysPageNum) (small : frame.val < 2 ^ 44) :
    Tree ⟨frame, [frame]⟩ (FrameTracker.new memory frame) := by
  have stops : ∀ path node, Within 2 512 path →
      follow (entryChild (FrameTracker.new memory frame)) frame path = some node →
        path = [] ∧ node = frame := by
    intro path node within walk
    cases path with
    | nil => exact ⟨rfl, (Option.some.inj walk).symm⟩
    | cons index rest =>
        rw [follow_fresh_root memory frame small index rest (within.2 index (by simp))] at walk
        cases walk
  refine ⟨fun owned member => ?_, fun path node within walk => ?_, ?_⟩
  · rw [List.mem_singleton.mp member]
    exact small
  · rw [(stops path node within walk).2]
    exact List.mem_singleton_self frame
  · intro path other node within withinOther walk walkOther
    rw [(stops path node within walk).1, (stops other node withinOther walkOther).1]

theorem new_refines (supply : FreshSupply alloc Avoids) {machine created : Machine σ}
    {table : PageTable} (start : Avoids machine.allocator [])
    (new : PageTable.new alloc machine = .ok (table, created)) :
    Refines Avoids ⟨table, created, fun _ => none⟩ := by
  unfold PageTable.new at new
  rcases call : frameAlloc alloc machine with ⟨_ | frame, after⟩
  · rw [call] at new
    simp at new
  · rw [call] at new
    simp only [Except.ok.injEq, Prod.mk.injEq] at new
    obtain ⟨rfl, rfl⟩ := new
    obtain ⟨allocated, zeroed⟩ := frameAlloc_some call
    obtain ⟨-, small, avoids⟩ := supply _ [] start frame _ allocated
    rw [List.nil_append] at avoids
    have tree := tree_new machine.memory frame small
    rw [← zeroed] at tree
    refine ⟨⟨tree, avoids⟩, fun vpn _ => ?_, fun vpn mapped => absurd rfl mapped⟩
    rw [mapping_eq, zeroed]
    simp only [VirtPageNum.nodePath]
    rw [follow_fresh_root _ _ small _ _ (Nat.mod_lt _ (by decide)), Option.bind_none]

theorem map_returned (supply : FreshSupply alloc Avoids) {table table' : PageTable}
    {machine machine' : Machine σ} (sound : Sound Avoids table machine) {vpn : VirtPageNum}
    {ppn : PhysPageNum} {flags : PTEFlags} (fits : ppn.val < 2 ^ 44)
    (call : table.map alloc machine vpn ppn flags = .ok (table', machine')) :
    Sound Avoids table' machine' ∧ ∀ other, table'.mapping machine'.memory other =
      if other.indexes = vpn.indexes then some (ppn, flags ||| PTEFlags.V)
      else table.mapping machine.memory other := by
  have unmapped : table.mapping machine.memory vpn = none := by
    by_contra mapped
    rw [map_of_mapped alloc vpn ppn flags mapped] at call
    cases call
  rcases map_of_unmapped alloc Avoids supply sound vpn ppn flags fits unmapped with
    failed | ⟨table'', machine'', returned, sound', -, mapped⟩
  · rw [failed] at call
    cases call
  rw [returned] at call
  obtain ⟨rfl, rfl⟩ := Prod.mk.inj (Except.ok.inj call)
  exact ⟨sound', mapped⟩

theorem unmap_returned {table : PageTable} {memory memory' : Nat → UInt8}
    (tree : Tree table memory) {vpn : VirtPageNum}
    (call : table.unmap memory vpn = .ok memory') :
    Tree table memory' ∧ ∀ other, table.mapping memory' other =
      if other.indexes = vpn.indexes then none else table.mapping memory other := by
  have present : table.mapping memory vpn ≠ none := by
    intro unmapped
    obtain ⟨message, failed⟩ := unmap_of_unmapped _ _ vpn unmapped
    rw [failed] at call
    cases call
  obtain ⟨memory'', returned, tree', removed⟩ := unmap_of_mapped tree vpn present
  rw [returned] at call
  obtain rfl := Except.ok.inj call
  exact ⟨tree', removed⟩

theorem update_agrees {mapping abstract : VirtPageNum → Option (PhysPageNum × PTEFlags)}
    {vpn other : VirtPageNum} (entry : Option (PhysPageNum × PTEFlags))
    (small : vpn.val < 2 ^ 27) (smallOther : other.val < 2 ^ 27)
    (agrees : other ≠ vpn → mapping other = abstract other) :
    (if other.indexes = vpn.indexes then entry else mapping other) =
      Function.update abstract vpn entry other := by
  by_cases same : other = vpn
  · rw [if_pos (congrArg VirtPageNum.indexes same), same, Function.update_self]
  · rw [if_neg (fun indexes => same
      ((VirtPageNum.indexes_eq_iff vpn other small smallOther).mp indexes)),
      Function.update_of_ne same, agrees same]

theorem update_domain {abstract : VirtPageNum → Option (PhysPageNum × PTEFlags)}
    {vpn : VirtPageNum} (entry : Option (PhysPageNum × PTEFlags)) (small : vpn.val < 2 ^ 27)
    (domain : ∀ other, abstract other ≠ none → other.val < 2 ^ 27) :
    ∀ other, Function.update abstract vpn entry other ≠ none → other.val < 2 ^ 27 := by
  intro other present
  by_cases same : other = vpn
  · rw [same]
    exact small
  · rw [Function.update_of_ne same] at present
    exact domain other present

theorem step_refines (supply : FreshSupply alloc Avoids) {state next : Run σ}
    (refines : Refines Avoids state) (step : Step alloc state next) : Refines Avoids next := by
  cases step with
  | map vpn ppn flags small fits call =>
      obtain ⟨sound', mapped⟩ := map_returned alloc Avoids supply refines.sound fits call
      refine ⟨sound', fun other smallOther => ?_, update_domain _ small refines.domain⟩
      rw [mapped other]
      exact update_agrees _ small smallOther fun _ => refines.agrees other smallOther
  | unmap vpn small call =>
      obtain ⟨tree', removed⟩ := unmap_returned refines.sound.tree call
      refine ⟨⟨tree', refines.sound.avoids⟩, fun other smallOther => ?_,
        update_domain _ small refines.domain⟩
      show state.table.mapping _ other = _
      rw [removed other]
      exact update_agrees _ small smallOther fun _ => refines.agrees other smallOther

/-- What a reachable state promises: the assertions of `map` and `unmap` fail exactly
on mapped and on unmapped pages; a call that returns changes the mapping of no other
page; `translate` finds a valid entry exactly for the mapped pages, holding their page
number and flags; the table rebuilt from its token translates like the table; and a
mapped address translates to its frame plus its offset in the page. -/
structure Contract (state : Run σ) : Prop where
  map_asserts : ∀ vpn ppn flags, vpn.val < 2 ^ 27 → ppn.val < 2 ^ 44 →
    (state.table.map alloc state.machine vpn ppn flags = .error "vpn is mapped before mapping" ↔
      state.abstract vpn ≠ none)
  unmap_fails : ∀ vpn, vpn.val < 2 ^ 27 →
    ((∃ message, state.table.unmap state.machine.memory vpn = .error message) ↔
      state.abstract vpn = none)
  map_frame : ∀ vpn ppn flags table machine, vpn.val < 2 ^ 27 → ppn.val < 2 ^ 44 →
    state.table.map alloc state.machine vpn ppn flags = .ok (table, machine) →
    ∀ other, other.val < 2 ^ 27 → other ≠ vpn →
      table.mapping machine.memory other = state.table.mapping state.machine.memory other
  unmap_frame : ∀ vpn memory, vpn.val < 2 ^ 27 →
    state.table.unmap state.machine.memory vpn = .ok memory →
    ∀ other, other.val < 2 ^ 27 → other ≠ vpn →
      state.table.mapping memory other = state.table.mapping state.machine.memory other
  translate_agrees : ∀ vpn, vpn.val < 2 ^ 27 → ∀ entry,
    state.abstract vpn = some entry ↔
      ∃ pte, state.table.translate state.machine.memory vpn = some pte ∧ pte.isValid = true ∧
        (pte.ppn, pte.flags) = entry
  fromToken_translate : ∀ vpn,
    (fromToken state.table.token).translate state.machine.memory vpn =
      state.table.translate state.machine.memory vpn
  translateVa_mapped : ∀ va ppn flags, state.abstract va.floor = some (ppn, flags) →
    state.table.translateVa state.machine.memory va = some ⟨ppn.val * 4096 + va.val % 4096⟩

section Contract

variable {alloc Avoids}

theorem contract_of_refines (supply : FreshSupply alloc Avoids) {state : Run σ}
    (refines : Refines Avoids state) : Contract alloc state := by
  refine ⟨fun vpn ppn flags small fits => ⟨fun failed mapped => ?_, fun mapped => ?_⟩,
    fun vpn small => ⟨fun ⟨message, failed⟩ => ?_, fun unmapped => ?_⟩,
    fun vpn ppn flags table machine small fits call other smallOther differ => ?_,
    fun vpn memory small call other smallOther differ => ?_,
    fun vpn small entry => ?_, fun vpn => ?_, fun va ppn flags mapped => ?_⟩
  · rw [← refines.agrees vpn small] at mapped
    rcases map_of_unmapped alloc Avoids supply refines.sound vpn ppn flags fits mapped with
      exhausted | ⟨_, _, returned, -⟩
    · rw [exhausted] at failed
      exact absurd (Except.error.inj failed) (by decide)
    · rw [returned] at failed
      cases failed
  · rw [← refines.agrees vpn small] at mapped
    exact map_of_mapped alloc vpn ppn flags mapped
  · by_contra mapped
    rw [← refines.agrees vpn small] at mapped
    obtain ⟨_, returned, -⟩ := unmap_of_mapped refines.sound.tree vpn mapped
    rw [returned] at failed
    cases failed
  · rw [← refines.agrees vpn small] at unmapped
    exact unmap_of_unmapped _ _ vpn unmapped
  · rw [(map_returned alloc Avoids supply refines.sound fits call).2 other,
      if_neg (fun indexes => differ
        ((VirtPageNum.indexes_eq_iff vpn other small smallOther).mp indexes))]
  · rw [(unmap_returned refines.sound.tree call).2 other, if_neg (fun indexes => differ
      ((VirtPageNum.indexes_eq_iff vpn other small smallOther).mp indexes))]
  · rw [← refines.agrees vpn small]
    exact mapping_eq_some_iff _ _ vpn entry
  · exact fromToken_token_translate _ _ refines.sound.tree.root_bounded vpn
  · have small := refines.domain va.floor (by rw [mapped]; exact Option.some_ne_none _)
    exact translateVa_of_mapping _ _ va ppn flags ((refines.agrees va.floor small).trans mapped)

end Contract

/-- Every state that `map` and `unmap` calls reach from `PageTable::new()` meets the
contract, for any `frame_alloc` that hands out frames the table does not own. -/
theorem page_table_refines_partial_map (supply : FreshSupply alloc Avoids)
    (machine created : Machine σ) (table : PageTable) (start : Avoids machine.allocator [])
    (new : PageTable.new alloc machine = .ok (table, created)) {state : Run σ}
    (reached : Transition.Reachable (Step alloc) ⟨table, created, fun _ => none⟩ state) :
    Contract alloc state :=
  contract_of_refines supply (reached.invariant (new_refines alloc Avoids supply start new)
    fun _ _ refines step => step_refines alloc Avoids supply refines step)

end PageTable

namespace Frames

/-- `frame_alloc` on the stack allocator: the frame it hands out joins the held frames,
as its `FrameTracker` does. -/
def allocHeld (frames : Frames) : Option PhysPageNum × Frames :=
  (frames.allocator.alloc.1,
    ⟨frames.allocator.alloc.2,
      frames.allocator.alloc.1.toList.map PhysPageNum.val ++ frames.allocated⟩)

/-- The allocator is partitioned and holds every frame of `used`. -/
def Holds (l r : Nat) (frames : Frames) (used : List PhysPageNum) : Prop :=
  Partition l r frames ∧ ∀ frame ∈ used, frame.val ∈ frames.allocated

theorem holds_freshSupply (l r : Nat) (fits : r ≤ 2 ^ 44) :
    PageTable.FreshSupply allocHeld (Holds l r) := by
  rintro frames used ⟨part, held⟩ frame next call
  obtain ⟨first, rfl⟩ := Prod.mk.inj call
  have allocated : frames.allocator.alloc = (some frame, frames.allocator.alloc.2) := by
    rw [← first]
  obtain ⟨notHeld, -, below⟩ := part.alloc_fresh fits allocated
  refine ⟨fun member => notHeld (held frame member), by omega, ?_, ?_⟩
  · have moved := step_partition fits part (Step.alloc allocated)
    rw [first]
    exact moved
  · intro owned member
    rw [first]
    rcases List.mem_append.mp member with old | new
    · exact List.mem_append_right _ (held owned old)
    · rw [List.mem_singleton.mp new]
      simp

end Frames

namespace PageTable

/-- `map(0x12345, 9, R)`, `map(0x12346, 10, W)` and `unmap(0x12345)` on a fresh table over
frames `[1, 8)`. -/
theorem page_table_refines_partial_map_run :
    ∃ table machine state,
      PageTable.new Frames.allocHeld ⟨fun _ => 0, Frames.initial 1 8⟩ = .ok (table, machine) ∧
      Transition.Reachable (Step Frames.allocHeld) ⟨table, machine, fun _ => none⟩ state ∧
      state.abstract ⟨0x12345⟩ = none ∧ state.abstract ⟨0x12346⟩ = some (⟨10⟩, PTEFlags.W ||| PTEFlags.V) ∧
      Contract Frames.allocHeld state := by
  have check : (PageTable.new Frames.allocHeld ⟨fun _ => 0, Frames.initial 1 8⟩).toOption.any
      (fun (table, machine) => (table.map Frames.allocHeld machine ⟨0x12345⟩ ⟨9⟩ PTEFlags.R).toOption.any
        (fun (table, machine) => (table.map Frames.allocHeld machine ⟨0x12346⟩ ⟨10⟩ PTEFlags.W).toOption.any
          (fun (table, machine) => (table.unmap machine.memory ⟨0x12345⟩).toOption.any
            fun _ => true))) = true := by
    decide +kernel
  obtain ⟨⟨table, machine⟩, built, check⟩ := ok_of_toOption_any check
  obtain ⟨⟨table₁, machine₁⟩, first, check⟩ := ok_of_toOption_any check
  obtain ⟨⟨table₂, machine₂⟩, second, check⟩ := ok_of_toOption_any check
  obtain ⟨memory, removed, -⟩ := ok_of_toOption_any check
  have reached : Transition.Reachable (Step Frames.allocHeld) ⟨table, machine, fun _ => none⟩
      ⟨table₂, { machine₂ with memory := memory }, Function.update (Function.update
        (Function.update (fun _ => none) ⟨0x12345⟩ (some (⟨9⟩, PTEFlags.R ||| PTEFlags.V)))
        ⟨0x12346⟩ (some (⟨10⟩, PTEFlags.W ||| PTEFlags.V))) ⟨0x12345⟩ none⟩ :=
    .step (.step (.step .init (.map _ _ _ (by decide) (by decide) first))
      (.map _ _ _ (by decide) (by decide) second)) (.unmap _ (by decide) removed)
  exact ⟨table, machine, _, built, reached, rfl, rfl,
    page_table_refines_partial_map Frames.allocHeld (Frames.Holds 1 8)
      (Frames.holds_freshSupply 1 8 (by decide)) _ _ _
      ⟨Frames.initial_partition 1 8 (by decide), fun _ member => absurd member List.not_mem_nil⟩
      built reached⟩

end PageTable

end ChOs
