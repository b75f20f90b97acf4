import ChOs.Memory.MemorySet
import ChOs.Memory.PageTableRun

set_option autoImplicit false

/- The page table of `page_table.rs` and the stack frame allocator as the table the
areas of a `MemorySet` call (`os/src/memory/page_table.rs`, `frame_allocator.rs`). -/

namespace ChOs

open IndexTree

namespace Frames

/-- `frame_dealloc` of the frame of a dropped `FrameTracker`. -/
def deallocHeld (frames : Frames) (ppn : PhysPageNum) : Except String Frames :=
  match frames.allocator.dealloc ppn with
  | some allocator => .ok ⟨allocator, frames.allocated.erase ppn.val⟩
  | none => .error ("Frame ppn=" ++ hexString ppn.val ++ " has not been allocated!")

theorem deallocHeld_ok {l r : Nat} (fits : r ≤ 2 ^ 44) {frames : Frames} {ppn : PhysPageNum}
    (part : Partition l r frames) (held : ppn.val ∈ frames.allocated) :
    ∃ next, deallocHeld frames ppn = .ok next ∧ Partition l r next ∧
      next.allocated = frames.allocated.erase ppn.val := by
  obtain ⟨below, fresh⟩ := part.allocated_below held
  have accepted : frames.allocator.dealloc ppn =
      some { frames.allocator with recycled := frames.allocator.recycled ++ [ppn.val] } :=
    StackFrameAllocator.dealloc_eq_some.mpr ⟨below, fresh, rfl⟩
  exact ⟨_, by simp [deallocHeld, accepted],
    step_partition fits part (Step.dealloc held accepted), rfl⟩

end Frames

namespace PageTable

/-- The four calls of `PageTableOps` on the table of a machine. -/
def ops : PageTableOps (PageTable × Machine Frames) where
  map t vpn ppn flags := t.1.map Frames.allocHeld t.2 vpn ppn flags
  unmap t vpn := (t.1.unmap t.2.memory vpn).map fun memory => (t.1, { t.2 with memory := memory })
  frameAlloc t := ((frameAlloc Frames.allocHeld t.2).1, (t.1, (frameAlloc Frames.allocHeld t.2).2))
  frameDealloc t ppn :=
    (t.2.allocator.deallocHeld ppn).map fun allocator => (t.1, { t.2 with allocator := allocator })

/-- The allocator is partitioned and holds the frames `used` by the table and those
`held` by the trackers, all distinct. -/
def HoldsWith (l r : Nat) (held : List PhysPageNum) (frames : Frames)
    (used : List PhysPageNum) : Prop :=
  Frames.Holds l r frames (used ++ held) ∧ (used ++ held).Nodup

/-- The table is good for the frames `held`. -/
def Good (l r : Nat) (t : PageTable × Machine Frames) (held : List PhysPageNum) : Prop :=
  Sound (HoldsWith l r held) t.1 t.2

/-- The partial map of the table in its machine. -/
def mappingOf (t : PageTable × Machine Frames) : VirtPageNum → Option (PhysPageNum × PTEFlags) :=
  t.1.mapping t.2.memory

section Lawful

variable {l r : Nat}

theorem holds_congr {frames : Frames} {used used' : List PhysPageNum}
    (holds : Frames.Holds l r frames used) (same : ∀ frame, frame ∈ used' → frame ∈ used) :
    Frames.Holds l r frames used' :=
  ⟨holds.1, fun frame member => holds.2 frame (same frame member)⟩

theorem holdsWith_freshSupply (fits : r ≤ 2 ^ 44) (held : List PhysPageNum) :
    FreshSupply Frames.allocHeld (HoldsWith l r held) := by
  rintro frames used ⟨holds, distinct⟩ frame next call
  obtain ⟨fresh, small, holds'⟩ :=
    Frames.holds_freshSupply l r fits frames (used ++ held) holds frame next call
  have outside : frame ∉ used := fun member => fresh (List.mem_append_left _ member)
  refine ⟨outside, small, holds_congr holds' fun other member => ?_, ?_⟩
  · simp only [List.mem_append, List.mem_singleton] at member ⊢
    tauto
  · have moved : (used ++ [frame] ++ held).Perm (frame :: (used ++ held)) := by
      rw [List.append_assoc, List.singleton_append]
      exact List.perm_middle
    exact moved.nodup_iff.mpr (List.nodup_cons.mpr ⟨fresh, distinct⟩)

theorem entryChild_frameTracker {table : PageTable} {memory : Nat → UInt8}
    (tree : Tree table memory) {frame : PhysPageNum} (fresh : frame ∉ table.frames)
    (small : frame.val < 2 ^ 44) {node : PhysPageNum} (owned : node ∈ table.frames) {index : Nat}
    (inside : index < 512) :
    entryChild (FrameTracker.new memory frame) node index = entryChild memory node index := by
  have apart : frame ≠ node := fun same => fresh (same ▸ owned)
  simp only [entryChild,
    readPte_frameTracker_other memory frame node index small (tree.bounded node owned) inside apart]

theorem Tree.frameTracker {table : PageTable} {memory : Nat → UInt8} (tree : Tree table memory)
    {frame : PhysPageNum} (fresh : frame ∉ table.frames) (small : frame.val < 2 ^ 44) :
    Tree table (FrameTracker.new memory frame) ∧
      table.mapping (FrameTracker.new memory frame) = table.mapping memory := by
  have walks : ∀ path, Within 2 512 path →
      follow (entryChild (FrameTracker.new memory frame)) table.rootPpn path =
        follow (entryChild memory) table.rootPpn path :=
    follow_congr fun path node index within reached =>
      entryChild_frameTracker tree fresh small
        (tree.owned path node within.of_concat reached) within.last
  refine ⟨⟨tree.bounded, fun path node within reached => ?_,
    fun path other node within withinOther reached reachedOther => ?_⟩, ?_⟩
  · rw [walks path within] at reached
    exact tree.owned path node within reached
  · rw [walks path within] at reached
    rw [walks other withinOther] at reachedOther
    exact tree.injective path other node within withinOther reached reachedOther
  · funext vpn
    rw [mapping_eq, mapping_eq, walks vpn.nodePath vpn.nodePath_within]
    refine Option.bind_congr fun bottom reached => ?_
    have owned := tree.owned _ _ vpn.nodePath_within reached
    have apart : frame ≠ bottom := fun same => fresh (same ▸ owned)
    rw [readPte_frameTracker_other memory frame bottom _ small (tree.bounded bottom owned)
      (Nat.mod_lt _ (by decide)) apart]

theorem ite_indexes {α : Type} {vpn other : VirtPageNum} (small : vpn.val < 2 ^ 27)
    (smallOther : other.val < 2 ^ 27) (a b : α) :
    (if other.indexes = vpn.indexes then a else b) = if other = vpn then a else b := by
  rw [if_congr (VirtPageNum.indexes_eq_iff vpn other small smallOther) rfl rfl]

theorem lawful (fits : r ≤ 2 ^ 44) : ops.Lawful (Good l r) mappingOf where
  held_nodup good := (List.nodup_append.mp good.avoids.2).2.1
  held_perm good perm := ⟨good.tree, holds_congr good.avoids.1 fun frame member => by
      simp only [List.mem_append] at member ⊢
      exact member.imp id fun tracked => perm.symm.subset tracked,
    (perm.append_left _).nodup_iff.mp good.avoids.2⟩
  map_mapped ppn flags _ _ mapped := map_of_mapped Frames.allocHeld _ ppn flags mapped
  map_unmapped {t held vpn ppn} flags good small bounded unmapped := by
    rcases map_of_unmapped Frames.allocHeld (HoldsWith l r held) (holdsWith_freshSupply fits held)
        good vpn ppn flags bounded unmapped with failed | ⟨table', machine', call, sound', -, moved⟩
    · exact .inl failed
    · refine .inr ⟨(table', machine'), call, sound', fun other smallOther => ?_⟩
      rw [mappingOf, moved other, ite_indexes small smallOther]
      rfl
  unmap_mapped {t held vpn} good small mapped := by
    obtain ⟨memory', call, tree', moved⟩ := unmap_of_mapped good.tree vpn mapped
    refine ⟨(t.1, { t.2 with memory := memory' }), by simp only [ops, call]; rfl, ⟨tree', good.avoids⟩,
      fun other smallOther => ?_⟩
    rw [mappingOf, moved other, ite_indexes small smallOther]
    rfl
  frameAlloc_fresh {t held frame t'} good call := by
    simp only [ops, Prod.mk.injEq] at call
    obtain ⟨allocated, rfl⟩ := call
    obtain ⟨handed, zeroed⟩ := frameAlloc_some (Prod.ext allocated rfl)
    obtain ⟨fresh, small, holds'⟩ := Frames.holds_freshSupply l r fits _ _ good.avoids.1 frame _
      handed
    obtain ⟨tree', same⟩ := good.tree.frameTracker
      (fun member => fresh (List.mem_append_left _ member)) small
    refine ⟨fun member => fresh (List.mem_append_right _ member), small,
      ⟨by rw [zeroed]; exact tree', ?_, ?_⟩, by simp only [mappingOf, zeroed, same]⟩
    · rw [← List.append_assoc]
      exact holds'
    · rw [← List.append_assoc]
      have moved : (t.1.frames ++ held ++ [frame]).Perm (frame :: (t.1.frames ++ held)) :=
        List.perm_append_comm
      exact moved.nodup_iff.mpr (List.nodup_cons.mpr ⟨fresh, good.avoids.2⟩)
  frameDealloc_held {t held frame} good member := by
    have distinct := good.avoids.2
    have heldFrame : frame.val ∈ t.2.allocator.allocated :=
      good.avoids.1.2 frame (List.mem_append_right _ member)
    obtain ⟨next, call, part', erased⟩ := Frames.deallocHeld_ok fits good.avoids.1.1 heldFrame
    refine ⟨(t.1, { t.2 with allocator := next }), by simp only [ops, call]; rfl,
      ⟨good.tree, ⟨part', fun other kept => ?_⟩, ?_⟩, rfl⟩
    · have apart : other ≠ frame := by
        rintro rfl
        rcases List.mem_append.mp kept with node | tracked
        · exact (List.nodup_append.mp distinct).2.2 other node other member rfl
        · exact ((List.nodup_append.mp distinct).2.1.mem_erase_iff.mp tracked).1 rfl
      have values : other.val ≠ frame.val := fun same => apart (PhysPageNum.ext same)
      rw [erased]
      exact (List.mem_erase_of_ne values).mpr (good.avoids.1.2 other
        (List.mem_append.mpr ((List.mem_append.mp kept).imp id List.mem_of_mem_erase)))
    · exact distinct.sublist ((List.erase_sublist).append_left _)

theorem new_good (fits : r ≤ 2 ^ 44) {machine created : Machine Frames} {table : PageTable}
    (start : Frames.Partition l r machine.allocator) (empty : machine.allocator.allocated = [])
    (new : PageTable.new Frames.allocHeld machine = .ok (table, created)) :
    Good l r (table, created) [] ∧ ∀ vpn, vpn.val < 2 ^ 27 → mappingOf (table, created) vpn = none := by
  have refines := new_refines Frames.allocHeld (HoldsWith l r []) (holdsWith_freshSupply fits [])
    ⟨⟨start, by simp [empty]⟩, List.nodup_nil⟩ new
  exact ⟨refines.sound, fun vpn small => refines.agrees vpn small⟩

end Lawful

end PageTable

end ChOs
