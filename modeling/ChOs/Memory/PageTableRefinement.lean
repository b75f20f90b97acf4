import ChOs.Memory.PageTable
import ChOs.Library.IndexTree

set_option autoImplicit false

/- The page table refines a finite partial map (`os/src/memory/page_table.rs`). -/

namespace ChOs

open ByteMemory IndexTree

namespace PageTableEntry

/-- The page number and flags of a valid entry. -/
def target (pte : PageTableEntry) : Option (PhysPageNum × PTEFlags) :=
  if pte.isValid then some (pte.ppn, pte.flags) else none

theorem target_eq_none (pte : PageTableEntry) : pte.target = none ↔ pte.isValid = false := by
  unfold target
  cases pte.isValid <;> simp

@[simp] theorem empty_target : empty.target = none := by
  rw [target_eq_none, empty_isValid]

theorem new_or_V_target (ppn : PhysPageNum) (flags : PTEFlags) (small : ppn.val < 2 ^ 44) :
    (new ppn (flags ||| PTEFlags.V)).target = some (ppn, flags ||| PTEFlags.V) := by
  simp only [target, new_or_V_isValid _ _ small, if_true, new_ppn _ _ small,
    new_flags _ _ small]

theorem ppn_lt (pte : PageTableEntry) : pte.ppn.val < 2 ^ 44 := by
  rw [ppn_val]
  exact Nat.mod_lt _ (Nat.two_pow_pos 44)

end PageTableEntry

/-- The root index and the middle index of the walk to `vpn`. -/
def VirtPageNum.nodePath (vpn : VirtPageNum) : List Nat :=
  [vpn.val / 2 ^ 18 % 512, vpn.val / 2 ^ 9 % 512]

theorem VirtPageNum.indexes_eq_nodePath (vpn : VirtPageNum) :
    vpn.indexes = vpn.nodePath ++ [vpn.val % 512] := by
  rw [VirtPageNum.indexes_eq]
  rfl

theorem VirtPageNum.nodePath_within (vpn : VirtPageNum) : Within 2 512 vpn.nodePath := by
  refine ⟨by simp [VirtPageNum.nodePath], ?_⟩
  simp only [VirtPageNum.nodePath, List.mem_cons, List.not_mem_nil, or_false]
  omega

theorem VirtPageNum.indexes_eq_iff (vpn other : VirtPageNum) (small : vpn.val < 2 ^ 27)
    (smallOther : other.val < 2 ^ 27) : other.indexes = vpn.indexes ↔ other = vpn :=
  ⟨fun same => VirtPageNum.indexes_injective other vpn smallOther small same,
    fun same => by rw [same]⟩

section Entries

variable (memory : Nat → UInt8)

theorem entryChild_eq_some (node child : PhysPageNum) (index : Nat) :
    entryChild memory node index = some child ↔
      (readPte memory (pteAddress node index)).isValid = true ∧
        (readPte memory (pteAddress node index)).ppn = child := by
  unfold entryChild
  split <;> simp_all

theorem entryChild_eq_none (node : PhysPageNum) (index : Nat) :
    entryChild memory node index = none ↔
      (readPte memory (pteAddress node index)).isValid = false := by
  unfold entryChild
  split <;> simp_all

theorem entryChild_writePte_apart (address : Nat) (pte : PageTableEntry) (node : PhysPageNum)
    (index : Nat)
    (apart : address + 8 ≤ pteAddress node index ∨ pteAddress node index + 8 ≤ address) :
    entryChild (writePte memory address pte) node index = entryChild memory node index := by
  simp only [entryChild, readPte_writePte_apart memory address _ pte apart]

/-- The memory after `find_pte_create` has zeroed `frame` and pointed entry `index`
of `node` at it. -/
def installNode (node : PhysPageNum) (index : Nat) (frame : PhysPageNum) : Nat → UInt8 :=
  writePte (FrameTracker.new memory frame) (pteAddress node index)
    (PageTableEntry.new frame PTEFlags.V)

theorem readPte_installNode_slot (node frame : PhysPageNum) (index : Nat)
    (small : frame.val < 2 ^ 44) :
    readPte (installNode memory node index frame) (pteAddress node index) =
      PageTableEntry.new frame PTEFlags.V :=
  readPte_writePte _ _ _ (PageTableEntry.new_bits_lt _ _ small)

theorem entryChild_installNode_slot (node frame : PhysPageNum) (index : Nat)
    (small : frame.val < 2 ^ 44) :
    entryChild (installNode memory node index frame) node index = some frame := by
  rw [entryChild_eq_some, readPte_installNode_slot memory node frame index small,
    PageTableEntry.new_isValid _ _ small, PageTableEntry.new_ppn _ _ small]
  exact ⟨by decide, rfl⟩

theorem readPte_installNode_frame (node frame : PhysPageNum) (index slot : Nat)
    (smallNode : node.val < 2 ^ 44) (small : frame.val < 2 ^ 44) (inside : index < 512)
    (insideSlot : slot < 512) (differ : node ≠ frame) :
    readPte (installNode memory node index frame) (pteAddress frame slot) =
      PageTableEntry.empty := by
  rw [installNode, readPte_writePte_apart _ _ _ _
    (pteAddress_apart node frame index slot smallNode small inside insideSlot (.inl differ)),
    readPte_frameTracker_same memory frame slot small insideSlot]

theorem readPte_installNode_other (node frame other : PhysPageNum) (index slot : Nat)
    (smallNode : node.val < 2 ^ 44) (small : frame.val < 2 ^ 44)
    (smallOther : other.val < 2 ^ 44) (inside : index < 512) (insideSlot : slot < 512)
    (notSlot : node ≠ other ∨ index ≠ slot) (notFrame : frame ≠ other) :
    readPte (installNode memory node index frame) (pteAddress other slot) =
      readPte memory (pteAddress other slot) := by
  rw [installNode, readPte_writePte_apart _ _ _ _
    (pteAddress_apart node other index slot smallNode smallOther inside insideSlot notSlot),
    readPte_frameTracker_other memory frame other slot small smallOther insideSlot notFrame]

end Entries

namespace PageTable

/-- The partial map a table stands for: the page number and flags of the valid leaf
entry `translate` finds. -/
def mapping (table : PageTable) (memory : Nat → UInt8) (vpn : VirtPageNum) :
    Option (PhysPageNum × PTEFlags) :=
  (table.translate memory vpn).bind PageTableEntry.target

/-- The shape every table keeps: the nodes its walks reach are frames it owns, which
fit the 44 bits of a page number, and no node is reached at two places. -/
structure Tree (table : PageTable) (memory : Nat → UInt8) : Prop where
  bounded : ∀ frame ∈ table.frames, frame.val < 2 ^ 44
  owned : ∀ path node, Within 2 512 path →
    follow (entryChild memory) table.rootPpn path = some node → node ∈ table.frames
  injective : Injective (entryChild memory) table.rootPpn 2 512

theorem findPte_eq_follow (table : PageTable) (memory : Nat → UInt8) (vpn : VirtPageNum) :
    table.findPte memory vpn =
      (follow (entryChild memory) table.rootPpn vpn.nodePath).map fun bottom =>
        pteAddress bottom (vpn.val % 512) := by
  rw [findPte_eq, VirtPageNum.nodePath, follow_pair]

theorem mapping_eq (table : PageTable) (memory : Nat → UInt8) (vpn : VirtPageNum) :
    table.mapping memory vpn =
      (follow (entryChild memory) table.rootPpn vpn.nodePath).bind fun bottom =>
        (readPte memory (pteAddress bottom (vpn.val % 512))).target := by
  rw [mapping, translate, findPte_eq_follow]
  cases follow (entryChild memory) table.rootPpn vpn.nodePath <;> rfl

theorem mapping_eq_some_iff (table : PageTable) (memory : Nat → UInt8) (vpn : VirtPageNum)
    (entry : PhysPageNum × PTEFlags) :
    table.mapping memory vpn = some entry ↔
      ∃ pte, table.translate memory vpn = some pte ∧ pte.isValid = true ∧
        (pte.ppn, pte.flags) = entry := by
  unfold mapping PageTableEntry.target
  cases table.translate memory vpn with
  | none => simp
  | some pte => cases pte.isValid <;> simp

section Tree

variable {table : PageTable} {memory : Nat → UInt8}

theorem Tree.reached_bounded (tree : Tree table memory) {path : List Nat} {node : PhysPageNum}
    (within : Within 2 512 path)
    (reached : follow (entryChild memory) table.rootPpn path = some node) :
    node.val < 2 ^ 44 :=
  tree.bounded node (tree.owned path node within reached)

theorem Tree.root_bounded (tree : Tree table memory) : table.rootPpn.val < 2 ^ 44 :=
  tree.reached_bounded Within.nil (follow_nil _ _)

theorem Tree.reached_ne (tree : Tree table memory) {path other : List Nat}
    {node last : PhysPageNum} (within : Within 2 512 path) (withinOther : Within 2 512 other)
    (reached : follow (entryChild memory) table.rootPpn path = some node)
    (reachedOther : follow (entryChild memory) table.rootPpn other = some last)
    (differ : path ≠ other) : node ≠ last := by
  rintro rfl
  exact differ (tree.injective path other node within withinOther reached reachedOther)

theorem ne_nodePath_of_concat {path : List Nat} {index : Nat} (vpn : VirtPageNum)
    (within : Within 2 512 (path ++ [index])) : path ≠ vpn.nodePath := by
  intro same
  have short := within.1
  rw [same] at short
  simp [VirtPageNum.nodePath] at short

end Tree

section Install

variable {table : PageTable} {memory : Nat → UInt8} {place : List Nat} {node : PhysPageNum}
  {index : Nat} {frame : PhysPageNum}

theorem Tree.follow_installNode (tree : Tree table memory)
    (reached : follow (entryChild memory) table.rootPpn place = some node)
    (placed : Within 2 512 (place ++ [index])) (empty : entryChild memory node index = none)
    (fresh : frame ∉ table.frames) (small : frame.val < 2 ^ 44) :
    ∀ path, Within 2 512 path →
      follow (entryChild (installNode memory node index frame)) table.rootPpn path =
        if path = place ++ [index] then some frame
        else follow (entryChild memory) table.rootPpn path := by
  have smallNode := tree.reached_bounded placed.of_concat reached
  have nodeFresh : node ≠ frame := fun same =>
    fresh (same ▸ tree.owned place node placed.of_concat reached)
  refine follow_install tree.injective reached placed empty ?_ ?_
  · intro path last slot within walk
    have smallLast := tree.reached_bounded within.of_concat walk
    have lastFresh : frame ≠ last := fun same =>
      fresh (same ▸ tree.owned path last within.of_concat walk)
    by_cases atSlot : last = node ∧ slot = index
    · obtain ⟨rfl, rfl⟩ := atSlot
      rw [if_pos ⟨rfl, rfl⟩, entryChild_installNode_slot memory last frame slot small]
    · rw [if_neg atSlot]
      have notSlot : node ≠ last ∨ index ≠ slot := by
        by_cases same : last = node
        · exact .inr fun sameSlot => atSlot ⟨same, sameSlot.symm⟩
        · exact .inl fun sameNode => same sameNode.symm
      simp only [entryChild, readPte_installNode_other memory node frame last index slot
        smallNode small smallLast placed.last within.last notSlot lastFresh]
  · intro slot insideSlot
    rw [entryChild_eq_none, readPte_installNode_frame memory node frame index slot smallNode
      small placed.last insideSlot nodeFresh, PageTableEntry.empty_isValid]

theorem Tree.install (tree : Tree table memory)
    (reached : follow (entryChild memory) table.rootPpn place = some node)
    (placed : Within 2 512 (place ++ [index])) (empty : entryChild memory node index = none)
    (fresh : frame ∉ table.frames) (small : frame.val < 2 ^ 44) :
    Tree { table with frames := table.frames ++ [frame] } (installNode memory node index frame) := by
  have grown := tree.follow_installNode reached placed empty fresh small
  refine ⟨?_, ?_, injective_install tree.injective ?_ grown⟩
  · intro owned member
    rcases List.mem_append.mp member with old | new
    · exact tree.bounded owned old
    · rw [List.mem_singleton.mp new]
      exact small
  · intro path last within walk
    simp only [grown path within] at walk
    split at walk
    · simp [← Option.some.inj walk]
    · exact List.mem_append_left _ (tree.owned path last within walk)
  · intro path within walk
    exact fresh (tree.owned path frame within walk)

theorem Tree.mapping_installNode (tree : Tree table memory)
    (reached : follow (entryChild memory) table.rootPpn place = some node)
    (placed : Within 2 512 (place ++ [index])) (empty : entryChild memory node index = none)
    (fresh : frame ∉ table.frames) (small : frame.val < 2 ^ 44) (vpn : VirtPageNum) :
    table.mapping (installNode memory node index frame) vpn = table.mapping memory vpn := by
  have smallNode := tree.reached_bounded placed.of_concat reached
  have nodeFresh : node ≠ frame := fun same =>
    fresh (same ▸ tree.owned place node placed.of_concat reached)
  have lowInside : vpn.val % 512 < 512 := Nat.mod_lt _ (by decide)
  rw [mapping_eq, mapping_eq,
    tree.follow_installNode reached placed empty fresh small _ vpn.nodePath_within]
  by_cases atNew : vpn.nodePath = place ++ [index]
  · rw [if_pos atNew, Option.bind_some, readPte_installNode_frame memory node frame index _
      smallNode small placed.last lowInside nodeFresh, PageTableEntry.empty_target, atNew,
      follow_concat, reached, Option.bind_some, empty, Option.bind_none]
  · rw [if_neg atNew]
    cases walk : follow (entryChild memory) table.rootPpn vpn.nodePath with
    | none => simp only [Option.bind_none]
    | some bottom =>
        have bottomNode : node ≠ bottom :=
          tree.reached_ne placed.of_concat vpn.nodePath_within reached walk
            (ne_nodePath_of_concat vpn placed)
        have bottomFresh : frame ≠ bottom := fun same =>
          fresh (same ▸ tree.owned _ bottom vpn.nodePath_within walk)
        simp only [Option.bind_some, readPte_installNode_other memory node frame bottom index _
          smallNode small (tree.reached_bounded vpn.nodePath_within walk) placed.last lowInside
          (.inl bottomNode) bottomFresh]

end Install

section Leaf

variable {table : PageTable} {memory : Nat → UInt8} {vpn : VirtPageNum} {bottom : PhysPageNum}

theorem Tree.follow_writeLeaf (tree : Tree table memory)
    (reached : follow (entryChild memory) table.rootPpn vpn.nodePath = some bottom)
    (pte : PageTableEntry) :
    ∀ path, Within 2 512 path →
      follow (entryChild (writePte memory (pteAddress bottom (vpn.val % 512)) pte))
        table.rootPpn path = follow (entryChild memory) table.rootPpn path := by
  refine follow_congr fun path node slot within walk => ?_
  have differ : bottom ≠ node :=
    tree.reached_ne vpn.nodePath_within within.of_concat reached walk
      (ne_nodePath_of_concat vpn within).symm
  exact entryChild_writePte_apart memory _ pte node slot
    (pteAddress_apart bottom node _ slot (tree.reached_bounded vpn.nodePath_within reached)
      (tree.reached_bounded within.of_concat walk) (Nat.mod_lt vpn.val (by decide)) within.last
      (.inl differ))

theorem Tree.writeLeaf (tree : Tree table memory)
    (reached : follow (entryChild memory) table.rootPpn vpn.nodePath = some bottom)
    (pte : PageTableEntry) :
    Tree table (writePte memory (pteAddress bottom (vpn.val % 512)) pte) := by
  have same := tree.follow_writeLeaf reached pte
  refine ⟨tree.bounded, fun path node within walk => ?_, ?_⟩
  · rw [same path within] at walk
    exact tree.owned path node within walk
  · intro path other node within withinOther walk walkOther
    rw [same path within] at walk
    rw [same other withinOther] at walkOther
    exact tree.injective path other node within withinOther walk walkOther

theorem Tree.mapping_writeLeaf (tree : Tree table memory)
    (reached : follow (entryChild memory) table.rootPpn vpn.nodePath = some bottom)
    (pte : PageTableEntry) (small : pte.bits < 2 ^ 64) (other : VirtPageNum) :
    table.mapping (writePte memory (pteAddress bottom (vpn.val % 512)) pte) other =
      if other.indexes = vpn.indexes then pte.target else table.mapping memory other := by
  rw [mapping_eq, mapping_eq, tree.follow_writeLeaf reached pte _ other.nodePath_within,
    VirtPageNum.indexes_eq_nodePath, VirtPageNum.indexes_eq_nodePath]
  cases walk : follow (entryChild memory) table.rootPpn other.nodePath with
  | none =>
      have differ : other.nodePath ++ [other.val % 512] ≠ vpn.nodePath ++ [vpn.val % 512] := by
        intro same
        obtain ⟨samePath, -⟩ := List.append_inj' same rfl
        rw [samePath, reached] at walk
        cases walk
      rw [if_neg differ]
      simp only [Option.bind_none]
  | some node =>
      simp only [Option.bind_some]
      by_cases same : other.nodePath ++ [other.val % 512] = vpn.nodePath ++ [vpn.val % 512]
      · obtain ⟨samePath, sameSlot⟩ := List.append_inj' same rfl
        have sameNode : node = bottom := by
          rw [samePath, reached] at walk
          exact (Option.some.inj walk).symm
        rw [if_pos same, sameNode, List.singleton_inj.mp sameSlot, readPte_writePte _ _ _ small]
      · have apart : bottom ≠ node ∨ vpn.val % 512 ≠ other.val % 512 := by
          by_cases sameNode : bottom = node
          · refine .inr fun sameSlot => same ?_
            have samePath := tree.injective _ _ node vpn.nodePath_within other.nodePath_within
              (sameNode ▸ reached) walk
            rw [samePath, sameSlot]
          · exact .inl sameNode
        rw [if_neg same, readPte_writePte_apart _ _ _ _
          (pteAddress_apart bottom node _ _ (tree.reached_bounded vpn.nodePath_within reached)
            (tree.reached_bounded other.nodePath_within walk) (Nat.mod_lt vpn.val (by decide))
            (Nat.mod_lt other.val (by decide)) apart)]

end Leaf

variable {σ : Type} (alloc : σ → Option PhysPageNum × σ) (Avoids : σ → List PhysPageNum → Prop)

/-- What the table relies on from `frame_alloc`: from a state that avoids the frames
`used`, every frame it hands out is outside `used` and fits 44 bits, and the next
state avoids that frame too. -/
def FreshSupply : Prop :=
  ∀ state used, Avoids state used → ∀ frame next, alloc state = (some frame, next) →
    frame ∉ used ∧ frame.val < 2 ^ 44 ∧ Avoids next (used ++ [frame])

/-- A table keeping its shape in a machine whose allocator avoids the table's frames. -/
structure Sound (table : PageTable) (machine : Machine σ) : Prop where
  tree : Tree table machine.memory
  avoids : Avoids machine.allocator table.frames

theorem findPteCreateLoop_descend (supply : FreshSupply alloc Avoids) (level : Nat) {idx : Nat}
    {rest place : List Nat} {node : PhysPageNum} {table : PageTable} {machine : Machine σ}
    (above : level ≠ 2) (sound : Sound Avoids table machine)
    (reached : follow (entryChild machine.memory) table.rootPpn place = some node)
    (placed : Within 2 512 (place ++ [idx])) :
    findPteCreateLoop alloc level (idx :: rest) node table machine = .error unwrapNone ∨
      ∃ child table' machine',
        findPteCreateLoop alloc level (idx :: rest) node table machine =
          findPteCreateLoop alloc (level + 1) rest child table' machine' ∧
        Sound Avoids table' machine' ∧ table'.rootPpn = table.rootPpn ∧
        follow (entryChild machine'.memory) table.rootPpn (place ++ [idx]) = some child ∧
        ∀ vpn, table'.mapping machine'.memory vpn = table.mapping machine.memory vpn := by
  cases valid : (readPte machine.memory (pteAddress node idx)).isValid with
  | true =>
      refine .inr ⟨_, table, machine,
        findPteCreateLoop_valid alloc level idx rest node table machine above valid, sound, rfl,
        ?_, fun _ => rfl⟩
      rw [follow_concat, reached, Option.bind_some, entryChild_eq_some]
      exact ⟨valid, rfl⟩
  | false =>
      rcases call : frameAlloc alloc machine with ⟨_ | frame, after⟩
      · exact .inl (findPteCreateLoop_exhausted alloc level idx rest node table machine after
          above valid call)
      · obtain ⟨allocated, zeroed⟩ := frameAlloc_some call
        obtain ⟨fresh, small, avoids⟩ := supply _ _ sound.avoids frame after.allocator allocated
        have empty : entryChild machine.memory node idx = none :=
          (entryChild_eq_none _ _ _).mpr valid
        have memory : writePte after.memory (pteAddress node idx)
            (PageTableEntry.new frame PTEFlags.V) = installNode machine.memory node idx frame := by
          rw [zeroed]
          rfl
        refine .inr ⟨_, _, _, findPteCreateLoop_install alloc level idx rest node frame table
          machine after above valid call, ⟨?_, avoids⟩, rfl, ?_, fun vpn => ?_⟩
        · dsimp only
          rw [memory]
          exact sound.tree.install reached placed empty fresh small
        · dsimp only
          rw [memory, sound.tree.follow_installNode reached placed empty fresh small _ placed,
            if_pos rfl, readPte_installNode_slot _ _ _ _ small, PageTableEntry.new_ppn _ _ small]
        · dsimp only
          rw [memory]
          exact sound.tree.mapping_installNode reached placed empty fresh small vpn

theorem findPteCreate_cases (supply : FreshSupply alloc Avoids) {table : PageTable}
    {machine : Machine σ} (sound : Sound Avoids table machine) (vpn : VirtPageNum) :
    table.findPteCreate alloc machine vpn = .error unwrapNone ∨
      ∃ bottom table' machine',
        table.findPteCreate alloc machine vpn =
          .ok (some (pteAddress bottom (vpn.val % 512)), table', machine') ∧
        Sound Avoids table' machine' ∧ table'.rootPpn = table.rootPpn ∧
        follow (entryChild machine'.memory) table.rootPpn vpn.nodePath = some bottom ∧
        ∀ other, table'.mapping machine'.memory other = table.mapping machine.memory other := by
  have within := vpn.nodePath_within
  have top : Within 2 512 ([] ++ [vpn.val / 2 ^ 18 % 512]) := ⟨by simp, by simp; omega⟩
  rw [findPteCreate_eq]
  rcases findPteCreateLoop_descend alloc Avoids supply 0 (by decide) sound (follow_nil _ _) top with
    failed | ⟨middle, table₁, machine₁, first, sound₁, root₁, reached₁, same₁⟩
  · exact .inl failed
  rw [← root₁] at reached₁
  rcases findPteCreateLoop_descend alloc Avoids supply 1 (by decide) sound₁ reached₁ within with
    failed | ⟨bottom, table₂, machine₂, second, sound₂, root₂, reached₂, same₂⟩
  · exact .inl (first.trans failed)
  refine .inr ⟨bottom, table₂, machine₂, ?_, sound₂, root₂.trans root₁, ?_,
    fun other => (same₂ other).trans (same₁ other)⟩
  · exact first.trans (second.trans (findPteCreateLoop_leaf alloc _ _ _ _ _))
  · rw [← root₁]
    exact reached₂

theorem findPteCreate_present {table : PageTable} {machine : Machine σ} {vpn : VirtPageNum}
    {bottom : PhysPageNum}
    (present : follow (entryChild machine.memory) table.rootPpn vpn.nodePath = some bottom) :
    table.findPteCreate alloc machine vpn =
      .ok (some (pteAddress bottom (vpn.val % 512)), table, machine) := by
  rw [VirtPageNum.nodePath, follow_pair, Option.bind_eq_some_iff] at present
  obtain ⟨middle, rootEntry, middleEntry⟩ := present
  obtain ⟨rootValid, rfl⟩ := (entryChild_eq_some _ _ _ _).mp rootEntry
  obtain ⟨middleValid, rfl⟩ := (entryChild_eq_some _ _ _ _).mp middleEntry
  rw [findPteCreate_eq, findPteCreateLoop_valid alloc 0 _ _ _ table machine (by decide) rootValid,
    findPteCreateLoop_valid alloc 1 _ _ _ table machine (by decide) middleValid,
    findPteCreateLoop_leaf]

theorem map_of_mapped {table : PageTable} {machine : Machine σ} (vpn : VirtPageNum)
    (ppn : PhysPageNum) (flags : PTEFlags) (mapped : table.mapping machine.memory vpn ≠ none) :
    table.map alloc machine vpn ppn flags = .error "vpn is mapped before mapping" := by
  rw [mapping_eq] at mapped
  cases walk : follow (entryChild machine.memory) table.rootPpn vpn.nodePath with
  | none => simp [walk] at mapped
  | some bottom =>
      have valid : (readPte machine.memory (pteAddress bottom (vpn.val % 512))).isValid = true := by
        rw [walk, Option.bind_some, Ne, PageTableEntry.target_eq_none] at mapped
        simpa using mapped
      rw [map_of_findPteCreate_ok alloc _ _ _ _ _ _ _ _ (findPteCreate_present alloc walk),
        if_pos valid]

theorem map_of_unmapped (supply : FreshSupply alloc Avoids) {table : PageTable}
    {machine : Machine σ} (sound : Sound Avoids table machine) (vpn : VirtPageNum)
    (ppn : PhysPageNum) (flags : PTEFlags) (fits : ppn.val < 2 ^ 44)
    (unmapped : table.mapping machine.memory vpn = none) :
    table.map alloc machine vpn ppn flags = .error unwrapNone ∨
      ∃ table' machine', table.map alloc machine vpn ppn flags = .ok (table', machine') ∧
        Sound Avoids table' machine' ∧ table'.rootPpn = table.rootPpn ∧
        ∀ other, table'.mapping machine'.memory other =
          if other.indexes = vpn.indexes then some (ppn, flags ||| PTEFlags.V)
          else table.mapping machine.memory other := by
  rcases findPteCreate_cases alloc Avoids supply sound vpn with
    failed | ⟨bottom, table', machine', call, sound', root', walk, same⟩
  · exact .inl (map_of_findPteCreate_error alloc _ _ _ _ _ _ failed)
  · rw [← root'] at walk
    have invalid : (readPte machine'.memory (pteAddress bottom (vpn.val % 512))).isValid =
        false := by
      have still := same vpn
      rw [unmapped, mapping_eq, walk, Option.bind_some, PageTableEntry.target_eq_none] at still
      exact still
    refine .inr ⟨table', { machine' with
        memory := writePte machine'.memory (pteAddress bottom (vpn.val % 512))
          (PageTableEntry.new ppn (flags ||| PTEFlags.V)) },
      ?_, ⟨sound'.tree.writeLeaf walk _, sound'.avoids⟩, root', fun other => ?_⟩
    · rw [map_of_findPteCreate_ok alloc _ _ _ _ _ _ _ _ call, if_neg (by simp [invalid])]
    · rw [sound'.tree.mapping_writeLeaf walk _ (PageTableEntry.new_bits_lt _ _ fits),
        PageTableEntry.new_or_V_target _ _ fits, same other]

theorem unmap_of_unmapped (table : PageTable) (memory : Nat → UInt8) (vpn : VirtPageNum)
    (unmapped : table.mapping memory vpn = none) :
    ∃ message, table.unmap memory vpn = .error message := by
  rw [mapping_eq] at unmapped
  unfold unmap
  rw [findPte_eq_follow]
  cases walk : follow (entryChild memory) table.rootPpn vpn.nodePath with
  | none => exact ⟨unwrapNone, rfl⟩
  | some bottom =>
      rw [walk, Option.bind_some, PageTableEntry.target_eq_none] at unmapped
      exact ⟨"vpn is invalid before unmapping", by simp [unmapped]⟩

theorem unmap_of_mapped {table : PageTable} {memory : Nat → UInt8}
    (tree : Tree table memory) (vpn : VirtPageNum) (mapped : table.mapping memory vpn ≠ none) :
    ∃ memory', table.unmap memory vpn = .ok memory' ∧ Tree table memory' ∧
      ∀ other, table.mapping memory' other =
        if other.indexes = vpn.indexes then none else table.mapping memory other := by
  rw [mapping_eq] at mapped
  cases walk : follow (entryChild memory) table.rootPpn vpn.nodePath with
  | none => simp [walk] at mapped
  | some bottom =>
      have valid : (readPte memory (pteAddress bottom (vpn.val % 512))).isValid = true := by
        rw [walk, Option.bind_some, Ne, PageTableEntry.target_eq_none] at mapped
        simpa using mapped
      refine ⟨_, ?_, tree.writeLeaf walk PageTableEntry.empty, fun other => ?_⟩
      · simp only [unmap, findPte_eq_follow, walk, Option.map_some, valid]
        rfl
      · rw [tree.mapping_writeLeaf walk _ (by decide), PageTableEntry.empty_target]

theorem fromToken_token_rootPpn (table : PageTable) (small : table.rootPpn.val < 2 ^ 44) :
    (fromToken table.token).rootPpn = table.rootPpn := by
  have joined : 8 <<< 60 ||| table.rootPpn.val = 8 * 2 ^ 60 + table.rootPpn.val := by
    rw [← Nat.shiftLeft_add_eq_or_of_lt (by omega), Nat.shiftLeft_eq]
  apply PhysPageNum.ext
  rw [fromToken, token, PhysPageNum.fromUsize_val, mask_eq_mod, joined]
  omega

theorem fromToken_token_translate (table : PageTable) (memory : Nat → UInt8)
    (small : table.rootPpn.val < 2 ^ 44) (vpn : VirtPageNum) :
    (fromToken table.token).translate memory vpn = table.translate memory vpn := by
  simp only [translate, findPte, fromToken_token_rootPpn table small]

theorem translateVa_of_mapping (table : PageTable) (memory : Nat → UInt8) (va : VirtAddr)
    (ppn : PhysPageNum) (flags : PTEFlags)
    (mapped : table.mapping memory va.floor = some (ppn, flags)) :
    table.translateVa memory va = some ⟨ppn.val * 4096 + va.val % 4096⟩ := by
  unfold mapping translate at mapped
  unfold translateVa
  cases found : table.findPte memory va.floor with
  | none => simp [found] at mapped
  | some address =>
      simp only [found, Option.map_some, Option.bind_some, PageTableEntry.target] at mapped
      split at mapped
      · obtain ⟨rfl, -⟩ := Prod.mk.inj (Option.some.inj mapped)
        have small := (readPte memory address).ppn_lt
        have offset := Nat.mod_lt va.val (show 4096 > 0 by decide)
        rw [Option.map_some, Option.some.injEq]
        apply PhysAddr.ext
        rw [PhysAddr.fromUsize_val, PhysPageNum.toPhysAddr_val, VirtAddr.pageOffset_eq]
        dsimp only
        omega
      · cases mapped

end PageTable

end ChOs
