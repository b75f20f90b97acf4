import ChOs.Memory.PageTable
import ChOs.Library.KeyedList

set_option autoImplicit false

/- Address spaces (`os/src/memory/memory_set.rs`, `SimpleRange` of `address.rs`). -/

namespace ChOs

/-- `MapType`. -/
inductive MapType
  | identical
  | framed
  deriving DecidableEq, Repr

/-- `MapPermission`: the `R`, `W`, `X` and `U` bits of `PTEFlags`, as a `bitflags` set
over a `u8`. -/
structure MapPermission where
  bits : UInt8
  deriving DecidableEq, Repr

namespace MapPermission

def R : MapPermission := ⟨(1 : UInt8) <<< 1⟩
def W : MapPermission := ⟨(1 : UInt8) <<< 2⟩
def X : MapPermission := ⟨(1 : UInt8) <<< 3⟩
def U : MapPermission := ⟨(1 : UInt8) <<< 4⟩

instance : OrOp MapPermission := ⟨fun a b => ⟨a.bits ||| b.bits⟩⟩

end MapPermission

/-- `{:#x}`. -/
def hexString (n : Nat) : String := "0x" ++ String.ofList (Nat.toDigits 16 n)

/-- `Debug for VirtPageNum`. -/
def VirtPageNum.debug (self : VirtPageNum) : String := "VPN:" ++ hexString self.val

/-- `VPNRange`, the `SimpleRange` of page numbers `[l, r)`. -/
structure VPNRange where
  l : VirtPageNum
  r : VirtPageNum
  deriving DecidableEq, Repr

namespace VPNRange

/-- `SimpleRange::new`: `assert!(start <= end, "start {:?} > end {:?}!", start, end)`. -/
def new (start finish : VirtPageNum) : Except String VPNRange :=
  if start.val ≤ finish.val then .ok ⟨start, finish⟩
  else .error ("start " ++ start.debug ++ " > end " ++ finish.debug ++ "!")

/-- The pages the iterator yields: `step` from `l` until the current page is `r`. For
the ranges `new` builds, `l ≤ r`, so the loop stops after `r - l` pages. -/
def vpns (self : VPNRange) : List VirtPageNum :=
  (List.range' self.l.val (self.r.val - self.l.val)).map VirtPageNum.mk

theorem mem_vpns (self : VPNRange) (vpn : VirtPageNum) :
    vpn ∈ self.vpns ↔ self.l.val ≤ vpn.val ∧ vpn.val < self.r.val := by
  cases vpn
  simp only [vpns, List.mem_map, List.mem_range'_1, VirtPageNum.mk.injEq, exists_eq_right]
  omega

theorem vpns_nodup (self : VPNRange) : self.vpns.Nodup :=
  (List.nodup_range' 1).map (fun _ _ same => VirtPageNum.mk.inj same)

theorem new_eq_ok {start finish : VirtPageNum} (ordered : start.val ≤ finish.val) :
    new start finish = .ok ⟨start, finish⟩ := if_pos ordered

end VPNRange

/-- The calls `MapArea` and `MemorySet` make on a page table of type `T` and on the
frame allocator behind it. -/
structure PageTableOps (T : Type) where
  map : T → VirtPageNum → PhysPageNum → PTEFlags → Except String T
  unmap : T → VirtPageNum → Except String T
  frameAlloc : T → Option PhysPageNum × T
  frameDealloc : T → PhysPageNum → Except String T

/-- What the address-space proofs ask of the four calls. `Good t held` is the invariant
of a table whose address space's trackers hold the frames `held`, and `mapping t` is
the partial map the table stands for, below `2^27` where page numbers are
`VirtPageNum::indexes` apart. `map` of a mapped page fails its assertion; of an
unmapped one it maps it, or fails because `frame_alloc` does. `unmap` of a mapped page
removes it. `frame_alloc` hands out a frame nobody in the space holds, and
`frame_dealloc` takes back a held one; neither changes the mapping. -/
structure PageTableOps.Lawful {T : Type} (ops : PageTableOps T)
    (Good : T → List PhysPageNum → Prop)
    (mapping : T → VirtPageNum → Option (PhysPageNum × PTEFlags)) : Prop where
  held_nodup : ∀ {t held}, Good t held → held.Nodup
  held_perm : ∀ {t held held'}, Good t held → held.Perm held' → Good t held'
  map_mapped : ∀ {t held vpn} ppn flags, Good t held → vpn.val < 2 ^ 27 → mapping t vpn ≠ none →
    ops.map t vpn ppn flags = .error "vpn is mapped before mapping"
  map_unmapped : ∀ {t held vpn ppn} flags, Good t held → vpn.val < 2 ^ 27 → ppn.val < 2 ^ 44 →
    mapping t vpn = none →
      ops.map t vpn ppn flags = .error unwrapNone ∨
        ∃ t', ops.map t vpn ppn flags = .ok t' ∧ Good t' held ∧
          ∀ other, other.val < 2 ^ 27 → mapping t' other =
            if other = vpn then some (ppn, flags ||| PTEFlags.V) else mapping t other
  unmap_mapped : ∀ {t held vpn}, Good t held → vpn.val < 2 ^ 27 → mapping t vpn ≠ none →
    ∃ t', ops.unmap t vpn = .ok t' ∧ Good t' held ∧
      ∀ other, other.val < 2 ^ 27 → mapping t' other =
        if other = vpn then none else mapping t other
  frameAlloc_fresh : ∀ {t held frame t'}, Good t held → ops.frameAlloc t = (some frame, t') →
    frame ∉ held ∧ frame.val < 2 ^ 44 ∧ Good t' (held ++ [frame]) ∧ mapping t' = mapping t
  frameDealloc_held : ∀ {t held frame}, Good t held → frame ∈ held →
    ∃ t', ops.frameDealloc t frame = .ok t' ∧ Good t' (held.erase frame) ∧
      mapping t' = mapping t

/-- Some `map` of an unmapped page on a good table fails because `frame_alloc` does. -/
def PageTableOps.Exhausts {T : Type} (ops : PageTableOps T) (Good : T → List PhysPageNum → Prop)
    (mapping : T → VirtPageNum → Option (PhysPageNum × PTEFlags)) : Prop :=
  ∃ t held vpn ppn flags, Good t held ∧ vpn.val < 2 ^ 27 ∧ ppn.val < 2 ^ 44 ∧
    mapping t vpn = none ∧ ops.map t vpn ppn flags = .error unwrapNone

/-- `MapArea`: a range of pages mapped in one way with one permission; a `Framed` area
keeps the tracker of each page's frame in `data_frames`. -/
structure MapArea where
  vpnRange : VPNRange
  dataFrames : VirtPageNum → Option PhysPageNum
  mapType : MapType
  mapPerm : MapPermission

namespace MapArea

/-- `MapArea::new`: the range from the page of `start_va` to the page that ends at or
after `end_va`. -/
def new (startVa endVa : VirtAddr) (mapType : MapType) (mapPerm : MapPermission) :
    Except String MapArea := do
  let vpnRange ← VPNRange.new startVa.floor endVa.ceil
  .ok ⟨vpnRange, fun _ => none, mapType, mapPerm⟩

variable {T : Type} (ops : PageTableOps T)

/-- The drop of the `FrameTracker` a `BTreeMap` call hands back: `frame_dealloc`. -/
def dropTracker (pageTable : T) : Option PhysPageNum → Except String T
  | some frame => ops.frameDealloc pageTable frame
  | none => .ok pageTable

/-- The first half of `map_one`: the page number the page goes to. An identical page
goes to the frame of the same number; a framed one to a fresh frame, whose tracker
`data_frames.insert` keeps, dropping the one it replaces. -/
def placeFrame (self : MapArea) (pageTable : T) (vpn : VirtPageNum) :
    Except String (MapArea × PhysPageNum × T) :=
  match self.mapType with
  | .identical => .ok (self, ⟨vpn.val⟩, pageTable)
  | .framed =>
      match ops.frameAlloc pageTable with
      | (some frame, pageTable) => do
          let pageTable ← dropTracker ops pageTable (self.dataFrames vpn)
          .ok ({ self with dataFrames := Function.update self.dataFrames vpn (some frame) },
            frame, pageTable)
      | (none, _) => .error unwrapNone

/-- `map_one`: the flags are `PTEFlags::from_bits(self.map_perm.bits).unwrap()`. -/
def mapOne (self : MapArea) (pageTable : T) (vpn : VirtPageNum) :
    Except String (MapArea × T) := do
  let (self, ppn, pageTable) ← self.placeFrame ops pageTable vpn
  match PTEFlags.fromBits self.mapPerm.bits with
  | some pteFlags => do
      let pageTable ← ops.map pageTable vpn ppn pteFlags
      .ok (self, pageTable)
  | none => .error unwrapNone

/-- `unmap_one`: a framed area first takes the page's tracker out of `data_frames`. -/
def unmapOne (self : MapArea) (pageTable : T) (vpn : VirtPageNum) :
    Except String (MapArea × T) := do
  let (self, pageTable) ← if self.mapType = .framed then do
      let pageTable ← dropTracker ops pageTable (self.dataFrames vpn)
      .ok ({ self with dataFrames := Function.update self.dataFrames vpn none }, pageTable)
    else .ok (self, pageTable)
  let pageTable ← ops.unmap pageTable vpn
  .ok (self, pageTable)

/-- The loop of `map` over the pages still to map. -/
def mapVpns : MapArea → T → List VirtPageNum → Except String (MapArea × T)
  | self, pageTable, [] => .ok (self, pageTable)
  | self, pageTable, vpn :: rest => do
      let (self, pageTable) ← self.mapOne ops pageTable vpn
      mapVpns self pageTable rest

/-- The loop of `unmap` over the pages still to unmap. -/
def unmapVpns : MapArea → T → List VirtPageNum → Except String (MapArea × T)
  | self, pageTable, [] => .ok (self, pageTable)
  | self, pageTable, vpn :: rest => do
      let (self, pageTable) ← self.unmapOne ops pageTable vpn
      unmapVpns self pageTable rest

def map (self : MapArea) (pageTable : T) : Except String (MapArea × T) :=
  self.mapVpns ops pageTable self.vpnRange.vpns

def unmap (self : MapArea) (pageTable : T) : Except String (MapArea × T) :=
  self.unmapVpns ops pageTable self.vpnRange.vpns

/-- The frames whose trackers the area holds. -/
def frames (self : MapArea) : List PhysPageNum := self.vpnRange.vpns.filterMap self.dataFrames

theorem new_of_aligned {startVa endVa : VirtAddr} (mapType : MapType) (mapPerm : MapPermission)
    (ordered : startVa.val ≤ endVa.val) (aligned : endVa.val % 4096 = 0) (positive : 0 < endVa.val)
    (small : endVa.val < 2 ^ 64 - 4096) :
    new startVa endVa mapType mapPerm =
      .ok ⟨⟨startVa.floor, ⟨endVa.val / 4096⟩⟩, fun _ => none, mapType, mapPerm⟩ := by
  have ceiling : endVa.ceil = ⟨endVa.val / 4096⟩ := by
    have rounded := VirtAddr.ceil_val endVa positive small
    rw [show (endVa.val + 4095) / 4096 = endVa.val / 4096 by omega] at rounded
    rw [← rounded]
  have below : startVa.floor.val ≤ endVa.val / 4096 := by
    rw [VirtAddr.floor_val]
    exact Nat.div_le_div_right ordered
  simp [new, ceiling, VPNRange.new_eq_ok below]

end MapArea

/-- The linker symbols `new_kernel` reads (`os/src/linker-qemu.ld`). -/
structure KernelSymbols where
  stext : Nat
  etext : Nat
  srodata : Nat
  erodata : Nat
  sdata : Nat
  edata : Nat
  sbssWithStack : Nat
  ebss : Nat
  ekernel : Nat
  strampoline : Nat
  deriving DecidableEq, Repr

/-- `MMIO` of `boards/qemu.rs`: the registers of the VirtIO block device. -/
def mmio : List (Nat × Nat) := [(0x10001000, 0x1000)]

/-- `From<VirtAddr> for VirtPageNum`, with its `assert_eq!(v.page_offset(), 0)`. -/
def VirtAddr.intoVpn (v : VirtAddr) : Except String VirtPageNum :=
  if v.pageOffset = 0 then .ok v.floor else .error (assertEqFailed v.pageOffset 0)

/-- `From<PhysAddr> for PhysPageNum`, with its `assert_eq!(v.page_offset(), 0)`. -/
def PhysAddr.intoPpn (v : PhysAddr) : Except String PhysPageNum :=
  if v.pageOffset = 0 then .ok v.floor else .error (assertEqFailed v.pageOffset 0)

/-- `MemorySet`: a page table, with the frames of its nodes, and its areas. -/
structure MemorySet (T : Type) where
  pageTable : T
  areas : List MapArea

namespace MemorySet

variable {T : Type} (ops : PageTableOps T)

/-- `new_bare`, on the table `PageTable::new()` returned. -/
def newBare (pageTable : T) : MemorySet T := ⟨pageTable, []⟩

/-- `push(map_area, None)`: map the area, then keep it. -/
def push (self : MemorySet T) (mapArea : MapArea) : Except String (MemorySet T) := do
  let (mapArea, pageTable) ← mapArea.map ops self.pageTable
  .ok ⟨pageTable, self.areas ++ [mapArea]⟩

/-- `map_trampoline`: the highest page goes to the frame of `strampoline`, with `R | X`,
and joins no area. -/
def mapTrampoline (self : MemorySet T) (strampoline : Nat) : Except String (MemorySet T) := do
  let vpn ← (VirtAddr.fromUsize trampoline).intoVpn
  let ppn ← (PhysAddr.fromUsize strampoline).intoPpn
  let pageTable ← ops.map self.pageTable vpn ppn (PTEFlags.R ||| PTEFlags.X)
  .ok { self with pageTable := pageTable }

/-- `remove_area_with_start_vpn`: the first area that starts at `start_vpn` is unmapped
and taken out of the list; without one nothing happens. -/
def removeAreaWithStartVpn (self : MemorySet T) (startVpn : VirtPageNum) :
    Except String (MemorySet T) :=
  match self.areas.zipIdx.find? (fun entry => entry.1.vpnRange.l == startVpn) with
  | some (area, idx) => do
      let (_, pageTable) ← area.unmap ops self.pageTable
      .ok ⟨pageTable, self.areas.eraseIdx idx⟩
  | none => .ok self

/-- `insert_framed_area`. -/
def insertFramedArea (self : MemorySet T) (startVa endVa : VirtAddr)
    (permission : MapPermission) : Except String (MemorySet T) := do
  let area ← MapArea.new startVa endVa .framed permission
  self.push ops area

/-- One `push(MapArea::new(start.into(), end.into(), MapType::Identical, perm), None)`
of `new_kernel`. -/
def pushIdentical (self : MemorySet T) (start finish : Nat) (perm : MapPermission) :
    Except String (MemorySet T) := do
  let area ← MapArea.new (VirtAddr.fromUsize start) (VirtAddr.fromUsize finish) .identical perm
  self.push ops area

/-- `new_kernel`, on the table `PageTable::new()` returned: the trampoline, the five
kernel sections and the MMIO ranges, each identically mapped. -/
def newKernel (pageTable : T) (symbols : KernelSymbols) : Except String (MemorySet T) := do
  let memorySet ← (newBare pageTable).mapTrampoline ops symbols.strampoline
  let memorySet ← memorySet.pushIdentical ops symbols.stext symbols.etext
    (MapPermission.R ||| MapPermission.X)
  let memorySet ← memorySet.pushIdentical ops symbols.srodata symbols.erodata MapPermission.R
  let memorySet ← memorySet.pushIdentical ops symbols.sdata symbols.edata
    (MapPermission.R ||| MapPermission.W)
  let memorySet ← memorySet.pushIdentical ops symbols.sbssWithStack symbols.ebss
    (MapPermission.R ||| MapPermission.W)
  let memorySet ← memorySet.pushIdentical ops symbols.ekernel memoryEnd
    (MapPermission.R ||| MapPermission.W)
  mmio.foldlM (fun memorySet pair =>
    memorySet.pushIdentical ops pair.1 ((pair.1 + pair.2) % 2 ^ 64)
      (MapPermission.R ||| MapPermission.W)) memorySet

end MemorySet

namespace MapArea

/-- `area'` is `area` with only the trackers of the pages `touched` changed; an identical
area is not changed at all. -/
structure Reshaped (area area' : MapArea) (touched : List VirtPageNum) : Prop where
  vpnRange : area'.vpnRange = area.vpnRange
  mapType : area'.mapType = area.mapType
  mapPerm : area'.mapPerm = area.mapPerm
  untouched : ∀ v, v ∉ touched → area'.dataFrames v = area.dataFrames v
  identical : area.mapType = .identical → area' = area

theorem Reshaped.refl (area : MapArea) (touched : List VirtPageNum) :
    Reshaped area area touched :=
  ⟨rfl, rfl, rfl, fun _ _ => rfl, fun _ => rfl⟩

theorem Reshaped.trans {area middle last : MapArea} {vpn : VirtPageNum}
    {rest : List VirtPageNum} (first : Reshaped area middle [vpn])
    (second : Reshaped middle last rest) : Reshaped area last (vpn :: rest) where
  vpnRange := second.vpnRange.trans first.vpnRange
  mapType := second.mapType.trans first.mapType
  mapPerm := second.mapPerm.trans first.mapPerm
  untouched v outside := by
    rw [List.mem_cons, not_or] at outside
    rw [second.untouched v outside.2, first.untouched v (by simpa using outside.1)]
  identical kind := by
    rw [second.identical (first.mapType.trans kind), first.identical kind]

theorem reshaped_update {area : MapArea} (framed : area.mapType = .framed) (vpn : VirtPageNum)
    (entry : Option PhysPageNum) :
    Reshaped area { area with dataFrames := Function.update area.dataFrames vpn entry } [vpn] where
  vpnRange := rfl
  mapType := rfl
  mapPerm := rfl
  untouched v outside := Function.update_of_ne (by simpa using outside) _ _
  identical kind := absurd (framed.symm.trans kind) (by decide)

theorem frames_perm (area : MapArea) {vpn : VirtPageNum} (inRange : vpn ∈ area.vpnRange.vpns) :
    area.frames.Perm ((area.dataFrames vpn).toList ++
      { area with dataFrames := Function.update area.dataFrames vpn none }.frames) :=
  KeyedList.filterMap_perm_update area.dataFrames inRange area.vpnRange.vpns_nodup

theorem frames_insert (area : MapArea) {vpn : VirtPageNum} (inRange : vpn ∈ area.vpnRange.vpns)
    (empty : area.dataFrames vpn = none) (frame : PhysPageNum) :
    { area with dataFrames := Function.update area.dataFrames vpn (some frame) }.frames.Perm
      (frame :: area.frames) := by
  have moved := frames_perm { area with
    dataFrames := Function.update area.dataFrames vpn (some frame) } inRange
  have restored : Function.update (Function.update area.dataFrames vpn (some frame)) vpn none =
      area.dataFrames := by
    rw [Function.update_idem, Function.update_eq_self_iff, empty]
  simp only [Function.update_self, Option.toList_some, List.singleton_append, restored]
    at moved
  exact moved

theorem frames_eq_nil {area : MapArea} (cleared : ∀ v ∈ area.vpnRange.vpns, area.dataFrames v = none) :
    area.frames = [] :=
  List.filterMap_eq_nil_iff.mpr cleared

variable {T : Type} {ops : PageTableOps T} {Good : T → List PhysPageNum → Prop}
  {mapping : T → VirtPageNum → Option (PhysPageNum × PTEFlags)}

theorem dropTracker_ok (lawful : ops.Lawful Good mapping) {area : MapArea} {t : T}
    {held : List PhysPageNum} {vpn : VirtPageNum} (good : Good t (held ++ area.frames))
    (inRange : vpn ∈ area.vpnRange.vpns) :
    ∃ t', dropTracker ops t (area.dataFrames vpn) = .ok t' ∧
      Good t' (held ++ { area with dataFrames := Function.update area.dataFrames vpn none }.frames) ∧
      mapping t' = mapping t := by
  have split := area.frames_perm inRange
  cases tracker : area.dataFrames vpn with
  | none =>
      rw [tracker, Option.toList_none, List.nil_append] at split
      exact ⟨t, rfl, lawful.held_perm good (split.append_left held), rfl⟩
  | some frame =>
      rw [tracker, Option.toList_some, List.singleton_append] at split
      have around : (held ++ area.frames).Perm (frame :: (held ++
          { area with dataFrames := Function.update area.dataFrames vpn none }.frames)) :=
        (split.append_left held).trans List.perm_middle
      obtain ⟨t', freed, good', same⟩ :=
        lawful.frameDealloc_held good (around.symm.subset List.mem_cons_self)
      refine ⟨t', freed, lawful.held_perm good' ?_, same⟩
      have erased := around.erase frame
      rw [List.erase_cons_head] at erased
      exact erased

theorem mapOne_cases (lawful : ops.Lawful Good mapping) {area : MapArea} {t : T}
    {held : List PhysPageNum} {vpn : VirtPageNum} (good : Good t (held ++ area.frames))
    (small : vpn.val < 2 ^ 27) (inRange : vpn ∈ area.vpnRange.vpns)
    (empty : area.dataFrames vpn = none) (unmapped : mapping t vpn = none) :
    (area.mapOne ops t vpn = .error unwrapNone ∧
        (area.mapType = .identical → ops.Exhausts Good mapping)) ∨
      ∃ area' t', area.mapOne ops t vpn = .ok (area', t') ∧ Reshaped area area' [vpn] ∧
        Good t' (held ++ area'.frames) ∧ mapping t' vpn ≠ none ∧
        ∀ other, other.val < 2 ^ 27 → other ≠ vpn → mapping t' other = mapping t other := by
  have flags := PTEFlags.fromBits_eq area.mapPerm.bits
  cases kind : area.mapType with
  | identical =>
      have placed : area.placeFrame ops t vpn = .ok (area, ⟨vpn.val⟩, t) := by
        simp [placeFrame, kind]
      have fits : (PhysPageNum.mk vpn.val).val < 2 ^ 44 := by
        dsimp only
        omega
      rcases lawful.map_unmapped ⟨area.mapPerm.bits⟩ good small fits unmapped with
        failed | ⟨t', mapped, good', moved⟩
      · exact .inl ⟨by simp [mapOne, placed, flags, failed],
          fun _ => ⟨t, _, vpn, _, _, good, small, fits, unmapped, failed⟩⟩
      · refine .inr ⟨area, t', by simp [mapOne, placed, flags, mapped], Reshaped.refl _ _, good',
          ?_, fun other below apart => ?_⟩
        · simp [moved vpn small]
        · simp [moved other below, apart]
  | framed =>
      rcases alloc : ops.frameAlloc t with ⟨_ | frame, t₁⟩
      · exact .inl ⟨by simp [mapOne, placeFrame, kind, alloc], fun identical => by cases identical⟩
      obtain ⟨-, fits, good₁, same₁⟩ := lawful.frameAlloc_fresh good alloc
      have placed : area.placeFrame ops t vpn = .ok ({ area with
          dataFrames := Function.update area.dataFrames vpn (some frame) }, frame, t₁) := by
        simp [placeFrame, kind, alloc, dropTracker, empty]
      have held₁ : (held ++ area.frames ++ [frame]).Perm (held ++ { area with
          dataFrames := Function.update area.dataFrames vpn (some frame) }.frames) := by
        rw [List.append_assoc]
        exact (List.perm_append_comm.trans (area.frames_insert inRange empty frame).symm).append_left
          held
      rcases lawful.map_unmapped ⟨area.mapPerm.bits⟩ (lawful.held_perm good₁ held₁) small fits
          (by rw [same₁]; exact unmapped) with failed | ⟨t', mapped, good', moved⟩
      · exact .inl ⟨by simp [mapOne, placed, flags, failed], fun identical => by cases identical⟩
      · refine .inr ⟨_, t', by simp [mapOne, placed, flags, mapped],
          reshaped_update kind vpn _, good', ?_, fun other below apart => ?_⟩
        · simp [moved vpn small]
        · simp [moved other below, apart, same₁]

theorem mapVpns_cases (lawful : ops.Lawful Good mapping) {held : List PhysPageNum} :
    ∀ (rest : List VirtPageNum) (area : MapArea) (t : T), Good t (held ++ area.frames) →
      rest.Nodup →
      (∀ v ∈ rest, v.val < 2 ^ 27 ∧ v ∈ area.vpnRange.vpns ∧ area.dataFrames v = none ∧
        mapping t v = none) →
      (area.mapVpns ops t rest = .error unwrapNone ∧
          (area.mapType = .identical → ops.Exhausts Good mapping)) ∨
        ∃ area' t', area.mapVpns ops t rest = .ok (area', t') ∧ Reshaped area area' rest ∧
          Good t' (held ++ area'.frames) ∧ (∀ v ∈ rest, mapping t' v ≠ none) ∧
          ∀ other, other.val < 2 ^ 27 → other ∉ rest → mapping t' other = mapping t other
  | [], area, t, good, _, _ =>
      .inr ⟨area, t, rfl, Reshaped.refl _ _, good, fun _ member => absurd member List.not_mem_nil,
        fun _ _ _ => rfl⟩
  | vpn :: rest, area, t, good, nodup, pages => by
      obtain ⟨fresh, restNodup⟩ := List.nodup_cons.mp nodup
      obtain ⟨small, inRange, empty, unmapped⟩ := pages vpn List.mem_cons_self
      rcases mapOne_cases lawful good small inRange empty unmapped with
        failed | ⟨area₁, t₁, first, shape₁, good₁, mapped₁, same₁⟩
      · exact .inl ⟨by simp [mapVpns, failed.1], failed.2⟩
      have later : ∀ v ∈ rest, v.val < 2 ^ 27 ∧ v ∈ area₁.vpnRange.vpns ∧
          area₁.dataFrames v = none ∧ mapping t₁ v = none := by
        intro v member
        have apart : v ≠ vpn := fun same => fresh (same ▸ member)
        obtain ⟨below, within, clear, free⟩ := pages v (List.mem_cons_of_mem _ member)
        refine ⟨below, shape₁.vpnRange ▸ within, ?_, ?_⟩
        · rw [shape₁.untouched v (by simpa using apart), clear]
        · rw [same₁ v below apart, free]
      rcases mapVpns_cases lawful rest area₁ t₁ good₁ restNodup later with
        failed | ⟨area₂, t₂, loop, shape₂, good₂, mapped₂, same₂⟩
      · exact .inl ⟨by simp [mapVpns, first, failed.1], fun kind => failed.2
          (shape₁.mapType.trans kind)⟩
      refine .inr ⟨area₂, t₂, by simp [mapVpns, first, loop], shape₁.trans shape₂, good₂,
        fun v member => ?_, fun other below outside => ?_⟩
      · rcases List.mem_cons.mp member with rfl | member
        · rw [same₂ v small fresh]
          exact mapped₁
        · exact mapped₂ v member
      · rw [List.mem_cons, not_or] at outside
        rw [same₂ other below outside.2, same₁ other below outside.1]

theorem unmapOne_ok (lawful : ops.Lawful Good mapping) {area : MapArea} {t : T}
    {held : List PhysPageNum} {vpn : VirtPageNum} (good : Good t (held ++ area.frames))
    (small : vpn.val < 2 ^ 27) (inRange : vpn ∈ area.vpnRange.vpns)
    (mapped : mapping t vpn ≠ none) :
    ∃ area' t', area.unmapOne ops t vpn = .ok (area', t') ∧ Reshaped area area' [vpn] ∧
      (area.mapType = .framed → area'.dataFrames vpn = none) ∧ Good t' (held ++ area'.frames) ∧
      ∀ other, other.val < 2 ^ 27 → mapping t' other =
        if other = vpn then none else mapping t other := by
  cases kind : area.mapType with
  | identical =>
      obtain ⟨t', call, good', moved⟩ := lawful.unmap_mapped good small mapped
      exact ⟨area, t', by simp [unmapOne, kind, call], Reshaped.refl _ _,
        fun framed => absurd framed (by decide), good', moved⟩
  | framed =>
      obtain ⟨t₁, dropped, good₁, same₁⟩ := dropTracker_ok lawful good inRange
      obtain ⟨t', call, good', moved⟩ :=
        lawful.unmap_mapped good₁ small (by rw [same₁]; exact mapped)
      refine ⟨_, t', by simp [unmapOne, kind, dropped, call], reshaped_update kind vpn none,
        fun _ => Function.update_self _ _ _, good', fun other below => ?_⟩
      rw [moved other below, same₁]

theorem unmapVpns_ok (lawful : ops.Lawful Good mapping) {held : List PhysPageNum} :
    ∀ (rest : List VirtPageNum) (area : MapArea) (t : T), Good t (held ++ area.frames) →
      rest.Nodup → (∀ v ∈ rest, v.val < 2 ^ 27 ∧ v ∈ area.vpnRange.vpns ∧ mapping t v ≠ none) →
      ∃ area' t', area.unmapVpns ops t rest = .ok (area', t') ∧ Reshaped area area' rest ∧
        (area.mapType = .framed → ∀ v ∈ rest, area'.dataFrames v = none) ∧
        Good t' (held ++ area'.frames) ∧
        ∀ other, other.val < 2 ^ 27 → mapping t' other =
          if other ∈ rest then none else mapping t other
  | [], area, t, good, _, _ =>
      ⟨area, t, rfl, Reshaped.refl _ _, fun _ _ member => absurd member List.not_mem_nil, good,
        fun _ _ => by simp⟩
  | vpn :: rest, area, t, good, nodup, pages => by
      obtain ⟨fresh, restNodup⟩ := List.nodup_cons.mp nodup
      obtain ⟨small, inRange, mapped⟩ := pages vpn List.mem_cons_self
      obtain ⟨area₁, t₁, first, shape₁, cleared₁, good₁, moved₁⟩ :=
        unmapOne_ok lawful good small inRange mapped
      have later : ∀ v ∈ rest, v.val < 2 ^ 27 ∧ v ∈ area₁.vpnRange.vpns ∧ mapping t₁ v ≠ none := by
        intro v member
        have apart : v ≠ vpn := fun same => fresh (same ▸ member)
        obtain ⟨below, within, present⟩ := pages v (List.mem_cons_of_mem _ member)
        refine ⟨below, shape₁.vpnRange ▸ within, ?_⟩
        rw [moved₁ v below, if_neg apart]
        exact present
      obtain ⟨area₂, t₂, loop, shape₂, cleared₂, good₂, moved₂⟩ :=
        unmapVpns_ok lawful rest area₁ t₁ good₁ restNodup later
      refine ⟨area₂, t₂, by simp [unmapVpns, first, loop], shape₁.trans shape₂,
        fun framed v member => ?_, good₂, fun other below => ?_⟩
      · rcases List.mem_cons.mp member with rfl | member
        · rw [shape₂.untouched v fresh]
          exact cleared₁ framed
        · exact cleared₂ (shape₁.mapType.trans framed) v member
      · rw [moved₂ other below, moved₁ other below]
        by_cases head : other = vpn
        · subst head
          simp [fresh]
        · simp [head]

theorem map_cases (lawful : ops.Lawful Good mapping) {area : MapArea} {t : T}
    {held : List PhysPageNum} (good : Good t held) (fresh : ∀ v, area.dataFrames v = none)
    (pages : ∀ v ∈ area.vpnRange.vpns, v.val < 2 ^ 27 ∧ mapping t v = none) :
    (area.map ops t = .error unwrapNone ∧
        (area.mapType = .identical → ops.Exhausts Good mapping)) ∨
      ∃ area' t', area.map ops t = .ok (area', t') ∧ Reshaped area area' area.vpnRange.vpns ∧
        Good t' (held ++ area'.frames) ∧ (∀ v ∈ area.vpnRange.vpns, mapping t' v ≠ none) ∧
        ∀ other, other.val < 2 ^ 27 → other ∉ area.vpnRange.vpns →
          mapping t' other = mapping t other := by
  have empty : area.frames = [] := frames_eq_nil fun v _ => fresh v
  refine mapVpns_cases lawful area.vpnRange.vpns area t (by rw [empty, List.append_nil]; exact good)
    area.vpnRange.vpns_nodup fun v member => ?_
  exact ⟨(pages v member).1, member, fresh v, (pages v member).2⟩

theorem unmap_ok (lawful : ops.Lawful Good mapping) {area : MapArea} {t : T}
    {held : List PhysPageNum} (good : Good t (held ++ area.frames))
    (clean : area.mapType = .identical → area.frames = [])
    (pages : ∀ v ∈ area.vpnRange.vpns, v.val < 2 ^ 27 ∧ mapping t v ≠ none) :
    ∃ area' t', area.unmap ops t = .ok (area', t') ∧ Good t' held ∧
      ∀ other, other.val < 2 ^ 27 → mapping t' other =
        if other ∈ area.vpnRange.vpns then none else mapping t other := by
  obtain ⟨area', t', call, shape, cleared, good', moved⟩ :=
    unmapVpns_ok lawful area.vpnRange.vpns area t good area.vpnRange.vpns_nodup
      fun v member => ⟨(pages v member).1, member, (pages v member).2⟩
  have empty : area'.frames = [] := by
    cases kind : area.mapType with
    | identical => rw [shape.identical kind, clean kind]
    | framed => exact frames_eq_nil fun v member => cleared kind v (shape.vpnRange ▸ member)
  exact ⟨area', t', call, by rw [empty, List.append_nil] at good'; exact good', moved⟩

end MapArea

namespace MemorySet

/-- The frames the trackers of the areas hold. -/
def framesOf (areas : List MapArea) : List PhysPageNum := areas.flatMap MapArea.frames

theorem framesOf_append (areas : List MapArea) (area : MapArea) :
    framesOf (areas ++ [area]) = framesOf areas ++ area.frames := by
  simp [framesOf]

theorem framesOf_perm_eraseIdx {areas : List MapArea} {area : MapArea} {i : Nat}
    (atIndex : areas[i]? = some area) :
    (framesOf areas).Perm (framesOf (areas.eraseIdx i) ++ area.frames) := by
  obtain ⟨within, rfl⟩ := List.getElem?_eq_some_iff.mp atIndex
  have whole : areas = areas.take i ++ areas[i] :: areas.drop (i + 1) := by
    rw [← List.drop_eq_getElem_cons within, List.take_append_drop]
  conv => lhs; rw [whole]
  rw [List.eraseIdx_eq_take_drop_succ]
  simp only [framesOf, List.flatMap_append, List.flatMap_cons, List.append_assoc]
  exact (List.perm_append_comm.append_left _)

variable {T : Type} {ops : PageTableOps T} {Good : T → List PhysPageNum → Prop}
  {mapping : T → VirtPageNum → Option (PhysPageNum × PTEFlags)}

theorem push_cases (lawful : ops.Lawful Good mapping) {self : MemorySet T} {area : MapArea}
    (good : Good self.pageTable (framesOf self.areas)) (fresh : ∀ v, area.dataFrames v = none)
    (pages : ∀ v ∈ area.vpnRange.vpns, v.val < 2 ^ 27 ∧ mapping self.pageTable v = none) :
    (self.push ops area = .error unwrapNone ∧
        (area.mapType = .identical → ops.Exhausts Good mapping)) ∨
      ∃ area' t', self.push ops area = .ok ⟨t', self.areas ++ [area']⟩ ∧
        MapArea.Reshaped area area' area.vpnRange.vpns ∧
        Good t' (framesOf (self.areas ++ [area'])) ∧
        (∀ v ∈ area.vpnRange.vpns, mapping t' v ≠ none) ∧
        ∀ other, other.val < 2 ^ 27 → other ∉ area.vpnRange.vpns →
          mapping t' other = mapping self.pageTable other := by
  rcases MapArea.map_cases lawful good fresh pages with
    failed | ⟨area', t', call, shape, good', mapped, same⟩
  · exact .inl ⟨by simp [push, failed.1], failed.2⟩
  · exact .inr ⟨area', t', by simp [push, call], shape, by rw [framesOf_append]; exact good',
      mapped, same⟩

theorem removeAreaWithStartVpn_ok (lawful : ops.Lawful Good mapping) {self : MemorySet T}
    {area : MapArea} {i : Nat} {startVpn : VirtPageNum}
    (good : Good self.pageTable (framesOf self.areas))
    (atIndex : self.areas[i]? = some area) (starts : area.vpnRange.l = startVpn)
    (only : ∀ j other, self.areas[j]? = some other → other.vpnRange.l = startVpn → j = i)
    (clean : area.mapType = .identical → area.frames = [])
    (pages : ∀ v ∈ area.vpnRange.vpns, v.val < 2 ^ 27 ∧ mapping self.pageTable v ≠ none) :
    ∃ t', self.removeAreaWithStartVpn ops startVpn = .ok ⟨t', self.areas.eraseIdx i⟩ ∧
      Good t' (framesOf (self.areas.eraseIdx i)) ∧
      ∀ other, other.val < 2 ^ 27 → mapping t' other =
        if other ∈ area.vpnRange.vpns then none else mapping self.pageTable other := by
  have passes : (area.vpnRange.l == startVpn) = true := beq_iff_eq.mpr starts
  cases search : self.areas.zipIdx.find? (fun entry => entry.1.vpnRange.l == startVpn) with
  | none =>
      exact absurd search (@KeyedList.find?_zipIdx_ne_none MapArea self.areas
        (fun area : MapArea => area.vpnRange.l == startVpn) area (List.mem_of_getElem? atIndex)
        passes)
  | some entry =>
      obtain ⟨found, j⟩ := entry
      obtain ⟨atJ, passesFound⟩ := @KeyedList.find?_zipIdx MapArea self.areas
        (fun area : MapArea => area.vpnRange.l == startVpn) found j search
      obtain rfl := only j found atJ (beq_iff_eq.mp passesFound)
      obtain rfl : area = found := Option.some.inj (atIndex.symm.trans atJ)
      obtain ⟨area', t', call, good', moved⟩ := MapArea.unmap_ok lawful
        (lawful.held_perm good (framesOf_perm_eraseIdx atIndex)) clean pages
      exact ⟨t', by simp [removeAreaWithStartVpn, search, call], good', moved⟩

theorem trampoline_intoVpn : (VirtAddr.fromUsize trampoline).intoVpn = .ok ⟨2 ^ 27 - 1⟩ := by
  rfl

theorem intoPpn_of_aligned {strampoline : Nat} (aligned : strampoline % 4096 = 0) :
    (PhysAddr.fromUsize strampoline).intoPpn = .ok ⟨strampoline % 2 ^ 56 / 4096⟩ := by
  have offset : (PhysAddr.fromUsize strampoline).pageOffset = 0 := by
    rw [PhysAddr.pageOffset_eq, PhysAddr.fromUsize_val]
    omega
  rw [PhysAddr.intoPpn, if_pos offset]
  simp [PhysAddr.floor, pageSize]

theorem mapTrampoline_cases (lawful : ops.Lawful Good mapping) {self : MemorySet T}
    {held : List PhysPageNum} {strampoline : Nat} (good : Good self.pageTable held)
    (aligned : strampoline % 4096 = 0) (unmapped : mapping self.pageTable ⟨2 ^ 27 - 1⟩ = none) :
    (self.mapTrampoline ops strampoline = .error unwrapNone ∧ ops.Exhausts Good mapping) ∨
      ∃ t', self.mapTrampoline ops strampoline = .ok { self with pageTable := t' } ∧
        Good t' held ∧ mapping t' ⟨2 ^ 27 - 1⟩ ≠ none ∧
        ∀ other, other.val < 2 ^ 27 → other ≠ ⟨2 ^ 27 - 1⟩ →
          mapping t' other = mapping self.pageTable other := by
  have fits : (PhysPageNum.mk (strampoline % 2 ^ 56 / 4096)).val < 2 ^ 44 := by
    dsimp only
    omega
  rcases lawful.map_unmapped (PTEFlags.R ||| PTEFlags.X)
      good (by decide) fits unmapped with failed | ⟨t', call, good', moved⟩
  · exact .inl ⟨by rw [mapTrampoline, trampoline_intoVpn, ok_bind, intoPpn_of_aligned aligned,
      ok_bind, failed, error_bind], ⟨_, held, _, _, _, good, by decide, fits, unmapped, failed⟩⟩
  · refine .inr ⟨t', by rw [mapTrampoline, trampoline_intoVpn, ok_bind,
      intoPpn_of_aligned aligned, ok_bind, call, ok_bind],
      good', by rw [moved ⟨2 ^ 27 - 1⟩ (by decide), if_pos rfl]; simp, fun other below apart => ?_⟩
    rw [moved other below, if_neg apart]

end MemorySet

/-- No page lies in both ranges. -/
def VPNRange.Apart (a b : VPNRange) : Prop := ∀ v, v ∈ a.vpns → v ∉ b.vpns

theorem VPNRange.Apart.symm {a b : VPNRange} (apart : a.Apart b) : b.Apart a :=
  fun v inB inA => apart v inA inB

theorem VPNRange.apart_of_pairwise {ranges : List VPNRange} (pairwise : ranges.Pairwise VPNRange.Apart)
    {i j : Nat} {a b : VPNRange} (atI : ranges[i]? = some a) (atJ : ranges[j]? = some b)
    (differ : i ≠ j) : a.Apart b := by
  obtain ⟨withinI, rfl⟩ := List.getElem?_eq_some_iff.mp atI
  obtain ⟨withinJ, rfl⟩ := List.getElem?_eq_some_iff.mp atJ
  rcases Nat.lt_or_gt_of_ne differ with before | after
  · exact List.pairwise_iff_getElem.mp pairwise i j withinI withinJ before
  · exact (List.pairwise_iff_getElem.mp pairwise j i withinJ withinI after).symm

namespace MemorySet

variable {T : Type} {ops : PageTableOps T} {Good : T → List PhysPageNum → Prop}
  {mapping : T → VirtPageNum → Option (PhysPageNum × PTEFlags)}

variable (Good mapping) in
/-- The address space's areas have the ranges `ranges`; below `2^27` its table maps the
highest page, the trampoline's, and the pages of the areas, and nothing else; the table
is good for the frames the areas hold, and identical areas hold none. -/
structure Tracks (space : MemorySet T) (ranges : List VPNRange) : Prop where
  good : Good space.pageTable (framesOf space.areas)
  areas_ranges : space.areas.map MapArea.vpnRange = ranges
  clean : ∀ area ∈ space.areas, area.mapType = .identical → area.frames = []
  mapped : ∀ vpn, vpn.val < 2 ^ 27 → (mapping space.pageTable vpn ≠ none ↔
    vpn = ⟨2 ^ 27 - 1⟩ ∨ ∃ range ∈ ranges, vpn ∈ range.vpns)

theorem Tracks.push (lawful : ops.Lawful Good mapping) {space : MemorySet T}
    {ranges : List VPNRange} {area : MapArea} (tracks : Tracks Good mapping space ranges)
    (fresh : ∀ v, area.dataFrames v = none)
    (apart : ∀ v ∈ area.vpnRange.vpns, v.val < 2 ^ 27 ∧ v ≠ ⟨2 ^ 27 - 1⟩ ∧
      ∀ range ∈ ranges, v ∉ range.vpns) :
    (space.push ops area = .error unwrapNone ∧
        (area.mapType = .identical → ops.Exhausts Good mapping)) ∨
      ∃ space', space.push ops area = .ok space' ∧
        Tracks Good mapping space' (ranges ++ [area.vpnRange]) ∧
        ∀ other, other.val < 2 ^ 27 → other ∉ area.vpnRange.vpns →
          mapping space'.pageTable other = mapping space.pageTable other := by
  have unmapped : ∀ v ∈ area.vpnRange.vpns, v.val < 2 ^ 27 ∧ mapping space.pageTable v = none := by
    intro v member
    obtain ⟨small, notTrampoline, outside⟩ := apart v member
    refine ⟨small, Classical.not_not.mp fun mapped => ?_⟩
    rcases (tracks.mapped v small).mp mapped with same | ⟨range, listed, inside⟩
    · exact notTrampoline same
    · exact outside range listed inside
  rcases push_cases lawful tracks.good fresh unmapped with
    failed | ⟨area', t', call, shape, good', mapped', same'⟩
  · exact .inl failed
  refine .inr ⟨_, call, ⟨good', ?_, fun member listed kind => ?_, fun vpn small => ?_⟩, same'⟩
  · rw [List.map_append, tracks.areas_ranges, List.map_singleton, shape.vpnRange]
  · rcases List.mem_append.mp listed with old | new
    · exact tracks.clean member old kind
    · rw [List.mem_singleton.mp new] at kind ⊢
      rw [shape.identical (shape.mapType ▸ kind)]
      exact MapArea.frames_eq_nil fun v _ => fresh v
  · by_cases inside : vpn ∈ area.vpnRange.vpns
    · exact ⟨fun _ => .inr ⟨area.vpnRange, by simp, inside⟩, fun _ => mapped' vpn inside⟩
    · rw [same' vpn small inside, tracks.mapped vpn small]
      simp [inside]

theorem Tracks.removeAreaWithStartVpn (lawful : ops.Lawful Good mapping)
    {space : MemorySet T} {ranges : List VPNRange} {range : VPNRange} {i : Nat}
    (tracks : Tracks Good mapping space ranges) (pairwise : ranges.Pairwise VPNRange.Apart)
    (noTrampoline : ∀ range ∈ ranges, (⟨2 ^ 27 - 1⟩ : VirtPageNum) ∉ range.vpns)
    (atIndex : ranges[i]? = some range)
    (only : ∀ j other, ranges[j]? = some other → other.l = range.l → j = i)
    (small : ∀ v ∈ range.vpns, v.val < 2 ^ 27) :
    ∃ t', space.removeAreaWithStartVpn ops range.l = .ok ⟨t', space.areas.eraseIdx i⟩ ∧
      Tracks Good mapping ⟨t', space.areas.eraseIdx i⟩ (ranges.eraseIdx i) ∧
      ∀ other, other.val < 2 ^ 27 → mapping t' other =
        if other ∈ range.vpns then none else mapping space.pageTable other := by
  have listed : ∀ j, (space.areas[j]?).map MapArea.vpnRange = ranges[j]? := fun j => by
    rw [← tracks.areas_ranges, List.getElem?_map]
  obtain ⟨area, atArea, ranged⟩ : ∃ area, space.areas[i]? = some area ∧ area.vpnRange = range := by
    have found := listed i
    rw [atIndex] at found
    cases atI : space.areas[i]? with
    | none => rw [atI] at found; cases found
    | some area => rw [atI] at found; exact ⟨area, rfl, Option.some.inj found⟩
  subst ranged
  have pages : ∀ v ∈ area.vpnRange.vpns, v.val < 2 ^ 27 ∧ mapping space.pageTable v ≠ none :=
    fun v member => ⟨small v member,
      (tracks.mapped v (small v member)).mpr (.inr ⟨_, List.mem_of_getElem? atIndex, member⟩)⟩
  have onlyArea : ∀ j other, space.areas[j]? = some other → other.vpnRange.l = area.vpnRange.l →
      j = i := by
    intro j other atJ starts
    have ranged := listed j
    rw [atJ, Option.map_some] at ranged
    exact only j other.vpnRange ranged.symm starts
  obtain ⟨t', call, good', moved⟩ := removeAreaWithStartVpn_ok lawful tracks.good atArea rfl
    onlyArea (tracks.clean area (List.mem_of_getElem? atArea)) pages
  refine ⟨t', call, ⟨good', ?_, fun member kept => tracks.clean member
    (List.mem_of_mem_eraseIdx kept), fun vpn below => ?_⟩, moved⟩
  · rw [← List.eraseIdx_map, tracks.areas_ranges]
  · dsimp only
    rw [moved vpn below]
    by_cases inside : vpn ∈ area.vpnRange.vpns
    · rw [if_pos inside]
      simp only [ne_eq, not_true_eq_false, false_iff, not_or]
      refine ⟨fun same => noTrampoline _ (List.mem_of_getElem? atIndex) (same ▸ inside), ?_⟩
      rintro ⟨other, kept, insideOther⟩
      obtain ⟨j, differ, atJ⟩ := List.mem_eraseIdx_iff_getElem?.mp kept
      exact VPNRange.apart_of_pairwise pairwise atIndex atJ differ.symm vpn inside insideOther
    · rw [if_neg inside, tracks.mapped vpn below]
      refine or_congr Iff.rfl ⟨fun ⟨other, kept, insideOther⟩ => ?_,
        fun ⟨other, kept, insideOther⟩ => ⟨other, List.mem_of_mem_eraseIdx kept, insideOther⟩⟩
      obtain ⟨j, atJ⟩ := List.mem_iff_getElem?.mp kept
      have differ : j ≠ i := by
        rintro rfl
        rw [atIndex] at atJ
        exact inside (Option.some.inj atJ ▸ insideOther)
      exact ⟨other, List.mem_eraseIdx_iff_getElem?.mpr ⟨j, differ, atJ⟩, insideOther⟩

end MemorySet

/-- What `linker-qemu.ld` lays out: the sections follow each other from `BASE_ADDRESS`
at page boundaries, the kernel ends below `MEMORY_END`, and the trampoline code starts
at a page boundary. -/
structure KernelSymbols.Laid (symbols : KernelSymbols) : Prop where
  stext_eq : symbols.stext = 0x80200000
  srodata_eq : symbols.srodata = symbols.etext
  sdata_eq : symbols.sdata = symbols.erodata
  sbss_eq : symbols.sbssWithStack = symbols.edata
  ekernel_eq : symbols.ekernel = symbols.ebss
  ordered : symbols.stext ≤ symbols.etext ∧ symbols.etext ≤ symbols.erodata ∧
    symbols.erodata ≤ symbols.edata ∧ symbols.edata ≤ symbols.ebss
  below : symbols.ebss < memoryEnd
  aligned : symbols.etext % 4096 = 0 ∧ symbols.erodata % 4096 = 0 ∧ symbols.edata % 4096 = 0 ∧
    symbols.ebss % 4096 = 0 ∧ symbols.strampoline % 4096 = 0

/-- The identical areas of `new_kernel` in the order it pushes them, as
`(start, end, permission)`: the five kernel sections, then the MMIO ranges. -/
def kernelSections (symbols : KernelSymbols) : List (Nat × Nat × MapPermission) :=
  [(symbols.stext, symbols.etext, MapPermission.R ||| MapPermission.X),
    (symbols.srodata, symbols.erodata, MapPermission.R),
    (symbols.sdata, symbols.edata, MapPermission.R ||| MapPermission.W),
    (symbols.sbssWithStack, symbols.ebss, MapPermission.R ||| MapPermission.W),
    (symbols.ekernel, memoryEnd, MapPermission.R ||| MapPermission.W)] ++
  mmio.map fun pair => (pair.1, (pair.1 + pair.2) % 2 ^ 64, MapPermission.R ||| MapPermission.W)

/-- The pages of an identical area that starts and ends at page boundaries. -/
def sectionRange (part : Nat × Nat × MapPermission) : VPNRange :=
  ⟨⟨part.1 / 4096⟩, ⟨part.2.1 / 4096⟩⟩

/-- The ranges of the identical areas of `new_kernel`. -/
def sectionRanges (symbols : KernelSymbols) : List VPNRange :=
  (kernelSections symbols).map sectionRange

/-- An identical area `new_kernel` can push: it starts and ends at page boundaries, below
the trampoline's page. -/
def SectionFits (part : Nat × Nat × MapPermission) : Prop :=
  part.1 ≤ part.2.1 ∧ part.1 % 4096 = 0 ∧ part.2.1 % 4096 = 0 ∧ 0 < part.2.1 ∧
    part.2.1 ≤ 2 ^ 39 - 4096

theorem VPNRange.apart_of_separated {a b : VPNRange}
    (separated : a.r.val ≤ b.l.val ∨ b.r.val ≤ a.l.val) : a.Apart b := by
  intro v inA inB
  rw [VPNRange.mem_vpns] at inA inB
  omega

namespace KernelSymbols

variable {symbols : KernelSymbols}

theorem Laid.sections_fit (laid : symbols.Laid) : ∀ part ∈ kernelSections symbols, SectionFits part := by
  obtain ⟨stext, srodata, sdata, sbss, ekernel, ordered, below, aligned⟩ := laid
  simp only [kernelSections, mmio, List.map_cons, List.map_nil, List.cons_append, List.nil_append,
    List.mem_cons, List.not_mem_nil, or_false, forall_eq_or_imp, forall_eq, SectionFits,
    Nat.reduceAdd, Nat.reducePow, Nat.reduceSub]
  simp only [memoryEnd, true_and] at below ⊢
  omega

theorem Laid.sections_pairwise (laid : symbols.Laid) :
    (sectionRanges symbols).Pairwise VPNRange.Apart := by
  obtain ⟨stext, srodata, sdata, sbss, ekernel, ordered, below, aligned⟩ := laid
  refine List.Pairwise.imp VPNRange.apart_of_separated ?_
  simp only [sectionRanges, kernelSections, mmio, sectionRange, List.map_cons, List.map_nil,
    List.cons_append, List.nil_append, List.pairwise_cons, List.mem_cons, List.not_mem_nil,
    or_false, forall_eq_or_imp, forall_eq, List.Pairwise.nil, and_true, IsEmpty.forall_iff,
    implies_true, Nat.reduceAdd, Nat.reducePow, Nat.reduceMod]
  simp only [memoryEnd] at below ⊢
  omega

end KernelSymbols

theorem MapArea.new_section {part : Nat × Nat × MapPermission} (fits : SectionFits part) :
    MapArea.new (VirtAddr.fromUsize part.1) (VirtAddr.fromUsize part.2.1) .identical part.2.2 =
      .ok ⟨sectionRange part, fun _ => none, .identical, part.2.2⟩ := by
  obtain ⟨ordered, alignedStart, alignedEnd, positive, small⟩ := fits
  have masked : ∀ v, v ≤ part.2.1 → (VirtAddr.fromUsize v).val = v := fun v below => by
    rw [VirtAddr.fromUsize_val]
    omega
  have created := @MapArea.new_of_aligned (VirtAddr.fromUsize part.1)
    (VirtAddr.fromUsize part.2.1) .identical part.2.2
    (by rw [masked _ ordered, masked _ (Nat.le_refl _)]; exact ordered)
    (by rw [masked _ (Nat.le_refl _)]; exact alignedEnd)
    (by rw [masked _ (Nat.le_refl _)]; exact positive)
    (by rw [masked _ (Nat.le_refl _)]; omega)
  have ranged : (⟨(VirtAddr.fromUsize part.1).floor, ⟨(VirtAddr.fromUsize part.2.1).val / 4096⟩⟩ :
      VPNRange) = sectionRange part := by
    simp only [sectionRange, VirtAddr.floor, pageSize, masked _ ordered, masked _ (Nat.le_refl _)]
  rw [ranged] at created
  exact created

namespace MemorySet

variable {T : Type} (ops : PageTableOps T)

theorem newKernel_eq (pageTable : T) (symbols : KernelSymbols) :
    newKernel ops pageTable symbols =
      (newBare pageTable).mapTrampoline ops symbols.strampoline >>= fun space =>
        (kernelSections symbols).foldlM
          (fun space part => space.pushIdentical ops part.1 part.2.1 part.2.2) space :=
  rfl

variable {ops} {Good : T → List PhysPageNum → Prop}
  {mapping : T → VirtPageNum → Option (PhysPageNum × PTEFlags)}

theorem Tracks.pushIdentical (lawful : ops.Lawful Good mapping) {space : MemorySet T}
    {ranges : List VPNRange} {part : Nat × Nat × MapPermission}
    (tracks : Tracks Good mapping space ranges) (fits : SectionFits part)
    (apart : ∀ range ∈ ranges, (sectionRange part).Apart range) :
    (space.pushIdentical ops part.1 part.2.1 part.2.2 = .error unwrapNone ∧
        ops.Exhausts Good mapping) ∨
      ∃ space', space.pushIdentical ops part.1 part.2.1 part.2.2 = .ok space' ∧
        Tracks Good mapping space' (ranges ++ [sectionRange part]) := by
  have small := fits.2.2.2.2
  have pushed := Tracks.push lawful tracks
    (fun v => (rfl : (MapArea.mk (sectionRange part) (fun _ => none) .identical part.2.2).dataFrames v
      = none))
    fun v member => by
      have inside := (VPNRange.mem_vpns _ v).mp member
      simp only [sectionRange] at inside
      refine ⟨by omega, fun same => by rw [same] at inside; simp at inside; omega,
        fun range listed => apart range listed v member⟩
  rw [MemorySet.pushIdentical, MapArea.new_section fits, ok_bind]
  rcases pushed with failed | ⟨space', call, tracks', -⟩
  · exact .inl ⟨failed.1, failed.2 rfl⟩
  · exact .inr ⟨space', call, tracks'⟩

theorem Tracks.pushIdenticals (lawful : ops.Lawful Good mapping) :
    ∀ (parts : List (Nat × Nat × MapPermission)) (space : MemorySet T) (ranges : List VPNRange),
      Tracks Good mapping space ranges → (∀ part ∈ parts, SectionFits part) →
      (ranges ++ parts.map sectionRange).Pairwise VPNRange.Apart →
      (parts.foldlM (fun space part => space.pushIdentical ops part.1 part.2.1 part.2.2) space =
          .error unwrapNone ∧ ops.Exhausts Good mapping) ∨
        ∃ space', parts.foldlM (fun space part => space.pushIdentical ops part.1 part.2.1 part.2.2)
            space = .ok space' ∧ Tracks Good mapping space' (ranges ++ parts.map sectionRange)
  | [], space, ranges, tracks, _, _ => .inr ⟨space, rfl, by simpa using tracks⟩
  | part :: rest, space, ranges, tracks, fits, pairwise => by
      have apart : ∀ range ∈ ranges, (sectionRange part).Apart range := fun range listed =>
        (List.pairwise_append.mp pairwise).2.2 range listed _ List.mem_cons_self |>.symm
      rcases tracks.pushIdentical lawful (fits part List.mem_cons_self) apart with
        failed | ⟨space₁, first, tracks₁⟩
      · exact .inl ⟨by simp [failed.1], failed.2⟩
      have later := Tracks.pushIdenticals lawful rest space₁ (ranges ++ [sectionRange part]) tracks₁
        (fun other member => fits other (List.mem_cons_of_mem _ member))
        (by simpa using pairwise)
      simpa [first] using later

theorem newKernel_tracks (lawful : ops.Lawful Good mapping) {pageTable : T}
    {symbols : KernelSymbols} (laid : symbols.Laid) (good : Good pageTable [])
    (empty : ∀ vpn, vpn.val < 2 ^ 27 → mapping pageTable vpn = none) :
    (newKernel ops pageTable symbols = .error unwrapNone ∧ ops.Exhausts Good mapping) ∨
      ∃ space, newKernel ops pageTable symbols = .ok space ∧
        Tracks Good mapping space (sectionRanges symbols) := by
  rcases @mapTrampoline_cases T ops Good mapping lawful (newBare pageTable) [] symbols.strampoline
      good laid.aligned.2.2.2.2 (empty _ (by decide)) with failed | ⟨t', call, good', mapped, same⟩
  · exact .inl ⟨by rw [newKernel_eq, failed.1, error_bind], failed.2⟩
  have start : Tracks Good mapping { newBare pageTable with pageTable := t' } [] := by
    refine ⟨good', rfl, fun _ member => absurd member List.not_mem_nil, fun vpn small => ?_⟩
    by_cases top : vpn = ⟨2 ^ 27 - 1⟩
    · subst top
      simpa using mapped
    · rw [same vpn small top]
      simpa [newBare, empty vpn small] using top
  rw [newKernel_eq, call, ok_bind]
  exact Tracks.pushIdenticals lawful _ _ [] start laid.sections_fit laid.sections_pairwise

end MemorySet

end ChOs
