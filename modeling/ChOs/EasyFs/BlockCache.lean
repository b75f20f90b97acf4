import ChOs.EasyFs.BlockDevice
import ChOs.Library.KeyedList
import ChOs.Library.Transition
import Mathlib.Data.Finset.Card

set_option autoImplicit false

/- The block cache of `easy-fs` (`easy-fs/src/block_cache.rs`). -/

namespace ChOs

namespace EasyFs

/-- `BLOCK_CACHE_SIZE`. -/
def blockCacheSize : Nat := 16

structure BlockCache (Block : Type) where
  cache : Block
  blockId : Nat
  modified : Bool

namespace BlockCache

variable {Block : Type}

/-- `BlockCache::new`: the block as the device holds it, not modified. -/
def new (device : Nat → Block) (blockId : Nat) : BlockCache Block :=
  ⟨device blockId, blockId, false⟩

/-- The assertion of `get_ref` and `get_mut`. -/
def outOfBlock : String := "assertion failed: offset + type_size <= BLOCK_SZ"

/-- `read`: the closure sees the buffer through `get_ref`. -/
def read {α : Type} (self : BlockCache Block) (offset typeSize : Nat) (f : Block → α) :
    Except String α :=
  if offset + typeSize ≤ blockSz then .ok (f self.cache) else .error outOfBlock

/-- `modify`: `get_mut` marks the buffer modified, then the closure changes it. -/
def modify (self : BlockCache Block) (offset typeSize : Nat) (f : Block → Block) :
    Except String (BlockCache Block) :=
  if offset + typeSize ≤ blockSz then .ok { self with cache := f self.cache, modified := true }
  else .error outOfBlock

/-- `sync`: a modified buffer is written back to its block. -/
def sync (self : BlockCache Block) (device : Nat → Block) : BlockCache Block × (Nat → Block) :=
  if self.modified then ({ self with modified := false }, Function.update device self.blockId self.cache)
  else (self, device)

section Spec

variable (self : BlockCache Block) (device : Nat → Block)

theorem modify_eq_ok {offset typeSize : Nat} {f : Block → Block} {next : BlockCache Block} :
    self.modify offset typeSize f = .ok next ↔
      offset + typeSize ≤ blockSz ∧ next = { self with cache := f self.cache, modified := true } := by
  unfold modify
  split
  · rename_i inside
    simp only [Except.ok.injEq, inside, true_and]
    exact eq_comm
  · rename_i outside
    exact ⟨fun impossible => (by cases impossible), fun ⟨inside, _⟩ => absurd inside outside⟩

theorem sync_cache : (self.sync device).1 = { self with modified := false } := by
  unfold sync
  cases modified : self.modified
  · cases self
    simp only at modified
    rw [modified]
    rfl
  · rfl

theorem sync_device_other {other : Nat} (differ : other ≠ self.blockId) :
    (self.sync device).2 other = device other := by
  unfold sync
  split
  · exact Function.update_of_ne differ _ _
  · rfl

theorem sync_device_self (clean : self.modified = false → self.cache = device self.blockId) :
    (self.sync device).2 self.blockId = self.cache := by
  unfold sync
  split
  · exact Function.update_self _ _ _
  · rename_i unmodified
    exact (clean (Bool.eq_false_iff.mpr unmodified)).symm

end Spec

end BlockCache

structure BlockCacheManager (Block : Type) where
  /-- `queue`: the block id and the `Arc` of each cached block, the oldest first. -/
  queue : List (Nat × Nat)
  /-- The live `BlockCache` behind each `Arc`. -/
  caches : Nat → Option (BlockCache Block)
  /-- The clones of `Arc`s that the callers hold, one entry for each clone. -/
  held : List Nat
  /-- The blocks of the device. -/
  device : Nat → Block
  /-- An `Arc` that has not been allocated. -/
  nextArc : Nat

namespace BlockCacheManager

variable {Block : Type}

/-- `BlockCacheManager::new` over a device. -/
def new (device : Nat → Block) : BlockCacheManager Block := ⟨[], fun _ => none, [], device, 0⟩

/-- `Arc::strong_count`: the clones in the queue and in the callers' hands. -/
def strongCount (self : BlockCacheManager Block) (arc : Nat) : Nat :=
  (self.queue.map Prod.snd).count arc + self.held.count arc

/-- After a clone of `arc` is dropped: the last one drops the `BlockCache`, whose `drop`
calls `sync`. -/
def release (self : BlockCacheManager Block) (arc : Nat) : BlockCacheManager Block :=
  match self.caches arc with
  | some cache =>
      if self.strongCount arc = 0 then
        { self with
          caches := Function.update self.caches arc none
          device := (cache.sync self.device).2 }
      else self
  | none => self

/-- The panic of `get_block_cache` when every queued block is in use. -/
def runOutOfBlockCache : String := "Run out of BlockCache!"

/-- The replacement of a full queue: the first entry whose strong count is 1 is drained,
which drops its last `Arc`. -/
def evict (self : BlockCacheManager Block) : Except String (BlockCacheManager Block) :=
  match self.queue.zipIdx.find? (fun entry => self.strongCount entry.1.2 == 1) with
  | some ((_, arc), idx) => .ok ({ self with queue := self.queue.eraseIdx idx }.release arc)
  | none => .error runOutOfBlockCache

/-- `BlockCache::new` for a block that is not cached, and `push_back` of its `Arc`, of
which the caller gets a clone. -/
def pushBack (self : BlockCacheManager Block) (blockId : Nat) : BlockCacheManager Block :=
  { self with
    queue := self.queue ++ [(blockId, self.nextArc)]
    caches := Function.update self.caches self.nextArc (some (BlockCache.new self.device blockId))
    held := self.nextArc :: self.held
    nextArc := self.nextArc + 1 }

/-- `get_block_cache`: the `Arc` returned, and the manager after the call. -/
def getBlockCache (self : BlockCacheManager Block) (blockId : Nat) :
    Except String (Nat × BlockCacheManager Block) :=
  match self.queue.find? (fun pair => pair.1 == blockId) with
  | some (_, arc) => .ok (arc, { self with held := arc :: self.held })
  | none => do
      let self ← if self.queue.length = blockCacheSize then self.evict else pure self
      .ok (self.nextArc, self.pushBack blockId)

/-- A caller drops a clone of `arc`. -/
def dropHandle (self : BlockCacheManager Block) (arc : Nat) : BlockCacheManager Block :=
  { self with held := self.held.erase arc }.release arc

/-- The `BlockCache` behind `arc` after a `modify` through it. -/
def setCache (self : BlockCacheManager Block) (arc : Nat) (cache : BlockCache Block) :
    BlockCacheManager Block :=
  { self with caches := Function.update self.caches arc (some cache) }

/-- `cache.lock().sync()` for the `Arc` of a queue entry. -/
def syncArc (self : BlockCacheManager Block) (arc : Nat) : BlockCacheManager Block :=
  match self.caches arc with
  | some cache =>
      { self with
        caches := Function.update self.caches arc (some (cache.sync self.device).1)
        device := (cache.sync self.device).2 }
  | none => self

/-- The loop of `block_cache_sync_all` over the entries still to sync. -/
def syncArcs (self : BlockCacheManager Block) : List (Nat × Nat) → BlockCacheManager Block
  | [] => self
  | (_, arc) :: rest => (self.syncArc arc).syncArcs rest

def blockCacheSyncAll (self : BlockCacheManager Block) : BlockCacheManager Block :=
  self.syncArcs self.queue

/-- The content of a block for the file system: its buffer while it is cached, its device
copy otherwise. -/
def logical (self : BlockCacheManager Block) (blockId : Nat) : Block :=
  match self.queue.find? (fun pair => pair.1 == blockId) with
  | some (_, arc) =>
      match self.caches arc with
      | some cache => cache.cache
      | none => self.device blockId
  | none => self.device blockId

end BlockCacheManager

/-- What the block cache stands for, a plain array of blocks, after a `modify` of block
`effect.1` with the closure `effect.2`. -/
def applyEffect {Block : Type} (contents : Nat → Block) (effect : Nat × (Block → Block)) :
    Nat → Block :=
  Function.update contents effect.1 (effect.2 (contents effect.1))

namespace BlockCacheManager

variable {Block : Type}

/-- One call on the block cache. A `modify` through a held `Arc` is labelled with its block
and closure; the other calls change no content. -/
inductive Step : BlockCacheManager Block → Option (Nat × (Block → Block)) →
    BlockCacheManager Block → Prop
  | getBlockCache {self next : BlockCacheManager Block} {blockId arc : Nat} :
      self.getBlockCache blockId = .ok (arc, next) → Step self none next
  | modify {self : BlockCacheManager Block} {arc offset typeSize : Nat}
      {cache modified : BlockCache Block} {f : Block → Block} :
      arc ∈ self.held → self.caches arc = some cache →
      cache.modify offset typeSize f = .ok modified →
      Step self (some (cache.blockId, f)) (self.setCache arc modified)
  | dropHandle {self : BlockCacheManager Block} {arc : Nat} :
      arc ∈ self.held → Step self none (self.dropHandle arc)
  | blockCacheSyncAll {self : BlockCacheManager Block} : Step self none self.blockCacheSyncAll

/-- The invariant of the manager: the queue is a map from distinct blocks to distinct
`Arc`s, every live `BlockCache` is queued and so is every `Arc` a caller holds, a buffer
that is not modified equals its device block, and fresh `Arc`s are unused. -/
structure Coherent (manager : BlockCacheManager Block) : Prop where
  blockIds_nodup : (manager.queue.map Prod.fst).Nodup
  arcs_nodup : (manager.queue.map Prod.snd).Nodup
  length_le : manager.queue.length ≤ blockCacheSize
  queued_live : ∀ {blockId arc : Nat}, (blockId, arc) ∈ manager.queue →
    ∃ cache, manager.caches arc = some cache ∧ cache.blockId = blockId
  live_queued : ∀ {arc : Nat} {cache : BlockCache Block}, manager.caches arc = some cache →
    (cache.blockId, arc) ∈ manager.queue
  held_queued : ∀ {arc : Nat}, arc ∈ manager.held → ∃ blockId, (blockId, arc) ∈ manager.queue
  clean : ∀ {arc : Nat} {cache : BlockCache Block}, manager.caches arc = some cache →
    cache.modified = false → cache.cache = manager.device cache.blockId
  fresh : ∀ {arc : Nat}, manager.nextArc ≤ arc → manager.caches arc = none

section Logical

variable {self : BlockCacheManager Block}

theorem logical_of_live (distinct : (self.queue.map Prod.fst).Nodup) {arc : Nat}
    {cache : BlockCache Block} (live : self.caches arc = some cache)
    (queued : (cache.blockId, arc) ∈ self.queue) : self.logical cache.blockId = cache.cache := by
  rw [logical, KeyedList.find?_key_of_mem distinct queued]
  simp only [live]

theorem logical_of_absent {blockId : Nat} (absent : ∀ arc, (blockId, arc) ∉ self.queue) :
    self.logical blockId = self.device blockId := by
  rw [logical, KeyedList.find?_key_of_absent absent]

theorem logical_of_queued (inv : Coherent self) {blockId arc : Nat}
    (queued : (blockId, arc) ∈ self.queue) :
    ∃ cache, self.caches arc = some cache ∧ cache.blockId = blockId ∧
      self.logical blockId = cache.cache := by
  obtain ⟨cache, live, rfl⟩ := inv.queued_live queued
  exact ⟨cache, live, rfl, logical_of_live inv.blockIds_nodup live queued⟩

theorem logical_congr_at {other : BlockCacheManager Block} (inv : Coherent self)
    (otherDistinct : (other.queue.map Prod.fst).Nodup) {blockId : Nat}
    (sameEntries : ∀ arc, (blockId, arc) ∈ other.queue ↔ (blockId, arc) ∈ self.queue)
    (sameCaches : ∀ arc, (blockId, arc) ∈ self.queue → other.caches arc = self.caches arc)
    (sameDevice : (∀ arc, (blockId, arc) ∉ self.queue) →
      other.device blockId = self.device blockId) :
    other.logical blockId = self.logical blockId := by
  by_cases cached : ∃ arc, (blockId, arc) ∈ self.queue
  · obtain ⟨arc, queued⟩ := cached
    obtain ⟨cache, live, rfl, reads⟩ := logical_of_queued inv queued
    rw [reads, logical_of_live otherDistinct ((sameCaches arc queued).trans live)
      ((sameEntries arc).mpr queued)]
  · have absent : ∀ arc, (blockId, arc) ∉ self.queue := fun arc queued => cached ⟨arc, queued⟩
    rw [logical_of_absent absent,
      logical_of_absent fun arc queued => absent arc ((sameEntries arc).mp queued),
      sameDevice absent]

end Logical

section Steps

variable {self : BlockCacheManager Block}

theorem Coherent.blockId_unique (inv : Coherent self) {first second arc : Nat}
    (firstQueued : (first, arc) ∈ self.queue) (secondQueued : (second, arc) ∈ self.queue) :
    first = second :=
  KeyedList.key_unique inv.arcs_nodup firstQueued secondQueued

theorem Coherent.lt_nextArc (inv : Coherent self) {arc : Nat} {cache : BlockCache Block}
    (live : self.caches arc = some cache) : arc < self.nextArc :=
  Nat.lt_of_not_le fun late => by rw [inv.fresh late] at live; cases live

theorem Coherent.hold (inv : Coherent self) {blockId arc : Nat}
    (queued : (blockId, arc) ∈ self.queue) : Coherent { self with held := arc :: self.held } := by
  refine ⟨inv.blockIds_nodup, inv.arcs_nodup, inv.length_le, inv.queued_live, inv.live_queued,
    fun holding => ?_, inv.clean, inv.fresh⟩
  rcases List.mem_cons.mp holding with rfl | earlier
  · exact ⟨blockId, queued⟩
  · exact inv.held_queued earlier

theorem Coherent.pushBack (inv : Coherent self) {blockId : Nat}
    (room : self.queue.length < blockCacheSize) (absent : ∀ arc, (blockId, arc) ∉ self.queue) :
    Coherent (self.pushBack blockId) ∧ (self.pushBack blockId).logical = self.logical := by
  have unqueued : ∀ other, (other, self.nextArc) ∉ self.queue := fun other queued => by
    obtain ⟨cache, live, -⟩ := inv.queued_live queued
    exact Nat.lt_irrefl _ (inv.lt_nextArc live)
  have oldArc : ∀ {other arc}, (other, arc) ∈ self.queue → arc ≠ self.nextArc :=
    fun queued same => unqueued _ (same ▸ queued)
  have caches : ∀ {arc}, arc ≠ self.nextArc → (self.pushBack blockId).caches arc = self.caches arc :=
    fun differ => Function.update_of_ne differ _ _
  have newCache : (self.pushBack blockId).caches self.nextArc =
      some (BlockCache.new self.device blockId) := Function.update_self _ _ _
  have members : ∀ {entry}, entry ∈ (self.pushBack blockId).queue ↔
      entry ∈ self.queue ∨ entry = (blockId, self.nextArc) := by
    intro entry
    show entry ∈ self.queue ++ [(blockId, self.nextArc)] ↔ _
    rw [List.mem_append, List.mem_singleton]
  have inv' : Coherent (self.pushBack blockId) := by
    constructor
    · show ((self.queue ++ [(blockId, self.nextArc)]).map Prod.fst).Nodup
      rw [List.map_append, List.nodup_append]
      refine ⟨inv.blockIds_nodup, List.nodup_singleton _, fun old oldMem new newMem same => ?_⟩
      obtain ⟨⟨other, arc⟩, queued, rfl⟩ := List.mem_map.mp oldMem
      rw [List.map_singleton, List.mem_singleton] at newMem
      have loaded : other = blockId := same.trans newMem
      exact absent arc (loaded ▸ queued)
    · show ((self.queue ++ [(blockId, self.nextArc)]).map Prod.snd).Nodup
      rw [List.map_append, List.nodup_append]
      refine ⟨inv.arcs_nodup, List.nodup_singleton _, fun old oldMem new newMem same => ?_⟩
      obtain ⟨⟨other, arc⟩, queued, rfl⟩ := List.mem_map.mp oldMem
      rw [List.map_singleton, List.mem_singleton] at newMem
      exact oldArc queued (same.trans newMem)
    · show (self.queue ++ [(blockId, self.nextArc)]).length ≤ blockCacheSize
      rw [List.length_append, List.length_singleton]
      exact room
    · intro other arc queued
      rcases members.mp queued with old | new
      · rw [caches (oldArc old)]
        exact inv.queued_live old
      · obtain ⟨rfl, rfl⟩ := Prod.mk.inj new
        exact ⟨_, newCache, rfl⟩
    · intro arc cache live
      by_cases new : arc = self.nextArc
      · subst new
        rw [newCache, Option.some.injEq] at live
        subst live
        exact members.mpr (Or.inr rfl)
      · rw [caches new] at live
        exact members.mpr (Or.inl (inv.live_queued live))
    · intro arc holding
      rcases List.mem_cons.mp holding with rfl | earlier
      · exact ⟨blockId, members.mpr (Or.inr rfl)⟩
      · obtain ⟨other, queued⟩ := inv.held_queued earlier
        exact ⟨other, members.mpr (Or.inl queued)⟩
    · intro arc cache live unmodified
      by_cases new : arc = self.nextArc
      · subst new
        rw [newCache, Option.some.injEq] at live
        subst live
        rfl
      · rw [caches new] at live
        exact inv.clean live unmodified
    · intro arc late
      rw [caches (by show arc ≠ self.nextArc; exact Nat.ne_of_gt late)]
      exact inv.fresh (Nat.le_of_succ_le late)
  refine ⟨inv', funext fun other => ?_⟩
  by_cases cached : ∃ arc, (other, arc) ∈ self.queue
  · obtain ⟨arc, queued⟩ := cached
    obtain ⟨cache, live, rfl, reads⟩ := logical_of_queued inv queued
    rw [reads, logical_of_live inv'.blockIds_nodup ((caches (oldArc queued)).trans live)
      (members.mpr (Or.inl queued))]
  · have oldAbsent : ∀ arc, (other, arc) ∉ self.queue := fun arc queued => cached ⟨arc, queued⟩
    rw [logical_of_absent oldAbsent]
    by_cases loaded : other = blockId
    · subst loaded
      exact logical_of_live inv'.blockIds_nodup newCache (members.mpr (Or.inr rfl))
    · refine logical_of_absent fun arc queued => ?_
      rcases members.mp queued with old | new
      · exact oldAbsent arc old
      · exact loaded (Prod.mk.inj new).1

theorem release_of_ne_zero {arc : Nat} (remaining : self.strongCount arc ≠ 0) :
    self.release arc = self := by
  unfold release
  split
  · exact if_neg remaining
  · rfl

theorem release_of_zero {arc : Nat} {cache : BlockCache Block} (live : self.caches arc = some cache)
    (last : self.strongCount arc = 0) :
    self.release arc = { self with
      caches := Function.update self.caches arc none
      device := (cache.sync self.device).2 } := by
  rw [release, live]
  exact if_pos last

theorem Coherent.evict (inv : Coherent self) {next : BlockCacheManager Block}
    (call : self.evict = .ok next) :
    Coherent next ∧ next.logical = self.logical ∧ next.queue.length + 1 = self.queue.length ∧
      ∀ {entry}, entry ∈ next.queue → entry ∈ self.queue := by
  unfold BlockCacheManager.evict at call
  split at call
  · rename_i victimBlock arc index search
    obtain ⟨atIndex, single⟩ := @KeyedList.find?_zipIdx _ self.queue
      (fun pair => self.strongCount pair.2 == 1) _ _ search
    have distinct : self.queue.Nodup := List.Nodup.of_map Prod.fst inv.blockIds_nodup
    have victim : (victimBlock, arc) ∈ self.queue := List.mem_of_getElem? atIndex
    obtain ⟨cache, live, rfl⟩ := inv.queued_live victim
    have queuedOnce : (self.queue.map Prod.snd).count arc = 1 := by
      rw [inv.arcs_nodup.count, if_pos (List.mem_map.mpr ⟨_, victim, rfl⟩)]
    have unheld : self.held.count arc = 0 := by
      have counted : self.strongCount arc = 1 := beq_iff_eq.mp single
      unfold strongCount at counted
      omega
    have erased : ∀ {entry}, entry ∈ self.queue.erase (cache.blockId, arc) ↔
        entry ≠ (cache.blockId, arc) ∧ entry ∈ self.queue := distinct.mem_erase_iff
    have others : ∀ {other otherArc}, (other, otherArc) ∈ self.queue.erase (cache.blockId, arc) →
        otherArc ≠ arc ∧ other ≠ cache.blockId := by
      intro other otherArc remaining
      obtain ⟨differ, queued⟩ := erased.mp remaining
      refine ⟨fun same => differ ?_, fun same => differ ?_⟩
      · subst same
        rw [inv.blockId_unique queued victim]
      · subst same
        rw [KeyedList.value_unique inv.blockIds_nodup queued victim]
    have midLive : ({ self with queue := self.queue.eraseIdx index } :
        BlockCacheManager Block).caches arc = some cache := live
    have drained : ({ self with queue := self.queue.eraseIdx index } :
        BlockCacheManager Block).strongCount arc = 0 := by
      show ((self.queue.eraseIdx index).map Prod.snd).count arc + self.held.count arc = 0
      rw [KeyedList.eraseIdx_eq_erase distinct atIndex, unheld, Nat.add_zero, List.count_eq_zero]
      intro listed
      obtain ⟨⟨other, same⟩, remaining, rfl⟩ := List.mem_map.mp listed
      exact (others remaining).1 rfl
    rw [release_of_zero midLive drained, Except.ok.injEq] at call
    subst call
    rw [KeyedList.eraseIdx_eq_erase distinct atIndex]
    have notHeld : arc ∉ self.held := List.count_eq_zero.mp unheld
    have remaining : ∀ {other otherArc}, (other, otherArc) ∈ self.queue → otherArc ≠ arc →
        (other, otherArc) ∈ self.queue.erase (cache.blockId, arc) := fun queued differ =>
      erased.mpr ⟨fun same => differ (Prod.mk.inj same).2, queued⟩
    have caches : ∀ {other}, other ≠ arc → Function.update self.caches arc none other =
        self.caches other := fun differ => Function.update_of_ne differ _ _
    have written : (cache.sync self.device).2 cache.blockId = cache.cache :=
      cache.sync_device_self self.device (inv.clean live)
    have kept : ∀ {other}, other ≠ cache.blockId → (cache.sync self.device).2 other =
        self.device other := fun differ => cache.sync_device_other self.device differ
    have liveOther : ∀ {other} {found : BlockCache Block},
        Function.update self.caches arc none other = some found → other ≠ arc ∧
          self.caches other = some found := by
      intro other found live'
      have differ : other ≠ arc := fun same => by
        rw [same, Function.update_self] at live'
        cases live'
      exact ⟨differ, (caches differ).symm.trans live'⟩
    have inv' : Coherent { self with
        queue := self.queue.erase (cache.blockId, arc)
        caches := Function.update self.caches arc none
        device := (cache.sync self.device).2 } := by
      constructor
      · exact (List.erase_sublist.map Prod.fst).nodup inv.blockIds_nodup
      · exact (List.erase_sublist.map Prod.snd).nodup inv.arcs_nodup
      · exact Nat.le_trans (List.erase_sublist).length_le inv.length_le
      · intro other otherArc queued
        show ∃ found, Function.update self.caches arc none otherArc = some found ∧ _
        rw [caches (others queued).1]
        exact inv.queued_live (erased.mp queued).2
      · intro other found live'
        obtain ⟨differ, old⟩ := liveOther live'
        exact remaining (inv.live_queued old) differ
      · intro other holding
        obtain ⟨block, queued⟩ := inv.held_queued holding
        exact ⟨block, remaining queued fun same => notHeld (same ▸ holding)⟩
      · intro other found live' unmodified
        obtain ⟨differ, old⟩ := liveOther live'
        show found.cache = (cache.sync self.device).2 found.blockId
        rw [kept (others (remaining (inv.live_queued old) differ)).2]
        exact inv.clean old unmodified
      · intro other late
        show Function.update self.caches arc none other = none
        by_cases same : other = arc
        · rw [same, Function.update_self]
        · rw [caches same]
          exact inv.fresh late
    refine ⟨inv', funext fun block => ?_, ?_, fun queued => List.mem_of_mem_erase queued⟩
    · by_cases cached : ∃ other, (block, other) ∈ self.queue
      · obtain ⟨other, queued⟩ := cached
        obtain ⟨found, old, rfl, reads⟩ := logical_of_queued inv queued
        rw [reads]
        by_cases drainedBlock : other = arc
        · subst drainedBlock
          rw [live, Option.some.injEq] at old
          subst old
          rw [logical_of_absent fun otherArc queued' => (others queued').2 rfl]
          exact written
        · rw [logical_of_live inv'.blockIds_nodup ((caches drainedBlock).trans old)
            (remaining queued drainedBlock)]
      · have absent : ∀ other, (block, other) ∉ self.queue := fun other queued => cached ⟨other, queued⟩
        have differ : block ≠ cache.blockId := fun same => absent arc (same ▸ victim)
        rw [logical_of_absent absent, logical_of_absent fun other queued => absent other
          (List.mem_of_mem_erase queued)]
        exact kept differ
    · show (self.queue.erase (cache.blockId, arc)).length + 1 = self.queue.length
      rw [List.length_erase_of_mem victim]
      have := List.length_pos_of_mem victim
      omega
  · cases call

theorem Coherent.getBlockCache (inv : Coherent self) {blockId arc : Nat}
    {next : BlockCacheManager Block} (call : self.getBlockCache blockId = .ok (arc, next)) :
    Coherent next ∧ next.logical = self.logical := by
  unfold BlockCacheManager.getBlockCache at call
  split at call
  · rename_i cached queuedArc found
    rw [Except.ok.injEq, Prod.mk.injEq] at call
    obtain ⟨rfl, rfl⟩ := call
    exact ⟨inv.hold (List.mem_of_find?_eq_some found), rfl⟩
  · rename_i notFound
    have absent : ∀ arc, (blockId, arc) ∉ self.queue := fun arc queued => by
      have missed := List.find?_eq_none.mp notFound _ queued
      simp only [beq_self_eq_true, not_true_eq_false] at missed
    by_cases full : self.queue.length = blockCacheSize
    · rw [if_pos full] at call
      cases evicted : self.evict with
      | error message =>
          rw [evicted] at call
          cases call
      | ok mid =>
          rw [evicted] at call
          simp only [bind, Except.bind, Except.ok.injEq, Prod.mk.injEq] at call
          obtain ⟨rfl, rfl⟩ := call
          obtain ⟨midInv, midLogical, shorter, within⟩ := inv.evict evicted
          obtain ⟨pushed, pushedLogical⟩ := midInv.pushBack (by omega)
            fun arc queued => absent arc (within queued)
          exact ⟨pushed, pushedLogical.trans midLogical⟩
    · rw [if_neg full] at call
      simp only [pure, Except.pure, bind, Except.bind, Except.ok.injEq, Prod.mk.injEq] at call
      obtain ⟨rfl, rfl⟩ := call
      exact inv.pushBack (Nat.lt_of_le_of_ne inv.length_le full) absent

theorem getBlockCache_handle {blockId arc : Nat} {next : BlockCacheManager Block}
    (call : self.getBlockCache blockId = .ok (arc, next)) :
    arc ∈ next.held ∧ (blockId, arc) ∈ next.queue := by
  unfold BlockCacheManager.getBlockCache at call
  split at call
  · rename_i cached queuedArc found
    rw [Except.ok.injEq, Prod.mk.injEq] at call
    obtain ⟨rfl, rfl⟩ := call
    have matched := List.find?_some found
    have same : cached = blockId := beq_iff_eq.mp matched
    exact ⟨List.mem_cons_self, same ▸ List.mem_of_find?_eq_some found⟩
  · have pushed : ∀ mid : BlockCacheManager Block, arc = mid.nextArc → next = mid.pushBack blockId →
        arc ∈ next.held ∧ (blockId, arc) ∈ next.queue := by
      rintro mid rfl rfl
      exact ⟨List.mem_cons_self, List.mem_append_right _ (List.mem_singleton_self _)⟩
    by_cases full : self.queue.length = blockCacheSize
    · rw [if_pos full] at call
      cases evicted : self.evict with
      | error message =>
          rw [evicted] at call
          cases call
      | ok mid =>
          rw [evicted] at call
          simp only [bind, Except.bind, Except.ok.injEq, Prod.mk.injEq] at call
          exact pushed mid call.1.symm call.2.symm
    · rw [if_neg full] at call
      simp only [pure, Except.pure, bind, Except.bind, Except.ok.injEq, Prod.mk.injEq] at call
      exact pushed self call.1.symm call.2.symm

theorem Coherent.setCache (inv : Coherent self) {arc offset typeSize : Nat}
    {cache modified : BlockCache Block} {f : Block → Block} (live : self.caches arc = some cache)
    (call : cache.modify offset typeSize f = .ok modified) :
    Coherent (self.setCache arc modified) ∧
      (self.setCache arc modified).logical = applyEffect self.logical (cache.blockId, f) := by
  obtain ⟨-, rfl⟩ := (BlockCache.modify_eq_ok cache).mp call
  have queued := inv.live_queued live
  have caches : ∀ {other}, other ≠ arc → (self.setCache arc
      { cache with cache := f cache.cache, modified := true }).caches other = self.caches other :=
    fun differ => Function.update_of_ne differ _ _
  have newCache : (self.setCache arc { cache with cache := f cache.cache, modified := true }).caches
      arc = some { cache with cache := f cache.cache, modified := true } := Function.update_self _ _ _
  have inv' : Coherent (self.setCache arc
      { cache with cache := f cache.cache, modified := true }) := by
    refine ⟨inv.blockIds_nodup, inv.arcs_nodup, inv.length_le, ?_, ?_, inv.held_queued, ?_, ?_⟩
    · intro blockId other entry
      by_cases same : other = arc
      · subst same
        exact ⟨_, newCache, inv.blockId_unique queued entry⟩
      · rw [caches same]
        exact inv.queued_live entry
    · intro other found live'
      by_cases same : other = arc
      · subst same
        rw [newCache, Option.some.injEq] at live'
        subst live'
        exact queued
      · rw [caches same] at live'
        exact inv.live_queued live'
    · intro other found live' unmodified
      by_cases same : other = arc
      · subst same
        rw [newCache, Option.some.injEq] at live'
        subst live'
        cases unmodified
      · rw [caches same] at live'
        exact inv.clean live' unmodified
    · intro other late
      rw [caches fun same => Nat.lt_irrefl _ (Nat.lt_of_lt_of_le (inv.lt_nextArc live) (same ▸ late))]
      exact inv.fresh late
  refine ⟨inv', funext fun blockId => ?_⟩
  by_cases changed : blockId = cache.blockId
  · subst changed
    rw [applyEffect, Function.update_self, logical_of_live inv.blockIds_nodup live queued]
    have reads : (self.setCache arc { cache with cache := f cache.cache, modified := true }).logical
        cache.blockId = f cache.cache := logical_of_live inv'.blockIds_nodup newCache queued
    exact reads
  · rw [applyEffect, Function.update_of_ne changed]
    refine logical_congr_at inv inv'.blockIds_nodup (fun _ => Iff.rfl)
      (fun other entry => caches fun same => changed ?_) fun _ => rfl
    exact inv.blockId_unique entry (same ▸ queued)

theorem Coherent.dropHandle (inv : Coherent self) {arc : Nat} (holding : arc ∈ self.held) :
    Coherent (self.dropHandle arc) ∧ (self.dropHandle arc).logical = self.logical := by
  obtain ⟨blockId, queued⟩ := inv.held_queued holding
  have remaining : ({ self with held := self.held.erase arc } :
      BlockCacheManager Block).strongCount arc ≠ 0 := by
    have inQueue : 0 < (self.queue.map Prod.snd).count arc :=
      List.count_pos_iff.mpr (List.mem_map.mpr ⟨_, queued, rfl⟩)
    show (self.queue.map Prod.snd).count arc + (self.held.erase arc).count arc ≠ 0
    omega
  rw [BlockCacheManager.dropHandle, release_of_ne_zero remaining]
  refine ⟨⟨inv.blockIds_nodup, inv.arcs_nodup, inv.length_le, inv.queued_live, inv.live_queued,
    fun held' => inv.held_queued (List.mem_of_mem_erase held'), inv.clean, inv.fresh⟩, rfl⟩

end Steps

section Sync

variable {self : BlockCacheManager Block}

/-- The buffer behind `arc`, if any, equals its device block. -/
def Synced (self : BlockCacheManager Block) (arc : Nat) : Prop :=
  ∀ cache, self.caches arc = some cache → cache.cache = self.device cache.blockId

theorem Coherent.syncArc (inv : Coherent self) {blockId arc : Nat}
    (queued : (blockId, arc) ∈ self.queue) :
    Coherent (self.syncArc arc) ∧ (self.syncArc arc).logical = self.logical ∧
      (self.syncArc arc).queue = self.queue ∧ Synced (self.syncArc arc) arc ∧
      ∀ {other}, Synced self other → Synced (self.syncArc arc) other := by
  obtain ⟨cache, live, rfl⟩ := inv.queued_live queued
  have written : (cache.sync self.device).2 cache.blockId = cache.cache :=
    cache.sync_device_self self.device (inv.clean live)
  have kept : ∀ {other}, other ≠ cache.blockId → (cache.sync self.device).2 other =
      self.device other := fun differ => cache.sync_device_other self.device differ
  have apart : ∀ {other} {found : BlockCache Block}, self.caches other = some found →
      other ≠ arc → found.blockId ≠ cache.blockId := fun old differ same =>
    differ (KeyedList.value_unique inv.blockIds_nodup (same ▸ inv.live_queued old) queued)
  unfold BlockCacheManager.syncArc
  rw [live]
  dsimp only
  rw [cache.sync_cache self.device]
  have caches : ∀ {other}, other ≠ arc → Function.update self.caches arc
      (some { cache with modified := false }) other = self.caches other :=
    fun differ => Function.update_of_ne differ _ _
  have newCache : Function.update self.caches arc (some { cache with modified := false }) arc =
      some { cache with modified := false } := Function.update_self _ _ _
  have inv' : Coherent { self with
      caches := Function.update self.caches arc (some { cache with modified := false })
      device := (cache.sync self.device).2 } := by
    refine ⟨inv.blockIds_nodup, inv.arcs_nodup, inv.length_le, ?_, ?_, inv.held_queued, ?_, ?_⟩
    · intro blockId other entry
      show ∃ found, Function.update self.caches arc _ other = some found ∧ _
      by_cases same : other = arc
      · subst same
        exact ⟨_, newCache, inv.blockId_unique queued entry⟩
      · rw [caches same]
        exact inv.queued_live entry
    · intro other found live'
      dsimp only at live'
      by_cases same : other = arc
      · subst same
        rw [newCache, Option.some.injEq] at live'
        subst live'
        exact queued
      · rw [caches same] at live'
        exact inv.live_queued live'
    · intro other found live' unmodified
      dsimp only at live'
      show found.cache = (cache.sync self.device).2 found.blockId
      by_cases same : other = arc
      · subst same
        rw [newCache, Option.some.injEq] at live'
        subst live'
        exact written.symm
      · rw [caches same] at live'
        rw [kept (apart live' same)]
        exact inv.clean live' unmodified
    · intro other late
      show Function.update self.caches arc _ other = none
      rw [caches fun same => Nat.lt_irrefl _ (Nat.lt_of_lt_of_le (inv.lt_nextArc live) (same ▸ late))]
      exact inv.fresh late
  refine ⟨inv', funext fun blockId => ?_, rfl, ?_, ?_⟩
  · by_cases synced : blockId = cache.blockId
    · subst synced
      rw [logical_of_live inv.blockIds_nodup live queued]
      have reads := logical_of_live inv'.blockIds_nodup newCache queued
      exact reads
    · refine logical_congr_at inv inv'.blockIds_nodup (fun _ => Iff.rfl)
        (fun other entry => caches fun same => synced ?_) fun _ => kept synced
      exact inv.blockId_unique entry (same ▸ queued)
  · intro found live'
    change Function.update self.caches arc _ arc = some found at live'
    rw [newCache, Option.some.injEq] at live'
    subst live'
    exact written.symm
  · intro other before found live'
    change Function.update self.caches arc _ other = some found at live'
    by_cases same : other = arc
    · subst same
      rw [newCache, Option.some.injEq] at live'
      subst live'
      exact written.symm
    · rw [caches same] at live'
      show found.cache = (cache.sync self.device).2 found.blockId
      rw [kept (apart live' same)]
      exact before found live'

theorem Coherent.syncArcs : ∀ (entries : List (Nat × Nat)) {self : BlockCacheManager Block},
    Coherent self → (∀ entry ∈ entries, entry ∈ self.queue) →
      Coherent (self.syncArcs entries) ∧ (self.syncArcs entries).logical = self.logical ∧
        (self.syncArcs entries).queue = self.queue ∧
        (∀ {other}, Synced self other → Synced (self.syncArcs entries) other) ∧
        ∀ entry ∈ entries, Synced (self.syncArcs entries) entry.2
  | [], _, inv, _ => ⟨inv, rfl, rfl, id, fun _ none => absurd none List.not_mem_nil⟩
  | (_, _) :: rest, _, inv, within => by
      obtain ⟨inv1, logical1, queue1, synced1, keeps1⟩ := inv.syncArc (within _ List.mem_cons_self)
      obtain ⟨inv2, logical2, queue2, keeps2, synced2⟩ := inv1.syncArcs rest
        fun entry mem => queue1 ▸ within entry (List.mem_cons_of_mem _ mem)
      refine ⟨inv2, logical2.trans logical1, queue2.trans queue1, fun before => keeps2 (keeps1 before),
        fun entry mem => ?_⟩
      rcases List.mem_cons.mp mem with rfl | later
      · exact keeps2 synced1
      · exact synced2 entry later

theorem Coherent.blockCacheSyncAll (inv : Coherent self) :
    Coherent self.blockCacheSyncAll ∧ self.blockCacheSyncAll.logical = self.logical ∧
      ∀ blockId, self.blockCacheSyncAll.device blockId = self.logical blockId := by
  obtain ⟨inv', same, queue, -, synced⟩ := inv.syncArcs self.queue fun _ mem => mem
  refine ⟨inv', same, fun blockId => ?_⟩
  rw [← same]
  by_cases cached : ∃ arc, (blockId, arc) ∈ self.queue
  · obtain ⟨arc, queued⟩ := cached
    obtain ⟨cache, live, rfl, reads⟩ := logical_of_queued inv' (queue ▸ queued)
    rw [reads]
    exact (synced _ queued cache live).symm
  · rw [logical_of_absent fun arc queued => cached ⟨arc, queue ▸ queued⟩]
    rfl

end Sync

section Runs

variable {self : BlockCacheManager Block}

theorem Coherent.step (inv : Coherent self) {label : Option (Nat × (Block → Block))}
    {next : BlockCacheManager Block} (step : Step self label next) :
    Coherent next ∧ next.logical = label.toList.foldl applyEffect self.logical := by
  cases step with
  | getBlockCache call => exact inv.getBlockCache call
  | modify _ live call => exact inv.setCache live call
  | dropHandle holding => exact inv.dropHandle holding
  | blockCacheSyncAll => exact ⟨inv.blockCacheSyncAll.1, inv.blockCacheSyncAll.2.1⟩

theorem new_coherent (device : Nat → Block) : Coherent (new device) where
  blockIds_nodup := List.nodup_nil
  arcs_nodup := List.nodup_nil
  length_le := Nat.zero_le _
  queued_live := fun queued => absurd queued List.not_mem_nil
  live_queued := fun live => (by cases live)
  held_queued := fun holding => absurd holding List.not_mem_nil
  clean := fun live => (by cases live)
  fresh := fun _ => rfl

theorem logical_new (device : Nat → Block) : (new device).logical = device := rfl

theorem Coherent.evict_ok (inv : Coherent self) (full : self.queue.length = blockCacheSize)
    (few : self.held.toFinset.card < blockCacheSize) : ∃ next, self.evict = .ok next := by
  by_cases spare : ∃ entry ∈ self.queue, entry.2 ∉ self.held
  · obtain ⟨⟨blockId, arc⟩, queued, unheld⟩ := spare
    have single : self.strongCount arc = 1 := by
      unfold strongCount
      rw [inv.arcs_nodup.count, if_pos (List.mem_map.mpr ⟨_, queued, rfl⟩),
        List.count_eq_zero.mpr unheld]
    have found := @KeyedList.find?_zipIdx_ne_none _ self.queue
      (fun pair => self.strongCount pair.2 == 1) _ queued (beq_iff_eq.mpr single)
    unfold BlockCacheManager.evict
    cases search : self.queue.zipIdx.find? (fun entry => self.strongCount entry.1.2 == 1) with
    | none => exact absurd search found
    | some result => exact ⟨_, rfl⟩
  · have allHeld : ∀ entry ∈ self.queue, entry.2 ∈ self.held := fun entry queued =>
      Classical.byContradiction fun unheld => spare ⟨entry, queued, unheld⟩
    have covered : (self.queue.map Prod.snd).toFinset ⊆ self.held.toFinset := fun arc mem => by
      rw [List.mem_toFinset] at mem ⊢
      obtain ⟨entry, queued, rfl⟩ := List.mem_map.mp mem
      exact allHeld entry queued
    have counted := Finset.card_le_card covered
    rw [List.toFinset_card_of_nodup inv.arcs_nodup, List.length_map, full] at counted
    omega

theorem Coherent.getBlockCache_ok (inv : Coherent self)
    (few : self.held.toFinset.card < blockCacheSize) (blockId : Nat) :
    ∃ arc next, self.getBlockCache blockId = .ok (arc, next) := by
  unfold BlockCacheManager.getBlockCache
  split
  · exact ⟨_, _, rfl⟩
  · by_cases full : self.queue.length = blockCacheSize
    · obtain ⟨mid, evicted⟩ := inv.evict_ok full few
      rw [if_pos full, evicted]
      exact ⟨_, _, rfl⟩
    · rw [if_neg full]
      exact ⟨_, _, rfl⟩

end Runs

/-- What the block cache guarantees in a state that a run of calls reaches from a device,
with the closures of its `modify` calls in `log`. -/
structure CacheContract (manager : BlockCacheManager Block) (device : Nat → Block)
    (log : List (Nat × (Block → Block))) : Prop where
  /-- The queue holds one entry for each of its blocks. -/
  blockIds_nodup : (manager.queue.map Prod.fst).Nodup
  /-- The queue holds at most `BLOCK_CACHE_SIZE` entries. -/
  length_le : manager.queue.length ≤ blockCacheSize
  /-- The content of every block is the device's with the closures applied in order. -/
  logical_eq : manager.logical = log.foldl applyEffect device
  /-- Every live buffer holds the content of its block. -/
  live_current : ∀ {arc : Nat} {cache : BlockCache Block}, manager.caches arc = some cache →
    cache.cache = manager.logical cache.blockId
  /-- After `block_cache_sync_all` the device holds every block's content. -/
  sync_all : ∀ blockId, manager.blockCacheSyncAll.device blockId = manager.logical blockId
  /-- `get_block_cache` does not panic while fewer than `BLOCK_CACHE_SIZE` `Arc`s are held. -/
  getBlockCache_ok : manager.held.toFinset.card < blockCacheSize → ∀ blockId,
    ∃ arc next, manager.getBlockCache blockId = .ok (arc, next)
  /-- The `Arc` it returns is the caller's and stands for the block asked for, with that block's
  content, and the call changes no content. -/
  getBlockCache_handle : ∀ {blockId arc next}, manager.getBlockCache blockId = .ok (arc, next) →
    arc ∈ next.held ∧ ∃ cache, next.caches arc = some cache ∧ cache.blockId = blockId ∧
      cache.cache = manager.logical blockId ∧ next.logical = manager.logical

theorem Coherent.contract {manager : BlockCacheManager Block} {device : Nat → Block}
    {log : List (Nat × (Block → Block))} (inv : Coherent manager)
    (contents : manager.logical = log.foldl applyEffect device) : CacheContract manager device log where
  blockIds_nodup := inv.blockIds_nodup
  length_le := inv.length_le
  logical_eq := contents
  live_current := fun live => (logical_of_live inv.blockIds_nodup live (inv.live_queued live)).symm
  sync_all := inv.blockCacheSyncAll.2.2
  getBlockCache_ok := fun few blockId => inv.getBlockCache_ok few blockId
  getBlockCache_handle := fun call => by
    obtain ⟨inv', same⟩ := inv.getBlockCache call
    obtain ⟨holding, queued⟩ := getBlockCache_handle call
    obtain ⟨cache, live, rfl, reads⟩ := logical_of_queued inv' queued
    exact ⟨holding, cache, live, rfl, by rw [← reads, same], same⟩

/-- Along every run of calls from `BlockCacheManager::new`, the block cache is coherent with
the plain array of blocks the closures of `modify` produce. -/
theorem block_cache_coherent {device : Nat → Block} {log : List (Nat × (Block → Block))}
    {manager : BlockCacheManager Block} (run : Transition.Run Step (new device) log manager) :
    CacheContract manager device log := by
  obtain ⟨inv, contents⟩ := run.fold logical applyEffect
    (fun _ _ _ inv step => inv.step step) (new_coherent device)
  exact inv.contract (by rw [contents, logical_new])

/-- `get_block_cache(3)`, a `modify` that adds 1 through the handle, its drop, and
`block_cache_sync_all`. -/
theorem block_cache_coherent_modify :
    ∃ manager, Transition.Run Step (new fun _ => (0 : Nat)) [(3, fun block => block + 1)] manager ∧
      manager.device 3 = 1 ∧ CacheContract manager (fun _ => 0) [(3, fun block => block + 1)] := by
  have loaded : Transition.Run Step (new fun _ => (0 : Nat)) [] ((new fun _ => 0).pushBack 3) :=
    .step (.refl _) (@Step.getBlockCache _ _ _ 3 0 rfl)
  have modified : Transition.Run Step (new fun _ => (0 : Nat)) [(3, fun block => block + 1)]
      (((new fun _ => 0).pushBack 3).setCache 0 ⟨1, 3, true⟩) :=
    .step loaded (@Step.modify _ _ 0 0 8 _ _ (fun block => block + 1) (by decide) rfl rfl)
  have dropped := modified.step (@Step.dropHandle _ _ 0 (by decide))
  have synced := dropped.step Step.blockCacheSyncAll
  exact ⟨_, synced, rfl, block_cache_coherent synced⟩

end BlockCacheManager

end EasyFs

end ChOs
