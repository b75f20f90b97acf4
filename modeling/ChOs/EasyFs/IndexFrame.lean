import ChOs.EasyFs.InodeBlocks

set_option autoImplicit false

/- What `increase_size` leaves alone (`easy-fs/src/layout.rs`). -/

namespace ChOs

namespace EasyFs

open BlockDevice

variable {device device' : BlockDevice} {kept : Nat → Prop}

section Steps

theorem setIndirectEntry_eq_ok {blockId index : Nat} {value : UInt32} :
    setIndirectEntry device blockId index value = .ok device' ↔
      index < inodeIndirect1Count ∧ device.writeField blockId (4 * index) 4 value.toNat = device' := by
  unfold setIndirectEntry
  split
  · rename_i below
    simp only [Except.ok.injEq, below, true_and]
  · rename_i above
    simp only [reduceCtorEq, above, false_and]

theorem readWord_writeField_free {blockId index : Nat} {value : UInt32}
    (below : index < inodeIndirect1Count) (stored : ¬kept value.toNat) {other otherIndex : Nat}
    (otherBelow : otherIndex < inodeIndirect1Count)
    (named : ¬kept (readWord device other 0 otherIndex).toNat) :
    ¬kept (readWord (device.writeField blockId (4 * index) 4 value.toNat) other 0 otherIndex).toNat := by
  by_cases same : (blockId, index) = (other, otherIndex)
  · obtain ⟨rfl, rfl⟩ := Prod.mk.inj same
    rwa [readWord_writeField_same]
  · rwa [readWord_writeField_other _ _ below otherBelow same]

theorem nextBlock_eq_ok {newBlocks rest : List UInt32} {block : UInt32} :
    nextBlock newBlocks = .ok (block, rest) ↔ newBlocks = block :: rest := by
  cases newBlocks with
  | nil => simp only [nextBlock, reduceCtorEq, List.nil_eq]
  | cons head tail => simp only [nextBlock, Except.ok.injEq, Prod.mk.injEq, List.cons.injEq]

theorem indirectEntry_eq_ok {blockId index : Nat} {value : UInt32} :
    indirectEntry device blockId index = .ok value ↔
      index < inodeIndirect1Count ∧ readWord device blockId 0 index = value := by
  unfold indirectEntry
  split
  · rename_i below
    simp only [Except.ok.injEq, below, true_and]
  · rename_i above
    simp only [reduceCtorEq, above, false_and]

end Steps

namespace DiskInode

theorem fillIndirect1_keeps {blockId c total c' : Nat} {newBlocks rest : List UInt32}
    (free : ¬kept blockId) (handed : ∀ block ∈ newBlocks, ¬kept block.toNat)
    (call : fillIndirect1 device blockId c total newBlocks = .ok (device', c', rest)) :
    Keeps device device' kept ∧ ∀ other otherIndex, otherIndex < inodeIndirect1Count →
      ¬kept (readWord device other 0 otherIndex).toNat →
        ¬kept (readWord device' other 0 otherIndex).toNat := by
  fun_induction fillIndirect1 device blockId c total newBlocks with
  | case1 device c newBlocks filling ih =>
      obtain ⟨⟨block, tail⟩, next, stored⟩ := bind_eq_ok.mp call
      obtain rfl := nextBlock_eq_ok.mp next
      obtain ⟨device1, set, call⟩ := bind_eq_ok.mp stored
      obtain ⟨below, rfl⟩ := setIndirectEntry_eq_ok.mp set
      have head := handed block List.mem_cons_self
      obtain ⟨keeps, names⟩ :=
        ih tail _ (fun other member => handed other (List.mem_cons_of_mem _ member)) call
      have changes := @writeField_changes device blockId (4 * c) 4 block.toNat
        (by unfold inodeIndirect1Count blockSz at *; omega)
      exact ⟨(changes.keeps free).trans keeps, fun other otherIndex otherBelow named =>
        names other otherIndex otherBelow (readWord_writeField_free below head otherBelow named)⟩
  | case2 device c newBlocks done =>
      cases call
      exact ⟨Keeps.refl _ _, fun _ _ _ named => named⟩

theorem fillIndirect1_rest {blockId c total c' : Nat} {newBlocks rest : List UInt32}
    (call : fillIndirect1 device blockId c total newBlocks = .ok (device', c', rest)) :
    c' = max c (min total inodeIndirect1Count) ∧ rest <:+ newBlocks := by
  fun_induction fillIndirect1 device blockId c total newBlocks with
  | case1 device c newBlocks filling ih =>
      obtain ⟨⟨block, tail⟩, next, stored⟩ := bind_eq_ok.mp call
      obtain rfl := nextBlock_eq_ok.mp next
      obtain ⟨device1, set, call⟩ := bind_eq_ok.mp stored
      obtain ⟨counter, suffix⟩ := ih tail device1 call
      exact ⟨by omega, suffix.trans (List.suffix_cons block tail)⟩
  | case2 device c newBlocks done =>
      cases call
      exact ⟨by omega, List.suffix_refl _⟩

theorem fillDirect_rest {self self' : DiskInode} {c total c' : Nat} {newBlocks rest : List UInt32}
    (call : fillDirect self c total newBlocks = .ok (self', c', rest)) :
    c' = max c (min total inodeDirectCount) ∧ rest <:+ newBlocks ∧
      self'.indirect1 = self.indirect1 ∧ self'.indirect2 = self.indirect2 := by
  fun_induction fillDirect self c total newBlocks with
  | case1 self c newBlocks filling ih =>
      obtain ⟨⟨block, tail⟩, next, call⟩ := bind_eq_ok.mp call
      obtain rfl := nextBlock_eq_ok.mp next
      obtain ⟨counter, suffix, indirect1, indirect2⟩ := ih block tail call
      exact ⟨by omega, suffix.trans (List.suffix_cons block tail), indirect1, indirect2⟩
  | case2 self c newBlocks done =>
      cases call
      exact ⟨by omega, List.suffix_refl _, rfl, rfl⟩

theorem fillIndirect2_step {blockId a0 a1 b1 : Nat} {b0 : Fin inodeIndirect1Count}
    {newBlocks rest : List UInt32} (going : a0 < a1 ∨ a0 = a1 ∧ b0.val < b1)
    (call : fillIndirect2 device blockId a0 b0 a1 b1 newBlocks = .ok (device', rest)) :
    ∃ device1 newBlocks1 block tail,
      (b0.val = 0 → ∃ sub, newBlocks = sub :: newBlocks1 ∧
        device1 = device.writeField blockId (4 * a0) 4 sub.toNat) ∧
      (b0.val ≠ 0 → device1 = device ∧ newBlocks1 = newBlocks) ∧
      a0 < inodeIndirect1Count ∧ newBlocks1 = block :: tail ∧
      (if next : b0.val + 1 < inodeIndirect1Count then
        fillIndirect2 (device1.writeField (readWord device1 blockId 0 a0).toNat (4 * b0.val) 4
          block.toNat) blockId a0 ⟨b0.val + 1, next⟩ a1 b1 tail
      else
        fillIndirect2 (device1.writeField (readWord device1 blockId 0 a0).toNat (4 * b0.val) 4
          block.toNat) blockId (a0 + 1) ⟨0, by decide⟩ a1 b1 tail) = .ok (device', rest) := by
  rw [fillIndirect2, if_pos going] at call
  dsimp only at call
  split at call
  · rename_i zero
    obtain ⟨⟨sub, newBlocks1⟩, taken, started⟩ := bind_eq_ok.mp call
    obtain rfl := nextBlock_eq_ok.mp taken
    obtain ⟨device1, set, current⟩ := bind_eq_ok.mp started
    obtain ⟨-, rfl⟩ := setIndirectEntry_eq_ok.mp set
    rw [pure_bind] at current
    obtain ⟨sub', entry, current⟩ := bind_eq_ok.mp current
    obtain ⟨below, rfl⟩ := indirectEntry_eq_ok.mp entry
    obtain ⟨-, -, current⟩ := bind_eq_ok.mp current
    obtain ⟨⟨block, tail⟩, next, filled⟩ := bind_eq_ok.mp current
    obtain rfl := nextBlock_eq_ok.mp next
    obtain ⟨device2, set, current⟩ := bind_eq_ok.mp filled
    obtain ⟨-, rfl⟩ := setIndirectEntry_eq_ok.mp set
    exact ⟨_, _, block, tail, fun _ => ⟨sub, rfl, rfl⟩, fun filling => absurd zero filling, below,
      rfl, current⟩
  · rename_i filling
    rw [pure_bind] at call
    obtain ⟨sub', entry, current⟩ := bind_eq_ok.mp call
    obtain ⟨below, rfl⟩ := indirectEntry_eq_ok.mp entry
    obtain ⟨-, -, current⟩ := bind_eq_ok.mp current
    obtain ⟨⟨block, tail⟩, next, filled⟩ := bind_eq_ok.mp current
    obtain rfl := nextBlock_eq_ok.mp next
    obtain ⟨device2, set, current⟩ := bind_eq_ok.mp filled
    obtain ⟨-, rfl⟩ := setIndirectEntry_eq_ok.mp set
    exact ⟨_, _, block, tail, fun zero => absurd zero filling, fun _ => ⟨rfl, rfl⟩, below, rfl,
      current⟩

theorem fillIndirect2_keeps {blockId a1 b1 : Nat} {rest : List UInt32} (free : ¬kept blockId) :
    ∀ (a0 : Nat) (b0 : Fin inodeIndirect1Count) (newBlocks : List UInt32) (device : BlockDevice),
      (∀ block ∈ newBlocks, ¬kept block.toNat) →
      (b0.val ≠ 0 → a0 < inodeIndirect1Count → ¬kept (readWord device blockId 0 a0).toNat) →
      fillIndirect2 device blockId a0 b0 a1 b1 newBlocks = .ok (device', rest) →
      Keeps device device' kept := by
  intro a0 b0 newBlocks device handed started call
  induction remaining : (a1 * inodeIndirect1Count + b1) - (a0 * inodeIndirect1Count + b0.val)
    using Nat.strongRecOn generalizing a0 b0 newBlocks device with
  | ind remaining ih =>
      subst remaining
      by_cases going : a0 < a1 ∨ a0 = a1 ∧ b0.val < b1
      · obtain ⟨device1, newBlocks1, block, tail, zero, filling, below, rfl, next⟩ :=
          fillIndirect2_step going call
        have start : Keeps device device1 kept ∧ (∀ other ∈ block :: tail, ¬kept other.toNat) ∧
            ¬kept (readWord device1 blockId 0 a0).toNat := by
          by_cases first : b0.val = 0
          · obtain ⟨sub, rfl, rfl⟩ := zero first
            have changes := @writeField_changes device blockId (4 * a0) 4 sub.toNat
              (by unfold inodeIndirect1Count blockSz at *; omega)
            refine ⟨changes.keeps free, fun other member => handed other
              (List.mem_cons_of_mem _ member), ?_⟩
            rw [readWord_writeField_same]
            exact handed sub List.mem_cons_self
          · obtain ⟨rfl, rfl⟩ := filling first
            exact ⟨Keeps.refl _ _, handed, started first below⟩
        obtain ⟨keeps1, handed1, named⟩ := start
        have stored := @writeField_changes device1 (readWord device1 blockId 0 a0).toNat (4 * b0.val)
          4 block.toNat (by have := b0.isLt; unfold inodeIndirect1Count blockSz at *; omega)
        have keeps2 := keeps1.trans (stored.keeps named)
        have handed2 : ∀ other ∈ tail, ¬kept other.toNat :=
          fun other member => handed1 other (List.mem_cons_of_mem _ member)
        split at next
        · rename_i more
          have fewer : a1 * inodeIndirect1Count + b1 - (a0 * inodeIndirect1Count + (b0.val + 1)) <
              a1 * inodeIndirect1Count + b1 - (a0 * inodeIndirect1Count + b0.val) := by
            have := b0.isLt
            simp only [inodeIndirect1Count_eq] at this ⊢
            omega
          exact keeps2.trans (ih _ fewer a0 ⟨b0.val + 1, more⟩ tail _ handed2
            (fun _ _ => readWord_writeField_free b0.isLt (handed1 block List.mem_cons_self) below named)
            next rfl)
        · rename_i last
          have fewer : a1 * inodeIndirect1Count + b1 - ((a0 + 1) * inodeIndirect1Count + 0) <
              a1 * inodeIndirect1Count + b1 - (a0 * inodeIndirect1Count + b0.val) := by
            have := b0.isLt
            simp only [inodeIndirect1Count_eq] at this last ⊢
            omega
          exact keeps2.trans (ih _ fewer (a0 + 1) ⟨0, by decide⟩ tail _
            handed2 (fun zero => absurd rfl zero) next rfl)
      · rw [fillIndirect2, if_neg going] at call
        cases call
        exact Keeps.refl _ _

theorem indirect1_mem_indexBlocksAt (self : DiskInode) :
    self.indirect1 ∈ self.indexBlocksAt device inodeDirectCount := by
  simp [indexBlocksAt]

theorem indirect2_mem_indexBlocksAt (self : DiskInode) :
    self.indirect2 ∈ self.indexBlocksAt device indirect1Bound := by
  simp [indexBlocksAt]

theorem subBlock_mem_indexBlocksAt (self : DiskInode) (a : Nat) :
    self.subBlock device a ∈ self.indexBlocksAt device (indirect1Bound + inodeIndirect1Count * a) := by
  simp [indexBlocksAt, inodeIndirect1Count_eq]

/-- `increase_size` stores only into index blocks: the roots and sub-blocks of the file so far
and the blocks it is handed. When none of these is `kept`, every `kept` block keeps its
bytes. -/
theorem increaseSize_keeps {self self' : DiskInode} {newSize : UInt32} {newBlocks : List UInt32}
    (handed : ∀ block ∈ newBlocks, ¬kept block.toNat)
    (index : ∀ p < (dataBlocksOf self.size).toNat, ∀ block ∈ self.indexBlocksAt device p,
      ¬kept block.toNat)
    (call : self.increaseSize newSize newBlocks device = .ok (self', device')) :
    Keeps device device' kept := by
  have n128 : inodeIndirect1Count = 128 := rfl
  have b156 : indirect1Bound = 156 := rfl
  have d28 : inodeDirectCount = 28 := rfl
  unfold increaseSize dataBlocks at call
  dsimp only at call
  obtain ⟨⟨self1, c1, rest1⟩, direct, afterDirect⟩ := bind_eq_ok.mp call
  obtain ⟨counter1, suffix1, indirect1Of1, indirect2Of1⟩ := fillDirect_rest direct
  have handed1 : ∀ block ∈ rest1, ¬kept block.toNat :=
    fun block member => handed block (suffix1.subset member)
  dsimp only at afterDirect
  split at afterDirect
  · rename_i big
    obtain ⟨self2, block1, rest2, chosen1, split1, alloc1⟩ :=
      @alloc_bind (DiskInode × BlockDevice) (fun inode block => { inode with indirect1 := block })
        self1 (c1 = inodeDirectCount) _ rest1 fun full empty => by
          rw [if_pos full, empty] at afterDirect
          cases afterDirect
    rw [alloc1] at afterDirect
    have root1 : ¬kept self2.indirect1.toNat ∧ self2.indirect2 = self.indirect2 := by
      by_cases full : c1 = inodeDirectCount
      · rw [if_pos full] at chosen1 split1
        subst chosen1 split1
        exact ⟨handed1 block1 List.mem_cons_self, indirect2Of1⟩
      · rw [if_neg full] at chosen1
        subst chosen1
        rw [indirect1Of1]
        exact ⟨index inodeDirectCount (by omega) _ (indirect1_mem_indexBlocksAt self), indirect2Of1⟩
    have handed2 : ∀ block ∈ rest2, ¬kept block.toNat := fun block member =>
      handed1 block (by rw [split1]; exact List.mem_append_right _ member)
    obtain ⟨-, -, afterCache1⟩ := bind_eq_ok.mp afterDirect
    obtain ⟨⟨device3, c3, rest3⟩, fill1, afterFill1⟩ := bind_eq_ok.mp afterCache1
    obtain ⟨keeps3, names3⟩ := fillIndirect1_keeps root1.1 handed2 fill1
    obtain ⟨counter3, suffix3⟩ := fillIndirect1_rest fill1
    have handed3 : ∀ block ∈ rest3, ¬kept block.toNat :=
      fun block member => handed2 block (suffix3.subset member)
    dsimp only at afterFill1
    split at afterFill1
    · rename_i large
      obtain ⟨self4, block2, rest4, chosen2, split2, alloc2⟩ :=
        @alloc_bind (DiskInode × BlockDevice) (fun inode block => { inode with indirect2 := block })
          self2 (c3 = inodeIndirect1Count) _ rest3 fun full empty => by
            rw [if_pos full, empty] at afterFill1
            cases afterFill1
      rw [alloc2] at afterFill1
      have root2 : ¬kept self4.indirect2.toNat ∧
          (c3 ≠ inodeIndirect1Count → self4.indirect2 = self.indirect2) := by
        by_cases full : c3 = inodeIndirect1Count
        · rw [if_pos full] at chosen2 split2
          subst chosen2 split2
          exact ⟨handed3 block2 List.mem_cons_self, fun notFull => absurd full notFull⟩
        · rw [if_neg full] at chosen2
          subst chosen2
          refine ⟨?_, fun _ => root1.2⟩
          rw [root1.2]
          exact index indirect1Bound (by omega) _ (indirect2_mem_indexBlocksAt self)
      obtain ⟨-, -, afterCache2⟩ := bind_eq_ok.mp afterFill1
      obtain ⟨⟨device5, rest5⟩, fill2, finished⟩ := bind_eq_ok.mp afterCache2
      cases finished
      refine keeps3.trans (fillIndirect2_keeps root2.1 _ _ _ _ (fun block member =>
        handed3 block (by rw [split2]; exact List.mem_append_right _ member)) ?_ fill2)
      intro filling small
      change (c3 - 128) % 128 ≠ 0 at filling
      have early : indirect1Bound + inodeIndirect1Count * ((c3 - 128) / 128) <
          (dataBlocksOf self.size).toNat := by
        rw [b156, n128]
        omega
      rw [root2.2 (by omega)]
      apply names3 _ _ small
      exact index _ early _ (subBlock_mem_indexBlocksAt self _)
    · cases afterFill1
      exact keeps3
  · cases afterDirect
    exact Keeps.refl _ _

end DiskInode

end EasyFs

end ChOs
