import Mathlib.Logic.Function.Basic
import Mathlib.Data.List.GetD
import Mathlib.Algebra.Group.Nat.Defs

set_option autoImplicit false

/- Byte-addressed memories and the little-endian words stored in them. -/

namespace ByteMemory

/-- The little-endian number held by the `width` bytes from `address`. -/
def readLE (memory : Nat → UInt8) (address : Nat) : Nat → Nat
  | 0 => 0
  | width + 1 => (memory address).toNat + 256 * readLE memory (address + 1) width

/-- Store the low `width` bytes of `value` from `address`, least significant first. -/
def writeLE (memory : Nat → UInt8) (address : Nat) : Nat → Nat → Nat → UInt8
  | 0, _ => memory
  | width + 1, value =>
      Function.update (writeLE memory (address + 1) width (value / 256)) address
        (UInt8.ofNat value)

/-- The `count` bytes from `address`, in address order. -/
def readBytes (memory : Nat → UInt8) (address count : Nat) : List UInt8 :=
  (List.range count).map fun index => memory (address + index)

/-- `copy_from_slice` of `bytes` into the memory from `address`. -/
def writeBytes (memory : Nat → UInt8) (address : Nat) (bytes : List UInt8) : Nat → UInt8 :=
  fun target =>
    if address ≤ target then (bytes[target - address]?).getD (memory target) else memory target

section Words

variable (memory : Nat → UInt8)

@[simp] theorem readLE_zero (address : Nat) : readLE memory address 0 = 0 := rfl

theorem readLE_succ (address width : Nat) :
    readLE memory address (width + 1) =
      (memory address).toNat + 256 * readLE memory (address + 1) width := rfl

theorem readLE_lt (address width : Nat) : readLE memory address width < 256 ^ width := by
  induction width generalizing address with
  | zero => simp
  | succ width ih =>
      have byte := (memory address).toNat_lt
      have rest := ih (address + 1)
      rw [readLE_succ, Nat.pow_succ]
      omega

theorem readLE_congr {other : Nat → UInt8} (address width : Nat)
    (same : ∀ index, index < width → memory (address + index) = other (address + index)) :
    readLE memory address width = readLE other address width := by
  induction width generalizing address with
  | zero => rfl
  | succ width ih =>
      have first : memory address = other address := same 0 (by omega)
      have rest := ih (address + 1) (fun index below => by
        simpa only [Nat.add_assoc, Nat.add_comm 1 index] using same (index + 1) (by omega))
      rw [readLE_succ, readLE_succ, first, rest]

theorem readLE_eq_zero (address width : Nat)
    (zero : ∀ index, index < width → memory (address + index) = 0) :
    readLE memory address width = 0 := by
  induction width generalizing address with
  | zero => rfl
  | succ width ih =>
      have first : memory address = 0 := zero 0 (by omega)
      have rest := ih (address + 1) (fun index below => by
        simpa only [Nat.add_assoc, Nat.add_comm 1 index] using zero (index + 1) (by omega))
      rw [readLE_succ, first, rest]
      rfl

theorem writeLE_outside (address width value target : Nat)
    (outside : target < address ∨ address + width ≤ target) :
    writeLE memory address width value target = memory target := by
  induction width generalizing address value with
  | zero => rfl
  | succ width ih =>
      have other : target ≠ address := by omega
      simp only [writeLE, Function.update_of_ne other]
      exact ih (address + 1) (value / 256) (by omega)

theorem writeLE_inside (address width value index : Nat) (inside : index < width) :
    writeLE memory address width value (address + index) =
      UInt8.ofNat (value / 256 ^ index) := by
  induction width generalizing address value index with
  | zero => omega
  | succ width ih =>
      cases index with
      | zero => simp [writeLE]
      | succ index =>
          have other : address + (index + 1) ≠ address := by omega
          simp only [writeLE, Function.update_of_ne other]
          rw [show address + (index + 1) = address + 1 + index by omega,
            ih (address + 1) (value / 256) index (by omega), Nat.div_div_eq_div_mul,
            Nat.pow_succ', Nat.mul_comm]

theorem readLE_writeLE (address width value : Nat) :
    readLE (writeLE memory address width value) address width = value % 256 ^ width := by
  induction width generalizing address value with
  | zero => simp [Nat.mod_one]
  | succ width ih =>
      have shifted : readLE (writeLE memory address (width + 1) value) (address + 1) width =
          readLE (writeLE memory (address + 1) width (value / 256)) (address + 1) width := by
        apply readLE_congr
        intro index _
        have other : address + 1 + index ≠ address := by omega
        simp only [writeLE, Function.update_of_ne other]
      rw [readLE_succ, shifted, ih]
      simp only [writeLE, Function.update_self, UInt8.toNat_ofNat']
      have split : (256 : Nat) ^ (width + 1) = 256 * 256 ^ width := by
        rw [Nat.pow_succ, Nat.mul_comm]
      rw [split, Nat.mod_mul]

theorem readLE_writeLE_disjoint (address width value other otherWidth : Nat)
    (apart : address + width ≤ other ∨ other + otherWidth ≤ address) :
    readLE (writeLE memory address width value) other otherWidth =
      readLE memory other otherWidth := by
  apply readLE_congr
  intro index below
  exact writeLE_outside memory address width value (other + index) (by omega)

theorem writeLE_writeLE (address width first second : Nat) :
    writeLE (writeLE memory address width first) address width second =
      writeLE memory address width second := by
  funext target
  by_cases inside : address ≤ target ∧ target < address + width
  · obtain ⟨index, rfl⟩ : ∃ index, target = address + index := ⟨target - address, by omega⟩
    rw [writeLE_inside _ _ _ _ _ (by omega), writeLE_inside _ _ _ _ _ (by omega)]
  · rw [writeLE_outside _ _ _ _ _ (by omega), writeLE_outside _ _ _ _ _ (by omega),
      writeLE_outside _ _ _ _ _ (by omega)]

theorem writeLE_readLE (address width : Nat) :
    writeLE memory address width (readLE memory address width) = memory := by
  induction width generalizing address with
  | zero => rfl
  | succ width ih =>
      have low := (memory address).toNat_lt
      have quotient : ((memory address).toNat + 256 * readLE memory (address + 1) width) / 256 =
          readLE memory (address + 1) width := by omega
      have remainder : UInt8.ofNat ((memory address).toNat +
          256 * readLE memory (address + 1) width) = memory address := by
        apply UInt8.toNat_inj.mp
        rw [UInt8.toNat_ofNat']
        omega
      rw [readLE_succ, writeLE, quotient, ih, remainder, Function.update_eq_self]

end Words

section Bytes

variable (memory : Nat → UInt8)

@[simp] theorem readBytes_length (address count : Nat) :
    (readBytes memory address count).length = count := by
  simp [readBytes]

theorem getElem?_readBytes (address count index : Nat) :
    (readBytes memory address count)[index]? =
      if index < count then some (memory (address + index)) else none := by
  split
  · rename_i inside
    simp [readBytes, inside]
  · rename_i outside
    simp [readBytes, outside]

theorem readBytes_congr {other : Nat → UInt8} (address count : Nat)
    (same : ∀ index, index < count → memory (address + index) = other (address + index)) :
    readBytes memory address count = readBytes other address count := by
  apply List.map_congr_left
  intro index member
  exact same index (List.mem_range.mp member)

theorem writeBytes_outside (address : Nat) (bytes : List UInt8) (target : Nat)
    (outside : target < address ∨ address + bytes.length ≤ target) :
    writeBytes memory address bytes target = memory target := by
  unfold writeBytes
  split
  · rw [List.getElem?_eq_none (by omega), Option.getD_none]
  · rfl

@[simp] theorem writeBytes_nil (address : Nat) : writeBytes memory address [] = memory :=
  funext fun target => writeBytes_outside memory address [] target (by simp only [List.length_nil]; omega)

theorem writeBytes_inside (address : Nat) (bytes : List UInt8) (index : Nat)
    (inside : index < bytes.length) :
    writeBytes memory address bytes (address + index) = bytes[index] := by
  simp [writeBytes, List.getElem?_eq_getElem inside]

theorem readBytes_writeBytes (address : Nat) (bytes : List UInt8) :
    readBytes (writeBytes memory address bytes) address bytes.length = bytes := by
  apply List.ext_getElem?
  intro index
  rw [getElem?_readBytes]
  split
  · rename_i inside
    rw [writeBytes_inside _ _ _ _ inside, List.getElem?_eq_getElem inside]
  · rename_i outside
    rw [List.getElem?_eq_none (by omega)]

theorem readLE_writeBytes_disjoint (address : Nat) (bytes : List UInt8) (other width : Nat)
    (apart : address + bytes.length ≤ other ∨ other + width ≤ address) :
    readLE (writeBytes memory address bytes) other width = readLE memory other width := by
  apply readLE_congr
  intro index below
  exact writeBytes_outside memory address bytes (other + index) (by omega)

end Bytes

/-- Store consecutive `width`-byte words from `address`, as an array field of integers
is laid out. -/
def writeWords (memory : Nat → UInt8) (address width : Nat) : List Nat → Nat → UInt8
  | [] => memory
  | word :: rest => writeWords (writeLE memory address width word) (address + width) width rest

section Arrays

variable (memory : Nat → UInt8)

theorem writeWords_outside (address width : Nat) (words : List Nat) (target : Nat)
    (outside : target < address ∨ address + width * words.length ≤ target) :
    writeWords memory address width words target = memory target := by
  induction words generalizing memory address with
  | nil => rfl
  | cons word rest ih =>
      rw [List.length_cons, Nat.mul_succ] at outside
      rw [writeWords, ih _ (address + width) (by omega)]
      exact writeLE_outside memory address width word target (by omega)

theorem readLE_writeWords (address width : Nat) (words : List Nat) (index : Nat)
    (inside : index < words.length) :
    readLE (writeWords memory address width words) (address + width * index) width =
      words[index] % 256 ^ width := by
  induction words generalizing memory address index with
  | nil => exact absurd inside (Nat.not_lt_zero _)
  | cons word rest ih =>
      cases index with
      | zero =>
          rw [writeWords, Nat.mul_zero, Nat.add_zero,
            readLE_congr _ address width fun offset below =>
              writeWords_outside _ (address + width) width rest (address + offset) (by omega),
            readLE_writeLE]
          rfl
      | succ index =>
          rw [writeWords, Nat.mul_succ, Nat.add_comm (width * index) width, ← Nat.add_assoc,
            ih _ (address + width) index (Nat.lt_of_succ_lt_succ inside)]
          rfl

end Arrays

end ByteMemory
