import Mathlib.Data.List.Basic

set_option autoImplicit false

/- UTF-8 validity of byte lists and of the pieces a byte list is cut into. -/

namespace Utf8

/-- A byte list that decodes as UTF-8. -/
def Valid (bytes : List UInt8) : Prop := ByteArray.IsValidUTF8 ⟨bytes.toArray⟩

instance (bytes : List UInt8) : Decidable (Valid bytes) :=
  inferInstanceAs (Decidable (ByteArray.IsValidUTF8 _))

/-- `k` is a character boundary of `bytes`: their first `k` bytes decode on their own. -/
def Boundary (bytes : List UInt8) (k : Nat) : Prop := k ≤ bytes.length ∧ Valid (bytes.take k)

instance (bytes : List UInt8) (k : Nat) : Decidable (Boundary bytes k) :=
  inferInstanceAs (Decidable (_ ∧ _))

section Decode

variable {bytes : List UInt8} {s : String}

theorem fromUTF8?_eq_some_iff :
    String.fromUTF8? ⟨bytes.toArray⟩ = some s ↔ s.toByteArray = ⟨bytes.toArray⟩ := by
  unfold String.fromUTF8?
  split
  · rename_i valid
    rw [Option.some.injEq, ← String.toByteArray_inj]
    exact eq_comm
  · rename_i invalid
    refine ⟨fun decoded => (nomatch decoded), fun encoded => absurd ?_ invalid⟩
    rw [← encoded]
    exact s.isValidUTF8

theorem valid_of_fromUTF8? (decoded : String.fromUTF8? ⟨bytes.toArray⟩ = some s) :
    Valid bytes := by
  have encoded := fromUTF8?_eq_some_iff.mp decoded
  unfold Valid
  rw [← encoded]
  exact s.isValidUTF8

theorem exists_fromUTF8? (valid : Valid bytes) :
    ∃ s, String.fromUTF8? ⟨bytes.toArray⟩ = some s :=
  ⟨String.fromUTF8 ⟨bytes.toArray⟩ valid, dif_pos valid⟩

theorem fromUTF8?_toByteArray (s : String) :
    String.fromUTF8? ⟨s.toByteArray.data.toList.toArray⟩ = some s := by
  rw [fromUTF8?_eq_some_iff, Array.toArray_toList]

end Decode

section Append

variable {first second : List UInt8}

theorem mk_toArray_append (first second : List UInt8) :
    (⟨(first ++ second).toArray⟩ : ByteArray) = ⟨first.toArray⟩ ++ ⟨second.toArray⟩ := by
  apply ByteArray.ext
  rw [ByteArray.data_append, List.append_toArray]

theorem fromUTF8?_append {s t : String} (left : String.fromUTF8? ⟨first.toArray⟩ = some s)
    (right : String.fromUTF8? ⟨second.toArray⟩ = some t) :
    String.fromUTF8? ⟨(first ++ second).toArray⟩ = some (s ++ t) := by
  rw [fromUTF8?_eq_some_iff] at left right ⊢
  rw [String.toByteArray_append, left, right, mk_toArray_append]

end Append

section Boundaries

variable {whole : List UInt8}

theorem boundary_zero (whole : List UInt8) : Boundary whole 0 := by
  refine ⟨Nat.zero_le _, ?_⟩
  rw [List.take_zero]
  exact ByteArray.isValidUTF8_empty

theorem boundary_length (valid : Valid whole) : Boundary whole whole.length := by
  refine ⟨Nat.le_refl _, ?_⟩
  rw [List.take_length]
  exact valid

theorem extract_mk (i j : Nat) :
    (⟨whole.toArray⟩ : ByteArray).extract i j = ⟨((whole.drop i).take (j - i)).toArray⟩ := by
  apply ByteArray.ext
  rw [ByteArray.data_extract, ← Array.toList_inj, Array.toList_extract, List.extract_eq_take_drop]

theorem toByteArray_fromUTF8 (valid : Valid whole) :
    (String.fromUTF8 ⟨whole.toArray⟩ valid).toByteArray = ⟨whole.toArray⟩ := rfl

theorem byteIdx_rawEndPos_fromUTF8 (valid : Valid whole) :
    (String.fromUTF8 ⟨whole.toArray⟩ valid).rawEndPos.byteIdx = whole.length := by
  rw [String.byteIdx_rawEndPos, ← String.size_toByteArray, toByteArray_fromUTF8]
  exact List.size_toArray

theorem isValid_iff_boundary (valid : Valid whole) (k : Nat) :
    String.Pos.Raw.IsValid (String.fromUTF8 ⟨whole.toArray⟩ valid) ⟨k⟩ ↔
      Boundary whole k := by
  rw [String.Pos.Raw.isValid_iff_isValidUTF8_extract_zero, String.Pos.Raw.le_iff,
    byteIdx_rawEndPos_fromUTF8 valid]
  rw [toByteArray_fromUTF8, extract_mk, List.drop_zero, Nat.sub_zero]
  rfl

theorem valid_slice_iff (valid : Valid whole) {i j : Nat} (ordered : i ≤ j)
    (inside : j ≤ whole.length) :
    Valid ((whole.drop i).take (j - i)) ↔ i = j ∨ (Boundary whole i ∧ Boundary whole j) := by
  have extracted := @String.Pos.Raw.isValidUTF8_extract_iff
    (String.fromUTF8 ⟨whole.toArray⟩ valid) ⟨i⟩ ⟨j⟩ (String.Pos.Raw.le_iff.mpr ordered)
    (String.Pos.Raw.le_iff.mpr ((byteIdx_rawEndPos_fromUTF8 valid).symm ▸ inside))
  rw [isValid_iff_boundary valid, isValid_iff_boundary valid, String.Pos.Raw.ext_iff] at extracted
  rw [← extracted, toByteArray_fromUTF8, extract_mk]
  rfl

end Boundaries

end Utf8
