import ChOs.EasyFs.Layout
import ChOs.Library.Utf8

set_option autoImplicit false

/- Directory entries (`DirEntry` of `easy-fs/src/layout.rs`). -/

namespace ChOs

namespace EasyFs

/-- `NAME_LENGTH_LIMIT`. -/
def nameLengthLimit : Nat := 27

/-- `DIRENT_SZ`. -/
def direntSz : Nat := 32

/-- `name.as_bytes()`: the UTF-8 encoding of a `&str`. -/
def nameBytes (name : String) : List UInt8 := name.toUTF8.data.toList

@[simp] theorem length_nameBytes (name : String) : (nameBytes name).length = name.utf8ByteSize := by
  simp [nameBytes]

theorem fromUTF8?_nameBytes (name : String) :
    String.fromUTF8? ⟨(nameBytes name).toArray⟩ = some name :=
  Utf8.fromUTF8?_toByteArray name

/-- `DirEntry`; its field `name` is `nameField` here, beside the method `name`. -/
structure DirEntry where
  nameField : Vector UInt8 (nameLengthLimit + 1)
  inodeNumber : UInt32
  deriving DecidableEq, Repr

/-- The panic of `from_utf8(..).unwrap()` on bytes that are not UTF-8; the position of the
error that `Utf8Error` also prints is left out. -/
def invalidUtf8 : String := "called `Result::unwrap()` on an `Err` value: Utf8Error"

/-- The loop of `(0usize..).find(|i| self.name[*i] == 0)` at index `i`, with `rest` the
field from `i` on. Past the end of the field, `self.name[i]` panics. -/
def findZero : List UInt8 → Nat → Except String Nat
  | [], i => .error (indexOutOfBounds (nameLengthLimit + 1) i)
  | byte :: rest, i => if byte = 0 then .ok i else findZero rest (i + 1)

namespace DirEntry

def empty : DirEntry := ⟨Vector.replicate (nameLengthLimit + 1) 0, 0⟩

/-- `DirEntry::new`: `bytes[..name.len()].copy_from_slice(name.as_bytes())` into a zeroed
field. -/
def new (name : String) (inodeNumber : UInt32) : Except String DirEntry :=
  let bytes := nameBytes name
  if bytes.length ≤ nameLengthLimit + 1 then
    .ok ⟨Vector.ofFn fun i => bytes.getD i.val 0, inodeNumber⟩
  else .error (sliceEndIndexLenFail bytes.length (nameLengthLimit + 1))

/-- `as_bytes`: the `#[repr(C)]` layout, the name field and then the inode number, least
significant byte first. -/
def asBytes (self : DirEntry) : List UInt8 :=
  self.nameField.toList ++ (List.range 4).map fun i => UInt8.ofNat (self.inodeNumber.toNat / 256 ^ i)

/-- The entry whose `as_bytes_mut` holds `bytes`, as `read_at` leaves them. -/
def ofBytes (bytes : List UInt8) : DirEntry :=
  ⟨Vector.ofFn fun i => bytes.getD i.val 0,
    .ofNat (ByteMemory.readLE (fun i => bytes.getD i 0) (nameLengthLimit + 1) 4)⟩

/-- `DirEntry::name`: the bytes before the first zero byte, as UTF-8, both unwrapped. -/
def name (self : DirEntry) : Except String String := do
  let len ← findZero self.nameField.toList 0
  match String.fromUTF8? ⟨(self.nameField.toList.take len).toArray⟩ with
  | some name => .ok name
  | none => .error invalidUtf8

section Search

theorem findZero_of_zero_free (rest : List UInt8) (i : Nat) (free : 0 ∉ rest) :
    findZero rest i = .error (indexOutOfBounds (nameLengthLimit + 1) (i + rest.length)) := by
  induction rest generalizing i with
  | nil => rfl
  | cons byte rest ih =>
      rw [findZero, if_neg (List.ne_of_not_mem_cons free).symm,
        ih (i + 1) (List.not_mem_of_not_mem_cons free), List.length_cons, Nat.add_assoc,
        Nat.add_comm 1]

theorem findZero_append_zero (front rest : List UInt8) (i : Nat) (free : 0 ∉ front) :
    findZero (front ++ 0 :: rest) i = .ok (i + front.length) := by
  induction front generalizing i with
  | nil => rfl
  | cons byte front ih =>
      rw [List.cons_append, findZero, if_neg (List.ne_of_not_mem_cons free).symm,
        ih (i + 1) (List.not_mem_of_not_mem_cons free), List.length_cons, Nat.add_assoc,
        Nat.add_comm 1]

theorem findZero_le {rest : List UInt8} {i found : Nat} (search : findZero rest i = .ok found)
    {position : Nat} (inside : position < rest.length) (zero : rest[position] = 0) :
    found ≤ i + position := by
  induction rest generalizing i position with
  | nil => exact absurd inside (Nat.not_lt_zero _)
  | cons byte rest ih =>
      rw [findZero] at search
      split at search
      · cases search
        omega
      · cases position with
        | zero =>
            rename_i nonzero
            exact absurd zero nonzero
        | succ position =>
            have below := ih search (Nat.lt_of_succ_lt_succ inside) zero
            omega

end Search

section Encoding

variable {name : String} {inodeNumber : UInt32}

theorem new_eq (fits : (nameBytes name).length ≤ nameLengthLimit + 1) :
    ∃ entry, new name inodeNumber = .ok entry ∧ entry.inodeNumber = inodeNumber ∧
      entry.nameField.toList =
        nameBytes name ++ List.replicate (nameLengthLimit + 1 - (nameBytes name).length) 0 := by
  refine ⟨_, if_pos fits, rfl, ?_⟩
  apply List.ext_getElem
  · simp only [Vector.length_toList, List.length_append, List.length_replicate]
    omega
  · intro index inField _
    rw [Vector.getElem_toList, Vector.getElem_ofFn, List.getElem_append]
    split
    · rename_i inName
      rw [List.getD_eq_getElem _ _ inName]
    · rename_i past
      rw [List.getD_eq_default _ _ (Nat.le_of_not_lt past), List.getElem_replicate]

theorem new_of_long (long : nameLengthLimit + 1 < (nameBytes name).length) :
    new name inodeNumber =
      .error (sliceEndIndexLenFail (nameBytes name).length (nameLengthLimit + 1)) :=
  if_neg (Nat.not_le_of_lt long)

/-- A name of at most `NAME_LENGTH_LIMIT` bytes without a zero byte comes back as it went
in. -/
theorem name_new_of_short (short : (nameBytes name).length ≤ nameLengthLimit)
    (free : 0 ∉ nameBytes name) :
    (new name inodeNumber >>= DirEntry.name) = .ok name := by
  obtain ⟨entry, created, -, field⟩ := @new_eq name inodeNumber (Nat.le_succ_of_le short)
  have padded : nameBytes name ++ List.replicate (nameLengthLimit + 1 - (nameBytes name).length) 0 =
      nameBytes name ++ 0 :: List.replicate (nameLengthLimit - (nameBytes name).length) 0 := by
    rw [Nat.sub_add_comm short, List.replicate_succ]
  rw [created, ok_bind, DirEntry.name, field, padded, findZero_append_zero _ _ 0 free, Nat.zero_add,
    ok_bind, List.take_left, fromUTF8?_nameBytes]

theorem name_new_of_full (full : (nameBytes name).length = nameLengthLimit + 1)
    (free : 0 ∉ nameBytes name) :
    (new name inodeNumber >>= DirEntry.name) =
      .error (indexOutOfBounds (nameLengthLimit + 1) (nameLengthLimit + 1)) := by
  obtain ⟨entry, created, -, field⟩ := @new_eq name inodeNumber full.le
  rw [full, Nat.sub_self, List.replicate_zero, List.append_nil] at field
  rw [created, ok_bind, DirEntry.name, field, findZero_of_zero_free _ 0 free, full, Nat.zero_add,
    error_bind]

theorem name_new_ne_of_nul (fits : (nameBytes name).length ≤ nameLengthLimit + 1)
    (nul : 0 ∈ nameBytes name) :
    (new name inodeNumber >>= DirEntry.name) ≠ .ok name := by
  obtain ⟨entry, created, -, field⟩ := @new_eq name inodeNumber fits
  obtain ⟨position, inName, zero⟩ := List.getElem_of_mem nul
  rw [created, ok_bind, DirEntry.name]
  cases search : findZero entry.nameField.toList 0 with
  | error message => exact fun impossible => (by cases impossible)
  | ok len =>
      have inField : position < entry.nameField.toList.length := by
        rw [Vector.length_toList]
        omega
      have zeroInField : entry.nameField.toList[position] = 0 := by
        simp only [field, List.getElem_append_left inName, zero]
      have stops : len ≤ position := by
        simpa using findZero_le search inField zeroInField
      rw [ok_bind]
      split
      · rename_i decoded found
        intro same
        cases same
        have bytes := congrArg ByteArray.size (Utf8.fromUTF8?_eq_some_iff.mp found)
        rw [String.size_toByteArray] at bytes
        simp only [ByteArray.size, List.size_toArray, List.length_take, Vector.length_toList]
          at bytes
        rw [length_nameBytes] at inName
        omega
      · exact fun impossible => (by cases impossible)

/-- What `DirEntry::new` and `DirEntry::name` make of a name, by its length in bytes: a name of
at most `NAME_LENGTH_LIMIT` bytes with no zero byte comes back; one of 28 bytes with no zero
byte fills the field, and `name` panics on the index past it; a longer one panics in `new`;
and a name with a zero byte that fits never comes back. -/
theorem name_new_cases (name : String) (inodeNumber : UInt32) :
    ((nameBytes name).length ≤ nameLengthLimit → 0 ∉ nameBytes name →
        (new name inodeNumber >>= DirEntry.name) = .ok name) ∧
      ((nameBytes name).length = nameLengthLimit + 1 → 0 ∉ nameBytes name →
        (new name inodeNumber >>= DirEntry.name) =
          .error (indexOutOfBounds (nameLengthLimit + 1) (nameLengthLimit + 1))) ∧
      (nameLengthLimit + 1 < (nameBytes name).length →
        new name inodeNumber =
          .error (sliceEndIndexLenFail (nameBytes name).length (nameLengthLimit + 1))) ∧
      ((nameBytes name).length ≤ nameLengthLimit + 1 → 0 ∈ nameBytes name →
        (new name inodeNumber >>= DirEntry.name) ≠ .ok name) :=
  ⟨name_new_of_short, name_new_of_full, new_of_long, name_new_ne_of_nul⟩

end Encoding

section Bytes

@[simp] theorem length_asBytes (self : DirEntry) : self.asBytes.length = direntSz := by
  rw [asBytes, List.length_append, Vector.length_toList, List.length_map, List.length_range]
  rfl

theorem ofBytes_asBytes (self : DirEntry) : ofBytes self.asBytes = self := by
  have inField : self.nameField.toList.length = nameLengthLimit + 1 := Vector.length_toList
  have numberByte : ∀ k, k < 4 → (self.asBytes.getD (nameLengthLimit + 1 + k) 0).toNat =
      self.inodeNumber.toNat / 256 ^ k % 256 := by
    intro k small
    rw [asBytes, List.getD_append_right _ _ _ _ (by omega), inField, Nat.add_sub_cancel_left,
      List.getD_eq_getElem _ _ (by simpa using small), List.getElem_map, List.getElem_range,
      UInt8.toNat_ofNat']
  have bounded := self.inodeNumber.toNat_lt
  have number : ByteMemory.readLE (fun i => self.asBytes.getD i 0) (nameLengthLimit + 1) 4 =
      self.inodeNumber.toNat := by
    simp only [ByteMemory.readLE_succ, ByteMemory.readLE_zero]
    have byte0 := numberByte 0 (by decide)
    have byte1 := numberByte 1 (by decide)
    have byte2 := numberByte 2 (by decide)
    have byte3 := numberByte 3 (by decide)
    simp only [Nat.add_zero] at byte0
    simp only [Nat.add_assoc] at byte1 byte2 byte3 ⊢
    rw [byte0, byte1, byte2, byte3]
    omega
  cases self with
  | mk field inodeNumber =>
      simp only [ofBytes, number, UInt32.ofNat_toNat, mk.injEq, and_true]
      apply Vector.ext
      intro index inside
      rw [Vector.getElem_ofFn, asBytes, List.getD_append _ _ _ _ (by simpa using inside),
        List.getD_eq_getElem _ _ (by simpa using inside), Vector.getElem_toList]

end Bytes

end DirEntry

end EasyFs

end ChOs
