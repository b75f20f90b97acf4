set_option autoImplicit false

/- The panic messages of the kernel's library calls. -/

namespace ChOs

section Fallible

variable {ε α β : Type}

@[simp] theorem ok_bind (a : α) (f : α → Except ε β) : (Except.ok a >>= f) = f a := rfl

@[simp] theorem error_bind (e : ε) (f : α → Except ε β) :
    (Except.error e >>= f : Except ε β) = .error e := rfl

theorem bind_eq_ok {x : Except ε α} {f : α → Except ε β} {b : β} :
    (x >>= f) = .ok b ↔ ∃ a, x = .ok a ∧ f a = .ok b := by
  cases x with
  | error e => simp only [error_bind, reduceCtorEq, false_and, exists_false]
  | ok a => simp only [ok_bind, Except.ok.injEq, exists_eq_left']

/-- The check that a run succeeds with a result that passes `p`, in the form in which the
kernel evaluates it on a fixed input. -/
theorem ok_of_toOption_any {x : Except ε α} {p : α → Bool} (checked : x.toOption.any p = true) :
    ∃ a, x = .ok a ∧ p a = true := by
  cases x with
  | error e => cases checked
  | ok a => exact ⟨a, rfl, checked⟩

/-- The check that a run panics with `message`, for results without decidable equality: the
form in which the kernel evaluates a panic on a fixed input. -/
def panicsWith (message : String) : Except String α → Bool
  | .error error => decide (error = message)
  | .ok _ => false

theorem panicsWith_eq_true {message : String} {run : Except String α} :
    panicsWith message run = true ↔ run = .error message := by
  cases run with
  | error error => simp [panicsWith]
  | ok value => simp [panicsWith]

end Fallible

/-- The panic of `Option::unwrap` on `None`. -/
def unwrapNone : String := "called Option::unwrap() on a None value"

/-- The panic of `RefCell::borrow_mut` on a cell that is already borrowed, which
`UPSafeCell::exclusive_access` raises. -/
def alreadyBorrowed : String := "already borrowed: BorrowMutError"

/-- The panic of `assert_eq!(left, right)` on two different numbers. -/
def assertEqFailed (left right : Nat) : String :=
  "assertion failed: `(left == right)`\n  left: `" ++ toString left ++ "`,\n right: `" ++
    toString right ++ "`"

/-- The panic of indexing an array or a slice of length `len` at `index ≥ len`. -/
def indexOutOfBounds (len index : Nat) : String :=
  "index out of bounds: the len is " ++ toString len ++ " but the index is " ++ toString index

/-- The panic of taking `slice[..index]` of a slice of length `len < index`. -/
def sliceEndIndexLenFail (index len : Nat) : String :=
  "range end index " ++ toString index ++ " out of range for slice of length " ++ toString len

/-- The panic of `Result::unwrap` on `Err(error)`, for an error that is a `&str`. -/
def unwrapErr (error : String) : String :=
  "called `Result::unwrap()` on an `Err` value: \"" ++ error ++ "\""

/-- The panic of taking `slice[index..finish]` with `index > finish`. -/
def sliceIndexOrderFail (index finish : Nat) : String :=
  "slice index starts at " ++ toString index ++ " but ends at " ++ toString finish

end ChOs
