import Mathlib.Data.Nat.Bitwise

set_option autoImplicit false

/- Machine words read as sets of bits. -/

namespace BitWord

/-- The number of consecutive set bits from bit 0, at most `width`. -/
def trailingOnes (word : Nat) : Nat → Nat
  | 0 => 0
  | width + 1 => if word % 2 = 1 then trailingOnes (word / 2) width + 1 else 0

section TrailingOnes

theorem trailingOnes_le (word width : Nat) : trailingOnes word width ≤ width := by
  induction width generalizing word with
  | zero => exact Nat.le_refl 0
  | succ width ih =>
      unfold trailingOnes
      split
      · exact Nat.succ_le_succ (ih (word / 2))
      · exact Nat.zero_le _

theorem testBit_of_lt_trailingOnes (word width : Nat) {bit : Nat}
    (below : bit < trailingOnes word width) : word.testBit bit = true := by
  induction width generalizing word bit with
  | zero => exact absurd below (Nat.not_lt_zero _)
  | succ width ih =>
      unfold trailingOnes at below
      split at below
      · rename_i odd
        cases bit with
        | zero =>
            rw [Nat.testBit_zero]
            exact decide_eq_true odd
        | succ bit =>
            rw [Nat.testBit_succ]
            exact ih (word / 2) (Nat.lt_of_succ_lt_succ below)
      · exact absurd below (Nat.not_lt_zero _)

theorem testBit_trailingOnes (word width : Nat) (short : trailingOnes word width < width) :
    word.testBit (trailingOnes word width) = false := by
  induction width generalizing word with
  | zero => exact absurd short (Nat.not_lt_zero _)
  | succ width ih =>
      unfold trailingOnes at short ⊢
      split
      · rename_i odd
        rw [if_pos odd] at short
        rw [Nat.testBit_succ]
        exact ih (word / 2) (Nat.lt_of_succ_lt_succ short)
      · rename_i even
        rw [Nat.testBit_zero]
        exact decide_eq_false even

theorem trailingOnes_lt {word width bit : Nat} (below : bit < width)
    (clear : word.testBit bit = false) : trailingOnes word width < width := by
  refine Nat.lt_of_not_le fun long => ?_
  have full : trailingOnes word width = width := Nat.le_antisymm (trailingOnes_le _ _) long
  have set : word.testBit bit = true :=
    testBit_of_lt_trailingOnes word width (by rw [full]; exact below)
  rw [clear] at set
  cases set

end TrailingOnes

theorem exists_clear_of_ne_allOnes {word width : Nat} (bounded : word < 2 ^ width)
    (notFull : word ≠ 2 ^ width - 1) : ∃ bit < width, word.testBit bit = false := by
  refine Classical.byContradiction fun full => notFull (Nat.eq_of_testBit_eq fun bit => ?_)
  rw [Nat.testBit_two_pow_sub_one]
  by_cases below : bit < width
  · rw [decide_eq_true below]
    exact Bool.not_eq_false _ |>.mp fun clear => full ⟨bit, below, clear⟩
  · rw [decide_eq_false below]
    exact Nat.testBit_lt_two_pow
      (Nat.lt_of_lt_of_le bounded (Nat.pow_le_pow_right (by decide) (Nat.le_of_not_lt below)))

theorem testBit_add_two_pow {word t : Nat} (clear : word.testBit t = false) (bit : Nat) :
    (word + 2 ^ t).testBit bit = (word.testBit bit || decide (t = bit)) := by
  induction t generalizing word bit with
  | zero =>
      have even : word % 2 = 0 := by
        rw [Nat.testBit_zero, decide_eq_false_iff_not] at clear
        omega
      cases bit with
      | zero =>
          rw [Nat.testBit_zero, Nat.testBit_zero, Nat.pow_zero]
          simp only [decide_true, Bool.or_true, decide_eq_true_eq]
          omega
      | succ bit =>
          rw [Nat.testBit_succ, Nat.testBit_succ, Nat.pow_zero,
            show (word + 1) / 2 = word / 2 by omega]
          simp only [Nat.right_eq_add, Nat.add_one_ne_zero, decide_false, Bool.or_false]
  | succ t ih =>
      rw [Nat.testBit_succ] at clear
      cases bit with
      | zero =>
          rw [Nat.testBit_zero, Nat.testBit_zero, Nat.pow_succ]
          simp only [Nat.add_one_ne_zero, decide_false, Bool.or_false, decide_eq_decide]
          omega
      | succ bit =>
          rw [Nat.testBit_succ, Nat.testBit_succ,
            show (word + 2 ^ (t + 1)) / 2 = word / 2 + 2 ^ t by rw [Nat.pow_succ]; omega,
            ih clear bit]
          simp only [Nat.add_right_cancel_iff]

theorem testBit_sub_two_pow {word t : Nat} (set : word.testBit t = true) (bit : Nat) :
    (word - 2 ^ t).testBit bit = (word.testBit bit && !decide (t = bit)) := by
  have atLeast : 2 ^ t ≤ word := Nat.ge_two_pow_of_testBit set
  have rest : (word - 2 ^ t).testBit t = false := by
    have added := Nat.testBit_two_pow_add_eq (word - 2 ^ t) t
    rw [Nat.add_sub_cancel' atLeast, set] at added
    exact Bool.not_inj (by rw [← added]; rfl)
  have whole := testBit_add_two_pow rest bit
  rw [Nat.sub_add_cancel atLeast] at whole
  rw [whole]
  by_cases same : t = bit
  · rw [← same, rest]
    simp only [decide_true, Bool.or_true, Bool.not_true, Bool.and_false]
  · simp only [same, decide_false, Bool.or_false, Bool.not_false, Bool.and_true]

theorem or_two_pow_sub {word t : Nat} (clear : word.testBit t = false) :
    (word ||| 2 ^ t) - 2 ^ t = word := by
  have set : (word ||| 2 ^ t).testBit t = true := by
    rw [Nat.testBit_or, Nat.testBit_two_pow_self, Bool.or_true]
  apply Nat.eq_of_testBit_eq
  intro bit
  rw [testBit_sub_two_pow set, Nat.testBit_or, Nat.testBit_two_pow]
  by_cases same : t = bit
  · rw [← same, clear]
    simp only [decide_true, Bool.or_true, Bool.not_true, Bool.and_false]
  · simp only [same, decide_false, Bool.or_false, Bool.not_false, Bool.and_true]

end BitWord
