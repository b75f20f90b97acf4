set_option autoImplicit false

/- Runs of a transition system given by a step relation. -/

namespace Transition

variable {State : Type} (step : State → State → Prop) (initial : State)

/-- The states that finitely many steps lead to from `initial`. -/
inductive Reachable : State → Prop
  | init : Reachable initial
  | step {current next : State} : Reachable current → step current next → Reachable next

variable {step initial}

theorem Reachable.invariant {Inv : State → Prop} (start : Inv initial)
    (preserved : ∀ current next, Inv current → step current next → Inv next)
    {state : State} (reached : Reachable step initial state) : Inv state := by
  induction reached with
  | init => exact start
  | step _ last ih => exact preserved _ _ ih last

section Labelled

variable {Label : Type} (labelled : State → Option Label → State → Prop)

/-- The runs of a system whose steps may carry a label, with the labels in order. -/
inductive Run : State → List Label → State → Prop
  | refl (state : State) : Run state [] state
  | step {first middle last : State} {log : List Label} {label : Option Label} :
      Run first log middle → labelled middle label last → Run first (log ++ label.toList) last

variable {labelled}

theorem Run.fold {Abstract : Type} {Inv : State → Prop} (view : State → Abstract)
    (apply : Abstract → Label → Abstract)
    (preserved : ∀ current label next, Inv current → labelled current label next →
      Inv next ∧ view next = label.toList.foldl apply (view current))
    {first last : State} {log : List Label} (run : Run labelled first log last)
    (start : Inv first) : Inv last ∧ view last = log.foldl apply (view first) := by
  induction run with
  | refl => exact ⟨start, rfl⟩
  | step _ last ih =>
      obtain ⟨inv, viewed⟩ := ih
      obtain ⟨next, moved⟩ := preserved _ _ _ inv last
      exact ⟨next, by rw [moved, viewed, List.foldl_append]⟩

theorem Run.preserve {Inv : State → Prop} {Allowed : Label → Prop}
    (preserved : ∀ current label next, Inv current → labelled current label next →
      (∀ l ∈ label.toList, Allowed l) → Inv next)
    {first last : State} {log : List Label} (run : Run labelled first log last)
    (allowed : ∀ l ∈ log, Allowed l) (start : Inv first) : Inv last := by
  induction run with
  | refl => exact start
  | step _ last ih =>
      have before := ih fun l member => allowed l (List.mem_append_left _ member)
      exact preserved _ _ _ before last fun l member => allowed l (List.mem_append_right _ member)

end Labelled

end Transition
