import Mathlib.Data.List.Induction

set_option autoImplicit false

/- Trees of nodes linked by indexed child pointers. -/

namespace IndexTree

variable {Node : Type}

/-- Follow a path of slot indexes from `node`. -/
def follow (child : Node → Nat → Option Node) (node : Node) : List Nat → Option Node
  | [] => some node
  | index :: path => (child node index).bind fun next => follow child next path

/-- Paths of at most `depth` slots, each below `width`. -/
def Within (depth width : Nat) (path : List Nat) : Prop :=
  path.length ≤ depth ∧ ∀ index ∈ path, index < width

/-- No node is reached along two different paths within the bounds. -/
def Injective (child : Node → Nat → Option Node) (root : Node) (depth width : Nat) : Prop :=
  ∀ path other node, Within depth width path → Within depth width other →
    follow child root path = some node → follow child root other = some node → path = other

section Follow

variable (child : Node → Nat → Option Node)

@[simp] theorem follow_nil (node : Node) : follow child node [] = some node := rfl

theorem follow_singleton (node : Node) (index : Nat) :
    follow child node [index] = child node index := by
  simp only [follow]
  cases child node index <;> rfl

theorem follow_append (node : Node) (path more : List Nat) :
    follow child node (path ++ more) =
      (follow child node path).bind fun next => follow child next more := by
  induction path generalizing node with
  | nil => rfl
  | cons index path ih =>
      simp only [List.cons_append, follow]
      cases child node index with
      | none => rfl
      | some next => exact ih next

theorem follow_concat (node : Node) (path : List Nat) (index : Nat) :
    follow child node (path ++ [index]) = (follow child node path).bind fun last =>
      child last index := by
  rw [follow_append]
  cases follow child node path with
  | none => rfl
  | some last =>
      simp only [Option.bind_some, follow]
      cases child last index <;> rfl

theorem follow_pair (node : Node) (first second : Nat) :
    follow child node [first, second] =
      (child node first).bind fun next => child next second := by
  rw [show [first, second] = [first] ++ [second] from rfl, follow_concat, follow_singleton]

end Follow

section Within

variable {depth width : Nat}

theorem Within.nil : Within depth width [] := ⟨Nat.zero_le _, by simp⟩

theorem Within.of_concat {path : List Nat} {index : Nat}
    (within : Within depth width (path ++ [index])) : Within depth width path :=
  ⟨by have := within.1; simp only [List.length_append, List.length_singleton] at this; omega,
    fun slot member => within.2 slot (by simp [member])⟩

theorem Within.last {path : List Nat} {index : Nat}
    (within : Within depth width (path ++ [index])) : index < width :=
  within.2 index (by simp)

end Within

section Growth

variable {child after : Node → Nat → Option Node} {root : Node} {depth width : Nat}

theorem follow_congr
    (same : ∀ path node index, Within depth width (path ++ [index]) →
      follow child root path = some node → after node index = child node index) :
    ∀ path, Within depth width path → follow after root path = follow child root path := by
  intro path
  induction path using List.reverseRecOn with
  | nil => intro _; rfl
  | append_singleton path index ih =>
      intro within
      rw [follow_concat, follow_concat, ih within.of_concat]
      cases reached : follow child root path with
      | none => rfl
      | some node => exact same path node index within reached

theorem injective_install {place : List Nat} {index : Nat} {fresh : Node}
    (injective : Injective child root depth width)
    (unreached : ∀ path, Within depth width path → follow child root path ≠ some fresh)
    (grown : ∀ path, Within depth width path →
      follow after root path =
        if path = place ++ [index] then some fresh else follow child root path) :
    Injective after root depth width := by
  intro path other reachedNode withinPath withinOther atPath atOther
  rw [grown path withinPath] at atPath
  rw [grown other withinOther] at atOther
  by_cases newPath : path = place ++ [index]
  · by_cases newOther : other = place ++ [index]
    · rw [newPath, newOther]
    · rw [if_pos newPath] at atPath
      rw [if_neg newOther, ← atPath] at atOther
      exact absurd atOther (unreached other withinOther)
  · rw [if_neg newPath] at atPath
    by_cases newOther : other = place ++ [index]
    · rw [if_pos newOther] at atOther
      rw [← atOther] at atPath
      exact absurd atPath (unreached path withinPath)
    · rw [if_neg newOther] at atOther
      exact injective path other reachedNode withinPath withinOther atPath atOther

variable [DecidableEq Node]

theorem follow_install {place : List Nat} {index : Nat} {node fresh : Node}
    (injective : Injective child root depth width)
    (reached : follow child root place = some node)
    (placed : Within depth width (place ++ [index]))
    (empty : child node index = none)
    (installed : ∀ path last slot, Within depth width (path ++ [slot]) →
      follow child root path = some last →
        after last slot = if last = node ∧ slot = index then some fresh else child last slot)
    (bare : ∀ slot, slot < width → after fresh slot = none) :
    ∀ path, Within depth width path →
      follow after root path =
        if path = place ++ [index] then some fresh else follow child root path := by
  intro path
  induction path using List.reverseRecOn with
  | nil =>
      intro _
      have differ : ([] : List Nat) ≠ place ++ [index] := by simp
      rw [if_neg differ]
      rfl
  | append_singleton path slot ih =>
      intro within
      rw [follow_concat, ih within.of_concat]
      by_cases atNew : path = place ++ [index]
      · have differ : path ++ [slot] ≠ place ++ [index] := by
          intro same
          have lengths := congrArg List.length same
          simp only [atNew, List.length_append, List.length_singleton] at lengths
          omega
        rw [if_pos atNew, if_neg differ, Option.bind_some, bare slot within.last, atNew,
          follow_concat, follow_concat, reached, Option.bind_some, empty]
        rfl
      · rw [if_neg atNew, follow_concat]
        cases walk : follow child root path with
        | none =>
            have differ : path ++ [slot] ≠ place ++ [index] := by
              intro same
              obtain ⟨rfl, -⟩ := List.append_inj' same rfl
              rw [reached] at walk
              cases walk
            rw [if_neg differ]
            rfl
        | some last =>
            have atPlace : last = node ↔ path = place := by
              constructor
              · intro same
                exact injective path place node within.of_concat placed.of_concat
                  (by rw [walk, same]) reached
              · rintro rfl
                rw [reached] at walk
                exact (Option.some.inj walk).symm
            have paths : path ++ [slot] = place ++ [index] ↔ path = place ∧ slot = index := by
              constructor
              · intro same
                obtain ⟨samePath, sameSlot⟩ := List.append_inj' same rfl
                exact ⟨samePath, List.singleton_inj.mp sameSlot⟩
              · rintro ⟨rfl, rfl⟩
                rfl
            simp only [Option.bind_some]
            rw [installed path last slot within walk]
            simp only [atPlace, paths]

end Growth

end IndexTree
