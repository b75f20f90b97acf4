import Mathlib.Data.List.Nodup

set_option autoImplicit false

/- Lists of pairs searched by their first component, and the positional search and
removal of a queue. -/

namespace KeyedList

section Keys

variable {α β : Type} {entries : List (α × β)} {key : α}

theorem find?_key_of_mem [DecidableEq α] (distinct : (entries.map Prod.fst).Nodup) {value : β}
    (mem : (key, value) ∈ entries) :
    entries.find? (fun entry => entry.1 == key) = some (key, value) := by
  cases found : entries.find? (fun entry => entry.1 == key) with
  | none =>
      have := List.find?_eq_none.mp found (key, value) mem
      simp only [beq_self_eq_true, not_true_eq_false] at this
  | some entry =>
      have passes : (entry.1 == key) = true :=
        @List.find?_some _ (fun entry : α × β => entry.1 == key) _ _ found
      have same : entry.1 = key := beq_iff_eq.mp passes
      exact congrArg some (List.inj_on_of_nodup_map distinct (List.mem_of_find?_eq_some found)
        mem same)

theorem find?_key_of_absent [DecidableEq α] (absent : ∀ value, (key, value) ∉ entries) :
    entries.find? (fun entry => entry.1 == key) = none := by
  refine List.find?_eq_none.mpr fun entry mem same => ?_
  have keyed : entry = (key, entry.2) := Prod.ext (beq_iff_eq.mp same) rfl
  exact absent entry.2 (keyed ▸ mem)

theorem value_unique (distinct : (entries.map Prod.fst).Nodup) {first second : β}
    (firstMem : (key, first) ∈ entries) (secondMem : (key, second) ∈ entries) :
    first = second :=
  congrArg Prod.snd (List.inj_on_of_nodup_map distinct firstMem secondMem rfl)

end Keys

theorem key_unique {α β : Type} {entries : List (α × β)} (distinct : (entries.map Prod.snd).Nodup)
    {first second : α} {value : β} (firstMem : (first, value) ∈ entries)
    (secondMem : (second, value) ∈ entries) : first = second :=
  congrArg Prod.fst (List.inj_on_of_nodup_map distinct firstMem secondMem rfl)

section Positions

variable {γ : Type} {queue : List γ} {test : γ → Bool}

theorem find?_zipIdx {found : γ} {index : Nat}
    (search : queue.zipIdx.find? (fun entry => test entry.1) = some (found, index)) :
    queue[index]? = some found ∧ test found = true := by
  obtain ⟨passes, position, within, at_position, -⟩ := List.find?_eq_some_iff_getElem.mp search
  rw [List.getElem_zipIdx, Prod.mk.injEq, Nat.zero_add] at at_position
  obtain ⟨rfl, rfl⟩ := at_position
  exact ⟨List.getElem?_eq_getElem (by simpa using within), passes⟩

theorem find?_zipIdx_ne_none {found : γ} (mem : found ∈ queue) (passes : test found = true) :
    queue.zipIdx.find? (fun entry => test entry.1) ≠ none := by
  obtain ⟨index, at_index⟩ := List.mem_iff_getElem?.mp mem
  have entry : queue.zipIdx[index]? = some (found, index) := by
    rw [List.getElem?_zipIdx, at_index, Nat.zero_add]
    rfl
  have listed : (found, index) ∈ queue.zipIdx := List.mem_of_getElem? entry
  intro none_found
  exact List.find?_eq_none.mp none_found _ listed passes

theorem eraseIdx_eq_erase [BEq γ] [LawfulBEq γ] (distinct : queue.Nodup) {found : γ} {index : Nat}
    (at_index : queue[index]? = some found) : queue.eraseIdx index = queue.erase found := by
  obtain ⟨within, rfl⟩ := List.getElem?_eq_some_iff.mp at_index
  exact (distinct.erase_getElem index within).symm

end Positions

section Updates

variable {α β : Type}

theorem filterMap_cons_toList (g : α → Option β) (x : α) (xs : List α) :
    (x :: xs).filterMap g = (g x).toList ++ xs.filterMap g := by
  cases value : g x <;> simp [value]

variable [DecidableEq α]

theorem filterMap_perm_update (g : α → Option β) {a : α} :
    ∀ {l : List α}, a ∈ l → l.Nodup →
      (l.filterMap g).Perm ((g a).toList ++ l.filterMap (Function.update g a none))
  | x :: xs, mem, nodup => by
      obtain ⟨fresh, rest⟩ := List.nodup_cons.mp nodup
      rw [filterMap_cons_toList, filterMap_cons_toList]
      rcases List.mem_cons.mp mem with rfl | later
      · have tail : xs.filterMap (Function.update g a none) = xs.filterMap g :=
          List.filterMap_congr fun v member =>
            Function.update_of_ne (fun same : v = a => fresh (same ▸ member)) _ _
        rw [tail, Function.update_self]
        rfl
      · have apart : x ≠ a := fun same => fresh (same ▸ later)
        rw [Function.update_of_ne apart]
        have moved := (filterMap_perm_update g later rest).append_left (g x).toList
        rw [← List.append_assoc] at moved ⊢
        exact moved.trans (List.perm_append_comm.append_right _)

end Updates

end KeyedList
