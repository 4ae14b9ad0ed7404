import Mathlib

/-!
# Writes to a memory

A program that computes what it stores from something else leaves a list of writes. `run` carries
them out in order on a memory that may hold nothing at an address; `setAll` does so on a vector.
Where all writes to an address agree, their order does not matter.
-/

namespace SkaiEdge.Lib.Writes

variable {α : Type*}

/-- The memory after the writes. -/
def run (memory : Nat → Option α) (writes : List (Nat × α)) : Nat → Option α :=
  writes.foldl (fun memory write => Function.update memory write.1 (some write.2)) memory

/-- The vector after the writes. -/
def setAll (values : List α) (writes : List (Nat × α)) : List α :=
  writes.foldl (fun values write => values.set write.1 write.2) values

/-- A loop whose turns write. -/
theorem setAll_flatMap {β : Type*} (values : List α) (turns : List β) (writes : β → List (Nat × α)) :
    setAll values (turns.flatMap writes) =
      turns.foldl (fun values turn => setAll values (writes turn)) values := by
  induction turns generalizing values with
  | nil => rfl
  | cons turn turns ih =>
    rw [List.flatMap_cons, List.foldl_cons, ← ih]
    exact List.foldl_append

theorem run_untouched {memory : Nat → Option α} {writes : List (Nat × α)} {i : Nat}
    (other : ∀ write ∈ writes, write.1 ≠ i) : run memory writes i = memory i := by
  induction writes generalizing memory with
  | nil => rfl
  | cons write writes ih =>
    rw [run, List.foldl_cons, ← run, ih fun later member => other later (List.mem_cons_of_mem _ member),
      Function.update_of_ne (other write List.mem_cons_self).symm]

/-- An address whose writes agree holds their value, in whatever order they come. -/
theorem run_agreed {memory : Nat → Option α} {writes : List (Nat × α)} {i : Nat} {value : α}
    (written : ∃ write ∈ writes, write.1 = i) (agreed : ∀ write ∈ writes, write.1 = i → write.2 = value) :
    run memory writes i = some value := by
  induction writes generalizing memory with
  | nil =>
    obtain ⟨write, member, -⟩ := written
    cases member
  | cons write writes ih =>
    have later : ∀ write ∈ writes, write.1 = i → write.2 = value :=
      fun write member => agreed write (List.mem_cons_of_mem _ member)
    rw [run, List.foldl_cons, ← run]
    by_cases again : ∃ write ∈ writes, write.1 = i
    · exact ih again later
    · have last : ∀ write ∈ writes, write.1 ≠ i := fun write member same => again ⟨write, member, same⟩
      obtain ⟨first, member, same⟩ := written
      obtain rfl | member := List.mem_cons.1 member
      · rw [run_untouched last, ← same, Function.update_self, agreed _ List.mem_cons_self same]
      · exact absurd same (last first member)

theorem length_setAll (values : List α) (writes : List (Nat × α)) :
    (setAll values writes).length = values.length := by
  induction writes generalizing values with
  | nil => rfl
  | cons write writes ih => rw [setAll, List.foldl_cons, ← setAll, ih, List.length_set]

/-- What an address holds at the end depends on what it held before only. -/
theorem run_congr {memory memory' : Nat → Option α} {i : Nat} (writes : List (Nat × α))
    (same : memory i = memory' i) : run memory writes i = run memory' writes i := by
  induction writes generalizing memory memory' with
  | nil => exact same
  | cons write writes ih =>
    rw [run, run, List.foldl_cons, List.foldl_cons, ← run, ← run]
    apply ih
    by_cases here : i = write.1
    · rw [here, Function.update_self, Function.update_self]
    · rw [Function.update_of_ne here, Function.update_of_ne here, same]

/-- A vector is a memory as far as it reaches. -/
theorem setAll_eq_run {values : List α} {i : Nat} (writes : List (Nat × α))
    (inside : i < values.length) :
    (setAll values writes)[i]? = run (fun j => values[j]?) writes i := by
  induction writes generalizing values with
  | nil => rfl
  | cons write writes ih =>
    rw [setAll, run, List.foldl_cons, List.foldl_cons, ← setAll, ← run,
      ih (by rw [List.length_set]; exact inside)]
    apply run_congr
    by_cases here : i = write.1
    · subst here
      rw [Function.update_self, List.getElem?_set_self inside]
    · rw [Function.update_of_ne here, List.getElem?_set_ne (Ne.symm here)]

end SkaiEdge.Lib.Writes
