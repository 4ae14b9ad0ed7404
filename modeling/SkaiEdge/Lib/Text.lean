import Mathlib

/-!
# Searching and cutting texts

`std::string` searches by position: `find` answers an index or `npos`, here `none`, and
`substr(0, n)` takes `npos` for the end. The lemmas say what text such a cut leaves.
-/

namespace SkaiEdge.Lib.Text

variable {α : Type*} [DecidableEq α]

/-- `s.find(c, pos)`. -/
def find (s : List α) (c : α) (pos : Nat) : Option Nat := ((s.drop pos).idxOf? c).map (pos + ·)

/-- `s.find_last_of(c)`. -/
def findLastOf (s : List α) (c : α) : Option Nat := (s.reverse.idxOf? c).map (s.length - 1 - ·)

/-- `s.substr(0, n)`. -/
def upTo (s : List α) : Option Nat → List α
  | none => s
  | some n => s.take n

/-- What a callee that takes `s.c_str()` sees. -/
def cString (s : List Char) : List Char := s.takeWhile (· ≠ '\x00')

theorem cString_eq {s : List Char} (whole : '\x00' ∉ s) : cString s = s := by
  rw [cString, List.takeWhile_eq_self_iff]
  intro c member
  simp only [ne_eq, decide_eq_true_eq]
  rintro rfl
  exact whole member

omit [DecidableEq α] in
theorem takeWhile_append_stop {p : α → Bool} (a : List α) {c : α} (x : List α) (stop : p c = false) :
    (a ++ c :: x).takeWhile p = a.takeWhile p := by
  induction a with
  | nil => simp [stop]
  | cons y a ih => simp only [List.cons_append, List.takeWhile_cons, ih]

omit [DecidableEq α] in
theorem upTo_findIdx (t : List α) (p : α → Bool) : upTo t (t.findIdx? p) = t.takeWhile (!p ·) := by
  induction t with
  | nil => rfl
  | cons y t ih =>
    rw [List.findIdx?_cons]
    by_cases found : p y
    · simp [found, upTo]
    · cases rest : t.findIdx? p with
      | none => simpa [found, upTo, rest] using ih
      | some n => simpa [found, upTo, rest] using ih

theorem upTo_idxOf (t : List α) (c : α) : upTo t (t.idxOf? c) = t.takeWhile (· ≠ c) := by
  rw [List.idxOf?, upTo_findIdx]
  congr 1
  funext d
  simp [beq_eq_decide]

/-- A search that starts behind `a`. -/
theorem find_append (a t : List α) (c : α) :
    find (a ++ t) c a.length = (t.idxOf? c).map (a.length + ·) := by
  rw [find, List.drop_left]

/-- Cutting at the first `c` from position `pos` on. -/
theorem upTo_find (a t : List α) (c : α) :
    upTo (a ++ t) (find (a ++ t) c a.length) = a ++ t.takeWhile (· ≠ c) := by
  rw [← upTo_idxOf, find_append]
  cases t.idxOf? c with
  | none => rfl
  | some n => simp [upTo, List.take_length_add_append]

theorem find_eq_none_iff {s : List α} {c : α} : find s c 0 = none ↔ c ∉ s := by
  simp [find]

theorem idxOf_append_of_not_mem {b : List α} {c : α} (x : List α) (first : c ∉ b) :
    (b ++ x).idxOf? c = (x.idxOf? c).map (b.length + ·) := by
  induction b with
  | nil => simp
  | cons y b ih =>
    rw [List.mem_cons, not_or] at first
    rw [List.cons_append, List.idxOf?_cons, ih first.2]
    cases x.idxOf? c with
    | none => simp [Ne.symm first.1]
    | some n => simp [Ne.symm first.1]; omega

theorem idxOf_append_stop {b : List α} {c : α} (x : List α) (first : c ∉ b) :
    (b ++ c :: x).idxOf? c = some b.length := by
  simp [idxOf_append_of_not_mem _ first, List.idxOf?_cons]

omit [DecidableEq α] in
theorem exists_last {s : List α} {c : α} (member : c ∈ s) : ∃ a b, s = a ++ c :: b ∧ c ∉ b := by
  obtain ⟨b, a, shape, first⟩ := List.eq_append_cons_of_mem (List.mem_reverse.2 member)
  refine ⟨a.reverse, b.reverse, ?_, by simpa using first⟩
  rw [← List.reverse_reverse s, shape]
  simp

omit [DecidableEq α] in
/-- Texts that agree up to and behind their first `c` agree on both sides of it. -/
theorem append_stop_inj {a b x y : List α} {c : α} (first : c ∉ a) (first' : c ∉ b)
    (same : a ++ c :: x = b ++ c :: y) : a = b ∧ x = y := by
  induction a generalizing b with
  | nil =>
    cases b with
    | nil => exact ⟨rfl, by simpa using same⟩
    | cons d b =>
      simp only [List.nil_append, List.cons_append, List.cons.injEq] at same
      simp [same.1] at first'
  | cons d a ih =>
    cases b with
    | nil =>
      simp only [List.nil_append, List.cons_append, List.cons.injEq] at same
      simp [same.1] at first
    | cons e b =>
      simp only [List.cons_append, List.cons.injEq] at same
      rw [List.mem_cons, not_or] at first first'
      obtain ⟨rfl, rfl⟩ := ih first.2 first'.2 same.2
      exact ⟨by rw [same.1], rfl⟩

theorem findLastOf_append (a : List α) {b : List α} {c : α} (last : c ∉ b) :
    findLastOf (a ++ c :: b) c = some a.length := by
  have reversed : (a ++ c :: b).reverse = b.reverse ++ c :: a.reverse := by simp
  rw [findLastOf, reversed, idxOf_append_stop _ (by simpa using last)]
  simp only [Option.map_some, List.length_append, List.length_cons, List.length_reverse]
  congr 1
  omega

/-- Cutting behind the last `c`. -/
theorem take_findLastOf (a : List α) {b : List α} {c : α} (last : c ∉ b) :
    (a ++ c :: b).take ((findLastOf (a ++ c :: b) c).elim 0 (· + 1)) = a ++ [c] := by
  rw [findLastOf_append a last]
  simp [List.take_length_add_append]

/-- Splitting on `c` loses no other element. -/
theorem mem_splitOn {s : List α} {c d : α} (member : d ∈ s) :
    d = c ∨ ∃ part ∈ s.splitOn c, d ∈ part := by
  induction s with
  | nil => cases member
  | cons e s ih =>
    rw [List.splitOn_cons_eq_if_modifyHead]
    by_cases stop : e = c
    · simp only [stop, beq_self_eq_true, if_true, List.mem_cons] at member ⊢
      obtain here | member := member
      · exact .inl here
      · obtain here | ⟨part, inside, found⟩ := ih member
        · exact .inl here
        · exact .inr ⟨part, .inr inside, found⟩
    · rw [if_neg (by simpa using stop)]
      obtain ⟨first, parts, shape⟩ := List.exists_cons_of_ne_nil (List.splitOn_ne_nil c s)
      rw [shape] at ih ⊢
      obtain here | member := List.mem_cons.1 member
      · exact .inr ⟨e :: first, by simp, by simp [here]⟩
      · obtain here | ⟨part, inside, found⟩ := ih member
        · exact .inl here
        · obtain rfl | inside := List.mem_cons.1 inside
          · exact .inr ⟨e :: part, by simp, by simp [found]⟩
          · exact .inr ⟨part, by simp [inside], found⟩

end SkaiEdge.Lib.Text
