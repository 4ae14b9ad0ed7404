import SkaiEdge.Lib.Stream
import SkaiEdge.Lib.Runs
import SkaiEdge.WebRtc.DetectionSei

/-!
# `SeiResultSelector` (`src/webrtc/detection_sei.cpp`)

Results wait here for the next access unit WHIP sends. A pending result carries the number of
the `add` call that brought it (`Stamped`), so that one result can be followed from its `add`
to the SEI that carries it. The counters are unbounded here.
-/

namespace SkaiEdge.WebRtc

open SkaiEdge.Lib

/-- One inference result waiting for a WHIP access unit. -/
structure SeiSourceResult (D : Type) where
  sourcePtsNs : UInt64
  sourceGeneration : UInt64
  boxes : List (SeiBox D)
  deriving DecidableEq, Repr

structure SeiUplinkStats where
  seiUnits : Nat := 0
  resultsAttached : Nat := 0
  resultsDropped : Nat := 0
  boxesDropped : Nat := 0
  deriving DecidableEq, Repr

def maxDetectionSeiBytes : Nat := 1024

def resultWindowNs : UInt64 := 1000000000

def recentDtSamples : Nat := 4096

/-- No operation leaves more than `maxPending` results pending. -/
structure SeiResultSelector (D : Type) where
  maxPending : Nat
  pending : List (Stamped (SeiSourceResult D))
  bounded : pending.length ≤ maxPending
  recentDt : List UInt32
  nextDt : Nat
  stats : SeiUplinkStats

/-- Where one round of `take_for` puts a pending result. -/
inductive Place where
  | later
  | dropped
  | due
  deriving DecidableEq, Repr

/-- The branches of the first loop of `take_for`. -/
def place {D : Type} (attachPtsNs attachGeneration : UInt64) (result : SeiSourceResult D) : Place :=
  if result.sourceGeneration > attachGeneration then .later
  else if result.sourceGeneration < attachGeneration ∨ result.sourcePtsNs > attachPtsNs ∨
      attachPtsNs - result.sourcePtsNs > resultWindowNs then .dropped
  else .due

/-- `std::tie(source_generation, source_pts_ns)`, compared with `<`. -/
def older {D : Type} (a b : SeiSourceResult D) : Bool :=
  a.sourceGeneration < b.sourceGeneration ||
    (a.sourceGeneration = b.sourceGeneration && a.sourcePtsNs < b.sourcePtsNs)

/-- `std::min_element` from index `i` on, with the smallest so far and its index. -/
def minElement {D : Type} (smallest : SeiSourceResult D) (found i : Nat) :
    List (Stamped (SeiSourceResult D)) → Nat
  | [] => found
  | result :: rest =>
    if older result.val smallest then minElement result.val i (i + 1) rest
    else minElement smallest found (i + 1) rest

/-- The index of the oldest pending result. -/
def oldest {D : Type} : List (Stamped (SeiSourceResult D)) → Nat
  | [] => 0
  | first :: rest => minElement first.val 0 1 rest

/-- What one `take_for` hands out: the SEI for the unit about to be sent, empty when none is
due, the results encoded in it and the pending results they came from. -/
structure Taken (D : Type) where
  sources : List (Stamped (SeiSourceResult D))
  results : List (SeiResult D)
  nal : List UInt8
  deriving DecidableEq, Repr

def Taken.nothing {D : Type} : Taken D := ⟨[], [], []⟩

def seiResult {D : Type} (attachPtsNs : UInt64) (source : Stamped (SeiSourceResult D)) :
    SeiResult D :=
  ⟨(seiDtTicks attachPtsNs source.val.sourcePtsNs).getD 0, source.val.boxes⟩

section Fitting

variable {D : Type} [Double D]

/-- The loop that drops the oldest results while the SEI is too large. -/
def dropOldest : List (SeiResult D) → List (SeiResult D)
  | first :: second :: rest =>
    if (encodeResults (first :: second :: rest)).length > maxDetectionSeiBytes
    then dropOldest (second :: rest)
    else first :: second :: rest
  | results => results

/-- The binary search for the number of boxes that fit. -/
def fittingBoxes (front : SeiResult D) (rest : List (SeiResult D)) (boxes : List (SeiBox D))
    (fits tooMany : Nat) : Nat :=
  if fits + 1 < tooMany then
    let count := (fits + tooMany) / 2
    if (encodeResults ({ front with boxes := boxes.take count } :: rest)).length ≤
        maxDetectionSeiBytes
    then fittingBoxes front rest boxes count tooMany
    else fittingBoxes front rest boxes fits count
  else fits
termination_by tooMany - fits

/-- The newest result alone is too large: keep its highest-score boxes. Answers the number of
boxes dropped, too. -/
def fitFront : List (SeiResult D) → List (SeiResult D) × Nat
  | [] => ([], 0)
  | front :: rest =>
    if (encodeResults (front :: rest)).length > maxDetectionSeiBytes then
      let boxes := front.boxes.mergeSort fun a b => !Double.greater b.score a.score
      let fits := fittingBoxes front rest boxes 0 boxes.length
      ({ front with boxes := boxes.take fits } :: rest, boxes.length - fits)
    else (front :: rest, 0)

/-- One sample into the ring of recent `dt` values. -/
def remember (ring : List UInt32 × Nat) (result : SeiResult D) : List UInt32 × Nat :=
  if ring.1.length < recentDtSamples then (ring.1 ++ [result.dt], ring.2)
  else (ring.1.set ring.2 result.dt, (ring.2 + 1) % recentDtSamples)

end Fitting

namespace SeiResultSelector

variable {D : Type}

def create (maxPending : Nat) : SeiResultSelector D :=
  ⟨maxPending, [], Nat.zero_le _, [], 0, {}⟩

theorem minElement_lt (smallest : SeiSourceResult D) {found i : Nat}
    (rest : List (Stamped (SeiSourceResult D))) (earlier : found < i) :
    minElement smallest found i rest < i + rest.length := by
  induction rest generalizing smallest found i with
  | nil => simpa [minElement] using earlier
  | cons result rest ih =>
    unfold minElement
    have step : i + 1 + rest.length = i + (result :: rest).length := by
      rw [List.length_cons]
      omega
    split
    · exact (ih result.val (by omega)).trans_eq step
    · exact (ih smallest (by omega)).trans_eq step

theorem oldest_lt {pending : List (Stamped (SeiSourceResult D))} (nonempty : pending ≠ []) :
    oldest pending < pending.length := by
  cases pending with
  | nil => exact absurd rfl nonempty
  | cons first rest =>
    have bound := minElement_lt first.val rest (Nat.zero_lt_one)
    rw [Nat.add_comm] at bound
    exact bound

/-- `pending_` after `push_back` and the `erase` of the oldest that an overflow asks for. -/
def addPending (maxPending : Nat) (pending : List (Stamped (SeiSourceResult D)))
    (result : Stamped (SeiSourceResult D)) : List (Stamped (SeiSourceResult D)) :=
  if (pending ++ [result]).length > maxPending
  then (pending ++ [result]).eraseIdx (oldest (pending ++ [result]))
  else pending ++ [result]

theorem addPending_length (maxPending : Nat) (pending : List (Stamped (SeiSourceResult D)))
    (result : Stamped (SeiSourceResult D)) :
    (addPending maxPending pending result).length +
      (if pending.length + 1 > maxPending then 1 else 0) = pending.length + 1 := by
  have inside := oldest_lt (show pending ++ [result] ≠ [] by simp)
  have size : (pending ++ [result]).length = pending.length + 1 := by simp
  unfold addPending
  rw [size]
  split
  · rw [List.length_eraseIdx_of_lt inside, size]
    omega
  · rw [size]

theorem addPending_bounded {maxPending : Nat} {pending : List (Stamped (SeiSourceResult D))}
    (result : Stamped (SeiSourceResult D)) (bounded : pending.length ≤ maxPending) :
    (addPending maxPending pending result).length ≤ maxPending := by
  have length := addPending_length maxPending pending result
  split at length <;> omega

def add (s : SeiResultSelector D) (result : Stamped (SeiSourceResult D)) : SeiResultSelector D :=
  { s with
    pending := addPending s.maxPending s.pending result
    bounded := addPending_bounded result s.bounded
    stats := { s.stats with
      resultsDropped := s.stats.resultsDropped +
        if s.pending.length + 1 > s.maxPending then 1 else 0 } }

/-- The pending results that one round of `take_for` puts in a place. -/
def placed (s : SeiResultSelector D) (attachPtsNs attachGeneration : UInt64) (spot : Place) :
    List (Stamped (SeiSourceResult D)) :=
  s.pending.filter fun result => place attachPtsNs attachGeneration result.val = spot

theorem placed_bounded (s : SeiResultSelector D) (attachPtsNs attachGeneration : UInt64)
    (spot : Place) : (s.placed attachPtsNs attachGeneration spot).length ≤ s.maxPending :=
  (List.length_filter_le _ _).trans s.bounded

variable [Double D]

/-- The SEI NAL for the unit about to be sent. -/
def takeFor (s : SeiResultSelector D) (attachPtsNs attachGeneration : UInt64) :
    Taken D × SeiResultSelector D :=
  let stale := (s.placed attachPtsNs attachGeneration .dropped).length
  let kept := { s with
    pending := s.placed attachPtsNs attachGeneration .later
    bounded := s.placed_bounded attachPtsNs attachGeneration .later }
  let due := s.placed attachPtsNs attachGeneration .due
  if due.isEmpty then
    (.nothing, { kept with stats := { s.stats with
      resultsDropped := s.stats.resultsDropped + stale } })
  else
    let due := due.mergeSort fun a b => a.val.sourcePtsNs ≤ b.val.sourcePtsNs
    let fitting := dropOldest (due.map (seiResult attachPtsNs))
    let (results, boxes) := fitFront fitting
    let (recentDt, nextDt) := results.foldl remember (s.recentDt, s.nextDt)
    (⟨due.drop (due.length - results.length), results, encodeResults results⟩,
      { kept with
        recentDt := recentDt
        nextDt := nextDt
        stats := {
          seiUnits := s.stats.seiUnits + 1
          resultsAttached := s.stats.resultsAttached + results.length
          resultsDropped := s.stats.resultsDropped + stale + (due.length - fitting.length)
          boxesDropped := s.stats.boxesDropped + boxes } })

end SeiResultSelector

/-! ## What one call does -/

/-- `round((attach - source) * 9 / 100000)` in exact arithmetic is the division of the code. -/
theorem round_ticks (elapsed : Nat) :
    round ((elapsed : ℚ) * 9 / 100000) = ((elapsed * 9 + 50000) / 100000 : Nat) := by
  rw [round_eq]
  have shifted : (elapsed : ℚ) * 9 / 100000 + 1 / 2 =
      ((elapsed * 9 + 50000 : Nat) : ℚ) / (100000 : Nat) := by
    push_cast
    ring
  rw [shifted, Rat.floor_natCast_div_natCast]
  norm_cast

/-- In the window of one second the ticks are exact: no step of the computation wraps. -/
theorem seiDtTicks_window {attachPtsNs sourcePtsNs : UInt64} (past : sourcePtsNs ≤ attachPtsNs)
    (window : attachPtsNs.toNat - sourcePtsNs.toNat ≤ 1000000000) :
    ∃ dt, seiDtTicks attachPtsNs sourcePtsNs = some dt ∧
      dt.toNat = ((attachPtsNs.toNat - sourcePtsNs.toNat) * 9 + 50000) / 100000 := by
  have notNewer : ¬ sourcePtsNs > attachPtsNs := UInt64.not_lt.2 past
  refine ⟨_, by rw [seiDtTicks, if_neg notNewer], ?_⟩
  simp only [UInt64.toNat_toUInt32, UInt64.toNat_div, UInt64.toNat_add, UInt64.toNat_mul,
    UInt64.toNat_sub_of_le _ _ past, UInt64.reduceToNat]
  generalize attachPtsNs.toNat - sourcePtsNs.toNat = elapsed at window ⊢
  rw [Nat.mod_eq_of_lt (show elapsed * 9 < 2 ^ 64 by omega),
    Nat.mod_eq_of_lt (show elapsed * 9 + 50000 < 2 ^ 64 by omega),
    Nat.mod_eq_of_lt (show (elapsed * 9 + 50000) / 100000 < 2 ^ 32 by omega)]

theorem place_due {D : Type} {attachPtsNs attachGeneration : UInt64} {result : SeiSourceResult D} :
    place attachPtsNs attachGeneration result = .due ↔
      result.sourceGeneration = attachGeneration ∧ result.sourcePtsNs ≤ attachPtsNs ∧
        attachPtsNs.toNat - result.sourcePtsNs.toNat ≤ 1000000000 := by
  unfold place
  by_cases newer : result.sourceGeneration > attachGeneration
  · rw [if_pos newer]
    refine ⟨nofun, fun ⟨same, _⟩ => ?_⟩
    rw [same] at newer
    exact absurd newer (UInt64.lt_irrefl _)
  · rw [if_neg newer]
    constructor
    · intro due
      split at due
      · cases due
      · next fresh =>
        simp only [not_or, gt_iff_lt, UInt64.not_lt] at fresh newer
        obtain ⟨current, past, window⟩ := fresh
        refine ⟨UInt64.le_antisymm newer current, past, ?_⟩
        rw [← UInt64.toNat_sub_of_le _ _ past]
        exact UInt64.le_iff_toNat_le.1 window
    · rintro ⟨rfl, past, window⟩
      rw [← UInt64.toNat_sub_of_le _ _ past] at window
      have inside : attachPtsNs - result.sourcePtsNs ≤ resultWindowNs :=
        UInt64.le_iff_toNat_le.2 window
      rw [if_neg]
      simp only [not_or, gt_iff_lt, UInt64.not_lt]
      exact ⟨UInt64.le_refl _, past, inside⟩

section Call

variable {D : Type} [Double D]

theorem dropOldest_suffix (results : List (SeiResult D)) : dropOldest results <:+ results := by
  fun_induction dropOldest results with
  | case1 first second rest _ ih => exact ih.trans (List.suffix_cons _ _)
  | case2 => exact List.suffix_refl _
  | case3 => exact List.suffix_refl _

theorem dropOldest_ne_nil {results : List (SeiResult D)} (some : results ≠ []) :
    dropOldest results ≠ [] := by
  fun_induction dropOldest results with
  | case1 first second rest _ ih => exact ih (by simp)
  | case2 => simp
  | case3 => exact some

/-- What the SEI says of a source: its ticks before the unit, and its boxes or some of them. -/
def Encodes (attachPtsNs : UInt64) (source : Stamped (SeiSourceResult D)) (result : SeiResult D) :
    Prop :=
  result.dt = (seiDtTicks attachPtsNs source.val.sourcePtsNs).getD 0 ∧
    result.boxes.Subperm source.val.boxes

/-- Dropping boxes changes no `dt` and loses no result. -/
theorem fitFront_keeps (results : List (SeiResult D)) :
    List.Forall₂ (fun before after => after.dt = before.dt ∧ after.boxes.Subperm before.boxes)
      results (fitFront results).1 := by
  have same : ∀ rest : List (SeiResult D), List.Forall₂
      (fun before after => after.dt = before.dt ∧ after.boxes.Subperm before.boxes) rest rest :=
    fun rest => List.forall₂_same.2 fun result _ => ⟨rfl, List.Subperm.refl _⟩
  unfold fitFront
  split
  · exact .nil
  · next front rest =>
    split
    · refine .cons ⟨rfl, ?_⟩ (same rest)
      exact (List.take_sublist _ _).subperm.trans (List.mergeSort_perm _ _).subperm
    · exact same (front :: rest)

/-- The results that fit are those of the newest sources, in the same order. -/
theorem fitting_encodes (attachPtsNs : UInt64) (due : List (Stamped (SeiSourceResult D))) :
    let fitting := dropOldest (due.map (seiResult attachPtsNs))
    let results := (fitFront fitting).1
    results.length = fitting.length ∧ fitting.length ≤ due.length ∧
      List.Forall₂ (Encodes attachPtsNs) (due.drop (due.length - results.length)) results := by
  intro fitting results
  have kept := fitFront_keeps fitting
  have same : results.length = fitting.length := kept.length_eq.symm
  have suffix : fitting <:+ due.map (seiResult attachPtsNs) := dropOldest_suffix _
  have shorter : fitting.length ≤ due.length := by simpa using suffix.length_le
  have newest : fitting = (due.drop (due.length - results.length)).map (seiResult attachPtsNs) := by
    rw [same, List.map_drop]
    simpa using List.suffix_iff_eq_drop.1 suffix
  have mapped : List.Forall₂
      (fun before after => after.dt = before.dt ∧ after.boxes.Subperm before.boxes)
      ((due.drop (due.length - results.length)).map (seiResult attachPtsNs)) results := by
    rw [← newest]
    exact kept
  rw [List.forall₂_map_left_iff] at mapped
  exact ⟨same, shorter, mapped⟩

/-- The rules for one SEI: only due results, oldest first, with their ticks. -/
structure Attaches (attachPtsNs attachGeneration : UInt64) (taken : Taken D) : Prop where
  due : ∀ source ∈ taken.sources, place attachPtsNs attachGeneration source.val = .due
  ascending : taken.sources.Pairwise fun a b => a.val.sourcePtsNs ≤ b.val.sourcePtsNs
  encodes : List.Forall₂ (Encodes attachPtsNs) taken.sources taken.results
  nal : taken.nal = if taken.sources = [] then [] else encodeResults taken.results

namespace SeiResultSelector

omit [Double D] in
/-- What an `add` does: the pending results and the new one are pending or dropped. -/
theorem add_spec (s : SeiResultSelector D) (result : Stamped (SeiSourceResult D)) :
    ∃ lost, (s.pending ++ [result]).Perm (lost ++ (s.add result).pending) ∧
      (s.add result).stats.resultsDropped = s.stats.resultsDropped + lost.length := by
  have inside := oldest_lt (show s.pending ++ [result] ≠ [] by simp)
  by_cases overflow : s.pending.length + 1 > s.maxPending
  · refine ⟨[(s.pending ++ [result])[oldest (s.pending ++ [result])]], ?_, by simp [add, overflow]⟩
    have erased : (s.add result).pending =
        (s.pending ++ [result]).eraseIdx (oldest (s.pending ++ [result])) := by
      simp [add, addPending, overflow]
    rw [erased]
    exact (List.getElem_cons_eraseIdx_perm inside).symm
  · exact ⟨[], by simp [add, addPending, overflow], by simp [add, overflow]⟩

omit [Double D] in
/-- Every pending result goes to one place. -/
theorem placed_perm (s : SeiResultSelector D) (attachPtsNs attachGeneration : UInt64) :
    s.pending.Perm (s.placed attachPtsNs attachGeneration .due ++
      s.placed attachPtsNs attachGeneration .dropped ++
      s.placed attachPtsNs attachGeneration .later) := by
  unfold placed
  induction s.pending with
  | nil => rfl
  | cons result rest ih =>
    cases spot : place attachPtsNs attachGeneration result.val with
    | due => simpa [List.filter_cons, spot] using ih
    | dropped =>
      simp only [List.filter_cons, spot, decide_true, if_true, reduceCtorEq, decide_false,
        Bool.false_eq_true, if_false]
      refine (ih.cons result).trans ?_
      simp only [List.append_assoc, List.cons_append]
      exact List.perm_middle.symm
    | later =>
      simp only [List.filter_cons, spot, decide_true, if_true, reduceCtorEq, decide_false,
        Bool.false_eq_true, if_false]
      exact (ih.cons result).trans List.perm_middle.symm

/-- What a `take_for` does: each pending result is attached, dropped or stays pending; it stays
exactly if its generation is newer than the unit's. -/
theorem takeFor_spec (s : SeiResultSelector D) (attachPtsNs attachGeneration : UInt64) :
    Attaches attachPtsNs attachGeneration (s.takeFor attachPtsNs attachGeneration).1 ∧
      (s.takeFor attachPtsNs attachGeneration).2.pending =
        s.placed attachPtsNs attachGeneration .later ∧
      (s.takeFor attachPtsNs attachGeneration).2.stats.resultsAttached =
        s.stats.resultsAttached + (s.takeFor attachPtsNs attachGeneration).1.sources.length ∧
      ∃ lost, s.pending.Perm ((s.takeFor attachPtsNs attachGeneration).1.sources ++ lost ++
          (s.takeFor attachPtsNs attachGeneration).2.pending) ∧
        (s.takeFor attachPtsNs attachGeneration).2.stats.resultsDropped =
          s.stats.resultsDropped + lost.length := by
  have perm := s.placed_perm attachPtsNs attachGeneration
  by_cases none : (s.placed attachPtsNs attachGeneration .due).isEmpty
  · have empty := List.isEmpty_iff.1 none
    rw [empty, List.nil_append] at perm
    simp only [takeFor, none, if_true, Taken.nothing, List.length_nil, Nat.add_zero, true_and]
    refine ⟨⟨by simp, .nil, .nil, by simp⟩, _, perm, rfl⟩
  · set due := (s.placed attachPtsNs attachGeneration .due).mergeSort
      fun a b => a.val.sourcePtsNs ≤ b.val.sourcePtsNs with sorted
    have reordered : due.Perm (s.placed attachPtsNs attachGeneration .due) :=
      List.mergeSort_perm _ _
    obtain ⟨same, shorter, encodes⟩ := fitting_encodes attachPtsNs due
    set fitting := dropOldest (due.map (seiResult attachPtsNs)) with fits
    set results := (fitFront fitting).1 with encoded
    have size : (due.drop (due.length - results.length)).length = results.length := by
      rw [List.length_drop]
      omega
    simp only [takeFor, none, Bool.false_eq_true, if_false, true_and, ← sorted, ← fits, ← encoded]
    refine ⟨⟨?_, ?_, encodes, ?_⟩, by rw [size], ?_⟩
    · intro source member
      have pending := reordered.mem_iff.1 (List.mem_of_mem_drop member)
      simpa using (List.mem_filter.1 pending).2
    · have ordered : due.Pairwise fun a b => decide (a.val.sourcePtsNs ≤ b.val.sourcePtsNs) := by
        apply List.pairwise_mergeSort
        · intro a b c
          simpa using UInt64.le_trans
        · intro a b
          simpa using UInt64.le_total _ _
      simp only [decide_eq_true_eq] at ordered
      exact ordered.sublist (List.drop_sublist _ _)
    · have some : due ≠ [] := by
        intro empty
        rw [empty] at reordered
        exact none (List.isEmpty_iff.2 reordered.symm.eq_nil)
      have kept : fitting ≠ [] := dropOldest_ne_nil (by simpa using some)
      have attached : due.drop (due.length - results.length) ≠ [] := by
        rw [← List.length_pos_iff, size, same]
        exact List.length_pos_iff.2 kept
      rw [if_neg attached]
    · refine ⟨due.take (due.length - results.length) ++
        s.placed attachPtsNs attachGeneration .dropped, ?_, ?_⟩
      · refine perm.trans ?_
        rw [← List.append_assoc]
        refine (List.Perm.append_right _ (reordered.symm.trans ?_)).append_right _
        conv_lhs => rw [← List.take_append_drop (due.length - results.length) due]
        exact List.perm_append_comm
      · rw [List.length_append, List.length_take, same]
        omega

end SeiResultSelector

end Call

end SkaiEdge.WebRtc
