import SkaiEdge.WebRtc.SeiResultSelector

/-!
# Where every detection result goes

`Ledger` follows each added result by its number: it was handed out by one `take_for`, it was
dropped, or it is pending. Both operations keep it, so it holds over every run of calls;
`selector_conserves` is what a caller may conclude from it and from the rules of one SEI.
-/

namespace SkaiEdge.WebRtc

open SkaiEdge.Lib
open scoped List

variable {D : Type}

/-- Of the results `added`, those in `taken` were attached, the pending ones wait, and the
others were dropped; each is counted where it went. -/
structure Ledger (s : SeiResultSelector D) (added : List (SeiSourceResult D))
    (taken : List (Stamped (SeiSourceResult D))) : Prop where
  attached : s.stats.resultsAttached = taken.length
  balance : ∃ lost, s.stats.resultsDropped = lost.length ∧
    positions added ~ taken ++ lost ++ s.pending

namespace Ledger

variable {s : SeiResultSelector D} {added : List (SeiSourceResult D)}
  {taken : List (Stamped (SeiSourceResult D))}

theorem start (maxPending : Nat) :
    Ledger (SeiResultSelector.create maxPending : SeiResultSelector D) [] [] :=
  ⟨rfl, [], rfl, .refl _⟩

theorem add (ledger : Ledger s added taken) (result : SeiSourceResult D) :
    Ledger (s.add ⟨added.length, result⟩) (added ++ [result]) taken := by
  obtain ⟨lost, dropped, perm⟩ := ledger.balance
  obtain ⟨gone, moved, more⟩ := s.add_spec ⟨added.length, result⟩
  refine ⟨ledger.attached, lost ++ gone, by rw [more, dropped, List.length_append], ?_⟩
  rw [positions_snoc]
  calc positions added ++ [⟨added.length, result⟩]
    _ ~ taken ++ lost ++ s.pending ++ [⟨added.length, result⟩] := perm.append_right _
    _ = taken ++ lost ++ (s.pending ++ [⟨added.length, result⟩]) := List.append_assoc ..
    _ ~ taken ++ lost ++ (gone ++ (s.add ⟨added.length, result⟩).pending) := moved.append_left _
    _ = taken ++ (lost ++ gone) ++ (s.add ⟨added.length, result⟩).pending := by simp

theorem takeFor [Double D] (ledger : Ledger s added taken) (attachPtsNs attachGeneration : UInt64) :
    Ledger (s.takeFor attachPtsNs attachGeneration).2 added
      (taken ++ (s.takeFor attachPtsNs attachGeneration).1.sources) := by
  obtain ⟨lost, dropped, perm⟩ := ledger.balance
  obtain ⟨_, _, attached, gone, moved, more⟩ := s.takeFor_spec attachPtsNs attachGeneration
  refine ⟨by rw [attached, ledger.attached, List.length_append], lost ++ gone,
    by rw [more, dropped, List.length_append], ?_⟩
  generalize (s.takeFor attachPtsNs attachGeneration).1.sources = now at moved ⊢
  generalize (s.takeFor attachPtsNs attachGeneration).2.pending = pending at moved ⊢
  calc positions added
    _ ~ taken ++ lost ++ s.pending := perm
    _ ~ taken ++ lost ++ (now ++ gone ++ pending) := moved.append_left _
    _ = taken ++ (lost ++ now) ++ gone ++ pending := by simp
    _ ~ taken ++ (now ++ lost) ++ gone ++ pending :=
      ((List.perm_append_comm.append_left taken).append_right gone).append_right pending
    _ = taken ++ now ++ (lost ++ gone) ++ pending := by simp

theorem conserved (ledger : Ledger s added taken) :
    added.length = s.stats.resultsAttached + s.stats.resultsDropped + s.pending.length := by
  obtain ⟨lost, dropped, perm⟩ := ledger.balance
  have length := perm.length_eq
  simp only [positions_length, List.length_append] at length
  rw [ledger.attached, dropped, length]

/-- No result was attached twice, and none that was attached is still pending. -/
theorem distinct (ledger : Ledger s added taken) :
    ((taken ++ s.pending).map Stamped.stamp).Nodup := by
  obtain ⟨lost, _, perm⟩ := ledger.balance
  have nodup := ((perm.map Stamped.stamp).nodup_iff).1 (positions_distinct added)
  refine nodup.sublist (List.Sublist.map _ ?_)
  exact (List.sublist_append_left taken lost).append_right _

theorem recorded (ledger : Ledger s added taken) : Recorded added (taken ++ s.pending) := by
  obtain ⟨lost, _, perm⟩ := ledger.balance
  refine (positions_recorded added).subset fun u member => perm.mem_iff.2 ?_
  simp only [List.mem_append] at member ⊢
  tauto

end Ledger

/-! ## Runs of calls -/

inductive SelectorCall (D : Type) where
  | add (result : SeiSourceResult D)
  | takeFor (attachPtsNs attachGeneration : UInt64)
  deriving DecidableEq, Repr

/-- What one `take_for` was asked for and what it handed out. -/
structure Attachment (D : Type) where
  attachPtsNs : UInt64
  attachGeneration : UInt64
  taken : Taken D
  deriving DecidableEq, Repr

/-- A selector with the results added to it and the answers of its `take_for` calls. -/
structure SelectorRun (D : Type) where
  selector : SeiResultSelector D
  added : List (SeiSourceResult D)
  attachments : List (Attachment D)

/-- The results attached so far. -/
def SelectorRun.attached (t : SelectorRun D) : List (Stamped (SeiSourceResult D)) :=
  t.attachments.flatMap fun attachment => attachment.taken.sources

variable [Double D]

def SelectorRun.call (t : SelectorRun D) : SelectorCall D → SelectorRun D
  | .add result =>
    { t with
      selector := t.selector.add ⟨t.added.length, result⟩
      added := t.added ++ [result] }
  | .takeFor attachPtsNs attachGeneration =>
    { t with
      selector := (t.selector.takeFor attachPtsNs attachGeneration).2
      attachments := t.attachments ++ [⟨attachPtsNs, attachGeneration,
        (t.selector.takeFor attachPtsNs attachGeneration).1⟩] }

/-- A new selector after the calls. -/
def selectorRun (maxPending : Nat) (calls : List (SelectorCall D)) : SelectorRun D :=
  calls.foldl SelectorRun.call ⟨.create maxPending, [], []⟩

/-- What every run keeps. -/
structure SelectorRun.Inv (maxPending : Nat) (t : SelectorRun D) : Prop where
  ledger : Ledger t.selector t.added t.attached
  limit : t.selector.maxPending = maxPending
  attaches : ∀ a ∈ t.attachments, Attaches a.attachPtsNs a.attachGeneration a.taken

theorem SelectorRun.Inv.call {maxPending : Nat} {t : SelectorRun D} (inv : t.Inv maxPending)
    (c : SelectorCall D) : (t.call c).Inv maxPending := by
  cases c with
  | add result => exact ⟨inv.ledger.add result, inv.limit, inv.attaches⟩
  | takeFor attachPtsNs attachGeneration =>
    obtain ⟨rules, _⟩ := t.selector.takeFor_spec attachPtsNs attachGeneration
    constructor
    · have := inv.ledger.takeFor attachPtsNs attachGeneration
      simpa [SelectorRun.call, SelectorRun.attached] using this
    · rw [← inv.limit]
      simp only [SelectorRun.call, SeiResultSelector.takeFor]
      split <;> rfl
    · intro a member
      rcases List.mem_append.1 member with old | new
      · exact inv.attaches a old
      · rw [List.mem_singleton.1 new]
        exact rules

theorem selectorRun_inv (maxPending : Nat) (calls : List (SelectorCall D)) :
    (selectorRun maxPending calls).Inv maxPending := by
  unfold selectorRun
  induction calls using List.reverseRecOn with
  | nil => exact ⟨.start maxPending, rfl, by simp⟩
  | append_singleton calls c ih =>
    rw [List.foldl_append]
    exact ih.call c

/-- A 90 kHz tick in nanoseconds. -/
def tickNs : ℚ := 100000 / 9

omit [Double D] in
/-- The ticks of a due result are its rounded distance to the unit. -/
theorem Encodes.rounded {attachPtsNs attachGeneration : UInt64}
    {source : Stamped (SeiSourceResult D)} {result : SeiResult D}
    (encodes : Encodes attachPtsNs source result)
    (due : place attachPtsNs attachGeneration source.val = .due) :
    (result.dt.toNat : ℤ) =
      round (((attachPtsNs.toNat : ℚ) - source.val.sourcePtsNs.toNat) * 9 / 100000) := by
  obtain ⟨_, past, window⟩ := place_due.1 due
  obtain ⟨dt, ticks, exact_⟩ := seiDtTicks_window past window
  have same : result.dt = dt := by rw [encodes.1, ticks, Option.getD_some]
  rw [← Nat.cast_sub (UInt64.le_iff_toNat_le.1 past), round_ticks, same, exact_]

/-- A distance of whole ticks, rounded, misses by at most half a tick. -/
theorem recovers_source {attach source : ℚ} {dt : ℤ}
    (rounded : dt = round ((attach - source) * 9 / 100000)) :
    |attach - dt * tickNs - source| ≤ tickNs / 2 := by
  have near := abs_sub_round ((attach - source) * 9 / 100000)
  rw [← rounded] at near
  have scaled : attach - dt * tickNs - source =
      ((attach - source) * 9 / 100000 - dt) * tickNs := by
    unfold tickNs
    ring
  have positive : (0 : ℚ) < tickNs := by norm_num [tickNs]
  rw [scaled, abs_mul, abs_of_pos positive]
  calc |(attach - source) * 9 / 100000 - dt| * tickNs
    _ ≤ 1 / 2 * tickNs := mul_le_mul_of_nonneg_right near positive.le
    _ = tickNs / 2 := by ring

/-- **Conservation and placement.** After every run of calls the added results are those
attached, those dropped and those pending, and no more than `max_pending` wait. The results
handed out by `take_for` calls are distinct added results, which no longer wait. Each was handed
out for a unit of its own generation at most one second after its source, in ascending order of
source PTS, with a `dt` that is the rounded distance and recovers the source PTS within half a
tick. A later `take_for` leaves every result of a newer generation pending. -/
theorem selector_conserves (maxPending : Nat) (calls : List (SelectorCall D)) :
    let t := selectorRun maxPending calls
    t.added.length = t.selector.stats.resultsAttached + t.selector.stats.resultsDropped +
        t.selector.pending.length ∧
      t.selector.pending.length ≤ maxPending ∧
      t.selector.stats.resultsAttached = t.attached.length ∧
      ((t.attached ++ t.selector.pending).map Stamped.stamp).Nodup ∧
      (∀ r ∈ t.attached ++ t.selector.pending, t.added[r.stamp]? = some r.val) ∧
      (∀ a ∈ t.attachments,
        (∀ r ∈ a.taken.sources, r.val.sourceGeneration = a.attachGeneration ∧
          r.val.sourcePtsNs.toNat ≤ a.attachPtsNs.toNat ∧
          a.attachPtsNs.toNat ≤ r.val.sourcePtsNs.toNat + 1000000000) ∧
        a.taken.sources.Pairwise (fun r r' => r.val.sourcePtsNs ≤ r'.val.sourcePtsNs) ∧
        a.taken.nal = (if a.taken.sources = [] then [] else encodeResults a.taken.results) ∧
        List.Forall₂ (fun r result =>
          (result.dt.toNat : ℤ) =
            round (((a.attachPtsNs.toNat : ℚ) - r.val.sourcePtsNs.toNat) * 9 / 100000) ∧
          |(a.attachPtsNs.toNat : ℚ) - result.dt.toNat * tickNs - r.val.sourcePtsNs.toNat| ≤
            tickNs / 2 ∧
          result.boxes.Subperm r.val.boxes) a.taken.sources a.taken.results) ∧
      (∀ attachPtsNs attachGeneration, ∀ r ∈ t.selector.pending,
        r.val.sourceGeneration > attachGeneration →
        r ∈ (t.selector.takeFor attachPtsNs attachGeneration).2.pending) := by
  intro t
  have inv := selectorRun_inv maxPending calls
  refine ⟨inv.ledger.conserved, inv.limit ▸ t.selector.bounded, inv.ledger.attached,
    inv.ledger.distinct, inv.ledger.recorded, ?_, ?_⟩
  · intro a member
    have rules := inv.attaches a member
    refine ⟨fun r source => ?_, rules.ascending, rules.nal, ?_⟩
    · obtain ⟨same, past, window⟩ := place_due.1 (rules.due r source)
      have past := UInt64.le_iff_toNat_le.1 past
      exact ⟨same, past, by omega⟩
    · refine ((List.forall₂_and_left _ _).2 ⟨rules.due, rules.encodes⟩).imp ?_
      rintro r result ⟨due, encodes⟩
      have rounded := encodes.rounded due
      have recovered := recovers_source rounded
      exact ⟨rounded, by simpa using recovered, encodes.2⟩
  · intro attachPtsNs attachGeneration r pending newer
    obtain ⟨_, stays, _⟩ := t.selector.takeFor_spec attachPtsNs attachGeneration
    rw [stays]
    refine List.mem_filter.2 ⟨pending, ?_⟩
    simp [place, newer]

end SkaiEdge.WebRtc
