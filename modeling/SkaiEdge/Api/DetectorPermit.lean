import SkaiEdge.Lib.InPlace
import SkaiEdge.Api.ApiState

/-!
# The detector permit protocol

A permit is as good as the generation it was taken in: every call that renews the generation
makes the permits taken before it worthless, also when the detector is on again by the time the
inference ends. `Valid` says this of the log alone; `permit_protocol` is what a reader of the
system may rely on.
-/

namespace SkaiEdge.Api

open SkaiEdge.Lib

variable {F D : Type} {log : List (Entry F D)} {e : Entry F D}

/-- `detector_enabled_` after one more entry. -/
def Entry.flag (enabled : Bool) : Entry F D → Bool
  | .call enabled => enabled
  | _ => enabled

/-- `detector_enabled_` as the calls in the log leave it; the detector starts enabled. -/
def enabledAfter (log : List (Entry F D)) : Bool := log.foldl Entry.flag true

/-- The permit at position `p` is good: the detector is enabled and no call came since. -/
structure Granted (log : List (Entry F D)) (p : Nat) : Prop where
  permit : log[p]? = some .permit
  enabled : enabledAfter log = true
  current : ∀ k b, p < k → log[k]? ≠ some (.call b)

/-- Behind position `i` there are an enabling call, a permit and a commit with that permit. -/
def Renewed (log : List (Entry F D)) (i : Nat) : Prop :=
  ∃ k₁ k₂ k₃, i < k₁ ∧ k₁ < k₂ ∧ k₂ < k₃ ∧ log[k₁]? = some (.call true) ∧
    log[k₂]? = some .permit ∧ log[k₃]? = some (.commit k₂)

/-- Every disabling call is followed by an enabling call, a permit and its commit. -/
def Fresh (log : List (Entry F D)) : Prop := ∀ i, log[i]? = some (.call false) → Renewed log i

/-- What took effect had a good permit, and effects come only when the log is fresh. -/
structure Valid (log : List (Entry F D)) : Prop where
  effective : ∀ j p, log[j]? = some (.commit p) ∨ log[j]? = some (.invalidate p) →
    Granted (log.take j) p
  quiet : ∀ j e, log[j]? = some (.effect e) → Fresh (log.take j)

@[simp] theorem enabledAfter_snoc (log : List (Entry F D)) (e : Entry F D) :
    enabledAfter (log ++ [e]) = e.flag (enabledAfter log) := by
  simp [enabledAfter]

theorem Renewed.append {i : Nat} (renewed : Renewed log i) (more : List (Entry F D)) :
    Renewed (log ++ more) i := by
  obtain ⟨k₁, k₂, k₃, after, next, last, call, permit, commit⟩ := renewed
  exact ⟨k₁, k₂, k₃, after, next, last, getElem_kept more call, getElem_kept more permit,
    getElem_kept more commit⟩

theorem Fresh.snoc (fresh : Fresh log) (other : e ≠ .call false) : Fresh (log ++ [e]) := by
  intro i found
  rcases getElem_snoc found with old | ⟨_, same⟩
  · exact (fresh i old).append [e]
  · exact absurd same other

/-- While the detector is enabled, every disabling call has an enabling one behind it. -/
theorem enabling_call {i : Nat} (enabled : enabledAfter log = true)
    (disabled : log[i]? = some (.call false)) : ∃ k, i < k ∧ log[k]? = some (.call true) := by
  induction log using List.reverseRecOn with
  | nil => simp at disabled
  | append_singleton log e ih =>
    rw [enabledAfter_snoc] at enabled
    rcases getElem_snoc disabled with old | ⟨_, rfl⟩
    · cases e with
      | call b =>
        obtain rfl : b = true := enabled
        exact ⟨log.length, (List.getElem?_eq_some_iff.1 old).1, by simp⟩
      | permit | commit | invalidate | effect =>
        obtain ⟨k, after, call⟩ := ih enabled old
        exact ⟨k, after, getElem_kept _ call⟩
    · cases enabled

/-- A commit with a good permit makes the log fresh. -/
theorem Granted.fresh {p : Nat} (granted : Granted log p) : Fresh (log ++ [.commit p]) := by
  intro i found
  rcases getElem_snoc found with old | ⟨_, same⟩
  · obtain ⟨k, after, call⟩ := enabling_call granted.enabled old
    have before : k < p := by
      by_contra late
      rcases Nat.lt_or_eq_of_le (Nat.le_of_not_lt late) with more | rfl
      · exact granted.current k true more call
      · rw [granted.permit] at call
        cases call
    refine ⟨k, p, log.length, after, before, (List.getElem?_eq_some_iff.1 granted.permit).1,
      getElem_kept _ call, getElem_kept _ granted.permit, by simp⟩
  · cases same

/-- One more entry keeps the log valid if the log allows it there. -/
theorem Valid.snoc (valid : Valid log)
    (effective : ∀ p, e = .commit p ∨ e = .invalidate p → Granted log p)
    (quiet : ∀ x, e = .effect x → Fresh log) : Valid (log ++ [e]) := by
  have cut : ∀ {j : Nat} {x : Entry F D}, log[j]? = some x → (log ++ [e]).take j = log.take j := by
    intro j x found
    exact List.take_append_of_le_length (Nat.le_of_lt (List.getElem?_eq_some_iff.1 found).1)
  constructor
  · intro j p found
    rcases found with found | found
    · rcases getElem_snoc found with old | ⟨rfl, same⟩
      · rw [cut old]
        exact valid.effective j p (.inl old)
      · rw [List.take_left]
        exact effective p (.inl same)
    · rcases getElem_snoc found with old | ⟨rfl, same⟩
      · rw [cut old]
        exact valid.effective j p (.inr old)
      · rw [List.take_left]
        exact effective p (.inr same)
  · intro j x found
    rcases getElem_snoc found with old | ⟨rfl, same⟩
    · rw [cut old]
      exact valid.quiet j x old
    · rw [List.take_left]
      exact quiet x same

/-- Effects of one callback. -/
theorem Valid.effects (valid : Valid log) (fresh : Fresh log) (effects : List (Effect F D)) :
    Valid (log ++ effects.map .effect) ∧ Fresh (log ++ effects.map .effect) ∧
      enabledAfter (log ++ effects.map .effect) = enabledAfter log := by
  induction effects using List.reverseRecOn with
  | nil => simpa using ⟨valid, fresh⟩
  | append_singleton effects x ih =>
    obtain ⟨valid', fresh', same⟩ := ih
    rw [List.map_append, ← List.append_assoc]
    refine ⟨valid'.snoc (by simp) fun _ _ => fresh', fresh'.snoc (by simp), ?_⟩
    rw [← same]
    exact enabledAfter_snoc _ _

/-! ## Every step keeps the protocol -/

structure Inv (s : State F D) : Prop where
  enabled : s.api.detectorEnabled = enabledAfter s.log
  valid : Valid s.log
  permit : ∀ permit n, s.worker = .inferring permit n →
    s.log[n]? = some .permit ∧ permit.generation ≤ s.api.detectorGeneration ∧
      (permit.generation = s.api.detectorGeneration → ∀ k b, n < k → s.log[k]? ≠ some (.call b))
  latest : s.api.latest.available = true → Fresh s.log
  status : s.status.detectorAvailable = true → s.api.detectorEnabled = true

theorem Inv.init : Inv ({} : State F D) := by
  constructor
  · rfl
  · exact ⟨by simp, by simp⟩
  · intro permit n found
    cases found
  · intro available
    cases available
  · intro available
    cases available

variable {s : State F D}

/-- A call that renews the generation leaves nothing available and every permit behind. -/
theorem Inv.renew (inv : Inv s) (supported enabled configured : Bool) :
    Inv (renew s supported enabled configured) := by
  constructor
  · exact (enabledAfter_snoc s.log (.call enabled)).symm
  · exact inv.valid.snoc (by simp) (by simp)
  · intro permit n held
    obtain ⟨taken, older, _⟩ := inv.permit permit n held
    refine ⟨getElem_kept _ taken, Nat.le_succ_of_le older, fun same => ?_⟩
    have same : permit.generation = s.api.detectorGeneration + 1 := same
    omega
  · intro available
    cases available
  · intro available
    simp [Api.renew, synchronizeRuntimeStatus, RuntimeStatus.setDetectorExpected,
      RuntimeStatus.clearDetector] at available

/-- A permit that is accepted is good. -/
theorem Inv.granted (inv : Inv s) {permit : DetectorPermit} {n : Nat}
    (held : s.worker = .inferring permit n) (accepted : accepts s.api permit = true) :
    Granted s.log n := by
  obtain ⟨taken, _, current⟩ := inv.permit permit n held
  simp only [accepts, Bool.and_eq_true, beq_iff_eq] at accepted
  exact ⟨taken, inv.enabled ▸ accepted.1, current accepted.2⟩

/-- The worker lets its permit go, and the status reports no more than before. -/
theorem Inv.release (inv : Inv s) (status : RuntimeStatus D) (worker : Worker) (hasPrevious : Bool)
    (less : status.detectorAvailable = true → s.status.detectorAvailable = true)
    (free : ∀ permit n, worker ≠ .inferring permit n) :
    Inv { s with status := status, worker := worker, hasPrevious := hasPrevious } := by
  constructor
  · exact inv.enabled
  · exact inv.valid
  · intro permit n found
    exact absurd found (free permit n)
  · exact inv.latest
  · intro available
    exact inv.status (less available)

theorem Inv.commit (inv : Inv s) (outputs : Outputs) {permit : DetectorPermit} {n : Nat}
    (held : s.worker = .inferring permit n) (result : Inferred F D) :
    Inv { commitDetections outputs s permit n result with worker := .idle, hasPrevious := true } := by
  unfold commitDetections
  split
  · next accepted =>
    have granted := inv.granted held accepted
    have enabled : s.api.detectorEnabled = true := inv.enabled.trans granted.enabled
    have committed : Valid (s.log ++ [.commit n]) := by
      apply inv.valid.snoc
      · rintro p (same | same) <;> cases same
        exact granted
      · intro x same
        cases same
    obtain ⟨valid, fresh, same⟩ := committed.effects granted.fresh
      (commitEffects outputs s.hasPrevious permit result)
    rw [List.append_assoc] at valid fresh same
    constructor
    · exact inv.enabled.trans (same.trans (enabledAfter_snoc _ _)).symm
    · exact valid
    · intro permit n found
      cases found
    · exact fun _ => fresh
    · exact fun _ => enabled
  · exact inv.release s.status .idle _ id (by simp)

theorem Inv.invalidate (inv : Inv s) (outputs : Outputs) {permit : DetectorPermit} {n : Nat}
    (held : s.worker = .inferring permit n) :
    Inv { invalidateDetections outputs s permit n with worker := .idle, hasPrevious := false } := by
  unfold invalidateDetections
  split
  · next accepted =>
    have granted := inv.granted held accepted
    have invalidated : Valid (s.log ++ [.invalidate n]) := by
      apply inv.valid.snoc
      · rintro p (same | same) <;> cases same
        exact granted
      · intro x same
        cases same
    have same : enabledAfter (s.log ++ [.invalidate n]) = enabledAfter s.log :=
      enabledAfter_snoc _ _
    -- an event follows only if something was available, and then the log is fresh
    have events : ∀ effects : List (Effect F D), (effects ≠ [] → s.api.latest.available = true) →
        Valid (s.log ++ .invalidate n :: effects.map .effect) ∧
          enabledAfter (s.log ++ .invalidate n :: effects.map .effect) = enabledAfter s.log := by
      intro effects available
      by_cases none : effects = []
      · subst none
        exact ⟨invalidated, same⟩
      · have fresh := (inv.latest (available none)).snoc (e := .invalidate n) (by simp)
        obtain ⟨valid, _, equal⟩ := invalidated.effects fresh effects
        rw [List.append_assoc] at valid equal
        exact ⟨valid, equal.trans same⟩
    have log : (if s.api.latest.available && outputs.events then
        [Entry.effect (.event none)] else [] : List (Entry F D)) =
        (if s.api.latest.available && outputs.events then [.event none] else []).map .effect := by
      split <;> rfl
    rw [log]
    obtain ⟨valid, equal⟩ := events
      (if s.api.latest.available && outputs.events then [.event none] else []) (by
        intro some
        by_contra unavailable
        simp [unavailable] at some)
    constructor
    · exact inv.enabled.trans equal.symm
    · exact valid
    · intro permit n found
      cases found
    · intro available
      cases available
    · intro available
      cases available
  · exact inv.release s.status .idle _ id (by simp)

theorem Inv.step {t : State F D} (outputs : Outputs) (inv : Inv s) {action : Action F D}
    (moved : step outputs s action = some t) : Inv t := by
  cases action with
  | configure =>
    obtain rfl := Option.some.inj moved
    exact inv.renew _ _ _
  | setDetectorEnabled enabled =>
    obtain rfl := Option.some.inj moved
    exact inv.renew _ _ _
  | setDetectorSupported supported =>
    obtain rfl := Option.some.inj moved
    cases supported with
    | false => exact inv.renew _ _ _
    | true =>
      constructor
      · exact inv.enabled
      · exact inv.valid
      · exact inv.permit
      · exact inv.latest
      · intro available
        simp [setDetectorSupported, synchronizeRuntimeStatus, RuntimeStatus.setDetectorExpected,
          RuntimeStatus.clearDetector] at available
  | permit =>
    cases worker : s.worker with
    | idle =>
      simp only [Api.step, worker] at moved
      split at moved
      · obtain rfl := Option.some.inj moved
        constructor
        · exact inv.enabled.trans (enabledAfter_snoc s.log .permit).symm
        · exact inv.valid.snoc (by simp) (by simp)
        · rintro permit n ⟨⟩
          refine ⟨by simp, Nat.le_refl _, fun _ k b after found => ?_⟩
          have inside := (List.getElem?_eq_some_iff.1 found).1
          rw [List.length_append, List.length_singleton] at inside
          omega
        · intro available
          exact (inv.latest available).snoc (by simp)
        · exact inv.status
      · obtain rfl := Option.some.inj moved
        exact inv.release s.status .refused _ id (by simp)
    | refused | clearing | inferring =>
      simp [Api.step, worker] at moved
  | clear =>
    cases worker : s.worker with
    | refused =>
      simp only [Api.step, worker, Option.some.injEq] at moved
      subst moved
      exact inv.release _ .clearing _ (by simp) (by simp)
    | clearing =>
      simp only [Api.step, worker, Option.some.injEq] at moved
      subst moved
      exact inv.release _ .idle _ id (by simp)
    | idle | inferring =>
      simp [Api.step, worker] at moved
  | commit result =>
    cases worker : s.worker with
    | inferring permit n =>
      simp only [Api.step, worker, Option.some.injEq] at moved
      subst moved
      exact inv.commit outputs worker result
    | idle | refused | clearing =>
      simp [Api.step, worker] at moved
  | invalidate =>
    cases worker : s.worker with
    | inferring permit n =>
      simp only [Api.step, worker, Option.some.injEq] at moved
      subst moved
      exact inv.invalidate outputs worker
    | idle | refused | clearing =>
      simp [Api.step, worker] at moved

/-- **The permit protocol.** In every interleaving of the switch calls with the worker's permits,
commits and invalidations: `detector_enabled_` is what the calls left; a commit or invalidation
that took effect had a permit, the detector was enabled, and no renewing call came in between;
after a disabling call nothing is available, and no event, sink call, alert or status update
happens, before an enabling call, a permit and a commit with that permit have followed; and
`RuntimeStatus` has detector metrics only while the detector is enabled. -/
theorem permit_protocol (outputs : Outputs) (run : Runs (step outputs) Free ({} : State F D) s) :
    s.api.detectorEnabled = enabledAfter s.log ∧
      (∀ j p, s.log[j]? = some (.commit p) ∨ s.log[j]? = some (.invalidate p) →
        (s.log.take j)[p]? = some .permit ∧ enabledAfter (s.log.take j) = true ∧
          ∀ k b, p < k → k < j → s.log[k]? ≠ some (.call b)) ∧
      (∀ i, s.log[i]? = some (.call false) →
        (s.api.latest.available = true → Renewed s.log i) ∧
          ∀ j e, i < j → s.log[j]? = some (.effect e) → Renewed (s.log.take j) i) ∧
      (s.status.detectorMetrics ≠ (none, none) → s.api.detectorEnabled = true) := by
  have inv : Inv s := by
    apply run.invariant
    · exact .init
    · intro u action v inv _ moved
      exact inv.step outputs moved
  refine ⟨inv.enabled, ?_, ?_, ?_⟩
  · intro j p found
    obtain ⟨permit, enabled, current⟩ := inv.valid.effective j p found
    refine ⟨permit, enabled, fun k b after before call => current k b after ?_⟩
    rwa [List.getElem?_take_of_lt before]
  · intro i disabled
    refine ⟨fun available => inv.latest available i disabled, fun j e after effect => ?_⟩
    apply inv.valid.quiet j e effect i
    rwa [List.getElem?_take_of_lt after]
  · intro metrics
    apply inv.status
    by_contra cleared
    simp [RuntimeStatus.detectorMetrics, cleared] at metrics

/-- The detector is turned off and on during an inference: its result is refused, the next one
is published. -/
theorem permit_protocol_toggled : ∃ s : State Nat Nat,
    s.log[1]? = some (.call false) ∧ s.api.latest.frameSequence = 8 ∧ Renewed s.log 1 := by
  have reached : ∃ s : State Nat Nat, Runs (step ⟨true, true, true⟩) Free ({} : State Nat Nat) s ∧
      s.log[1]? = some (.call false) ∧ s.api.latest.frameSequence = 8 ∧
        s.api.latest.available = true := by
    apply Runs.exists_of_play [.permit, .setDetectorEnabled false, .setDetectorEnabled true,
      .commit ⟨7, 640, 480, 0, [], 25, 40, 0⟩, .permit, .commit ⟨8, 640, 480, 0, [], 25, 40, 0⟩]
    · decide +kernel
    · exact Meets.free _ _
  obtain ⟨s, run, disabled, sequence, available⟩ := reached
  exact ⟨s, disabled, sequence, ((permit_protocol _ run).2.2.1 1 disabled).1 available⟩

end SkaiEdge.Api
