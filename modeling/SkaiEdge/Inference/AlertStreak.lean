import SkaiEdge.Inference.YoloInferenceModule

/-!
# What an alert says about the committed results

The count of a rule lives behind a queue of two results that drops its oldest one when the
alert worker is slow. The count is not told of the loss. `Inv` ties it to the committed
results: the results just before the next one to be processed match, as many as the rule has
counted. A dropped result that matches the rule keeps this, and so does any other as long as there
is no count that it could interrupt. Under `Keeps` every alert therefore has its
`consecutive_frames` committed results in a row (`alert_earned`); otherwise a dropped
result that does not match leaves a hole in the count (`dropped_result_counted`).
-/

namespace SkaiEdge.Inference.YoloInferenceModule

open SkaiEdge.Lib SkaiEdge.Core SkaiEdge.Alerts

variable {F D : Type*} [Floating F D]

/-- The rule will have counted nothing when the alert worker takes the next result. -/
def Worker.clears (names : List String) (state : RuleState D) : Worker F → Bool
  | .holding work => !work.val.hits names state.rule
  | .waiting | .finished => state.consecutive = 0

/-- The count does not miss the result: it matches, the rule asks for no two in a row, or there is
no count to go on from. -/
def Harmless (names : List String) (worker : Worker F) (state : RuleState D) (lost : AlertWork F) :
    Prop :=
  lost.hits names state.rule = true ∨ state.rule.consecutiveFrames ≤ 1 ∨
    worker.clears names state = true

/-- A push that drops the oldest result does the rule at `index` no harm. -/
def Keeps (names : List String) (index : Nat) (s : State F D) : Action F D → Prop
  | .commit _ => s.queue.isShutdown = false → s.queue.full = true →
      ∀ oldest ∈ s.queue.items.head?, ∀ state ∈ s.manager.rules[index]?,
        Harmless names s.worker state oldest.val
  | _ => True

instance (names : List String) (worker : Worker F) (state : RuleState D) :
    DecidablePred (Harmless (F := F) names worker state) :=
  fun _ => inferInstanceAs (Decidable (_ ∨ _ ∨ _))

instance (names : List String) (index : Nat) (s : State F D) : DecidablePred (Keeps names index s) :=
  fun a =>
    match a with
    | .commit _ => inferInstanceAs (Decidable (_ → _ → ∀ oldest ∈ s.queue.items.head?,
        ∀ state ∈ s.manager.rules[index]?, Harmless names s.worker state oldest.val))
    | .stop | .pop | .process _ _ _ _ | .restart _ _ _ => .isTrue trivial

/-- The results counted by a rule that asks for two in a row at least are the ones committed just
before position `n`. -/
def Streak (names : List String) (committed : List (AlertWork F)) (n : Nat)
    (state : RuleState D) : Prop :=
  1 < state.rule.consecutiveFrames → state.consecutive ≤ n ∧
    ∀ j < n, n ≤ j + state.consecutive → Hit names committed state.rule j

section Streak

variable {names : List String} {committed : List (AlertWork F)} {state : RuleState D} {n k : Nat}

theorem Hit.publish {rule : AlertRuleConfig D} {j : Nat} (hit : Hit names committed rule j)
    (work : AlertWork F) : Hit names (committed ++ [work]) rule j := by
  unfold Hit at hit ⊢
  cases found : committed[j]? with
  | none => simp [found] at hit
  | some old =>
    rw [List.getElem?_append_left (List.getElem?_eq_some_iff.1 found).1, found]
    rw [found] at hit
    exact hit

theorem Streak.publish (streak : Streak names committed n state) (work : AlertWork F) :
    Streak names (committed ++ [work]) n state := by
  intro several
  obtain ⟨enough, hits⟩ := streak several
  exact ⟨enough, fun j before counted => (hits j before counted).publish work⟩

/-- Results that match may be skipped. -/
theorem Streak.skip (streak : Streak names committed n state) (later : n ≤ k)
    (hits : 1 < state.rule.consecutiveFrames → ∀ j < k, n ≤ j → Hit names committed state.rule j) :
    Streak names committed k state := by
  intro several
  obtain ⟨enough, before⟩ := streak several
  refine ⟨by omega, ?_⟩
  intro j within counted
  by_cases new : n ≤ j
  · exact hits several j within new
  · exact before j (by omega) (by omega)

theorem Streak.of_zero (n : Nat) (none' : state.consecutive = 0) : Streak names committed n state :=
  fun _ => ⟨by omega, fun j before counted => by omega⟩

/-- The count after the result at `n` was processed, and what an alert on it says. -/
theorem Streak.move {call : Call F D} {work : AlertWork F} {gps : Option (GpsFix D)}
    {wallTime monotonicTime : Int} {answer : RuleState D × Option (AlertEvent D)}
    (streak : Streak names committed n state) (found : committed[n]? = some work)
    (args : call = work.call gps wallTime monotonicTime) (move : RuleMove names call state answer) :
    answer.1.rule = state.rule ∧ Streak names committed (n + 1) answer.1 ∧
      (answer.1.consecutive = 0 ∨ work.hits names state.rule = true) ∧
      (answer.2.isSome = true → Earned names committed state.rule n) := by
  have matches' : matching names call.frameWidth call.frameHeight state.rule
      call.result.detections ≠ [] → work.hits names state.rule = true := by
    intro some'
    subst args
    simpa [AlertWork.hits, AlertWork.call] using some'
  have hit (some' : work.hits names state.rule = true) : Hit names committed state.rule n := by
    rw [Hit, found]
    exact some'
  -- the result itself, and the ones counted before it
  have window : 1 < state.rule.consecutiveFrames → ∀ c ≤ state.consecutive + 1,
      Hit names committed state.rule n →
        ∀ j < n + 1, n + 1 ≤ j + c → Hit names committed state.rule j := by
    intro several c small now j before counted
    by_cases same : j = n
    · exact same ▸ now
    · exact (streak several).2 j (by omega) (by omega)
  cases move with
  | unmatched none' => exact ⟨rfl, .of_zero _ rfl, .inl rfl, nofun⟩
  | counts some' =>
    refine ⟨rfl, fun several => ⟨?_, ?_⟩, .inr (matches' some'), nofun⟩
    · have := (streak several).1
      simp only
      omega
    · exact window several _ (Nat.min_le_left _ _) (hit (matches' some'))
  | raises some' reached alert =>
    have now := hit (matches' some')
    refine ⟨rfl, .of_zero _ rfl, .inl rfl, fun _ => ?_⟩
    by_cases several : 1 < state.rule.consecutiveFrames
    · have := (streak several).1
      exact ⟨by omega, fun j before counted =>
        window several _ reached now j (by omega) (by omega)⟩
    · refine ⟨by omega, fun j before counted => ?_⟩
      exact (show j = n by omega) ▸ now

end Streak

/-- What the alert worker's position says about the count at `index`: `front` is the position
of the oldest queued result, or of the next one to be queued. While the worker holds a result
that matches, the ones lost behind it match. -/
def HandInv (names : List String) (index : Nat) (s : State F D) (front : Nat) : Prop :=
  match s.worker with
  | .holding work => work.stamp < front ∧ s.committed[work.stamp]? = some work.val ∧
      ∀ state ∈ s.manager.rules[index]?, Streak names s.committed work.stamp state ∧
        (1 < state.rule.consecutiveFrames → work.val.hits names state.rule = true →
          ∀ j < front, work.stamp < j → Hit names s.committed state.rule j)
  | _ => ∀ state ∈ s.manager.rules[index]?, Streak names s.committed front state

structure Inv (names : List String) (index : Nat) (s : State F D) (front : Nat) : Prop where
  stamps : s.queue.items.map (·.stamp) = List.range' front s.queue.items.length
  recorded : Recorded s.committed s.queue.items
  ends : s.queue.isShutdown = false → front + s.queue.items.length = s.committed.length
  hand : HandInv names index s front
  earned : ∀ alert ∈ s.raised, alert.index = index →
    Earned names s.committed alert.rule alert.stamp

def Sound (names : List String) (index : Nat) (s : State F D) : Prop :=
  ∃ front, Inv names index s front

/-- Freshly configured rules have counted nothing. -/
theorem configure_streak {manager : AlertManager D} {rules : List (AlertRuleConfig D)}
    {directory : List Char} {version : String} {names : List String}
    {committed : List (AlertWork F)} {index n : Nat} :
    ∀ state ∈ (manager.configure rules directory version).rules[index]?,
      Streak names committed n state := by
  intro state found
  simp only [AlertManager.configure, List.getElem?_map, Option.mem_def, Option.map_eq_some_iff] at found
  obtain ⟨rule, _, rfl⟩ := found
  exact .of_zero n rfl

theorem inv_init (names : List String) (index : Nat) (rules : List (AlertRuleConfig D))
    (directory : List Char) (version : String) :
    Inv names index (init rules directory version : State F D) 0 where
  stamps := rfl
  recorded := .nil
  ends := fun _ => rfl
  hand := configure_streak
  earned := by simp [init]

section Step

variable {names : List String} {index front : Nat} {s v : State F D}

theorem HandInv.publish (hand : HandInv names index s front) (work : AlertWork F)
    (queue : BoundedQueue (Stamped (AlertWork F))) :
    HandInv names index { s with queue := queue, committed := s.committed ++ [work] } front := by
  unfold HandInv at hand ⊢
  cases worker : s.worker with
  | holding held =>
    simp only [worker] at hand ⊢
    obtain ⟨behind, found, rule⟩ := hand
    refine ⟨behind, ?_, fun state at' => ⟨(rule state at').1.publish work, ?_⟩⟩
    · rw [List.getElem?_append_left (List.getElem?_eq_some_iff.1 found).1, found]
    · intro several hits j before after
      exact ((rule state at').2 several hits j before after).publish work
  | waiting =>
    simp only [worker] at hand ⊢
    exact fun state at' => (hand state at').publish work
  | finished =>
    simp only [worker] at hand ⊢
    exact fun state at' => (hand state at').publish work

theorem Streak.drop {committed : List (AlertWork F)} {state : RuleState D} {n : Nat}
    (streak : Streak names committed n state) (harmless : Hit names committed state.rule n ∨
      state.rule.consecutiveFrames ≤ 1 ∨ state.consecutive = 0) :
    Streak names committed (n + 1) state := by
  rcases harmless with hit | single | none'
  · refine streak.skip (Nat.le_succ _) fun _ j before after => ?_
    exact (show j = n by omega) ▸ hit
  · exact fun several => by omega
  · exact .of_zero _ none'

/-- The oldest queued result is lost. -/
theorem HandInv.drop (hand : HandInv names index s front)
    (harmless : ∀ state ∈ s.manager.rules[index]?, Hit names s.committed state.rule front ∨
      state.rule.consecutiveFrames ≤ 1 ∨ s.worker.clears names state = true) :
    HandInv names index s (front + 1) := by
  unfold HandInv at hand ⊢
  cases worker : s.worker with
  | holding held =>
    simp only [worker] at hand harmless ⊢
    obtain ⟨behind, found, rule⟩ := hand
    refine ⟨by omega, found, fun state at' => ⟨(rule state at').1, ?_⟩⟩
    intro several matches' j before after
    by_cases same : j = front
    · rcases harmless state at' with hit | single | clear
      · exact same ▸ hit
      · omega
      · simp [Worker.clears, matches'] at clear
    · exact (rule state at').2 several matches' j (by omega) after
  | waiting =>
    simp only [worker] at hand harmless ⊢
    exact fun state at' => (hand state at').drop
      ((harmless state at').imp_right (Or.imp_right of_decide_eq_true))
  | finished =>
    simp only [worker] at hand harmless ⊢
    exact fun state at' => (hand state at').drop
      ((harmless state at').imp_right (Or.imp_right of_decide_eq_true))

/-- **A commit** appends a result, and may drop one. -/
theorem Inv.commit {work : AlertWork F} (inv : Inv names index s front)
    (guard : Keeps names index s (.commit work)) (moved : step names s (.commit work) = some v) :
    Sound names index v := by
  cases moved
  have earned : ∀ alert ∈ s.raised, alert.index = index →
      Earned names (s.committed ++ [work]) alert.rule alert.stamp := by
    intro alert member at'
    obtain ⟨enough, hits⟩ := inv.earned alert member at'
    exact ⟨enough, fun j before counted => (hits j before counted).publish work⟩
  have recorded : Recorded (s.committed ++ [work])
      (s.queue.push ⟨s.committed.length, work⟩).1.items :=
    inv.recorded.publish work fun u member => (BoundedQueue.mem_push member).symm
  rcases s.queue.push_cases ⟨s.committed.length, work⟩ with
    ⟨down, rejected⟩ | ⟨up, _, _, items, _⟩ | ⟨up, full, _, ⟨oldest, items⟩, _⟩
  · rw [rejected]
    refine ⟨front, inv.stamps, ?_, ?_, inv.hand.publish work s.queue, earned⟩
    · simpa [rejected] using recorded
    · intro running
      simp [down] at running
  · have last := inv.ends up
    refine ⟨front, ?_, recorded, ?_, inv.hand.publish work _, earned⟩
    · simp only [items, List.map_append, inv.stamps, List.length_append, List.map_cons, List.map_nil,
        List.length_cons, List.length_nil, List.range'_concat, Nat.one_mul, last, Nat.zero_add]
    · intro _
      simp only [items, List.length_append, List.length_cons, List.length_nil]
      omega
  · have last := inv.ends up
    obtain ⟨rest, shape⟩ : ∃ rest, s.queue.items = oldest :: rest := by
      cases whole : s.queue.items with
      | nil =>
        have positive := s.queue.positive
        simp [BoundedQueue.full, whole] at full
        omega
      | cons first rest =>
        rw [whole, List.cons_append, List.cons.injEq] at items
        exact ⟨rest, by rw [items.1]⟩
    have after : (s.queue.push ⟨s.committed.length, work⟩).1.items =
        rest ++ [⟨s.committed.length, work⟩] := by
      rw [shape, List.cons_append, List.cons.injEq] at items
      exact items.2.symm
    have stamps := inv.stamps
    rw [shape, List.map_cons, List.length_cons, List.range'_succ, List.cons.injEq] at stamps
    have lost : s.committed[front]? = some oldest.val := by
      rw [← stamps.1]
      exact inv.recorded oldest (by simp [shape])
    have harmless : ∀ state ∈ s.manager.rules[index]?, Hit names s.committed state.rule front ∨
        state.rule.consecutiveFrames ≤ 1 ∨ s.worker.clears names state = true := by
      intro state at'
      refine (guard up full oldest (by simp [shape]) state at').imp_left fun matches' => ?_
      simp [Hit, lost, matches']
    have size : s.committed.length = front + (rest.length + 1) := by
      rw [← last, shape, List.length_cons]
    refine ⟨front + 1, ?_, recorded, ?_, (inv.hand.drop harmless).publish work _, earned⟩
    · show (s.queue.push ⟨s.committed.length, work⟩).1.items.map (·.stamp) = _
      have next : s.committed.length = front + 1 + rest.length := by omega
      rw [after, List.map_append, stamps.2, List.length_append, List.length_singleton,
        List.range'_concat, List.map_singleton, Nat.one_mul, next]
    · intro _
      simp only [after, List.length_append, List.length_cons, List.length_nil]
      omega

theorem Inv.pop (inv : Inv names index s front)
    (idle : ∀ state ∈ s.manager.rules[index]?, Streak names s.committed front state)
    (moved : pop s = some v) : Sound names index v := by
  unfold YoloInferenceModule.pop at moved
  cases items : s.queue.items with
  | nil =>
    rw [BoundedQueue.takeFront_nil items] at moved
    obtain ⟨_, ⟨⟩⟩ := Option.ite_none_right_eq_some.1 moved
    exact ⟨front, inv.stamps, inv.recorded, inv.ends, idle, inv.earned⟩
  | cons first rest =>
    rw [BoundedQueue.takeFront_eq items] at moved
    cases moved
    obtain ⟨_, left, _⟩ := BoundedQueue.takeFront_cons items
    have stamps := inv.stamps
    rw [items, List.map_cons, List.length_cons, List.range'_succ, List.cons.injEq] at stamps
    refine ⟨front + 1, ?_, ?_, ?_, ?_, inv.earned⟩
    · show s.queue.takeFront.2.items.map (·.stamp) = _
      rw [left, stamps.2]
    · show Recorded s.committed s.queue.takeFront.2.items
      rw [left]
      exact inv.recorded.subset (by simp [items])
    · intro (up : s.queue.takeFront.2.isShutdown = false)
      rw [BoundedQueue.takeFront_isShutdown] at up
      have last := inv.ends up
      show front + 1 + s.queue.takeFront.2.items.length = s.committed.length
      rw [items, List.length_cons] at last
      rw [left]
      omega
    · have found := inv.recorded first (by simp [items])
      have at' : first.stamp = front := stamps.1
      refine ⟨by omega, found, fun state rule => ⟨at' ▸ idle state rule, ?_⟩⟩
      intro _ _ j before after
      omega

theorem mem_raisedBy {stamp : Nat} {answers : List (RuleState D × Option (AlertEvent D))}
    {alert : Raised D} (member : alert ∈ raisedBy stamp answers) :
    alert.stamp = stamp ∧ ∃ answer, answers[alert.index]? = some answer ∧
      answer.2.isSome = true ∧ alert.rule = answer.1.rule := by
  obtain ⟨⟨answer, i⟩, found, raised⟩ := List.mem_filterMap.1 member
  obtain ⟨_, some', rfl⟩ := Option.map_eq_some_iff.1 raised
  have found := List.mem_zipIdx_iff_getElem?.1 found
  exact ⟨rfl, answer, found, by simp [some'], rfl⟩

/-- A new generation only lowers the counts. -/
theorem counted_streak {manager : AlertManager D} {generation : UInt64}
    {committed : List (AlertWork F)} {n : Nat}
    (streaks : ∀ state ∈ manager.rules[index]?, Streak names committed n state) :
    ∀ state ∈ (manager.counted generation)[index]?, Streak names committed n state ∧
      ∃ old ∈ manager.rules[index]?, old.rule = state.rule := by
  intro state found
  unfold AlertManager.counted at found
  split at found
  · exact ⟨streaks state found, state, found, rfl⟩
  · rw [List.getElem?_map] at found
    obtain ⟨old, at', rfl⟩ := Option.map_eq_some_iff.1 found
    exact ⟨.of_zero n rfl, old, at', rfl⟩

/-- **Processing** the result in hand moves the count past it and past the lost ones behind it. -/
theorem Inv.process {work : Stamped (AlertWork F)} {persist : AlertEvent D → Option (AlertEvent D)}
    {gps : Option (GpsFix D)} {wallTime monotonicTime : Int} (inv : Inv names index s front)
    (standing : s.worker = .holding work)
    (moved : step names s (.process persist gps wallTime monotonicTime) = some v) :
    Sound names index v := by
  have hand := inv.hand
  simp only [HandInv, standing] at hand
  obtain ⟨behind, found, rules⟩ := hand
  simp only [step, standing] at moved
  cases moved
  have moves := processRules_moves persist names (work.val.call gps wallTime monotonicTime)
    s.manager.modelVersion 0 s.manager.nextId (s.manager.counted work.val.generation)
  -- the rule at `index` moves as `RuleMove` says
  have rule : ∀ answer, (processRules (m := Id) persist names
      (work.val.call gps wallTime monotonicTime) s.manager.modelVersion 0 s.manager.nextId
      (s.manager.counted work.val.generation)).1[index]? = some answer →
      Streak names s.committed front answer.1 ∧
        (answer.2.isSome = true → Earned names s.committed answer.1.rule work.stamp) := by
    intro answer at'
    obtain ⟨short, answered⟩ := List.getElem?_eq_some_iff.1 at'
    obtain ⟨lengths, each⟩ := List.forall₂_iff_get.1 moves
    have move := each index (lengths ▸ short) short
    rw [List.get_eq_getElem, List.get_eq_getElem, answered] at move
    obtain ⟨streak, old, former, same⟩ := counted_streak (fun state at' => (rules state at').1) _
      (List.getElem?_eq_getElem (lengths ▸ short))
    obtain ⟨kept, counted, nothing, earned⟩ := streak.move found rfl move
    refine ⟨?_, fun raised => kept ▸ earned raised⟩
    rcases nothing with zero | matches'
    · exact .of_zero _ zero
    · refine counted.skip (by omega) fun several j within after => ?_
      rw [kept, ← same] at several ⊢
      rw [← same] at matches'
      exact (rules old former).2 several matches' j within (by omega)
  refine ⟨front, inv.stamps, inv.recorded, inv.ends, ?_, ?_⟩
  · intro state at'
    obtain ⟨answer, found', rfl⟩ := Option.map_eq_some_iff.1 ((List.getElem?_map ..).symm.trans at')
    exact (rule answer found').1
  · intro alert member at'
    rcases List.mem_append.1 member with old | new
    · exact inv.earned alert old at'
    · obtain ⟨stamp, answer, found', raised, same⟩ := mem_raisedBy new
      rw [at'] at found'
      rw [stamp, same]
      exact (rule answer found').2 raised

/-- **Every step keeps the invariant** if what it drops does no harm. -/
theorem Inv.step {a : Action F D} (inv : Inv names index s front) (guard : Keeps names index s a)
    (moved : step names s a = some v) : Sound names index v := by
  have hand := inv.hand
  cases a with
  | commit work => exact inv.commit guard moved
  | stop =>
    cases moved
    exact ⟨front, inv.stamps, inv.recorded, nofun, hand, inv.earned⟩
  | pop =>
    cases standing : s.worker with
    | waiting =>
      simp only [HandInv, standing] at hand
      exact inv.pop hand (by simpa only [YoloInferenceModule.step, standing] using moved)
    | holding work => simp [YoloInferenceModule.step, standing] at moved
    | finished => simp [YoloInferenceModule.step, standing] at moved
  | process persist gps wallTime monotonicTime =>
    cases standing : s.worker with
    | holding work => exact inv.process standing moved
    | waiting => simp [YoloInferenceModule.step, standing] at moved
    | finished => simp [YoloInferenceModule.step, standing] at moved
  | restart rules directory version =>
    cases standing : s.worker with
    | finished =>
      simp only [YoloInferenceModule.step, standing] at moved
      cases moved
      exact ⟨s.committed.length, rfl, .nil, fun _ => rfl, configure_streak, inv.earned⟩
    | waiting => simp [YoloInferenceModule.step, standing] at moved
    | holding work => simp [YoloInferenceModule.step, standing] at moved

end Step

/-- **An alert means `consecutive_frames` committed results in a row.** In every interleaving
in which no result is dropped that the count of the rule at `index` misses, the result of each of
its alerts and the ones committed just before it, none left out, match the rule. -/
theorem alert_earned {names : List String} {index : Nat} {rules : List (AlertRuleConfig D)}
    {directory : List Char} {version : String} {s : State F D}
    (run : Runs (step names) (Keeps names index) (init rules directory version) s) :
    ∀ alert ∈ s.raised, alert.index = index →
      Earned names s.committed alert.rule alert.stamp := by
  have sound : Sound names index s :=
    run.invariant ⟨0, inv_init names index rules directory version⟩
      fun _ _ _ ⟨_, inv⟩ guard moved => inv.step guard moved
  obtain ⟨front, inv⟩ := sound
  exact inv.earned

/-- Two results in a row with a person in them. -/
def twoInARow : AlertRuleConfig ℚ := { className := "person", confidence := 0, consecutiveFrames := 2 }

def person : AlertWork ℚ :=
  { detections := { detections := [⟨0, 1, 0, 0, 1, 1⟩] }, snapshot := { width := 1, height := 1 } }

def nobody : AlertWork ℚ := { detections := {}, snapshot := { width := 1, height := 1 } }

def processed : Action ℚ ℚ := .process some none 0 0

/-- Four results with a person, the second of them dropped while the first is processed: the
alert on the third counts it in. -/
theorem alert_earned_dropped : ∃ s : State ℚ ℚ, s.raised.map (·.stamp) = [2] ∧
    ∀ alert ∈ s.raised, alert.index = 0 → Earned ["person"] s.committed alert.rule alert.stamp := by
  obtain ⟨s, run, raised⟩ : ∃ s : State ℚ ℚ, Runs (step ["person"]) (Keeps ["person"] 0)
      (init [twoInARow] [] "") s ∧ s.raised.map (·.stamp) = [2] :=
    Runs.exists_of_play [.commit person, .pop, .commit person, .commit person, .commit person,
      processed, .pop, processed] (by decide) (by decide)
  exact ⟨s, raised, alert_earned run⟩

/-- The same with nobody in the dropped result: the alert on the third result counts the first
one with it, although the second does not match. -/
theorem dropped_result_counted : ∃ s : State ℚ ℚ,
    Runs (step ["person"]) Free (init [twoInARow] [] "") s ∧
      ∃ alert ∈ s.raised, ¬ Earned ["person"] s.committed alert.rule alert.stamp :=
  Runs.exists_of_play [.commit person, .pop, .commit nobody, .commit person, .commit person,
    processed, .pop, processed] (by decide) (Meets.free _ _)

end SkaiEdge.Inference.YoloInferenceModule
