import SkaiEdge.Alerts.AlertManager

/-!
# When a rule raises an alert

A rule keeps a count that stops at `consecutive_frames`, and the time of its last alert.
`Due` says what these stand for in terms of the frames alone: the frame and the ones just
before it, as many as the rule asks for, match, and no reset lies among them. `rule_semantics`
is that a rule raises an alert exactly at the frames that are due, cooled down and stored,
along every sequence of calls and whatever the store answers.
-/

namespace SkaiEdge.Alerts

open SkaiEdge.Inference

section Streak

variable (counts changes : Nat → Prop) [DecidablePred counts] [DecidablePred changes]

/-- The frames in a row that count, up to the one before `n`; a change starts a new row. -/
def streak : Nat → Nat
  | 0 => 0
  | n + 1 => if counts n then (if changes n then 0 else streak n) + 1 else 0

variable {counts changes}

theorem le_streak_iff {n k : Nat} : k ≤ streak counts changes n ↔
    k ≤ n ∧ ∀ j < n, n ≤ j + k → counts j ∧ (n < j + k → ¬ changes j) := by
  induction n generalizing k with
  | zero => simp [streak]
  | succ n ih =>
    cases k with
    | zero =>
      refine iff_of_true (Nat.zero_le _) ⟨Nat.zero_le _, fun j before counted => ?_⟩
      omega
    | succ k =>
      rw [streak]
      constructor
      · intro long
        split at long
        · rename_i now
          split at long
          · refine ⟨by omega, fun j before counted => ?_⟩
            obtain rfl : j = n := by omega
            exact ⟨now, fun _ => by omega⟩
          · rename_i same
            obtain ⟨short, row⟩ := ih.1 (Nat.le_of_succ_le_succ long)
            refine ⟨by omega, fun j before counted => ?_⟩
            rcases Nat.lt_or_ge j n with earlier | last
            · obtain ⟨hit, kept⟩ := row j earlier (by omega)
              exact ⟨hit, fun inner => kept (by omega)⟩
            · obtain rfl : j = n := by omega
              exact ⟨now, fun _ => same⟩
        · omega
      · rintro ⟨short, row⟩
        obtain ⟨now, kept⟩ := row n (Nat.lt_succ_self n) (by omega)
        rw [if_pos now]
        apply Nat.succ_le_succ
        split
        · rename_i change
          rcases Nat.eq_zero_or_pos k with none' | some'
          · omega
          · exact absurd change (kept (by omega))
        · refine ih.2 ⟨by omega, fun j before counted => ?_⟩
          obtain ⟨hit, inner⟩ := row j (by omega) (by omega)
          exact ⟨hit, fun inside => inner (by omega)⟩

end Streak

/-- One call of `process`: its arguments, and what the store answers during it. -/
structure Turn (F D : Type*) where
  call : Call F D
  names : List String
  persist : AlertEvent D → Option (AlertEvent D)

variable {F D : Type*} [Floating F D]

def Turn.detections (turn : Turn F D) (rule : AlertRuleConfig D) : List (AlertDetection D) :=
  matching turn.names turn.call.frameWidth turn.call.frameHeight rule turn.call.result.detections

/-- The frame of the call matches the rule. -/
def Turn.hits (turn : Turn F D) (rule : AlertRuleConfig D) : Bool := !(turn.detections rule).isEmpty

section Rule

variable (turn : Turn F D) (version : String) (ruleIndex nextId : Nat) (state : RuleState D)

/-- What the turn of the loop over the rules does with a rule. -/
def Turn.rule : RuleState D × Option (AlertEvent D) × Nat :=
  processRule (m := Id) turn.persist turn.names turn.call version ruleIndex nextId state

theorem Turn.rule_raises : (turn.rule version ruleIndex nextId state).2.1.isSome = true ↔
    turn.hits state.rule = true ∧ state.rule.consecutiveFrames ≤ state.consecutive + 1 ∧
      state.cooling turn.call.monotonicTime = false ∧
      (turn.persist (alertOf turn.call version ruleIndex nextId
        (turn.detections state.rule))).isSome = true := by
  unfold Turn.rule Turn.hits Turn.detections processRule
  simp only
  split
  · rename_i none'
    simp [pure, none']
  · rename_i some'
    split
    · refine iff_of_false (by simp [pure]) ?_
      rintro ⟨-, reached, -⟩
      omega
    · rename_i reached
      split
      · rename_i cooling
        refine iff_of_false (by simp [pure]) ?_
        rintro ⟨-, -, cool, -⟩
        simp only [RuleState.cooling] at cooling cool
        simp [cool] at cooling
      · rename_i cool
        have cool : state.cooling turn.call.monotonicTime = false := by
          simpa [RuleState.cooling] using cool
        have reached : state.rule.consecutiveFrames ≤ state.consecutive + 1 := by omega
        simp only [bind, some', cool, reached, Bool.not_false, true_and]
        split
        · rename_i refused
          simp [pure, refused]
        · rename_i alert stored
          simp [pure, stored]

theorem Turn.rule_state : (turn.rule version ruleIndex nextId state).1 =
    if (turn.rule version ruleIndex nextId state).2.1.isSome = true then
      { state with consecutive := 0, lastAlert := some turn.call.monotonicTime }
    else if turn.hits state.rule = true then
      { state with consecutive := min (state.consecutive + 1) state.rule.consecutiveFrames }
    else { state with consecutive := 0 } := by
  unfold Turn.rule Turn.hits Turn.detections processRule
  simp only
  split
  · rename_i none'
    simp [pure, none']
  · rename_i some'
    split
    · simp [pure, some']
    · split
      · simp [pure, some']
      · simp only [bind]
        cases turn.persist (alertOf turn.call version ruleIndex nextId (matching turn.names
          turn.call.frameWidth turn.call.frameHeight state.rule turn.call.result.detections)) with
        | none => simp [pure, some']
        | some alert => simp [pure]

end Rule

theorem processRules_cons (turn : Turn F D) (version : String) (ruleIndex nextId : Nat)
    (state : RuleState D) (rest : List (RuleState D)) :
    processRules (m := Id) turn.persist turn.names turn.call version ruleIndex nextId
        (state :: rest) =
      let answer := turn.rule version ruleIndex nextId state
      let later := processRules (m := Id) turn.persist turn.names turn.call version (ruleIndex + 1)
        answer.2.2 rest
      ((answer.1, answer.2.1) :: later.1, later.2) := rfl

/-- A turn treats each rule by itself; only the id counter passes from one to the next. -/
theorem processRules_getElem (turn : Turn F D) (version : String) (ruleIndex nextId : Nat)
    (rules : List (RuleState D)) (index : Nat) :
    (processRules (m := Id) turn.persist turn.names turn.call version ruleIndex nextId
        rules).1[index]? =
      rules[index]?.map fun state =>
        let answer := turn.rule version (ruleIndex + index) (processRules (m := Id) turn.persist
          turn.names turn.call version ruleIndex nextId (rules.take index)).2 state
        (answer.1, answer.2.1) := by
  induction rules generalizing ruleIndex nextId index with
  | nil => simp [processRules, pure]
  | cons state rest ih =>
    rw [processRules_cons]
    cases index with
    | zero => rfl
    | succ index =>
      have next := ih (ruleIndex + 1) (turn.rule version ruleIndex nextId state).2.2 index
      rw [show ruleIndex + 1 + index = ruleIndex + (index + 1) by omega] at next
      rw [List.take_succ_cons, processRules_cons]
      simpa using next

section Sequence

variable (start : AlertManager D) (turns : Nat → Turn F D)

/-- The manager after the first `n` calls. -/
def managerAt : Nat → AlertManager D
  | 0 => start
  | n + 1 => ((managerAt n).process (m := Id) (turns n).persist (turns n).names (turns n).call).2

/-- The rule at `index` raises an alert at call `n`. -/
def Raised (index n : Nat) : Prop :=
  (((managerAt start turns n).process (m := Id) (turns n).persist (turns n).names
    (turns n).call).1[index]?.any (·.2.isSome)) = true

instance (index : Nat) : DecidablePred (Raised start turns index) :=
  fun _ => inferInstanceAs (Decidable (_ = true))

/-- The id counter as the loop of call `n` reaches the rule at `index`. -/
def nextIdAt (index n : Nat) : Nat :=
  (processRules (m := Id) (turns n).persist (turns n).names (turns n).call
    (managerAt start turns n).modelVersion 0 (managerAt start turns n).nextId
    (((managerAt start turns n).counted (turns n).call.detectorGeneration).take index)).2

/-- The alert that call `n` is to raise for the rule at `index` is stored. -/
def Stores (rule : AlertRuleConfig D) (index n : Nat) : Prop :=
  ((turns n).persist (alertOf (turns n).call (managerAt start turns n).modelVersion index
    (nextIdAt start turns index n) ((turns n).detections rule))).isSome = true

/-- The detector of call `n` is not the one of the call before. -/
def Changes : Nat → Prop
  | 0 => False
  | n + 1 => (turns (n + 1)).call.detectorGeneration ≠ (turns n).call.detectorGeneration

instance : DecidablePred (Changes turns)
  | 0 => inferInstanceAs (Decidable False)
  | _ + 1 => inferInstanceAs (Decidable (_ ≠ _))

/-- Frame `j` is one of the frames an alert at `n` counts: `n` itself or one of the
`consecutive_frames - 1` before it. -/
def Counted (rule : AlertRuleConfig D) (n j : Nat) : Prop :=
  j ≤ n ∧ n ≤ j + (rule.consecutiveFrames - 1)

/-- Frame `j` came after every reset of the rule up to call `n`: after each frame that does not
match and after each alert, and not before the first frame of a new detector. -/
def AfterResets (rule : AlertRuleConfig D) (index n j : Nat) : Prop :=
  ∀ r ≤ n, ((turns r).hits rule = false → r < j) ∧
    (r < n → Raised start turns index r → r < j) ∧ (Changes turns r → r ≤ j)

/-- Frame `n` completes a row of `consecutive_frames` frames. -/
def Due (rule : AlertRuleConfig D) (index n : Nat) : Prop :=
  rule.consecutiveFrames ≤ n + 1 ∧ ∀ j, Counted rule n j →
    (turns j).hits rule = true ∧ AfterResets start turns rule index n j

/-- `i` is the rule's last alert before call `n`. -/
def Previous (index i n : Nat) : Prop :=
  i < n ∧ Raised start turns index i ∧ ∀ k, i < k → k < n → ¬ Raised start turns index k

/-- The time between the calls `i` and `n`. -/
def elapsed (i n : Nat) : Int := (turns n).call.monotonicTime - (turns i).call.monotonicTime

/-- The cooldown has passed at call `n`. -/
def Cooled (rule : AlertRuleConfig D) (index n : Nat) : Prop :=
  ∀ i, Previous start turns index i n → rule.cooldownSeconds * 1000000000 ≤ elapsed turns i n

/-- The row the rule at `index` stands in before call `n`. -/
def row (rule : AlertRuleConfig D) (index n : Nat) : Nat :=
  streak (fun j => (turns j).hits rule = true ∧ ¬ Raised start turns index j) (Changes turns) n

/-- The row that frame `n` continues, if it matches. -/
def standingRow (rule : AlertRuleConfig D) (index n : Nat) : Nat :=
  if Changes turns n then 0 else row start turns rule index n

/-- **What a rule's state stands for.** -/
structure Standing (rule : AlertRuleConfig D) (index n : Nat) (state : RuleState D) : Prop where
  watched : state.rule = rule
  count : state.consecutive = min (row start turns rule index n) rule.consecutiveFrames
  last : ∀ t, state.lastAlert = some t ↔
    ∃ i, Previous start turns index i n ∧ t = (turns i).call.monotonicTime

section Turn

variable {start turns} {rule : AlertRuleConfig D} {index n : Nat} {state : RuleState D}

theorem standing_zero (turns : Nat → Turn F D) (manager : AlertManager D)
    (rules : List (AlertRuleConfig D)) (directory : List Char) (version : String)
    (found : rules[index]? = some rule) :
    ∃ state, (manager.configure rules directory version).rules[index]? = some state ∧
      Standing (manager.configure rules directory version) turns rule index 0 state := by
  refine ⟨{ rule := rule }, by simp [AlertManager.configure, found], rfl, rfl, fun t => ?_⟩
  refine iff_of_false nofun ?_
  rintro ⟨i, ⟨before, -⟩, -⟩
  omega

/-- The count a call starts from. -/
theorem Standing.counted (standing : Standing start turns rule index n state)
    (fresh : start.detectorGeneration = none)
    (found : (managerAt start turns n).rules[index]? = some state) :
    ((managerAt start turns n).counted (turns n).call.detectorGeneration)[index]? =
      some { state with
        consecutive := min (standingRow start turns rule index n) rule.consecutiveFrames } := by
  have reset : ((managerAt start turns n).rules.map fun state =>
      { state with consecutive := 0 })[index]? = some { state with consecutive := 0 } := by
    simp [found]
  cases n with
  | zero =>
    have unset : (managerAt start turns 0).detectorGeneration ≠
        some (turns 0).call.detectorGeneration := by
      rw [managerAt, fresh]
      nofun
    rw [AlertManager.counted, if_neg unset, reset]
    simp [standingRow, Changes, row, streak]
  | succ n =>
    have last : (managerAt start turns (n + 1)).detectorGeneration =
        some (turns n).call.detectorGeneration := rfl
    by_cases same : (turns (n + 1)).call.detectorGeneration = (turns n).call.detectorGeneration
    · rw [AlertManager.counted, if_pos (last.trans (congrArg some same.symm)), found, standingRow,
        if_neg (fun change : Changes turns (n + 1) => change same), ← standing.count]
    · have new : (managerAt start turns (n + 1)).detectorGeneration ≠
          some (turns (n + 1)).call.detectorGeneration := by
        rw [last]
        exact fun equal => same (Option.some.inj equal).symm
      rw [AlertManager.counted, if_neg new, reset, standingRow,
        if_pos (show Changes turns (n + 1) from same)]
      simp

/-- The answer of call `n` for the rule. -/
theorem Standing.answer (standing : Standing start turns rule index n state)
    (fresh : start.detectorGeneration = none)
    (found : (managerAt start turns n).rules[index]? = some state) :
    ((managerAt start turns n).process (m := Id) (turns n).persist (turns n).names
        (turns n).call).1[index]? =
      let answer := (turns n).rule (managerAt start turns n).modelVersion index
        (nextIdAt start turns index n)
        { state with
          consecutive := min (standingRow start turns rule index n) rule.consecutiveFrames }
      some (answer.1, answer.2.1) := by
  have each := processRules_getElem (turns n) (managerAt start turns n).modelVersion 0
    (managerAt start turns n).nextId
    ((managerAt start turns n).counted (turns n).call.detectorGeneration) index
  rw [standing.counted fresh found, Nat.zero_add] at each
  exact each

theorem previous_succ_iff {i : Nat} : Previous start turns index i (n + 1) ↔
    (i = n ∧ Raised start turns index n) ∨
      (Previous start turns index i n ∧ ¬ Raised start turns index n) := by
  constructor
  · rintro ⟨before, raised, silent⟩
    rcases Nat.lt_or_ge i n with earlier | last
    · exact .inr ⟨⟨earlier, raised, fun k later inside => silent k later (by omega)⟩,
        silent n earlier (Nat.lt_succ_self n)⟩
    · obtain rfl : i = n := by omega
      exact .inl ⟨rfl, raised⟩
  · rintro (⟨rfl, raised⟩ | ⟨⟨before, raised, silent⟩, still⟩)
    · exact ⟨Nat.lt_succ_self i, raised, fun k later inside => by omega⟩
    · refine ⟨by omega, raised, fun k later inside => ?_⟩
      rcases Nat.lt_or_ge k n with earlier | last
      · exact silent k later earlier
      · obtain rfl : k = n := by omega
        exact still

theorem Standing.cooling_iff (standing : Standing start turns rule index n state) (count : Nat) :
    ({ state with consecutive := count } : RuleState D).cooling
        (turns n).call.monotonicTime = false ↔ Cooled start turns rule index n := by
  unfold RuleState.cooling
  simp only [standing.watched]
  constructor
  · intro cool i previous
    rw [(standing.last _).2 ⟨i, previous, rfl⟩] at cool
    simpa [elapsed] using cool
  · intro cooled
    cases known : state.lastAlert with
    | none => rfl
    | some t =>
      obtain ⟨i, previous, rfl⟩ := (standing.last t).1 known
      simpa [elapsed] using cooled i previous

theorem Due.hits (due : Due start turns rule index n) : (turns n).hits rule = true :=
  (due.2 n ⟨le_refl n, by omega⟩).1

/-- A row that is due was counted in full. -/
theorem Due.reached (due : Due start turns rule index n) :
    rule.consecutiveFrames - 1 ≤ standingRow start turns rule index n := by
  obtain ⟨enough, window⟩ := due
  -- the first frame of the window comes after every reset
  obtain ⟨-, after⟩ := window (n - (rule.consecutiveFrames - 1)) ⟨by omega, by omega⟩
  unfold standingRow
  split
  · rename_i change
    have := (after n (le_refl n)).2.2 change
    omega
  · refine le_streak_iff.2 ⟨by omega, fun j before counted => ⟨⟨?_, ?_⟩, ?_⟩⟩
    · exact (window j ⟨by omega, by omega⟩).1
    · intro raised
      have := (after j (by omega)).2.1 before raised
      omega
    · intro inner change
      have := (after j (by omega)).2.2 change
      omega

/-- Where the detector changes, a row of one frame is all there can be. -/
theorem due_of_change (hit : (turns n).hits rule = true) (one : rule.consecutiveFrames ≤ 1) :
    Due start turns rule index n := by
  refine ⟨by omega, fun j counted => ?_⟩
  obtain rfl : j = n := by
    obtain ⟨upper, lower⟩ := counted
    omega
  refine ⟨hit, fun r upTo => ⟨fun miss => ?_, fun before _ => before, fun _ => upTo⟩⟩
  rcases Nat.lt_or_ge r j with earlier | last
  · exact earlier
  · obtain rfl : r = j := by omega
    rw [hit] at miss
    contradiction

/-- Elsewhere the row that was counted is the window, and no reset lies in it. -/
theorem due_of_row (hit : (turns n).hits rule = true) (same : ¬ Changes turns n)
    (long : rule.consecutiveFrames - 1 ≤ row start turns rule index n) :
    Due start turns rule index n := by
  obtain ⟨short, inside⟩ := le_streak_iff.1 long
  have hits : ∀ r, Counted rule n r → (turns r).hits rule = true := by
    rintro r ⟨upper, lower⟩
    rcases Nat.lt_or_ge r n with earlier | last
    · exact (inside r earlier lower).1.1
    · obtain rfl : r = n := by omega
      exact hit
  refine ⟨by omega, fun j counted => ⟨hits j counted, fun r upTo => ⟨?_, ?_, ?_⟩⟩⟩
  · intro miss
    by_contra late
    rw [hits r ⟨upTo, by have := counted.2; omega⟩] at miss
    contradiction
  · intro before raised
    by_contra late
    exact (inside r before (by have := counted.2; omega)).1.2 raised
  · intro changed
    by_contra late
    rcases Nat.lt_or_ge r n with earlier | last
    · exact (inside r earlier (by have := counted.2; omega)).2
        (by have := counted.2; omega) changed
    · obtain rfl : r = n := by omega
      exact same changed

/-- The count is reached exactly at the frames that are due. -/
theorem due_iff : Due start turns rule index n ↔
    (turns n).hits rule = true ∧
      rule.consecutiveFrames - 1 ≤ standingRow start turns rule index n := by
  constructor
  · intro due
    exact ⟨due.hits, due.reached⟩
  · rintro ⟨hit, reached⟩
    by_cases change : Changes turns n
    · rw [standingRow, if_pos change] at reached
      exact due_of_change hit (by omega)
    · rw [standingRow, if_neg change] at reached
      exact due_of_row hit change reached

theorem Standing.raised_iff (standing : Standing start turns rule index n state)
    (fresh : start.detectorGeneration = none)
    (found : (managerAt start turns n).rules[index]? = some state) :
    Raised start turns index n ↔ Due start turns rule index n ∧ Cooled start turns rule index n ∧
      Stores start turns rule index n := by
  have reached : rule.consecutiveFrames ≤
        min (standingRow start turns rule index n) rule.consecutiveFrames + 1 ↔
      rule.consecutiveFrames - 1 ≤ standingRow start turns rule index n := by omega
  unfold Raised
  rw [standing.answer fresh found]
  simp only [Option.any_some, Turn.rule_raises, standing.cooling_iff]
  simp only [standing.watched, reached, due_iff, Stores, and_assoc]

theorem rules_succ : (managerAt start turns (n + 1)).rules =
    ((managerAt start turns n).process (m := Id) (turns n).persist (turns n).names
      (turns n).call).1.map (·.1) := rfl

theorem row_succ : row start turns rule index (n + 1) =
    if (turns n).hits rule = true ∧ ¬ Raised start turns index n then
      standingRow start turns rule index n + 1 else 0 := rfl

/-- **One call keeps what the state stands for.** -/
theorem Standing.turn (standing : Standing start turns rule index n state)
    (fresh : start.detectorGeneration = none)
    (found : (managerAt start turns n).rules[index]? = some state) :
    ∃ state', (managerAt start turns (n + 1)).rules[index]? = some state' ∧
      Standing start turns rule index (n + 1) state' := by
  have answer := standing.answer fresh found
  simp only at answer
  set counted : RuleState D := { state with
    consecutive := min (standingRow start turns rule index n) rule.consecutiveFrames } with counts
  set moved := (turns n).rule (managerAt start turns n).modelVersion index
    (nextIdAt start turns index n) counted with moves
  have raised : Raised start turns index n ↔ moved.2.1.isSome = true := by
    unfold Raised
    rw [answer, Option.any_some]
  have next : (managerAt start turns (n + 1)).rules[index]? = some moved.1 := by
    rw [rules_succ, List.getElem?_map, answer]
    rfl
  refine ⟨moved.1, next, ?_⟩
  have after := Turn.rule_state (turns n) (managerAt start turns n).modelVersion index
    (nextIdAt start turns index n) counted
  rw [← moves, show counted.rule = rule from standing.watched] at after
  by_cases alert : Raised start turns index n
  · rw [after, if_pos (raised.1 alert)]
    refine ⟨rfl, by simp [row_succ, alert], fun t => ?_⟩
    simp only [previous_succ_iff, alert, not_true_eq_false, and_false, or_false, and_true,
      exists_eq_left, Option.some.injEq]
    exact eq_comm
  · have kept : ∀ t, state.lastAlert = some t ↔
        ∃ i, Previous start turns index i (n + 1) ∧ t = (turns i).call.monotonicTime := by
      intro t
      simp only [previous_succ_iff, alert, not_false_eq_true, and_false, false_or, and_true]
      exact standing.last t
    rw [after, if_neg (mt raised.2 alert)]
    by_cases hit : (turns n).hits rule = true
    · rw [if_pos hit]
      refine ⟨rfl, ?_, kept⟩
      simp only [row_succ, hit, alert, counts, not_false_eq_true, and_self, if_true]
      omega
    · rw [if_neg hit]
      exact ⟨rfl, by simp [row_succ, hit], kept⟩

theorem exists_standing (fresh : start.detectorGeneration = none)
    (zero : ∃ state, start.rules[index]? = some state ∧
      Standing start turns rule index 0 state) (n : Nat) :
    ∃ state, (managerAt start turns n).rules[index]? = some state ∧
      Standing start turns rule index n state := by
  induction n with
  | zero => exact zero
  | succ n ih =>
    obtain ⟨state, found, standing⟩ := ih
    exact standing.turn fresh found

theorem exists_previous {i : Nat} (before : i < n) (raised : Raised start turns index i) :
    ∃ p, i ≤ p ∧ Previous start turns index p n := by
  induction n with
  | zero => omega
  | succ n ih =>
    by_cases last : Raised start turns index n
    · exact ⟨n, by omega, previous_succ_iff.2 (.inl ⟨rfl, last⟩)⟩
    · have earlier : i < n := by
        rcases Nat.lt_or_ge i n with earlier | same
        · exact earlier
        · obtain rfl : i = n := by omega
          exact absurd raised last
      obtain ⟨p, later, previous⟩ := ih earlier
      exact ⟨p, later, previous_succ_iff.2 (.inr ⟨previous, last⟩)⟩

end Turn

/-- Frame `k` is the next one after `n` that matches the rule. -/
def NextHit (rule : AlertRuleConfig D) (n k : Nat) : Prop :=
  n < k ∧ (turns k).hits rule = true ∧ ∀ j, n < j → j < k → (turns j).hits rule = false

/-- The count of frame `n` is kept until frame `k`: a rule that asks for one frame has nothing
to keep. -/
def Keeps (rule : AlertRuleConfig D) (n k : Nat) : Prop :=
  rule.consecutiveFrames ≤ 1 ∨ (k = n + 1 ∧ ¬ Changes turns k)

section Refused

variable {start turns} {rule : AlertRuleConfig D} {index n k : Nat}

/-- A frame that was due and raised nothing leaves the next one due. -/
theorem Due.again (due : Due start turns rule index n) (silent : ¬ Raised start turns index n)
    (hit : (turns k).hits rule = true) (keeps : Keeps turns rule n k) :
    Due start turns rule index k := by
  have reached := due.reached
  refine due_iff.2 ⟨hit, ?_⟩
  rcases keeps with one | ⟨rfl, same⟩
  · omega
  · rw [standingRow, if_neg same, row_succ, if_pos ⟨due.hits, silent⟩]
    omega

/-- The cooldown stays passed as long as the rule raises nothing. -/
theorem Cooled.later (cooled : Cooled start turns rule index n)
    (ordered : Monotone fun n => (turns n).call.monotonicTime) (after : n < k)
    (silent : ∀ i, n ≤ i → i < k → ¬ Raised start turns index i) :
    Cooled start turns rule index k := by
  rintro i ⟨before, raised, last⟩
  have earlier : i < n := by
    by_contra late
    exact silent i (Nat.not_lt.1 late) before raised
  have apart := cooled i ⟨earlier, raised, fun j up down => last j up (by omega)⟩
  have time := ordered after.le
  simp only [elapsed] at apart time ⊢
  omega

end Refused

end Sequence

/-- **When a rule raises an alert.** Along every sequence of calls since `configure` whose
monotonic time does not go back, with any frames, detectors and answers of the store: the rule
raises an alert exactly at the frames that complete its row after its last reset, once the
cooldown since its previous alert has passed, if that alert is stored. So two of its alerts
count no frame together and lie the cooldown apart, and an alert that was not stored is raised
at the next matching frame, if it is stored there. -/
theorem rule_semantics (manager : AlertManager D) (rules : List (AlertRuleConfig D))
    (directory : List Char) (version : String) (turns : Nat → Turn F D) (index : Nat)
    (rule : AlertRuleConfig D) (found : rules[index]? = some rule)
    (ordered : Monotone fun n => (turns n).call.monotonicTime) :
    let start := manager.configure rules directory version
    (∀ n, Raised start turns index n ↔ Due start turns rule index n ∧
      Cooled start turns rule index n ∧ Stores start turns rule index n) ∧
    (∀ i n, i < n → Raised start turns index i → Raised start turns index n →
      (∀ j, Counted rule i j → ¬ Counted rule n j) ∧
        rule.cooldownSeconds * 1000000000 ≤ elapsed turns i n) ∧
    (∀ n k, Due start turns rule index n → Cooled start turns rule index n →
      ¬ Stores start turns rule index n → NextHit turns rule n k → Keeps turns rule n k →
      (Raised start turns index k ↔ Stores start turns rule index k)) := by
  intro start
  have raises : ∀ n, Raised start turns index n ↔ Due start turns rule index n ∧
      Cooled start turns rule index n ∧ Stores start turns rule index n := by
    intro n
    obtain ⟨state, known, standing⟩ := exists_standing rfl
      (standing_zero turns manager rules directory version found) n
    exact standing.raised_iff rfl known
  refine ⟨raises, ?_, ?_⟩
  · intro i n before first second
    obtain ⟨due, cooled, -⟩ := (raises n).1 second
    constructor
    · intro j inFirst inSecond
      have after := ((due.2 j inSecond).2 i (by omega)).2.1 before first
      have := inFirst.1
      omega
    · obtain ⟨p, later, previous⟩ := exists_previous before first
      have apart := cooled p previous
      have time := ordered later
      simp only [elapsed] at apart time ⊢
      omega
  · intro n k due cooled refused next keeps
    obtain ⟨after, hit, between⟩ := next
    have silent : ¬ Raised start turns index n := fun raised => refused ((raises n).1 raised).2.2
    have cool : Cooled start turns rule index k := by
      refine cooled.later ordered after fun i from' before raised => ?_
      rcases Nat.eq_or_lt_of_le from' with rfl | later
      · exact silent raised
      · have hits := ((raises i).1 raised).1.hits
        rw [between i later before] at hits
        contradiction
    rw [raises k]
    exact ⟨fun all => all.2.2, fun stored => ⟨due.again silent hit keeps, cool, stored⟩⟩

/-- A person in every frame, a frame a second; the second alert is not stored. -/
def everySecond (n : Nat) : Turn ℚ ℚ where
  call := {
    result := { detections := [⟨0, 1, 0, 0, 1, 1⟩] }
    frameWidth := 1
    frameHeight := 1
    detectorGeneration := 0
    wallTime := 0
    monotonicTime := n * 1000000000 }
  names := ["person"]
  persist := if n = 3 then fun _ => none else some

def twoPersons : AlertRuleConfig ℚ :=
  { className := "person", confidence := 0, consecutiveFrames := 2, cooldownSeconds := 1 }

/-- The alert refused at the fourth frame is raised at the fifth. -/
theorem rule_semantics_retry :
    let start := ({} : AlertManager ℚ).configure [twoPersons] [] ""
    Raised start everySecond 0 1 ∧ ¬ Raised start everySecond 0 3 ∧
      Due start everySecond twoPersons 0 4 := by
  have semantics := rule_semantics {} [twoPersons] [] "" everySecond 0 twoPersons rfl
    fun i n later => by
      simp only [everySecond]
      omega
  exact ⟨by decide, by decide, ((semantics.1 4).1 (by decide)).1⟩

end SkaiEdge.Alerts
