import Mathlib

/-!
# RTSP recovery (`include/skai/video/rtsp_recovery.hpp`)

The frame-freshness and retry policy of the RTSP source: seven operations on one record. Times
are nanoseconds of the steady clock, the configured delays milliseconds. Both are 64-bit words in
the source, as is `reconnect_count_`; here times are integers and the other two unbounded. Only
`failure_streak_` is read back as the 32 bits it has.

`retry_policy` says of every sequence of calls what the record tells: it is read off the
history of the calls and of what they answered.
-/

namespace SkaiEdge.Video

inductive SourceHealth where
  | stopped
  | connecting
  | connected
  | degraded
  | stalled
  | reconnecting
  | error
  deriving DecidableEq, Repr

/-- Frames arrive. -/
def SourceHealth.live : SourceHealth → Bool
  | .connected | .degraded => true
  | _ => false

structure RtspRecovery where
  stallTimeout : Nat
  reconnectDelay : Nat
  maxReconnectDelay : Nat
  health : SourceHealth := .stopped
  lastFrame : Option Int := none
  degradedUntil : Option Int := none
  nextRetry : Int := 0
  failureStreak : UInt32 := 0
  reconnectCount : Nat := 0
  deriving DecidableEq, Repr

/-- A delay on the clock. -/
def milliseconds (n : Nat) : Int := n * 1000000

/-- The doubling loop of `fail`, with the turns that are left: the delay it ends with, and the
products `delay * 2` that it computed for it. -/
def doubledDelay (maxDelay : Nat) : Nat → Nat → Nat × List Nat
  | 0, delay => (delay, [])
  | turns + 1, delay =>
    let product := delay * 2
    let delay := min product maxDelay
    if delay ≥ maxDelay then (delay, [product])
    else
      let (delay, products) := doubledDelay maxDelay turns delay
      (delay, product :: products)

namespace RtspRecovery

def begin (r : RtspRecovery) : RtspRecovery :=
  { r with
    health := .connecting
    lastFrame := none
    degradedUntil := none
    failureStreak := 0
    reconnectCount := 0 }

def frame (r : RtspRecovery) (now : Int) : RtspRecovery :=
  { r with
    health := if r.degradedUntil.any (now < ·) then .degraded else .connected
    lastFrame := some now
    failureStreak := 0 }

def packetLoss (r : RtspRecovery) (now : Int) : RtspRecovery :=
  if r.health.live then
    { r with health := .degraded, degradedUntil := some (now + milliseconds 1000) }
  else r

def checkStall (r : RtspRecovery) (now : Int) : Bool × RtspRecovery :=
  if r.health.live ∧ r.lastFrame.any (fun last => now - last ≥ milliseconds r.stallTimeout) then
    (true, { r with health := .stalled })
  else (false, r)

/-- The loop as the next `fail` runs it. -/
def backoff (r : RtspRecovery) : Nat × List Nat :=
  doubledDelay r.maxReconnectDelay ((r.failureStreak + 1).toNat - 1) r.reconnectDelay

def fail (r : RtspRecovery) (now : Int) : RtspRecovery :=
  { r with
    health := .reconnecting
    degradedUntil := none
    failureStreak := r.failureStreak + 1
    nextRetry := now + milliseconds (min r.backoff.1 r.maxReconnectDelay) }

def retryDue (r : RtspRecovery) (now : Int) : Bool :=
  r.health = .reconnecting && now ≥ r.nextRetry

def retry (r : RtspRecovery) (now : Int) : RtspRecovery :=
  if r.retryDue now then { r with health := .connecting, reconnectCount := r.reconnectCount + 1 }
  else r

def stop (r : RtspRecovery) : RtspRecovery := { r with health := .stopped }

end RtspRecovery

/-! ## Calls and their history -/

inductive RecoveryCall where
  | begin (now : Int)
  | frame (now : Int)
  | packetLoss (now : Int)
  | checkStall (now : Int)
  | fail (now : Int)
  | retry (now : Int)
  | stop
  deriving DecidableEq, Repr

def RtspRecovery.serve (r : RtspRecovery) : RecoveryCall → RtspRecovery
  | .begin _ => r.begin
  | .frame now => r.frame now
  | .packetLoss now => r.packetLoss now
  | .checkStall now => (r.checkStall now).2
  | .fail now => r.fail now
  | .retry now => r.retry now
  | .stop => r.stop

/-- A call with what it met: whether `check_stall` returned true, whether the retry was due. -/
structure Served where
  call : RecoveryCall
  answer : Bool := false
  deriving DecidableEq, Repr

def RtspRecovery.answer (r : RtspRecovery) : RecoveryCall → Bool
  | .checkStall now => (r.checkStall now).1
  | .retry now => r.retryDue now
  | _ => false

def history : RtspRecovery → List RecoveryCall → List Served
  | _, [] => []
  | r, call :: calls => ⟨call, r.answer call⟩ :: history (r.serve call) calls

def RtspRecovery.after (r : RtspRecovery) (calls : List RecoveryCall) : RtspRecovery :=
  calls.foldl serve r

namespace Served

def isBegin (e : Served) : Bool := e.call matches .begin _

def isFrame (e : Served) : Bool := e.call matches .frame _

def isFail (e : Served) : Bool := e.call matches .fail _

/-- A retry that was due. -/
def reconnects (e : Served) : Bool := (e.call matches .retry _) && e.answer

/-- A stall that was reported. -/
def stalls (e : Served) : Bool := (e.call matches .checkStall _) && e.answer

/-- After it, frames have to arrive anew. -/
def interrupts (e : Served) : Bool := e.isBegin || e.isFail || e.stalls || e.call = .stop

end Served

/-- The calls behind the last one that is a `reset`. -/
def since (reset : Served → Bool) (past : List Served) : List Served :=
  past.rtakeWhile fun e => !reset e

/-- The failures since the last frame or `begin`. -/
def failures (past : List Served) : Nat :=
  (since (fun e => e.isFrame || e.isBegin) past).countP Served.isFail

section Since

variable {reset : Served → Bool} {past : List Served} {e : Served}

theorem since_reset (resets : reset e = true) : since reset (past ++ [e]) = [] :=
  List.rtakeWhile_concat_neg _ _ _ (by simp [resets])

theorem since_snoc (goes : reset e = false) :
    since reset (past ++ [e]) = since reset past ++ [e] :=
  List.rtakeWhile_concat_pos _ _ _ (by simp [goes])

end Since

theorem history_snoc (r : RtspRecovery) (calls : List RecoveryCall) (call : RecoveryCall) :
    history r (calls ++ [call]) = history r calls ++ [⟨call, (r.after calls).answer call⟩] := by
  induction calls generalizing r with
  | nil => rfl
  | cons first calls ih =>
    rw [List.cons_append, history, ih, history]
    rfl

/-! ## The delay -/

/-- **The doubling is exact**, although it stops at the maximum. -/
theorem doubledDelay_eq (maxDelay turns delay : Nat) :
    min (doubledDelay maxDelay turns delay).1 maxDelay = min (delay * 2 ^ turns) maxDelay := by
  induction turns generalizing delay with
  | zero => simp [doubledDelay]
  | succ turns ih =>
    rw [doubledDelay]
    have grown : delay * 2 ^ (turns + 1) = delay * 2 * 2 ^ turns := by ring
    split
    · rename_i reached
      have large : maxDelay ≤ delay * 2 := by omega
      have larger : delay * 2 ≤ delay * 2 ^ (turns + 1) := by
        rw [grown]
        exact Nat.le_mul_of_pos_right _ (Nat.two_pow_pos turns)
      omega
    · rename_i below
      have same : min (delay * 2) maxDelay = delay * 2 := by omega
      rw [ih, same, grown]

/-- No product is beyond twice the maximum. -/
theorem doubledDelay_products {maxDelay turns delay : Nat} (small : delay ≤ maxDelay) :
    ∀ product ∈ (doubledDelay maxDelay turns delay).2, product ≤ 2 * maxDelay := by
  induction turns generalizing delay with
  | zero => simp [doubledDelay]
  | succ turns ih =>
    intro product member
    rw [doubledDelay] at member
    split at member
    · obtain rfl := List.mem_singleton.1 member
      omega
    · rcases List.mem_cons.1 member with rfl | later
      · omega
      · exact ih (Nat.min_le_right _ _) product later

/-! ## What the record tells -/

/-- The record after the calls `past`. -/
structure RtspRecovery.Tells (r : RtspRecovery) (past : List Served) : Prop where
  streak : r.failureStreak.toNat = failures past % 2 ^ 32
  count : r.reconnectCount = (since Served.isBegin past).countP Served.reconnects
  arrived : r.health.live = true → ∃ e ∈ since Served.interrupts past, e.isFrame = true
  last : r.health.live = true → ∃ before now later, past = before ++ ⟨.frame now, false⟩ :: later ∧
    (∀ e ∈ later, e.isFrame = false) ∧ r.lastFrame = some now
  unstalled : r.health.live = true → ∀ e ∈ since Served.isFrame past, e.stalls = false

section Tells

variable {r t : RtspRecovery} {past : List Served} {e : Served}

theorem failures_reset (resets : (e.isFrame || e.isBegin) = true) : failures (past ++ [e]) = 0 := by
  rw [failures, since_reset resets]
  rfl

theorem failures_snoc (goes : (e.isFrame || e.isBegin) = false) :
    failures (past ++ [e]) = failures past + if e.isFail then 1 else 0 := by
  rw [failures, since_snoc goes, List.countP_append, List.countP_singleton]
  rfl

theorem reconnects_snoc (goes : e.isBegin = false) :
    (since Served.isBegin (past ++ [e])).countP Served.reconnects =
      (since Served.isBegin past).countP Served.reconnects + if e.reconnects then 1 else 0 := by
  rw [since_snoc goes, List.countP_append, List.countP_singleton]

/-- A call that brings no frame. Whatever it does, frames arrive after it only if they did before
it and it is no interruption. -/
theorem RtspRecovery.Tells.snoc (tells : r.Tells past) (none' : e.isFrame = false)
    (streak : t.failureStreak.toNat = failures (past ++ [e]) % 2 ^ 32)
    (count : t.reconnectCount = (since Served.isBegin (past ++ [e])).countP Served.reconnects)
    (goes : t.health.live = true →
      r.health.live = true ∧ t.lastFrame = r.lastFrame ∧ e.interrupts = false) :
    t.Tells (past ++ [e]) := by
  refine ⟨streak, count, fun live => ?_, fun live => ?_, fun live => ?_⟩
  · obtain ⟨before, -, calm⟩ := goes live
    obtain ⟨f, member, frame⟩ := tells.arrived before
    rw [since_snoc calm]
    exact ⟨f, List.mem_append_left _ member, frame⟩
  · obtain ⟨before, same, -⟩ := goes live
    obtain ⟨earlier, now, later, split', noFrame, known⟩ := tells.last before
    refine ⟨earlier, now, later ++ [e], by rw [split']; simp, ?_, same.trans known⟩
    intro f member
    rcases List.mem_append.1 member with inside | last
    · exact noFrame f inside
    · rw [List.mem_singleton.1 last]
      exact none'
  · obtain ⟨before, -, calm⟩ := goes live
    have quiet : e.stalls = false := by
      simp only [Served.interrupts, Bool.or_eq_false_iff] at calm
      exact calm.1.2
    rw [since_snoc none']
    intro f member
    rcases List.mem_append.1 member with inside | last
    · exact tells.unstalled before f inside
    · rw [List.mem_singleton.1 last]
      exact quiet

/-- A call that neither brings a frame nor fails nor reconnects, with the counts unchanged. -/
theorem RtspRecovery.Tells.quiet (tells : r.Tells past) (resets : (e.isFrame || e.isBegin) = false)
    (counts : (e.isFail || e.reconnects) = false) (streak : t.failureStreak = r.failureStreak)
    (count : t.reconnectCount = r.reconnectCount)
    (goes : t.health.live = true →
      r.health.live = true ∧ t.lastFrame = r.lastFrame ∧ e.interrupts = false) :
    t.Tells (past ++ [e]) := by
  obtain ⟨noFrame, noBegin⟩ := Bool.or_eq_false_iff.1 resets
  obtain ⟨noFail, noReconnect⟩ := Bool.or_eq_false_iff.1 counts
  refine tells.snoc noFrame ?_ ?_ goes
  · rw [failures_snoc resets, noFail, streak]
    exact tells.streak
  · rw [reconnects_snoc noBegin, noReconnect, count]
    exact tells.count

/-- **One call.** -/
theorem RtspRecovery.Tells.serve (tells : r.Tells past) (call : RecoveryCall) :
    (r.serve call).Tells (past ++ [⟨call, r.answer call⟩]) := by
  cases call with
  | begin now =>
    refine tells.snoc rfl ?_ ?_ (by simp [RtspRecovery.serve, begin, SourceHealth.live])
    · rw [failures_reset rfl]
      rfl
    · rw [since_reset rfl]
      rfl
  | frame now =>
    refine ⟨?_, ?_, fun _ => ?_, fun _ => ⟨past, now, [], rfl, by simp, rfl⟩, fun _ => ?_⟩
    · rw [failures_reset rfl]
      rfl
    · rw [reconnects_snoc rfl]
      exact tells.count
    · rw [since_snoc rfl]
      exact ⟨_, List.mem_append_right _ (List.mem_singleton_self _), rfl⟩
    · rw [since_reset rfl]
      simp
  | packetLoss now =>
    have same : (r.packetLoss now).failureStreak = r.failureStreak ∧
        (r.packetLoss now).reconnectCount = r.reconnectCount ∧
        (r.packetLoss now).lastFrame = r.lastFrame ∧
        ((r.packetLoss now).health.live = true → r.health.live = true) := by
      rw [packetLoss]
      split
      · rename_i live
        exact ⟨rfl, rfl, rfl, fun _ => live⟩
      · exact ⟨rfl, rfl, rfl, id⟩
    obtain ⟨streak, count, last, live⟩ := same
    exact tells.quiet rfl rfl streak count fun after => ⟨live after, last, rfl⟩
  | checkStall now =>
    have shape : (r.checkStall now = (true, { r with health := .stalled })) ∨
        r.checkStall now = (false, r) := by
      rw [checkStall]
      split
      · exact .inl rfl
      · exact .inr rfl
    rw [RtspRecovery.serve, RtspRecovery.answer]
    rcases shape with stalled | calm
    · rw [stalled]
      exact tells.quiet rfl rfl rfl rfl (by simp [SourceHealth.live])
    · rw [calm]
      exact tells.quiet rfl rfl rfl rfl fun live => ⟨live, rfl, rfl⟩
  | fail now =>
    refine tells.snoc rfl ?_ ?_ (by simp [RtspRecovery.serve, fail, SourceHealth.live])
    · rw [failures_snoc rfl]
      simp only [RtspRecovery.serve, fail, UInt32.toNat_add, tells.streak]
      simp [Served.isFail]
    · rw [reconnects_snoc rfl]
      exact tells.count
  | retry now =>
    rw [RtspRecovery.serve, RtspRecovery.answer, retry]
    cases due : r.retryDue now with
    | true =>
      rw [if_pos rfl]
      refine tells.snoc rfl ?_ ?_ (by simp [SourceHealth.live])
      · rw [failures_snoc rfl]
        exact tells.streak
      · rw [reconnects_snoc rfl]
        exact congrArg (· + 1) tells.count
    | false => exact tells.quiet rfl rfl rfl rfl fun live => ⟨live, rfl, rfl⟩
  | stop =>
    exact tells.quiet rfl rfl rfl rfl (by simp [RtspRecovery.serve, stop, SourceHealth.live])

end Tells

/-- The policy before its first call. -/
def RtspRecovery.new (stallTimeout reconnectDelay maxReconnectDelay : Nat) : RtspRecovery where
  stallTimeout
  reconnectDelay
  maxReconnectDelay

/-- What no call changes. -/
def RtspRecovery.settings (r : RtspRecovery) : Nat × Nat × Nat :=
  (r.stallTimeout, r.reconnectDelay, r.maxReconnectDelay)

theorem serve_settings (r : RtspRecovery) (call : RecoveryCall) :
    (r.serve call).settings = r.settings := by
  cases call with
  | packetLoss now =>
    rw [RtspRecovery.serve, RtspRecovery.packetLoss]
    split <;> rfl
  | checkStall now =>
    rw [RtspRecovery.serve, RtspRecovery.checkStall]
    split <;> rfl
  | retry now =>
    rw [RtspRecovery.serve, RtspRecovery.retry]
    split <;> rfl
  | _ => rfl

theorem after_settings (r : RtspRecovery) (calls : List RecoveryCall) :
    (r.after calls).settings = r.settings := by
  induction calls generalizing r with
  | nil => rfl
  | cons call calls ih => exact (ih (r.serve call)).trans (serve_settings r call)

/-- **Every sequence of calls.** -/
theorem tells_after (stallTimeout reconnectDelay maxReconnectDelay : Nat)
    (calls : List RecoveryCall) :
    let r := RtspRecovery.new stallTimeout reconnectDelay maxReconnectDelay
    (r.after calls).Tells (history r calls) := by
  intro r
  induction calls using List.reverseRecOn with
  | nil =>
    have dead : ¬ r.health.live = true := Bool.false_ne_true
    exact ⟨rfl, rfl, fun live => absurd live dead, fun live => absurd live dead,
      fun live => absurd live dead⟩
  | append_singleton calls call ih =>
    rw [history_snoc, RtspRecovery.after, List.foldl_append]
    exact ih.serve call

/-- **The retry policy.** After every sequence of calls: the `n`-th failure since the last frame or
`begin` puts the next retry off by the delay doubled `n - 1` times, up to the maximum, with no
product beyond twice the maximum; frames count as arriving only if one did since the last `begin`,
failure, stall or `stop`; the reconnects are the retries since `begin` that were due; and a stall
is reported only a stall timeout after the last frame, and once after it. -/
theorem retry_policy {stallTimeout reconnectDelay maxReconnectDelay : Nat}
    (ordered : reconnectDelay ≤ maxReconnectDelay) (calls : List RecoveryCall) (now : Int) :
    let start := RtspRecovery.new stallTimeout reconnectDelay maxReconnectDelay
    let past := history start calls
    let r := start.after calls
    (∀ n, n = failures (history start (calls ++ [.fail now])) → n < 2 ^ 32 →
      (start.after (calls ++ [.fail now])).nextRetry =
        now + milliseconds (min (reconnectDelay * 2 ^ (n - 1)) maxReconnectDelay)) ∧
    (∀ product ∈ r.backoff.2, product ≤ 2 * maxReconnectDelay) ∧
    (r.health = .connected ∨ r.health = .degraded →
      ∃ e ∈ since Served.interrupts past, e.isFrame = true) ∧
    r.reconnectCount = (since Served.isBegin past).countP Served.reconnects ∧
    ((r.checkStall now).1 = true →
      (∃ before last later, past = before ++ ⟨.frame last, false⟩ :: later ∧
        (∀ e ∈ later, e.isFrame = false) ∧ milliseconds stallTimeout ≤ now - last) ∧
      ∀ e ∈ since Served.isFrame past, e.stalls = false) := by
  intro start past r
  have tells : r.Tells past := tells_after stallTimeout reconnectDelay maxReconnectDelay calls
  have settings : r.settings = (stallTimeout, reconnectDelay, maxReconnectDelay) :=
    after_settings start calls
  simp only [RtspRecovery.settings, Prod.mk.injEq] at settings
  obtain ⟨stall, delay, maximum⟩ := settings
  refine ⟨?_, ?_, ?_, tells.count, ?_⟩
  · rintro n rfl few
    rw [history_snoc, failures_snoc rfl] at few ⊢
    have last : (start.after (calls ++ [.fail now])) = r.fail now := by
      rw [RtspRecovery.after, List.foldl_append]
      rfl
    have streak : (r.failureStreak + 1).toNat = failures past + 1 := by
      have one : (1 : UInt32).toNat = 1 := rfl
      have few : failures past + 1 < 2 ^ 32 := few
      rw [UInt32.toNat_add, tells.streak, one]
      omega
    rw [last]
    simp only [RtspRecovery.fail, RtspRecovery.backoff, streak, delay, maximum, doubledDelay_eq,
      Nat.add_sub_cancel]
    rfl
  · rw [RtspRecovery.backoff, maximum, delay]
    exact doubledDelay_products ordered
  · intro live
    apply tells.arrived
    rcases live with connected | degraded
    · rw [connected]
      rfl
    · rw [degraded]
      rfl
  · intro stalled
    rw [RtspRecovery.checkStall] at stalled
    split at stalled
    · rename_i due
      obtain ⟨before, last, later, split', noFrame, known⟩ := tells.last due.1
      refine ⟨⟨before, last, later, split', noFrame, ?_⟩, tells.unstalled due.1⟩
      have passed := due.2
      rw [known, stall] at passed
      exact of_decide_eq_true passed
    · contradiction

/-- Three failures with delays of one to three seconds. -/
theorem retry_policy_three : ((RtspRecovery.new 5000 1000 3000).after
    [.begin 0, .fail 0, .retry 1000000000, .fail 1000000000, .fail 5000000000]).nextRetry =
      5000000000 + milliseconds 3000 :=
  (@retry_policy 5000 1000 3000 (by decide)
    [.begin 0, .fail 0, .retry 1000000000, .fail 1000000000] 5000000000).1 3 (by decide) (by decide)

end SkaiEdge.Video
