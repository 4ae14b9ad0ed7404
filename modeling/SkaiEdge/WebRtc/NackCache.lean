import SkaiEdge.Lib.FifoCache
import SkaiEdge.WebRtc.NackResponder

/-!
# The retransmission cache (`src/webrtc/webrtc_manager.cpp`)

`order_` and `packets_` together are a FIFO cache of 512 packets, keyed by the sequence number:
`remember_holds` says that `outgoing` does with them what `FifoCache.put` does. An access to the
cache is a batch sent or the lookup of one requested number, each under the lock, so a run of
accesses is any interleaving of the sender with the answers to NACKs.
-/

namespace SkaiEdge.WebRtc.NackResponder

open SkaiEdge.Lib

/-- An RTP message goes into the cache; a control message and one shorter than an RTP header do not. -/
def isRtp (message : Message) : Bool := message.type ≠ .control ∧ message.data.length ≥ 12

def carries (sequence : UInt16) (message : Message) : Bool :=
  isRtp message ∧ seqNumber message.data = sequence

/-- The message most recently sent under a sequence number. -/
def lastSent (log : List Message) (sequence : UInt16) : Option Message :=
  (log.filter (carries sequence)).getLast?

/-- What the cache is to satisfy after the messages `log`. -/
structure CacheKept (s : State) (log : List Message) : Prop where
  distinct : s.order.Nodup
  keys : ∀ sequence, sequence ∈ s.order ↔ (s.packets sequence).isSome = true
  bounded : s.order.length ≤ 512
  latest : ∀ sequence message, s.packets sequence = some message → lastSent log sequence = some message

inductive Access where
  | outgoing (messages : List Message)
  | lookup (sequence : UInt16)

/-- The responder and all messages sent through it. -/
structure History where
  state : State := init
  log : List Message := []

def History.step (h : History) : Access → History
  | .outgoing messages => ⟨outgoing h.state messages, h.log ++ messages⟩
  | .lookup sequence => ⟨retransmit h.state sequence, h.log⟩

def after (accesses : List Access) : History := accesses.foldl History.step {}

/-- A message asks for a sequence number if an entry of one of its NACKs names it. -/
def Asks (rtcp : Rtcp) (beyond : Nat → UInt8) (message : Message) (sequence : UInt16) : Prop :=
  message.type = .control ∧ ∃ offset, Starts message.data 0 offset ∧ ∃ read,
    Claimed rtcp message.data read offset ∧
      sequence ∈ rtcp.getSequenceNumbers (partBytes message.data beyond read.start)

/-! ## The cache -/

/-- What goes into the cache of the messages sent. -/
def puts (log : List Message) : List (UInt16 × Message) :=
  (log.filter isRtp).map fun message => (seqNumber message.data, message)

theorem puts_snoc {log : List Message} {message : Message} (rtp : isRtp message = true) :
    puts (log ++ [message]) = puts log ++ [(seqNumber message.data, message)] := by
  simp [puts, rtp]

/-- The loop drops the numbers in front, and the packets under them. -/
theorem evict_eq (packets : UInt16 → Option Message) (order : List UInt16) :
    evict packets order = (order.drop (order.length - 512),
      fun k => if k ∈ order.take (order.length - 512) then none else packets k) := by
  induction order generalizing packets with
  | nil => simp [evict]
  | cons front rest ih =>
    rw [evict]
    split
    · rename_i tooMany
      have more : (front :: rest).length - 512 = rest.length - 512 + 1 := by
        rw [List.length_cons] at tooMany ⊢
        omega
      rw [ih, more]
      generalize rest.length - 512 = excess
      rw [List.drop_succ_cons, List.take_succ_cons]
      refine congrArg (Prod.mk _) ?_
      funext k
      by_cases first : k = front
      · subst first
        simp
      · simp [first]
    · rename_i within
      have fits : (front :: rest).length - 512 = 0 := by omega
      rw [fits, List.drop_zero, List.take_zero]
      simp only [List.not_mem_nil, if_false]

/-- The responder's cache is `c`. -/
structure Holds (s : State) (c : FifoCache UInt16 Message) : Prop where
  order : s.order = c.order
  packets : s.packets = c.entries

/-- **One message** is one `put`, or nothing. -/
theorem remember_holds {s : State} {log : List Message} (holds : Holds s (.fill 512 (puts log)))
    (message : Message) : Holds (remember s message) (.fill 512 (puts (log ++ [message]))) := by
  by_cases skipped : message.type = .control ∨ message.data.length < 12
  · have other : isRtp message = false := by
      simp only [isRtp, decide_eq_false_iff_not]
      rcases skipped with control | short
      · exact fun rtp => rtp.1 control
      · exact fun rtp => Nat.not_le_of_lt short rtp.2
    have same : puts (log ++ [message]) = puts log := by simp [puts, other]
    rw [remember, if_pos skipped, same]
    exact holds
  · have rtp : isRtp message = true := by
      rw [not_or, Nat.not_lt] at skipped
      exact decide_eq_true skipped
    rw [remember, if_neg skipped, puts_snoc rtp, FifoCache.fill_snoc]
    simp only [evict_eq, holds.order, holds.packets]
    exact ⟨rfl, rfl⟩

theorem remembers_hold {s : State} {log : List Message} (holds : Holds s (.fill 512 (puts log)))
    (messages : List Message) :
    Holds (messages.foldl remember s) (.fill 512 (puts (log ++ messages))) := by
  induction messages generalizing s log with
  | nil => simpa using holds
  | cons message messages ih =>
    have next := ih (remember_holds holds message)
    rwa [List.append_assoc] at next

/-- **What is sent is cached**: its eviction takes a later message. -/
theorem remember_cached {s : State} {log : List Message} (holds : Holds s (.fill 512 (puts log)))
    {message : Message} (rtp : isRtp message = true) :
    (remember s message).packets (seqNumber message.data) = some message := by
  rw [(remember_holds holds message).packets, puts_snoc rtp, FifoCache.fill_snoc]
  exact FifoCache.entries_put_self (by decide) (FifoCache.length_fill_le 512 _)

theorem latest_puts (log : List Message) (sequence : UInt16) :
    FifoCache.latest (puts log) sequence = lastSent log sequence := by
  have same : (log.filter isRtp).filter (fun message => decide (seqNumber message.data = sequence)) =
      log.filter (carries sequence) := by
    rw [List.filter_filter]
    refine List.filter_congr fun message _ => ?_
    simp [carries, Bool.and_comm]
  rw [FifoCache.latest, puts, List.filter_map, List.getLast?_map, Option.map_map, lastSent, ← same]
  exact Option.map_id' 

theorem Holds.kept {s : State} {log : List Message} (holds : Holds s (.fill 512 (puts log))) :
    CacheKept s log := by
  refine ⟨?_, ?_, ?_, ?_⟩
  · rw [holds.order]
    exact (FifoCache.fill 512 (puts log)).distinct
  · rw [holds.order, holds.packets]
    exact (FifoCache.fill 512 (puts log)).keys
  · rw [holds.order]
    exact FifoCache.length_fill_le 512 _
  · intro sequence message cached
    rw [holds.packets] at cached
    rw [← latest_puts]
    exact FifoCache.latest_of_fill _ cached

theorem retransmit_holds {s : State} {c : FifoCache UInt16 Message} (holds : Holds s c)
    (sequence : UInt16) : Holds (retransmit s sequence) c := by
  unfold retransmit
  split
  · exact holds
  · exact ⟨holds.order, holds.packets⟩

theorem after_holds (accesses : List Access) :
    Holds (after accesses).state (.fill 512 (puts (after accesses).log)) := by
  induction accesses using List.reverseRecOn with
  | nil => exact ⟨rfl, rfl⟩
  | append_singleton accesses access ih =>
    rw [after, List.foldl_append]
    cases access with
    | outgoing messages =>
      obtain ⟨order, packets⟩ := remembers_hold ih messages
      exact ⟨order, packets⟩
    | lookup sequence => exact retransmit_holds ih sequence

/-! ## The answers -/

/-- From `s` to `t` the numbers `asked` were looked up, and answered where cached. -/
structure Answered (asked : List UInt16) (s t : State) : Prop where
  packets : t.packets = s.packets
  sent : t.sent = s.sent ++ asked.filterMap s.packets

theorem answered_retransmit (s : State) (sequence : UInt16) :
    Answered [sequence] s (retransmit s sequence) := by
  unfold retransmit
  split
  · rename_i absent
    exact ⟨rfl, by simp [absent]⟩
  · rename_i found cached
    exact ⟨rfl, by simp [cached]⟩

/-- A loop asks for what its turns ask for. -/
theorem answered_foldl {α : Type} {turn : State → α → State} {asked : α → List UInt16}
    (each : ∀ s a, Answered (asked a) s (turn s a)) (l : List α) (s : State) :
    Answered (l.flatMap asked) s (l.foldl turn s) := by
  induction l generalizing s with
  | nil => exact ⟨rfl, by simp⟩
  | cons a l ih =>
    have first := each s a
    have rest := ih (turn s a)
    refine ⟨rest.packets.trans first.packets, ?_⟩
    rw [List.foldl_cons, rest.sent, first.packets, first.sent, List.flatMap_cons,
      List.filterMap_append, List.append_assoc]

section Asked

variable (rtcp : Rtcp) (beyond : Nat → UInt8)

/-- The numbers that an entry names. -/
def askedByPart (data : List UInt8) (offset index : Nat) : List UInt16 :=
  rtcp.getSequenceNumbers
    (partBytes data beyond (PartRead.start ⟨offset, lengthInBytes data offset, index⟩))

def askedByNack (data : List UInt8) (offset : Nat) : List UInt16 :=
  (List.range (getSeqNoCount data offset).toNat).flatMap (askedByPart rtcp beyond data offset)

def asked (message : Message) : List UInt16 :=
  if message.type ≠ .control then []
  else (nackOffsets rtcp message.data 0).flatMap (askedByNack rtcp beyond message.data)

theorem mem_asked (message : Message) (sequence : UInt16) :
    sequence ∈ asked rtcp beyond message ↔ Asks rtcp beyond message sequence := by
  unfold asked Asks
  split
  · rename_i other
    exact iff_of_false List.not_mem_nil fun asks => other asks.1
  · rename_i control
    rw [not_not] at control
    simp only [control, true_and, List.mem_flatMap, mem_nackOffsets, askedByNack, List.mem_range,
      askedByPart, Claimed]
    constructor
    · rintro ⟨offset, ⟨starts, nack⟩, index, bound, named⟩
      exact ⟨offset, starts, _, ⟨nack, index, bound, rfl⟩, named⟩
    · rintro ⟨offset, starts, _, ⟨nack, index, bound, rfl⟩, named⟩
      exact ⟨offset, ⟨starts, nack⟩, index, bound, named⟩

theorem answered_part (data : List UInt8) (offset : Nat) (s : State) (index : Nat) :
    Answered (askedByPart rtcp beyond data offset index) s
      (answerPart rtcp data beyond offset s index) := by
  have answered := answered_foldl answered_retransmit (askedByPart rtcp beyond data offset index)
    { s with reads := s.reads ++ [⟨offset, lengthInBytes data offset, index⟩] }
  rw [List.flatMap_singleton'] at answered
  exact ⟨answered.packets, answered.sent⟩

theorem answered_walk (s : State) (message : Message) :
    Answered (asked rtcp beyond message) s
      (if message.type ≠ .control then s else walk rtcp message.data beyond 0 s) := by
  unfold asked
  split
  · exact ⟨rfl, by simp⟩
  · rw [walk_eq]
    refine answered_foldl (fun v offset => ?_) _ s
    exact answered_foldl (answered_part rtcp beyond message.data offset) _ v

/-- **`incoming`** sends the cached ones of the messages it is asked for, in this order. -/
theorem incoming_sent (s : State) (messages : List Message) :
    (incoming rtcp beyond s messages).sent =
      (messages.flatMap (asked rtcp beyond)).filterMap s.packets :=
  (answered_foldl (answered_walk rtcp beyond) messages { s with sent := [], reads := [] }).sent

end Asked

/-- A cached message carries the number it is cached under. -/
theorem CacheKept.carries {s : State} {log : List Message} (kept : CacheKept s log)
    {sequence : UInt16} {message : Message} (cached : s.packets sequence = some message) :
    seqNumber message.data = sequence := by
  have last := List.mem_of_getLast? (kept.latest sequence message cached)
  have named := (List.mem_filter.1 last).2
  simp only [NackResponder.carries, decide_eq_true_eq] at named
  exact named.2

/-- **The retransmission cache**, after any batches and lookups and each message of the next
batch: its order and its packets are in step, it is bounded, and it holds what was sent last. A
number that is asked for is answered if and only if it is cached. -/
theorem retransmission_cache (accesses : List Access) :
    (∀ messages, CacheKept (messages.foldl remember (after accesses).state)
      ((after accesses).log ++ messages)) ∧
    (∀ sequence, (retransmit (after accesses).state sequence).sent =
      (after accesses).state.sent ++ ((after accesses).state.packets sequence).toList) ∧
    ∀ rtcp beyond nacks sequence,
      (∃ message ∈ (incoming rtcp beyond (after accesses).state nacks).sent,
        seqNumber message.data = sequence) ↔
      (∃ nack ∈ nacks, Asks rtcp beyond nack sequence) ∧ sequence ∈ (after accesses).state.order := by
  have holds := after_holds accesses
  refine ⟨fun messages => (remembers_hold holds messages).kept, fun sequence => ?_, ?_⟩
  · rw [(answered_retransmit _ sequence).sent]
    cases cached : (after accesses).state.packets sequence with
    | none => simp [cached]
    | some message => simp [cached]
  · intro rtcp beyond nacks sequence
    have kept := holds.kept
    rw [incoming_sent, kept.keys]
    simp only [List.mem_filterMap, List.mem_flatMap, mem_asked]
    constructor
    · rintro ⟨message, ⟨number, asks, cached⟩, named⟩
      rw [kept.carries cached] at named
      subst named
      exact ⟨asks, by simp [cached]⟩
    · rintro ⟨asks, present⟩
      obtain ⟨message, cached⟩ := Option.isSome_iff_exists.1 present
      exact ⟨message, ⟨sequence, asks, cached⟩, kept.carries cached⟩

end SkaiEdge.WebRtc.NackResponder
