import Mathlib

/-!
# `CountingNackResponder` (`src/webrtc/webrtc_manager.cpp`)

`outgoing` keeps the last packets sent, `incoming` walks the RTCP packets of a control message
and answers the NACKs among them from that cache. The message is what the peer sent, so every
length in it is the peer's. `sent` and `reads` are what one call of `incoming` handed to `send`
and the `parts` entries it looked at.

libdatachannel's structures are overlaid on the message: `RtcpNack` is 16 bytes with `parts`
from byte 12 on, 4 bytes each. What it makes of the header's first byte and of a part's four
bytes is a parameter (`Rtcp`). An entry behind the message is read from the memory that follows
it, here `beyond`.
-/

namespace SkaiEdge.WebRtc

/-- `rtc::Message::Type`. -/
inductive MessageType where
  | binary
  | string
  | control
  | reset
  deriving DecidableEq, Repr

/-- `rtc::Message`: its type and its bytes. -/
structure Message where
  type : MessageType
  data : List UInt8
  deriving DecidableEq, Repr

/-- The accessors of libdatachannel that the responder only passes on. -/
structure Rtcp where
  reportCount : UInt8 → Nat
  getSequenceNumbers : List UInt8 → List UInt16

/-- `RtcpHeader::reportCount` of the packet at `offset`. -/
def Rtcp.reports (rtcp : Rtcp) (data : List UInt8) (offset : Nat) : Nat :=
  rtcp.reportCount (data.getD offset 0)

namespace NackResponder

/-- The entry `parts[index]` of the packet at `offset`, `length` bytes long. -/
structure PartRead where
  offset : Nat
  length : Nat
  index : Nat
  deriving DecidableEq, Repr

/-- Where the entry starts in the message. -/
def PartRead.start (read : PartRead) : Nat := read.offset + 12 + 4 * read.index

/-- The entry lies in `[offset, offset + length)`. -/
def PartRead.Inside (read : PartRead) : Prop :=
  read.offset ≤ read.start ∧ read.start + 4 ≤ read.offset + read.length

structure State where
  bytes : Nat
  packetCount : Nat
  retransmissions : Nat
  order : List UInt16
  packets : UInt16 → Option Message
  sent : List Message
  reads : List PartRead

def init : State where
  bytes := 0
  packetCount := 0
  retransmissions := 0
  order := []
  packets := fun _ => none
  sent := []
  reads := []

/-- A big-endian 16-bit field. -/
def field16 (data : List UInt8) (at' : Nat) : Nat :=
  (data.getD at' 0).toNat * 256 + (data.getD (at' + 1) 0).toNat

/-- `RtpHeader::seqNumber`. -/
def seqNumber (data : List UInt8) : UInt16 := (field16 data 2).toUInt16

/-- The loop that keeps at most 512 packets, over `order_`. -/
def evict (packets : UInt16 → Option Message) : List UInt16 → List UInt16 × (UInt16 → Option Message)
  | [] => ([], packets)
  | front :: rest =>
    if (front :: rest).length > 512 then evict (Function.update packets front none) rest
    else (front :: rest, packets)

/-- One message of an outgoing batch. -/
def remember (s : State) (message : Message) : State :=
  if message.type = .control ∨ message.data.length < 12 then s
  else
    let sequence := seqNumber message.data
    let order := if (s.packets sequence).isNone then s.order ++ [sequence] else s.order
    let (order, packets) := evict (Function.update s.packets sequence (some message)) order
    { s with order := order, packets := packets }

def outgoing (s : State) (messages : List Message) : State :=
  let s := messages.foldl remember s
  { s with
    bytes := s.bytes + (messages.map (·.data.length)).sum
    packetCount := s.packetCount + messages.length }

/-- `RtcpHeader::lengthInBytes` of the packet at `offset`. -/
def lengthInBytes (data : List UInt8) (offset : Nat) : Nat := (1 + field16 data (offset + 2)) * 4

/-- `RtcpNack::getSeqNoCount`: the subtraction is unsigned and 32 bits wide. -/
def getSeqNoCount (data : List UInt8) (offset : Nat) : UInt32 :=
  (field16 data (offset + 2)).toUInt32 - 2

def payloadType (data : List UInt8) (offset : Nat) : Nat := (data.getD (offset + 1) 0).toNat

/-- The lookup of one requested sequence number and the retransmission that follows. -/
def retransmit (s : State) (sequence : UInt16) : State :=
  match s.packets sequence with
  | none => s
  | some found =>
    { s with
      bytes := s.bytes + found.data.length
      packetCount := s.packetCount + 1
      retransmissions := s.retransmissions + 1
      sent := s.sent ++ [found] }

/-- The four bytes of a `parts` entry, from the message or from what lies behind it. -/
def partBytes (data : List UInt8) (beyond : Nat → UInt8) (start : Nat) : List UInt8 :=
  (List.range 4).map fun i => data.getD (start + i) (beyond (start + i))

def answerPart (rtcp : Rtcp) (data : List UInt8) (beyond : Nat → UInt8) (offset : Nat) (s : State)
    (index : Nat) : State :=
  let read := ⟨offset, lengthInBytes data offset, index⟩
  (rtcp.getSequenceNumbers (partBytes data beyond read.start)).foldl retransmit
    { s with reads := s.reads ++ [read] }

/-- The loop over `parts`, from the packet at `offset`. -/
def answerNack (rtcp : Rtcp) (data : List UInt8) (beyond : Nat → UInt8) (offset : Nat)
    (s : State) : State :=
  (List.range (getSeqNoCount data offset).toNat).foldl (answerPart rtcp data beyond offset) s

/-- The loop over the packets of a control message; it ends because `length` is not 0. -/
def walk (rtcp : Rtcp) (data : List UInt8) (beyond : Nat → UInt8) (offset : Nat) (s : State) :
    State :=
  if offset + 16 ≤ data.length then
    let length := lengthInBytes data offset
    if length = 0 ∨ offset + length > data.length then s
    else if payloadType data offset ≠ 205 ∨ rtcp.reports data offset ≠ 1 then
      walk rtcp data beyond (offset + length) s
    else walk rtcp data beyond (offset + length) (answerNack rtcp data beyond offset s)
  else s
termination_by data.length - offset

def incoming (rtcp : Rtcp) (beyond : Nat → UInt8) (s : State) (messages : List Message) : State :=
  messages.foldl (fun s message =>
    if message.type ≠ .control then s else walk rtcp message.data beyond 0 s)
    { s with sent := [], reads := [] }

/-- The packet at `offset` is one the walk gets past: it has room for a NACK and ends inside. -/
def Complete (data : List UInt8) (offset : Nat) : Prop :=
  offset + 16 ≤ data.length ∧ offset + lengthInBytes data offset ≤ data.length

/-- The offsets at which the packets of a compound message start, from `first` on. -/
inductive Starts (data : List UInt8) (first : Nat) : Nat → Prop where
  | here : Starts data first first
  | next {offset : Nat} : Starts data first offset → Complete data offset →
      Starts data first (offset + lengthInBytes data offset)

/-- A complete packet that the responder takes for a NACK. -/
structure IsNack (rtcp : Rtcp) (data : List UInt8) (offset : Nat) : Prop where
  complete : Complete data offset
  payload : payloadType data offset = 205
  reports : rtcp.reports data offset = 1

theorem Starts.cons {data : List UInt8} {first offset : Nat} (complete : Complete data first)
    (rest : Starts data (first + lengthInBytes data first) offset) : Starts data first offset := by
  induction rest with
  | here => exact .next .here complete
  | next _ inner ih => exact .next ih inner

theorem starts_iff {data : List UInt8} {first offset : Nat} : Starts data first offset ↔
    offset = first ∨
      Complete data first ∧ Starts data (first + lengthInBytes data first) offset := by
  constructor
  · intro starts
    induction starts with
    | here => exact .inl rfl
    | next _ inner ih =>
      rcases ih with rfl | ⟨complete, rest⟩
      · exact .inr ⟨inner, .here⟩
      · exact .inr ⟨complete, .next rest inner⟩
  · rintro (rfl | ⟨complete, rest⟩)
    · exact .here
    · exact .cons complete rest

theorem retransmit_reads (s : State) (sequence : UInt16) : (retransmit s sequence).reads = s.reads := by
  unfold retransmit
  split <;> rfl

theorem foldl_retransmit_reads (sequences : List UInt16) (s : State) :
    (sequences.foldl retransmit s).reads = s.reads := by
  induction sequences generalizing s with
  | nil => rfl
  | cons sequence sequences ih => rw [List.foldl_cons, ih, retransmit_reads]

theorem answerPart_reads (rtcp : Rtcp) (data : List UInt8) (beyond : Nat → UInt8) (offset : Nat)
    (s : State) (index : Nat) : (answerPart rtcp data beyond offset s index).reads =
      s.reads ++ [⟨offset, lengthInBytes data offset, index⟩] :=
  foldl_retransmit_reads _ _

/-- A NACK's entries are read from the first to the last one it claims to have. -/
theorem answerNack_reads (rtcp : Rtcp) (data : List UInt8) (beyond : Nat → UInt8) (offset : Nat)
    (s : State) : (answerNack rtcp data beyond offset s).reads = s.reads ++
      (List.range (getSeqNoCount data offset).toNat).map
        (⟨offset, lengthInBytes data offset, ·⟩) := by
  unfold answerNack
  induction (getSeqNoCount data offset).toNat with
  | zero => simp
  | succ count ih =>
    rw [List.range_succ, List.foldl_append, List.map_append, ← List.append_assoc, ← ih]
    exact answerPart_reads rtcp data beyond offset _ count

instance (data : List UInt8) (offset : Nat) : Decidable (Complete data offset) :=
  inferInstanceAs (Decidable (_ ∧ _))

/-- The offsets of the packets that are taken for a NACK, from `first` on. -/
def nackOffsets (rtcp : Rtcp) (data : List UInt8) (first : Nat) : List Nat :=
  if Complete data first then
    (if payloadType data first = 205 ∧ rtcp.reports data first = 1 then [first] else []) ++
      nackOffsets rtcp data (first + lengthInBytes data first)
  else []
termination_by data.length - first
decreasing_by
  rename_i complete
  have room := complete.1
  unfold lengthInBytes
  omega

theorem mem_nackOffsets (rtcp : Rtcp) (data : List UInt8) (first offset : Nat) :
    offset ∈ nackOffsets rtcp data first ↔ Starts data first offset ∧ IsNack rtcp data offset := by
  fun_induction nackOffsets rtcp data first with
  | case1 first complete ih =>
    have here : offset ∈ (if payloadType data first = 205 ∧ rtcp.reports data first = 1 then [first]
        else []) ↔ offset = first ∧ IsNack rtcp data offset := by
      split
      · rename_i taken
        rw [List.mem_singleton, iff_self_and]
        rintro rfl
        exact ⟨complete, taken.1, taken.2⟩
      · rename_i other
        refine iff_of_false List.not_mem_nil ?_
        rintro ⟨rfl, nack⟩
        exact other ⟨nack.payload, nack.reports⟩
    have first_or_later : Starts data first offset ↔ _ := starts_iff
    rw [List.mem_append, here, ih, first_or_later, or_and_right]
    simp only [complete, true_and]
  | case2 first incomplete =>
    refine iff_of_false List.not_mem_nil ?_
    rintro ⟨starts, nack⟩
    rcases starts_iff.1 starts with rfl | ⟨complete, _⟩
    · exact incomplete nack.complete
    · exact incomplete complete

/-- **The walk answers the NACKs among the packets**, one after the other. -/
theorem walk_eq (rtcp : Rtcp) (data : List UInt8) (beyond : Nat → UInt8) (first : Nat) (s : State) :
    walk rtcp data beyond first s =
      (nackOffsets rtcp data first).foldl (fun s offset => answerNack rtcp data beyond offset s) s := by
  have positive (offset : Nat) : 4 ≤ lengthInBytes data offset := by unfold lengthInBytes; omega
  fun_induction walk rtcp data beyond first s with
  | case1 first s room length ends =>
    have incomplete : ¬ Complete data first := by
      rintro ⟨_, inside⟩
      have := positive first
      omega
    rw [nackOffsets, if_neg incomplete, List.foldl_nil]
  | case2 first s room length goesOn other ih =>
    have complete : Complete data first := ⟨room, by omega⟩
    rw [nackOffsets, if_pos complete, if_neg (by tauto), List.nil_append]
    exact ih
  | case3 first s room length goesOn nack ih =>
    have complete : Complete data first := ⟨room, by omega⟩
    rw [nackOffsets, if_pos complete, if_pos (by tauto)]
    exact ih
  | case4 first s noRoom =>
    rw [nackOffsets, if_neg fun complete => noRoom complete.1, List.foldl_nil]

/-- `read` is an entry that the packet at `offset`, taken for a NACK, claims to have. -/
def Claimed (rtcp : Rtcp) (data : List UInt8) (read : PartRead) (offset : Nat) : Prop :=
  IsNack rtcp data offset ∧ ∃ index < (getSeqNoCount data offset).toNat,
    read = ⟨offset, lengthInBytes data offset, index⟩

/-- **What the walk reads**: of every NACK among the packets, as many entries as it claims. -/
theorem mem_walk_reads (rtcp : Rtcp) (data : List UInt8) (beyond : Nat → UInt8) (first : Nat)
    (s : State) (read : PartRead) : read ∈ (walk rtcp data beyond first s).reads ↔
      read ∈ s.reads ∨ ∃ offset, Starts data first offset ∧ Claimed rtcp data read offset := by
  have nacks (offsets : List Nat) (v : State) :
      read ∈ (offsets.foldl (fun v offset => answerNack rtcp data beyond offset v) v).reads ↔
        read ∈ v.reads ∨ ∃ offset ∈ offsets, ∃ index < (getSeqNoCount data offset).toNat,
          read = ⟨offset, lengthInBytes data offset, index⟩ := by
    induction offsets generalizing v with
    | nil => simp
    | cons offset offsets ih =>
      rw [List.foldl_cons, ih, List.exists_mem_cons_iff, ← or_assoc]
      simp only [answerNack_reads, List.mem_append, List.mem_map, List.mem_range, eq_comm]
  rw [walk_eq, nacks]
  simp only [mem_nackOffsets, Claimed, and_assoc]

/-- The same for a batch of messages. -/
theorem mem_incoming_reads (rtcp : Rtcp) (beyond : Nat → UInt8) (s : State)
    (messages : List Message) (read : PartRead) :
    read ∈ (incoming rtcp beyond s messages).reads ↔
      ∃ message ∈ messages, message.type = .control ∧
        ∃ offset, Starts message.data 0 offset ∧ Claimed rtcp message.data read offset := by
  have batch (v : State) : read ∈ (messages.foldl (fun v message =>
      if message.type ≠ .control then v else walk rtcp message.data beyond 0 v) v).reads ↔
      read ∈ v.reads ∨ ∃ message ∈ messages, message.type = .control ∧
        ∃ offset, Starts message.data 0 offset ∧ Claimed rtcp message.data read offset := by
    induction messages generalizing v with
    | nil => simp
    | cons message messages ih =>
      rw [List.foldl_cons, ih, List.exists_mem_cons_iff, ← or_assoc]
      refine or_congr_left ?_
      by_cases control : message.type = .control
      · simp only [control, ne_eq, not_true_eq_false, ↓reduceIte, true_and]
        exact mem_walk_reads rtcp message.data beyond 0 v read
      · simp only [control, ne_eq, not_false_eq_true, ↓reduceIte, false_and, or_false]
  exact (batch _).trans (by simp only [List.not_mem_nil, false_or])

/-- The entry count in true arithmetic: a length field below 2 wraps around. -/
theorem getSeqNoCount_toNat (data : List UInt8) (offset : Nat) :
    (getSeqNoCount data offset).toNat = (field16 data (offset + 2) + (2 ^ 32 - 2)) % 2 ^ 32 := by
  have bound : field16 data (offset + 2) < 2 ^ 16 := by
    have high := (data.getD (offset + 2) 0).toNat_lt
    have low := (data.getD (offset + 2 + 1) 0).toNat_lt
    unfold field16
    omega
  unfold getSeqNoCount
  rw [UInt32.toNat_sub]
  simp
  omega

/-- An entry lies in its packet as long as the length field covers the NACK's own header. -/
theorem claimed_inside {rtcp : Rtcp} {data : List UInt8} {read : PartRead} {offset : Nat}
    (claimed : Claimed rtcp data read offset) (covers : 2 ≤ field16 data (offset + 2)) :
    read.Inside := by
  obtain ⟨_, index, bound, rfl⟩ := claimed
  rw [getSeqNoCount_toNat] at bound
  have bound : index + 2 < field16 data (offset + 2) := by omega
  unfold PartRead.Inside PartRead.start lengthInBytes
  constructor <;> simp only <;> omega

/-- A shorter one claims more than 2^32 - 3 entries, and the first is already outside. -/
theorem claimed_outside {rtcp : Rtcp} {data : List UInt8} {offset : Nat}
    (nack : IsNack rtcp data offset) (short : field16 data (offset + 2) < 2) :
    ∃ read, Claimed rtcp data read offset ∧ ¬ read.Inside := by
  refine ⟨⟨offset, lengthInBytes data offset, 0⟩, ⟨nack, 0, ?_, rfl⟩, ?_⟩
  · rw [getSeqNoCount_toNat]
    omega
  · unfold PartRead.Inside PartRead.start lengthInBytes
    simp only
    omega

/-- **The reads stay inside their packets exactly when every NACK's length field is at least
2.** Whatever the cache holds and whatever follows the messages in memory. -/
theorem reads_inside_iff (rtcp : Rtcp) (beyond : Nat → UInt8) (s : State)
    (messages : List Message) :
    (∀ read ∈ (incoming rtcp beyond s messages).reads, read.Inside) ↔
      ∀ message ∈ messages, message.type = .control → ∀ offset, Starts message.data 0 offset →
        IsNack rtcp message.data offset → 2 ≤ field16 message.data (offset + 2) := by
  simp only [mem_incoming_reads]
  constructor
  · intro inside message member control offset starts nack
    by_contra short
    obtain ⟨read, claimed, outside⟩ := claimed_outside nack (Nat.lt_of_not_le short)
    exact outside (inside read ⟨message, member, control, offset, starts, claimed⟩)
  · rintro covers read ⟨message, member, control, offset, starts, claimed⟩
    exact claimed_inside claimed (covers message member control offset starts claimed.1)

/-- A generic NACK whose length field is 0, alone in a message of 16 bytes. -/
def shortNack : Message := ⟨.control, [0x81, 205] ++ List.replicate 14 0⟩

/-- The header fields by their place in the packet. -/
def plainRtcp : Rtcp := ⟨fun first => (first &&& 0x1f).toNat, fun _ => []⟩

/-- A peer that sends it makes the responder read behind the packet. -/
theorem short_nack_reads_outside :
    ¬ ∀ read ∈ (incoming plainRtcp (fun _ => 0) init [shortNack]).reads, read.Inside := by
  intro inside
  have nack : IsNack plainRtcp shortNack.data 0 := ⟨⟨by decide, by decide⟩, by decide, by decide⟩
  obtain ⟨read, claimed, outside⟩ := claimed_outside nack (by decide)
  apply outside
  apply inside
  rw [mem_incoming_reads]
  exact ⟨shortNack, by simp, by decide, 0, .here, claimed⟩

end NackResponder

end SkaiEdge.WebRtc
