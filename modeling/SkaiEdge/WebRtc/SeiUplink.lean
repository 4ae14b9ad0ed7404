import SkaiEdge.Video.EncodedAccessUnit
import SkaiEdge.WebRtc.SeiLedger

/-!
# Detections on the WHIP path (`WhipPublisher::publish_once`, `src/webrtc/whip_publisher.cpp`)

The send path of one session: detection results are moved into the session's
`SeiResultSelector` as they come, and each access unit that passed the keyframe gate takes the
results due for it and is sent with their SEI. What `take_for` hands out is counted as attached
before `insert_before_first_vcl` looks for a place, and its answer is not read: a unit without
a VCL NAL is sent as it came, and the results are counted although no unit carries them.
-/

namespace SkaiEdge.WebRtc

open SkaiEdge.Lib SkaiEdge.Video

/-- An access unit as it was sent: the unit popped from the media queue, the bytes the track
took, and what `take_for` handed out for it. -/
structure Sent (D : Type) where
  unit : EncodedAccessUnit
  bytes : List UInt8
  taken : Taken D
  deriving DecidableEq, Repr

/-- A session's selector, the results added to it and the units sent. -/
structure Uplink (D : Type) where
  selector : SeiResultSelector D
  added : List (SeiSourceResult D)
  sent : List (Sent D)

inductive UplinkAction (D : Type) where
  /-- `detections.add(std::move(*result))`. -/
  | add (result : SeiSourceResult D)
  /-- A unit that passed the gate and was sent successfully. -/
  | send (unit : EncodedAccessUnit)
  deriving DecidableEq, Repr

/-- The selector a session starts with holds at most 64 results. -/
def Uplink.start {D : Type} : Uplink D := ⟨.create 64, [], []⟩

/-- The results counted as attached so far. -/
def Uplink.attached {D : Type} (u : Uplink D) : List (Stamped (SeiSourceResult D)) :=
  u.sent.flatMap fun e => e.taken.sources

section Steps

variable {D : Type} [Double D]

/-- From `take_for` to the bytes given to `track->send`. -/
def attachSei (selector : SeiResultSelector D) (unit : EncodedAccessUnit) :
    Sent D × SeiResultSelector D :=
  if unit.hasPts then
    let (taken, selector) := selector.takeFor unit.ptsNs unit.sourceGeneration
    let bytes := if taken.nal.isEmpty then unit.bytes
      else (insertBeforeFirstVcl unit.bytes taken.nal).1
    (⟨unit, bytes, taken⟩, selector)
  else (⟨unit, unit.bytes, .nothing⟩, selector)

def Uplink.step (u : Uplink D) : UplinkAction D → Option (Uplink D)
  | .add result =>
    some { u with
      selector := u.selector.add ⟨u.added.length, result⟩
      added := u.added ++ [result] }
  | .send unit =>
    some { u with
      selector := (attachSei u.selector unit).2
      sent := u.sent ++ [(attachSei u.selector unit).1] }

/-- The unit has a VCL NAL if a pending result is due for it. -/
def HasPlace (u : Uplink D) : UplinkAction D → Prop
  | .add _ => True
  | .send unit => unit.hasPts = true →
    (∃ r ∈ u.selector.pending, place unit.ptsNs unit.sourceGeneration r.val = .due) →
    ∃ j, VclAt unit.bytes j

instance (unit : List UInt8) : Decidable (∃ j, VclAt unit j) :=
  decidable_of_iff ((firstVcl 0 unit).isSome = true) (firstVcl_isSome unit)

instance (u : Uplink D) : ∀ action, Decidable (HasPlace u action)
  | .add _ => inferInstanceAs (Decidable True)
  | .send unit => inferInstanceAs (Decidable (unit.hasPts = true → _ → ∃ j, VclAt unit.bytes j))

/-- The sent bytes carry the result: they are the unit with an SEI before its first VCL NAL, and
the result is encoded in that SEI. -/
def Carries (e : Sent D) (r : Stamped (SeiSourceResult D)) : Prop :=
  Inserted e.unit.bytes (encodeResults e.taken.results) e.bytes ∧
    ∃ (i : Nat) (result : SeiResult D), e.taken.sources[i]? = some r ∧
      e.taken.results[i]? = some result ∧ Encodes e.unit.ptsNs r result

/-- The accounts of a session: every sent unit is unchanged or has one SEI inserted, and the
results counted as attached are distinct added results, each carried by exactly one sent
unit. -/
structure Accounted (u : Uplink D) : Prop where
  bytes : ∀ e ∈ u.sent, e.bytes = e.unit.bytes ∨
    ∃ results : List (SeiResult D), Inserted e.unit.bytes (encodeResults results) e.bytes
  counted : u.selector.stats.resultsAttached = u.attached.length
  genuine : ∀ r ∈ u.attached, u.added[r.stamp]? = some r.val
  distinct : (u.attached.map Stamped.stamp).Nodup
  once : ∀ r ∈ u.attached, ∃! k : Nat, ∃ e, u.sent[k]? = some e ∧ Carries e r

/-- What was sent for a unit: nothing was due and it is unchanged, or it carries what was. -/
def Delivered (e : Sent D) : Prop :=
  (e.taken.sources = [] ∧ e.bytes = e.unit.bytes) ∨
    (List.Forall₂ (Encodes e.unit.ptsNs) e.taken.sources e.taken.results ∧
      Inserted e.unit.bytes (encodeResults e.taken.results) e.bytes)

structure Uplink.Inv (u : Uplink D) : Prop where
  ledger : Ledger u.selector u.added u.attached
  delivered : ∀ e ∈ u.sent, Delivered e

/-- One unit that has a place for its SEI. -/
theorem attachSei_delivered {u : Uplink D} {unit : EncodedAccessUnit}
    (room : HasPlace u (.send unit)) : Delivered (attachSei u.selector unit).1 := by
  unfold attachSei
  by_cases timed : unit.hasPts = true
  · obtain ⟨rules, _, _, lost, moved, _⟩ := u.selector.takeFor_spec unit.ptsNs unit.sourceGeneration
    rw [if_pos timed]
    by_cases none : (u.selector.takeFor unit.ptsNs unit.sourceGeneration).1.sources = []
    · have nothing := rules.nal
      rw [if_pos none] at nothing
      exact .inl ⟨none, by simp [nothing]⟩
    · obtain ⟨r, source⟩ := List.exists_mem_of_ne_nil _ none
      have pending : r ∈ u.selector.pending := moved.mem_iff.2 (by simp [source])
      have vcl := room timed ⟨r, pending, rules.due r source⟩
      have nal := rules.nal
      rw [if_neg none] at nal
      refine .inr ⟨rules.encodes, ?_⟩
      rcases insert_cases unit.bytes (encodeResults
          (u.selector.takeFor unit.ptsNs unit.sourceGeneration).1.results) with
        ⟨nowhere, _⟩ | ⟨_, _, inserted⟩
      · obtain ⟨j, here⟩ := vcl
        exact absurd here (nowhere j)
      · have filled : (encodeResults
            (u.selector.takeFor unit.ptsNs unit.sourceGeneration).1.results).isEmpty = false := rfl
        simp only [nal, filled, Bool.false_eq_true, if_false]
        exact inserted
  · rw [if_neg timed]
    exact .inl ⟨rfl, rfl⟩

theorem attachSei_ledger {u : Uplink D} (ledger : Ledger u.selector u.added u.attached)
    (unit : EncodedAccessUnit) :
    Ledger (attachSei u.selector unit).2 u.added
      (u.attached ++ (attachSei u.selector unit).1.taken.sources) := by
  unfold attachSei
  split
  · exact ledger.takeFor unit.ptsNs unit.sourceGeneration
  · simpa [Taken.nothing] using ledger

theorem Uplink.Inv.step {u v : Uplink D} {action : UplinkAction D} (inv : u.Inv)
    (room : HasPlace u action) (moved : u.step action = some v) : v.Inv := by
  cases action with
  | add result =>
    obtain rfl := Option.some.inj moved
    exact ⟨inv.ledger.add result, inv.delivered⟩
  | send unit =>
    obtain rfl := Option.some.inj moved
    constructor
    · have := attachSei_ledger inv.ledger unit
      simpa [Uplink.attached] using this
    · intro e member
      rcases List.mem_append.1 member with old | new
      · exact inv.delivered e old
      · rw [List.mem_singleton.1 new]
        exact attachSei_delivered room

omit [Double D] in
/-- Results that differ in number sit in the sources of at most one sent unit. -/
theorem sent_unique {u : Uplink D} (distinct : (u.attached.map Stamped.stamp).Nodup) {k k' : Nat}
    {e e' : Sent D} {r : Stamped (SeiSourceResult D)} (at_k : u.sent[k]? = some e)
    (at_k' : u.sent[k']? = some e') (here : r ∈ e.taken.sources) (there : r ∈ e'.taken.sources) :
    k = k' := by
  have apart := (List.nodup_flatMap.1 (List.Nodup.of_map _ distinct)).2
  have never : ∀ {i j : Nat} {a b : Sent D}, u.sent[i]? = some a → u.sent[j]? = some b → i < j →
      r ∈ a.taken.sources → r ∉ b.taken.sources := by
    intro i j a b at_i at_j less mem_a mem_b
    obtain ⟨inside, rfl⟩ := List.getElem?_eq_some_iff.1 at_i
    obtain ⟨inside', rfl⟩ := List.getElem?_eq_some_iff.1 at_j
    exact List.pairwise_iff_getElem.1 apart i j inside inside' less mem_a mem_b
  rcases Nat.lt_trichotomy k k' with less | same | more
  · exact absurd there (never at_k at_k' less here)
  · exact same
  · exact absurd here (never at_k' at_k more there)

theorem Uplink.Inv.accounted {u : Uplink D} (inv : u.Inv) : Accounted u := by
  have distinct : (u.attached.map Stamped.stamp).Nodup := by
    have all := inv.ledger.distinct
    rw [List.map_append] at all
    exact all.of_append_left
  refine ⟨?_, inv.ledger.attached, ?_, distinct, ?_⟩
  · intro e member
    rcases inv.delivered e member with ⟨_, same⟩ | ⟨_, inserted⟩
    · exact .inl same
    · exact .inr ⟨_, inserted⟩
  · intro r member
    exact inv.ledger.recorded r (List.mem_append_left _ member)
  · intro r member
    obtain ⟨e, sent, source⟩ := List.mem_flatMap.1 member
    obtain ⟨k, at_k⟩ := List.mem_iff_getElem?.1 sent
    refine ⟨k, ⟨e, at_k, ?_⟩, ?_⟩
    · rcases inv.delivered e sent with ⟨none, _⟩ | ⟨encodes, inserted⟩
      · rw [none] at source
        cases source
      · obtain ⟨i, inside, rfl⟩ := List.getElem_of_mem source
        have inside' : i < e.taken.results.length := encodes.length_eq ▸ inside
        exact ⟨inserted, i, e.taken.results[i], List.getElem?_eq_getElem inside,
          List.getElem?_eq_getElem inside', encodes.get inside inside'⟩
    · rintro k' ⟨e', at_k', _, i, _, at_i, _⟩
      exact sent_unique distinct at_k' at_k (List.mem_of_getElem? at_i) source

/-- **SEI accounting.** In every run of adds and successful sends in which each unit a pending
result is due for has a VCL NAL, the accounts are right in every state reached. -/
theorem sei_accounted {u : Uplink D} (run : Runs Uplink.step HasPlace Uplink.start u) :
    Accounted u := by
  have inv : u.Inv := by
    apply run.invariant
    · exact ⟨.start 64, by simp [Uplink.start]⟩
    · intro v action w inv room moved
      exact inv.step room moved
  exact inv.accounted

end Steps

/-- A result without boxes rides on the unit of one slice. -/
theorem sei_accounted_slice : ∃ u : Uplink Int,
    u.selector.stats.resultsAttached = 1 ∧ Accounted u := by
  have reached : ∃ u : Uplink Int, Runs Uplink.step HasPlace Uplink.start u ∧
      u.selector.stats.resultsAttached = 1 := by
    apply Runs.exists_of_play [.add ⟨0, 1, []⟩,
      .send { hasPts := true, sourceGeneration := 1, bytes := [0, 0, 1, 0x41, 0x9a] }]
    · decide +kernel
    · decide +kernel
  obtain ⟨u, run, counted⟩ := reached
  exact ⟨u, counted, sei_accounted run⟩

theorem Inserted.length {unit nal bytes : List UInt8} (inserted : Inserted unit nal bytes) :
    bytes.length = unit.length + nal.length := by
  obtain ⟨before, behind, rfl, rfl, _⟩ := inserted
  simp only [List.length_append]
  omega

/-- A unit that was sent as it came carries nothing. -/
theorem not_carries {D : Type} [Double D] {e : Sent D} (same : e.bytes = e.unit.bytes)
    (r : Stamped (SeiSourceResult D)) : ¬ Carries e r := by
  rintro ⟨inserted, _⟩
  have length := inserted.length
  rw [same] at length
  have filled : 0 < (encodeResults e.taken.results).length := Nat.succ_pos _
  omega

/-- A result is due for a unit of parameter sets: it is counted as attached, and the unit is
sent as it came. -/
theorem parameter_sets_unaccounted : ∃ u : Uplink Int,
    Runs Uplink.step Free Uplink.start u ∧ ¬ Accounted u := by
  have reached : ∃ u : Uplink Int, Runs Uplink.step Free Uplink.start u ∧
      u.sent.all (fun e => e.bytes = e.unit.bytes) = true ∧ u.attached ≠ [] := by
    apply Runs.exists_of_play [.add ⟨0, 1, []⟩,
      .send { hasPts := true, sourceGeneration := 1, bytes := [0, 0, 0, 1, 0x67, 0x42] }]
    · decide +kernel
    · exact Meets.free _ _
  obtain ⟨u, run, unchanged, some⟩ := reached
  obtain ⟨r, counted⟩ := List.exists_mem_of_ne_nil _ some
  refine ⟨u, run, fun accounted => ?_⟩
  obtain ⟨k, ⟨e, at_k, carries⟩, _⟩ := accounted.once r counted
  have same := List.all_eq_true.1 unchanged e (List.mem_of_getElem? at_k)
  exact not_carries (of_decide_eq_true same) r carries

end SkaiEdge.WebRtc
