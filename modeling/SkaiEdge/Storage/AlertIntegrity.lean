import SkaiEdge.Lib.Runs
import SkaiEdge.Storage.SnapshotNames

/-!
# Every operation on the alert store keeps the snapshots

Rows and files are two stores without a common transaction. `Sound` is the invariant of both:
rows are named after their ids, ids are unique, and each row's file is at its path or at its
tombstone. `cleanup_oldest` and `reconcile_deletions` keep it in every state they pass through,
whatever fails; so does `process`, unless a row's snapshot is at the final path of one of its
alerts: the removal of `final_path` after a failed insert would take it away.
-/

namespace SkaiEdge.Storage

open SkaiEdge.Lib SkaiEdge.Lib.Path SkaiEdge.Lib.Script SkaiEdge.Inference SkaiEdge.Alerts

variable {D : Type} {cwd : List Char}

/-- The row's snapshot is at its path or at its tombstone. -/
def Kept (cwd : List Char) (s : Store D) (row : AlertEvent D) : Prop :=
  (s.files (place cwd row)).isSome = true ∨ (s.files (tombstone cwd row)).isSome = true

instance (s : Store D) (row : AlertEvent D) : Decidable (Kept cwd s row) :=
  inferInstanceAs (Decidable (_ ∨ _))

structure Sound (cwd : List Char) (s : Store D) : Prop where
  named : ∀ row ∈ s.rows, Named cwd row
  unique : (s.rows.map (·.id)).Nodup
  kept : ∀ row ∈ s.rows, Kept cwd s row

section Store

variable {s t : Store D} {row : AlertEvent D}

theorem hasRow_iff {id : List Char} : s.hasRow id = true ↔ ∃ row ∈ s.rows, row.id = id := by
  simp [Store.hasRow]

theorem write_files (location l : Location) (content : Snapshot) (kept : (s.files l).isSome = true) :
    ((s.write location content).files l).isSome = true := by
  unfold Store.write
  by_cases same : l = location
  · simp [same]
  · simpa [Function.update_of_ne same] using kept

theorem erase_files {location l : Location} (other : l ≠ location) :
    (s.erase location).files l = s.files l := by
  simp [Store.erase, Function.update_of_ne other]

/-- **What a rename can do**: the file is under its new name only, and every other name keeps
its file. -/
theorem rename_cases {source target : Location} (moved : s.rename source target = some t) :
    t.rows = s.rows ∧ (s.files source).isSome = true ∧ t.files target = s.files source ∧
      (source ≠ target → t.files source = none) ∧
      (∀ l ≠ source, l ≠ target → t.files l = s.files l) := by
  obtain ⟨content, found, rfl⟩ := Option.map_eq_some_iff.1 moved
  refine ⟨rfl, by simp [found], by simp [found], ?_, ?_⟩
  · intro other
    simp [Function.update_of_ne other]
  · intro l other other'
    simp [Function.update_of_ne other', Function.update_of_ne other]

theorem rename_keeps {source target l : Location} (moved : s.rename source target = some t)
    (other : l ≠ source) (kept : (s.files l).isSome = true) : (t.files l).isSome = true := by
  obtain ⟨_, found, there, _, others⟩ := rename_cases moved
  by_cases same : l = target
  · rw [same, there]
    exact found
  · rw [others l other same]
    exact kept

theorem remove_cases {id : List Char} (moved : s.remove id = some t) :
    t.files = s.files ∧ t.rows = s.rows.filter (fun row => row.id ≠ id) := by
  obtain ⟨_, ⟨⟩⟩ := Option.ite_none_right_eq_some.1 moved
  exact ⟨rfl, rfl⟩

/-- A change of files that leaves every row's snapshot in one of its places. -/
theorem Sound.of_files (sound : Sound cwd s) (rows : t.rows = s.rows)
    (kept : ∀ row ∈ s.rows, Kept cwd s row → Kept cwd t row) : Sound cwd t where
  named := rows ▸ sound.named
  unique := rows ▸ sound.unique
  kept := by
    rw [rows]
    exact fun row member => kept row member (sound.kept row member)

theorem Sound.write (sound : Sound cwd s) (location : Location) (content : Snapshot) :
    Sound cwd (s.write location content) :=
  sound.of_files rfl fun _ _ kept =>
    kept.imp (write_files location _ content) (write_files location _ content)

theorem Sound.erase {location : Location} (sound : Sound cwd s)
    (place' : ∀ row ∈ s.rows, place cwd row ≠ location)
    (tombstone' : ∀ row ∈ s.rows, tombstone cwd row ≠ location) : Sound cwd (s.erase location) := by
  refine sound.of_files rfl fun row member kept => ?_
  unfold Kept
  rw [erase_files (place' row member), erase_files (tombstone' row member)]
  exact kept

/-- A rename between the two places of a row, or from a place that is no row's. -/
theorem Sound.rename {source target : Location} (sound : Sound cwd s)
    (place' : ∀ row ∈ s.rows, place cwd row = source → tombstone cwd row = target)
    (tombstone' : ∀ row ∈ s.rows, tombstone cwd row = source → place cwd row = target)
    (moved : s.rename source target = some t) : Sound cwd t := by
  obtain ⟨rows, found, there, _⟩ := rename_cases moved
  refine sound.of_files rows fun row member kept => ?_
  by_cases at' : place cwd row = source
  · exact .inr (by rw [place' row member at', there]; exact found)
  · by_cases buried : tombstone cwd row = source
    · exact .inl (by rw [tombstone' row member buried, there]; exact found)
    · exact kept.imp (rename_keeps moved at') (rename_keeps moved buried)

theorem Sound.insert {alert : AlertEvent D} (sound : Sound cwd s) (named : Named cwd alert)
    (kept : (s.files (place cwd alert)).isSome = true) (moved : s.insert alert = some t) :
    Sound cwd t ∧ t.rows = s.rows ++ [alert] := by
  obtain ⟨free, ⟨⟩⟩ := Option.ite_none_left_eq_some.1 moved
  have fresh : s.hasRow alert.id ≠ true := fun row => free (.inr (.inr (.inr row)))
  refine ⟨⟨?_, ?_, ?_⟩, rfl⟩
  · intro row member
    rcases List.mem_append.1 member with old | new
    · exact sound.named row old
    · exact List.mem_singleton.1 new ▸ named
  · rw [List.map_append, List.nodup_append]
    refine ⟨sound.unique, by simp, ?_⟩
    intro id old id' new
    obtain ⟨row, member, rfl⟩ := List.mem_map.1 old
    simp only [List.map_cons, List.map_nil, List.mem_singleton] at new
    subst new
    exact fun same => fresh (hasRow_iff.2 ⟨row, member, same⟩)
  · intro row member
    rcases List.mem_append.1 member with old | new
    · exact sound.kept row old
    · exact .inl (List.mem_singleton.1 new ▸ kept)

theorem Sound.remove {id : List Char} (sound : Sound cwd s) (moved : s.remove id = some t) :
    Sound cwd t := by
  obtain ⟨files, rows⟩ := remove_cases moved
  have sub : t.rows.Sublist s.rows := rows ▸ List.filter_sublist
  refine ⟨fun row member => sound.named row (sub.subset member),
    sound.unique.sublist (sub.map _), fun row member => ?_⟩
  have kept := sound.kept row (sub.subset member)
  unfold Kept at kept ⊢
  rw [files]
  exact kept

end Store

/-- `removeFile` erases the file or changes nothing. -/
theorem removeFile_triple {I P : Store D → Prop} {Q : Removal → Store D → Prop} {location : Location}
    (done : ∀ s, I s → P s → I (s.erase location) ∧ Q .removed (s.erase location))
    (missing : ∀ s, I s → P s → s.files location = none → Q .missing s)
    (failed : ∀ s, I s → P s → Q .failed s) : Triple I P (removeFile location) Q := by
  refine .asked ?_ (.ret _ failed)
  refine Triple.current.bind fun s => ?_
  split
  · refine (Triple.put (Q := fun _ => Q .removed) ?_ ?_).bind fun _ => .ret _ fun _ _ holds => holds
    · rintro s' inv ⟨rfl, pre⟩
      exact (done s inv pre).1
    · rintro s' inv ⟨rfl, pre⟩
      exact (done s inv pre).2
  · rename_i none'
    refine .ret _ ?_
    rintro s' inv ⟨rfl, pre⟩
    exact missing s inv pre (by simpa using none')

/-- An image write leaves a whole file, a torn one or none. -/
theorem imwrite_triple {I P : Store D → Prop} {location : Location} {frame : Frame}
    (done : ∀ s content, I s → P s → I (s.write location content) ∧ P (s.write location content)) :
    Triple I P (imwrite location frame) (fun _ => P) := by
  refine Triple.current.bind fun s => ?_
  have wrote : ∀ content (answer : Bool), Triple I (fun t => s = t ∧ P t) (do
      Script.put (s.write location content)
      pure answer) (fun _ => P) := by
    intro content answer
    refine (Triple.put (Q := fun _ => P) ?_ ?_).bind fun _ => .ret _ fun _ _ holds => holds
    · rintro s' inv ⟨rfl, pre⟩
      exact (done s content inv pre).1
    · rintro s' inv ⟨rfl, pre⟩
      exact (done s content inv pre).2
  exact .asked (wrote _ true) (.asked (wrote _ false) (.ret _ fun _ _ pre => pre.2))

/-- What the operations of one `persist` do to a store with `I` and `P`: `R` holds once the file has
its final name, and `E` where the call may end. -/
structure Persists (temporary final : Location) (stored : AlertEvent D) (I P R E : Store D → Prop) :
    Prop where
  written : ∀ s content, I s → P s → I (s.write temporary content) ∧ P (s.write temporary content)
  dropped : ∀ s, I s → P s → I (s.erase temporary) ∧ E (s.erase temporary)
  renamed : ∀ s t, I s → P s → s.rename temporary final = some t → I t ∧ R t
  inserted : ∀ s t, I s → R s → s.insert stored = some t → I t ∧ E t
  undone : ∀ s, I s → R s → I (s.erase final) ∧ E (s.erase final)
  late : ∀ s, I s → R s → E s

/-- The rule for `persist`, operation by operation. -/
theorem persist_rule {snapshotDirectory : List Char} {frame : Frame} {alert : AlertEvent D}
    {I P R E : Store D → Prop} (early : ∀ s, I s → P s → E s)
    (steps : snapshotDirectory ≠ [] →
      Persists (locate cwd (temporaryPath snapshotDirectory alert.timestampMs alert.id))
        (locate cwd (finalPath snapshotDirectory alert.timestampMs alert.id))
        { alert with snapshotPath := finalPath snapshotDirectory alert.timestampMs alert.id } I P R E) :
    Triple I P (persist cwd snapshotDirectory frame alert) (fun _ => E) := by
  unfold persist
  simp only
  split
  · exact .ret _ early
  · rename_i usable
    obtain ⟨written, dropped, renamed, inserted, undone, late⟩ :=
      steps fun empty => usable (.inl empty)
    have gone : ∀ {P : Store D → Prop} {location : Location}, (∀ s, I s → P s → E s) →
        (∀ s, I s → P s → I (s.erase location) ∧ E (s.erase location)) →
        Triple I P (do
          let _ ← removeFile location
          pure (none : Option (AlertEvent D))) (fun _ => E) := by
      intro P location stays erased
      refine (removeFile_triple (Q := fun _ => E) erased ?_ stays).bind
        fun _ => .ret _ fun _ _ ends => ends
      exact fun s inv pre _ => stays s inv pre
    refine .asked ?_ (.ret _ early)
    refine (imwrite_triple written).bind fun wrote => ?_
    cases wrote with
    | false => exact gone early dropped
    | true =>
      refine .asked ?_ (.ret _ early)
      refine .attempted renamed ?_ (gone early dropped)
      refine .asked ?_ (.ret _ late)
      exact .attempted inserted (.ret _ fun _ _ ends => ends) (gone late undone)

/-- **`persist`** keeps the store sound and adds at most its own row, if no row's snapshot is at
its final path: that path is removed again when the insert fails. -/
theorem persist_triple {snapshotDirectory : List Char} (frame : Frame) (alert : AlertEvent D)
    {rows : List (AlertEvent D)} (clean : CleanId alert.id)
    (unused : ∀ row ∈ rows, place cwd row ≠
      locate cwd (finalPath snapshotDirectory alert.timestampMs alert.id)) :
    Triple (Sound cwd) (fun s => s.rows = rows) (persist cwd snapshotDirectory frame alert)
      (fun _ s => s.rows = rows ∨ ∃ row, row.id = alert.id ∧ s.rows = rows ++ [row]) := by
  -- once renamed, the file is there for the row to come
  refine persist_rule (R := fun s => s.rows = rows ∧
    (s.files (locate cwd (finalPath snapshotDirectory alert.timestampMs alert.id))).isSome = true)
    (fun _ _ same => .inl same) fun some' => ?_
  obtain ⟨parent, final, temporary⟩ := locate_final cwd alert.timestampMs clean some'
  have named : Named cwd { alert with
      snapshotPath := finalPath snapshotDirectory alert.timestampMs alert.id } :=
    ⟨clean, parent, final⟩
  refine ⟨fun s content sound same => ⟨sound.write _ content, same⟩, ?_, ?_, ?_, ?_,
    fun _ _ pre => .inl pre.1⟩
  · intro s sound same
    rw [temporary]
    exact ⟨sound.erase (fun row member => ((sound.named row member).ne_temporary clean).1)
      (fun row member => ((sound.named row member).ne_temporary clean).2), .inl same⟩
  · intro s u sound same moved
    rw [temporary] at moved
    obtain ⟨kept, found, there, _⟩ := rename_cases moved
    refine ⟨sound.rename ?_ ?_ moved, kept.trans same, there ▸ found⟩
    · exact fun row member at' => absurd at' ((sound.named row member).ne_temporary clean).1
    · exact fun row member at' => absurd at' ((sound.named row member).ne_temporary clean).2
  · intro s u sound pre moved
    obtain ⟨sound', added⟩ := sound.insert named pre.2 moved
    refine ⟨sound', .inr ⟨{ alert with
      snapshotPath := finalPath snapshotDirectory alert.timestampMs alert.id }, rfl, ?_⟩⟩
    rw [added, pre.1]
  · intro s sound pre
    refine ⟨sound.erase (fun row member => unused row (pre.1 ▸ member)) ?_, .inl pre.1⟩
    intro row member buried
    exact named.place_ne_tombstone (sound.named row member) buried.symm

/-- **`cleanup_oldest`** keeps the store sound, for whatever rows it was told to remove. -/
theorem cleanupEach_triple {snapshotDirectory : List Char} {alerts : List (AlertEvent D)}
    (named : ∀ alert ∈ alerts, Named cwd alert) :
    Triple (Sound cwd) (fun _ => True) (cleanupEach cwd snapshotDirectory alerts) (fun _ _ => True) := by
  induction alerts with
  | nil => exact .ret _ fun _ _ _ => trivial
  | cons alert rest ih =>
    have name := named alert (by simp)
    unfold cleanupEach
    simp only
    split
    · refine .attempted (R := fun _ => True) ?_ ?_ (.ret _ fun _ _ _ => trivial)
      · intro s u sound _ moved
        refine ⟨sound.rename ?_ ?_ moved, trivial⟩
        · intro row member at'
          rw [tombstone, at']
        · intro row member at'
          exact absurd at'.symm (name.place_ne_tombstone (sound.named row member))
      · refine .asked ?_ (.ret _ fun _ _ _ => trivial)
        refine .attempted (R := fun s => ∀ row ∈ s.rows, row.id ≠ alert.id) ?_ ?_ ?_
        · intro s u sound _ moved
          refine ⟨sound.remove moved, ?_⟩
          rw [(remove_cases moved).2]
          intro row member
          simpa using (List.mem_filter.1 member).2
        · refine (removeFile_triple (Q := fun _ _ => True) ?_ (fun _ _ _ _ => trivial)
            (fun _ _ _ => trivial)).bind fun removal => ?_
          · -- the row is gone, so the tombstone is nobody's
            intro s sound removed
            refine ⟨sound.erase ?_ ?_, trivial⟩
            · exact fun row member => (sound.named row member).place_ne_tombstone name
            · intro row member buried
              exact removed row member ((sound.named row member).id_eq_of_tombstone name buried).1
          · cases removal with
            | removed =>
              refine .asked (ih fun alert member => named alert (by simp [member])) ?_
              exact .ret _ fun _ _ _ => trivial
            | missing => exact .ret _ fun _ _ _ => trivial
            | failed => exact .ret _ fun _ _ _ => trivial
        · refine (Triple.attempt (Q := fun _ _ => True) ?_ (fun _ _ _ => trivial)).bind
            fun _ => .ret _ fun _ _ _ => trivial
          intro s u sound _ moved
          refine ⟨sound.rename ?_ ?_ moved, trivial⟩
          · intro row member at'
            exact absurd at' ((sound.named row member).place_ne_tombstone name)
          · intro row member at'
            exact ((sound.named row member).id_eq_of_tombstone name at').2
    · exact .ret _ fun _ _ _ => trivial

theorem mem_oldestExcess {keep : Nat} {rows : List (AlertEvent D)} {alert : AlertEvent D}
    (member : alert ∈ Store.oldestExcess keep rows) : alert ∈ rows :=
  (List.mem_insertionSort _).1 (List.mem_of_mem_take member)

theorem cleanupOldest_triple {snapshotDirectory : List Char} {keep : Nat} :
    Triple (Sound cwd) (fun _ : Store D => True) (cleanupOldest cwd snapshotDirectory keep)
      (fun _ _ => True) := by
  refine .asked ?_ (.ret _ fun _ _ _ => trivial)
  refine .reading fun s sound _ => ?_
  split
  · exact .ret _ fun _ _ _ => trivial
  · refine (cleanupEach_triple ?_).conseq (fun _ _ _ => trivial) fun _ _ _ _ => trivial
    exact fun alert member => sound.named alert (mem_oldestExcess member)

/-- **One tombstone** settled: its row, read off its name, decides where the file goes. -/
theorem settle_triple {entry : Location} (tagged : extension (entry.getLastD []) = deleting) :
    Triple (Sound cwd) (fun _ : Store D => True) (settle entry) (fun _ _ => True) := by
  obtain ⟨parent, name, rfl, ends⟩ := tagged_shape tagged
  unfold settle
  simp only [List.getLastD_concat, List.dropLast_concat]
  refine .asked ?_ (.ret _ fun _ _ _ => trivial)
  refine .reading fun s sound _ => ?_
  split
  · refine Triple.attempt ?_ fun _ _ _ => trivial
    rintro s' u sound' rfl moved
    refine ⟨sound'.rename ?_ ?_ moved, trivial⟩
    · exact fun row member at' => absurd at' ((sound'.named row member).place_untagged ends)
    · exact fun row member at' => ((sound'.named row member).of_tombstone at').1
  · rename_i rowless
    refine (removeFile_triple (Q := fun _ _ => True) ?_ (fun _ _ _ _ => trivial)
      (fun _ _ _ => trivial)).bind fun removal => ?_
    · rintro s' sound' rfl
      refine ⟨sound'.erase (fun row member => (sound'.named row member).place_untagged ends) ?_,
        trivial⟩
      intro row member at'
      have id := ((sound'.named row member).of_tombstone at').2
      exact rowless (hasRow_iff.2 ⟨row, member, id.symm⟩)
    · cases removal <;> exact .ret _ fun _ _ _ => trivial

theorem reconcileEach_triple {entries : List Location} :
    Triple (Sound cwd) (fun _ : Store D => True) (reconcileEach entries) (fun _ _ => True) := by
  induction entries with
  | nil => exact .ret _ fun _ _ _ => trivial
  | cons entry rest ih =>
    unfold reconcileEach
    refine .asked ?_ (.ret _ fun _ _ _ => trivial)
    refine .reading fun s _ _ => Triple.conseq ?_ (fun _ _ _ => trivial) fun _ _ _ ends => ends
    split
    · rename_i tagged
      simp only [Bool.and_eq_true, decide_eq_true_eq] at tagged
      refine (settle_triple tagged.2).bind fun settled => ?_
      cases settled with
      | true => exact .asked ih (.ret _ fun _ _ _ => trivial)
      | false => exact .ret _ fun _ _ _ => trivial
    · exact ih

theorem reconcileDeletions_triple {listing : Option (List Location)} :
    Triple (Sound cwd) (fun _ : Store D => True) (reconcileDeletions listing) (fun _ _ => True) := by
  unfold reconcileDeletions
  refine .asked ?_ (.ret _ fun _ _ _ => trivial)
  cases listing with
  | none => exact .ret _ fun _ _ _ => trivial
  | some entries => exact .asked reconcileEach_triple (.ret _ fun _ _ _ => trivial)

section Process

variable {F : Type}

/-- The rows there are while `process` stands at the rule `ruleIndex`: the ones it found, and
its own for the rules before. -/
def Grown (base : List (AlertEvent D)) (call : Call F D) (ruleIndex : Nat) (s : Store D) : Prop :=
  ∀ row ∈ s.rows, row ∈ base ∨
    ∃ i < ruleIndex, ∃ n, row.id = alertId call.timestampMs call.result.frameSequence i n

/-- No row's snapshot is where `process` would put the one of the alert `id`. -/
def Unused (cwd snapshotDirectory : List Char) (rows : List (AlertEvent D)) (timestampMs : Int)
    (id : List Char) : Prop :=
  ∀ row ∈ rows, place cwd row ≠ locate cwd (finalPath snapshotDirectory timestampMs id)

instance (snapshotDirectory : List Char) (rows : List (AlertEvent D)) (timestampMs : Int)
    (id : List Char) : Decidable (Unused cwd snapshotDirectory rows timestampMs id) :=
  inferInstanceAs (Decidable (∀ row ∈ rows, _))

/-- `persist` behind `snapshot_frame`, which may be null. -/
def persistFrame (cwd snapshotDirectory : List Char) (frame : Option Frame) (alert : AlertEvent D) :
    Script (Store D) (Option (AlertEvent D)) :=
  match frame with
  | none => pure none
  | some frame => persist cwd snapshotDirectory frame alert

variable {snapshotDirectory : List Char} {base : List (AlertEvent D)} {call : Call F D}
  {frame : Option Frame} {version : String}

theorem Grown.next {ruleIndex : Nat} {s : Store D} (grown : Grown base call ruleIndex s) :
    Grown base call (ruleIndex + 1) s := by
  intro row member
  rcases grown row member with old | ⟨i, before, n, id⟩
  · exact .inl old
  · exact .inr ⟨i, Nat.lt_succ_of_lt before, n, id⟩

/-- A row of the same call belongs to another rule, so its file has another name. -/
theorem Grown.unused {ruleIndex nextId : Nat} {s : Store D} (grown : Grown base call ruleIndex s)
    (sound : Sound cwd s) (some' : snapshotDirectory ≠ [])
    (unused : Unused cwd snapshotDirectory base call.timestampMs
      (alertId call.timestampMs call.result.frameSequence ruleIndex nextId)) :
    Unused cwd snapshotDirectory s.rows call.timestampMs
      (alertId call.timestampMs call.result.frameSequence ruleIndex nextId) := by
  have clean := alertId_clean call.timestampMs call.result.frameSequence ruleIndex nextId
  intro row member at'
  rcases grown row member with old | ⟨i, before, n, id⟩
  · exact unused row old at'
  · obtain ⟨parent, placed, _⟩ := (sound.named row member).places
    obtain ⟨parent', final, _⟩ := locate_final cwd call.timestampMs clean some'
    rw [placed, final] at at'
    have name := (last_eq at').2
    rw [jpg_eq, jpg_eq, id] at name
    have same := (Text.append_stop_inj (alertId_clean ..).dot clean.dot name).1
    exact absurd (alertId_index same) (Nat.ne_of_lt before)

/-- The alert of one rule is stored, or not. -/
theorem persistFrame_triple {ruleIndex nextId : Nat} {detections : List (AlertDetection D)}
    (unused : Unused cwd snapshotDirectory base call.timestampMs
      (alertId call.timestampMs call.result.frameSequence ruleIndex nextId)) :
    Triple (Sound cwd) (Grown base call ruleIndex)
      (persistFrame cwd snapshotDirectory frame (alertOf call version ruleIndex nextId detections))
      (fun _ => Grown base call (ruleIndex + 1)) := by
  cases frame with
  | none => exact .ret _ fun _ _ grown => grown.next
  | some frame =>
    by_cases empty : snapshotDirectory = []
    · have rejected : persistFrame cwd snapshotDirectory (some frame)
          (alertOf call version ruleIndex nextId detections) = pure none := if_pos (.inl empty)
      rw [rejected]
      exact .ret _ fun _ _ grown => grown.next
    · refine .fixed fun s sound grown => ?_
      have stored := persist_triple frame (alertOf call version ruleIndex nextId detections)
        (alertId_clean ..) (grown.unused sound empty unused)
      refine stored.conseq (fun t _ same => congrArg Store.rows same) ?_
      rintro _ t _ (same | ⟨row, id, added⟩)
      · intro row member
        exact grown.next row (same ▸ member)
      · intro row' member
        rw [added] at member
        rcases List.mem_append.1 member with old | new
        · exact grown.next row' old
        · rw [List.mem_singleton.1 new]
          exact .inr ⟨ruleIndex, Nat.lt_succ_self _, nextId, id⟩

variable [Floating F D] {names : List String}

/-- The rule raises an alert on this call, stored or not. -/
def due (names : List String) (call : Call F D) (state : RuleState D) : Bool :=
  !(matching names call.frameWidth call.frameHeight state.rule call.result.detections).isEmpty &&
    decide (state.rule.consecutiveFrames ≤ state.consecutive + 1) && !state.cooling call.monotonicTime

/-- The ids `process` gives out, rule by rule. -/
def idsFrom (names : List String) (call : Call F D) :
    Nat → Nat → List (RuleState D) → List (List Char)
  | _, _, [] => []
  | ruleIndex, nextId, state :: rest =>
    if due names call state then
      alertId call.timestampMs call.result.frameSequence ruleIndex nextId ::
        idsFrom names call (ruleIndex + 1) (nextId + 1) rest
    else idsFrom names call (ruleIndex + 1) nextId rest

theorem processRule_triple {ruleIndex nextId : Nat} {state : RuleState D}
    (unused : due names call state = true → Unused cwd snapshotDirectory base call.timestampMs
      (alertId call.timestampMs call.result.frameSequence ruleIndex nextId)) :
    Triple (Sound cwd) (Grown base call ruleIndex)
      (processRule (persistFrame cwd snapshotDirectory frame) names call version ruleIndex nextId state)
      (fun answer s => answer.2.2 = (if due names call state then nextId + 1 else nextId) ∧
        Grown base call (ruleIndex + 1) s) := by
  unfold processRule
  simp only
  split
  · rename_i none'
    exact .ret _ fun _ _ grown => ⟨by simp [due, none'], grown.next⟩
  · rename_i some'
    split
    · rename_i short
      have undue : due names call state = false := by simp [due]; omega
      exact .ret _ fun _ _ grown => ⟨by simp [undue], grown.next⟩
    · rename_i reached
      split
      · rename_i cooling
        have undue : due names call state = false := by
          simp only [due, show state.cooling call.monotonicTime = true from cooling]
          simp
        exact .ret _ fun _ _ grown => ⟨by simp [undue], grown.next⟩
      · rename_i warm
        have raises : due names call state = true := by
          have warm : state.cooling call.monotonicTime = false := Bool.eq_false_iff.2 warm
          simp only [due, warm]
          simp [some']
          omega
        refine (persistFrame_triple (unused raises)).bind fun stored => ?_
        cases stored with
        | none => exact .ret _ fun _ _ grown => ⟨by simp [raises], grown⟩
        | some alert => exact .ret _ fun _ _ grown => ⟨by simp [raises], grown⟩

/-- **`process`** keeps the store sound if no row's snapshot is where one of its own would go. -/
theorem processRules_triple {ruleIndex nextId : Nat} {rules : List (RuleState D)}
    (unused : ∀ id ∈ idsFrom names call ruleIndex nextId rules,
      Unused cwd snapshotDirectory base call.timestampMs id) :
    Triple (Sound cwd) (Grown base call ruleIndex)
      (processRules (persistFrame cwd snapshotDirectory frame) names call version ruleIndex nextId rules)
      (fun _ _ => True) := by
  induction rules generalizing ruleIndex nextId with
  | nil => exact .ret _ fun _ _ _ => trivial
  | cons state rest ih =>
    unfold processRules
    refine (processRule_triple ?_).bind fun answer => ?_
    · intro raises
      exact unused _ (by simp [idsFrom, raises])
    · refine .fixed fun s _ pre => ?_
      have later : ∀ id ∈ idsFrom names call (ruleIndex + 1) answer.2.2 rest,
          Unused cwd snapshotDirectory base call.timestampMs id := by
        intro id member
        refine unused id ?_
        rw [pre.1] at member
        by_cases raises : due names call state = true
        · rw [if_pos raises] at member
          rw [idsFrom, if_pos raises]
          exact List.mem_cons_of_mem _ member
        · rw [if_neg raises] at member
          rw [idsFrom, if_neg raises]
          exact member
      refine ((ih later).conseq (fun t _ same => ?_) fun _ _ _ ends => ends).bind
        fun _ => .ret _ fun _ _ _ => trivial
      rw [same]
      exact pre.2

end Process

end SkaiEdge.Storage
