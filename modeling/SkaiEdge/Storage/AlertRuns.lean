import SkaiEdge.Storage.AlertIntegrity

/-!
# Every stored alert keeps its snapshot

`System` is the alert manager over its database and its files, call by call: `process`,
`cleanup_oldest`, `configure` with its `reconcile_deletions`, and restarts, after which a fresh manager
counts its ids from one again. Each call comes with what the environment answers to its single
operations, and may be cut off behind any of them. `Fresh` says that no id is given out again
whose snapshot path a stored row holds; under it every row keeps its snapshot.
-/

namespace SkaiEdge.Storage

open SkaiEdge.Lib SkaiEdge.Lib.Path SkaiEdge.Lib.Script SkaiEdge.Inference SkaiEdge.Alerts

structure System (D : Type) where
  store : Store D
  manager : AlertManager D := {}

inductive Op (F D : Type) where
  | process (names : List String) (call : Call F D) (frame : Option Frame)
  | cleanupOldest (keep : Nat)
  | configure (rules : List (AlertRuleConfig D)) (snapshotDirectory : List Char)
      (modelVersion : String) (listing : Option (List Location))
  | restart

/-- A call, the environment's answers to it, and the operation behind which the process dies. -/
structure Action (F D : Type) where
  op : Op F D
  answers : List Bool := []
  crash : Option Nat := none

variable {F D : Type}

/-- The system behind a call: the manager goes on, or a new one finds what the old one left. -/
def System.after (crash : Option Nat) (world : World (Store D)) (manager : AlertManager D) :
    Option (System D) :=
  match crash with
  | none => some ⟨world.state, manager⟩
  | some n => world.passed[n]?.map fun store => { store := store }

variable [Floating F D]

def System.step (cwd : List Char) (s : System D) (a : Action F D) : Option (System D) :=
  match a.op with
  | .process names call frame =>
    let (answer, world) := Script.exec
      (s.manager.process (persistFrame cwd s.manager.snapshotDirectory frame) names call) a.answers s.store
    System.after a.crash world answer.2
  | .cleanupOldest keep =>
    let (_, world) := Script.exec (cleanupOldest cwd s.manager.snapshotDirectory keep) a.answers s.store
    System.after a.crash world s.manager
  | .configure rules snapshotDirectory modelVersion listing =>
    let (_, world) := Script.exec (reconcileDeletions listing) a.answers s.store
    System.after a.crash world (s.manager.configure rules snapshotDirectory modelVersion)
  | .restart => some { store := s.store }

/-- The call gives out no id under whose final path a row keeps its snapshot. -/
def Fresh (cwd : List Char) (s : System D) (a : Action F D) : Prop :=
  match a.op with
  | .process names call _ =>
    ∀ id ∈ idsFrom names call 0 s.manager.nextId (s.manager.counted call.detectorGeneration),
      Unused cwd s.manager.snapshotDirectory s.store.rows call.timestampMs id
  | _ => True

instance (cwd : List Char) (s : System D) : ∀ a : Action F D, Decidable (Fresh cwd s a)
  | ⟨.process _ _ _, _, _⟩ => inferInstanceAs (Decidable (∀ id ∈ _, Unused _ _ _ _ id))
  | ⟨.cleanupOldest _, _, _⟩ | ⟨.configure _ _ _ _, _, _⟩ | ⟨.restart, _, _⟩ =>
    inferInstanceAs (Decidable True)

variable {cwd : List Char} {s v : System D}

theorem after_sound {crash : Option Nat} {world : World (Store D)} {manager : AlertManager D}
    (sound : Sound cwd world.state) (passed : ∀ t ∈ world.passed, Sound cwd t)
    (moved : System.after crash world manager = some v) : Sound cwd v.store := by
  cases crash with
  | none =>
    cases moved
    exact sound
  | some n =>
    obtain ⟨store, at', rfl⟩ := Option.map_eq_some_iff.1 moved
    exact passed store (List.mem_of_getElem? at')

theorem process_triple {names : List String} {call : Call F D} (frame : Option Frame)
    {manager : AlertManager D} {base : List (AlertEvent D)}
    (unused : ∀ id ∈ idsFrom names call 0 manager.nextId (manager.counted call.detectorGeneration),
      Unused cwd manager.snapshotDirectory base call.timestampMs id) :
    Triple (Sound cwd) (fun s => s.rows = base)
      (manager.process (persistFrame cwd manager.snapshotDirectory frame) names call)
      (fun _ _ => True) := by
  refine ((processRules_triple unused).conseq (fun s _ same => ?_) fun _ _ _ ends => ends).bind
    fun _ => .ret _ fun _ _ _ => trivial
  exact fun row member => .inl (same ▸ member)

/-- **Every step keeps the store sound** if the ids it gives out are fresh. -/
theorem System.step_sound {a : Action F D} (sound : Sound cwd s.store) (fresh : Fresh cwd s a)
    (moved : s.step cwd a = some v) : Sound cwd v.store := by
  obtain ⟨op, answers, crash⟩ := a
  cases op with
  | process names call frame =>
    obtain ⟨ends, _, passed⟩ := (process_triple frame fresh).exec answers sound rfl
    exact after_sound ends passed moved
  | cleanupOldest keep =>
    obtain ⟨ends, _, passed⟩ := cleanupOldest_triple.exec answers sound trivial
    exact after_sound ends passed moved
  | configure rules snapshotDirectory modelVersion listing =>
    obtain ⟨ends, _, passed⟩ := reconcileDeletions_triple.exec answers sound trivial
    exact after_sound ends passed moved
  | restart =>
    cases moved
    exact sound

/-- **Every row keeps its snapshot**, at its path or at its tombstone, in every run from an empty
table in which no id is given out under whose final path a row keeps its snapshot. -/
theorem row_keeps_snapshot {files : Location → Option Snapshot} {t : System D}
    (run : Runs (System.step (F := F) cwd) (Fresh cwd) { store := ⟨files, []⟩ } t) :
    ∀ row ∈ t.store.rows, Kept cwd t.store row := by
  have start : Sound cwd (⟨files, []⟩ : Store D) := ⟨by simp, by simp, by simp⟩
  have sound : Sound cwd t.store := run.invariant start fun _ _ _ => System.step_sound
  exact sound.kept

/-- One rule that raises an alert on the first person it sees. -/
def watched : Action ℚ ℚ :=
  { op := .configure [{ className := "person", confidence := 0 }] ['/', 'a'] "" none }

/-- A person in a frame of one pixel, at the time and the frame number zero. -/
def seen : Action ℚ ℚ :=
  { op := .process ["person"]
      { result := { detections := [⟨0, 1, 0, 0, 1, 1⟩] }, frameWidth := 1, frameHeight := 1
        detectorGeneration := 0, wallTime := 0, monotonicTime := 0 }
      (some { width := 1, height := 1, stride := 3, bgr := [0, 0, 0] }) }

/-- One alert is stored, and its snapshot is there. -/
theorem row_keeps_snapshot_stored : ∃ t : System ℚ, t.store.rows.length = 1 ∧
    ∀ row ∈ t.store.rows, Kept ['/'] t.store row := by
  obtain ⟨t, run, stored⟩ : ∃ t : System ℚ, Runs (System.step (F := ℚ) ['/']) (Fresh ['/'])
      { store := ⟨fun _ => none, []⟩ } t ∧ t.store.rows.length = 1 :=
    Runs.exists_of_play [watched, seen] (by decide +kernel) (by decide +kernel)
  exact ⟨t, stored, row_keeps_snapshot run⟩

/-- After a restart the same time and frame number give the same id: the insert fails on it, and the
removal of the new snapshot takes the one of the stored row. -/
theorem reused_id_removes_snapshot : ∃ t : System ℚ,
    Runs (System.step (F := ℚ) ['/']) Free { store := ⟨fun _ => none, []⟩ } t ∧
      ∃ row ∈ t.store.rows, ¬ Kept ['/'] t.store row :=
  Runs.exists_of_play [watched, seen, { op := .restart }, watched, seen] (by decide +kernel)
    (Meets.free _ _)

end SkaiEdge.Storage
