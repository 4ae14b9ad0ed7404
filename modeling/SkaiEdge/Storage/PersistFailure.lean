import SkaiEdge.Storage.SnapshotNames

/-!
# What a failed `persist` leaves behind

`persist` writes a temporary file, makes it durable, renames it, makes the rename durable and
inserts the row. Where the write, the rename or the insert fails it removes the file it has made;
where one of the two `sync_path` calls fails it only returns. `Persisting` says how the single
operations of one call end, and `Synced` that neither of the two fails.
-/

namespace SkaiEdge.Storage

open SkaiEdge.Lib SkaiEdge.Lib.Path SkaiEdge.Lib.Script SkaiEdge.Inference SkaiEdge.Alerts

variable {D : Type}

/-- Which operations of one `persist` succeed. A failed image write may leave a torn file. -/
structure Persisting where
  directory : Bool := true
  image : Bool := true
  torn : Bool := false
  syncFile : Bool := true
  rename : Bool := true
  syncDirectory : Bool := true
  insert : Bool := true
  removal : Bool := true
  deriving DecidableEq, Repr

/-- The answers in the order in which `persist` asks for them. -/
def Persisting.answers (o : Persisting) : List Bool :=
  if !o.directory then [false]
  else if !o.image then [true, false, o.torn, o.removal]
  else if !o.syncFile then [true, true, false]
  else if !o.rename then [true, true, true, false, o.removal]
  else if !o.syncDirectory then [true, true, true, true, false]
  else [true, true, true, true, true, o.insert, o.removal]

/-- No `sync_path` that `persist` comes to fails. -/
def Synced (snapshotDirectory : List Char) (frame : Frame) (o : Persisting) : Prop :=
  unusable snapshotDirectory frame ∨ o.directory = false ∨ o.image = false ∨
    o.syncFile = true ∧ (o.rename = false ∨ o.syncDirectory = true)

/-- No file below `root` is the snapshot of the id, or its temporary file. -/
def Absent (root : Location) (id : List Char) (s : Store D) : Prop :=
  ∀ parent, root <+: parent → s.files (parent ++ [jpg id]) = none ∧ s.files (parent ++ [tmpJpg id]) = none

section Run

variable {cwd snapshotDirectory : List Char} {frame : Frame} {alert : AlertEvent D} {s : Store D}
  {o : Persisting}

theorem write_erase {location : Location} (content : Snapshot) (free : s.files location = none) :
    (s.write location content).erase location = s := by
  cases s
  simp [Store.write, Store.erase, ← free]

theorem erase_free {location : Location} (free : s.files location = none) : s.erase location = s := by
  cases s
  simp [Store.erase, ← free]

/-- A removal that the environment allows. -/
theorem removeFile_run (location : Location) (t : Store D) (passed : List (Store D)) :
    (removeFile location ⟨[true], t, passed⟩).2.state = t.erase location := by
  by_cases found : (t.files location).isSome
  · simp [removeFile, run_bind, run_map, run_ask, Script.current, Script.put, found]
  · have same := erase_free (by simpa using found : t.files location = none)
    simp [removeFile, run_bind, run_pure, run_ask, Script.current, found, same]

theorem imwrite_run {location : Location} {rest : List Bool} {passed : List (Store D)} :
    imwrite location frame ⟨true :: rest, s, passed⟩ =
      (true, ⟨rest, s.write location (.whole frame), passed ++ [s.write location (.whole frame)]⟩) := rfl

/-- What a failed image write leaves is one file at most. -/
theorem imwrite_fails {location : Location} {torn : Bool} {rest : List Bool} {passed : List (Store D)}
    (free : s.files location = none) : ∃ t passed',
      imwrite location frame ⟨false :: torn :: rest, s, passed⟩ = (false, ⟨rest, t, passed'⟩) ∧
        t.erase location = s := by
  cases torn with
  | false => exact ⟨s, passed, rfl, erase_free free⟩
  | true => exact ⟨s.write location .torn, passed ++ [s.write location .torn], rfl, write_erase _ free⟩

/-- The temporary file under its final name. -/
theorem rename_written {temporary final : Location} (fresh : s.files temporary = none) :
    (s.write temporary (.whole frame)).rename temporary final = some (s.write final (.whole frame)) := by
  have same : Function.update s.files temporary none = s.files := by simp [← fresh]
  simp [Store.rename, Store.write, same]

/-- Where a `sync_path` fails the file stays, under its temporary or its final name. -/
theorem persist_unsynced
    (fresh : s.files (locate cwd (temporaryPath snapshotDirectory alert.timestampMs alert.id)) = none)
    (failed : ¬ Synced snapshotDirectory frame o) :
    let run := (persist cwd snapshotDirectory frame alert).exec o.answers s
    run.1 = none ∧
      (run.2.state = s.write (locate cwd (temporaryPath snapshotDirectory alert.timestampMs alert.id))
          (.whole frame) ∨
        run.2.state = s.write (locate cwd (finalPath snapshotDirectory alert.timestampMs alert.id))
          (.whole frame)) := by
  simp only [Synced, not_or, not_and, Bool.not_eq_false, Bool.not_eq_true] at failed
  obtain ⟨usable, directory, image, sync⟩ := failed
  simp only [persist, usable, if_false, Script.exec, Persisting.answers, directory, image]
  cases file : o.syncFile with
  | false => simp [run_bind, run_pure, run_ask, imwrite_run]
  | true =>
    obtain ⟨rename, folder⟩ := sync file
    simp [rename, folder, run_bind, run_pure, run_ask, imwrite_run, run_attempt (rename_written fresh)]

/-- Where none fails, a `persist` that returns false has undone what it did. -/
theorem persist_synced
    (fresh : s.files (locate cwd (temporaryPath snapshotDirectory alert.timestampMs alert.id)) = none)
    (unused : s.files (locate cwd (finalPath snapshotDirectory alert.timestampMs alert.id)) = none)
    (removed : o.removal = true) (synced : Synced snapshotDirectory frame o)
    (rejected : ((persist cwd snapshotDirectory frame alert).exec o.answers s).1 = none) :
    ((persist cwd snapshotDirectory frame alert).exec o.answers s).2.state = s := by
  by_cases usable : unusable snapshotDirectory frame
  · simp [persist, usable, Script.exec, run_pure]
  cases directory : o.directory with
  | false =>
    simp [persist, usable, Script.exec, Persisting.answers, directory, run_bind, run_ask, run_pure]
  | true =>
  cases image : o.image with
  | false =>
    obtain ⟨t, passed, failed, undone⟩ :=
      @imwrite_fails D frame s _ o.torn [true] [] fresh
    simp [persist, usable, Script.exec, Persisting.answers, directory, image, removed, run_bind, run_ask,
      run_map, failed, removeFile_run, undone]
  | true =>
  obtain ⟨file, durable⟩ : o.syncFile = true ∧ (o.rename = false ∨ o.syncDirectory = true) := by
    simpa [Synced, usable, directory, image] using synced
  cases rename : o.rename with
  | false =>
    simp [persist, usable, Script.exec, Persisting.answers, directory, image, file, rename, removed,
      run_bind, run_ask, run_map, imwrite_run, run_refused, removeFile_run, write_erase _ fresh]
  | true =>
  have folder : o.syncDirectory = true := by simpa [rename] using durable
  -- the renamed file is there; the insert decides
  have undone : (s.write (locate cwd (finalPath snapshotDirectory alert.timestampMs alert.id))
      (.whole frame)).erase (locate cwd (finalPath snapshotDirectory alert.timestampMs alert.id)) = s :=
    write_erase _ unused
  cases insert : o.insert with
  | false =>
    simp [persist, usable, Script.exec, Persisting.answers, directory, image, file, rename, folder,
      insert, removed, run_bind, run_ask, run_map, imwrite_run, run_attempt (rename_written fresh),
      run_refused, removeFile_run, undone]
  | true =>
    cases stored : Store.insert { alert with
        snapshotPath := finalPath snapshotDirectory alert.timestampMs alert.id }
        (s.write (locate cwd (finalPath snapshotDirectory alert.timestampMs alert.id)) (.whole frame)) with
    | none =>
      simp [persist, usable, Script.exec, Persisting.answers, directory, image, file, rename, folder,
        insert, removed, run_bind, run_ask, run_map, imwrite_run, run_attempt (rename_written fresh),
        run_impossible stored, removeFile_run, undone]
    | some t =>
      simp [persist, usable, Script.exec, Persisting.answers, directory, image, file, rename, folder,
        insert, removed, run_bind, run_ask, run_pure, imwrite_run, run_attempt (rename_written fresh),
        run_attempt stored] at rejected

/-- **A failed `persist` leaves nothing behind exactly if no `sync_path` failed.** For every frame,
alert with a fresh id and outcome of the single operations in which removals succeed: if `persist`
returns false, no snapshot and no temporary file of the id is in the directory and the rows are
those of before, if and only if neither of the two `sync_path` calls that it comes to fails. -/
theorem persist_failure_clean_iff (clean : CleanId alert.id)
    (fresh : Absent (locate cwd snapshotDirectory) alert.id s) (removed : o.removal = true) :
    (((persist cwd snapshotDirectory frame alert).exec o.answers s).1 = none →
        Absent (locate cwd snapshotDirectory) alert.id
            ((persist cwd snapshotDirectory frame alert).exec o.answers s).2.state ∧
          ((persist cwd snapshotDirectory frame alert).exec o.answers s).2.state.rows = s.rows) ↔
      Synced snapshotDirectory frame o := by
  by_cases usable : unusable snapshotDirectory frame
  · have same : ((persist cwd snapshotDirectory frame alert).exec o.answers s).2.state = s := by
      simp [persist, usable, Script.exec, run_pure]
    rw [same]
    exact ⟨fun _ => .inl usable, fun _ _ => ⟨fresh, rfl⟩⟩
  · have some' : snapshotDirectory ≠ [] := fun empty => usable (.inl empty)
    obtain ⟨final, temporary⟩ := locate_files cwd alert.timestampMs clean some'
    have below : locate cwd snapshotDirectory <+:
        locate cwd snapshotDirectory ++ [utcDate alert.timestampMs] := List.prefix_append ..
    obtain ⟨unused, unwritten⟩ := fresh _ below
    rw [← final] at unused
    rw [← temporary] at unwritten
    constructor
    · intro leaves
      by_contra failed
      obtain ⟨rejected, left⟩ := persist_unsynced unwritten failed
      obtain ⟨unused', unwritten'⟩ := (leaves rejected).1 _ below
      rcases left with left | left
      · rw [left, ← temporary] at unwritten'
        simp [Store.write] at unwritten'
      · rw [left, ← final] at unused'
        simp [Store.write] at unused'
    · intro synced rejected
      rw [persist_synced unwritten unused removed synced rejected]
      exact ⟨fresh, rfl⟩

end Run

/-- One pixel. -/
def pixel : Frame := { width := 1, height := 1, stride := 3, bgr := [0, 0, 0] }

/-- The first alert of the first frame, before it is stored. -/
def unstored : AlertEvent ℚ := { id := alertId 0 0 0 1, timestampMs := 0 }

/-- A rename that fails is undone. -/
theorem persist_failure_clean_rename : Synced ['/', 'a'] pixel { rename := false } ∧
    Absent (locate ['/'] ['/', 'a']) unstored.id
      ((persist ['/'] ['/', 'a'] pixel unstored).exec ({ rename := false } : Persisting).answers
        ⟨fun _ => none, []⟩).2.state := by
  have synced : Synced ['/', 'a'] pixel { rename := false } := .inr (.inr (.inr ⟨rfl, .inl rfl⟩))
  have clean := (@persist_failure_clean_iff ℚ ['/'] ['/', 'a'] pixel unstored ⟨fun _ => none, []⟩
    { rename := false } (alertId_clean 0 0 0 1) (fun _ _ => ⟨rfl, rfl⟩) rfl).2 synced (by decide +kernel)
  exact ⟨synced, clean.1⟩

/-- A `fsync` of the temporary file that fails leaves the file. -/
theorem unsynced_file_left :
    ¬ (((persist ['/'] ['/', 'a'] pixel unstored).exec ({ syncFile := false } : Persisting).answers
          ⟨fun _ => none, []⟩).1 = none →
        Absent (locate ['/'] ['/', 'a']) unstored.id
            ((persist ['/'] ['/', 'a'] pixel unstored).exec ({ syncFile := false } : Persisting).answers
              ⟨fun _ => none, []⟩).2.state ∧
          ((persist ['/'] ['/', 'a'] pixel unstored).exec ({ syncFile := false } : Persisting).answers
            ⟨fun _ => none, []⟩).2.state.rows = []) := by
  intro leaves
  have gone := ((leaves (by decide +kernel)).1 [['a'], utcDate 0] (by decide +kernel)).2
  revert gone
  decide +kernel

end SkaiEdge.Storage
