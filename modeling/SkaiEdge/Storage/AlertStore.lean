import Mathlib
import SkaiEdge.Lib.Script
import SkaiEdge.Lib.Path
import SkaiEdge.Alerts.AlertManager

/-!
# The alert store (`src/alerts/alert_manager.cpp`, `src/storage/alert_repository.cpp`)

Snapshot files and the rows of the `alerts` table, changed by `persist`, `cleanup_oldest` and
`reconcile_deletions`. Each rename, removal, image write, row insert and row delete is one
operation of a `Script`: it takes effect as a whole or fails, as the environment answers. A
`sync_path`, the creation of directories and every query only ask the environment whether
they succeed. Files are found by their `locate`; the working directory is `cwd`.

The directory iterator of `reconcile_deletions` is the environment's `listing`: `none` when
the directory does not exist, else the entries in the order in which it yields them.
-/

namespace SkaiEdge.Storage

open SkaiEdge.Lib SkaiEdge.Lib.Path SkaiEdge.Inference SkaiEdge.Alerts

/-- The content of a snapshot file; an image write that fails may leave a torn one. -/
inductive Snapshot where
  | whole (frame : Frame)
  | torn
  deriving DecidableEq, Repr

structure Store (D : Type) where
  files : Location → Option Snapshot
  rows : List (AlertEvent D)

variable {D : Type}

namespace Store

def write (location : Location) (content : Snapshot) (s : Store D) : Store D :=
  { s with files := Function.update s.files location (some content) }

/-- `std::filesystem::rename`; it replaces a file under the new name. -/
def rename (source target : Location) (s : Store D) : Option (Store D) :=
  (s.files source).map fun content =>
    { s with
      files := Function.update (Function.update s.files source none) target (some content) }

def erase (location : Location) (s : Store D) : Store D :=
  { s with files := Function.update s.files location none }

def hasRow (id : List Char) (s : Store D) : Bool := s.rows.any fun row => row.id = id

/-- `AlertRepository::insert`: the checks, the primary key, and the transaction. -/
def insert (alert : AlertEvent D) (s : Store D) : Option (Store D) :=
  if alert.id = [] ∨ alert.snapshotPath = [] ∨ alert.frameSequence.toNat > 2 ^ 63 - 1 ∨
      s.hasRow alert.id then none
  else some { s with rows := s.rows ++ [alert] }

/-- `AlertRepository::remove`. -/
def remove (id : List Char) (s : Store D) : Option (Store D) :=
  if s.hasRow id then some { s with rows := s.rows.filter fun row => row.id ≠ id } else none

/-- `ORDER BY timestamp_ms ASC, id ASC`. -/
def older (a b : AlertEvent D) : Prop :=
  a.timestampMs < b.timestampMs ∨ a.timestampMs = b.timestampMs ∧ a.id ≤ b.id

instance : DecidableRel (older (D := D)) := fun _ _ => inferInstanceAs (Decidable (_ ∨ _ ∧ _))

/-- `find_oldest_excess`: the rows that are not among the `keep` newest, oldest first. The limit
is bound as an `int`. -/
def oldestExcess (keep : Nat) (rows : List (AlertEvent D)) : List (AlertEvent D) :=
  (rows.insertionSort older).take (rows.length - min keep (2 ^ 31 - 1))

end Store

/-! ## The order of the rows -/

/-- The rows, oldest first. -/
structure Oldest (rows order : List (AlertEvent D)) : Prop where
  complete : order.Perm rows
  ascending : order.Pairwise Store.older

theorem older_antisymm {a b : AlertEvent D} (ab : Store.older a b) (ba : Store.older b a) :
    a.id = b.id := by
  rcases ab with earlier | ⟨same, le⟩
  · rcases ba with later | ⟨same, _⟩ <;> omega
  · rcases ba with later | ⟨_, ge⟩
    · omega
    · exact le_antisymm le ge

theorem older_total (a b : AlertEvent D) : Store.older a b ∨ Store.older b a := by
  rcases Int.lt_trichotomy a.timestampMs b.timestampMs with earlier | same | later
  · exact .inl (.inl earlier)
  · rcases le_total a.id b.id with le | ge
    · exact .inl (.inr ⟨same, le⟩)
    · exact .inr (.inr ⟨same.symm, ge⟩)
  · exact .inr (.inl later)

theorem older_trans {a b c : AlertEvent D} (ab : Store.older a b) (bc : Store.older b c) :
    Store.older a c := by
  rcases ab with earlier | ⟨same, le⟩ <;> rcases bc with later | ⟨same', le'⟩
  · exact .inl (by omega)
  · exact .inl (by omega)
  · exact .inl (by omega)
  · exact .inr ⟨same.trans same', le.trans le'⟩

instance : Std.Total (Store.older (D := D)) := ⟨older_total⟩

instance : IsTrans (AlertEvent D) Store.older := ⟨fun _ _ _ => older_trans⟩

/-- The query yields the order. -/
theorem Oldest.sorted {rows order : List (AlertEvent D)} (oldest : Oldest rows order)
    (unique : (rows.map (·.id)).Nodup) : rows.insertionSort Store.older = order := by
  have perm := List.perm_insertionSort Store.older rows
  refine (perm.trans oldest.complete.symm).eq_of_pairwise ?_ (List.pairwise_insertionSort _ _)
    oldest.ascending
  intro a b first second ab ba
  exact List.inj_on_of_nodup_map unique (perm.mem_iff.1 first) (oldest.complete.mem_iff.1 second)
    (older_antisymm ab ba)

/-- Without the first part the second is left. -/
theorem filter_perm_of_split {rows first second : List (AlertEvent D)}
    (split : (first ++ second).Perm rows) (unique : (rows.map (·.id)).Nodup) :
    (rows.filter fun row => row.id ∉ first.map (·.id)).Perm second := by
  have distinct : ((first ++ second).map (·.id)).Nodup := (split.map _).nodup_iff.2 unique
  rw [List.map_append, List.nodup_append] at distinct
  have filtered : ((first ++ second).filter fun row => row.id ∉ first.map (·.id)) = second := by
    rw [List.filter_append, List.filter_eq_nil_iff.2, List.filter_eq_self.2, List.nil_append]
    · intro row member
      rw [decide_eq_true_eq]
      exact fun early => distinct.2.2 _ early _ (List.mem_map_of_mem member) rfl
    · intro row member
      rw [decide_eq_true_eq, not_not]
      exact List.mem_map_of_mem member
  have kept := split.symm.filter fun row => decide (row.id ∉ first.map (·.id))
  rwa [filtered] at kept

/-- What `std::filesystem::remove` answers. -/
inductive Removal where
  | removed
  | missing
  | failed
  deriving DecidableEq, Repr

def removeFile (location : Location) : Script (Store D) Removal := do
  if ← Script.ask then
    let s ← Script.current
    if (s.files location).isSome then do
      Script.put (s.erase location)
      pure .removed
    else pure .missing
  else pure .failed

/-- `cv::imwrite`, which may throw or answer false with part of the file written. -/
def imwrite (location : Location) (frame : Frame) : Script (Store D) Bool := do
  let s ← Script.current
  if ← Script.ask then do
    Script.put (s.write location (.whole frame))
    pure true
  else if ← Script.ask then do
    Script.put (s.write location .torn)
    pure false
  else pure false

/-- The civil date of a day number, as `gmtime_r` computes it: year, month, day. -/
def civil (day : Int) : Int × Int × Int :=
  let z := day + 719468
  let era := z.fdiv 146097
  let dayOfEra := z - era * 146097
  let yearOfEra := (dayOfEra - dayOfEra / 1460 + dayOfEra / 36524 - dayOfEra / 146096) / 365
  let dayOfYear := dayOfEra - (365 * yearOfEra + yearOfEra / 4 - yearOfEra / 100)
  let m := (5 * dayOfYear + 2) / 153
  let month := if m < 10 then m + 3 else m - 9
  (yearOfEra + era * 400 + if month ≤ 2 then 1 else 0, month, dayOfYear - (153 * m + 2) / 5 + 1)

def padded (width : Nat) (n : Int) : List Char :=
  let digits := decimal n
  List.replicate (width - digits.length) '0' ++ digits

/-- `strftime("%Y-%m-%d")` of `timestamp_ms / 1000`. -/
def utcDate (timestampMs : Int) : List Char :=
  let (year, month, day) := civil ((timestampMs.tdiv 1000).fdiv 86400)
  decimal year ++ '-' :: padded 2 month ++ '-' :: padded 2 day

/-- `directory / date`, under the configured directory. -/
def dated (snapshotDirectory : List Char) (timestampMs : Int) : List Char :=
  join snapshotDirectory (utcDate timestampMs)

def jpg (id : List Char) : List Char := id ++ ['.', 'j', 'p', 'g']

def tmpJpg (id : List Char) : List Char := id ++ ['.', 't', 'm', 'p', '.', 'j', 'p', 'g']

def finalPath (snapshotDirectory : List Char) (timestampMs : Int) (id : List Char) : List Char :=
  join (dated snapshotDirectory timestampMs) (jpg id)

def temporaryPath (snapshotDirectory : List Char) (timestampMs : Int) (id : List Char) : List Char :=
  join (dated snapshotDirectory timestampMs) (tmpJpg id)

/-- The frame and the directory `persist` rejects before it touches anything. -/
def unusable (snapshotDirectory : List Char) (frame : Frame) : Prop :=
  snapshotDirectory = [] ∨ frame.width ≤ 0 ∨ frame.height ≤ 0 ∨ frame.stride < frame.width * 3 ∨
    (frame.bgr.length : Int) < frame.stride * frame.height

instance (snapshotDirectory : List Char) (frame : Frame) : Decidable (unusable snapshotDirectory frame) :=
  inferInstanceAs (Decidable (_ ∨ _ ∨ _ ∨ _ ∨ _))

section Scripts

variable (cwd snapshotDirectory : List Char)

/-- `persist`, with the alert as it is stored. -/
def persist (frame : Frame) (alert : AlertEvent D) : Script (Store D) (Option (AlertEvent D)) :=
  let final := finalPath snapshotDirectory alert.timestampMs alert.id
  let temporary := temporaryPath snapshotDirectory alert.timestampMs alert.id
  if unusable snapshotDirectory frame then pure none
  else do
    -- create_directories
    if ← Script.ask then do
      if ← imwrite (locate cwd temporary) frame then do
        -- sync_path(temporary_path)
        if ← Script.ask then do
          if ← Script.attempt (Store.rename (locate cwd temporary) (locate cwd final)) then do
            -- sync_path(directory)
            if ← Script.ask then do
              let alert := { alert with snapshotPath := final }
              if ← Script.attempt (Store.insert alert) then pure (some alert)
              else do
                let _ ← removeFile (locate cwd final)
                pure none
            else pure none
          else do
            let _ ← removeFile (locate cwd temporary)
            pure none
        else pure none
      else do
        let _ ← removeFile (locate cwd temporary)
        pure none
    else pure none

def deleting : List Char := ['.', 'd', 'e', 'l', 'e', 't', 'i', 'n', 'g']

/-- The path lies below the configured directory, part by part. -/
def inside (path : List Char) : Bool := (normal cwd snapshotDirectory).isPrefixOf (normal cwd path)

/-- The loop of `cleanup_oldest`. -/
def cleanupEach : List (AlertEvent D) → Script (Store D) Bool
  | [] => pure true
  | alert :: rest =>
    let path := locate cwd alert.snapshotPath
    let tombstone := tag deleting path
    if inside cwd snapshotDirectory alert.snapshotPath then do
      if ← Script.attempt (Store.rename path tombstone) then do
        -- sync_path(path.parent_path())
        if ← Script.ask then do
          if ← Script.attempt (Store.remove alert.id) then do
            match ← removeFile tombstone with
            | .removed => do
              -- sync_path(path.parent_path())
              if ← Script.ask then cleanupEach rest else pure false
            | _ => pure false
          else do
            let _ ← Script.attempt (Store.rename tombstone path)
            pure false
        else pure false
      else pure false
    else pure false

/-- `absolute` throws on an empty directory, before anything is changed. -/
def cleanupOldest (keep : Nat) : Script (Store D) Bool := do
  -- find_oldest_excess
  if ← Script.ask then do
    let s ← Script.current
    if snapshotDirectory = [] then pure false
    else cleanupEach cwd snapshotDirectory (Store.oldestExcess keep s.rows)
  else pure false

end Scripts

/-- What `reconcile_deletions` does with one entry that is a tombstone: its row decides. -/
def settle (entry : Location) : Script (Store D) Bool := do
  let name := entry.getLastD []
  let final := entry.dropLast ++ [stem name]
  -- find_by_id
  if ← Script.ask then do
    let s ← Script.current
    if s.hasRow (stem (stem name)) then Script.attempt (Store.rename entry final)
    else do
      match ← removeFile entry with
      | .failed => pure false
      | _ => pure true
  else pure false

/-- The loop of `reconcile_deletions`. An iterator that throws ends it like an error. -/
def reconcileEach : List Location → Script (Store D) Bool
  | [] => pure true
  | entry :: rest => do
    -- is_regular_file
    if ← Script.ask then do
      let s ← Script.current
      if (s.files entry).isSome && extension (entry.getLastD []) = deleting then do
        if ← settle entry then do
          -- sync_path(path.parent_path())
          if ← Script.ask then reconcileEach rest else pure false
        else pure false
      else reconcileEach rest
    else pure false

def reconcileDeletions (listing : Option (List Location)) : Script (Store D) Bool := do
  -- exists
  if ← Script.ask then
    match listing with
    | none => pure true
    | some entries => do
      if ← Script.ask then reconcileEach entries else pure false
  else pure false

end SkaiEdge.Storage
