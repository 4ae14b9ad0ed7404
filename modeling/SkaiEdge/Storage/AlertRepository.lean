import Mathlib
import SkaiEdge.Lib.Runs
import SkaiEdge.Lib.Script
import SkaiEdge.Lib.Text
import SkaiEdge.Storage.AlertStore

/-!
# The alert repository (`src/storage/alert_repository.cpp`, `src/storage/database.cpp`)

The two tables of `migration_v1` with their constraints, and the repository's statements on
them. A statement takes effect as a whole or not at all: it fails where it breaks a constraint
and where the environment says so, and SQLite may then have rolled the open transaction back by
itself. `BEGIN` keeps the tables that `ROLLBACK` gives back. A query fails at any of its steps.

Texts are bound through `c_str()`. A double that is not a number is bound as `NULL`; since a
`REAL` column does not keep the sign of a zero, the two zeros are one element of `D`.
-/

namespace SkaiEdge.Storage

open SkaiEdge.Lib SkaiEdge.Alerts

structure Doubles (D : Type) where
  isNan : D → Bool
  zero : D

structure AlertRow (D : Type) where
  id : List Char
  timestampMs : Int
  latitude : Option D
  longitude : Option D
  altitudeM : Option D
  gpsValid : Int
  gpsSource : String
  snapshotPath : List Char
  frameSequence : Int64
  modelVersion : Option String
  deriving DecidableEq

structure DetectionRow (D : Type) where
  id : Nat
  alertId : List Char
  classId : Int
  className : String
  confidence : D
  x1 : D
  y1 : D
  x2 : D
  y2 : D
  deriving DecidableEq

/-- The tables, with the largest id that `AUTOINCREMENT` has given to a detection. -/
structure Tables (D : Type) where
  alerts : List (AlertRow D) := []
  detections : List (DetectionRow D) := []
  sequence : Nat := 0
  deriving DecidableEq

/-- A connection; `saved` are the tables at `BEGIN` while a transaction is open. -/
structure Database (D : Type) where
  isOpen : Bool := true
  tables : Tables D := {}
  saved : Option (Tables D) := none
  deriving DecidableEq

/-- The text in `error`: one of the repository's own, or SQLite's. -/
inductive Fault where
  | message (text : String)
  | sqlite
  deriving DecidableEq, Repr

variable {D : Type}

/-! ## Values -/

/-- `sqlite3_bind_text` with `c_str()`. -/
def boundText (s : String) : String := String.ofList (Text.cString s.toList)

/-- `sqlite3_bind_double`. -/
def Doubles.bound (doubles : Doubles D) (d : D) : Option D := if doubles.isNan d then none else some d

/-- `sqlite3_column_double`. -/
def Doubles.column (doubles : Doubles D) (d : Option D) : D := d.getD doubles.zero

def boundedLimit (limit : Nat) : Nat := if limit > 2 ^ 31 - 1 then 2 ^ 31 - 1 else limit

/-- What `insert` binds to the columns of `alerts`. -/
def boundRow (doubles : Doubles D) (alert : AlertEvent D) : AlertRow D :=
  let gps := alert.gps.filter (·.valid)
  { id := Text.cString alert.id
    timestampMs := alert.timestampMs
    latitude := gps.bind fun fix => doubles.bound fix.latitude
    longitude := gps.bind fun fix => doubles.bound fix.longitude
    altitudeM := gps.bind fun fix => doubles.bound fix.altitudeM
    gpsValid := if gps.isSome then 1 else 0
    gpsSource := boundText (gps.elim "none" (·.source))
    snapshotPath := Text.cString alert.snapshotPath
    frameSequence := alert.frameSequence.toInt64
    modelVersion := alert.modelVersion.map boundText }

/-- `read_alert`. -/
def readAlert (doubles : Doubles D) (row : AlertRow D) : AlertEvent D :=
  { id := row.id
    timestampMs := row.timestampMs
    gps :=
      if row.gpsValid ≠ 0 then
        some ⟨true, row.gpsSource, doubles.column row.latitude, doubles.column row.longitude,
          doubles.column row.altitudeM⟩
      else none
    snapshotPath := row.snapshotPath
    frameSequence := row.frameSequence.toUInt64
    modelVersion := row.modelVersion }

def DetectionRow.detection (row : DetectionRow D) : AlertDetection D :=
  ⟨row.classId, row.className, row.confidence, row.x1, row.y1, row.x2, row.y2⟩

/-! ## Statements -/

namespace Tables

def hasAlert (id : List Char) (t : Tables D) : Bool := t.alerts.any fun row => row.id = id

/-- `INSERT INTO alerts`. -/
def insertAlert (row : AlertRow D) (t : Tables D) : Option (Tables D) :=
  if t.hasAlert row.id then none else some { t with alerts := t.alerts ++ [row] }

/-- `INSERT INTO detections`: no `NULL`, a class name that is not empty, an alert it belongs to,
and a row id that is not used up. -/
def insertDetection (doubles : Doubles D) (alertId : List Char) (detection : AlertDetection D)
    (t : Tables D) : Option (Tables D) := do
  let confidence ← doubles.bound detection.confidence
  let x1 ← doubles.bound detection.x1
  let y1 ← doubles.bound detection.y1
  let x2 ← doubles.bound detection.x2
  let y2 ← doubles.bound detection.y2
  let className := boundText detection.className
  if className = "" ∨ t.hasAlert (Text.cString alertId) = false ∨ t.sequence ≥ 2 ^ 63 - 1 then none
  else
    some { t with
      detections := t.detections ++ [⟨t.sequence + 1, Text.cString alertId, detection.classId,
        className, confidence, x1, y1, x2, y2⟩]
      sequence := t.sequence + 1 }

/-- `DELETE FROM alerts WHERE id = ?`, with `ON DELETE CASCADE`. -/
def deleteAlert (id : List Char) (t : Tables D) : Tables D :=
  { t with
    alerts := t.alerts.filter fun row => row.id ≠ id
    detections := t.detections.filter fun row => row.alertId ≠ id }

end Tables

/-- `ORDER BY timestamp_ms DESC, id DESC`. -/
def AlertRow.newer (a b : AlertRow D) : Prop :=
  b.timestampMs < a.timestampMs ∨ b.timestampMs = a.timestampMs ∧ b.id ≤ a.id

instance : DecidableRel (AlertRow.newer (D := D)) := fun _ _ => inferInstanceAs (Decidable (_ ∨ _ ∧ _))

namespace Database

/-- `BEGIN IMMEDIATE`. -/
def begin (s : Database D) : Option (Database D) :=
  if s.saved.isSome then none else some { s with saved := some s.tables }

/-- `COMMIT`. -/
def commit (s : Database D) : Option (Database D) :=
  if s.saved.isSome then some { s with saved := none } else none

/-- `ROLLBACK`, which does nothing but answer an error when no transaction is open. -/
def rolledBack (s : Database D) : Database D :=
  match s.saved with
  | some tables => { s with tables, saved := none }
  | none => s

def onTables (op : Tables D → Option (Tables D)) (s : Database D) : Option (Database D) :=
  (op s.tables).map fun tables => { s with tables }

end Database

/-- `sqlite3_step` or `sqlite3_exec` of a statement; where it fails, SQLite may have rolled the
transaction back. -/
def statement (op : Database D → Option (Database D)) : Script (Database D) Bool := do
  if ← Script.attempt op then pure true
  else if ← Script.ask then pure false
  else do
    Script.put (← Script.current).rolledBack
    pure false

namespace AlertRepository

def notOpen : Fault := .message "database is not open"

section Calls

variable (doubles : Doubles D)

/-- The lambda `fail` of `insert`. -/
def fail : Script (Database D) (Except Fault Bool) := do
  Script.put (← Script.current).rolledBack
  pure (.error .sqlite)

def insertDetections (alertId : List Char) : List (AlertDetection D) → Script (Database D) Bool
  | [] => pure true
  | detection :: rest => do
    if ← statement (Database.onTables (Tables.insertDetection doubles alertId detection)) then
      insertDetections alertId rest
    else pure false

/-- The statements of `insert`. -/
def insertRows (alert : AlertEvent D) : Script (Database D) (Except Fault Bool) := do
  if ← Script.attempt Database.begin then
    -- sqlite3_prepare_v2
    if ← Script.ask then
      if ← statement (Database.onTables (Tables.insertAlert (boundRow doubles alert))) then
        -- sqlite3_prepare_v2
        if ← Script.ask then
          if ← insertDetections doubles alert.id alert.detections then
            if ← statement Database.commit then pure (.ok true) else fail
          else fail
        else fail
      else fail
    else fail
  else pure (.error .sqlite)

def insert (alert : AlertEvent D) : Script (Database D) (Except Fault Bool) := do
  if (← Script.current).isOpen then
    if alert.id = [] ∨ alert.snapshotPath = [] ∨ alert.frameSequence.toNat > 2 ^ 63 - 1 then
      pure (.error (.message "alert id, snapshot path, and signed frame sequence are required"))
    else insertRows doubles alert
  else pure (.error notOpen)

def remove (id : List Char) : Script (Database D) (Except Fault Bool) := do
  if (← Script.current).isOpen then
    -- sqlite3_prepare_v2
    if ← Script.ask then
      let matched := (← Script.current).tables.alerts.filter fun row => row.id = Text.cString id
      if ← statement (Database.onTables fun t => some (t.deleteAlert (Text.cString id))) then
        pure (.ok (decide (matched.length = 1)))
      else pure (.error .sqlite)
    else pure (.error .sqlite)
  else pure (.error notOpen)

/-! ## Queries -/

/-- A query; it ends with the text in `error`. -/
abbrev Query (D : Type) := ExceptT Fault (Script (Database D))

/-- The tables, of an open database. -/
def opened : Query D (Tables D) := do
  let database ← (Script.current : Script (Database D) (Database D))
  if database.isOpen then pure database.tables else throw notOpen

/-- `sqlite3_prepare_v2`, then a `sqlite3_step` for each row and one that ends the query. -/
def select {α β : Type} (rows : List α) (read : α → β) : Query D (List β) := do
  Script.allowed .sqlite
  let found ← rows.mapM fun row => do
    Script.allowed .sqlite
    pure (read row)
  Script.allowed .sqlite
  pure found

def readDetections (alert : AlertEvent D) : Query D (AlertEvent D) := do
  let database ← (Script.current : Script (Database D) (Database D))
  let rows := database.tables.detections.filter fun row => row.alertId = Text.cString alert.id
  let found ← select (rows.insertionSort fun a b => a.id ≤ b.id) DetectionRow.detection
  pure { alert with detections := alert.detections ++ found }

def queryAlerts (rows : List (AlertRow D)) : Query D (List (AlertEvent D)) := do
  let alerts ← select rows (readAlert doubles)
  alerts.mapM readDetections

def findById (id : List Char) : Query D (Option (AlertEvent D)) := do
  let t ← opened
  -- sqlite3_prepare_v2 and one sqlite3_step
  Script.allowed .sqlite
  Script.allowed .sqlite
  match t.alerts.filter fun row => row.id = Text.cString id with
  | [] => pure none
  | row :: _ => some <$> readDetections (readAlert doubles row)

/-- `ORDER BY timestamp_ms DESC, id DESC LIMIT ?`. -/
def newest (limit : Nat) (rows : List (AlertRow D)) : List (AlertRow D) :=
  (rows.insertionSort AlertRow.newer).take (boundedLimit limit)

def findRecent (limit : Nat) : Query D (List (AlertEvent D)) := do
  let t ← opened
  queryAlerts doubles (newest limit t.alerts)

def findByTimeRange (fromMs toMs : Int) (limit : Nat) : Query D (List (AlertEvent D)) := do
  let t ← opened
  if fromMs > toMs then throw (.message "from must not exceed to")
  else
    queryAlerts doubles
      (newest limit (t.alerts.filter fun row => row.timestampMs ≥ fromMs ∧ row.timestampMs ≤ toMs))

def findByClass (className : String) (limit : Nat) : Query D (List (AlertEvent D)) := do
  let t ← opened
  queryAlerts doubles (newest limit (t.alerts.filter fun row =>
    t.detections.any fun d => d.alertId = row.id ∧ d.className = boundText className))

def findOldestExcess (keep : Nat) : Query D (List (AlertEvent D)) := do
  let t ← opened
  let kept := newest keep t.alerts
  queryAlerts doubles ((t.alerts.filter fun row => !kept.any fun k => k.id = row.id).insertionSort
    fun a b => b.newer a)

def count : Query D Nat := do
  let t ← opened
  Script.allowed .sqlite
  Script.allowed .sqlite
  pure t.alerts.length

end Calls

/-! ## What the columns keep -/

/-- The alert as the tables keep it: with a GPS fix only where it is valid. -/
def stored (alert : AlertEvent D) : AlertEvent D := { alert with gps := alert.gps.filter (·.valid) }

/-- No text has a NUL, and the numbers of the fix are numbers. (A detection with a number that is
none is refused by its `NOT NULL` columns.) -/
structure Plain (doubles : Doubles D) (alert : AlertEvent D) : Prop where
  id : '\x00' ∉ alert.id
  snapshotPath : '\x00' ∉ alert.snapshotPath
  modelVersion : ∀ version ∈ alert.modelVersion, '\x00' ∉ version.toList
  source : ∀ fix ∈ alert.gps, '\x00' ∉ fix.source.toList
  position : ∀ fix ∈ alert.gps, doubles.isNan fix.latitude = false ∧
    doubles.isNan fix.longitude = false ∧ doubles.isNan fix.altitudeM = false
  className : ∀ detection ∈ alert.detections, '\x00' ∉ detection.className.toList

variable {doubles : Doubles D} {alert : AlertEvent D}

theorem boundText_eq {s : String} (whole : '\x00' ∉ s.toList) : boundText s = s := by
  rw [boundText, Text.cString_eq whole, String.ofList_toList]

theorem column_bound {d : D} (number : doubles.isNan d = false) :
    doubles.column (doubles.bound d) = d := by
  simp [Doubles.column, Doubles.bound, number]

theorem boundRow_id (plain : Plain doubles alert) : (boundRow doubles alert).id = alert.id :=
  Text.cString_eq plain.id

/-- **Round trip** of the columns of `alerts`. -/
theorem readAlert_boundRow (plain : Plain doubles alert) :
    readAlert doubles (boundRow doubles alert) = { stored alert with detections := [] } := by
  have version : alert.modelVersion.map boundText = alert.modelVersion := by
    cases given : alert.modelVersion with
    | none => rfl
    | some text => rw [Option.map_some, boundText_eq (plain.modelVersion text given)]
  have fix : (readAlert doubles (boundRow doubles alert)).gps = alert.gps.filter (·.valid) := by
    cases kept : alert.gps.filter (·.valid) with
    | none => simp [readAlert, boundRow, kept]
    | some fix =>
      obtain ⟨given, valid⟩ := Option.filter_eq_some_iff.1 kept
      obtain ⟨latitude, longitude, altitude⟩ := plain.position fix given
      have source := boundText_eq (plain.source fix given)
      simp [readAlert, boundRow, kept, source, column_bound latitude, column_bound longitude,
        column_bound altitude, ← valid]
  rw [show readAlert doubles (boundRow doubles alert) =
    { readAlert doubles (boundRow doubles alert) with
      gps := (readAlert doubles (boundRow doubles alert)).gps } from rfl, fix]
  simp only [readAlert, boundRow, stored, Text.cString_eq plain.id,
    Text.cString_eq plain.snapshotPath, version, UInt64.toUInt64_toInt64]

/-! ## What the tables hold -/

/-- What `insert` does to the tables when no statement of it fails. -/
def insertion (doubles : Doubles D) (alert : AlertEvent D) (t : Tables D) : Option (Tables D) := do
  let added ← t.insertAlert (boundRow doubles alert)
  alert.detections.foldlM (fun t detection => t.insertDetection doubles alert.id detection) added

/-- The rows that belong to an alert, in the order in which `AUTOINCREMENT` numbered them. -/
structure Numbered (first last : Nat) (rows : List (DetectionRow D)) : Prop where
  ordered : rows.Pairwise fun a b => a.id < b.id
  within : ∀ row ∈ rows, first < row.id ∧ row.id ≤ last

theorem Numbered.append {first middle last : Nat} {rows more : List (DetectionRow D)}
    (old : Numbered first middle rows) (new : Numbered middle last more) (forward : first ≤ middle ∧ middle ≤ last) :
    Numbered first last (rows ++ more) := by
  refine ⟨List.pairwise_append.2 ⟨old.ordered, new.ordered, ?_⟩, ?_⟩
  · intro a early b late
    have := (old.within a early).2
    have := (new.within b late).1
    omega
  · intro row member
    rcases List.mem_append.1 member with early | late
    · have := old.within row early
      omega
    · have := new.within row late
      omega

theorem insertDetection_eq {id : List Char} {detection : AlertDetection D} {t u : Tables D}
    (added : t.insertDetection doubles id detection = some u) :
    ∃ row : DetectionRow D, u = { t with detections := t.detections ++ [row], sequence := t.sequence + 1 } ∧
      row.id = t.sequence + 1 ∧ row.alertId = Text.cString id ∧
      row.detection = { detection with className := boundText detection.className } := by
  simp only [Tables.insertDetection, Option.bind_eq_bind, Option.bind_eq_some_iff] at added
  obtain ⟨confidence, number, x1, number1, y1, number2, x2, number3, y2, number4, added⟩ := added
  split at added
  · cases added
  · have known : ∀ {d e : D}, doubles.bound d = some e → e = d := by
      intro d e bound
      rw [Doubles.bound] at bound
      split at bound
      · cases bound
      · exact (Option.some.inj bound).symm
    rw [known number, known number1, known number2, known number3, known number4] at added
    exact ⟨_, (Option.some.inj added).symm, rfl, rfl, rfl⟩

/-- The loop over the detections. -/
theorem insertDetections_eq {id : List Char} (detections : List (AlertDetection D)) {t u : Tables D}
    (added : detections.foldlM (fun t d => Tables.insertDetection doubles id d t) t = some u) :
    ∃ rows : List (DetectionRow D), u = { t with
        detections := t.detections ++ rows, sequence := t.sequence + detections.length } ∧
      Numbered t.sequence (t.sequence + detections.length) rows ∧
      (∀ row ∈ rows, row.alertId = Text.cString id) ∧ rows.map DetectionRow.detection =
        detections.map fun d => { d with className := boundText d.className } := by
  induction detections generalizing t with
  | nil =>
    cases added
    exact ⟨[], by simp, ⟨.nil, by simp⟩, by simp, rfl⟩
  | cons detection rest ih =>
    rw [List.foldlM_cons, Option.bind_eq_bind, Option.bind_eq_some_iff] at added
    obtain ⟨v, one, others⟩ := added
    obtain ⟨row, rfl, number, owner, read⟩ := insertDetection_eq one
    obtain ⟨rows, rfl, numbered, owners, reads⟩ := ih others
    have single : Numbered t.sequence (t.sequence + 1) [row] :=
      ⟨List.pairwise_singleton .., by simp [number]⟩
    have total : t.sequence + (detection :: rest).length = t.sequence + 1 + rest.length := by
      simp [Nat.add_assoc, Nat.add_comm]
    refine ⟨row :: rows, ?_, ?_, ?_, ?_⟩
    · rw [total]
      simp
    · rw [total]
      exact single.append numbered (by simp)
    · intro other member
      rcases List.mem_cons.1 member with rfl | late
      · exact owner
      · exact owners other late
    · rw [List.map_cons, List.map_cons, read, reads]

/-- What the statements of `insert` leave: a row for the alert and one for each detection. -/
theorem insertion_eq {t u : Tables D} (plain : Plain doubles alert)
    (added : insertion doubles alert t = some u) :
    t.hasAlert alert.id = false ∧ ∃ rows : List (DetectionRow D),
      u = ⟨t.alerts ++ [boundRow doubles alert], t.detections ++ rows,
        t.sequence + alert.detections.length⟩ ∧
      Numbered t.sequence (t.sequence + alert.detections.length) rows ∧
      (∀ row ∈ rows, row.alertId = alert.id) ∧ rows.map DetectionRow.detection = alert.detections := by
  rw [insertion, Option.bind_eq_bind, Option.bind_eq_some_iff] at added
  obtain ⟨v, one, others⟩ := added
  rw [Tables.insertAlert, boundRow_id plain] at one
  split at one
  · cases one
  rename_i unknown
  cases one
  obtain ⟨rows, rfl, numbered, owners, reads⟩ := insertDetections_eq _ others
  rw [Text.cString_eq plain.id] at owners
  have whole : (alert.detections.map fun d => { d with className := boundText d.className }) =
      alert.detections.map id := by
    refine List.map_congr_left fun d member => ?_
    rw [boundText_eq (plain.className d member), id]
  rw [whole, List.map_id] at reads
  exact ⟨by simpa using unknown, rows, rfl, numbered, owners, reads⟩

/-- The tables hold the alerts `live`, in this order, each with its detections, and nothing else. -/
structure Holds (doubles : Doubles D) (live : List (AlertEvent D)) (t : Tables D) : Prop where
  alerts : t.alerts = live.map (boundRow doubles)
  plain : ∀ alert ∈ live, Plain doubles alert
  distinct : (live.map (·.id)).Nodup
  detections : ∀ alert ∈ live, (t.detections.filter fun row => row.alertId = alert.id).map
    DetectionRow.detection = alert.detections
  owned : ∀ row ∈ t.detections, ∃ alert ∈ live, alert.id = row.alertId
  numbered : Numbered 0 t.sequence t.detections

theorem holds_empty : Holds doubles [] ({} : Tables D) :=
  ⟨rfl, by simp, by simp, by simp, by simp, .nil, by simp⟩

theorem Holds.hasAlert_iff {live : List (AlertEvent D)} {t : Tables D} (holds : Holds doubles live t)
    (id : List Char) : t.hasAlert id = true ↔ ∃ alert ∈ live, alert.id = id := by
  rw [Tables.hasAlert, holds.alerts, List.any_map, List.any_eq_true]
  constructor
  · rintro ⟨alert, member, same⟩
    exact ⟨alert, member, by simpa [boundRow_id (holds.plain alert member)] using same⟩
  · rintro ⟨alert, member, same⟩
    exact ⟨alert, member, by simpa [boundRow_id (holds.plain alert member)] using same⟩

/-- The one row of an alert. -/
theorem Holds.matching {live : List (AlertEvent D)} {t : Tables D} (holds : Holds doubles live t)
    (member : alert ∈ live) : (t.alerts.filter fun row => row.id = alert.id) = [boundRow doubles alert] := by
  have rows : (t.alerts.filter fun row => row.id = alert.id) =
      (live.filter fun a => a.id = alert.id).map (boundRow doubles) := by
    rw [holds.alerts, List.filter_map]
    congr 1
    refine List.filter_congr fun a known => ?_
    simp [boundRow_id (holds.plain a known)]
  have single : (live.filter fun a => a.id = alert.id).length = 1 := by
    have once := List.count_eq_one_of_mem holds.distinct (List.mem_map_of_mem member)
    rw [List.count_eq_countP, List.countP_map, List.countP_eq_length_filter] at once
    simpa [Function.comp_def, beq_eq_decide] using once
  obtain ⟨a, only⟩ := List.length_eq_one_iff.1 single
  have mine : alert ∈ live.filter fun a => a.id = alert.id := List.mem_filter.2 ⟨member, by simp⟩
  rw [only, List.mem_singleton] at mine
  rw [rows, only, mine, List.map_singleton]

/-- **Insertion** adds the alert to those held. -/
theorem Holds.insertion {live : List (AlertEvent D)} {t u : Tables D} (holds : Holds doubles live t)
    (plain : Plain doubles alert) (added : insertion doubles alert t = some u) :
    Holds doubles (live ++ [alert]) u := by
  obtain ⟨fresh, rows, rfl, numbered, owners, reads⟩ := insertion_eq plain added
  have unknown : ¬∃ earlier ∈ live, earlier.id = alert.id := by
    rw [← holds.hasAlert_iff, fresh]
    exact Bool.false_ne_true
  refine ⟨?_, ?_, ?_, ?_, ?_, ?_⟩
  · simp [holds.alerts]
  · intro other member
    rcases List.mem_append.1 member with old | new
    · exact holds.plain other old
    · rw [List.mem_singleton.1 new]
      exact plain
  · rw [List.map_append, List.nodup_append]
    refine ⟨holds.distinct, by simp, ?_⟩
    rintro id old other new rfl
    obtain ⟨earlier, member, rfl⟩ := List.mem_map.1 old
    exact unknown ⟨earlier, member, by simpa using new⟩
  · intro other member
    rw [List.filter_append, List.map_append]
    rcases List.mem_append.1 member with old | new
    · have none : (rows.filter fun row => row.alertId = other.id) = [] := by
        rw [List.filter_eq_nil_iff]
        intro row mine same
        rw [owners row mine, decide_eq_true_eq] at same
        exact unknown ⟨other, old, same.symm⟩
      rw [none, List.map_nil, List.append_nil]
      exact holds.detections other old
    · rw [List.mem_singleton.1 new]
      have none : (t.detections.filter fun row => row.alertId = alert.id) = [] := by
        rw [List.filter_eq_nil_iff]
        intro row earlier same
        obtain ⟨owner, known, id⟩ := holds.owned row earlier
        exact unknown ⟨owner, known, id.trans (of_decide_eq_true same)⟩
      have all : (rows.filter fun row => row.alertId = alert.id) = rows := by
        rw [List.filter_eq_self]
        exact fun row mine => decide_eq_true (owners row mine)
      rw [none, all, List.map_nil, List.nil_append, reads]
  · intro row member
    rcases List.mem_append.1 member with old | new
    · obtain ⟨owner, known, id⟩ := holds.owned row old
      exact ⟨owner, List.mem_append_left _ known, id⟩
    · exact ⟨alert, by simp, (owners row new).symm⟩
  · exact holds.numbered.append numbered (by simp)

/-- **Removal**, with the detections of the alert. -/
theorem Holds.deleteAlert {live : List (AlertEvent D)} {t : Tables D} (holds : Holds doubles live t)
    (id : List Char) : Holds doubles (live.filter fun alert => alert.id ≠ id) (t.deleteAlert id) := by
  refine ⟨?_, ?_, ?_, ?_, ?_, ?_, ?_⟩
  · simp only [Tables.deleteAlert, holds.alerts, List.filter_map]
    congr 1
    refine List.filter_congr fun alert member => ?_
    simp [boundRow_id (holds.plain alert member)]
  · exact fun alert member => holds.plain alert (List.mem_of_mem_filter member)
  · exact holds.distinct.sublist (List.filter_sublist.map _)
  · intro alert member
    obtain ⟨known, other⟩ := List.mem_filter.1 member
    rw [Tables.deleteAlert, List.filter_filter, ← holds.detections alert known]
    congr 1
    refine List.filter_congr fun row _ => ?_
    by_cases same : row.alertId = alert.id
    · simpa [same] using other
    · simp [same]
  · intro row member
    obtain ⟨kept, other⟩ := List.mem_filter.1 member
    obtain ⟨owner, known, mine⟩ := holds.owned row kept
    refine ⟨owner, List.mem_filter.2 ⟨known, ?_⟩, mine⟩
    rw [mine]
    exact other
  · exact holds.numbered.ordered.sublist List.filter_sublist
  · exact fun row member => holds.numbered.within row (List.mem_of_mem_filter member)

/-! ## What a call does -/

/-- The database `s` with a transaction open that has come to the tables `u`. -/
def inTransaction (s : Database D) (u : Tables D) : Database D :=
  { s with tables := u, saved := some s.tables }

theorem rolledBack_of_closed {s : Database D} (closed : s.saved = none) : s.rolledBack = s := by
  rw [Database.rolledBack, closed]

theorem rolledBack_rolledBack (s : Database D) : s.rolledBack.rolledBack = s.rolledBack := by
  apply rolledBack_of_closed
  unfold Database.rolledBack
  split
  · rfl
  · assumption

theorem rolledBack_inTransaction {s : Database D} (closed : s.saved = none) (u : Tables D) :
    (inTransaction s u).rolledBack = s := by
  cases s
  cases closed
  rfl

section Steps

variable {α : Type} {I P R : Database D → Prop} {p q : Script (Database D) α}
  {Q : α → Database D → Prop} {s : Database D}

/-- A statement: where it fails it leaves what a rollback does not change either. -/
theorem statement_triple {op : Database D → Option (Database D)} {F : Database D → Prop}
    (done : ∀ t u, P t → op t = some u → R u) (failed : ∀ t, P t → F t ∧ F t.rolledBack)
    (yes : Script.Triple (fun _ => True) R p Q) (no : Script.Triple (fun _ => True) F q Q) :
    Script.Triple (fun _ => True) P (do if ← statement op then p else q) Q := by
  have step : Script.Triple (fun _ => True) P (statement op) (fun ok t => if ok then R t else F t) := by
    refine Script.Triple.attempted (R := R) ?_ ?_ ?_
    · exact fun t u _ pre moved => ⟨trivial, done t u pre moved⟩
    · exact .ret true fun _ _ holds => holds
    · refine Script.Triple.asked (.ret false fun t _ pre => by simpa using (failed t pre).1) ?_
      refine .reading fun t _ pre => ?_
      refine (Script.Triple.put (Q := fun _ => F) (fun _ _ _ => trivial) ?_).bind
        fun _ => .ret false fun _ _ undone => by simpa using undone
      exact fun _ _ _ => (failed t pre).2
  refine step.bind fun ok => ?_
  cases ok with
  | true => exact yes
  | false => exact no

/-- A statement of a transaction on `s`: where it fails, a rollback still leads to `s`. -/
theorem transaction_triple {op : Database D → Option (Database D)}
    (done : ∀ t u, P t → op t = some u → R u) (undo : ∀ t, P t → t.rolledBack = s)
    (yes : Script.Triple (fun _ => True) R p Q)
    (no : Script.Triple (fun _ => True) (fun t => t.rolledBack = s) q Q) :
    Script.Triple (fun _ => True) P (do if ← statement op then p else q) Q :=
  statement_triple done (fun t pre => ⟨undo t pre, by rw [rolledBack_rolledBack, undo t pre]⟩) yes no

theorem fail_triple : Script.Triple (fun _ => True) (fun t => t.rolledBack = s) fail
    (fun answer t => answer = .error .sqlite ∧ t = s) := by
  refine .reading fun t _ undone => ?_
  refine (Script.Triple.put (Q := fun _ t => t = s) (fun _ _ _ => trivial) fun _ _ _ => undone).bind
    fun _ => .ret _ fun _ _ same => ⟨rfl, same⟩

/-- The loop over the detections, from the tables `t`. -/
theorem insertDetections_triple (closed : s.saved = none) (id : List Char)
    (detections : List (AlertDetection D)) (t : Tables D) :
    Script.Triple (fun _ => True) (fun v => v = inTransaction s t)
      (insertDetections doubles id detections) fun ok v =>
        if ok then ∃ u, detections.foldlM (fun t d => Tables.insertDetection doubles id d t) t = some u ∧
          v = inTransaction s u
        else v.rolledBack = s := by
  induction detections generalizing t with
  | nil => exact .ret true fun v _ here => ⟨t, rfl, here⟩
  | cons detection rest ih =>
    refine transaction_triple (s := s) (R := fun v => ∃ u,
      Tables.insertDetection doubles id detection t = some u ∧ v = inTransaction s u) ?_ ?_ ?_ ?_
    · rintro _ v rfl moved
      obtain ⟨u, one, rfl⟩ := Option.map_eq_some_iff.1 moved
      exact ⟨u, one, rfl⟩
    · rintro _ rfl
      exact rolledBack_inTransaction closed t
    · refine .fixed fun v _ reached => ?_
      obtain ⟨u, one, rfl⟩ := reached
      refine (ih u).conseq (fun _ _ here => here) ?_
      intro ok v _ ends
      rwa [List.foldlM_cons, one]
    · exact .ret false fun _ _ undone => by simpa using undone

/-- **`insert`** leaves the database as it was, with an error, or has done the whole insertion. -/
def Settled (doubles : Doubles D) (alert : AlertEvent D) (s : Database D)
    (answer : Except Fault Bool) (t : Database D) : Prop :=
  (∃ fault, answer = .error fault) ∧ t = s ∨
    answer = .ok true ∧ ∃ u, insertion doubles alert s.tables = some u ∧ t = { s with tables := u }

theorem fail_settled :
    Script.Triple (fun _ => True) (fun t => t.rolledBack = s) fail (Settled doubles alert s) :=
  fail_triple.conseq (fun _ _ undone => undone) fun _ _ _ ends => .inl ⟨⟨_, ends.1⟩, ends.2⟩

theorem insertRows_triple (closed : s.saved = none) :
    Script.Triple (fun _ => True) (fun t => t = s) (insertRows doubles alert)
      (Settled doubles alert s) := by
  have undone (u : Tables D) : Script.Triple (fun _ => True) (fun t => t = inTransaction s u) fail
      (Settled doubles alert s) := by
    refine fail_settled.conseq ?_ fun _ _ _ ends => ends
    rintro _ _ rfl
    exact rolledBack_inTransaction closed u
  refine Script.Triple.attempted (R := fun t => t = inTransaction s s.tables) ?_ ?_ ?_
  · rintro _ v _ rfl begun
    rw [Database.begin, closed] at begun
    exact ⟨trivial, (Option.some.inj begun).symm⟩
  · refine .asked ?_ (undone _)
    refine transaction_triple (s := s) (R := fun v => ∃ u,
      s.tables.insertAlert (boundRow doubles alert) = some u ∧ v = inTransaction s u) ?_ ?_ ?_ fail_settled
    · rintro _ v rfl moved
      obtain ⟨u, one, rfl⟩ := Option.map_eq_some_iff.1 moved
      exact ⟨u, one, rfl⟩
    · rintro _ rfl
      exact rolledBack_inTransaction closed _
    · refine .fixed fun v _ reached => ?_
      obtain ⟨u, one, rfl⟩ := reached
      refine .asked ?_ (undone u)
      refine (insertDetections_triple closed alert.id alert.detections u).bind fun ok => ?_
      cases ok with
      | false => exact fail_settled.conseq (fun _ _ undone => by simpa using undone) fun _ _ _ ends => ends
      | true =>
        refine .fixed fun v _ reached => ?_
        obtain ⟨last, others, rfl⟩ := reached
        have whole : insertion doubles alert s.tables = some last := by
          rw [insertion, one]
          exact others
        refine transaction_triple (s := s) (R := fun v => v = { s with tables := last }) ?_ ?_ ?_ fail_settled
        · rintro _ v rfl committed
          rw [← Option.some.inj committed, ← closed]
          rfl
        · rintro _ rfl
          exact rolledBack_inTransaction closed last
        · exact .ret _ fun v _ same => .inr ⟨rfl, last, whole, same⟩
  · exact .ret _ fun _ _ same => .inl ⟨⟨_, rfl⟩, same⟩

theorem insert_triple (doubles : Doubles D) (alert : AlertEvent D) (closed : s.saved = none) :
    Script.Triple (fun _ => True) (fun t => t = s) (insert doubles alert)
      (Settled doubles alert s) := by
  refine .reading fun t _ here => ?_
  subst here
  split
  · split
    · exact .ret _ fun _ _ same => .inl ⟨⟨_, rfl⟩, same⟩
    · exact insertRows_triple closed
  · exact .ret _ fun _ _ same => .inl ⟨⟨_, rfl⟩, same⟩

/-- A statement that the tables allow, in an environment that refuses nothing. -/
theorem statement_smooth {op : Database D → Option (Database D)}
    (done : ∀ t, P t → ∃ u, op t = some u ∧ R u) (yes : Script.Smooth R p Q) :
    Script.Smooth P (do if ← statement op then p else q) Q := by
  have step : Script.Smooth P (statement op) fun ok t => ok = true ∧ R t :=
    .attempted done (.ret true fun _ holds => ⟨rfl, holds⟩)
  refine step.bind fun ok => ?_
  cases ok with
  | true => exact yes.conseq (fun _ pre => pre.2) fun _ _ ends => ends
  | false => exact fun _ _ pre => absurd pre.1 Bool.false_ne_true

theorem insertDetections_smooth {id : List Char} {detections : List (AlertDetection D)}
    {t u : Tables D}
    (whole : detections.foldlM (fun t d => Tables.insertDetection doubles id d t) t = some u) :
    Script.Smooth (fun v => v = inTransaction s t) (insertDetections doubles id detections)
      fun ok v => ok = true ∧ v = inTransaction s u := by
  induction detections generalizing t with
  | nil =>
    cases whole
    exact .ret true fun v here => ⟨rfl, here⟩
  | cons detection rest ih =>
    obtain ⟨v, one, others⟩ := Option.bind_eq_some_iff.1 whole
    refine statement_smooth (R := fun w => w = inTransaction s v) ?_ (ih others)
    rintro _ rfl
    exact ⟨_, congrArg (Option.map _) one, rfl⟩

/-- **An insertion that the constraints allow succeeds** when nothing is refused. -/
theorem insert_smooth {u : Tables D} (isOpen : s.isOpen = true) (closed : s.saved = none)
    (complete : ¬(alert.id = [] ∨ alert.snapshotPath = [] ∨ alert.frameSequence.toNat > 2 ^ 63 - 1))
    (whole : insertion doubles alert s.tables = some u) :
    Script.Smooth (fun t => t = s) (insert doubles alert) fun answer t =>
      answer = .ok true ∧ t = { s with tables := u } := by
  obtain ⟨v, one, others⟩ := Option.bind_eq_some_iff.1 whole
  refine .reading fun t here => ?_
  subst here
  rw [if_pos isOpen, if_neg complete]
  refine Script.Smooth.attempted (R := fun w => w = inTransaction t t.tables) ?_ (.asked ?_)
  · rintro _ rfl
    rw [Database.begin, closed]
    exact ⟨_, rfl, rfl⟩
  refine statement_smooth (R := fun w => w = inTransaction t v) ?_ (.asked ?_)
  · rintro _ rfl
    exact ⟨_, congrArg (Option.map _) one, rfl⟩
  refine (insertDetections_smooth others).bind fun ok => .fixed fun w reached => ?_
  obtain ⟨rfl, rfl⟩ := reached
  refine statement_smooth (R := fun w => w = { t with tables := u }) ?_ (.ret _ fun _ same => ⟨rfl, same⟩)
  rintro _ rfl
  rw [closed]
  exact ⟨_, rfl, rfl⟩

/-- **`remove`** leaves the database as it was, with an error, or has deleted the alert. -/
theorem remove_triple (closed : s.saved = none) (id : List Char) :
    Script.Triple (fun _ => True) (fun t => t = s) (remove id) fun answer t =>
      (∃ fault, answer = .error fault) ∧ t = s ∨
        answer = .ok (decide ((s.tables.alerts.filter fun row => row.id = Text.cString id).length = 1)) ∧
          t = { s with tables := s.tables.deleteAlert (Text.cString id) } := by
  refine .reading fun t _ here => ?_
  subst here
  split
  · refine .asked (.reading fun v _ same => ?_) (.ret _ fun _ _ same => .inl ⟨⟨_, rfl⟩, same⟩)
    subst same
    refine statement_triple (F := fun u => u = v)
      (R := fun u => u = { v with tables := v.tables.deleteAlert (Text.cString id) }) ?_ ?_ ?_ ?_
    · rintro _ u rfl deleted
      exact (Option.some.inj deleted).symm
    · -- no transaction is open, so a rollback changes nothing
      rintro _ rfl
      exact ⟨rfl, rolledBack_of_closed closed⟩
    · exact .ret _ fun u _ same => .inr ⟨rfl, same⟩
    · exact .ret _ fun _ _ same => .inl ⟨⟨_, rfl⟩, same⟩
  · exact .ret _ fun _ _ same => .inl ⟨⟨_, rfl⟩, same⟩

end Steps

/-! ## Runs -/

inductive Call (D : Type) where
  | insert (alert : AlertEvent D)
  | remove (id : List Char)

/-- The strings of a call are free of NUL and its numbers are numbers. -/
def Call.Plain (doubles : Doubles D) : Call D → Prop
  | .insert alert => AlertRepository.Plain doubles alert
  | .remove id => '\x00' ∉ id

/-- The database, and the alerts inserted and not since removed, as the answers tell them. -/
structure History (D : Type) where
  database : Database D := {}
  live : List (AlertEvent D) := []

def told (live : List (AlertEvent D)) : Call D → Except Fault Bool → List (AlertEvent D)
  | .insert alert, .ok true => live ++ [alert]
  | .remove id, .ok true => live.filter fun alert => alert.id ≠ id
  | _, _ => live

def perform (doubles : Doubles D) : Call D → Script (Database D) (Except Fault Bool)
  | .insert alert => insert doubles alert
  | .remove id => remove id

/-- A call in an environment with the given answers. -/
def step (doubles : Doubles D) (h : History D) (move : Call D × List Bool) : Option (History D) :=
  let ended := (perform doubles move.1).exec move.2 h.database
  some ⟨ended.2.state, told h.live move.1 ended.1⟩

/-- **Invariant** of the runs. -/
structure Kept (doubles : Doubles D) (h : History D) : Prop where
  isOpen : h.database.isOpen = true
  closed : h.database.saved = none
  holds : Holds doubles h.live h.database.tables

theorem kept_step {h h' : History D} {move : Call D × List Bool} (kept : Kept doubles h)
    (plain : move.1.Plain doubles) (moved : step doubles h move = some h') : Kept doubles h' := by
  obtain ⟨call, answers⟩ := move
  obtain rfl := Option.some.inj moved
  cases call with
  | insert alert =>
    obtain ⟨-, settled, -⟩ := (insert_triple doubles alert kept.closed).exec answers trivial rfl
    rcases settled with ⟨⟨fault, failed⟩, same⟩ | ⟨done, u, added, now⟩
    · rw [perform, failed, same]
      exact kept
    · rw [perform, done, now]
      exact ⟨kept.isOpen, kept.closed, kept.holds.insertion plain added⟩
  | remove id =>
    obtain ⟨-, settled, -⟩ := (remove_triple kept.closed id).exec answers trivial rfl
    rcases settled with ⟨⟨fault, failed⟩, same⟩ | ⟨done, now⟩
    · rw [perform, failed, same]
      exact kept
    · rw [Text.cString_eq plain] at done now
      rw [perform, done, now]
      refine ⟨kept.isOpen, kept.closed, ?_⟩
      have deleted := kept.holds.deleteAlert id
      by_cases known : ∃ alert ∈ h.live, alert.id = id
      · obtain ⟨alert, member, rfl⟩ := known
        rw [kept.holds.matching member]
        exact deleted
      · have absent : (h.live.filter fun alert => alert.id ≠ id) = h.live := by
          rw [List.filter_eq_self]
          exact fun alert member => decide_eq_true fun same => known ⟨alert, member, same⟩
        rw [absent] at deleted
        rcases decide (_ = 1) with _ | _
        · exact deleted
        · rw [told, absent]
          exact deleted

theorem kept_of_run {h : History D}
    (run : Runs (step doubles) (fun _ move => move.1.Plain doubles) {} h) : Kept doubles h :=
  run.invariant ⟨rfl, rfl, holds_empty⟩ fun _ _ _ kept plain moved => kept_step kept plain moved

/-! ## What the queries answer -/

/-- `ORDER BY timestamp_ms DESC, id DESC LIMIT ?`, of alerts. -/
def newestAlerts (limit : Nat) (live : List (AlertEvent D)) : List (AlertEvent D) :=
  (live.insertionSort fun a b => Store.older b a).take (boundedLimit limit)

section Reading

variable {s : Database D} {live : List (AlertEvent D)}

theorem reads_opened (isOpen : s.isOpen = true) : Script.Reads opened s s.tables := by
  refine .bind .current ?_
  rw [if_pos isOpen]
  exact .ret s.tables

theorem reads_select {α β : Type} (rows : List α) (read : α → β) :
    Script.Reads (select (D := D) rows read) s (rows.map read) :=
  .bind (.allowed _) (.bind (.mapM rows fun row _ => .bind (.allowed _) (.ret (read row)))
    (.bind (.allowed _) (.ret _)))

/-- **Round trip** of an alert held, with its detections in the order of their insertion. -/
theorem reads_readDetections (holds : Holds doubles live s.tables)
    (member : alert ∈ live) :
    Script.Reads (readDetections (readAlert doubles (boundRow doubles alert))) s (stored alert) := by
  have plain := holds.plain alert member
  have ordered : ((s.tables.detections.filter fun row => row.alertId = alert.id).insertionSort
      fun a b => a.id ≤ b.id) = s.tables.detections.filter fun row => row.alertId = alert.id := by
    refine List.Pairwise.insertionSort_eq ?_
    refine (holds.numbered.ordered.sublist List.filter_sublist).imp ?_
    exact fun less => le_of_lt less
  rw [readAlert_boundRow plain]
  refine .bind .current (.bind (reads_select _ _) ?_)
  have all : stored alert = { stored alert with
      detections := [] ++ alert.detections } := rfl
  rw [show (stored alert).id = alert.id from rfl, Text.cString_eq plain.id, ordered,
    holds.detections alert member, all]
  exact .ret _

/-- Rows of alerts held are read back as these. -/
theorem reads_queryAlerts (holds : Holds doubles live s.tables)
    {chosen : List (AlertEvent D)} (among : ∀ alert ∈ chosen, alert ∈ live) :
    Script.Reads (queryAlerts doubles (chosen.map (boundRow doubles))) s (chosen.map stored) := by
  refine .bind (reads_select _ _) ?_
  rw [List.map_map, List.mapM_map]
  exact .mapM chosen fun alert member => reads_readDetections holds (among alert member)

/-- **`find_by_id`** of an alert held. -/
theorem reads_findById (isOpen : s.isOpen = true) (holds : Holds doubles live s.tables)
    (member : alert ∈ live) :
    Script.Reads (findById doubles alert.id) s (some (stored alert)) := by
  refine .bind (reads_opened isOpen) (.bind (.allowed _) (.bind (.allowed _) ?_))
  rw [Text.cString_eq (holds.plain alert member).id, holds.matching member]
  exact (reads_readDetections holds member).map some

theorem newer_boundRow {a b : AlertEvent D} (first : Plain doubles a) (second : Plain doubles b) :
    (boundRow doubles a).newer (boundRow doubles b) ↔ Store.older b a := by
  rw [AlertRow.newer, boundRow_id first, boundRow_id second]
  rfl

/-- Sorting and limiting the rows of alerts is sorting and limiting the alerts. -/
theorem newest_boundRow (limit : Nat) {chosen : List (AlertEvent D)}
    (plain : ∀ alert ∈ chosen, Plain doubles alert) :
    newest limit (chosen.map (boundRow doubles)) =
      (newestAlerts limit chosen).map (boundRow doubles) := by
  rw [newest, newestAlerts, List.map_take]
  congr 1
  refine (List.map_insertionSort _ _ (boundRow doubles) chosen ?_).symm
  exact fun a first b second => (newer_boundRow (plain a first) (plain b second)).symm

theorem mem_of_newest {limit : Nat} {chosen : List (AlertEvent D)}
    (member : alert ∈ newestAlerts limit chosen) : alert ∈ chosen :=
  (List.mem_insertionSort _).1 (List.mem_of_mem_take member)

/-- **`find_recent`** and the other limited queries: the newest of the alerts chosen. -/
theorem reads_newest (holds : Holds doubles live s.tables) (limit : Nat)
    {rows : List (AlertRow D)} {chosen : List (AlertEvent D)} (among : ∀ alert ∈ chosen, alert ∈ live)
    (encoded : rows = chosen.map (boundRow doubles)) :
    Script.Reads (queryAlerts doubles (newest limit rows)) s
      ((newestAlerts limit chosen).map stored) := by
  rw [encoded, newest_boundRow limit fun alert member => holds.plain alert (among alert member)]
  exact reads_queryAlerts holds fun alert member => among alert (mem_of_newest member)

theorem reads_findRecent (isOpen : s.isOpen = true) (holds : Holds doubles live s.tables)
    (limit : Nat) :
    Script.Reads (findRecent doubles limit) s ((newestAlerts limit live).map stored) :=
  .bind (reads_opened isOpen) (reads_newest holds limit (fun _ member => member) holds.alerts)

theorem boundedLimit_eq (limit : Nat) : boundedLimit limit = min limit (2 ^ 31 - 1) := by
  unfold boundedLimit
  split <;> omega

/-- The newest first are the oldest first, backwards. -/
theorem newest_eq (unique : (live.map (·.id)).Nodup) (limit : Nat) :
    newestAlerts limit live = ((live.insertionSort Store.older).drop
      (live.length - min limit (2 ^ 31 - 1))).reverse := by
  have : Std.Total fun a b : AlertEvent D => Store.older b a := ⟨fun a b => older_total b a⟩
  have : IsTrans (AlertEvent D) fun a b => Store.older b a := ⟨fun _ _ _ ab bc => older_trans bc ab⟩
  have down := List.perm_insertionSort (fun a b => Store.older b a) live
  have up := List.perm_insertionSort Store.older live
  have backwards : (live.insertionSort fun a b => Store.older b a) =
      (live.insertionSort Store.older).reverse := by
    refine (down.trans (up.symm.trans (List.reverse_perm _).symm)).eq_of_pairwise ?_
      (List.pairwise_insertionSort _ _) (List.pairwise_reverse.2 (List.pairwise_insertionSort _ _))
    intro a b first second ab ba
    exact List.inj_on_of_nodup_map unique (down.mem_iff.1 first)
      (up.mem_iff.1 (List.mem_reverse.1 second)) (older_antisymm ba ab)
  rw [newestAlerts, backwards, List.take_reverse, List.length_insertionSort, boundedLimit_eq]

/-- **Complement**: the newest and the oldest that exceed the limit are all the alerts. -/
theorem newest_split (unique : (live.map (·.id)).Nodup) (limit : Nat) :
    (newestAlerts limit live ++ Store.oldestExcess limit live).Perm live := by
  rw [newest_eq unique, Store.oldestExcess]
  refine (((List.reverse_perm _).append_right _).trans List.perm_append_comm).trans ?_
  rw [List.take_append_drop]
  exact List.perm_insertionSort Store.older live

/-- Every one of the newest is newer than each of the others. -/
theorem older_of_split (unique : (live.map (·.id)).Nodup) (limit : Nat) {a b : AlertEvent D}
    (new : a ∈ newestAlerts limit live) (old : b ∈ Store.oldestExcess limit live) :
    Store.older b a ∧ b.id ≠ a.id := by
  have distinct : ((newestAlerts limit live ++ Store.oldestExcess limit live).map (·.id)).Nodup :=
    ((newest_split unique limit).map _).nodup_iff.2 unique
  rw [List.map_append, List.nodup_append] at distinct
  refine ⟨?_, (distinct.2.2 _ (List.mem_map_of_mem new) _ (List.mem_map_of_mem old)).symm⟩
  rw [newest_eq unique, List.mem_reverse] at new
  have sorted := List.pairwise_insertionSort Store.older live
  rw [← List.take_append_drop (live.length - min limit (2 ^ 31 - 1)) (live.insertionSort _),
    List.pairwise_append] at sorted
  exact sorted.2.2 b old a new

/-- **`find_oldest_excess`** answers what the store of the alert manager calls the excess. -/
theorem reads_findOldestExcess (isOpen : s.isOpen = true) (holds : Holds doubles live s.tables)
    (keep : Nat) :
    Script.Reads (findOldestExcess doubles keep) s ((Store.oldestExcess keep live).map stored) := by
  have unique := holds.distinct
  let rest := live.filter fun alert => alert.id ∉ (newestAlerts keep live).map (·.id)
  have plain : ∀ alert ∈ rest, Plain doubles alert := fun alert member =>
    holds.plain alert (List.mem_of_mem_filter member)
  have rows : (s.tables.alerts.filter fun row =>
      !(newest keep s.tables.alerts).any fun k => k.id = row.id) = rest.map (boundRow doubles) := by
    rw [holds.alerts, newest_boundRow keep holds.plain, List.filter_map]
    congr 1
    refine List.filter_congr fun alert member => ?_
    rw [Function.comp_apply, boundRow_id (holds.plain alert member), List.any_map, decide_not]
    congr 1
    rw [Bool.eq_iff_iff, List.any_eq_true, decide_eq_true_eq, List.mem_map]
    refine exists_congr fun new => and_congr_right fun among => ?_
    rw [Function.comp_apply, decide_eq_true_eq, boundRow_id (holds.plain new (mem_of_newest among))]
  have oldest : Oldest rest (Store.oldestExcess keep live) := by
    refine ⟨(filter_perm_of_split (newest_split unique keep) unique).symm, ?_⟩
    exact (List.pairwise_insertionSort Store.older live).sublist (List.take_sublist _ _)
  have sorted : ((rest.map (boundRow doubles)).insertionSort fun a b => b.newer a) =
      (Store.oldestExcess keep live).map (boundRow doubles) := by
    rw [← oldest.sorted (unique.sublist (List.filter_sublist.map _))]
    refine (List.map_insertionSort _ _ (boundRow doubles) rest ?_).symm
    exact fun a first b second => (newer_boundRow (plain b second) (plain a first)).symm
  refine .bind (reads_opened isOpen) ?_
  dsimp only
  rw [rows, sorted]
  refine reads_queryAlerts holds fun alert member => ?_
  exact List.mem_of_mem_filter (oldest.complete.mem_iff.1 member)

theorem reads_findByTimeRange (isOpen : s.isOpen = true) (holds : Holds doubles live s.tables)
    {fromMs toMs : Int} (ordered : fromMs ≤ toMs) (limit : Nat) :
    Script.Reads (findByTimeRange doubles fromMs toMs limit) s ((newestAlerts limit
      (live.filter fun alert => alert.timestampMs ≥ fromMs ∧ alert.timestampMs ≤ toMs)).map stored) := by
  refine .bind (reads_opened isOpen) ?_
  rw [if_neg (by omega)]
  refine reads_newest holds limit (fun _ => List.mem_of_mem_filter) ?_
  rw [holds.alerts, List.filter_map]
  rfl

theorem Holds.hasClass {t : Tables D} (holds : Holds doubles live t) (member : alert ∈ live)
    (className : String) :
    (t.detections.any fun d => d.alertId = (boundRow doubles alert).id ∧ d.className = className) =
      alert.detections.any fun d => d.className = className := by
  rw [← holds.detections alert member, List.any_map, List.any_filter,
    boundRow_id (holds.plain alert member)]
  congr 1
  funext d
  rw [Bool.decide_and]
  rfl

/-- **`find_by_class`**. -/
theorem reads_findByClass (isOpen : s.isOpen = true) (holds : Holds doubles live s.tables)
    {className : String} (whole : '\x00' ∉ className.toList) (limit : Nat) :
    Script.Reads (findByClass doubles className limit) s ((newestAlerts limit
      (live.filter fun alert => alert.detections.any fun d => d.className = className)).map stored) := by
  refine .bind (reads_opened isOpen) ?_
  refine reads_newest holds limit (fun _ => List.mem_of_mem_filter) ?_
  rw [boundText_eq whole, holds.alerts, List.filter_map]
  congr 1
  exact List.filter_congr fun alert member => holds.hasClass member className

theorem reads_count (isOpen : s.isOpen = true) (holds : Holds doubles live s.tables) :
    Script.Reads count s live.length := by
  refine .bind (reads_opened isOpen) (.bind (.allowed _) (.bind (.allowed _) ?_))
  rw [holds.alerts, List.length_map]
  exact .ret _

end Reading

/-! ## The repository -/

/-- **Round trip, atomicity and retention**, after any calls from the empty tables. -/
theorem repository_keeps_alerts {h : History D}
    (run : Runs (step doubles) (fun _ move => move.1.Plain doubles) {} h) :
    (∀ alert ∈ h.live,
      Script.Reads (findById doubles alert.id) h.database (some (stored alert))) ∧
    (∀ alert answers, ((insert doubles alert).exec answers h.database).1 ≠ .ok true →
      ((insert doubles alert).exec answers h.database).2.state = h.database ∧
        h.database.saved = none) ∧
    ∀ k < 2 ^ 31, ∃ recent excess,
      Script.Reads (findRecent doubles k) h.database recent ∧
      Script.Reads (findOldestExcess doubles k) h.database excess ∧
      recent.length = min k h.live.length ∧
      (recent ++ excess).Perm (h.live.map stored) ∧ ((recent ++ excess).map (·.id)).Nodup ∧
      ∀ a ∈ recent, ∀ b ∈ excess,
        b.timestampMs < a.timestampMs ∨ b.timestampMs = a.timestampMs ∧ b.id < a.id := by
  obtain ⟨isOpen, closed, holds⟩ := kept_of_run run
  refine ⟨fun alert member => reads_findById isOpen holds member, ?_, ?_⟩
  · intro alert answers failed
    obtain ⟨-, settled, -⟩ := (insert_triple doubles alert closed).exec answers trivial rfl
    rcases settled with ⟨-, same⟩ | ⟨done, -⟩
    · exact ⟨same, closed⟩
    · exact absurd done failed
  · intro k small
    have split := (newest_split holds.distinct k).map stored
    rw [List.map_append] at split
    refine ⟨_, _, reads_findRecent isOpen holds k, reads_findOldestExcess isOpen holds k, ?_, split, ?_, ?_⟩
    · rw [List.length_map, newestAlerts, List.length_take, List.length_insertionSort, boundedLimit_eq]
      omega
    · refine (split.map _).nodup_iff.2 ?_
      rw [List.map_map]
      exact holds.distinct
    · intro a recent b excess
      obtain ⟨first, new, rfl⟩ := List.mem_map.1 recent
      obtain ⟨second, old, rfl⟩ := List.mem_map.1 excess
      obtain ⟨earlier | ⟨same, le⟩, other⟩ := older_of_split holds.distinct k new old
      · exact .inl earlier
      · exact .inr ⟨same, lt_of_le_of_ne le other⟩

/-- Rational doubles; `none` is the one that is not a number. -/
def rationals : Doubles (Option ℚ) := ⟨Option.isNone, some 0⟩

def parked : AlertEvent (Option ℚ) :=
  { id := ['p'], timestampMs := 7, gps := some ⟨true, "fixed", some 1, some (-2), some (1 / 2)⟩
    snapshotPath := ['a'], frameSequence := 3, modelVersion := some ""
    detections := [⟨2, "car", some (1 / 2), some 1, some 2, some 3, some 4⟩,
      ⟨0, "person", some (1 / 4), some 5, some 6, some 7, some 8⟩] }

def loitering : AlertEvent (Option ℚ) :=
  { id := ['l'], timestampMs := 7, gps := some ⟨false, "none", some 0, some 0, some 0⟩
    snapshotPath := ['b'], detections := [⟨0, "person", some 1, some 5, some 6, some 7, some 8⟩] }

/-- An id used again, an insertion that the environment refuses and one that a constraint does. -/
def calls : List (Call (Option ℚ) × List Bool) :=
  [(.insert { parked with detections := [] }, []),
    (.insert loitering, [true, true, true, true, false, false]), (.insert loitering, []),
    (.remove ['p'], []), (.insert parked, []), (.insert { loitering with id := ['p'] }, [])]

theorem calls_plain : ∀ move ∈ calls, move.1.Plain rationals := by
  have parked_plain : Plain rationals parked :=
    ⟨by decide, by decide, by simp [parked], by simp [parked], by simp [parked, rationals],
      by simp [parked]⟩
  have loitering_plain : Plain rationals loitering :=
    ⟨by decide, by decide, by simp [loitering], by simp [loitering],
      by simp [loitering, rationals], by simp [loitering]⟩
  intro move member
  simp only [calls, List.mem_cons, List.not_mem_nil, or_false] at member
  rcases member with rfl | rfl | rfl | rfl | rfl | rfl
  · exact { parked_plain with className := by simp }
  · exact loitering_plain
  · exact loitering_plain
  · show '\x00' ∉ ['p']
    decide
  · exact parked_plain
  · exact { loitering_plain with id := by decide }

theorem repository_keeps_parked : ∃ h : History (Option ℚ),
    Runs (step rationals) (fun _ move => move.1.Plain rationals) {} h ∧
      h.live = [loitering, parked] ∧
      ((findById rationals ['p']).run.exec [] h.database).1 = .ok (some parked) ∧
      ((findById rationals ['l']).run.exec [] h.database).1 = .ok (some { loitering with gps := none }) ∧
      ∃ recent excess, Script.Reads (findRecent rationals 1) h.database recent ∧
        Script.Reads (findOldestExcess rationals 1) h.database excess ∧
        (recent ++ excess).Perm [{ loitering with gps := none }, parked] := by
  have reached : ∃ h : History (Option ℚ),
      Runs (step rationals) (fun _ move => move.1.Plain rationals) {} h ∧
        h.live = [loitering, parked] := by
    apply Runs.exists_of_play calls
    · decide +kernel
    · exact Meets.of_forall calls_plain _
  obtain ⟨h, run, live⟩ := reached
  obtain ⟨found, -, split⟩ := repository_keeps_alerts run
  rw [live] at found
  obtain ⟨recent, excess, newest, oldest, -, all, -⟩ := split 1 (by decide)
  refine ⟨h, run, live, (found parked (by simp)).exec, (found loitering (by simp)).exec,
    recent, excess, newest, oldest, ?_⟩
  rw [live] at all
  exact all

end AlertRepository

end SkaiEdge.Storage
