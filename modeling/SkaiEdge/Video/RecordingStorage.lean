import SkaiEdge.Video.RecordingModule

/-!
# The storage quota over whole runs

`enforce_quota` runs when a pipeline is opened and when it is closed. While it is open, GStreamer
asks for one segment after the other and writes to them, and only a segment that takes the name of
a recording makes one smaller. So the recordings take what the open left, the newest that are
within the quota, and what was written since, less what was replaced. The first request of a
pipeline finds the quota kept, a later one exactly when this sum is within it
(`request_within_quota`).
-/

namespace SkaiEdge.Video.RecordingModule

open SkaiEdge.Lib SkaiEdge.Core

/-- `max_storage_mb` in bytes. -/
def quota (s : State) : Nat := s.config.maxStorageMb.toNat * 2 ^ 20

/-- Every call of an `enforce_quota` in this move succeeds. -/
def Inspected (s : State) : Action → Prop
  | .open o => o.inspection.Works s.entries
  | .setStopped c | .read c | .gate _ c | .close c | .leave c => c.inspection.Works s.entries
  | _ => True

/-- The directory can be inspected and files removed, and the recordings stay below 2^64 bytes. -/
def Served (s : State) : Action → Prop
  | .grow name bytes time => recordingTotal (growFile s.entries name bytes time) < 2 ^ 64
  | a => Inspected s a

/-- The request is its pipeline's first, or what GStreamer wrote since the open, less what it
replaced, fits beside the newest of the recordings found by the open that are within the quota. -/
def Roomy (s : State) : Prop := ∀ p ∈ s.pipeline,
  p.segments = [] ∨ newestBytes (quota s) p.found + p.grown ≤ quota s + p.replaced

instance (i : Inspection) (entries : List Entry) : Decidable (i.Works entries) :=
  decidable_of_iff (i.listed = true ∧ ∀ e ∈ entries, i.typed e.name = true ∧
      i.sized e.name = true ∧ i.timed e.name = true ∧ i.removed e.name = true)
    ⟨fun h => ⟨h.1, fun e m => (h.2 e m).1, fun e m => (h.2 e m).2.1, fun e m => (h.2 e m).2.2.1,
      fun e m => (h.2 e m).2.2.2⟩,
    fun h => ⟨h.listed, fun e m => ⟨h.typed e m, h.sized e m, h.timed e m, h.removed e m⟩⟩⟩

instance (s : State) : DecidablePred (Inspected s) := fun a =>
  match a with
  | .open o => inferInstanceAs (Decidable (o.inspection.Works s.entries))
  | .setStopped c | .read c | .gate _ c | .close c | .leave c =>
    inferInstanceAs (Decidable (c.inspection.Works s.entries))
  | .push _ | .shutdownQueue | .start | .stop | .setMediaAvailable _ _ | .stopModule
  | .formatLocation _ _ | .grow _ _ _ | .loop | .check | .idlePop | .pop | .poll _ | .ending
  | .write _ | .fail => .isTrue trivial

instance (s : State) : DecidablePred (Served s) := fun a =>
  match a with
  | .grow _ _ _ => inferInstanceAs (Decidable (_ < _))
  | .open o => inferInstanceAs (Decidable (Inspected s (.open o)))
  | .setStopped c => inferInstanceAs (Decidable (Inspected s (.setStopped c)))
  | .read c => inferInstanceAs (Decidable (Inspected s (.read c)))
  | .gate steady c => inferInstanceAs (Decidable (Inspected s (.gate steady c)))
  | .close c => inferInstanceAs (Decidable (Inspected s (.close c)))
  | .leave c => inferInstanceAs (Decidable (Inspected s (.leave c)))
  | .push _ | .shutdownQueue | .start | .stop | .setMediaAvailable _ _ | .stopModule
  | .formatLocation _ _ | .loop | .check | .idlePop | .pop | .poll _ | .ending | .write _ | .fail =>
    .isTrue trivial

instance (s : State) : Decidable (Roomy s) :=
  inferInstanceAs (Decidable (∀ p ∈ s.pipeline, _ = [] ∨ _ ≤ _))

theorem bytesOf_cons (p : Entry → Bool) (entry : Entry) (entries : List Entry) :
    bytesOf p (entry :: entries) = (if p entry then entry.size else 0) + bytesOf p entries := by
  cases pass : p entry <;> simp [bytesOf, pass]

theorem bytesOf_append (p : Entry → Bool) (a b : List Entry) :
    bytesOf p (a ++ b) = bytesOf p a + bytesOf p b := by
  simp [bytesOf]

/-- A new segment is empty, and a file of its name before it is gone. -/
theorem recordingTotal_createFile (entries : List Entry) (name : List Char) (time : Nat) :
    recordingTotal (createFile entries name time) + bytesNamed entries name = recordingTotal entries := by
  have empty : bytesOf Entry.recorded [⟨name, true, 0, time⟩] = 0 := by
    rw [bytesOf_cons]
    simp [bytesOf]
  unfold recordingTotal createFile bytesNamed
  rw [bytesOf_append, empty, Nat.add_zero]
  induction entries with
  | nil => rfl
  | cons entry entries ih =>
    rw [bytesOf_cons, bytesOf_cons, ← ih, List.filter_cons]
    by_cases same : entry.name = name
    · simp only [same, ne_eq, not_true, decide_false, Bool.false_eq_true, ↓reduceIte, decide_true,
        Bool.and_true]
      omega
    · simp only [same, ne_eq, not_false_eq_true, decide_true, ↓reduceIte, decide_false, Bool.and_false,
        Bool.false_eq_true, bytesOf_cons]
      omega

/-- Writing to a segment adds the bytes to every recording of its name. -/
theorem recordingTotal_growFile (entries : List Entry) (name : List Char) (bytes time : Nat) :
    recordingTotal (growFile entries name bytes time) = recordingTotal entries +
      (entries.countP fun e => e.recorded && decide (e.name = name)) * bytes := by
  unfold recordingTotal growFile
  induction entries with
  | nil => simp [bytesOf]
  | cons entry entries ih =>
    rw [List.map_cons, bytesOf_cons, bytesOf_cons, ih, List.countP_cons]
    by_cases same : entry.name = name
    · have recorded : Entry.recorded { entry with size := entry.size + bytes, time := time } =
          entry.recorded := rfl
      rw [if_pos same, recorded]
      cases entry.recorded with
      | false => simp
      | true =>
        simp only [same, Bool.and_self, ↓reduceIte, decide_true]
        ring
    · simp [same]
      ring

theorem growFile_names (entries : List Entry) (name : List Char) (bytes time : Nat) :
    (growFile entries name bytes time).map Entry.name = entries.map Entry.name := by
  rw [growFile, List.map_map]
  refine List.map_congr_left fun entry _ => ?_
  rw [Function.comp_apply]
  split <;> rfl

/-- How often a name is there. -/
def copies (entries : List Entry) (name : List Char) : Nat := (entries.map Entry.name).count name

theorem copies_recorded (entries : List Entry) (name : List Char) :
    (entries.countP fun e => e.recorded && decide (e.name = name)) ≤ copies entries name := by
  rw [copies, List.count_eq_countP, List.countP_map]
  refine List.countP_mono_left fun e _ => ?_
  simp

theorem copies_createFile (entries : List Entry) (name other : List Char) (time : Nat) :
    copies (createFile entries name time) other =
      if other = name then 1 else copies entries other := by
  unfold copies createFile
  rw [List.map_append, List.count_append]
  by_cases same : other = name
  · subst same
    rw [if_pos rfl, List.count_eq_zero.2 (by simp)]
    simp
  · rw [if_neg same]
    have names : (entries.filter (·.name ≠ name)).map Entry.name =
        (entries.map Entry.name).filter (· ≠ name) := by
      rw [List.filter_map]
      rfl
    rw [names, List.count_filter (by simpa using same)]
    simp [Ne.symm same]

/-- **What a move does to the storage**: nothing, a pipeline closes or fails to open and files
may go, a pipeline opens, a segment is requested, a segment grows. -/
inductive StorageMove (s : State) (a : Action) (v : State) : Prop where
  | same (entries : v.entries = s.entries)
      (pipeline : ∀ q ∈ v.pipeline, ∃ p ∈ s.pipeline, q = { p with
        pendingAccessUnits := q.pendingAccessUnits, pendingBytes := q.pendingBytes })
  | closed (entries : v.entries.Sublist s.entries) (pipeline : v.pipeline = none)
  | opened (o : Opening) (action : a = .open o)
      (entries : v.entries = enforceQuota o.inspection s.config.maxStorageMb s.entries)
      (pipeline : v.pipeline = some { found := s.entries })
  | requested (p : Pipeline) (now : List Char) (time : Nat) (held : s.pipeline = some p)
      (entries : v.entries = createFile s.entries (nextName now s.sessionId p.segments.length) time)
      (pipeline : v.pipeline = some { p with
        segments := p.segments ++ [nextName now s.sessionId p.segments.length]
        replaced := p.replaced +
          bytesNamed s.entries (nextName now s.sessionId p.segments.length) })
  | grown (p : Pipeline) (name : List Char) (bytes time : Nat) (action : a = .grow name bytes time)
      (held : s.pipeline = some p) (member : name ∈ p.segments)
      (entries : v.entries = growFile s.entries name bytes time)
      (pipeline : v.pipeline = some { p with grown := p.grown + bytes })

/-- A move that keeps the directory and the pipeline. -/
theorem StorageMove.unchanged {s v : State} {a : Action} (entries : v.entries = s.entries)
    (pipeline : v.pipeline = s.pipeline) : StorageMove s a v :=
  .same entries fun q held => ⟨q, pipeline ▸ held, rfl⟩

theorem StorageMove.retired {s v : State} {a : Action} {entries : List Entry}
    {pipeline : Option Pipeline} (retired : Retired s entries pipeline)
    (after : v.entries = entries) (held : v.pipeline = pipeline) : StorageMove s a v := by
  subst after held
  rcases retired with ⟨same, kept⟩ | ⟨none, sub⟩
  · exact .unchanged kept same
  · exact .closed sub none

theorem openStep_storage (s : State) (unit : Stamped EncodedAccessUnit) (o : Opening) :
    (openStep s unit o).config = s.config ∧ StorageMove s (.open o) (openStep s unit o) := by
  cases pipeline : s.pipeline with
  | some p =>
    have goes : openStep s unit o = { s with worker := .writing unit } := by
      simp only [openStep, pipeline]
    rw [goes]
    exact ⟨rfl, .unchanged rfl rfl⟩
  | none =>
    rcases openPipeline_cases s o with ⟨entries, error, sub, fails⟩ | opens
    · have stops : openStep s unit o =
          { s with entries := entries, worker := .failing error false } := by
        simp only [openStep, pipeline, fails]
      rw [stops]
      exact ⟨rfl, .closed sub pipeline⟩
    · unfold openStep
      rw [pipeline, opens]
      exact ⟨rfl, .opened o rfl rfl rfl⟩

theorem write_storage {s : State} {p : Pipeline} (a : Action) (unit : Stamped EncodedAccessUnit)
    (w : Writing) (held : s.pipeline = some p) :
    (write s p unit w).config = s.config ∧ StorageMove s a (write s p unit w) := by
  cases w with
  | congested => exact ⟨rfl, .unchanged rfl rfl⟩
  | failed error => exact ⟨rfl, .unchanged rfl rfl⟩
  | accepted =>
    refine ⟨rfl, .same rfl ?_⟩
    rintro _ ⟨⟩
    exact ⟨p, held, rfl⟩

theorem storage_cases {s v : State} {a : Action} (moved : step s a = some v) :
    v.config = s.config ∧ StorageMove s a v := by
  cases a with
  | push unit => cases moved; exact ⟨rfl, .unchanged rfl rfl⟩
  | shutdownQueue => cases moved; exact ⟨rfl, .unchanged rfl rfl⟩
  | start => cases moved; exact ⟨rfl, .unchanged rfl rfl⟩
  | stop => cases moved; exact ⟨rfl, .unchanged rfl rfl⟩
  | setMediaAvailable available reason => cases moved; exact ⟨rfl, .unchanged rfl rfl⟩
  | stopModule => cases moved; exact ⟨rfl, .unchanged rfl rfl⟩
  | formatLocation now time =>
    obtain ⟨p, held, rfl⟩ := Option.map_eq_some_iff.1 moved
    exact ⟨rfl, .requested p now time held rfl rfl⟩
  | grow name bytes time =>
    simp only [step] at moved
    split at moved
    · rename_i p held
      obtain ⟨member, ⟨⟩⟩ := Option.ite_none_right_eq_some.1 moved
      exact ⟨rfl, .grown p name bytes time rfl held member rfl rfl⟩
    · cases moved
  | loop =>
    obtain ⟨_, ⟨⟩⟩ := Option.ite_none_right_eq_some.1 moved
    exact ⟨rfl, .unchanged rfl rfl⟩
  | check =>
    obtain ⟨_, ⟨⟩⟩ := Option.ite_none_right_eq_some.1 moved
    exact ⟨rfl, .unchanged rfl rfl⟩
  | setStopped c =>
    obtain ⟨_, ⟨⟩⟩ := Option.ite_none_right_eq_some.1 moved
    obtain ⟨control, entries, sub, closed⟩ := closePipeline_eq s true c
    rw [closed]
    exact ⟨rfl, .closed sub rfl⟩
  | idlePop =>
    obtain ⟨_, ⟨⟩⟩ := Option.ite_none_right_eq_some.1 moved
    unfold idlePop
    split <;> exact ⟨rfl, .unchanged rfl rfl⟩
  | pop =>
    obtain ⟨_, ⟨⟩⟩ := Option.ite_none_right_eq_some.1 moved
    exact ⟨rfl, .unchanged rfl rfl⟩
  | read c =>
    simp only [step] at moved
    split at moved
    · rename_i unit _
      cases moved
      rcases read_cases s unit c with ⟨control, entries, pipeline, retired, closes⟩ | ⟨_, _, stays⟩
      · rw [closes]
        exact ⟨rfl, .retired retired rfl rfl⟩
      · rw [stays]
        exact ⟨rfl, .unchanged rfl rfl⟩
    · cases moved
  | poll event =>
    simp only [step] at moved
    split at moved
    · rename_i unit _
      cases moved
      rcases poll_cases s unit event with ⟨error, _, fails⟩ | ⟨_, ends⟩ | ⟨u, _, goes⟩
      · rw [fails]; exact ⟨rfl, .unchanged rfl rfl⟩
      · rw [ends]; exact ⟨rfl, .unchanged rfl rfl⟩
      · rw [goes]; exact ⟨rfl, .unchanged rfl rfl⟩
    · cases moved
  | ending =>
    obtain ⟨_, ⟨⟩⟩ := Option.ite_none_right_eq_some.1 moved
    exact ⟨rfl, .unchanged rfl rfl⟩
  | gate steady c =>
    simp only [step] at moved
    split at moved
    · rename_i unit _
      cases moved
      rcases gate_cases s unit steady c with
        ⟨control, entries, pipeline, retired, skips⟩ | ⟨control, entries, sessionId, _, sub, reopens⟩ |
        ⟨sessionId, _, passes⟩
      · rw [skips]; exact ⟨rfl, .retired retired rfl rfl⟩
      · rw [reopens]; exact ⟨rfl, .closed sub rfl⟩
      · rw [passes]; exact ⟨rfl, .unchanged rfl rfl⟩
    · cases moved
  | «open» o =>
    simp only [step] at moved
    split at moved
    · cases moved
      exact openStep_storage s _ o
    · cases moved
  | write w =>
    simp only [step] at moved
    split at moved
    · rename_i unit p _ held
      cases moved
      exact write_storage _ unit w held
    · cases moved
  | fail =>
    simp only [step] at moved
    split at moved
    · cases moved
      exact ⟨rfl, .unchanged rfl rfl⟩
    · cases moved
  | close c =>
    obtain ⟨_, ⟨⟩⟩ := Option.ite_none_right_eq_some.1 moved
    obtain ⟨control, entries, sub, closed⟩ := closePipeline_eq s false c
    rw [closed]
    exact ⟨rfl, .closed sub rfl⟩
  | leave c =>
    obtain ⟨_, ⟨⟩⟩ := Option.ite_none_right_eq_some.1 moved
    obtain ⟨control, entries, sub, closed⟩ := closePipeline_eq s true c
    rw [closed]
    exact ⟨rfl, .closed sub rfl⟩

/-- The recordings take no more than what the open left and GStreamer wrote since, less what it
replaced. -/
structure Balanced (entries : List Entry) (bound : Nat) (p : Pipeline) : Prop where
  total : recordingTotal entries + p.replaced ≤ newestBytes bound p.found + p.grown
  once : ∀ name ∈ p.segments, copies entries name ≤ 1
  first : p.segments = [] → p.grown = 0

/-- What the runs keep: the recordings fit 64 bits, and they are in balance. -/
structure Stored (s : State) : Prop where
  quota : quota s < 2 ^ 64
  fits : recordingTotal s.entries < 2 ^ 64
  balanced : ∀ p ∈ s.pipeline, Balanced s.entries (RecordingModule.quota s) p

theorem Balanced.opened {i : Inspection} {maxStorageMb : UInt64} {entries : List Entry}
    (works : i.Works entries) (fits : recordingTotal entries < 2 ^ 64)
    (quota : maxStorageMb.toNat * 2 ^ 20 < 2 ^ 64) :
    Balanced (enforceQuota i maxStorageMb entries) (maxStorageMb.toNat * 2 ^ 20) { found := entries } where
  total := (enforceQuota_newest works fits quota).1
  once := by simp
  first _ := rfl

theorem Balanced.requested {entries : List Entry} {bound : Nat} {p : Pipeline}
    (balanced : Balanced entries bound p) (name : List Char) (time : Nat) :
    Balanced (createFile entries name time) bound { p with
      segments := p.segments ++ [name], replaced := p.replaced + bytesNamed entries name } where
  total := by
    have total := balanced.total
    have created := recordingTotal_createFile entries name time
    show _ + (p.replaced + _) ≤ newestBytes bound p.found + p.grown
    omega
  once := by
    intro other member
    rw [copies_createFile]
    split
    · exact Nat.le_refl 1
    · rename_i different
      exact balanced.once other ((List.mem_append.1 member).resolve_right (by simpa using different))
  first := by simp

theorem Balanced.grown {entries : List Entry} {bound : Nat} {p : Pipeline}
    (balanced : Balanced entries bound p) {name : List Char} (bytes time : Nat)
    (member : name ∈ p.segments) :
    Balanced (growFile entries name bytes time) bound { p with grown := p.grown + bytes } where
  total := by
    have single := (copies_recorded entries name).trans (balanced.once name member)
    have more := Nat.mul_le_mul_right bytes single
    have total := balanced.total
    rw [recordingTotal_growFile]
    show _ + p.replaced ≤ newestBytes bound p.found + (p.grown + bytes)
    omega
  once := by
    intro other known
    rw [copies, growFile_names]
    exact balanced.once other known
  first := by
    intro none'
    rw [show p.segments = [] from none'] at member
    cases member

/-- **Every move keeps the recordings in balance.** -/
theorem Stored.step {s v : State} {a : Action} (stored : Stored s) (guard : Served s a)
    (moved : step s a = some v) : Stored v := by
  obtain ⟨config, move⟩ := storage_cases moved
  have same_quota : RecordingModule.quota v = RecordingModule.quota s := by
    unfold RecordingModule.quota
    rw [config]
  have quota := stored.quota
  have bounded : RecordingModule.quota v < 2 ^ 64 := by rwa [same_quota]
  cases move with
  | same entries pipeline =>
    refine ⟨bounded, entries ▸ stored.fits, fun q held => ?_⟩
    obtain ⟨p, before, same⟩ := pipeline q held
    obtain ⟨total, once, first⟩ := stored.balanced p before
    rw [same_quota, entries, same]
    exact ⟨total, once, first⟩
  | closed entries pipeline =>
    refine ⟨bounded, ?_, by simp [pipeline]⟩
    exact Nat.lt_of_le_of_lt (bytesOf_le_of_sublist entries) stored.fits
  | opened o action entries pipeline =>
    -- the only enforcement that the quota rests on
    subst action
    refine ⟨bounded, ?_, ?_⟩
    · rw [entries]
      exact Nat.lt_of_le_of_lt (bytesOf_le_of_sublist (enforceQuota_sublist _ _ _)) stored.fits
    · rw [pipeline, same_quota, entries]
      rintro _ ⟨⟩
      exact .opened guard stored.fits quota
  | requested p now time held entries pipeline =>
    refine ⟨bounded, ?_, ?_⟩
    · rw [entries]
      have created := recordingTotal_createFile s.entries
        (nextName now s.sessionId p.segments.length) time
      have fits := stored.fits
      omega
    · rw [pipeline, same_quota, entries]
      rintro _ ⟨⟩
      exact (stored.balanced p held).requested _ time
  | grown p name bytes time action held member entries pipeline =>
    subst action
    refine ⟨bounded, ?_, ?_⟩
    · rw [entries]
      exact guard
    · rw [pipeline, same_quota, entries]
      rintro _ ⟨⟩
      exact (stored.balanced p held).grown bytes time member

/-! ## No byte too many -/

/-- The balance without a slack. -/
structure Tight (entries : List Entry) (bound : Nat) (p : Pipeline) : Prop where
  total : recordingTotal entries + p.replaced = newestBytes bound p.found + p.grown
  there : ∀ name ∈ p.segments, ∃ e ∈ entries, e.name = name ∧ e.recorded = true

/-- A directory has each name once, and then the balance is tight. -/
structure Distinct (s : State) : Prop where
  names : (s.entries.map Entry.name).Nodup
  tight : ∀ p ∈ s.pipeline, Tight s.entries (quota s) p

theorem nextName_shape (now sessionId : List Char) (fragmentId : Nat) :
    ∃ front, nextName now sessionId fragmentId =
      ("recording_".toList ++ front) ++ '.' :: "mp4".toList := by
  have suffix : ".mp4".toList = '.' :: "mp4".toList := rfl
  unfold nextName
  rw [suffix]
  generalize Nat.toDigits 10 fragmentId = digits, "recording_".toList = head
  exact ⟨now ++ '_' :: sessionId ++ (if fragmentId = 0 then [] else
    '_' :: List.replicate (3 - digits.length) '0' ++ digits), by simp⟩

theorem isRecording_nextName (now sessionId : List Char) (fragmentId : Nat) :
    isRecording (nextName now sessionId fragmentId) = true := by
  obtain ⟨front, shape⟩ := nextName_shape now sessionId fragmentId
  have dot : Text.findLastOf (("recording_".toList ++ front) ++ '.' :: "mp4".toList) '.' =
      some ("recording_".toList ++ front).length := Text.findLastOf_append _ (by decide)
  have other : ("recording_".toList ++ front) ++ '.' :: "mp4".toList ≠ "..".toList := by
    intro same
    cases congrArg List.head? same
  have long : ("recording_".toList ++ front).length = (front.length + 9) + 1 := by
    have head : "recording_".toList.length = 10 := rfl
    rw [List.length_append, head]
    omega
  rw [isRecording, shape, extension, dot]
  simp only [long, if_neg other]
  rw [← long, List.drop_left, List.append_assoc]
  simp

theorem Tight.requested {entries : List Entry} {bound : Nat} {p : Pipeline} (tight : Tight entries bound p)
    {name : List Char} (time : Nat) (recording : isRecording name = true) :
    Tight (createFile entries name time) bound { p with
      segments := p.segments ++ [name], replaced := p.replaced + bytesNamed entries name } where
  total := by
    have total := tight.total
    have created := recordingTotal_createFile entries name time
    show _ + (p.replaced + _) = newestBytes bound p.found + p.grown
    omega
  there := by
    intro other member
    by_cases same : other = name
    · subst same
      exact ⟨_, List.mem_append_right _ List.mem_cons_self, rfl, recording⟩
    · have known := (List.mem_append.1 member).resolve_right (by simpa using same)
      obtain ⟨e, here, named, recorded⟩ := tight.there other known
      have stays : e ∈ entries.filter (·.name ≠ name) :=
        List.mem_filter.2 ⟨here, by simpa [named] using same⟩
      exact ⟨e, List.mem_append_left _ stays, named, recorded⟩

theorem Tight.grown {entries : List Entry} {bound : Nat} {p : Pipeline} (tight : Tight entries bound p)
    (names : (entries.map Entry.name).Nodup) {name : List Char} (bytes time : Nat)
    (member : name ∈ p.segments) :
    Tight (growFile entries name bytes time) bound { p with grown := p.grown + bytes } where
  total := by
    have most : (entries.countP fun e => e.recorded && decide (e.name = name)) ≤ 1 :=
      (copies_recorded entries name).trans (List.nodup_iff_count_le_one.1 names name)
    have least : 0 < entries.countP fun e => e.recorded && decide (e.name = name) := by
      obtain ⟨e, here, named, recorded⟩ := tight.there name member
      exact List.countP_pos_iff.2 ⟨e, here, by simp [named, recorded]⟩
    have total := tight.total
    rw [recordingTotal_growFile, show (entries.countP _) = 1 by omega, Nat.one_mul]
    show _ + p.replaced = newestBytes bound p.found + (p.grown + bytes)
    omega
  there := by
    intro other known
    obtain ⟨e, here, named, recorded⟩ := tight.there other known
    refine ⟨_, List.mem_map_of_mem here, ?_⟩
    split
    · exact ⟨named, recorded⟩
    · exact ⟨named, recorded⟩

theorem Tight.opened {i : Inspection} {maxStorageMb : UInt64} {entries : List Entry}
    (works : i.Works entries) (fits : recordingTotal entries < 2 ^ 64)
    (quota : maxStorageMb.toNat * 2 ^ 20 < 2 ^ 64) (names : (entries.map Entry.name).Nodup) :
    Tight (enforceQuota i maxStorageMb entries) (maxStorageMb.toNat * 2 ^ 20) { found := entries } where
  total := (enforceQuota_newest works fits quota).2 names
  there := by simp

theorem createFile_names {entries : List Entry} (names : (entries.map Entry.name).Nodup)
    (name : List Char) (time : Nat) : ((createFile entries name time).map Entry.name).Nodup := by
  rw [List.nodup_iff_count_le_one] at names ⊢
  intro other
  have counted := copies_createFile entries name other time
  rw [copies] at counted
  rw [counted]
  split
  · exact Nat.le_refl 1
  · exact names other

theorem Distinct.step {s v : State} {a : Action} (distinct : Distinct s) (stored : Stored s)
    (guard : Served s a) (moved : step s a = some v) : Distinct v := by
  obtain ⟨config, move⟩ := storage_cases moved
  have same_quota : RecordingModule.quota v = RecordingModule.quota s := by
    unfold RecordingModule.quota
    rw [config]
  have names := distinct.names
  cases move with
  | same entries pipeline =>
    refine ⟨entries ▸ names, fun q held => ?_⟩
    obtain ⟨p, before, same⟩ := pipeline q held
    obtain ⟨total, there⟩ := distinct.tight p before
    rw [same_quota, entries, same]
    exact ⟨total, there⟩
  | closed entries pipeline =>
    exact ⟨names.sublist (entries.map Entry.name), by simp [pipeline]⟩
  | opened o action entries pipeline =>
    subst action
    refine ⟨?_, ?_⟩
    · rw [entries]
      exact names.sublist ((enforceQuota_sublist _ _ _).map Entry.name)
    · rw [pipeline, same_quota, entries]
      rintro _ ⟨⟩
      exact .opened guard stored.fits stored.quota names
  | requested p now time held entries pipeline =>
    refine ⟨?_, ?_⟩
    · rw [entries]
      exact createFile_names names _ time
    · rw [pipeline, same_quota, entries]
      rintro _ ⟨⟩
      exact (distinct.tight p held).requested time (isRecording_nextName _ _ _)
  | grown p name bytes time action held member entries pipeline =>
    refine ⟨?_, ?_⟩
    · rw [entries, growFile_names]
      exact names
    · rw [pipeline, same_quota, entries]
      rintro _ ⟨⟩
      exact (distinct.tight p held).grown names bytes time member

theorem distinct_run {s v : State} (run : Runs step Served s v) (stored : Stored s)
    (distinct : Distinct s) : Distinct v := by
  have both : Stored v ∧ Distinct v := by
    induction run with
    | refl => exact ⟨stored, distinct⟩
    | snoc a _ guard moved ih => exact ⟨ih.1.step guard moved, ih.2.step ih.1 guard moved⟩
  exact both.2

theorem config_run {ok : State → Action → Prop} {s v : State} (run : Runs step ok s v) :
    v.config = s.config := by
  induction run with
  | refl => rfl
  | snoc a _ _ moved ih => exact (storage_cases moved).1.trans ih

theorem stored_init {config : RecordingConfig} {capacity : Nat} (positive : 0 < capacity)
    (control : RecordingController) {entries : List Entry}
    (bound : config.maxStorageMb.toNat * 2 ^ 20 < 2 ^ 64) (fits : recordingTotal entries < 2 ^ 64) :
    Stored (init config capacity positive control entries) :=
  ⟨bound, fits, nofun⟩

/-- **A segment is requested within the quota exactly when there is room.** In every run in which the
directory can be inspected and cleaned, the recordings take at most `max_storage_mb` MiB whenever a
location is requested with room for what was written since the open, and more whenever one is
requested without, as a directory has no name twice. -/
theorem request_within_quota {config : RecordingConfig} {capacity : Nat} {positive : 0 < capacity}
    {control : RecordingController} {entries : List Entry} {s v : State} {now : List Char}
    {time : Nat} (run : Runs step Served (init config capacity positive control entries) s)
    (requested : step s (.formatLocation now time) = some v)
    (bound : config.maxStorageMb.toNat * 2 ^ 20 < 2 ^ 64) (fits : recordingTotal entries < 2 ^ 64) :
    (Roomy s → recordingTotal s.entries ≤ config.maxStorageMb.toNat * 2 ^ 20) ∧
    ((entries.map Entry.name).Nodup →
      recordingTotal s.entries ≤ config.maxStorageMb.toNat * 2 ^ 20 → Roomy s) := by
  have start : Stored (init config capacity positive control entries) :=
    stored_init positive control bound fits
  have stored : Stored s := run.invariant start fun _ _ _ stored guard moved => stored.step guard moved
  have same_quota : quota s = config.maxStorageMb.toNat * 2 ^ 20 := by
    unfold quota
    rw [config_run run]
    rfl
  obtain ⟨p, held, _⟩ := Option.map_eq_some_iff.1 requested
  rw [← same_quota]
  constructor
  · intro roomy
    have total := (stored.balanced p held).total
    rcases roomy p held with first | room
    · have least := newestBytes_le (quota s) p.found
      have unwritten := (stored.balanced p held).first first
      omega
    · omega
  · intro names within q held'
    have distinct : Distinct s := distinct_run run start ⟨names, nofun⟩
    have total := (distinct.tight q held').total
    exact .inr (by omega)

/-- A recorder with a quota of `mb` MiB on a directory with these files and room for more. -/
abbrev small (mb : UInt64) (entries : List Entry) : State :=
  init { maxStorageMb := mb, minFreeSpaceMb := 0 } 8 (Nat.succ_pos _) {} entries

/-- A keyframe opens a pipeline, whose first segment grows to `bytes`. -/
def segment (bytes : Nat) : List Action :=
  [.push { keyframe := true }, .loop, .check, .pop, .read {}, .poll .none, .gate 0 {},
    .open { space := .ok 0 }, .write .accepted, .formatLocation [] 0,
    .grow (nextName [] ['0'] 0) bytes 3]

/-- Two recordings of 2 and 0.5 MiB, of which the open deletes the older one. -/
def twoOld : List Entry :=
  [⟨"recording_a.mp4".toList, true, 2097152, 1⟩, ⟨"recording_b.mp4".toList, true, 524288, 2⟩]

/-- A second segment within a quota of 2 MiB, behind one of 1 MiB. -/
theorem request_within_quota_second : ∃ s : State, recordingTotal s.entries = 1572864 ∧
    recordingTotal s.entries ≤ (2 : UInt64).toNat * 2 ^ 20 := by
  obtain ⟨s, run, total, roomy, requested⟩ : ∃ s, Runs step Served (small 2 twoOld) s ∧
      recordingTotal s.entries = 1572864 ∧ Roomy s ∧
        (step s (.formatLocation [] 2)).isSome = true :=
    Runs.exists_of_play (segment 1048576) (by decide +kernel) (by decide +kernel)
  obtain ⟨v, moved⟩ := Option.isSome_iff_exists.1 requested
  exact ⟨s, total, (request_within_quota run moved (by decide) (by decide +kernel)).1 roomy⟩

/-- A pipeline whose first segment takes 2 MiB of a quota of 1 MiB asks for a second one; every
file could be inspected and removed. -/
theorem rollover_exceeds_quota : ∃ s, Runs step Inspected (small 1 []) s ∧
    (step s (.formatLocation [] 2)).isSome = true ∧
    ¬ recordingTotal s.entries ≤ (1 : UInt64).toNat * 2 ^ 20 :=
  Runs.exists_of_play (segment 2097152) (by decide) (by decide)

end SkaiEdge.Video.RecordingModule
