import SkaiEdge.Storage.CleanupRecovery

/-!
# Which alerts a cleanup keeps

`cleanup_oldest` asks for the rows beyond the `keep` newest, oldest first, and removes them one by
one. `Written` is a store that `persist` has filled under one directory. Without failures the cleanup
leaves exactly the `keep` newest rows, unless the containment check stops it: it compares the parts
of the normalized directory with those of the snapshot's path, and a directory text that ends with
a separator or a dot part has a last empty part that no snapshot has (`Path.ends`). The limit
of the query is an `int`, so beyond `2^31 - 1` rows a larger `keep` is cut to it.
-/

namespace SkaiEdge.Storage

open SkaiEdge.Lib SkaiEdge.Lib.Path SkaiEdge.Lib.Script SkaiEdge.Inference SkaiEdge.Alerts

variable {D : Type} {cwd snapshotDirectory : List Char}

/-- A store of alerts that `persist` wrote under the directory. -/
structure Written (cwd snapshotDirectory : List Char) (s : Store D) : Prop extends Settled cwd s where
  paths : ∀ row ∈ s.rows, row.snapshotPath = finalPath snapshotDirectory row.timestampMs row.id

/-- An empty table is one. -/
theorem written_empty (files : Location → Option Snapshot) :
    Written cwd snapshotDirectory (⟨files, []⟩ : Store D) :=
  ⟨⟨by simp, by simp, by simp⟩, by simp⟩

theorem Settled.sound {s : Store D} (settled : Settled cwd s) : Sound cwd s :=
  ⟨settled.named, settled.unique, fun row member => .inl (settled.placed row member)⟩

/-- **`persist` keeps it**, whatever fails, if no row's snapshot is at its final path. -/
theorem Written.persist {s : Store D} (written : Written cwd snapshotDirectory s) (frame : Frame)
    {alert : AlertEvent D} (clean : CleanId alert.id)
    (unused : Unused cwd snapshotDirectory s.rows alert.timestampMs alert.id) (answers : List Bool) :
    Written cwd snapshotDirectory
      ((Storage.persist cwd snapshotDirectory frame alert).exec answers s).2.state := by
  have kept : Triple (Written cwd snapshotDirectory) (fun t => t.rows = s.rows)
      (Storage.persist cwd snapshotDirectory frame alert) (fun _ _ => True) := by
    refine persist_rule (R := fun t => t.rows = s.rows ∧
      (t.files (locate cwd (finalPath snapshotDirectory alert.timestampMs alert.id))).isSome = true)
      (fun _ _ _ => trivial) fun some' => ?_
    obtain ⟨parent, final, temporary⟩ := locate_final cwd alert.timestampMs clean some'
    have named : Named cwd { alert with
        snapshotPath := finalPath snapshotDirectory alert.timestampMs alert.id } :=
      ⟨clean, parent, final⟩
    have elsewhere : ∀ {t u : Store D}, Written cwd snapshotDirectory t → u.rows = t.rows →
        (∀ row ∈ t.rows, (t.files (place cwd row)).isSome = true →
          (u.files (place cwd row)).isSome = true) → Written cwd snapshotDirectory u := by
      intro t u before rows files
      refine ⟨⟨rows ▸ before.named, rows ▸ before.unique, ?_⟩, rows ▸ before.paths⟩
      rw [rows]
      exact fun row member => files row member (before.placed row member)
    refine ⟨?_, ?_, ?_, ?_, ?_, fun _ _ _ => trivial⟩
    · intro t content before same
      exact ⟨elsewhere before rfl fun row _ there => write_files _ _ _ there, same⟩
    · intro t before _
      refine ⟨elsewhere before rfl fun row member there => ?_, trivial⟩
      rw [temporary, erase_files ((before.named row member).ne_temporary clean).1]
      exact there
    · intro t u before same moved
      obtain ⟨rows, found, there, _⟩ := rename_cases moved
      refine ⟨elsewhere before rows fun row member there => ?_, rows.trans same, there ▸ found⟩
      rw [temporary] at moved
      exact rename_keeps moved ((before.named row member).ne_temporary clean).1 there
    · intro t u before pre moved
      obtain ⟨sound, added⟩ := before.sound.insert named pre.2 moved
      have files : u.files = t.files := by
        obtain ⟨_, ⟨⟩⟩ := Option.ite_none_left_eq_some.1 moved
        rfl
      refine ⟨⟨⟨sound.named, sound.unique, ?_⟩, ?_⟩, trivial⟩
      · rw [added, files]
        exact List.forall_mem_append.2 ⟨before.placed, List.forall_mem_singleton.2 pre.2⟩
      · rw [added]
        intro row member
        rcases List.mem_append.1 member with old | new
        · exact before.paths row old
        · rw [List.mem_singleton.1 new]
    · intro t before pre
      refine ⟨elsewhere before rfl fun row member there => ?_, trivial⟩
      rw [erase_files (unused row (pre.1 ▸ member))]
      exact there
  exact (kept.exec answers written rfl).1

/-- A store of alerts that `persist` wrote under the directory, whatever failed meanwhile. -/
inductive Persisted (cwd snapshotDirectory : List Char) : Store D → Prop where
  | empty (files : Location → Option Snapshot) : Persisted cwd snapshotDirectory ⟨files, []⟩
  | persist {s : Store D} (earlier : Persisted cwd snapshotDirectory s) (frame : Frame)
      {alert : AlertEvent D} (clean : CleanId alert.id)
      (unused : Unused cwd snapshotDirectory s.rows alert.timestampMs alert.id)
      (answers : List Bool) :
      Persisted cwd snapshotDirectory
        ((Storage.persist cwd snapshotDirectory frame alert).exec answers s).2.state

theorem Persisted.written {s : Store D} (persisted : Persisted cwd snapshotDirectory s) :
    Written cwd snapshotDirectory s := by
  induction persisted with
  | empty files => exact written_empty files
  | persist earlier frame clean unused answers ih => exact ih.persist frame clean unused answers

/-! ## The order of the rows -/

/-- Without the `n` oldest the others are left. -/
theorem Oldest.without {rows order : List (AlertEvent D)} (oldest : Oldest rows order)
    (unique : (rows.map (·.id)).Nodup) (n : Nat) :
    (rows.filter fun row => row.id ∉ (order.take n).map (·.id)).Perm (order.drop n) := by
  refine filter_perm_of_split ?_ unique
  rw [List.take_append_drop]
  exact oldest.complete

/-! ## Removing -/

/-- What the removal of `alerts` makes of the store. -/
structure Removed (cwd : List Char) (alerts : List (AlertEvent D)) (s t : Store D) : Prop where
  rows : t.rows = s.rows.filter fun row => row.id ∉ alerts.map (·.id)
  gone : ∀ alert ∈ alerts, t.files (place cwd alert) = none ∧ t.files (tombstone cwd alert) = none
  others : ∀ l, (∀ alert ∈ alerts, l ≠ place cwd alert ∧ l ≠ tombstone cwd alert) →
    t.files l = s.files l

theorem Removed.cons {alert : AlertEvent D} {rest : List (AlertEvent D)} {s t u : Store D}
    (first : Removed cwd [alert] s t) (later : Removed cwd rest t u) :
    Removed cwd (alert :: rest) s u := by
  have empties : ∀ l, t.files l = none → u.files l = none := by
    intro l empty
    by_cases touched : ∃ other ∈ rest, l = place cwd other ∨ l = tombstone cwd other
    · obtain ⟨other, member, rfl | rfl⟩ := touched
      · exact (later.gone other member).1
      · exact (later.gone other member).2
    · rw [later.others l, empty]
      intro other member
      exact ⟨fun at' => touched ⟨other, member, .inl at'⟩, fun at' => touched ⟨other, member, .inr at'⟩⟩
  refine ⟨?_, ?_, ?_⟩
  · rw [later.rows, first.rows, List.filter_filter]
    refine List.filter_congr fun row _ => ?_
    simp [not_or, Bool.and_comm]
  · intro other member
    rcases List.mem_cons.1 member with rfl | member
    · have gone := first.gone other (by simp)
      exact ⟨empties _ gone.1, empties _ gone.2⟩
    · exact later.gone other member
  · intro l apart
    rw [later.others l fun other member => apart other (by simp [member]),
      first.others l fun other member => apart other (by simp [List.mem_singleton.1 member])]

theorem removeFile_smooth {P : Store D → Prop} {location : Location}
    (there : ∀ s, P s → (s.files location).isSome = true) :
    Smooth P (removeFile location) (fun removal t => removal = .removed ∧ ∃ s, P s ∧ t = s.erase location) := by
  refine .asked (.reading fun s pre => ?_)
  rw [if_pos (there s pre)]
  intro w agrees _
  exact ⟨agrees, rfl, s, pre, rfl⟩

/-- The snapshot of `alert` is at its tombstone; the other files are those of `s`. -/
structure Buried (cwd : List Char) (alert : AlertEvent D) (rows : List (AlertEvent D))
    (s t : Store D) : Prop where
  rows : t.rows = rows
  left : t.files (place cwd alert) = none
  found : (t.files (tombstone cwd alert)).isSome = true
  others : ∀ l, l ≠ place cwd alert → l ≠ tombstone cwd alert → t.files l = s.files l

theorem Named.buries {alert : AlertEvent D} {s : Store D} (named : Named cwd alert)
    (placed : (s.files (place cwd alert)).isSome = true) :
    ∃ t, s.rename (place cwd alert) (tombstone cwd alert) = some t ∧
      Buried cwd alert s.rows s t := by
  obtain ⟨content, found⟩ := Option.isSome_iff_exists.1 placed
  have moved : s.rename (place cwd alert) (tombstone cwd alert) = some _ :=
    Option.map_eq_some_iff.2 ⟨content, found, rfl⟩
  obtain ⟨rows, some', there, left, others⟩ := rename_cases moved
  exact ⟨_, moved, rows, left (named.place_ne_tombstone named), there ▸ some', others⟩

/-- Without its row, the snapshot is removed for good. -/
theorem Buried.erased {alert : AlertEvent D} {s t : Store D} (named : Named cwd alert)
    (buried : Buried cwd alert (s.rows.filter fun row => row.id ≠ alert.id) s t) :
    Removed cwd [alert] s (t.erase (tombstone cwd alert)) := by
  refine ⟨by simpa [Store.erase] using buried.rows, ?_, ?_⟩
  · intro other member
    rw [List.mem_singleton.1 member]
    exact ⟨by rw [erase_files (named.place_ne_tombstone named), buried.left], by simp [Store.erase]⟩
  · intro l elsewhere
    obtain ⟨place', tombstone'⟩ := elsewhere alert (by simp)
    rw [erase_files tombstone', buried.others l place' tombstone']

/-- **Without failures** the loop removes all it is given, if each of them passes the containment
check, is in the table and has its file. -/
theorem cleanupEach_smooth {alerts : List (AlertEvent D)} {s : Store D}
    (named : ∀ alert ∈ alerts, Named cwd alert) (distinct : (alerts.map (·.id)).Nodup)
    (inner : ∀ alert ∈ alerts, inside cwd snapshotDirectory alert.snapshotPath = true)
    (present : ∀ alert ∈ alerts, alert ∈ s.rows)
    (placed : ∀ alert ∈ alerts, (s.files (place cwd alert)).isSome = true) :
    Smooth (fun t => t = s) (cleanupEach cwd snapshotDirectory alerts)
      (fun ok t => ok = true ∧ Removed cwd alerts s t) := by
  induction alerts generalizing s with
  | nil =>
    refine .ret _ ?_
    rintro _ rfl
    exact ⟨rfl, by simp, by simp, fun _ _ => rfl⟩
  | cons alert rest ih =>
    have name := named alert (by simp)
    rw [List.map_cons, List.nodup_cons] at distinct
    unfold cleanupEach
    simp only
    rw [if_pos (inner alert (by simp))]
    refine .attempted (R := Buried cwd alert s.rows s) ?_ ?_
    · rintro t rfl
      exact name.buries (placed alert (by simp))
    · refine .asked (.attempted
        (R := Buried cwd alert (s.rows.filter fun row => row.id ≠ alert.id) s) ?_ ?_)
      · rintro t ⟨rows, left, found, others⟩
        have row : t.hasRow alert.id = true :=
          hasRow_iff.2 ⟨alert, rows ▸ present alert (by simp), rfl⟩
        exact ⟨_, if_pos row, by rw [rows], left, found, others⟩
      · refine (removeFile_smooth fun t buried => buried.found).bind fun removal => ?_
        refine .fixed ?_
        rintro _ ⟨rfl, t, buried, rfl⟩
        have first := buried.erased name
        have differs : ∀ other ∈ rest, other.id ≠ alert.id := fun other member same =>
          distinct.1 (same ▸ List.mem_map_of_mem member)
        change Smooth (fun u => u = t.erase (tombstone cwd alert)) _ _
        refine .asked ((ih (fun other member => named other (by simp [member])) distinct.2
          (fun other member => inner other (by simp [member])) ?_ ?_).conseq (fun _ same => same) ?_)
        · intro other member
          rw [first.rows]
          simpa using ⟨present other (by simp [member]), differs other member⟩
        · intro other member
          have name' := named other (by simp [member])
          rw [first.others]
          · exact placed other (by simp [member])
          · intro a only
            rw [List.mem_singleton.1 only]
            exact ⟨fun at' => differs other member (name'.id_eq_of_place name at'),
              name'.place_ne_tombstone name⟩
        · rintro ok t ⟨done, later⟩
          exact ⟨done, first.cons later⟩

/-- Of the rows there were, those of `alerts` are gone. -/
structure Lacks (rows alerts : List (AlertEvent D)) (t : Store D) : Prop where
  rows : t.rows = rows.filter fun row => row.id ∉ alerts.map (·.id)

theorem Lacks.remove {rows done : List (AlertEvent D)} {alert : AlertEvent D} {t u : Store D}
    (lacks : Lacks rows done t) (moved : t.remove alert.id = some u) : Lacks rows (done ++ [alert]) u := by
  constructor
  rw [(remove_cases moved).2, lacks.rows, List.filter_filter]
  refine List.filter_congr fun row _ => ?_
  simp [not_or, Bool.and_comm]

/-- Whatever fails, the rows that are gone are the first of those the loop is given. -/
theorem cleanupEach_front {alerts done rows : List (AlertEvent D)} :
    Triple (fun _ => True) (Lacks rows done) (cleanupEach cwd snapshotDirectory alerts)
      (fun _ t => ∃ n, Lacks rows (done ++ alerts.take n) t) := by
  induction alerts generalizing done with
  | nil => exact .ret _ fun _ _ lacks => ⟨0, by simpa using lacks⟩
  | cons alert rest ih =>
    have still : ∀ t : Store D, True → Lacks rows done t →
        ∃ n, Lacks rows (done ++ (alert :: rest).take n) t :=
      fun t _ lacks => ⟨0, by simpa using lacks⟩
    have one : ∀ t : Store D, True → Lacks rows (done ++ [alert]) t →
        ∃ n, Lacks rows (done ++ (alert :: rest).take n) t := fun t _ lacks => ⟨1, lacks⟩
    have renamed : ∀ (t u : Store D) {source target : Location}, Lacks rows done t →
        t.rename source target = some u → Lacks rows done u :=
      fun t u _ _ lacks moved => ⟨(rename_cases moved).1.trans lacks.rows⟩
    unfold cleanupEach
    simp only
    split
    · refine .attempted (fun t u _ lacks moved => ⟨trivial, renamed t u lacks moved⟩) ?_ (.ret _ still)
      refine .asked ?_ (.ret _ still)
      refine .attempted (fun t u _ lacks moved => ⟨trivial, lacks.remove moved⟩) ?_ ?_
      · refine (removeFile_triple (Q := fun _ => Lacks rows (done ++ [alert]))
          (fun _ _ lacks => ⟨trivial, ⟨lacks.rows⟩⟩) (fun _ _ lacks _ => lacks)
          (fun _ _ lacks => lacks)).bind fun removal => ?_
        cases removal with
        | removed =>
          refine .asked (ih.conseq (fun _ _ lacks => lacks) ?_) (.ret _ one)
          rintro _ t _ ⟨n, lacks⟩
          exact ⟨n + 1, by simpa using lacks⟩
        | missing => exact .ret _ one
        | failed => exact .ret _ one
      · refine (Triple.attempt (Q := fun _ => Lacks rows done)
          (fun t u _ lacks moved => ⟨trivial, renamed t u lacks moved⟩) fun _ _ lacks => lacks).bind
          fun _ => .ret _ still
    · exact .ret _ still

/-! ## The cleanup -/

/-- The containment check can pass: the directory is the root, or its text ends with the name of a
directory. -/
def Spelled (cwd snapshotDirectory : List Char) : Prop :=
  locate cwd snapshotDirectory = [] ∨ ends snapshotDirectory = false

instance : Decidable (Spelled cwd snapshotDirectory) := inferInstanceAs (Decidable (_ ∨ _))

theorem inside_final (timestampMs : Int) {id : List Char} (clean : CleanId id)
    (some' : snapshotDirectory ≠ []) :
    inside cwd snapshotDirectory (finalPath snapshotDirectory timestampMs id) = true ↔
      Spelled cwd snapshotDirectory := by
  have dates : Plain (utcDate timestampMs) := utcDate_plain timestampMs
  have path : normal cwd (finalPath snapshotDirectory timestampMs id) =
      locate cwd snapshotDirectory ++ [utcDate timestampMs, jpg id] := by
    have name : Plain (jpg id) := plain_of_clean clean (by decide) (by decide)
    have folder : dated snapshotDirectory timestampMs ≠ [] := join_ne_nil some' dates.head
    rw [finalPath, normal_join cwd folder name, dated, locate_join cwd some' dates, List.append_assoc]
    rfl
  have date : utcDate timestampMs ≠ [] := fun empty => by
    have solid := dates.dot
    rw [empty] at solid
    cases solid
  rw [inside, List.isPrefixOf_iff_prefix, path, normal_eq, Spelled]
  split
  · rename_i trailing
    rw [List.prefix_append_right_inj, List.cons_prefix_cons]
    simp [trailing.1, trailing.2, date.symm]
  · rename_i plain
    simp only [List.prefix_append, true_iff]
    by_contra other
    rw [not_or, Bool.not_eq_false] at other
    exact plain other

/-- The `keep` newest rows are left with their files, and of the others nothing. -/
structure Retained (cwd : List Char) (keep : Nat) (order : List (AlertEvent D)) (s t : Store D) : Prop where
  rows : t.rows.Perm (order.drop (order.length - keep))
  intact : ∀ row ∈ order.drop (order.length - keep), t.files (place cwd row) = s.files (place cwd row)
  gone : ∀ row ∈ order.take (order.length - keep),
    t.files (place cwd row) = none ∧ t.files (tombstone cwd row) = none

/-- What retention asks of a cleanup: without failures it returns true and retains the `keep` newest
rows, and where it returns false the rows that are gone are the oldest ones. -/
def Retains (cwd snapshotDirectory : List Char) (keep : Nat) (order : List (AlertEvent D))
    (s : Store D) : Prop :=
  (∀ answers, (∀ answer ∈ answers, answer = true) →
      ((cleanupOldest cwd snapshotDirectory keep).exec answers s).1 = true ∧
        Retained cwd keep order s ((cleanupOldest cwd snapshotDirectory keep).exec answers s).2.state) ∧
    ∀ answers, ((cleanupOldest cwd snapshotDirectory keep).exec answers s).1 = false →
      ∃ n, ((cleanupOldest cwd snapshotDirectory keep).exec answers s).2.state.rows.Perm (order.drop n)

section Cleanup

variable {keep : Nat} {order : List (AlertEvent D)} {s : Store D}

/-- The rows that the cleanup is to remove. -/
theorem Oldest.excess (oldest : Oldest s.rows order) (written : Written cwd snapshotDirectory s) :
    Store.oldestExcess keep s.rows = order.take (order.length - min keep (2 ^ 31 - 1)) := by
  rw [Store.oldestExcess, oldest.sorted written.unique, oldest.complete.length_eq]

theorem Oldest.distinct (oldest : Oldest s.rows order) (written : Written cwd snapshotDirectory s) :
    (order.map (·.id)).Nodup :=
  (oldest.complete.map _).nodup_iff.2 written.unique

theorem cleanupOldest_smooth (some' : snapshotDirectory ≠ []) (written : Written cwd snapshotDirectory s)
    (oldest : Oldest s.rows order)
    (passes : order.length ≤ min keep (2 ^ 31 - 1) ∨ Spelled cwd snapshotDirectory) :
    Smooth (fun t => t = s) (cleanupOldest cwd snapshotDirectory keep)
      (fun ok t => ok = true ∧ Removed cwd (order.take (order.length - min keep (2 ^ 31 - 1))) s t) := by
  have rows : ∀ row ∈ order.take (order.length - min keep (2 ^ 31 - 1)), row ∈ s.rows :=
    fun row member => oldest.complete.mem_iff.1 (List.mem_of_mem_take member)
  refine .asked (.reading ?_)
  rintro _ rfl
  rw [if_neg some', oldest.excess written]
  refine cleanupEach_smooth (fun row member => written.named row (rows row member)) ?_ ?_ rows
    fun row member => written.placed row (rows row member)
  · exact (oldest.distinct written).sublist ((List.take_sublist _ _).map _)
  · intro row member
    have spelled : Spelled cwd snapshotDirectory := by
      refine passes.resolve_left fun few => ?_
      rw [Nat.sub_eq_zero_of_le few] at member
      cases member
    rw [written.paths row (rows row member)]
    exact (inside_final _ (written.named row (rows row member)).clean some').2 spelled

/-- The containment check stops the cleanup at the first row. -/
theorem cleanupOldest_stopped (some' : snapshotDirectory ≠ [])
    (written : Written cwd snapshotDirectory s) (oldest : Oldest s.rows order)
    (many : min keep (2 ^ 31 - 1) < order.length) (spelled : ¬ Spelled cwd snapshotDirectory) :
    Smooth (fun t => t = s) (cleanupOldest cwd snapshotDirectory keep) (fun ok _ => ok = false) := by
  refine .asked (.reading ?_)
  rintro _ rfl
  rw [if_neg some', oldest.excess written]
  obtain ⟨n, size⟩ : ∃ n, order.length - min keep (2 ^ 31 - 1) = n + 1 := ⟨_, (Nat.succ_pred (by omega)).symm⟩
  cases order with
  | nil => cases many
  | cons row rest =>
    have member := oldest.complete.mem_iff.1 (List.mem_cons_self (a := row) (l := rest))
    have outside : inside cwd snapshotDirectory row.snapshotPath = false := by
      rw [written.paths row member, Bool.eq_false_iff]
      exact fun inner => spelled ((inside_final _ (written.named row member).clean some').1 inner)
    rw [size, List.take_succ_cons, cleanupEach]
    simp only [outside, Bool.false_eq_true, if_false]
    exact .ret _ fun _ _ => rfl

theorem Removed.retained {n : Nat} {t : Store D} (oldest : Oldest s.rows order)
    (written : Written cwd snapshotDirectory s) (removed : Removed cwd (order.take n) s t) :
    t.rows.Perm (order.drop n) ∧
      ∀ row ∈ order.drop n, t.files (place cwd row) = s.files (place cwd row) := by
  refine ⟨removed.rows ▸ oldest.without written.unique n, fun row member => removed.others _ ?_⟩
  intro other early
  have named := written.named row (oldest.complete.mem_iff.1 (List.mem_of_mem_drop member))
  have named' := written.named other (oldest.complete.mem_iff.1 (List.mem_of_mem_take early))
  have distinct := oldest.distinct written
  rw [← List.take_append_drop n order, List.map_append, List.nodup_append] at distinct
  refine ⟨fun same => ?_, named.place_ne_tombstone named'⟩
  exact distinct.2.2 _ (List.mem_map_of_mem early) _ (List.mem_map_of_mem member)
    (named'.id_eq_of_place named same.symm)

/-- **Retention works for the directories that end with a name.** For every directory that the
configuration accepts, every store that `persist` wrote under it and every `keep`: without failures
`cleanup_oldest` returns true and leaves exactly the `keep` newest rows with their files, and where
it returns false the rows that are gone are the oldest ones, if and only if there is nothing to
remove or the directory is the root or ends with a name, and not both `keep` and the number of rows
are beyond an `int`. -/
theorem retention_iff (some' : snapshotDirectory ≠ []) (written : Written cwd snapshotDirectory s)
    (oldest : Oldest s.rows order) :
    Retains cwd snapshotDirectory keep order s ↔
      (s.rows.length ≤ keep ∨ Spelled cwd snapshotDirectory) ∧
        (keep < 2 ^ 31 ∨ s.rows.length < 2 ^ 31) := by
  have size := oldest.complete.length_eq
  have front : ∀ answers, ∃ n,
      ((cleanupOldest cwd snapshotDirectory keep).exec answers s).2.state.rows.Perm (order.drop n) := by
    intro answers
    have lacks : Triple (fun _ => True) (fun t => t = s) (cleanupOldest cwd snapshotDirectory keep)
        (fun _ t => ∃ n, t.rows.Perm (order.drop n)) := by
      have untouched : ∀ t : Store D, True → t = s → ∃ n, t.rows.Perm (order.drop n) :=
        fun t _ same => ⟨0, same ▸ oldest.complete.symm⟩
      refine .asked (.reading fun t _ same => ?_) (.ret _ untouched)
      obtain rfl := same.symm
      rw [if_neg some', oldest.excess written]
      refine (@cleanupEach_front D cwd snapshotDirectory _ [] s.rows).conseq ?_ ?_
      · rintro _ _ rfl
        exact ⟨by simp⟩
      · rintro _ t _ ⟨n, lacks⟩
        rw [List.nil_append, List.take_take] at lacks
        exact ⟨_, lacks.rows ▸ oldest.without written.unique _⟩
    exact (lacks.exec answers trivial rfl).2.1
  constructor
  · rintro ⟨works, _⟩
    obtain ⟨returned, retained⟩ := works [] (by simp)
    have spelled : order.length ≤ min keep (2 ^ 31 - 1) ∨ Spelled cwd snapshotDirectory := by
      by_contra unspelled
      rw [not_or, Nat.not_le] at unspelled
      obtain ⟨_, stopped⟩ := cleanupOldest_stopped some' written oldest unspelled.1 unspelled.2
        ⟨[], s, []⟩ (by simp [Agrees]) rfl
      exact absurd (returned.symm.trans stopped) (by decide)
    obtain ⟨_, _, removed⟩ := cleanupOldest_smooth some' written oldest spelled
      ⟨[], s, []⟩ (by simp [Agrees]) rfl
    -- as many rows are left as the query was asked for
    have left := (removed.retained oldest written).1.length_eq.symm.trans retained.rows.length_eq
    rw [List.length_drop, List.length_drop] at left
    refine ⟨?_, by omega⟩
    rcases spelled with few | spelled
    · exact .inl (by omega)
    · exact .inr spelled
  · rintro ⟨spelled, bounded⟩
    have same : order.length - min keep (2 ^ 31 - 1) = order.length - keep := by omega
    refine ⟨fun answers agrees => ?_, fun answers _ => front answers⟩
    have passes : order.length ≤ min keep (2 ^ 31 - 1) ∨ Spelled cwd snapshotDirectory :=
      spelled.imp (fun few => by omega) id
    obtain ⟨_, returned, removed⟩ := cleanupOldest_smooth some' written oldest passes
      ⟨answers, s, []⟩ agrees rfl
    rw [same] at removed
    obtain ⟨rows, intact⟩ := removed.retained oldest written
    exact ⟨returned, rows, intact, removed.gone⟩

end Cleanup

/-- The first alert, as it is stored under the directory. -/
def storedUnder (snapshotDirectory : List Char) : AlertEvent ℚ where
  id := alertId 0 0 0 1
  timestampMs := 0
  snapshotPath := finalPath snapshotDirectory 0 (alertId 0 0 0 1)

/-- The table with this row, and its file. -/
def oneAlert (snapshotDirectory : List Char) : Store ℚ :=
  ⟨fun l => if l = place ['/'] (storedUnder snapshotDirectory) then some .torn else none,
    [storedUnder snapshotDirectory]⟩

theorem oneAlert_written (some' : snapshotDirectory ≠ []) :
    Written ['/'] snapshotDirectory (oneAlert snapshotDirectory) := by
  obtain ⟨parent, final, _⟩ := locate_final ['/'] 0 (alertId_clean 0 0 0 1) some'
  refine ⟨⟨fun row member => ?_, List.nodup_singleton _, fun row member => ?_⟩, fun row member => ?_⟩
  · rw [List.mem_singleton.1 member]
    exact ⟨alertId_clean 0 0 0 1, parent, final⟩
  · rw [List.mem_singleton.1 member]
    simp [oneAlert]
  · rw [List.mem_singleton.1 member]
    rfl

theorem oneAlert_oldest : Oldest (oneAlert snapshotDirectory).rows [storedUnder snapshotDirectory] :=
  ⟨.refl _, List.pairwise_singleton _ _⟩

/-- The next one. -/
def secondUnder (snapshotDirectory : List Char) : AlertEvent ℚ where
  id := alertId 1 0 0 2
  timestampMs := 1
  snapshotPath := finalPath snapshotDirectory 1 (alertId 1 0 0 2)

/-- The table with both rows, the newer one in front, and their files. -/
def twoAlerts (snapshotDirectory : List Char) : Store ℚ :=
  ⟨fun l =>
    if l = place ['/'] (storedUnder snapshotDirectory) then some .torn
    else if l = place ['/'] (secondUnder snapshotDirectory) then some .torn
    else none,
    [secondUnder snapshotDirectory, storedUnder snapshotDirectory]⟩

theorem twoAlerts_written (some' : snapshotDirectory ≠ []) :
    Written ['/'] snapshotDirectory (twoAlerts snapshotDirectory) := by
  obtain ⟨parent, final, _⟩ := locate_final ['/'] 0 (alertId_clean 0 0 0 1) some'
  obtain ⟨parent', final', _⟩ := locate_final ['/'] 1 (alertId_clean 1 0 0 2) some'
  have ids : [alertId 1 0 0 2, alertId 0 0 0 1].Nodup := by decide
  refine ⟨⟨?_, ids, ?_⟩, ?_⟩
  · simp only [twoAlerts, List.forall_mem_cons]
    exact ⟨⟨alertId_clean 1 0 0 2, parent', final'⟩, ⟨alertId_clean 0 0 0 1, parent, final⟩, by simp⟩
  · simp only [twoAlerts, List.forall_mem_cons, if_pos]
    refine ⟨?_, rfl, by simp⟩
    split <;> rfl
  · simp only [twoAlerts, List.forall_mem_cons]
    exact ⟨rfl, rfl, by simp⟩

theorem twoAlerts_oldest : Oldest (twoAlerts snapshotDirectory).rows
    [storedUnder snapshotDirectory, secondUnder snapshotDirectory] :=
  ⟨.swap _ _ _, List.pairwise_pair.2 (.inl Int.zero_lt_one)⟩

/-- Of two alerts under `/a` the newer one is kept. -/
theorem retention_removes : ∃ t : Store ℚ,
    t = ((cleanupOldest ['/'] ['/', 'a'] 1).exec [] (twoAlerts ['/', 'a'])).2.state ∧
      t.rows = [secondUnder ['/', 'a']] ∧
      (t.files (place ['/'] (secondUnder ['/', 'a']))).isSome = true ∧
      t.files (place ['/'] (storedUnder ['/', 'a'])) = none := by
  have retains : Retains ['/'] ['/', 'a'] 1 _ (twoAlerts ['/', 'a']) :=
    (retention_iff (by decide) (twoAlerts_written (by decide)) twoAlerts_oldest).2
      ⟨.inr (by decide +kernel), .inl (by decide)⟩
  obtain ⟨rows, intact, gone⟩ := (retains.1 [] (by simp)).2
  refine ⟨_, rfl, List.perm_singleton.1 rows, ?_, (gone _ (by simp)).1⟩
  rw [intact _ (by simp)]
  exact (twoAlerts_written (by decide)).placed _ (by simp [twoAlerts])

/-- Under `/a/` not even an only alert is removed: the cleanup returns false, although nothing
fails. -/
theorem trailing_slash_stops : Written ['/'] ['/', 'a', '/'] (oneAlert ['/', 'a', '/']) ∧
    Oldest (oneAlert ['/', 'a', '/']).rows [storedUnder ['/', 'a', '/']] ∧
    ¬ Retains ['/'] ['/', 'a', '/'] 0 [storedUnder ['/', 'a', '/']] (oneAlert ['/', 'a', '/']) := by
  refine ⟨oneAlert_written (by decide), oneAlert_oldest, fun retains => ?_⟩
  have returned := (retains.1 [] (by simp)).1
  revert returned
  decide +kernel

end SkaiEdge.Storage
