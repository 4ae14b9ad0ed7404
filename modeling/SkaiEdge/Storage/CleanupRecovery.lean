import SkaiEdge.Storage.AlertIntegrity

/-!
# Recovery after a cleanup that was cut off

`cleanup_oldest` renames a snapshot to its tombstone, deletes the row, and removes the
tombstone; `reconcile_deletions` reads the row's id off the tombstone's name and moves the file
back or removes it. `Halfway` links the three states of a file to the two states of its row, from
the store `s` that the cleanup found on: it holds in every state the cleanup passes through and in
every state the recovery passes through. A recovery that returns true has met every tombstone,
so what is left is `Recovered`, and there is nothing for another one to do.

One name defeats it: a file `<id>.deleting.deleting` of a stored id is renamed to
`<id>.deleting` and becomes a tombstone of no snapshot (`Unnested` excludes it).
-/

namespace SkaiEdge.Storage

open SkaiEdge.Lib SkaiEdge.Lib.Path SkaiEdge.Lib.Script SkaiEdge.Inference SkaiEdge.Alerts

variable {D : Type}

/-- Each row's snapshot is at its path; ids are distinct and the files are named after them. -/
structure Settled (cwd : List Char) (s : Store D) : Prop where
  named : ∀ row ∈ s.rows, Named cwd row
  unique : (s.rows.map (·.id)).Nodup
  placed : ∀ row ∈ s.rows, (s.files (place cwd row)).isSome = true

/-- No file below `root` is named `<id>.deleting.deleting` after a stored id. -/
def Unnested (root : Location) (s : Store D) : Prop :=
  ∀ row ∈ s.rows, ∀ l, Below root l → l.getLastD [] = row.id ++ deleting ++ deleting → s.files l = none

/-- What the iterator over the directory `root` yields: every file that is below it. -/
def Lists (root : Location) (s : Store D) : Option (List Location) → Prop
  | none => ∀ l, Below root l → s.files l = none
  | some entries => (∀ entry ∈ entries, Below root entry) ∧
      ∀ l, Below root l → (s.files l).isSome = true → l ∈ entries

/-- **What cleanup and recovery make of the store `s`**, at any point. -/
structure Halfway (cwd : List Char) (root : Location) (s u : Store D) : Prop where
  rows : ∀ row ∈ u.rows, row ∈ s.rows
  kept : ∀ row ∈ u.rows, (u.files (place cwd row)).isSome = true ∨
    (u.files (tombstone cwd row)).isSome = true ∧ Below root (tombstone cwd row)
  own : ∀ row ∈ u.rows, ∀ content,
    u.files (place cwd row) = some content ∨ u.files (tombstone cwd row) = some content →
      s.files (place cwd row) = some content ∨ s.files (tombstone cwd row) = some content
  gone : ∀ row ∈ s.rows, row ∉ u.rows →
    u.files (place cwd row) = none ∧ Below root (tombstone cwd row)
  unnested : Unnested root u

section Steps

variable {cwd : List Char} {root : Location} {s u v : Store D} {row row' : AlertEvent D}

theorem Settled.start (settled : Settled cwd s) (unnested : Unnested root s) : Halfway cwd root s s :=
  ⟨fun _ member => member, fun row member => .inl (settled.placed row member),
    fun _ _ _ found => found, fun _ member gone => absurd member gone, unnested⟩

theorem Settled.eq_of_id (settled : Settled cwd s) (member : row ∈ s.rows) (member' : row' ∈ s.rows)
    (same : row.id = row'.id) : row = row' :=
  List.inj_on_of_nodup_map settled.unique member member' same

/-- Where a rename leaves the two files of a row: it swaps them, or touches neither. -/
inductive Moves (cwd : List Char) (root : Location) (u : Store D) (source target : Location)
    (row : AlertEvent D) : Prop where
  | away (member : row ∈ u.rows) (source' : place cwd row = source) (target' : tombstone cwd row = target)
      (below : Below root (tombstone cwd row))
  | back (member : row ∈ u.rows) (source' : tombstone cwd row = source) (target' : place cwd row = target)
  | other (place' : place cwd row ≠ source ∧ place cwd row ≠ target)
      (tombstone' : tombstone cwd row ≠ source ∧ tombstone cwd row ≠ target)

theorem Halfway.rename {source target : Location} (half : Halfway cwd root s u) (apart : source ≠ target)
    (each : ∀ row ∈ s.rows, Moves cwd root u source target row)
    (bare : ∀ row ∈ u.rows, target.getLastD [] ≠ row.id ++ deleting ++ deleting)
    (moved : u.rename source target = some v) : Halfway cwd root s v := by
  obtain ⟨rows, found, there, left, others⟩ := rename_cases moved
  refine ⟨rows ▸ half.rows, ?_, ?_, ?_, ?_⟩
  · intro row member
    rw [rows] at member
    cases each row (half.rows row member) with
    | away _ _ target' below => exact .inr ⟨by rw [target', there]; exact found, below⟩
    | back _ _ target' => exact .inl (by rw [target', there]; exact found)
    | other place' tombstone' =>
      rw [others _ place'.1 place'.2, others _ tombstone'.1 tombstone'.2]
      exact half.kept row member
  · intro row member content
    rw [rows] at member
    have own := half.own row member content
    cases each row (half.rows row member) with
    | away _ source' target' _ =>
      rw [source', target'] at own ⊢
      rw [there, left apart]
      rintro (none' | at')
      · cases none'
      · exact own (.inl at')
    | back _ source' target' =>
      rw [source', target'] at own ⊢
      rw [there, left apart]
      rintro (at' | none')
      · exact own (.inr at')
      · cases none'
    | other place' tombstone' =>
      rw [others _ place'.1 place'.2, others _ tombstone'.1 tombstone'.2]
      exact own
  · intro row member removed
    rw [rows] at removed
    obtain ⟨empty, below⟩ := half.gone row member removed
    cases each row member with
    | away there' => exact absurd there' removed
    | back there' => exact absurd there' removed
    | other place' _ => exact ⟨by rw [others _ place'.1 place'.2, empty], below⟩
  · intro row member l below name
    rw [rows] at member
    by_cases from' : l = source
    · rw [from', left apart]
    · have other : l ≠ target := fun at' => bare row member (at' ▸ name)
      rw [others l from' other]
      exact half.unnested row member l below name

theorem Halfway.erase {location : Location} (half : Halfway cwd root s u)
    (nobody : ∀ row ∈ u.rows, place cwd row ≠ location ∧ tombstone cwd row ≠ location) :
    Halfway cwd root s (u.erase location) := by
  have empties : ∀ l, u.files l = none → (u.erase location).files l = none := by
    intro l empty
    by_cases same : l = location
    · simp [Store.erase, same]
    · rw [erase_files same, empty]
  refine ⟨half.rows, ?_, ?_, ?_, ?_⟩
  · intro row member
    rw [erase_files (nobody row member).1, erase_files (nobody row member).2]
    exact half.kept row member
  · intro row member
    rw [erase_files (nobody row member).1, erase_files (nobody row member).2]
    exact half.own row member
  · intro row member removed
    obtain ⟨empty, below⟩ := half.gone row member removed
    exact ⟨empties _ empty, below⟩
  · exact fun row member l below name => empties l (half.unnested row member l below name)

/-- The row is deleted while its snapshot is at the tombstone. -/
theorem Halfway.remove (settled : Settled cwd s) (half : Halfway cwd root s u) (member : row ∈ s.rows)
    (empty : u.files (place cwd row) = none) (below : Below root (tombstone cwd row))
    (moved : u.remove row.id = some v) : Halfway cwd root s v := by
  obtain ⟨files, rows⟩ := remove_cases moved
  have sub : ∀ row ∈ v.rows, row ∈ u.rows := by
    rw [rows]
    exact fun row member => List.mem_of_mem_filter member
  refine ⟨fun row member => half.rows row (sub row member), ?_, ?_, ?_, ?_⟩
  · rw [files]
    exact fun row member => half.kept row (sub row member)
  · rw [files]
    exact fun row member => half.own row (sub row member)
  · rw [files]
    intro row' member' removed
    by_cases still : row' ∈ u.rows
    · have same : row'.id = row.id := by
        by_contra other
        exact removed (by rw [rows]; simp [still, other])
      rw [settled.eq_of_id member' member same]
      exact ⟨empty, below⟩
    · exact half.gone row' member' still
  · intro row' member' l
    rw [files]
    exact half.unnested row' (sub row' member') l

/-- A rename between the two files of a row touches no other row's. -/
theorem Settled.moves (settled : Settled cwd s) (member : row ∈ s.rows) (present : row ∈ u.rows)
    (below : Below root (tombstone cwd row)) :
    ∀ row' ∈ s.rows, Moves cwd root u (place cwd row) (tombstone cwd row) row' ∧
      Moves cwd root u (tombstone cwd row) (place cwd row) row' := by
  intro row' member'
  have named := settled.named row member
  have named' := settled.named row' member'
  by_cases same : row' = row
  · subst same
    exact ⟨.away present rfl rfl below, .back present rfl rfl⟩
  · have differs : row'.id ≠ row.id := fun id => same (settled.eq_of_id member' member id)
    have places : place cwd row' ≠ place cwd row := fun at' =>
      differs (named'.id_eq_of_place named at')
    have tombstones : tombstone cwd row' ≠ tombstone cwd row := fun at' =>
      differs (named'.id_eq_of_tombstone named at').1
    have cross := named'.place_ne_tombstone named
    have cross' := (named.place_ne_tombstone named').symm
    exact ⟨.other ⟨places, cross⟩ ⟨cross', tombstones⟩, .other ⟨cross, places⟩ ⟨tombstones, cross'⟩⟩

/-- Neither file of a row has a nested name. -/
theorem Named.bare (named : Named cwd row) (clean : CleanId row'.id) :
    (place cwd row).getLastD [] ≠ row'.id ++ deleting ++ deleting ∧
      (tombstone cwd row).getLastD [] ≠ row'.id ++ deleting ++ deleting := by
  obtain ⟨parent, placed, buried⟩ := named.places
  rw [placed, buried, List.getLastD_concat, List.getLastD_concat, List.append_assoc]
  constructor
  · intro name
    rw [jpg_eq] at name
    exact absurd (Text.append_stop_inj named.clean.dot clean.dot name).2 (by decide)
  · intro name
    rw [tombstone_name] at name
    exact absurd (Text.append_stop_inj named.clean.dot clean.dot name).2 (by decide)

end Steps

section Scripts

variable {cwd : List Char} {root : Location} {s : Store D}

/-- **The cleanup** passes through halfway states only, whatever fails. -/
theorem cleanupEach_halfway {snapshotDirectory : List Char} (settled : Settled cwd s)
    {alerts : List (AlertEvent D)} (members : ∀ alert ∈ alerts, alert ∈ s.rows)
    (inner : ∀ alert ∈ s.rows, inside cwd snapshotDirectory alert.snapshotPath = true →
      Below root (tombstone cwd alert)) :
    Triple (Halfway cwd root s) (fun _ => True) (cleanupEach cwd snapshotDirectory alerts)
      (fun _ _ => True) := by
  induction alerts with
  | nil => exact .ret _ fun _ _ _ => trivial
  | cons alert rest ih =>
    have member := members alert (by simp)
    have named := settled.named alert member
    have apart := named.place_ne_tombstone named
    unfold cleanupEach
    simp only
    split
    · rename_i within
      have below := inner alert member within
      -- quarantined: the file is at the tombstone, and the row is still there
      refine .attempted (R := fun u => u.files (place cwd alert) = none ∧ alert ∈ u.rows) ?_ ?_
        (.ret _ fun _ _ _ => trivial)
      · intro u v half _ (moved : u.rename (place cwd alert) (tombstone cwd alert) = some v)
        obtain ⟨rows, found, _, left, _⟩ := rename_cases moved
        have present : alert ∈ u.rows := by
          by_contra removed
          rw [(half.gone alert member removed).1] at found
          cases found
        refine ⟨half.rename apart (fun row' member' => (settled.moves member present below row' member').1)
          (fun row' member' => (named.bare (settled.named row' (half.rows row' member')).clean).2) moved,
          left apart, rows ▸ present⟩
      · refine .asked ?_ (.ret _ fun _ _ _ => trivial)
        refine .attempted (R := fun u => ∀ row ∈ u.rows, row.id ≠ alert.id) ?_ ?_ ?_
        · intro u v half pre moved
          refine ⟨half.remove settled member pre.1 below moved, ?_⟩
          rw [(remove_cases moved).2]
          intro row kept
          simpa using (List.mem_filter.1 kept).2
        · refine (removeFile_triple (Q := fun _ _ => True) ?_ (fun _ _ _ _ => trivial)
            (fun _ _ _ => trivial)).bind fun removal => ?_
          · intro u half removed
            refine ⟨half.erase fun row kept => ?_, trivial⟩
            have named' := settled.named row (half.rows row kept)
            exact ⟨named'.place_ne_tombstone named, fun buried =>
              removed row kept (named'.id_eq_of_tombstone named buried).1⟩
          · cases removal with
            | removed =>
              refine .asked (ih fun alert later => members alert (by simp [later])) ?_
              exact .ret _ fun _ _ _ => trivial
            | missing => exact .ret _ fun _ _ _ => trivial
            | failed => exact .ret _ fun _ _ _ => trivial
        · refine (Triple.attempt (Q := fun _ _ => True) ?_ (fun _ _ _ => trivial)).bind
            fun _ => .ret _ fun _ _ _ => trivial
          intro u v half pre moved
          refine ⟨half.rename apart.symm
            (fun row' member' => (settled.moves member pre.2 below row' member').2)
            (fun row' member' => (named.bare (settled.named row' (half.rows row' member')).clean).1) moved,
            trivial⟩
    · exact .ret _ fun _ _ _ => trivial

/-- A snapshot that the cleanup takes to be inside the directory has its tombstone in there. -/
theorem Settled.inner {snapshotDirectory : List Char} (settled : Settled cwd s)
    (folder : s.files (locate cwd snapshotDirectory) = none) :
    ∀ alert ∈ s.rows, inside cwd snapshotDirectory alert.snapshotPath = true →
      Below (locate cwd snapshotDirectory) (tombstone cwd alert) := by
  intro alert member within
  obtain ⟨parent, placed, buried⟩ := (settled.named alert member).places
  have front : locate cwd snapshotDirectory <+: place cwd alert :=
    locate_prefix (List.isPrefixOf_iff_prefix.1 within)
  have below : Below (locate cwd snapshotDirectory) (place cwd alert) := by
    refine ⟨front, fun same => ?_⟩
    have found := settled.placed alert member
    rw [← same, folder] at found
    cases found
  rw [placed] at below
  rw [buried]
  exact below.sibling _

theorem cleanupOldest_halfway {snapshotDirectory : List Char} (keep : Nat) (settled : Settled cwd s)
    (folder : s.files (locate cwd snapshotDirectory) = none) :
    Triple (Halfway cwd (locate cwd snapshotDirectory) s) (fun _ => True)
      (cleanupOldest cwd snapshotDirectory keep) (fun _ _ => True) := by
  refine .asked ?_ (.ret _ fun _ _ _ => trivial)
  refine .reading fun u half _ => ?_
  split
  · exact .ret _ fun _ _ _ => trivial
  · refine (cleanupEach_halfway settled ?_ (settled.inner folder)).conseq (fun _ _ _ => trivial)
      fun _ _ _ ends => ends
    exact fun alert member => half.rows alert (mem_oldestExcess member)

/-- The tombstones below `root` are among the entries still to come. -/
def Pending (root : Location) (entries : List Location) (u : Store D) : Prop :=
  ∀ l, Below root l → (u.files l).isSome = true → extension (l.getLastD []) = deleting → l ∈ entries

theorem Pending.skip {entry : Location} {rest : List Location} {u : Store D}
    (pending : Pending root (entry :: rest) u)
    (other : (u.files entry).isSome = true → extension (entry.getLastD []) ≠ deleting) :
    Pending root rest u := by
  intro l below found tagged
  rcases List.mem_cons.1 (pending l below found tagged) with rfl | later
  · exact absurd tagged (other found)
  · exact later

/-- The tombstone of a stored id is its row's, or no row's at all. -/
theorem Halfway.tombstone_moves {u : Store D} {row : AlertEvent D} {parent : Location} {name : List Char}
    (settled : Settled cwd s) (half : Halfway cwd root s u) (member : row ∈ u.rows)
    (id : row.id = stem (stem name)) (ends : extension name = deleting) :
    ∀ row' ∈ s.rows, Moves cwd root u (parent ++ [name]) (parent ++ [stem name]) row' := by
  intro row' member'
  have named' := settled.named row' member'
  by_cases buried : tombstone cwd row' = parent ++ [name]
  · obtain ⟨placed, id'⟩ := named'.of_tombstone buried
    have same := settled.eq_of_id member' (half.rows row member) (id'.symm.trans id.symm)
    exact .back (same ▸ member) buried placed
  · refine .other ⟨named'.place_untagged ends, ?_⟩ ⟨buried, ?_⟩
    · exact fun placed => buried (named'.to_tombstone ends placed)
    · -- a tombstone under the suffix would put a dot into the id
      intro nested
      obtain ⟨above, _, buried'⟩ := named'.places
      rw [buried'] at nested
      have inner := (last_eq nested).2
      rw [← inner, (stem_deleting (by simp [jpg])).1] at id
      exact (settled.named row (half.rows row member)).clean.dot (by simp [id, jpg])

theorem Halfway.restored_bare {u : Store D} {row : AlertEvent D} {name : List Char}
    (settled : Settled cwd s) (half : Halfway cwd root s u) (member : row ∈ u.rows)
    (id : row.id = stem (stem name)) :
    ∀ row' ∈ u.rows, stem name ≠ row'.id ++ deleting ++ deleting := by
  intro row' member' nested
  have clean' := (settled.named row' (half.rows row' member')).clean
  rw [nested, (stem_deleting (by simp [clean'.some'])).1] at id
  exact (settled.named row (half.rows row member)).clean.dot (by simp [id, deleting])

/-- The file moved back is no tombstone any more. -/
theorem Pending.restore {u v : Store D} {row : AlertEvent D} {parent : Location} {name : List Char}
    {rest : List Location} (pending : Pending root ((parent ++ [name]) :: rest) u)
    (unnested : Unnested root u) (below : Below root (parent ++ [name])) (member : row ∈ u.rows)
    (id : row.id = stem (stem name)) (ends : extension name = deleting)
    (moved : u.rename (parent ++ [name]) (parent ++ [stem name]) = some v) : Pending root rest v := by
  obtain ⟨_, found, _, left, others⟩ := rename_cases moved
  intro l within there tagged
  have other : l ≠ parent ++ [name] := by
    rintro rfl
    rw [left (tagged_ne_stem parent ends)] at there
    cases there
  have final : l ≠ parent ++ [stem name] := by
    rintro rfl
    rw [List.getLastD_concat] at tagged
    have nested : row.id ++ deleting ++ deleting = name := by
      rw [id, stem_tagged tagged, stem_tagged ends]
    rw [unnested row member _ below (by simp [nested])] at found
    cases found
  rw [others l other final] at there
  exact (List.mem_cons.1 (pending l within there tagged)).resolve_left other

/-- **One tombstone** met: it is gone, and no other has come in its place. -/
theorem settle_halfway {entry : Location} {rest : List Location} {rows : List (AlertEvent D)}
    (settled : Settled cwd s) (below : Below root entry)
    (tagged : extension (entry.getLastD []) = deleting) :
    Triple (Halfway cwd root s) (fun u => u.rows = rows ∧ Pending root (entry :: rest) u) (settle entry)
      (fun ok u => u.rows = rows ∧ (ok = true → Pending root rest u)) := by
  obtain ⟨parent, name, rfl, ends⟩ := tagged_shape tagged
  unfold settle
  simp only [List.getLastD_concat, List.dropLast_concat]
  refine .asked ?_ (.ret _ fun u _ pre => ⟨pre.1, by simp⟩)
  refine .reading fun u _ pre => ?_
  split
  · rename_i stored
    obtain ⟨row, member, id⟩ := hasRow_iff.1 stored
    refine Triple.attempt ?_ fun _ _ same => ⟨same ▸ pre.1, by simp⟩
    rintro u v half rfl moved
    have restored := pre.2.restore half.unnested below member id ends moved
    refine ⟨half.rename (tagged_ne_stem parent ends) (half.tombstone_moves settled member id ends) ?_
      moved, (rename_cases moved).1.trans pre.1, fun _ => restored⟩
    simpa using half.restored_bare settled member id
  · rename_i rowless
    refine (removeFile_triple (Q := fun removal u => u.rows = rows ∧
      (removal ≠ .failed → Pending root rest u)) ?_ ?_ ?_).bind fun removal => ?_
    · rintro u half rfl
      refine ⟨half.erase fun row member => ?_, pre.1, fun _ => ?_⟩
      · have named := settled.named row (half.rows row member)
        refine ⟨named.place_untagged ends, fun buried => rowless ?_⟩
        exact hasRow_iff.2 ⟨row, member, (named.of_tombstone buried).2.symm⟩
      · intro l within there tagged
        have other : l ≠ parent ++ [name] := by
          rintro rfl
          simp [Store.erase] at there
        rw [erase_files other] at there
        exact (List.mem_cons.1 (pre.2 l within there tagged)).resolve_left other
    · rintro u _ rfl empty
      exact ⟨pre.1, fun _ => pre.2.skip (by simp [empty])⟩
    · rintro u _ rfl
      exact ⟨pre.1, by simp⟩
    · cases removal with
      | removed => exact .ret _ fun _ _ ends => ⟨ends.1, fun _ => ends.2 (by decide)⟩
      | missing => exact .ret _ fun _ _ ends => ⟨ends.1, fun _ => ends.2 (by decide)⟩
      | failed => exact .ret _ fun _ _ ends => ⟨ends.1, by simp⟩

theorem reconcileEach_halfway {entries : List Location} {rows : List (AlertEvent D)}
    (settled : Settled cwd s) (below : ∀ entry ∈ entries, Below root entry) :
    Triple (Halfway cwd root s) (fun u => u.rows = rows ∧ Pending root entries u)
      (reconcileEach entries) (fun ok u => u.rows = rows ∧ (ok = true → Pending root [] u)) := by
  induction entries with
  | nil => exact .ret _ fun _ _ pre => ⟨pre.1, fun _ => pre.2⟩
  | cons entry rest ih =>
    have later := ih fun entry member => below entry (by simp [member])
    unfold reconcileEach
    refine .asked ?_ (.ret _ fun _ _ pre => ⟨pre.1, by simp⟩)
    refine .reading fun u _ pre => ?_
    split
    · rename_i tagged
      simp only [Bool.and_eq_true, decide_eq_true_eq] at tagged
      refine ((settle_halfway settled (below entry (by simp)) tagged.2).conseq
        (fun _ _ same => same ▸ pre) fun _ _ _ ends => ends).bind fun settled' => ?_
      cases settled' with
      | true =>
        refine .asked (later.conseq (fun _ _ pre => ⟨pre.1, pre.2 rfl⟩) fun _ _ _ ends => ends) ?_
        exact .ret _ fun _ _ pre => ⟨pre.1, by simp⟩
      | false => exact .ret _ fun _ _ pre => ⟨pre.1, by simp⟩
    · rename_i untagged
      simp only [Bool.and_eq_true, decide_eq_true_eq, not_and] at untagged
      exact later.conseq (fun _ _ same => same ▸ ⟨pre.1, pre.2.skip untagged⟩) fun _ _ _ ends => ends

/-- **The recovery** passes through halfway states only; if it returns true no tombstone is left. -/
theorem reconcileDeletions_halfway {listing : Option (List Location)} {t : Store D}
    (settled : Settled cwd s) (listed : Lists root t listing) :
    Triple (Halfway cwd root s) (fun u => u = t) (reconcileDeletions listing)
      (fun ok u => u.rows = t.rows ∧ (ok = true → Pending root [] u)) := by
  unfold reconcileDeletions
  refine .asked ?_ (.ret _ fun _ _ same => ⟨same ▸ rfl, by simp⟩)
  cases listing with
  | none =>
    refine .ret _ fun u _ same => ⟨same ▸ rfl, fun _ l below found _ => ?_⟩
    rw [same, listed l below] at found
    cases found
  | some entries =>
    refine .asked ?_ (.ret _ fun _ _ same => ⟨same ▸ rfl, by simp⟩)
    refine (reconcileEach_halfway settled listed.1).conseq (fun u _ same => ?_) fun _ _ _ ends => ends
    rw [same]
    exact ⟨rfl, fun l below found _ => listed.2 l below found⟩

/-- **Without tombstones** a recovery changes nothing. -/
theorem reconcileDeletions_idle {listing : Option (List Location)} {t : Store D}
    (swept : Pending root [] t) (listed : Lists root t listing) :
    Triple (fun u => u = t) (fun _ => True) (reconcileDeletions listing) (fun _ _ => True) := by
  unfold reconcileDeletions
  refine .asked ?_ (.ret _ fun _ _ _ => trivial)
  cases listing with
  | none => exact .ret _ fun _ _ _ => trivial
  | some entries =>
    refine .asked ?_ (.ret _ fun _ _ _ => trivial)
    have below := listed.1
    clear listed
    induction entries with
    | nil => exact .ret _ fun _ _ _ => trivial
    | cons entry rest ih =>
      unfold reconcileEach
      refine .asked ?_ (.ret _ fun _ _ _ => trivial)
      refine .reading fun u same _ => ?_
      have untagged : ¬ ((u.files entry).isSome && extension (entry.getLastD []) = deleting) = true := by
        rw [same]
        simp only [Bool.and_eq_true, decide_eq_true_eq, not_and]
        exact fun found tagged => List.not_mem_nil (swept entry (below entry (by simp)) found tagged)
      rw [if_neg untagged]
      exact (ih fun entry member => below entry (by simp [member])).conseq (fun _ _ _ => trivial)
        fun _ _ _ ends => ends

end Scripts

/-- What a recovery `u` of the state `t` leaves, where the cleanup started from `s`: no tombstone,
every row of `t` with its own file at its path, and none of a row that is gone. -/
structure Recovered (cwd : List Char) (root : Location) (s t u : Store D) : Prop where
  rows : u.rows = t.rows
  swept : ∀ l, Below root l → (u.files l).isSome = true → extension (l.getLastD []) ≠ deleting
  placed : ∀ row ∈ t.rows, ∃ content, u.files (place cwd row) = some content ∧
    (s.files (place cwd row) = some content ∨ s.files (tombstone cwd row) = some content)
  gone : ∀ row ∈ s.rows, row ∉ t.rows →
    u.files (place cwd row) = none ∧ u.files (tombstone cwd row) = none

theorem Halfway.recovered {cwd : List Char} {root : Location} {s t u : Store D}
    (settled : Settled cwd s) (half : Halfway cwd root s u) (rows : u.rows = t.rows)
    (swept : Pending root [] u) : Recovered cwd root s t u := by
  have unburied : ∀ row ∈ s.rows, Below root (tombstone cwd row) → u.files (tombstone cwd row) = none := by
    intro row member below
    obtain ⟨parent, _, buried⟩ := (settled.named row member).places
    have tagged : extension ((tombstone cwd row).getLastD []) = deleting := by
      rw [buried, List.getLastD_concat]
      exact (stem_deleting (by simp [jpg])).2
    by_contra found
    exact List.not_mem_nil (swept _ below (Option.isSome_iff_ne_none.2 found) tagged)
  refine ⟨rows, fun l below found tagged => List.not_mem_nil (swept l below found tagged), ?_, ?_⟩
  · intro row member
    rw [← rows] at member
    have there : (u.files (place cwd row)).isSome = true := by
      rcases half.kept row member with placed | ⟨buried, below⟩
      · exact placed
      · rw [unburied row (half.rows row member) below] at buried
        cases buried
    obtain ⟨content, found⟩ := Option.isSome_iff_exists.1 there
    exact ⟨content, found, half.own row member content (.inl found)⟩
  · intro row member removed
    obtain ⟨empty, below⟩ := half.gone row member (rows ▸ removed)
    exact ⟨empty, unburied row member below⟩

/-- **Cleanup is crash-consistent.** Cut off behind any operation, or before the first, and
recovered by a `reconcile_deletions` that returns true, it has left no tombstone in the directory,
every surviving row's file at its path and no file of a removed row; and another
`reconcile_deletions` changes nothing. -/
theorem cleanup_crash_consistent {cwd snapshotDirectory : List Char} {s t : Store D} {keep : Nat}
    {answers answers' : List Bool} {listing : Option (List Location)} (settled : Settled cwd s)
    (folder : s.files (locate cwd snapshotDirectory) = none)
    (unnested : Unnested (locate cwd snapshotDirectory) s)
    (crashed : t = s ∨ t ∈ ((cleanupOldest cwd snapshotDirectory keep).exec answers s).2.passed)
    (listed : Lists (locate cwd snapshotDirectory) t listing)
    (returned : ((reconcileDeletions listing).exec answers' t).1 = true) :
    Recovered cwd (locate cwd snapshotDirectory) s t
        ((reconcileDeletions listing).exec answers' t).2.state ∧
      ∀ answers'' listing', Lists (locate cwd snapshotDirectory)
          ((reconcileDeletions listing).exec answers' t).2.state listing' →
        ((reconcileDeletions listing').exec answers''
          ((reconcileDeletions listing).exec answers' t).2.state).2.state =
            ((reconcileDeletions listing).exec answers' t).2.state := by
  have start := settled.start unnested
  obtain ⟨_, _, passed⟩ := (cleanupOldest_halfway keep settled folder).exec answers start trivial
  have half : Halfway cwd (locate cwd snapshotDirectory) s t := by
    rcases crashed with rfl | cut
    · exact start
    · exact passed t cut
  obtain ⟨half', ⟨rows, swept⟩, _⟩ := (reconcileDeletions_halfway settled listed).exec answers' half rfl
  refine ⟨half'.recovered settled rows (swept returned), fun answers'' listing' listed' => ?_⟩
  exact ((reconcileDeletions_idle (swept returned) listed').exec answers'' rfl trivial).1

/-- The first alert at the time and the frame number zero. -/
def first : AlertEvent ℚ where
  id := alertId 0 0 0 1
  timestampMs := 0
  snapshotPath := finalPath ['/', 'a'] 0 (alertId 0 0 0 1)

/-- The directory of the runs below. -/
def folder : Location := locate ['/'] ['/', 'a']

/-- Its row, and the given files. -/
def holding (files : List Location) : Store ℚ :=
  ⟨fun l => if l ∈ files then some .torn else none, [first]⟩

/-- The same behind the first rename of a cleanup. -/
def quarantined (files : List Location) : Store ℚ :=
  ⟨Function.update (Function.update (holding files).files (place ['/'] first) none)
    (tombstone ['/'] first) (some .torn), [first]⟩

theorem first_named : Named ['/'] first := by
  obtain ⟨parent, final, _⟩ := locate_final ['/'] 0 (alertId_clean 0 0 0 1)
    (show ['/', 'a'] ≠ [] by decide)
  exact ⟨alertId_clean 0 0 0 1, parent, final⟩

theorem holding_settled {files : List Location} (there : place ['/'] first ∈ files) :
    Settled ['/'] (holding files) where
  named row member := List.mem_singleton.1 member ▸ first_named
  unique := List.nodup_singleton _
  placed row member := by
    rw [List.mem_singleton.1 member]
    simp [holding, there]

theorem quarantined_lists {files entries : List Location} (below : ∀ entry ∈ entries, Below folder entry)
    (buried : tombstone ['/'] first ∈ entries)
    (others : ∀ l ∈ files, l ≠ place ['/'] first → l ∈ entries) :
    Lists folder (quarantined files) (some entries) := by
  refine ⟨below, fun l _ found => ?_⟩
  by_cases at' : l = tombstone ['/'] first
  · exact at' ▸ buried
  · by_cases at'' : l = place ['/'] first
    · simp [quarantined, at'', first_named.place_ne_tombstone first_named] at found
    · refine others l ?_ at''
      simpa [quarantined, holding, at', at''] using found

/-- Cut off behind its first rename, the cleanup of one alert is taken back. -/
theorem cleanup_crash_consistent_renamed :
    quarantined [place ['/'] first] ∈
        ((cleanupOldest ['/'] ['/', 'a'] 0).exec [] (holding [place ['/'] first])).2.passed ∧
      Recovered ['/'] folder (holding [place ['/'] first]) (quarantined [place ['/'] first])
        ((reconcileDeletions (some [tombstone ['/'] first])).exec []
          (quarantined [place ['/'] first])).2.state := by
  have cut : quarantined [place ['/'] first] ∈
      ((cleanupOldest ['/'] ['/', 'a'] 0).exec [] (holding [place ['/'] first])).2.passed :=
    List.mem_of_getElem? (i := 0) rfl
  have unnested : Unnested folder (holding [place ['/'] first]) := by
    intro row member l _ name
    rw [List.mem_singleton.1 member] at name
    have other : l ≠ place ['/'] first := fun at' =>
      (first_named.bare first_named.clean).1 (at' ▸ name)
    simp [holding, other]
  have listed : Lists folder (quarantined [place ['/'] first]) (some [tombstone ['/'] first]) :=
    quarantined_lists (by decide +kernel) (by simp) (by simp)
  exact ⟨cut, (cleanup_crash_consistent (holding_settled (by simp)) (by decide +kernel) unnested
    (.inr cut) listed (by decide +kernel)).1⟩

/-- A file named after a stored id with the suffix twice is not removed but renamed, and the
recovery that returns true leaves it as a tombstone. -/
theorem nested_tombstone_left : ∃ s t : Store ℚ, Settled ['/'] s ∧ s.files folder = none ∧
    t ∈ ((cleanupOldest ['/'] ['/', 'a'] 0).exec [] s).2.passed ∧
    ∃ listing, Lists folder t listing ∧ ((reconcileDeletions listing).exec [] t).1 = true ∧
      ∃ l, Below folder l ∧ (((reconcileDeletions listing).exec [] t).2.state.files l).isSome = true ∧
        extension (l.getLastD []) = deleting := by
  let nested : Location := [['a'], first.id ++ deleting ++ deleting]
  let files := [place ['/'] first, nested]
  let entries := [tombstone ['/'] first, nested]
  have listed : Lists folder (quarantined files) (some entries) :=
    quarantined_lists (by decide +kernel) (by simp [entries]) (by simp [files, entries])
  exact ⟨holding files, quarantined files, holding_settled (by simp [files]), by decide +kernel,
    List.mem_of_getElem? (i := 0) rfl, some entries, listed, by decide +kernel,
    [['a'], first.id ++ deleting], by decide +kernel, by decide +kernel, by decide +kernel⟩

end SkaiEdge.Storage
