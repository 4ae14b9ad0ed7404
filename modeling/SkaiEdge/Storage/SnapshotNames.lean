import SkaiEdge.Storage.AlertStore

/-!
# The names of snapshot files

Ids have no dot and no slash, so the name of a file tells which id it belongs to and whether
it is a snapshot, a temporary file or a tombstone. `Named` is what a row written by `persist`
satisfies; the lemmas say which locations of two rows can coincide, and that
`reconcile_deletions` finds the row of a tombstone again.
-/

namespace SkaiEdge.Storage

open SkaiEdge.Lib SkaiEdge.Lib.Path SkaiEdge.Inference SkaiEdge.Alerts

variable {D : Type}

/-- An id as `process` builds it. -/
structure CleanId (id : List Char) : Prop where
  some' : id ≠ []
  dot : '.' ∉ id
  slash : '/' ∉ id

/-- The row's snapshot file is named after its id. -/
structure Named (cwd : List Char) (row : AlertEvent D) : Prop where
  clean : CleanId row.id
  placed : ∃ parent, locate cwd row.snapshotPath = parent ++ [jpg row.id]

theorem digits_clean (n : Nat) : ∀ c ∈ Nat.toDigits 10 n, c.isDigit = true :=
  fun _ member => Nat.isDigit_of_mem_toDigits (by decide) (by decide) member

theorem decimal_clean (n : Int) : ∀ c ∈ decimal n, c.isDigit = true ∨ c = '-' := by
  cases n with
  | ofNat n => exact fun c member => .inl (digits_clean n c member)
  | negSucc n =>
    intro c member
    rcases List.mem_cons.1 member with rfl | digit
    · exact .inr rfl
    · exact .inl (digits_clean _ c digit)

theorem alertId_clean (timestampMs : Int) (frameSequence : UInt64) (ruleIndex nextId : Nat) :
    CleanId (alertId timestampMs frameSequence ruleIndex nextId) := by
  have letters : ∀ c ∈ alertId timestampMs frameSequence ruleIndex nextId,
      c ∈ ['a', 'l', 'e', 'r', 't', '-'] ∨ c.isDigit = true := by
    intro c member
    simp only [alertId, List.mem_append, List.mem_cons] at member
    rcases member with (((label | stamp) | dash | sequence) | dash | index) | dash | next
    · exact .inl (by simpa using label)
    · rcases decimal_clean _ c stamp with digit | rfl
      · exact .inr digit
      · exact .inl (by decide)
    · exact .inl (by rw [dash]; decide)
    · exact .inr (digits_clean _ c sequence)
    · exact .inl (by rw [dash]; decide)
    · exact .inr (digits_clean _ c index)
    · exact .inl (by rw [dash]; decide)
    · exact .inr (digits_clean _ c next)
  refine ⟨by simp [alertId], fun dot => ?_, fun slash => ?_⟩
  · rcases letters _ dot with label | digit
    · exact absurd label (by decide)
    · exact absurd digit (by decide)
  · rcases letters _ slash with label | digit
    · exact absurd label (by decide)
    · exact absurd digit (by decide)

/-- Ids of one frame tell the rules apart. -/
theorem alertId_index {timestampMs : Int} {frameSequence : UInt64} {i j n k : Nat}
    (same : alertId timestampMs frameSequence i n = alertId timestampMs frameSequence j k) : i = j := by
  have dashless : ∀ m, '-' ∉ Nat.toDigits 10 m := fun m dash =>
    absurd (digits_clean m _ dash) (by decide)
  simp only [alertId, List.append_assoc, List.append_cancel_left_eq, List.cons_append,
    List.cons.injEq, true_and] at same
  have digits := (Text.append_stop_inj (dashless i) (dashless j) same).1
  have value := congrArg (fun l => Nat.ofDigitChars 10 l 0) digits
  simpa [Nat.ofDigitChars_toDigits] using value

theorem plain_of_clean {id suffix : List Char} (clean : CleanId id) (slash : '/' ∉ suffix)
    (long : 2 ≤ suffix.length) : Plain (id ++ suffix) := by
  have size : (id ++ suffix).length = id.length + suffix.length := List.length_append
  have some' : 0 < id.length := List.length_pos_iff.2 clean.some'
  refine ⟨by simp [clean.slash, slash], ?_, ?_⟩
  · refine Bool.eq_false_iff.2 fun dot => ?_
    simp only [isDot, Bool.or_eq_true, decide_eq_true_eq] at dot
    rcases dot with empty | dot
    · rw [empty] at size
      simp at size
      omega
    · rw [dot] at size
      simp at size
      omega
  · refine Bool.eq_false_iff.2 fun dots => ?_
    simp only [isDotDot, decide_eq_true_eq] at dots
    rw [dots] at size
    simp at size
    omega

/-- A date is digits and dashes. -/
theorem utcDate_plain (timestampMs : Int) : Plain (utcDate timestampMs) := by
  have letters : ∀ c ∈ utcDate timestampMs, c.isDigit = true ∨ c = '-' := by
    have paddedDigits : ∀ width n, ∀ c ∈ padded width n, c.isDigit = true ∨ c = '-' := by
      intro width n c member
      rcases List.mem_append.1 member with zero | digit
      · rw [List.eq_of_mem_replicate zero]
        exact .inl (by decide)
      · exact decimal_clean n c digit
    intro c member
    simp only [utcDate, List.mem_append, List.mem_cons] at member
    rcases member with (year | dash | month) | dash | day
    · exact decimal_clean _ c year
    · exact .inr dash
    · exact paddedDigits _ _ c month
    · exact .inr dash
    · exact paddedDigits _ _ c day
  have without : ∀ c, c.isDigit = false → c ≠ '-' → c ∉ utcDate timestampMs := by
    intro c digit dash member
    rcases letters c member with digit' | dash'
    · rw [digit] at digit'
      cases digit'
    · exact dash dash'
  have dash : '-' ∈ utcDate timestampMs := by simp [utcDate]
  have dotless := without '.' (by decide) (by decide)
  refine ⟨without '/' (by decide) (by decide), ?_, ?_⟩
  · simp only [isDot, Bool.or_eq_false_iff, decide_eq_false_iff_not]
    refine ⟨List.ne_nil_of_mem dash, fun dot => dotless ?_⟩
    simp [dot]
  · simp only [isDotDot, decide_eq_false_iff_not]
    exact fun dots => dotless (by simp [dots])

theorem jpg_eq (id : List Char) : jpg id = id ++ '.' :: ['j', 'p', 'g'] := rfl

theorem tmpJpg_eq (id : List Char) :
    tmpJpg id = id ++ '.' :: ['t', 'm', 'p', '.', 'j', 'p', 'g'] := rfl

theorem tombstone_name (id : List Char) :
    jpg id ++ deleting =
      id ++ '.' :: ['j', 'p', 'g', '.', 'd', 'e', 'l', 'e', 't', 'i', 'n', 'g'] := by
  simp [jpg, deleting]

section Names

variable {cwd : List Char} {row row' : AlertEvent D}

/-- The two places where the row's snapshot may be. -/
def place (cwd : List Char) (row : AlertEvent D) : Location := locate cwd row.snapshotPath

def tombstone (cwd : List Char) (row : AlertEvent D) : Location := tag deleting (place cwd row)

theorem last_eq {parent parent' : Location} {a b : List Char} (same : parent ++ [a] = parent' ++ [b]) :
    parent = parent' ∧ a = b := by
  simpa using List.append_inj' same rfl

theorem Named.places (named : Named cwd row) :
    ∃ parent, place cwd row = parent ++ [jpg row.id] ∧
      tombstone cwd row = parent ++ [jpg row.id ++ deleting] := by
  obtain ⟨parent, placed⟩ := named.placed
  exact ⟨parent, placed, by rw [tombstone, place, placed, tag_append]⟩

theorem Named.place_ne_tombstone (named : Named cwd row) (named' : Named cwd row') :
    place cwd row ≠ tombstone cwd row' := by
  intro same
  obtain ⟨parent, placed, _⟩ := named.places
  obtain ⟨parent', _, buried⟩ := named'.places
  rw [placed, buried] at same
  have name := (last_eq same).2
  rw [jpg_eq, tombstone_name] at name
  exact absurd (Text.append_stop_inj named.clean.dot named'.clean.dot name).2 (by decide)

theorem Named.id_eq_of_place (named : Named cwd row) (named' : Named cwd row')
    (same : place cwd row = place cwd row') : row.id = row'.id := by
  obtain ⟨parent, placed, _⟩ := named.places
  obtain ⟨parent', placed', _⟩ := named'.places
  rw [placed, placed'] at same
  have name := (last_eq same).2
  rw [jpg_eq, jpg_eq] at name
  exact (Text.append_stop_inj named.clean.dot named'.clean.dot name).1

theorem Named.id_eq_of_tombstone (named : Named cwd row) (named' : Named cwd row')
    (same : tombstone cwd row = tombstone cwd row') : row.id = row'.id ∧ place cwd row = place cwd row' := by
  obtain ⟨parent, placed, buried⟩ := named.places
  obtain ⟨parent', placed', buried'⟩ := named'.places
  rw [buried, buried'] at same
  obtain ⟨above, name⟩ := last_eq same
  rw [tombstone_name, tombstone_name] at name
  have id := (Text.append_stop_inj named.clean.dot named'.clean.dot name).1
  exact ⟨id, by rw [placed, placed', above, id]⟩

/-- Where `persist` puts the files of an alert. -/
theorem locate_files (cwd : List Char) {snapshotDirectory : List Char} (timestampMs : Int) {id : List Char}
    (clean : CleanId id) (some' : snapshotDirectory ≠ []) :
    locate cwd (finalPath snapshotDirectory timestampMs id) =
        (locate cwd snapshotDirectory ++ [utcDate timestampMs]) ++ [jpg id] ∧
      locate cwd (temporaryPath snapshotDirectory timestampMs id) =
        (locate cwd snapshotDirectory ++ [utcDate timestampMs]) ++ [tmpJpg id] := by
  have dates : Plain (utcDate timestampMs) := utcDate_plain timestampMs
  have folder : dated snapshotDirectory timestampMs ≠ [] := join_ne_nil some' dates.head
  have daily : locate cwd (dated snapshotDirectory timestampMs) =
      locate cwd snapshotDirectory ++ [utcDate timestampMs] := locate_join cwd some' dates
  rw [← daily]
  constructor
  · exact locate_join cwd folder (plain_of_clean clean (by decide) (by decide))
  · exact locate_join cwd folder (plain_of_clean clean (by decide) (by decide))

theorem locate_final (cwd : List Char) {snapshotDirectory : List Char} (timestampMs : Int) {id : List Char}
    (clean : CleanId id) (some' : snapshotDirectory ≠ []) :
    ∃ parent, locate cwd (finalPath snapshotDirectory timestampMs id) = parent ++ [jpg id] ∧
      locate cwd (temporaryPath snapshotDirectory timestampMs id) = parent ++ [tmpJpg id] :=
  ⟨_, locate_files cwd timestampMs clean some'⟩

/-- A temporary file is nobody's snapshot and nobody's tombstone. -/
theorem Named.ne_temporary (named : Named cwd row) {parent : Location} {id : List Char}
    (clean : CleanId id) :
    place cwd row ≠ parent ++ [tmpJpg id] ∧ tombstone cwd row ≠ parent ++ [tmpJpg id] := by
  obtain ⟨above, placed, buried⟩ := named.places
  rw [placed, buried]
  constructor
  · intro same
    have name := (last_eq same).2
    rw [jpg_eq, tmpJpg_eq] at name
    exact absurd (Text.append_stop_inj named.clean.dot clean.dot name).2 (by decide)
  · intro same
    have name := (last_eq same).2
    rw [tombstone_name, tmpJpg_eq] at name
    exact absurd (Text.append_stop_inj named.clean.dot clean.dot name).2 (by decide)

end Names

/-- The suffix of a tombstone is what is cut off again. -/
theorem stem_deleting {name : List Char} (some' : name ≠ []) :
    stem (name ++ deleting) = name ∧ extension (name ++ deleting) = deleting := by
  have dots : isDotDot (name ++ deleting) = false := by
    simp only [isDotDot, decide_eq_false_iff_not]
    intro same
    have size := congrArg List.length same
    simp [deleting] at size
  have halves : cut (name ++ deleting) = (name, deleting) := cut_append some' (by decide) dots
  exact ⟨congrArg Prod.fst halves, congrArg Prod.snd halves⟩

theorem stem_jpg {id : List Char} (clean : CleanId id) :
    stem (jpg id) = id ∧ extension (jpg id) = ['.', 'j', 'p', 'g'] := by
  have halves : cut (jpg id) = (id, ['.', 'j', 'p', 'g']) :=
    cut_append clean.some' (by decide) (plain_of_clean clean (by decide) (by decide)).dotDot
  exact ⟨congrArg Prod.fst halves, congrArg Prod.snd halves⟩

theorem stem_tagged {name : List Char} (tagged : extension name = deleting) :
    stem name ++ deleting = name :=
  tagged ▸ stem_append_extension name

section Reading

variable {cwd : List Char} {row : AlertEvent D} {parent : Location} {name : List Char}

/-- **A tombstone names its row**: what `reconcile_deletions` reads off its name. -/
theorem Named.of_tombstone (named : Named cwd row) (at' : tombstone cwd row = parent ++ [name]) :
    place cwd row = parent ++ [stem name] ∧ stem (stem name) = row.id := by
  obtain ⟨above, placed, buried⟩ := named.places
  rw [buried] at at'
  obtain ⟨rfl, rfl⟩ := last_eq at'
  rw [(stem_deleting (by simp [jpg])).1]
  exact ⟨placed, (stem_jpg named.clean).1⟩

theorem Named.to_tombstone (named : Named cwd row) (tagged : extension name = deleting)
    (at' : place cwd row = parent ++ [stem name]) : tombstone cwd row = parent ++ [name] := by
  obtain ⟨above, placed, buried⟩ := named.places
  rw [placed] at at'
  obtain ⟨rfl, file⟩ := last_eq at'
  rw [buried, file, stem_tagged tagged]

theorem Named.place_untagged (named : Named cwd row) (tagged : extension name = deleting) :
    place cwd row ≠ parent ++ [name] := by
  obtain ⟨above, placed, _⟩ := named.places
  intro at'
  rw [placed] at at'
  obtain ⟨-, rfl⟩ := last_eq at'
  rw [(stem_jpg named.clean).2] at tagged
  exact absurd tagged (by decide)

end Reading

theorem tagged_ne_stem {name : List Char} (parent : Location) (tagged : extension name = deleting) :
    parent ++ [name] ≠ parent ++ [stem name] := by
  intro same
  have size := congrArg List.length ((last_eq same).2.symm.trans (stem_tagged tagged).symm)
  simp [deleting] at size

/-- A tombstone's location, cut before its name. -/
theorem tagged_shape {entry : Location} (tagged : extension (entry.getLastD []) = deleting) :
    ∃ parent name, entry = parent ++ [name] ∧ extension name = deleting := by
  rcases List.eq_nil_or_concat' entry with rfl | ⟨parent, name, rfl⟩
  · exact absurd tagged (by decide)
  · exact ⟨parent, name, rfl, by simpa using tagged⟩

end SkaiEdge.Storage
