import Mathlib
import SkaiEdge.Lib.Text

/-!
# `enforce_quota` (`src/video/recording.cpp`)

The recording directory as `directory_iterator` lists it, and the loop that deletes the oldest
recordings until the rest fits. Sizes are summed and compared in 64 bits, as in the source.
Each call to the file system may fail; `Inspection` says which.
-/

namespace SkaiEdge.Video

open SkaiEdge.Lib

/-- One directory entry. -/
structure Entry where
  name : List Char
  regular : Bool := true
  size : Nat
  time : Nat
  deriving DecidableEq, Repr

/-- `path::extension` of a file name. -/
def extension (name : List Char) : List Char :=
  match Text.findLastOf name '.' with
  | none | some 0 => []
  | some dot => if name = "..".toList then [] else name.drop dot

/-- The two name checks of `enforce_quota`. -/
def isRecording (name : List Char) : Bool :=
  extension name == ".mp4".toList && "recording_".toList.isPrefixOf name

def Entry.recorded (entry : Entry) : Bool := entry.regular && isRecording entry.name

/-- The bytes of the entries that pass `p`. -/
def bytesOf (p : Entry → Bool) (entries : List Entry) : Nat := ((entries.filter p).map Entry.size).sum

/-- The bytes of the recordings in a directory. -/
def recordingTotal (entries : List Entry) : Nat := bytesOf Entry.recorded entries

/-- Which calls of one `enforce_quota` succeed: opening the directory, and for each name
`is_regular_file`, `file_size`, `last_write_time` and `remove`. -/
structure Inspection where
  listed : Bool := true
  typed : List Char → Bool := fun _ => true
  sized : List Char → Bool := fun _ => true
  timed : List Char → Bool := fun _ => true
  removed : List Char → Bool := fun _ => true

structure QuotaFile where
  name : List Char
  size : UInt64
  time : Nat
  deriving DecidableEq, Repr

/-- The listing loop; `code` is the error left by the entry before. `none` is the early
`return`. An error of `file_size` is overwritten by the call after it, and the size it returned
is the largest 64-bit value. -/
def listFiles (i : Inspection) : List Entry → Bool → List QuotaFile → UInt64 →
    Option (List QuotaFile × UInt64)
  | [], _, files, total => some (files, total)
  | entry :: entries, code, files, total =>
    if code then none
    else if !i.typed entry.name then listFiles i entries true files total
    else if !entry.regular || !isRecording entry.name then listFiles i entries false files total
    else if !i.timed entry.name then listFiles i entries false files total
    else
      let size := if i.sized entry.name then UInt64.ofNat entry.size else UInt64.ofNat (2 ^ 64 - 1)
      listFiles i entries false (files ++ [⟨entry.name, size, entry.time⟩]) (total + size)

/-- The deleting loop. -/
def deleteOldest (i : Inspection) (quota : UInt64) :
    List QuotaFile → UInt64 → List Entry → List Entry
  | [], _, entries => entries
  | file :: files, total, entries =>
    if total ≤ quota then entries
    else if i.removed file.name then
      deleteOldest i quota files (total - file.size) (entries.filter (·.name ≠ file.name))
    else deleteOldest i quota files total entries

def mib : UInt64 := 1024 * 1024

/-- `enforce_quota` on the directory. -/
def enforceQuota (i : Inspection) (maxStorageMb : UInt64) (entries : List Entry) : List Entry :=
  if !i.listed then entries
  else
    match listFiles i entries false [] 0 with
    | none => entries
    | some (files, total) =>
      deleteOldest i (maxStorageMb * mib)
        (files.insertionSort fun left right => left.time ≤ right.time) total entries

/-- Every call succeeds on the entries. -/
structure Inspection.Works (i : Inspection) (entries : List Entry) : Prop where
  listed : i.listed = true
  typed : ∀ entry ∈ entries, i.typed entry.name = true
  sized : ∀ entry ∈ entries, i.sized entry.name = true
  timed : ∀ entry ∈ entries, i.timed entry.name = true
  removed : ∀ entry ∈ entries, i.removed entry.name = true

/-- An entry as the listing loop stores it. -/
def Entry.file (entry : Entry) : QuotaFile := ⟨entry.name, UInt64.ofNat entry.size, entry.time⟩

/-- The recordings of a directory as the listing loop stores them. -/
def recordings (entries : List Entry) : List QuotaFile :=
  (entries.filter Entry.recorded).map Entry.file

theorem Inspection.Works.tail {i : Inspection} {entry : Entry} {entries : List Entry}
    (works : i.Works (entry :: entries)) : i.Works entries where
  listed := works.listed
  typed := fun e member => works.typed e (List.mem_cons_of_mem _ member)
  sized := fun e member => works.sized e (List.mem_cons_of_mem _ member)
  timed := fun e member => works.timed e (List.mem_cons_of_mem _ member)
  removed := fun e member => works.removed e (List.mem_cons_of_mem _ member)

/-- The listing loop finds the recordings and their sum in 64 bits. -/
theorem listFiles_eq {i : Inspection} {entries : List Entry} (works : i.Works entries)
    (files : List QuotaFile) (total : UInt64) : listFiles i entries false files total =
      some (files ++ recordings entries, total + UInt64.ofNat (recordingTotal entries)) := by
  induction entries generalizing files total with
  | nil => simp [listFiles, recordings, recordingTotal, bytesOf]
  | cons entry entries ih =>
    have typed := works.typed entry (by simp)
    have sized := works.sized entry (by simp)
    have timed := works.timed entry (by simp)
    cases recorded : entry.recorded with
    | false =>
      have skipped : (!entry.regular || !isRecording entry.name) = true := by
        rw [← Bool.not_and, Bool.not_eq_true']
        exact recorded
      simp only [listFiles, typed, skipped, Bool.false_eq_true, ↓reduceIte, Bool.not_true]
      rw [ih works.tail]
      simp [recordings, recordingTotal, bytesOf, recorded]
    | true =>
      have taken : (!entry.regular || !isRecording entry.name) = false := by
        simpa [Entry.recorded] using recorded
      simp only [listFiles, typed, sized, timed, taken, Bool.false_eq_true, ↓reduceIte, Bool.not_true]
      rw [ih works.tail]
      simp [recordings, recordingTotal, bytesOf, recorded, Entry.file, UInt64.add_assoc]

theorem deleteOldest_sublist (i : Inspection) (quota total : UInt64) (files : List QuotaFile)
    (entries : List Entry) : (deleteOldest i quota files total entries).Sublist entries := by
  induction files generalizing total entries with
  | nil => exact .refl _
  | cons file files ih =>
    rw [deleteOldest]
    split
    · exact .refl _
    · split
      · exact (ih _ _).trans List.filter_sublist
      · exact ih _ _

/-- `enforce_quota` only deletes. -/
theorem enforceQuota_sublist (i : Inspection) (maxStorageMb : UInt64) (entries : List Entry) :
    (enforceQuota i maxStorageMb entries).Sublist entries := by
  unfold enforceQuota
  split
  · exact .refl _
  · split
    · exact .refl _
    · exact deleteOldest_sublist _ _ _ _ _

theorem bytesOf_le_of_sublist {p : Entry → Bool} {entries entries' : List Entry}
    (sub : entries.Sublist entries') : bytesOf p entries ≤ bytesOf p entries' :=
  ((sub.filter _).map _).sum_le_sum (by simp)

/-! ## Which recordings go -/

/-- The recordings of a directory, oldest first; no two of them are of one time. -/
structure OldestFirst (entries order : List Entry) : Prop where
  complete : order.Perm (entries.filter Entry.recorded)
  ascending : order.Pairwise fun left right => left.time < right.time

/-- What is left of the directory once the `n` first of `order` are gone. -/
def without (entries order : List Entry) (n : Nat) : List Entry :=
  entries.filter fun entry => (order.take n).all fun gone => entry.name ≠ gone.name

/-- The bytes of the recordings behind the `n` first. -/
def bytesBehind (order : List Entry) (n : Nat) : Nat := ((order.drop n).map Entry.size).sum

/-- `left` is the directory without the shortest front of `order` behind which the rest is within
the bound. -/
def Exact (bound : Nat) (entries order left : List Entry) : Prop :=
  ∃ n, left = without entries order n ∧ bytesBehind order n ≤ bound ∧
    ∀ m < n, bound < bytesBehind order m

theorem without_zero (entries order : List Entry) : without entries order 0 = entries := by
  simp [without]

theorem OldestFirst.total {entries order : List Entry} (oldest : OldestFirst entries order) :
    bytesBehind order 0 = recordingTotal entries :=
  (oldest.complete.map Entry.size).sum_eq

/-- The sort of the source yields the order. -/
theorem OldestFirst.sorted {entries order : List Entry} (oldest : OldestFirst entries order) :
    (recordings entries).insertionSort (fun left right => left.time ≤ right.time) =
      order.map Entry.file := by
  have perm := List.perm_insertionSort (fun left right : QuotaFile => left.time ≤ right.time)
    (recordings entries)
  have strict : (order.map Entry.file).Pairwise fun left right => left.time < right.time :=
    List.pairwise_map.2 oldest.ascending
  have ascending : (order.map Entry.file).Pairwise fun left right => left.time ≤ right.time :=
    strict.imp Nat.le_of_lt
  have same := perm.trans (oldest.complete.map Entry.file).symm
  have apart : ((order.map Entry.file).map QuotaFile.time).Nodup :=
    List.pairwise_map.2 (strict.imp Nat.ne_of_lt)
  refine same.eq_of_pairwise ?_ (List.pairwise_insertionSort _ _) ascending
  intro left right first second le ge
  exact List.inj_on_of_nodup_map apart (same.mem_iff.1 first) second (Nat.le_antisymm le ge)

/-- **The deleting loop takes the shortest front** of the files that brings the rest within the
quota of 64 bits. -/
theorem deleteOldest_exact {i : Inspection} {quota total : UInt64} {order entries : List Entry}
    (removed : ∀ entry ∈ order, i.removed entry.name = true)
    (fits : (order.map Entry.size).sum < 2 ^ 64) (sum : total.toNat = (order.map Entry.size).sum) :
    Exact quota.toNat entries order
      (deleteOldest i quota (order.map Entry.file) total entries) := by
  induction order generalizing total entries with
  | nil => exact ⟨0, (without_zero ..).symm, Nat.zero_le _, by simp⟩
  | cons entry order ih =>
    rw [List.map_cons, deleteOldest]
    by_cases within : total ≤ quota
    · rw [if_pos within]
      refine ⟨0, (without_zero ..).symm, ?_, by simp⟩
      have bound : total.toNat ≤ quota.toNat := within
      rwa [sum] at bound
    · rw [if_neg within, Entry.file, if_pos (removed entry (by simp))]
      simp only [List.map_cons, List.sum_cons] at fits sum
      have size : (UInt64.ofNat entry.size).toNat = entry.size := by
        rw [UInt64.toNat_ofNat']
        omega
      have rest : (total - UInt64.ofNat entry.size).toNat = (order.map Entry.size).sum := by
        rw [UInt64.toNat_sub_of_le _ _ (UInt64.le_iff_toNat_le.2 (by omega))]
        omega
      obtain ⟨n, left, bound, least⟩ := @ih _ (entries.filter (·.name ≠ entry.name))
        (fun e member => removed e (List.mem_cons_of_mem _ member)) (by omega) rest
      refine ⟨n + 1, ?_, bound, fun m smaller => ?_⟩
      · rw [left]
        simp [without, List.filter_filter, Bool.and_comm]
      · cases m with
        | zero =>
          have beyond : quota.toNat < total.toNat :=
            UInt64.lt_iff_toNat_lt.1 (UInt64.not_le.1 within)
          simpa [bytesBehind, sum] using beyond
        | succ m => exact least m (by omega)

/-- `enforce_quota` is exact for the quota as 64 bits hold it. -/
theorem enforceQuota_exact {i : Inspection} {maxStorageMb : UInt64} {entries order : List Entry}
    (works : i.Works entries) (oldest : OldestFirst entries order)
    (fits : recordingTotal entries < 2 ^ 64) :
    Exact (maxStorageMb.toNat % 2 ^ 44 * 2 ^ 20) entries order
      (enforceQuota i maxStorageMb entries) := by
  have quota : (maxStorageMb * mib).toNat = maxStorageMb.toNat % 2 ^ 44 * 2 ^ 20 := by
    rw [UInt64.toNat_mul, show mib.toNat = 2 ^ 20 from rfl]
    omega
  have total : (order.map Entry.size).sum = recordingTotal entries := oldest.total
  simp only [enforceQuota, works.listed, Bool.not_true, Bool.false_eq_true, ↓reduceIte,
    listFiles_eq works, List.nil_append, oldest.sorted]
  rw [← quota]
  apply deleteOldest_exact
  · intro entry member
    exact works.removed entry (List.mem_filter.1 (oldest.complete.mem_iff.1 member)).1
  · rwa [total]
  · rw [total, UInt64.zero_add, UInt64.toNat_ofNat', Nat.mod_eq_of_lt fits]

/-- A directory within the bound is left as it is. -/
theorem Exact.within {bound : Nat} {entries order left : List Entry}
    (exact' : Exact bound entries order left) (small : bytesBehind order 0 ≤ bound) :
    left = entries := by
  obtain ⟨n, rfl, _, least⟩ := exact'
  cases n with
  | zero => exact without_zero ..
  | succ n => exact absurd (least 0 (Nat.succ_pos n)) (Nat.not_lt.2 small)

/-- Beyond the bound something is deleted. -/
theorem Exact.beyond {bound : Nat} {entries order : List Entry} (oldest : OldestFirst entries order)
    (large : bound < bytesBehind order 0) : ¬ Exact bound entries order entries := by
  rintro ⟨n, left, small, _⟩
  cases n with
  | zero => omega
  | succ n =>
    cases order with
    | nil => simp [bytesBehind] at large
    | cons entry order =>
      have listed : entry ∈ entries :=
        (List.mem_filter.1 (oldest.complete.mem_iff.1 List.mem_cons_self)).1
      rw [left, without] at listed
      simp at listed

/-- **The quota is exact unless its product overflows and the recordings exceed what is left of
it.** For every directory whose calls succeed, `enforce_quota` deletes exactly the shortest
oldest-first front after which the rest is within `max_storage_mb * 1048576`, and nothing if the
recordings are within it, if and only if `max_storage_mb` is below `2^44` or the recordings are
within the product modulo `2^64`. -/
theorem quota_exact_iff {i : Inspection} {maxStorageMb : UInt64} {entries order : List Entry}
    (works : i.Works entries) (oldest : OldestFirst entries order)
    (fits : recordingTotal entries < 2 ^ 64) :
    (Exact (maxStorageMb.toNat * 1048576) entries order (enforceQuota i maxStorageMb entries) ∧
        (recordingTotal entries ≤ maxStorageMb.toNat * 1048576 →
          enforceQuota i maxStorageMb entries = entries)) ↔
      maxStorageMb.toNat < 2 ^ 44 ∨
        recordingTotal entries ≤ maxStorageMb.toNat % 2 ^ 44 * 1048576 := by
  have wrapped : Exact (maxStorageMb.toNat % 2 ^ 44 * 2 ^ 20) entries order
      (enforceQuota i maxStorageMb entries) := enforceQuota_exact works oldest fits
  have total := oldest.total
  constructor
  · rintro ⟨_, kept⟩
    by_contra overflow
    simp only [not_or, Nat.not_lt, Nat.not_le] at overflow
    -- the true quota is beyond every total, so nothing may go
    have same := kept (by omega)
    rw [same] at wrapped
    exact Exact.beyond oldest (by omega) wrapped
  · intro condition
    have exact' : Exact (maxStorageMb.toNat * 1048576) entries order
        (enforceQuota i maxStorageMb entries) := by
      rcases condition with small | within
      · have same : maxStorageMb.toNat % 2 ^ 44 * 2 ^ 20 = maxStorageMb.toNat * 1048576 := by omega
        rwa [same] at wrapped
      · rw [wrapped.within (by omega)]
        have less : maxStorageMb.toNat % 2 ^ 44 ≤ maxStorageMb.toNat := Nat.mod_le _ _
        exact ⟨0, (without_zero ..).symm, by omega, by simp⟩
    exact ⟨exact', fun small => exact'.within (by omega)⟩

/-- Two recordings in a directory whose listing starts with the newer one. -/
def twoRecordings : List Entry :=
  [⟨"recording_2.mp4".toList, true, 700000, 2⟩, ⟨"recording_1.mp4".toList, true, 600000, 1⟩]

theorem twoRecordings_oldestFirst : OldestFirst twoRecordings twoRecordings.reverse where
  complete := by
    have all : twoRecordings.filter Entry.recorded = twoRecordings := by decide +kernel
    rw [all]
    exact List.reverse_perm _
  ascending := by decide

theorem inspection_works (entries : List Entry) : ({} : Inspection).Works entries where
  listed := rfl
  typed := fun _ _ => rfl
  sized := fun _ _ => rfl
  timed := fun _ _ => rfl
  removed := fun _ _ => rfl

theorem quota_exact_one_mebibyte :
    Exact 1048576 twoRecordings twoRecordings.reverse (enforceQuota {} 1 twoRecordings) :=
  ((quota_exact_iff (inspection_works _) twoRecordings_oldestFirst (by decide +kernel)).2
    (.inl (by decide))).1

/-- A quota of `2^44` MiB is one of 0 bytes: every recording is deleted. -/
theorem overflowing_quota_deletes :
    ¬ (Exact ((2 ^ 44 : UInt64).toNat * 1048576) twoRecordings twoRecordings.reverse
          (enforceQuota {} (2 ^ 44) twoRecordings) ∧
        (recordingTotal twoRecordings ≤ (2 ^ 44 : UInt64).toNat * 1048576 →
          enforceQuota {} (2 ^ 44) twoRecordings = twoRecordings)) := by
  rintro ⟨_, kept⟩
  have same := kept (by decide +kernel)
  have gone : enforceQuota {} (2 ^ 44) twoRecordings = [] := by decide +kernel
  rw [gone] at same
  cases same

/-! ## How much stays -/

/-- The recordings of a directory in the order in which they are deleted. -/
def oldestFirst (entries : List Entry) : List Entry :=
  (entries.filter Entry.recorded).insertionSort fun left right => left.time ≤ right.time

/-- The longest end of the sizes that is within the bound. -/
def fitting (bound : Nat) : List Nat → Nat
  | [] => 0
  | size :: sizes =>
    if (size :: sizes).sum ≤ bound then (size :: sizes).sum else fitting bound sizes

/-- The bytes of the newest recordings that are within the bound together. -/
def newestBytes (bound : Nat) (entries : List Entry) : Nat :=
  fitting bound ((oldestFirst entries).map Entry.size)

theorem fitting_le (bound : Nat) (sizes : List Nat) : fitting bound sizes ≤ bound := by
  induction sizes with
  | nil => exact Nat.zero_le _
  | cons size sizes ih =>
    rw [fitting]
    split
    · assumption
    · exact ih

theorem fitting_eq {bound : Nat} {sizes : List Nat} {n : Nat} (within : (sizes.drop n).sum ≤ bound)
    (least : ∀ m < n, bound < (sizes.drop m).sum) : fitting bound sizes = (sizes.drop n).sum := by
  induction sizes generalizing n with
  | nil => rw [fitting, List.drop_nil, List.sum_nil]
  | cons size sizes ih =>
    rw [fitting]
    cases n with
    | zero => exact if_pos within
    | succ n =>
      have beyond := least 0 (Nat.succ_pos n)
      rw [List.drop_zero] at beyond
      rw [if_neg (by omega), List.drop_succ_cons]
      exact ih within fun m less => least (m + 1) (by omega)

theorem newestBytes_le (bound : Nat) (entries : List Entry) : newestBytes bound entries ≤ bound :=
  fitting_le bound _

theorem recordings_sorted (entries : List Entry) :
    (recordings entries).insertionSort (fun left right => left.time ≤ right.time) =
      (oldestFirst entries).map Entry.file :=
  (List.map_insertionSort (fun left right : Entry => left.time ≤ right.time) _ Entry.file _
    fun _ _ _ _ => Iff.rfl).symm

/-- Behind the `n` first there are their bytes at most, and no fewer where no name is there twice. -/
theorem recordingTotal_without {entries order : List Entry}
    (complete : order.Perm (entries.filter Entry.recorded)) (n : Nat) :
    recordingTotal (without entries order n) ≤ bytesBehind order n ∧
      ((entries.map Entry.name).Nodup →
        recordingTotal (without entries order n) = bytesBehind order n) := by
  let stays (entry : Entry) : Bool := (order.take n).all fun gone => entry.name ≠ gone.name
  have kept : ((order.take n ++ order.drop n).filter stays).Perm
      ((without entries order n).filter Entry.recorded) := by
    rw [List.take_append_drop, without, List.filter_filter]
    refine (complete.filter stays).trans (.of_eq ?_)
    rw [List.filter_filter]
    exact List.filter_congr fun entry _ => Bool.and_comm _ _
  have front : (order.take n).filter stays = [] := by
    rw [List.filter_eq_nil_iff]
    intro entry member all
    simpa using List.all_eq_true.1 all entry member
  rw [List.filter_append, front, List.nil_append] at kept
  have total : recordingTotal (without entries order n) =
      (((order.drop n).filter stays).map Entry.size).sum := (kept.map Entry.size).sum_eq.symm
  rw [total, bytesBehind]
  refine ⟨(List.filter_sublist.map Entry.size).sum_le_sum (by simp), fun once => ?_⟩
  have distinct : (order.map Entry.name).Nodup :=
    (complete.map Entry.name).nodup_iff.2 (once.sublist (List.filter_sublist.map Entry.name))
  rw [← List.take_append_drop n order, List.map_append, List.nodup_append] at distinct
  have all : (order.drop n).filter stays = order.drop n := by
    rw [List.filter_eq_self]
    intro entry behind
    refine List.all_eq_true.2 fun gone member => decide_eq_true fun same => ?_
    exact distinct.2.2 _ (List.mem_map_of_mem member) _ (List.mem_map_of_mem behind) same.symm
  rw [all]

/-- **What `enforce_quota` leaves**: the newest recordings that are within the quota together. -/
theorem enforceQuota_newest {i : Inspection} {maxStorageMb : UInt64} {entries : List Entry}
    (works : i.Works entries) (fits : recordingTotal entries < 2 ^ 64)
    (quota : maxStorageMb.toNat * 2 ^ 20 < 2 ^ 64) :
    recordingTotal (enforceQuota i maxStorageMb entries) ≤
        newestBytes (maxStorageMb.toNat * 2 ^ 20) entries ∧
      ((entries.map Entry.name).Nodup → recordingTotal (enforceQuota i maxStorageMb entries) =
        newestBytes (maxStorageMb.toNat * 2 ^ 20) entries) := by
  have complete : (oldestFirst entries).Perm (entries.filter Entry.recorded) :=
    List.perm_insertionSort _ _
  have total : ((oldestFirst entries).map Entry.size).sum = recordingTotal entries :=
    (complete.map Entry.size).sum_eq
  have bound : (maxStorageMb * mib).toNat = maxStorageMb.toNat * 2 ^ 20 := by
    rw [UInt64.toNat_mul, show mib.toNat = 2 ^ 20 from rfl, Nat.mod_eq_of_lt quota]
  have left : Exact (maxStorageMb * mib).toNat entries (oldestFirst entries)
      (enforceQuota i maxStorageMb entries) := by
    simp only [enforceQuota, works.listed, Bool.not_true, Bool.false_eq_true, ↓reduceIte,
      listFiles_eq works, List.nil_append, recordings_sorted]
    refine deleteOldest_exact (fun entry member => ?_) (by rwa [total]) ?_
    · exact works.removed entry (List.mem_filter.1 (complete.mem_iff.1 member)).1
    · rw [total, UInt64.zero_add, UInt64.toNat_ofNat', Nat.mod_eq_of_lt fits]
  rw [bound] at left
  obtain ⟨n, same, within, least⟩ := left
  rw [same, newestBytes, fitting_eq (n := n)]
  · rw [← List.map_drop]
    exact recordingTotal_without complete n
  · rw [← List.map_drop]
    exact within
  · intro m less
    rw [← List.map_drop]
    exact least m less

end SkaiEdge.Video
