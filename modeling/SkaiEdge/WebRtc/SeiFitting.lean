import SkaiEdge.WebRtc.SeiJson
import SkaiEdge.WebRtc.SeiResultSelector

/-!
# The size cap of the SEI

`take_for` drops whole results from the front and then, with one result left, searches for the
number of boxes that fit. Its search is right because the encoded size depends only on the
length of the JSON text (`encodeResults_length`: nothing in it needs emulation prevention) and
that length grows with the boxes and does not depend on their order.
-/

namespace SkaiEdge.WebRtc

open SkaiEdge.Lib

/-! ## The encoded size -/

theorem chainedSize_length (size : Nat) : (chainedSize size).length = size / 255 + 1 := by
  induction size using Nat.strongRecOn with
  | ind size ih =>
    unfold chainedSize
    split
    · rw [List.length_cons, ih (size - 255) (by omega)]
      omega
    · rw [List.length_singleton]
      omega

theorem chainedSize_zeros (size : Nat) : (chainedSize size).count 0 ≤ 1 := by
  induction size using Nat.strongRecOn with
  | ind size ih =>
    unfold chainedSize
    split
    · rw [List.count_cons_of_ne (by decide)]
      exact ih (size - 255) (by omega)
    · exact List.count_le_length

/-- The bytes of a NAL whose JSON text has `n` bytes. -/
def seiSize (n : Nat) : Nat := 24 + (16 + n) / 255 + n

theorem seiSize_mono {n m : Nat} (shorter : n ≤ m) : seiSize n ≤ seiSize m := by
  unfold seiSize
  omega

section Size

variable {D : Type} [Double D]

/-- **Emulation prevention adds nothing**: of the bytes before it, only the last one of the size
may be zero. -/
theorem encodeResults_length (results : List (SeiResult D)) :
    (encodeResults results).length = seiSize (detectionSeiJson results).length := by
  have printed : (detectionSeiJson results).count 0 = 0 := by
    refine List.count_eq_zero_of_not_mem fun zero => ?_
    have := detectionSeiJson_printable results 0 zero
    contradiction
  have uuid : detectionSeiUuid.toList.count 0 = 0 := by decide
  have chained := chainedSize_zeros (detectionSeiUuid.size + (detectionSeiJson results).length)
  have plain : AnnexB.escape 0 (userDataRbsp detectionSeiUuid (detectionSeiJson results)) =
      userDataRbsp detectionSeiUuid (detectionSeiJson results) := by
    apply AnnexB.escape_plain
    simp only [userDataRbsp, List.count_append, List.count_cons_of_ne (show (5 : UInt8) ≠ 0 by decide),
      List.count_cons_of_ne (show (0x80 : UInt8) ≠ 0 by decide), List.count_nil, printed, uuid]
    omega
  rw [encodeResults, encodeUserDataSeiNal, plain]
  simp only [userDataRbsp, List.length_append, List.length_cons, List.length_nil,
    chainedSize_length, Vector.length_toList, Vector.size, seiSize]
  omega

theorem commas_length (texts : List (List UInt8)) :
    ((ascii [',']).intercalate texts).length = (texts.map List.length).sum + (texts.length - 1) := by
  induction texts with
  | nil => rfl
  | cons text texts ih =>
    cases texts with
    | nil => simp
    | cons next others =>
      rw [List.intercalate_cons_cons, List.length_append, List.length_append, ih]
      simp only [List.map_cons, List.sum_cons, List.length_cons, ascii, List.length_map,
        List.length_nil]
      omega

/-- The length of a result depends on its boxes, not on their order. -/
theorem resultJson_length (dt : UInt32) {boxes boxes' : List (SeiBox D)}
    (same : boxes.Perm boxes') :
    (resultJson (⟨dt, boxes⟩ : SeiResult D)).length =
      (resultJson (⟨dt, boxes'⟩ : SeiResult D)).length := by
  have sum := ((same.map boxJson).map List.length).sum_eq
  have count := (same.map boxJson).length_eq
  simp only [resultJson, List.length_append, commas_length, sum, count]

theorem resultJson_take_le (dt : UInt32) (boxes : List (SeiBox D)) {k m : Nat} (fewer : k ≤ m) :
    (resultJson (⟨dt, boxes.take k⟩ : SeiResult D)).length ≤
      (resultJson (⟨dt, boxes.take m⟩ : SeiResult D)).length := by
  have sub : (boxes.take k).Sublist (boxes.take m) := by
    rw [← Nat.min_eq_left fewer, ← List.take_take]
    exact List.take_sublist _ _
  have sum := ((sub.map boxJson).map List.length).sum_le_sum (by simp)
  have count := (sub.map boxJson).length_le
  simp only [resultJson, List.length_append, commas_length]
  omega

theorem json_front_le {front front' : SeiResult D} (rest : List (SeiResult D))
    (shorter : (resultJson front).length ≤ (resultJson front').length) :
    (detectionSeiJson (front :: rest)).length ≤ (detectionSeiJson (front' :: rest)).length := by
  simp only [detectionSeiJson, List.length_append, commas_length, List.map_cons, List.sum_cons,
    List.length_cons]
  omega

/-- The SEI is within the cap. -/
def Fits (results : List (SeiResult D)) : Prop :=
  (encodeResults results).length ≤ maxDetectionSeiBytes

theorem fits_iff (results : List (SeiResult D)) :
    Fits results ↔ seiSize (detectionSeiJson results).length ≤ 1024 := by
  rw [Fits, encodeResults_length]
  rfl

/-- A result without boxes fits. -/
theorem fits_empty (dt : UInt32) : Fits [(⟨dt, []⟩ : SeiResult D)] := by
  have ticks : (decimalBytes dt.toNat).length ≤ 10 := by
    have bound := (Nat.length_toDigits_le_iff (b := 10) (n := dt.toNat) (k := 10) (by decide)
      (by decide)).2 (by have := dt.toNat_lt; omega)
    simpa [decimalBytes, ascii] using bound
  have text : (detectionSeiJson [(⟨dt, []⟩ : SeiResult D)]).length =
      28 + (decimalBytes dt.toNat).length := by
    simp [detectionSeiJson, resultJson, ascii]
    omega
  rw [fits_iff, text]
  unfold seiSize
  omega

end Size

/-! ## The two searches -/

section Search

variable {D : Type} [Double D]

/-- `carried` are the newest results of `due` that fit; one is left even if it does not. -/
structure Newest (due carried : List (SeiResult D)) : Prop where
  suffix : carried <:+ due
  nonempty : carried ≠ []
  fits : Fits carried ∨ carried.length = 1
  longest : ∀ longer, longer <:+ due → carried.length < longer.length → ¬ Fits longer

theorem dropOldest_newest {due : List (SeiResult D)} (some' : due ≠ []) :
    Newest due (dropOldest due) := by
  fun_induction dropOldest due with
  | case1 first second rest large ih =>
    obtain ⟨suffix, nonempty, fits, longest⟩ := ih (by simp)
    refine ⟨suffix.trans (List.suffix_cons _ _), nonempty, fits, fun longer inside more => ?_⟩
    rcases List.suffix_cons_iff.1 inside with rfl | shorter
    · exact Nat.not_le.2 large
    · exact longest longer shorter more
  | case2 first second rest small =>
    refine ⟨List.suffix_rfl, by simp, .inl (Nat.not_lt.1 small), fun longer inside more => ?_⟩
    exact absurd inside.length_le (Nat.not_le.2 more)
  | case3 results short =>
    obtain ⟨only, rfl⟩ : ∃ only, results = [only] := by
      rcases results with _ | ⟨first, _ | ⟨second, rest⟩⟩
      · exact absurd rfl some'
      · exact ⟨first, rfl⟩
      · exact absurd rfl (short first second rest)
    refine ⟨List.suffix_rfl, by simp, .inr rfl, fun longer inside more => ?_⟩
    exact absurd inside.length_le (Nat.not_le.2 more)

/-- The boxes in stable order of descending score. -/
def byScore (boxes : List (SeiBox D)) : List (SeiBox D) :=
  boxes.mergeSort fun a b => !Double.greater b.score a.score

/-- The result with its `count` best boxes. -/
def withBest (result : SeiResult D) (count : Nat) : SeiResult D :=
  { result with boxes := (byScore result.boxes).take count }

/-- The invariant of the binary search: `fits` boxes fit and `tooMany` do not. -/
theorem fittingBoxes_boundary {front : SeiResult D} {rest : List (SeiResult D)}
    {boxes : List (SeiBox D)} {fits tooMany : Nat} (order : fits < tooMany)
    (small : Fits ({ front with boxes := boxes.take fits } :: rest))
    (large : ¬ Fits ({ front with boxes := boxes.take tooMany } :: rest)) :
    fittingBoxes front rest boxes fits tooMany < tooMany ∧
      Fits ({ front with
        boxes := boxes.take (fittingBoxes front rest boxes fits tooMany) } :: rest) ∧
      ¬ Fits ({ front with
        boxes := boxes.take (fittingBoxes front rest boxes fits tooMany + 1) } :: rest) := by
  fun_induction fittingBoxes front rest boxes fits tooMany with
  | case1 fits tooMany apart count fitting ih => exact ih (by omega) fitting large
  | case2 fits tooMany apart count exceeds ih =>
    obtain ⟨below, rest⟩ := ih (by omega) small exceeds
    exact ⟨by omega, rest⟩
  | case3 fits tooMany close =>
    obtain rfl : tooMany = fits + 1 := by omega
    exact ⟨order, small, large⟩

/-- `kept` boxes of the result fit, and no more of them do. -/
structure BestBoxes (result : SeiResult D) (kept : Nat) : Prop where
  fewer : kept < result.boxes.length
  fits : Fits [withBest result kept]
  most : ∀ count ≤ result.boxes.length, Fits [withBest result count] → count ≤ kept

theorem fits_withBest {result : SeiResult D} {k m : Nat} (fewer : k ≤ m)
    (fits : Fits [withBest result m]) : Fits [withBest result k] := by
  rw [fits_iff] at fits ⊢
  exact (seiSize_mono (json_front_le [] (resultJson_take_le _ _ fewer))).trans fits

/-- All the boxes are too many, in whatever order. -/
theorem not_fits_sorted {result : SeiResult D} (large : ¬ Fits [result]) :
    ¬ Fits [withBest result result.boxes.length] := by
  have perm : ((byScore result.boxes).take result.boxes.length).Perm result.boxes := by
    rw [List.take_of_length_le (by rw [byScore, List.length_mergeSort])]
    exact List.mergeSort_perm _ _
  have same : (detectionSeiJson [withBest result result.boxes.length]).length =
      (detectionSeiJson [result]).length := by
    have length := resultJson_length result.dt perm
    exact le_antisymm (json_front_le [] length.le) (json_front_le [] length.ge)
  rw [fits_iff] at large ⊢
  rwa [same]

theorem fittingBoxes_best {result : SeiResult D} (large : ¬ Fits [result]) :
    BestBoxes result (fittingBoxes result [] (byScore result.boxes) 0 result.boxes.length) := by
  have empty : Fits [withBest result 0] := fits_empty result.dt
  have exceeds := not_fits_sorted large
  have some' : 0 < result.boxes.length := by
    by_contra none'
    rw [Nat.eq_zero_of_not_pos none'] at exceeds
    exact exceeds empty
  obtain ⟨fewer, fits, next⟩ := fittingBoxes_boundary some' empty exceeds
  refine ⟨fewer, fits, fun count _ fitting => ?_⟩
  by_contra more
  exact next (fits_withBest (Nat.not_le.1 more) fitting)

/-- What is left of the carried results: all of them, or the best boxes of the only one.
`boxes` is the number of boxes left out. -/
inductive Trimmed (carried : List (SeiResult D)) : List (SeiResult D) → Nat → Prop where
  | whole (fits : Fits carried) : Trimmed carried carried 0
  | boxes {newest : SeiResult D} {kept : Nat} (alone : carried = [newest])
      (large : ¬ Fits carried) (best : BestBoxes newest kept) :
      Trimmed carried [withBest newest kept] (newest.boxes.length - kept)

theorem fitFront_trimmed {due carried : List (SeiResult D)} (newest : Newest due carried) :
    Trimmed carried (fitFront carried).1 (fitFront carried).2 := by
  by_cases fits : Fits carried
  · have same : fitFront carried = (carried, 0) := by
      unfold fitFront
      split
      · rfl
      · rw [if_neg (Nat.not_lt.2 fits)]
    rw [same]
    exact .whole fits
  · obtain ⟨result, rfl⟩ := List.length_eq_one_iff.1 (newest.fits.resolve_left fits)
    have best := fittingBoxes_best fits
    have trimmed : fitFront [result] = ([withBest result (fittingBoxes result []
        (byScore result.boxes) 0 result.boxes.length)], result.boxes.length - fittingBoxes result []
          (byScore result.boxes) 0 result.boxes.length) := by
      rw [fitFront, if_pos (Nat.not_le.1 fits)]
      simp only [withBest, byScore, List.length_mergeSort]
    rw [trimmed]
    exact .boxes rfl fits best

theorem Trimmed.fits {carried results : List (SeiResult D)} {boxes : Nat}
    (trimmed : Trimmed carried results boxes) : Fits results := by
  cases trimmed with
  | whole fits => exact fits
  | boxes alone large best => exact best.fits

end Search

namespace SeiResultSelector

variable {D : Type} [Double D]

/-- The due results in the order of their PTS, as they are encoded. -/
def dueResults (s : SeiResultSelector D) (attachPtsNs attachGeneration : UInt64) :
    List (SeiResult D) :=
  ((s.placed attachPtsNs attachGeneration .due).mergeSort
    fun a b => a.val.sourcePtsNs ≤ b.val.sourcePtsNs).map (seiResult attachPtsNs)

theorem takeFor_due {s : SeiResultSelector D} {attachPtsNs attachGeneration : UInt64}
    (some' : s.placed attachPtsNs attachGeneration .due ≠ []) :
    let carried := dropOldest (s.dueResults attachPtsNs attachGeneration)
    let taken := (s.takeFor attachPtsNs attachGeneration).1
    let stats := (s.takeFor attachPtsNs attachGeneration).2.stats
    taken.results = (fitFront carried).1 ∧ taken.nal = encodeResults taken.results ∧
      stats.resultsDropped = s.stats.resultsDropped +
        (s.placed attachPtsNs attachGeneration .dropped).length +
        ((s.dueResults attachPtsNs attachGeneration).length - carried.length) ∧
      stats.boxesDropped = s.stats.boxesDropped + (fitFront carried).2 := by
  have due : ¬ (s.placed attachPtsNs attachGeneration .due).isEmpty = true := by
    simpa using some'
  simp only [takeFor, if_neg due, dueResults, List.length_map, and_self]

theorem takeFor_returns {s : SeiResultSelector D} {attachPtsNs attachGeneration : UInt64} :
    (s.takeFor attachPtsNs attachGeneration).1.nal ≠ [] ↔
      s.placed attachPtsNs attachGeneration .due ≠ [] := by
  constructor
  · intro returned none'
    apply returned
    simp only [takeFor, none', List.isEmpty_nil, if_true, Taken.nothing]
  · intro some' empty
    obtain ⟨-, nal, -⟩ := takeFor_due some'
    rw [empty] at nal
    simp [encodeResults, encodeUserDataSeiNal] at nal

/-- **The size cap keeps as much as it can.** A NAL that `take_for` returns has at most 1024
bytes. It carries the newest of the due results, as many as fit and at least one; if even one
does not fit, it carries its best boxes, as many as fit. What is left out is counted. -/
theorem sei_size_cap (s : SeiResultSelector D) (attachPtsNs attachGeneration : UInt64)
    (returned : (s.takeFor attachPtsNs attachGeneration).1.nal ≠ []) :
    let due := s.dueResults attachPtsNs attachGeneration
    let stale := s.placed attachPtsNs attachGeneration .dropped
    let taken := (s.takeFor attachPtsNs attachGeneration).1
    let stats := (s.takeFor attachPtsNs attachGeneration).2.stats
    taken.nal = encodeResults taken.results ∧ taken.nal.length ≤ 1024 ∧
      ∃ carried boxes, Newest due carried ∧ Trimmed carried taken.results boxes ∧
        stats.resultsDropped =
          s.stats.resultsDropped + stale.length + (due.length - carried.length) ∧
        stats.boxesDropped = s.stats.boxesDropped + boxes := by
  have some' := takeFor_returns.1 returned
  have due : s.dueResults attachPtsNs attachGeneration ≠ [] := by
    intro none'
    have length := congrArg List.length none'
    simp only [dueResults, List.length_map, List.length_mergeSort, List.length_nil] at length
    exact some' (List.length_eq_zero_iff.1 length)
  have newest := dropOldest_newest due
  have trimmed := fitFront_trimmed newest
  obtain ⟨results, nal, dropped, left⟩ := takeFor_due some'
  refine ⟨nal, ?_, _, _, newest, results ▸ trimmed, dropped, left⟩
  rw [nal, results]
  exact trimmed.fits

/-- Forty boxes, the best one first. -/
def crowd : List (SeiBox Int) :=
  (List.range 40).map fun (rank : Nat) => ⟨2500, 0, 5000, 5000, ascii "person".toList, 9000 - rank⟩

/-- Two of them wait, the newer one half a second old. -/
def crowded : SeiResultSelector Int where
  maxPending := 64
  pending := [⟨0, ⟨0, 1, crowd⟩⟩, ⟨1, ⟨500000000, 1, crowd⟩⟩]
  bounded := by decide
  recentDt := []
  nextDt := 0
  stats := {}

/-- Both are due, in the order in which they came. -/
theorem crowded_due : crowded.placed 1000000000 1 .due ≠ [] ∧
    crowded.dueResults 1000000000 1 = [⟨90000, crowd⟩, ⟨45000, crowd⟩] := by
  have placed : crowded.placed 1000000000 1 .due = crowded.pending := by decide +kernel
  rw [dueResults, placed, List.mergeSort_of_pairwise (by decide +kernel)]
  exact ⟨by simp [crowded], by decide +kernel⟩

theorem crowd_best (k : Nat) : withBest ⟨45000, crowd⟩ k = ⟨45000, crowd.take k⟩ := by
  have sorted : byScore crowd = crowd := List.mergeSort_of_pairwise (by decide +kernel)
  rw [withBest, sorted]

/-- Of two results that are too large, the newer one is sent with the 29 best of its boxes. -/
theorem sei_size_cap_crowded :
    (crowded.takeFor 1000000000 1).1.nal.length ≤ 1024 ∧
      (crowded.takeFor 1000000000 1).1.results = [⟨45000, crowd.take 29⟩] ∧
      (crowded.takeFor 1000000000 1).2.stats.resultsDropped = 1 ∧
      (crowded.takeFor 1000000000 1).2.stats.boxesDropped = 11 := by
  obtain ⟨some', due⟩ := crowded_due
  have fit : Fits [withBest (⟨45000, crowd⟩ : SeiResult Int) 29] := by
    rw [crowd_best, fits_iff]
    decide +kernel
  have full : ¬ Fits [withBest (⟨45000, crowd⟩ : SeiResult Int) 30] := by
    rw [crowd_best, fits_iff]
    decide +kernel
  obtain ⟨-, small, carried, boxes, newest, trimmed, results, left⟩ :=
    sei_size_cap crowded 1000000000 1 (takeFor_returns.2 some')
  rw [due] at newest results
  have alone : carried = [⟨45000, crowd⟩] := by
    obtain ⟨suffix, nonempty, fits, -⟩ := newest
    simp only [List.suffix_cons_iff, List.suffix_nil, nonempty, or_false] at suffix
    rcases suffix with rfl | alone
    · rcases fits with fits | single
      · rw [fits_iff] at fits
        revert fits
        decide +kernel
      · cases single
    · exact alone
  subst alone
  have none' : (crowded.placed 1000000000 1 .dropped).length = 0 := by decide +kernel
  refine ⟨small, ?_⟩
  rw [results, left, none']
  generalize (crowded.takeFor 1000000000 1).1.results = sent at trimmed ⊢
  cases trimmed with
  | whole fits =>
    rw [fits_iff] at fits
    revert fits
    decide +kernel
  | boxes alone large best =>
    rename_i kept
    obtain rfl := List.singleton_injective alone
    have least := best.most 29 (by decide +kernel) fit
    have most : kept < 30 := by
      by_contra more
      exact full (fits_withBest (Nat.not_lt.1 more) best.fits)
    obtain rfl : kept = 29 := by omega
    rw [crowd_best]
    exact ⟨rfl, rfl, rfl⟩

end SeiResultSelector

end SkaiEdge.WebRtc
