import SkaiEdge.Inference.YoloPostprocess

/-!
# The order of the candidates does not matter

The index of a candidate only breaks ties of the sort. With distinct confidences the ranking is the
same for every order of the columns, up to the indices, and nothing behind the sort reads them.
-/

namespace SkaiEdge.Inference

open SkaiEdge.Lib

/-- Column `j` of `output'` is column `σ j` of `output`. -/
structure ColumnsPermuted (output output' : YoloOutputView)
    (σ : Equiv.Perm (Fin output.candidates.toNat)) : Prop where
  channels : output'.channels = output.channels
  candidates : output'.candidates = output.candidates
  elements : output'.elements = output.elements
  data : output'.data.isNone = output.data.isNone
  readings : ∀ channel < output.channels.toNat, ∀ j : Fin output.candidates.toNat,
    output'.reading (channel * output.candidates.toNat + j) =
      output.reading (channel * output.candidates.toNat + σ j)

/-- A candidate without its place in the tensor. -/
def Candidate.unplaced (c : Candidate) : Candidate := { c with index := 0 }

section
variable {output output' : YoloOutputView} {σ : Equiv.Perm (Fin output.candidates.toNat)}
  (permuted : ColumnsPermuted output output' σ)
include permuted

theorem ColumnsPermuted.invalid : output'.invalid = output.invalid := by
  simp only [YoloOutputView.invalid, permuted.channels, permuted.candidates, permuted.elements,
    permuted.data]

theorem ColumnsPermuted.bestScore (j : Fin output.candidates.toNat) :
    Inference.bestScore output' j = Inference.bestScore output (σ j) := by
  rw [Inference.bestScore, Inference.bestScore, permuted.channels]
  apply List.foldl_ext
  intro best channel member
  have inside : channel < output.channels.toNat := by
    rw [List.mem_range'_1] at member
    omega
  rw [betterScore, betterScore, permuted.candidates, permuted.readings channel inside j]

/-- The candidate of a moved column is the same but for its index. -/
theorem ColumnsPermuted.candidateAt (shape : 4 < output.channels) (plan : PreprocessPlan)
    (threshold : ℚ) (j : Fin output.candidates.toNat) :
    (Inference.candidateAt output' plan threshold j).map Candidate.unplaced =
      (Inference.candidateAt output plan threshold (σ j)).map Candidate.unplaced := by
  have x := permuted.readings 0 (by omega) j
  have y := permuted.readings 1 (by omega) j
  have width := permuted.readings 2 (by omega) j
  have height := permuted.readings 3 (by omega) j
  rw [Nat.zero_mul, Nat.zero_add, Nat.zero_add] at x
  rw [Nat.one_mul] at y
  simp only [Inference.candidateAt, permuted.candidates, permuted.bestScore, x, y, width, height,
    Option.bind_eq_bind]
  cases Inference.bestScore output (σ j) with
  | none => rfl
  | some best =>
    simp only [Option.bind_some]
    by_cases low : best.1 ≤ threshold
    · rw [if_pos low, if_pos low]
    · rw [if_neg low, if_neg low]
      cases output.reading (σ j) with
      | none => rfl
      | some cx =>
        cases output.reading (output.candidates.toNat + σ j) with
        | none => rfl
        | some cy =>
          cases output.reading (2 * output.candidates.toNat + σ j) with
          | none => rfl
          | some width =>
            cases output.reading (3 * output.candidates.toNat + σ j) with
            | none => rfl
            | some height =>
              simp only [Option.bind_some, apply_ite (Option.map Candidate.unplaced)]
              rfl

theorem ColumnsPermuted.filteredCandidates (shape : 4 < output.channels) (plan : PreprocessPlan)
    (threshold : ℚ) :
    ((Inference.filteredCandidates output' plan threshold).map Candidate.unplaced).Perm
      ((Inference.filteredCandidates output plan threshold).map Candidate.unplaced) := by
  rw [Inference.filteredCandidates, Inference.filteredCandidates, permuted.candidates,
    List.map_filterMap, List.map_filterMap]
  have moved : (List.finRange output.candidates.toNat).map (fun j => (σ j : Nat)) |>.Perm
      (List.range output.candidates.toNat) := by
    have places := (σ.map_finRange_perm).map (fun j : Fin output.candidates.toNat => (j : Nat))
    rw [List.map_map, List.map_coe_finRange_eq_range] at places
    exact places
  have same : (List.range output.candidates.toNat).filterMap (fun j =>
      (Inference.candidateAt output' plan threshold j).map Candidate.unplaced) =
      ((List.finRange output.candidates.toNat).map fun j => (σ j : Nat)).filterMap fun j =>
        (Inference.candidateAt output plan threshold j).map Candidate.unplaced := by
    rw [← List.map_coe_finRange_eq_range, List.filterMap_map, List.filterMap_map]
    exact List.filterMap_congr fun j _ => permuted.candidateAt shape plan threshold j
  rw [same]
  exact moved.filterMap _

end

/-! ## What the ranking and the suppression read -/

/-- With distinct confidences the ranking decides by them alone. -/
theorem ranked_by_confidence (output : YoloOutputView) (plan : PreprocessPlan) (threshold : ℚ)
    (distinct : (filteredCandidates output plan threshold).Pairwise
      fun a b => a.confidence ≠ b.confidence) :
    (((filteredCandidates output plan threshold).mergeSort fun a b => !ranksBefore b a).map
      Candidate.unplaced).Pairwise fun a b => b.confidence < a.confidence := by
  rw [List.pairwise_map]
  have apart := ((List.mergeSort_perm (filteredCandidates output plan threshold)
    fun a b => !ranksBefore b a).pairwise_iff (fun different => different.symm)).2 distinct
  refine (ranked_sorted output plan threshold).imp₂ ?_ apart
  intro a b before different
  rw [ranksBefore_iff] at before
  exact before.resolve_right fun ⟨same, _⟩ => different same

theorem keptModelBoxes_unplaced (plan : PreprocessPlan) (iou : ℚ) (limit : Nat)
    (ranked : List Candidate) :
    (keptModelBoxes plan iou limit ranked).map Candidate.unplaced =
      keptModelBoxes plan iou limit (ranked.map Candidate.unplaced) := by
  have same : ∀ a b, suppresses iou (Candidate.unplaced a) (Candidate.unplaced b) =
      suppresses iou a b := fun _ _ => rfl
  have able : ∀ a, visible plan (Candidate.unplaced a) = visible plan a := fun _ => rfl
  rw [keptModelBoxes, keptModelBoxes]
  exact (Greedy.select_map same able [] ranked).symm

/-- The detections depend on the ranked candidates without their places. -/
theorem detections_unplaced (plan : PreprocessPlan) (iou : ℚ) (limit : Nat)
    (ranked : List Candidate) :
    (keptModelBoxes plan iou limit ranked).map (restore plan) =
      (keptModelBoxes plan iou limit (ranked.map Candidate.unplaced)).map (restore plan) := by
  rw [← keptModelBoxes_unplaced, List.map_map]
  rfl

/-- **Candidate order does not matter.** If the confidences of the candidates that pass the filters
are distinct, a permutation of the columns leaves the result as it is. -/
theorem candidate_order_irrelevant (output output' : YoloOutputView)
    (σ : Equiv.Perm (Fin output.candidates.toNat)) (permuted : ColumnsPermuted output output' σ)
    (plan : PreprocessPlan) (config : YoloPostprocessConfig) (frameSequence : UInt64)
    (distinct : ∀ confidence iou, config.thresholds = some (confidence, iou) →
      (filteredCandidates output plan confidence).Pairwise fun a b => a.confidence ≠ b.confidence) :
    postprocessYolo output' plan config frameSequence =
      postprocessYolo output plan config frameSequence := by
  unfold postprocessYolo
  rw [permuted.invalid]
  cases shape : output.invalid with
  | true => rfl
  | false =>
    cases thresholds : config.thresholds with
    | none => rfl
    | some limits =>
      obtain ⟨confidence, iou⟩ := limits
      have wide : 4 < output.channels := by
        simp only [YoloOutputView.invalid, Bool.or_eq_false_iff, decide_eq_false_iff_not] at shape
        omega
      have columns := permuted.filteredCandidates wide plan confidence
      have apart := distinct confidence iou thresholds
      have apart' : (filteredCandidates output' plan confidence).Pairwise
          fun a b => a.confidence ≠ b.confidence := by
        have unplaced := (columns.pairwise_iff (R := fun a b => a.confidence ≠ b.confidence)
          (fun different => different.symm)).2
        rw [List.pairwise_map, List.pairwise_map] at unplaced
        exact unplaced apart
      have ranked : ((filteredCandidates output' plan confidence).mergeSort
            fun a b => !ranksBefore b a).map Candidate.unplaced =
          ((filteredCandidates output plan confidence).mergeSort
            fun a b => !ranksBefore b a).map Candidate.unplaced := by
        refine List.Perm.eq_of_pairwise ?_ (ranked_by_confidence output' plan confidence apart')
          (ranked_by_confidence output plan confidence apart) ?_
        · intro a b _ _ above below
          exact absurd above below.asymm
        · exact ((List.mergeSort_perm _ _).map _).trans
            (columns.trans ((List.mergeSort_perm _ _).map _).symm)
      have detections := detections_unplaced plan iou config.maxDetections
        ((filteredCandidates output' plan confidence).mergeSort fun a b => !ranksBefore b a)
      rw [ranked, ← detections_unplaced] at detections
      simp only [detections]

/-- The two boxes of `twoBoxes`, the other way round. -/
def boxesSwapped : YoloOutputView where
  data := some (([102, 100, 100, 100, 40, 40, 20, 20, 8 / 10, 9 / 10] : List ℚ).map some)
  elements := 10
  channels := 5
  candidates := 2
  buffer := by simp

theorem candidate_order_irrelevant_swap :
    postprocessYolo boxesSwapped square {} 42 = postprocessYolo twoBoxes square {} 42 := by
  refine candidate_order_irrelevant twoBoxes boxesSwapped (Equiv.swap (0 : Fin 2) (1 : Fin 2))
    ⟨rfl, rfl, rfl, rfl, ?_⟩ square {} 42 ?_
  · decide +kernel
  · intro confidence iou limits
    have quarter : YoloPostprocessConfig.thresholds {} = some (1 / 4, 9 / 20) := by
      rw [YoloPostprocessConfig.thresholds]
      norm_num
    obtain ⟨rfl, rfl⟩ := Prod.mk.inj (Option.some.inj (quarter.symm.trans limits))
    decide +kernel

end SkaiEdge.Inference
