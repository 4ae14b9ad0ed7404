import SkaiEdge.WebRtc.SeiReader

/-!
# A viewer's view of the inserted SEI

`insert_before_first_vcl` and a viewer's `split_annex_b` scan for start codes on their own,
with different jumps and different ends. `split_pieces` says that the viewer cuts the bytes at
their start codes; the inserted NAL brings its own start code and the one it stands before
stays whole, so the viewer finds the same NALs with the SEI among them (`insertion_preserves`).
-/

namespace SkaiEdge.WebRtc

open SkaiEdge.Lib

/-- The NAL in a piece, if anything but zero bytes is in it. -/
def pieceNal (piece : List UInt8) : Option Nal :=
  match piece.rdropWhile (· = 0) with
  | [] => none
  | header :: ebsp => some ⟨header &&& 0x1f, ebsp⟩

theorem pieceNal_concat_zero (piece : List UInt8) : pieceNal (piece ++ [0]) = pieceNal piece := by
  simp [pieceNal]

/-- The next start code ends the first piece, or the bytes do. -/
theorem nalStarts_next (i : Nat) (bytes : List UInt8) :
    (nalStarts i bytes = [] ∧ (AnnexB.pieces bytes).1 = bytes) ∨
      ∃ later, nalStarts i bytes = (i + (AnnexB.pieces bytes).1.length + 3) :: later := by
  induction bytes using AnnexB.pieces.induct generalizing i with
  | case1 a b c rest code ih =>
    rw [nalStarts, AnnexB.pieces, if_pos code, if_pos code]
    exact .inr ⟨_, rfl⟩
  | case2 a b c rest other ih =>
    rw [nalStarts, AnnexB.pieces, if_neg other, if_neg other]
    rcases ih (i + 1) with ⟨none', whole⟩ | ⟨later, starts⟩
    · exact .inl ⟨none', by rw [whole]⟩
    · refine .inr ⟨later, ?_⟩
      rw [starts, List.length_cons, show i + 1 + (AnnexB.pieces (b :: c :: rest)).1.length =
        i + ((AnnexB.pieces (b :: c :: rest)).1.length + 1) by omega]
  | case3 bytes short =>
    rw [nalStarts, AnnexB.pieces]
    · exact .inl ⟨rfl, rfl⟩
    · exact short
    · exact short

theorem pieces_isPrefix (bytes : List UInt8) : (AnnexB.pieces bytes).1 <+: bytes := by
  fun_induction AnnexB.pieces bytes with
  | case1 a b c rest code ih => exact List.nil_prefix
  | case2 a b c rest other ih => exact List.cons_prefix_cons.2 ⟨rfl, ih⟩
  | case3 bytes short => exact List.prefix_rfl

theorem nalsAt_cons {bytes piece : List UInt8} {start : Nat} {later : List Nat}
    (cut : (bytes.take (match later with
      | next :: _ => next - 3
      | [] => bytes.length)).drop start = piece) :
    nalsAt bytes (start :: later) = (pieceNal piece).toList ++ nalsAt bytes later := by
  cases later with
  | nil =>
    simp only at cut
    simp only [nalsAt, cut, pieceNal]
    cases piece.rdropWhile (· = 0) with
    | nil => rfl
    | cons header ebsp => rfl
  | cons next later =>
    simp only at cut
    rw [nalsAt, cut, pieceNal]
    cases piece.rdropWhile (· = 0) with
    | nil => rfl
    | cons header ebsp => rfl

theorem filterMap_pieceNal_cons (piece : List UInt8) (later : List (List UInt8)) :
    (piece :: later).filterMap pieceNal = (pieceNal piece).toList ++ later.filterMap pieceNal := by
  cases nal : pieceNal piece with
  | none => simp [nal]
  | some header => simp [nal]

theorem nalsAt_pieces (before bytes : List UInt8) :
    nalsAt (before ++ bytes) (nalStarts before.length bytes) =
      (AnnexB.pieces bytes).2.filterMap pieceNal := by
  induction bytes using AnnexB.pieces.induct generalizing before with
  | case1 a b c rest code ih =>
    obtain ⟨rfl, rfl, rfl⟩ := code
    have ih := ih (before ++ [0, 0, 1])
    rw [List.append_assoc, List.cons_append, List.cons_append, List.cons_append,
      List.nil_append, List.length_append] at ih
    rw [nalStarts, AnnexB.pieces, if_pos ⟨rfl, rfl, rfl⟩, if_pos ⟨rfl, rfl, rfl⟩,
      filterMap_pieceNal_cons, ← ih]
    apply nalsAt_cons
    -- up to the next start code or the end of the bytes, the first piece is what is cut out
    have behind : (before ++ 0 :: 0 :: 1 :: rest).drop (before.length + 3) = rest := by
      rw [List.drop_append, List.drop_of_length_le (by omega), Nat.add_sub_cancel_left]
      rfl
    rcases nalStarts_next (before.length + 3) rest with ⟨none', whole⟩ | ⟨later, starts⟩
    · rw [none', List.take_length, behind, whole]
    · rw [starts]
      simp only [Nat.add_sub_cancel]
      rw [List.drop_take, behind, Nat.add_sub_cancel_left]
      exact List.prefix_iff_eq_take.1 (pieces_isPrefix rest) |>.symm
  | case2 a b c rest other ih =>
    have ih := ih (before ++ [a])
    rw [List.append_assoc, List.singleton_append, List.length_append] at ih
    rw [nalStarts, AnnexB.pieces, if_neg other, if_neg other]
    exact ih
  | case3 bytes short =>
    rw [nalStarts, AnnexB.pieces]
    · rfl
    · exact short
    · exact short

/-- **The viewer cuts at the start codes.** -/
theorem split_pieces (bytes : List UInt8) :
    splitAnnexB bytes = (AnnexB.pieces bytes).2.filterMap pieceNal :=
  nalsAt_pieces [] bytes

/-- A NAL of type 1 to 5. -/
def Nal.vcl (nal : Nal) : Bool := nal.type ≥ 1 && nal.type ≤ 5

theorem pieceNal_cons {header : UInt8} (piece : List UInt8) (nonzero : header ≠ 0) :
    ∃ ebsp, pieceNal (header :: piece) = some ⟨header &&& 0x1f, ebsp⟩ := by
  obtain ⟨ebsp, trimmed⟩ : ∃ ebsp, (header :: piece).rdropWhile (· = 0) = header :: ebsp := by
    induction piece using List.reverseRecOn with
    | nil => exact ⟨[], by simp [List.rdropWhile, nonzero]⟩
    | append_singleton piece last ih =>
      rw [← List.cons_append, List.rdropWhile_concat]
      split
      · exact ih
      · exact ⟨piece ++ [last], rfl⟩
  exact ⟨ebsp, by rw [pieceNal, trimmed]⟩

/-- The header of a NAL is the first byte of its piece. -/
theorem pieceNal_head {piece : List UInt8} {nal : Nal} (found : pieceNal piece = some nal) :
    ∃ header rest, piece = header :: rest ∧ nal.type = header &&& 0x1f := by
  obtain ⟨rest, whole⟩ := List.rdropWhile_prefix (· = 0) piece
  rw [pieceNal] at found
  split at found
  · contradiction
  · rename_i header ebsp trimmed
    cases found
    rw [trimmed] at whole
    exact ⟨header, ebsp ++ rest, whole.symm, rfl⟩

theorem VclAt.append {bytes : List UInt8} {j : Nat} (found : VclAt bytes j) (rest : List UInt8) :
    VclAt (bytes ++ rest) j := by
  have size := found.size
  obtain ⟨header, ahead, vcl⟩ := found
  refine ⟨header, ?_, vcl⟩
  rw [List.drop_append_of_le_length (by omega)]
  exact ahead.trans (List.prefix_append _ rest)

/-- A viewer that finds a VCL NAL finds it behind a start code. -/
theorem vclAt_of_split {bytes : List UInt8} {nal : Nal} (found : nal ∈ splitAnnexB bytes)
    (vcl : nal.vcl = true) : ∃ j, VclAt bytes j := by
  rw [split_pieces] at found
  fun_induction AnnexB.pieces bytes with
  | case1 a b c rest code ih =>
    obtain ⟨rfl, rfl, rfl⟩ := code
    rw [filterMap_pieceNal_cons, List.mem_append, Option.mem_toList] at found
    rcases found with first | later
    · obtain ⟨header, piece, begins, type⟩ := pieceNal_head first
      have head := AnnexB.pieces_head begins
      obtain ⟨tail, rfl⟩ := List.head?_eq_some_iff.1 head
      refine ⟨0, vclAt_zero.2 ⟨rfl, rfl, rfl, ?_⟩⟩
      rw [Nal.vcl, type] at vcl
      exact vcl
    · obtain ⟨j, here⟩ := ih later
      exact ⟨j + 3, here⟩
  | case2 a b c rest other ih =>
    obtain ⟨j, here⟩ := ih found
    exact ⟨j + 1, here⟩
  | case3 bytes short => simp at found

theorem split_code (before rest : List UInt8) :
    splitAnnexB (before ++ 0 :: 0 :: 1 :: rest) = splitAnnexB before ++
      ((pieceNal (AnnexB.pieces rest).1).toList ++ splitAnnexB rest) := by
  simp only [split_pieces, AnnexB.pieces_code, List.filterMap_append, filterMap_pieceNal_cons]

theorem split_concat_zero (bytes : List UInt8) : splitAnnexB (bytes ++ [0]) = splitAnnexB bytes := by
  rw [split_pieces, split_pieces]
  exact (AnnexB.pieces_concat_zero pieceNal_concat_zero bytes).2

/-- What stands behind the start code of a VCL NAL is that NAL. -/
theorem pieceNal_vcl {header : UInt8} (vcl : isVcl header = true) (rest : List UInt8) :
    ∃ nal, pieceNal (AnnexB.pieces (header :: rest)).1 = some nal ∧ nal.vcl = true := by
  have nonzero : header ≠ 0 := by
    rintro rfl
    contradiction
  have begins : ¬ [0, 0, 1] <+: header :: rest := fun ahead =>
    nonzero (List.cons_prefix_cons.1 ahead).1.symm
  rw [AnnexB.pieces_cons begins]
  obtain ⟨ebsp, nal⟩ := pieceNal_cons (AnnexB.pieces rest).1 nonzero
  exact ⟨_, nal, vcl⟩

/-- A NAL without start codes of its own that does not end in zero, up to the next one. -/
theorem split_nal {nal : List UInt8} (clean : AnnexB.Clean nal)
    {zeroByte : List UInt8} (zero : zeroByte = [] ∨ zeroByte = [0]) (rest : List UInt8) :
    pieceNal (AnnexB.pieces (nal ++ zeroByte ++ 0 :: 0 :: 1 :: rest)).1 = pieceNal nal ∧
      splitAnnexB (nal ++ zeroByte ++ 0 :: 0 :: 1 :: rest) =
        (pieceNal (AnnexB.pieces rest).1).toList ++ splitAnnexB rest := by
  have whole : AnnexB.pieces nal = (nal, []) := AnnexB.pieces_free (clean 1 (by decide))
  have none' : splitAnnexB nal = [] := by rw [split_pieces, whole]; rfl
  rw [AnnexB.pieces_code, split_code]
  rcases zero with rfl | rfl
  · rw [List.append_nil, none', whole]
    exact ⟨rfl, rfl⟩
  · rw [split_concat_zero, none']
    refine ⟨?_, rfl⟩
    rcases (AnnexB.pieces_concat_zero pieceNal_concat_zero nal).1 with same | longer
    · rw [same, whole]
    · rw [longer, pieceNal_concat_zero, whole]

/-- The bytes before a VCL NAL: at most the `zero_byte` of its start code. -/
theorem StartsVcl.cut {behind : List UInt8} (starts : StartsVcl behind) :
    ∃ zeroByte header rest, (zeroByte = [] ∨ zeroByte = [0]) ∧ isVcl header = true ∧
      behind = zeroByte ++ 0 :: 0 :: 1 :: header :: rest := by
  rcases starts with ⟨header, ahead, vcl⟩ | ⟨zero, header, ahead, vcl⟩
  · obtain ⟨rest, whole⟩ := ahead
    exact ⟨[], header, rest, .inl rfl, vcl, whole.symm⟩
  · obtain ⟨tail, rfl⟩ := List.head?_eq_some_iff.1 zero
    obtain ⟨rest, whole⟩ := ahead
    exact ⟨[0], header, rest, .inr rfl, vcl, congrArg (0 :: ·) whole.symm⟩

theorem split_zeroByte {zeroByte : List UInt8} (zero : zeroByte = [] ∨ zeroByte = [0])
    (before : List UInt8) : splitAnnexB (before ++ zeroByte) = splitAnnexB before := by
  rcases zero with rfl | rfl
  · rw [List.append_nil]
  · exact split_concat_zero before

/-- The SEI before a start code is one NAL more. -/
theorem split_spliced (uuid : Vector UInt8 16) (payload before rest : List UInt8)
    {zeroByte : List UInt8} (zero : zeroByte = [] ∨ zeroByte = [0]) :
    splitAnnexB (before ++ encodeUserDataSeiNal uuid payload ++
        (zeroByte ++ 0 :: 0 :: 1 :: rest)) =
      splitAnnexB before ++ ⟨6, AnnexB.escape 0 (userDataRbsp uuid payload)⟩ ::
        ((pieceNal (AnnexB.pieces rest).1).toList ++ splitAnnexB rest) := by
  obtain ⟨piece, later⟩ := split_nal (encoded_clean uuid payload) zero rest
  have own : pieceNal (6 :: AnnexB.escape 0 (userDataRbsp uuid payload)) =
      some ⟨6, AnnexB.escape 0 (userDataRbsp uuid payload)⟩ := by
    rw [pieceNal, rdropWhile_ends (encoded_ends uuid payload) (by decide)]
    rfl
  have bytes : before ++ encodeUserDataSeiNal uuid payload ++ (zeroByte ++ 0 :: 0 :: 1 :: rest) =
      before ++ [0] ++ 0 :: 0 :: 1 :: (6 :: AnnexB.escape 0 (userDataRbsp uuid payload) ++
        zeroByte ++ 0 :: 0 :: 1 :: rest) := by
    simp [encodeUserDataSeiNal]
  rw [bytes, split_code, split_concat_zero, piece, later, own]
  rfl

theorem insertIdx_append_length {α : Type*} (before behind : List α) (x : α) :
    (before ++ behind).insertIdx before.length x = before ++ x :: behind := by
  induction before with
  | nil => rfl
  | cons a before ih => exact congrArg (a :: ·) ih

/-- **The insertion, as a viewer sees it.** Where the unit has a first NAL of type 1 to 5, the
SEI is spliced in at one position of the bytes and, in the viewer's list of NALs, right before
that NAL; otherwise the unit is left as it is. -/
theorem insertion_preserves (unit : List UInt8) (uuid : Vector UInt8 16) (payload : List UInt8) :
    match (splitAnnexB unit).findIdx? Nal.vcl with
    | some k =>
      let sei := encodeUserDataSeiNal uuid payload
      (insertBeforeFirstVcl unit sei).2 = true ∧
      (∃ place ≤ unit.length,
        (insertBeforeFirstVcl unit sei).1 = unit.take place ++ sei ++ unit.drop place) ∧
      ∃ nal, splitAnnexB sei = [nal] ∧
        splitAnnexB (insertBeforeFirstVcl unit sei).1 = (splitAnnexB unit).insertIdx k nal
    | none => insertBeforeFirstVcl unit (encodeUserDataSeiNal uuid payload) = (unit, false) := by
  rcases insert_cases unit (encodeUserDataSeiNal uuid payload) with ⟨nowhere, unchanged⟩ | ⟨-, done, inserted⟩
  · have none' : (splitAnnexB unit).findIdx? Nal.vcl = none := by
      rw [List.findIdx?_eq_none_iff]
      intro nal found
      rw [Bool.eq_false_iff]
      intro vcl
      obtain ⟨j, here⟩ := vclAt_of_split found vcl
      exact nowhere j here
    rw [none']
    exact unchanged
  · obtain ⟨before, behind, rfl, bytes, starts, least⟩ := inserted
    obtain ⟨zeroByte, header, rest, zero, vcl, rfl⟩ := starts.cut
    obtain ⟨slice, first, sliceVcl⟩ := pieceNal_vcl vcl rest
    have original : splitAnnexB (before ++ (zeroByte ++ 0 :: 0 :: 1 :: header :: rest)) =
        splitAnnexB before ++ slice :: splitAnnexB (header :: rest) := by
      rw [← List.append_assoc, split_code, split_zeroByte zero, first]
      rfl
    -- no NAL before the insertion is a VCL NAL
    have earlier : ∀ nal ∈ splitAnnexB before, nal.vcl = false := by
      intro nal found
      rw [Bool.eq_false_iff]
      intro nalVcl
      obtain ⟨j, here⟩ := vclAt_of_split found nalVcl
      have inside := here.size
      have := least j (here.append _)
      omega
    have index : (splitAnnexB (before ++ (zeroByte ++ 0 :: 0 :: 1 :: header :: rest))).findIdx?
        Nal.vcl = some (splitAnnexB before).length := by
      rw [original, List.findIdx?_append, List.findIdx?_eq_none_iff.2 earlier, List.findIdx?_cons,
        if_pos sliceVcl]
      simp
    rw [index]
    refine ⟨done, ⟨before.length, by simp, by rw [bytes]; simp⟩, _, split_encoded uuid payload, ?_⟩
    rw [bytes, split_spliced uuid payload before (header :: rest) zero, first, original,
      insertIdx_append_length]
    rfl

end SkaiEdge.WebRtc
