import SkaiEdge.WebRtc.DetectionSei

/-!
# The viewer's side of the SEI contract (`tests/support/h264_sei_test_support.hpp`)

The reader is written from H.264 7.3.2.3 / D.1.6 rather than from the encoder, so both sides
must agree on the byte layout: `sei_round_trip` says that they do, for every uuid and payload.
-/

namespace SkaiEdge.WebRtc

open SkaiEdge.Lib

structure Nal where
  type : UInt8
  /-- The bytes after the one-byte NAL header. -/
  ebsp : List UInt8
  deriving DecidableEq, Repr

/-- The indices behind the start codes, from index `i` on. -/
def nalStarts (i : Nat) : List UInt8 → List Nat
  | a :: b :: c :: rest =>
    if a = 0 ∧ b = 0 ∧ c = 1 then (i + 3) :: nalStarts (i + 3) rest
    else nalStarts (i + 1) (b :: c :: rest)
  | _ => []

/-- The NALs behind the given starts, each without its trailing zero bytes; an empty one is
skipped. -/
def nalsAt (bytes : List UInt8) : List Nat → List Nal
  | [] => []
  | start :: later =>
    let stop := match later with
      | next :: _ => next - 3
      | [] => bytes.length
    match ((bytes.take stop).drop start).rdropWhile (· = 0) with
    | [] => nalsAt bytes later
    | header :: ebsp => ⟨header &&& 0x1f, ebsp⟩ :: nalsAt bytes later

def splitAnnexB (bytes : List UInt8) : List Nal := nalsAt bytes (nalStarts 0 bytes)

def removeEmulationPrevention (ebsp : List UInt8) : List UInt8 := AnnexB.unescape 0 ebsp

structure ParsedSei where
  uuid : Vector UInt8 16
  payload : List UInt8
  trailingBitsOk : Bool
  deriving DecidableEq, Repr

/-- A payload type or size: the sum of a run of `ff` and the byte behind it. -/
def readChained : List UInt8 → Option (Nat × List UInt8)
  | [] => none
  | byte :: rest =>
    if byte = 0xff then (readChained rest).map fun (sum, rest) => (byte.toNat + sum, rest)
    else some (byte.toNat, rest)

theorem uuid_size {size : Nat} {rest : List UInt8} (fits : ¬ (size < 16 ∨ size > rest.length)) :
    (rest.take 16).toArray.size = 16 := by
  rw [List.size_toArray, List.length_take]
  omega

def parseUserDataSei (nal : Nal) : Option ParsedSei :=
  if nal.type ≠ 6 then none
  else
    match readChained (removeEmulationPrevention nal.ebsp) with
    | none => none
    | some (type, rest) =>
      match readChained rest with
      | none => none
      | some (size, rest) =>
        if type ≠ 5 then none
        else if fits : size < 16 ∨ size > rest.length then none
        else
          some {
            uuid := ⟨(rest.take 16).toArray, uuid_size fits⟩
            payload := (rest.take size).drop 16
            trailingBitsOk := rest.drop size = [0x80] }

/-- Bytes without a start code. -/
theorem nalStarts_nil {bytes : List UInt8} (i : Nat) (free : ¬ [0, 0, 1] <:+: bytes) :
    nalStarts i bytes = [] := by
  induction bytes using AnnexB.pieces.induct generalizing i with
  | case1 a b c rest code ih =>
    obtain ⟨rfl, rfl, rfl⟩ := code
    exact absurd (List.IsPrefix.isInfix ⟨rest, rfl⟩) free
  | case2 a b c rest other ih =>
    rw [nalStarts, if_neg other]
    exact ih (i + 1) fun inside => free (inside.trans (List.suffix_cons a _).isInfix)
  | case3 bytes short =>
    rw [nalStarts]
    exact short

theorem rdropWhile_ends {bytes : List UInt8} {last : UInt8} (ends : bytes.getLast? = some last)
    (nonzero : last ≠ 0) : bytes.rdropWhile (· = 0) = bytes := by
  rw [List.rdropWhile_eq_self_iff]
  intro nonempty
  rw [List.getLast?_eq_some_getLast nonempty, Option.some.injEq] at ends
  simpa [ends] using nonzero

/-- A start code of four bytes before bytes that hold no other and do not end in zero is one
NAL. -/
theorem splitAnnexB_single {header last : UInt8} {ebsp : List UInt8}
    (clean : AnnexB.Clean (header :: ebsp)) (ends : (header :: ebsp).getLast? = some last)
    (nonzero : last ≠ 0) :
    splitAnnexB ([0, 0, 0, 1] ++ header :: ebsp) = [⟨header &&& 0x1f, ebsp⟩] := by
  have starts : nalStarts 0 ([0, 0, 0, 1] ++ header :: ebsp) = [4] := by
    have rest := nalStarts_nil 4 (clean 1 (by decide))
    simp [nalStarts, rest]
  have all : (([0, 0, 0, 1] ++ header :: ebsp).take ([0, 0, 0, 1] ++ header :: ebsp).length).drop 4
      = header :: ebsp := by
    rw [List.take_length]
    rfl
  simp only [splitAnnexB, starts, nalsAt, all, rdropWhile_ends ends nonzero]

/-- The size chaining is read back, at every multiple of 255 too. -/
theorem readChained_chainedSize (size : Nat) (rest : List UInt8) :
    readChained (chainedSize size ++ rest) = some (size, rest) := by
  induction size using Nat.strongRecOn with
  | ind size ih =>
    unfold chainedSize
    by_cases full : size ≥ 255
    · rw [if_pos full, List.cons_append, readChained, if_pos rfl, ih (size - 255) (by omega)]
      simp only [Option.map_some, Option.some.injEq, Prod.mk.injEq, and_true]
      change 255 + (size - 255) = size
      omega
    · have small : (UInt8.ofNat size).toNat = size := by
        rw [UInt8.toNat_ofNat']
        omega
      have plain : UInt8.ofNat size ≠ 0xff := by
        intro same
        have := congrArg UInt8.toNat same
        rw [small] at this
        change size = 255 at this
        omega
      rw [if_neg full, List.singleton_append, readChained, if_neg plain, small]

/-- What the reader finds once the emulation prevention bytes are gone. -/
theorem rbsp_reads (uuid : Vector UInt8 16) (payload : List UInt8) :
    readChained (userDataRbsp uuid payload) =
        some (5, chainedSize (16 + payload.length) ++ (uuid.toList ++ payload ++ [0x80])) ∧
      readChained (chainedSize (16 + payload.length) ++ (uuid.toList ++ payload ++ [0x80])) =
        some (16 + payload.length, uuid.toList ++ payload ++ [0x80]) := by
  refine ⟨?_, readChained_chainedSize ..⟩
  simp [userDataRbsp, readChained]

theorem parse_encoded (uuid : Vector UInt8 16) (payload : List UInt8) :
    parseUserDataSei ⟨6, AnnexB.escape 0 (userDataRbsp uuid payload)⟩ =
      some ⟨uuid, payload, true⟩ := by
  obtain ⟨type, size⟩ := rbsp_reads uuid payload
  have sixteen : uuid.toList.length = 16 := by simp
  have fits : ¬ (16 + payload.length < 16 ∨
      16 + payload.length > (uuid.toList ++ payload ++ [0x80]).length) := by
    simp only [List.length_append, sixteen, List.length_cons, List.length_nil]
    omega
  have whole : (uuid.toList ++ payload).length = 16 + payload.length := by simp
  have head : (uuid.toList ++ payload ++ [0x80]).take 16 = uuid.toList := by
    rw [List.append_assoc, List.take_left' sixteen]
  have middle :
      ((uuid.toList ++ payload ++ [0x80]).take (16 + payload.length)).drop 16 = payload := by
    rw [List.take_left' whole, List.drop_left' sixteen]
  have tail : (uuid.toList ++ payload ++ [0x80]).drop (16 + payload.length) = [0x80] :=
    List.drop_left' whole
  unfold parseUserDataSei
  simp only [removeEmulationPrevention, AnnexB.unescape_escape, type, size, fits, head, middle,
    tail, ne_eq, not_true_eq_false, if_false, dite_false, decide_true, Option.some.injEq,
    ParsedSei.mk.injEq, and_true]
  rfl

theorem encoded_clean (uuid : Vector UInt8 16) (payload : List UInt8) :
    AnnexB.Clean (6 :: AnnexB.escape 0 (userDataRbsp uuid payload)) :=
  (AnnexB.escape_clean 0 (userDataRbsp uuid payload) (by omega)).cons (by decide)

theorem encoded_ends (uuid : Vector UInt8 16) (payload : List UInt8) :
    (6 :: AnnexB.escape 0 (userDataRbsp uuid payload)).getLast? = some 0x80 := by
  rw [userDataRbsp, AnnexB.escape_snoc 0 _ (by decide), ← List.cons_append,
    List.getLast?_append_cons]
  rfl

/-- The viewer finds one NAL in what the encoder writes. -/
theorem split_encoded (uuid : Vector UInt8 16) (payload : List UInt8) :
    splitAnnexB (encodeUserDataSeiNal uuid payload) =
      [⟨6, AnnexB.escape 0 (userDataRbsp uuid payload)⟩] :=
  splitAnnexB_single (encoded_clean uuid payload) (encoded_ends uuid payload) (by decide)

/-- **The SEI NAL round trip.** The encoded bytes are a start code, the header of a NAL of type
6 and its payload, in which nothing looks like a start code; a viewer splits them into that one
NAL and reads back type 5, the size, the uuid, the payload and exactly one trailing `80`. -/
theorem sei_round_trip (uuid : Vector UInt8 16) (payload : List UInt8) :
    ∃ ebsp rest, encodeUserDataSeiNal uuid payload = [0, 0, 0, 1] ++ 6 :: ebsp ∧
      (∀ c : UInt8, c ≤ 2 → ¬ [0, 0, c] <:+: 6 :: ebsp) ∧
      splitAnnexB (encodeUserDataSeiNal uuid payload) = [⟨6, ebsp⟩] ∧
      readChained (removeEmulationPrevention ebsp) = some (5, rest) ∧
      readChained rest = some (16 + payload.length, uuid.toList ++ payload ++ [0x80]) ∧
      parseUserDataSei ⟨6, ebsp⟩ = some ⟨uuid, payload, true⟩ := by
  obtain ⟨type, size⟩ := rbsp_reads uuid payload
  refine ⟨AnnexB.escape 0 (userDataRbsp uuid payload), _, rfl, encoded_clean uuid payload,
    split_encoded uuid payload, ?_, size, parse_encoded uuid payload⟩
  rw [removeEmulationPrevention, AnnexB.unescape_escape, type]

end SkaiEdge.WebRtc
