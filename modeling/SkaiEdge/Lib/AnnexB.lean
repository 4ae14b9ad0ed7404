import Mathlib

/-!
# The Annex-B byte stream

A NAL unit follows a start code `00 00 01`, and an encoder writes an emulation prevention byte
`03` wherever the unit's own bytes would look like one. `escape` and `unescape` carry the
number of zero bytes just passed, as an encoder and a decoder do; `unescape_escape` says that
they agree on it, and `escape_clean` that no start code is left in what was escaped. `pieces`
cuts a stream at its start codes. A start code does not overlap another one, so wherever one
stands the stream is cut there (`pieces_code`).
-/

namespace SkaiEdge.Lib.AnnexB

/-- `bytes` with emulation prevention, after `zeros` zero bytes. -/
def escape (zeros : Nat) : List UInt8 → List UInt8
  | [] => []
  | byte :: bytes =>
    if zeros ≥ 2 ∧ byte ≤ 3 then 3 :: byte :: escape (if byte = 0 then 0 + 1 else 0) bytes
    else byte :: escape (if byte = 0 then zeros + 1 else 0) bytes

/-- `bytes` without the emulation prevention bytes, after `zeros` zero bytes. -/
def unescape (zeros : Nat) : List UInt8 → List UInt8
  | [] => []
  | byte :: bytes =>
    if zeros ≥ 2 ∧ byte = 3 then unescape 0 bytes
    else byte :: unescape (if byte = 0 then zeros + 1 else 0) bytes

/-- The decoder's zero counter follows the encoder's, whatever the bytes. -/
theorem unescape_escape (zeros : Nat) (bytes : List UInt8) :
    unescape zeros (escape zeros bytes) = bytes := by
  induction bytes generalizing zeros with
  | nil => rfl
  | cons byte bytes ih =>
    unfold escape
    by_cases emulates : zeros ≥ 2 ∧ byte ≤ 3
    · rw [if_pos emulates]
      simp [unescape, emulates.1, ih]
    · have kept : ¬ (zeros ≥ 2 ∧ byte = 3) := by
        rintro ⟨run, rfl⟩
        exact emulates ⟨run, by decide⟩
      rw [if_neg emulates]
      simp [unescape, kept, ih]

/-- A byte that cannot belong to a start code is written as it is. -/
theorem escape_snoc (zeros : Nat) (bytes : List UInt8) {last : UInt8} (large : 3 < last) :
    escape zeros (bytes ++ [last]) = escape zeros bytes ++ [last] := by
  have plain : ¬ last ≤ 3 := UInt8.not_le.2 large
  induction bytes generalizing zeros with
  | nil => simp [escape, plain]
  | cons byte bytes ih =>
    simp only [List.cons_append, escape, ih]
    split <;> rfl

/-- Bytes that cannot bring the counter to 2 are written as they are. -/
theorem escape_plain {zeros : Nat} {bytes : List UInt8} (few : zeros + bytes.count 0 ≤ 1) :
    escape zeros bytes = bytes := by
  induction bytes generalizing zeros with
  | nil => rfl
  | cons byte bytes ih =>
    have low : ¬ (zeros ≥ 2 ∧ byte ≤ 3) := by omega
    rw [escape, if_neg low]
    congr 1
    by_cases zero : byte = 0
    · rw [zero, List.count_cons_self] at few
      rw [if_pos zero]
      exact ih (by omega)
    · rw [List.count_cons_of_ne zero] at few
      rw [if_neg zero]
      exact ih (by omega)

/-- No two zero bytes are followed by a byte below 3. -/
def Clean (bytes : List UInt8) : Prop := ∀ c : UInt8, c ≤ 2 → ¬ [0, 0, c] <:+: bytes

theorem Clean.cons {byte : UInt8} {bytes : List UInt8} (clean : Clean bytes) (nonzero : byte ≠ 0) :
    Clean (byte :: bytes) := by
  intro c small found
  rcases List.infix_cons_iff.1 found with ahead | inside
  · exact nonzero (List.cons_prefix_cons.1 ahead).1.symm
  · exact clean c small inside

/-- A run of at most two zero bytes before a byte that ends it. -/
theorem Clean.zeros {zeros : Nat} {byte : UInt8} {bytes : List UInt8} (clean : Clean bytes)
    (short : zeros ≤ 2) (nonzero : byte ≠ 0) (ends : zeros = 2 → 2 < byte) :
    Clean (List.replicate zeros 0 ++ byte :: bytes) := by
  intro c small found
  have inside := clean.cons nonzero c small
  obtain rfl | rfl | rfl : zeros = 0 ∨ zeros = 1 ∨ zeros = 2 := by omega
  · exact inside found
  · change [0, 0, c] <:+: 0 :: byte :: bytes at found
    rcases List.infix_cons_iff.1 found with ahead | inner
    · simp only [List.cons_prefix_cons] at ahead
      exact nonzero ahead.2.1.symm
    · exact inside inner
  · change [0, 0, c] <:+: 0 :: 0 :: byte :: bytes at found
    rcases List.infix_cons_iff.1 found with ahead | inner
    · simp only [List.cons_prefix_cons] at ahead
      have large := ends rfl
      rw [← ahead.2.2.1] at large
      exact absurd small (UInt8.not_le.2 large)
    · rcases List.infix_cons_iff.1 inner with ahead | inner
      · simp only [List.cons_prefix_cons] at ahead
        exact nonzero ahead.2.1.symm
      · exact inside inner

/-- Escaped bytes are clean, also behind the zero bytes the counter stands for. The induction
carries the counter: it never passes 2, because a third zero byte is itself escaped. -/
theorem escape_clean (zeros : Nat) (bytes : List UInt8) (short : zeros ≤ 2) :
    Clean (List.replicate zeros 0 ++ escape zeros bytes) := by
  induction bytes generalizing zeros with
  | nil =>
    intro c _ found
    have size := found.length_le
    simp only [escape, List.append_nil, List.length_replicate, List.length_cons,
      List.length_nil] at size
    omega
  | cons byte bytes ih =>
    unfold escape
    by_cases emulates : zeros ≥ 2 ∧ byte ≤ 3
    · rw [if_pos emulates]
      apply Clean.zeros _ short (by decide) (fun _ => by decide)
      by_cases zero : byte = 0
      · subst zero
        exact ih 1 (by omega)
      · rw [if_neg zero]
        exact (ih 0 (by omega)).cons zero
    · rw [if_neg emulates]
      by_cases zero : byte = 0
      · subst zero
        have room : zeros + 1 ≤ 2 := by
          by_contra full
          exact emulates ⟨by omega, by decide⟩
        have grown := ih (zeros + 1) room
        rw [List.replicate_succ', List.append_assoc] at grown
        exact grown
      · rw [if_neg zero]
        refine (ih 0 (by omega)).zeros short zero fun two => ?_
        have large : ¬ byte ≤ 3 := fun small => emulates ⟨by omega, small⟩
        exact UInt8.lt_trans (by decide) (UInt8.not_le.1 large)

/-- The bytes before the first start code, and the bytes behind each start code up to the next. -/
def pieces : List UInt8 → List UInt8 × List (List UInt8)
  | a :: b :: c :: rest =>
    if a = 0 ∧ b = 0 ∧ c = 1 then ([], (pieces rest).1 :: (pieces rest).2)
    else (a :: (pieces (b :: c :: rest)).1, (pieces (b :: c :: rest)).2)
  | bytes => (bytes, [])

theorem pieces_cons {a : UInt8} {bytes : List UInt8} (other : ¬ [0, 0, 1] <+: a :: bytes) :
    pieces (a :: bytes) = (a :: (pieces bytes).1, (pieces bytes).2) := by
  match bytes with
  | [] | [_] => rfl
  | b :: c :: rest =>
    rw [pieces, if_neg]
    rintro ⟨rfl, rfl, rfl⟩
    exact other ⟨rest, rfl⟩

/-- Bytes without a start code are one piece. -/
theorem pieces_free {bytes : List UInt8} (free : ¬ [0, 0, 1] <:+: bytes) :
    pieces bytes = (bytes, []) := by
  induction bytes with
  | nil => rfl
  | cons a bytes ih =>
    rw [pieces_cons fun ahead => free ahead.isInfix,
      ih fun inside => free (inside.trans (List.suffix_cons a bytes).isInfix)]

/-- **The stream is cut at every start code.** -/
theorem pieces_code (before rest : List UInt8) :
    pieces (before ++ 0 :: 0 :: 1 :: rest) =
      ((pieces before).1, (pieces before).2 ++ (pieces rest).1 :: (pieces rest).2) := by
  fun_induction pieces before with
  | case1 a b c bytes code ih =>
    simp only [List.cons_append]
    rw [pieces, if_pos code, ih]
  | case2 a b c bytes other ih =>
    simp only [List.cons_append] at ih ⊢
    rw [pieces, if_neg other, ih]
  | case3 bytes short =>
    -- what is left is too short for a start code, and none begins in it and ends behind it
    match bytes, short with
    | [], _ => simp [pieces]
    | [a], _ => simp [pieces]
    | [a, b], _ => simp [pieces]
    | a :: b :: c :: rest, short => exact absurd rfl (short a b c rest)

/-- Of the bytes behind a start code, the first piece begins with their first byte, if it is
not empty. -/
theorem pieces_head {header : UInt8} {piece bytes : List UInt8}
    (first : (pieces bytes).1 = header :: piece) : bytes.head? = some header := by
  match bytes with
  | [] | [_] | [_, _] =>
    simp only [pieces] at first
    simp [first]
  | a :: b :: c :: rest =>
    rw [pieces] at first
    split at first
    · contradiction
    · exact congrArg some (List.cons.inj first).1

/-- A zero byte at the end belongs to the last piece: whoever does not look at trailing zero
bytes does not see it. -/
theorem pieces_concat_zero {β : Type*} {f : List UInt8 → Option β}
    (blind : ∀ piece, f (piece ++ [0]) = f piece) (bytes : List UInt8) :
    ((pieces (bytes ++ [0])).1 = (pieces bytes).1 ∨
        (pieces (bytes ++ [0])).1 = (pieces bytes).1 ++ [0]) ∧
      (pieces (bytes ++ [0])).2.filterMap f = (pieces bytes).2.filterMap f := by
  fun_induction pieces bytes with
  | case1 a b c bytes code ih =>
    simp only [List.cons_append]
    rw [pieces, if_pos code]
    obtain ⟨first, rest⟩ := ih
    have same : f (pieces (bytes ++ [0])).1 = f (pieces bytes).1 := by
      rcases first with same | longer
      · rw [same]
      · rw [longer, blind]
    exact ⟨.inl rfl, by simp only [List.filterMap_cons, same, rest]⟩
  | case2 a b c bytes other ih =>
    simp only [List.cons_append] at ih ⊢
    rw [pieces, if_neg other]
    exact ⟨ih.1.imp (fun same => by rw [same]) (fun longer => by rw [longer]), ih.2⟩
  | case3 bytes short =>
    match bytes, short with
    | [], _ => simp [pieces]
    | [a], _ => simp [pieces]
    | [a, b], _ => simp [pieces]
    | a :: b :: c :: rest, short => exact absurd rfl (short a b c rest)

end SkaiEdge.Lib.AnnexB
