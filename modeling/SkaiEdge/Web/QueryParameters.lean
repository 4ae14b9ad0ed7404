import SkaiEdge.Lib.Text
import SkaiEdge.Lib.Json

/-!
# The query string of a request (`src/web/router.cpp`)

`query_parameters` walks the target by positions: the delimiter in front of a segment, the next `&`
and the next `=`. Texts are bytes: `?` is `0x3f`, `&` is `0x26`, `=` is `0x3d` and `%` is `0x25`.
`PercentDecoded`, `Malformed` and `lastValue` say what a query means, apart from the walk.
-/

namespace SkaiEdge.Web

open SkaiEdge.Lib
open SkaiEdge.Lib.Json (hexDigit isDigit)

/-- The `unordered_map` of names to values. -/
abbrev Parameters := List UInt8 → Option (List UInt8)

/-- `std::from_chars(…, value, 16)`: the value of the leading hexadecimal digits and the rest. -/
def fromCharsHex (text : List UInt8) : Option (Nat × List UInt8) :=
  let digits := text.takeWhile fun c => (hexDigit c).isSome
  let value := digits.foldl (fun value c => value * 16 + (hexDigit c).getD 0) 0
  if digits = [] ∨ value ≥ 2 ^ 32 then none
  else some (value, text.dropWhile fun c => (hexDigit c).isSome)

/-- `none` where the source answers `false`; its caller then drops what was decoded. -/
def decodeComponent : List UInt8 → Option (List UInt8)
  | [] => some []
  | c :: encoded =>
    if c ≠ 0x25 then (decodeComponent encoded).map (c :: ·)
    else
      match encoded with
      | high :: low :: encoded =>
        match fromCharsHex [high, low] with
        | some (value, []) => (decodeComponent encoded).map (UInt8.ofNat value :: ·)
        | _ => none
      | _ => none

/-- The loop of `query_parameters`; `npos` is `none`. Each turn moves behind a later delimiter, so
the length of the target bounds the turns. -/
def queryLoop (target : List UInt8) : Nat → Option Nat → Parameters → Bool × Parameters
  | 0, _, values => (true, values)
  | _ + 1, none, values => (true, values)
  | turns + 1, some position, values =>
    if position + 1 < target.length then
      let stop := Text.find target 0x26 (position + 1)
      match Text.find target 0x3d (position + 1) with
      | none => (true, values)
      | some equal =>
        if stop.any (equal > ·) then (true, values)
        else
          let encoded := (target.drop (equal + 1)).take (stop.getD target.length - equal - 1)
          match decodeComponent encoded with
          | none => (false, values)
          | some value =>
            let name := (target.drop (position + 1)).take (equal - position - 1)
            queryLoop target turns stop (Function.update values name (some value))
    else (true, values)

def queryParameters (target : List UInt8) (values : Parameters) : Bool × Parameters :=
  queryLoop target (target.length + 1) (Text.find target 0x3f 0) values

/-! The alert list reads its filters from the parameters. -/

def ascii (text : String) : List UInt8 := text.toList.map fun c => UInt8.ofNat c.toNat

/-- `std::from_chars` over the whole text: an optional `-` where the type is signed, then digits. -/
def parseNumber (signed : Bool) (least greatest : Int) (text : List UInt8) : Option Int :=
  let negative := signed && text.head? = some 0x2d
  let digits := if negative then text.drop 1 else text
  let magnitude : Int := digits.foldl (fun value c => value * 10 + (c.toNat - 48 : Nat)) (0 : Nat)
  let value := if negative then -magnitude else magnitude
  if digits ≠ [] ∧ digits.all isDigit ∧ least ≤ value ∧ value ≤ greatest then some value else none

inductive AlertFilter where
  | timeRange (fromMs toMs : Int) (limit : Int)
  | byClass (name : List UInt8) (limit : Int)
  | recent (limit : Int)
  deriving DecidableEq, Repr

/-- The query of `/api/v1/alerts`, or the error of its 400 response. -/
def alertFilter (target : List UInt8) : Except String AlertFilter :=
  let (decoded, parameters) := queryParameters target fun _ => none
  if !decoded then .error "invalid query encoding"
  else
    let limit := match parameters (ascii "limit") with
      | none => some 100
      | some text => (parseNumber false 0 (2 ^ 64 - 1) text).filter fun n => 0 < n ∧ n ≤ 1000
    match limit with
    | none => .error "invalid limit"
    | some limit =>
      match parameters (ascii "from"), parameters (ascii "to"), parameters (ascii "class") with
      | some fromMs, some toMs, none =>
        match parseNumber true (-2 ^ 63) (2 ^ 63 - 1) fromMs,
            parseNumber true (-2 ^ 63) (2 ^ 63 - 1) toMs with
        | some fromMs, some toMs => .ok (.timeRange fromMs toMs limit)
        | _, _ => .error "invalid time range"
      | none, none, some name => .ok (.byClass name limit)
      | none, none, none => .ok (.recent limit)
      | _, _, _ => .error "invalid alert filters"

/-! ## What a query means -/

inductive PercentDecoded : List UInt8 → List UInt8 → Prop where
  | nil : PercentDecoded [] []
  | plain {c : UInt8} {text bytes : List UInt8} : c ≠ 0x25 → PercentDecoded text bytes →
      PercentDecoded (c :: text) (c :: bytes)
  | escape {high low : UInt8} {h l : Nat} {text bytes : List UInt8} : hexDigit high = some h →
      hexDigit low = some l → PercentDecoded text bytes →
      PercentDecoded (0x25 :: high :: low :: text) (UInt8.ofNat (16 * h + l) :: bytes)

def TwoDigits (text : List UInt8) : Prop :=
  ∃ high low rest, text = high :: low :: rest ∧ (hexDigit high).isSome ∧ (hexDigit low).isSome

/-- Some `%` is not followed by two hexadecimal digits. -/
def Malformed (text : List UInt8) : Prop :=
  ∃ before behind, text = before ++ 0x25 :: behind ∧ ¬TwoDigits behind

/-- The text behind the first `?`, split on `&`. -/
def segments (target : List UInt8) : List (List UInt8) :=
  ((target.dropWhile (· ≠ 0x3f)).drop 1).splitOn 0x26

/-- The texts around the first `=` of each segment that has one. -/
def namedValues (parts : List (List UInt8)) : List (List UInt8 × List UInt8) :=
  (parts.filter (·.contains 0x3d)).map fun part =>
    (part.takeWhile (· ≠ 0x3d), (part.dropWhile (· ≠ 0x3d)).drop 1)

/-- The last occurrence wins. -/
def lastValue (pairs : List (List UInt8 × List UInt8)) (name : List UInt8) :
    Option (List UInt8) :=
  (pairs.reverse.find? (·.1 = name)).map (·.2)

/-- `query_parameters` answers what the query means. -/
structure Agrees (target : List UInt8) : Prop where
  rejects : (queryParameters target fun _ => none).1 = false ↔
    ∃ pair ∈ namedValues (segments target), Malformed pair.2
  values : (queryParameters target fun _ => none).1 = true → ∀ name value,
    (queryParameters target fun _ => none).2 name = some value ↔
      ∃ text, lastValue (namedValues (segments target)) name = some text ∧
        PercentDecoded text value

/-- The named values in front of the first segment without `=`, and those behind it. -/
def front (target : List UInt8) : List (List UInt8 × List UInt8) :=
  namedValues ((segments target).takeWhile (·.contains 0x3d))

def back (target : List UInt8) : List (List UInt8 × List UInt8) :=
  namedValues ((segments target).dropWhile (·.contains 0x3d))

/-- Nothing behind the first segment without `=` matters. -/
def Unaffected (target : List UInt8) : Prop :=
  (∃ pair ∈ front target, Malformed pair.2) ∨
  (∀ pair ∈ back target, ¬Malformed pair.2) ∧
    ∀ name text, lastValue (back target) name = some text →
      ∃ before value, lastValue (front target) name = some before ∧
        PercentDecoded before value ∧ PercentDecoded text value

/-! ## Decoding -/

theorem hexDigit_lt {c : UInt8} {n : Nat} (digit : hexDigit c = some n) : n < 16 := by
  revert n
  revert c
  decide +kernel

/-- The two bytes behind a `%` are read exactly when both are digits. -/
theorem fromCharsHex_pair (high low : UInt8) (value : Nat) :
    fromCharsHex [high, low] = some (value, []) ↔
      ∃ h l, hexDigit high = some h ∧ hexDigit low = some l ∧ value = 16 * h + l := by
  cases first : hexDigit high with
  | none => simp [fromCharsHex, first]
  | some h =>
    cases second : hexDigit low with
    | none => simp [fromCharsHex, first, second]
    | some l =>
      have h16 := hexDigit_lt first
      have l16 := hexDigit_lt second
      have small : ¬4294967296 ≤ h * 16 + l := by omega
      simp only [fromCharsHex, List.takeWhile_cons, List.dropWhile_cons, first, second]
      simp [small, first, second]
      omega

theorem decodeComponent_plain {c : UInt8} (plain : c ≠ 0x25) (text : List UInt8) :
    decodeComponent (c :: text) = (decodeComponent text).map (c :: ·) := by
  rw [decodeComponent.eq_def]
  exact if_pos plain

theorem decodeComponent_escape {high low : UInt8} {h l : Nat} (first : hexDigit high = some h)
    (second : hexDigit low = some l) (text : List UInt8) :
    decodeComponent (0x25 :: high :: low :: text) =
      (decodeComponent text).map (UInt8.ofNat (16 * h + l) :: ·) := by
  rw [decodeComponent, if_neg (by simp)]
  simp only [(fromCharsHex_pair high low _).2 ⟨h, l, first, second, rfl⟩]

theorem decodeComponent_of_percentDecoded {text bytes : List UInt8}
    (decoded : PercentDecoded text bytes) : decodeComponent text = some bytes := by
  induction decoded with
  | nil => rfl
  | plain other _ ih => rw [decodeComponent_plain other, ih, Option.map_some]
  | escape first second _ ih => rw [decodeComponent_escape first second, ih, Option.map_some]

theorem malformed_cons (c : UInt8) (text : List UInt8) :
    Malformed (c :: text) ↔ (c = 0x25 ∧ ¬TwoDigits text) ∨ Malformed text := by
  constructor
  · rintro ⟨before, behind, shape, bad⟩
    cases before with
    | nil =>
      obtain ⟨rfl, rfl⟩ := List.cons.inj shape
      exact .inl ⟨rfl, bad⟩
    | cons d before =>
      obtain ⟨rfl, rfl⟩ := List.cons.inj shape
      exact .inr ⟨before, behind, rfl, bad⟩
  · rintro (⟨rfl, bad⟩ | ⟨before, behind, rfl, bad⟩)
    · exact ⟨[], text, rfl, bad⟩
    · exact ⟨c :: before, behind, rfl, bad⟩

theorem malformed_escape {high low : UInt8} {h l : Nat} (first : hexDigit high = some h)
    (second : hexDigit low = some l) (text : List UInt8) :
    Malformed (0x25 :: high :: low :: text) ↔ Malformed text := by
  have digit : ∀ {c n}, hexDigit c = some n → c ≠ 0x25 := by
    rintro c n value rfl
    simp [hexDigit, isDigit] at value
  have two : TwoDigits (high :: low :: text) := ⟨high, low, text, rfl, by simp [first, second]⟩
  simp [malformed_cons, two, digit first, digit second]

/-- A text is decoded or has a bad `%`, never both. -/
theorem decodeComponent_cases (text : List UInt8) :
    (∃ bytes, decodeComponent text = some bytes ∧ PercentDecoded text bytes ∧ ¬Malformed text) ∨
    decodeComponent text = none ∧ Malformed text := by
  induction text using decodeComponent.induct with
  | case1 => exact .inl ⟨[], rfl, .nil, by rintro ⟨before, behind, shape, -⟩; simp at shape⟩
  | case2 c text plain ih =>
    rw [decodeComponent_plain plain, malformed_cons]
    obtain ⟨bytes, answer, decoded, good⟩ | ⟨answer, bad⟩ := ih
    · exact .inl ⟨c :: bytes, by rw [answer, Option.map_some], .plain plain decoded, by simp [plain, good]⟩
    · exact .inr ⟨by rw [answer, Option.map_none], .inr bad⟩
  | case3 c percent high low text value pair ih =>
    obtain rfl : c = 0x25 := not_not.1 percent
    obtain ⟨h, l, first, second, rfl⟩ := (fromCharsHex_pair high low value).1 pair
    rw [decodeComponent_escape first second, malformed_escape first second]
    obtain ⟨bytes, answer, decoded, good⟩ | ⟨answer, bad⟩ := ih
    · exact .inl ⟨_, by rw [answer, Option.map_some], .escape first second decoded, good⟩
    · exact .inr ⟨by rw [answer, Option.map_none], bad⟩
  | case4 c percent high low text unread =>
    obtain rfl : c = 0x25 := not_not.1 percent
    refine .inr ⟨?_, (malformed_cons _ _).2 (.inl ⟨rfl, ?_⟩)⟩
    · rw [decodeComponent, if_neg (by simp)]
      split
      · next pair => exact absurd pair (unread _)
      · rfl
    · rintro ⟨high', low', rest, shape, first, second⟩
      obtain ⟨h, first⟩ := Option.isSome_iff_exists.1 first
      obtain ⟨l, second⟩ := Option.isSome_iff_exists.1 second
      simp only [List.cons.injEq] at shape
      obtain ⟨rfl, rfl, rfl⟩ := shape
      exact unread _ ((fromCharsHex_pair _ _ _).2 ⟨h, l, first, second, rfl⟩)
  | case5 c text percent short =>
    obtain rfl : c = 0x25 := not_not.1 percent
    refine .inr ⟨?_, (malformed_cons _ _).2 (.inl ⟨rfl, ?_⟩)⟩
    · rw [decodeComponent.eq_def]
      simp only [ne_eq, not_true_eq_false, if_false]
    · rintro ⟨high, low, rest, shape, -⟩
      exact short high low rest shape

theorem decodeComponent_eq_some_iff {text bytes : List UInt8} :
    decodeComponent text = some bytes ↔ PercentDecoded text bytes := by
  refine ⟨fun answer => ?_, decodeComponent_of_percentDecoded⟩
  obtain ⟨found, answer', decoded, -⟩ | ⟨answer', -⟩ := decodeComponent_cases text
  · obtain rfl := Option.some.inj (answer.symm.trans answer')
    exact decoded
  · cases answer.symm.trans answer'

theorem decodeComponent_eq_none_iff {text : List UInt8} :
    decodeComponent text = none ↔ Malformed text := by
  obtain ⟨bytes, answer, -, good⟩ | ⟨answer, bad⟩ := decodeComponent_cases text
  · simp [answer, good]
  · simp [answer, bad]

/-! ## The walk over the segments -/

/-- One segment after the other, up to the first without `=`. -/
def readParts : List (List UInt8) → Parameters → Bool × Parameters
  | [], values => (true, values)
  | part :: parts, values =>
    if part.contains 0x3d then
      match decodeComponent ((part.dropWhile (· ≠ 0x3d)).drop 1) with
      | none => (false, values)
      | some value =>
        readParts parts (Function.update values (part.takeWhile (· ≠ 0x3d)) (some value))
    else (true, values)

/-- A segment around its first `=`. -/
theorem equal_shape {part : List UInt8} (equal : part.contains 0x3d = true) :
    ∃ name text, part = name ++ 0x3d :: text ∧ 0x3d ∉ name := by
  obtain ⟨name, text, shape, first⟩ := List.eq_append_cons_of_mem (List.contains_iff_mem.1 equal)
  exact ⟨name, text, shape, first⟩

theorem takeWhile_equal {name : List UInt8} (first : 0x3d ∉ name) (text : List UInt8) :
    (name ++ 0x3d :: text).takeWhile (· ≠ 0x3d) = name := by
  rw [Text.takeWhile_append_stop _ _ (by simp), List.takeWhile_eq_self_iff]
  rintro c member
  simp only [ne_eq, decide_eq_true_eq]
  rintro rfl
  exact first member

theorem dropWhile_equal {name : List UInt8} (first : 0x3d ∉ name) (text : List UInt8) :
    (name ++ 0x3d :: text).dropWhile (· ≠ 0x3d) = 0x3d :: text := by
  have split := List.takeWhile_append_dropWhile (p := (· ≠ 0x3d)) (l := name ++ 0x3d :: text)
  rw [takeWhile_equal first] at split
  exact List.append_cancel_left split

/-- The value's text, cut out of the target from the `=` to the end of its segment. -/
theorem cut_value (before name text rest : List UInt8) :
    ((before ++ (name ++ 0x3d :: (text ++ rest))).drop (before.length + name.length + 1)).take
      text.length = text := by
  have shape : before ++ (name ++ 0x3d :: (text ++ rest)) =
      (before ++ name ++ [0x3d]) ++ (text ++ rest) := by simp
  have width : before.length + name.length + 1 = (before ++ name ++ [0x3d]).length := by simp; omega
  rw [shape, width, List.drop_left, List.take_left]

theorem cut_name (before name text : List UInt8) :
    ((before ++ (name ++ text)).drop before.length).take name.length = name := by
  rw [List.drop_left, List.take_left]

/-- One turn of the loop in front of a text without `&`. -/
theorem queryLoop_last {before text : List UInt8} {position : Nat} {values : Parameters}
    (behind : before.length = position + 1) (last : 0x26 ∉ text) (turns : Nat) :
    queryLoop (before ++ text) (turns + 1) (some position) values = readParts [text] values := by
  have stop := Text.find_append before text 0x26
  rw [List.idxOf?_eq_none_iff.2 last, behind] at stop
  have equal := Text.find_append before text 0x3d
  rw [behind] at equal
  rw [queryLoop]
  simp only [stop, Option.map_none, equal, readParts]
  by_cases named : text.contains 0x3d
  · obtain ⟨name, value, rfl, first⟩ := equal_shape named
    have inside : position + 1 < (before ++ (name ++ 0x3d :: value)).length := by
      simp only [List.length_append, List.length_cons]
      omega
    have length : (before ++ (name ++ 0x3d :: value)).length - (position + 1 + name.length) - 1 =
        value.length := by
      simp only [List.length_append, List.length_cons]
      omega
    have cut := cut_value before name value []
    simp only [List.append_nil, behind] at cut
    have cut' := cut_name before name (0x3d :: value)
    rw [behind] at cut'
    have width : position + 1 + name.length - position - 1 = name.length := by omega
    simp only [if_pos inside, named, Text.idxOf_append_stop value first, Option.map_some,
      Option.any_none, takeWhile_equal first, dropWhile_equal first, List.drop_one, List.tail_cons,
      Option.getD_none, length, cut, cut', width, Bool.false_eq_true, if_false, if_true]
    cases decodeComponent value with
    | none => rfl
    | some value => cases turns <;> rfl
  · have missing : text.idxOf? 0x3d = none := by
      rw [List.idxOf?_eq_none_iff]
      simpa using named
    rw [missing, if_neg named]
    simp

/-- One turn of the loop in front of a segment and its `&`. -/
theorem queryLoop_part {before part rest : List UInt8} {position : Nat} {values : Parameters}
    (behind : before.length = position + 1) (whole : 0x26 ∉ part) (turns : Nat) :
    queryLoop (before ++ (part ++ 0x26 :: rest)) (turns + 1) (some position) values =
      if part.contains 0x3d then
        match decodeComponent ((part.dropWhile (· ≠ 0x3d)).drop 1) with
        | none => (false, values)
        | some value =>
          queryLoop (before ++ (part ++ 0x26 :: rest)) turns (some (before.length + part.length))
            (Function.update values (part.takeWhile (· ≠ 0x3d)) (some value))
      else (true, values) := by
  have inside : position + 1 < (before ++ (part ++ 0x26 :: rest)).length := by
    simp only [List.length_append, List.length_cons]
    omega
  have stop := Text.find_append before (part ++ 0x26 :: rest) 0x26
  rw [Text.idxOf_append_stop rest whole, behind] at stop
  have equal := Text.find_append before (part ++ 0x26 :: rest) 0x3d
  rw [behind] at equal
  rw [queryLoop, if_pos inside]
  simp only [stop, Option.map_some, equal]
  by_cases named : part.contains 0x3d
  · obtain ⟨name, value, rfl, first⟩ := equal_shape named
    have found : (name ++ 0x3d :: value ++ 0x26 :: rest).idxOf? 0x3d = some name.length := by
      rw [List.append_assoc, List.cons_append, Text.idxOf_append_stop _ first]
    have before_stop : ¬position + 1 + name.length >
        position + 1 + (name ++ 0x3d :: value).length := by
      simp only [List.length_append, List.length_cons]
      omega
    have length : position + 1 + (name ++ 0x3d :: value).length - (position + 1 + name.length) - 1 =
        value.length := by
      simp only [List.length_append, List.length_cons]
      omega
    have cut := cut_value before name value (0x26 :: rest)
    have cut' := cut_name before name (0x3d :: value ++ 0x26 :: rest)
    rw [behind] at cut cut'
    have width : position + 1 + name.length - position - 1 = name.length := by omega
    have shape : name ++ 0x3d :: value ++ 0x26 :: rest = name ++ 0x3d :: (value ++ 0x26 :: rest) := by
      simp
    simp only [found, Option.map_some, Option.any_some, decide_eq_true_eq, if_neg before_stop,
      Option.getD_some, length, named, if_true, takeWhile_equal first, dropWhile_equal first,
      List.drop_one, List.tail_cons, width, behind]
    rw [shape] at *
    simp only [cut]
    cases decodeComponent value with
    | none => rfl
    | some value =>
      simp only
      congr
  · have skipped : (part ++ 0x26 :: rest).idxOf? 0x3d =
        (rest.idxOf? 0x3d).map fun n => part.length + (n + 1) := by
      rw [Text.idxOf_append_of_not_mem _ (by simpa using named), List.idxOf?_cons]
      simp [Function.comp_def]
    rw [skipped, if_neg named]
    cases rest.idxOf? 0x3d with
    | none => rfl
    | some n => simp

/-- **The walk by positions reads the parts in order.** -/
theorem queryLoop_eq (turns : Nat) (before text : List UInt8) (position : Nat)
    (values : Parameters) (behind : before.length = position + 1) (enough : text.length < turns) :
    queryLoop (before ++ text) turns (some position) values =
      readParts (text.splitOn 0x26) values := by
  induction turns generalizing before text position values with
  | zero => omega
  | succ turns ih =>
    by_cases more : 0x26 ∈ text
    · obtain ⟨part, rest, rfl, whole⟩ := List.eq_append_cons_of_mem more
      rw [queryLoop_part behind whole, List.splitOn_append_cons_self_of_not_mem whole]
      simp only [readParts]
      have shape : before ++ (part ++ 0x26 :: rest) = (before ++ part ++ [0x26]) ++ rest := by simp
      have shorter : rest.length < turns := by
        simp only [List.length_append, List.length_cons] at enough
        omega
      have width : (before ++ part ++ [0x26]).length = before.length + part.length + 1 := by
        simp only [List.length_append, List.length_singleton]
      rw [shape]
      simp only [fun values => ih _ rest _ values width shorter]
    · rw [queryLoop_last behind more, List.splitOn_eq_singleton more]

theorem queryParameters_eq (target : List UInt8) (values : Parameters) :
    queryParameters target values = readParts (segments target) values := by
  unfold queryParameters
  by_cases query : 0x3f ∈ target
  · obtain ⟨path, text, rfl, first⟩ := List.eq_append_cons_of_mem query
    have behind : segments (path ++ 0x3f :: text) = text.splitOn 0x26 := by
      have path_only : ∀ c ∈ path, (c ≠ 0x3f : Bool) = true := by
        intro c member
        simpa using fun here : c = 0x3f => first (here ▸ member)
      rw [segments, List.dropWhile_append_of_pos path_only]
      simp
    have start := Text.find_append [] (path ++ 0x3f :: text) 0x3f
    rw [Text.idxOf_append_stop text first] at start
    simp only [List.nil_append, List.length_nil, Option.map_some, Nat.zero_add] at start
    have shape : path ++ 0x3f :: text = (path ++ [0x3f]) ++ text := by simp
    rw [start, behind, shape, queryLoop_eq _ _ _ _ _ (by simp)]
    simp only [List.length_append]
    omega
  · have none_found : Text.find target 0x3f 0 = none := Text.find_eq_none_iff.2 query
    have no_text : segments target = [[]] := by
      have all : ∀ c ∈ target, (c ≠ 0x3f : Bool) = true := by
        intro c member
        simpa using fun here : c = 0x3f => query (here ▸ member)
      rw [segments, List.dropWhile_eq_nil_iff.2 all]
      rfl
    rw [none_found, no_text]
    simp [queryLoop, readParts]

/-! ## What the parts read so far mean -/

theorem namedValues_append (a b : List (List UInt8)) :
    namedValues (a ++ b) = namedValues a ++ namedValues b := by
  simp [namedValues]

theorem namedValues_cons {part : List UInt8} (named : part.contains 0x3d = true)
    (parts : List (List UInt8)) : namedValues (part :: parts) =
      (part.takeWhile (· ≠ 0x3d), (part.dropWhile (· ≠ 0x3d)).drop 1) :: namedValues parts := by
  rw [namedValues, List.filter_cons, if_pos named, List.map_cons, namedValues]

theorem lastValue_append (a b : List (List UInt8 × List UInt8)) (name : List UInt8) :
    lastValue (a ++ b) name = (lastValue b name).or (lastValue a name) := by
  simp only [lastValue, List.reverse_append, List.find?_append]
  cases b.reverse.find? (·.1 = name) with
  | none => simp
  | some pair => simp

theorem lastValue_cons (pair : List UInt8 × List UInt8) (pairs : List (List UInt8 × List UInt8))
    (name : List UInt8) : lastValue (pair :: pairs) name =
      (lastValue pairs name).or (if pair.1 = name then some pair.2 else none) := by
  have single : lastValue [pair] name = if pair.1 = name then some pair.2 else none := by
    by_cases same : pair.1 = name
    · simp [lastValue, same]
    · simp [lastValue, same]
  rw [← single]
  exact lastValue_append [pair] pairs name

theorem lastValue_mem {pairs : List (List UInt8 × List UInt8)} {name text : List UInt8}
    (given : lastValue pairs name = some text) : (name, text) ∈ pairs := by
  obtain ⟨pair, found, rfl⟩ := Option.map_eq_some_iff.1 given
  have member := List.mem_of_find?_eq_some found
  have same := List.find?_some found
  simp only [decide_eq_true_eq] at same
  rw [← same]
  exact List.mem_reverse.1 member

theorem readParts_rejects (parts : List (List UInt8)) (values : Parameters) :
    (readParts parts values).1 = false ↔
      ∃ pair ∈ namedValues (parts.takeWhile (·.contains 0x3d)), Malformed pair.2 := by
  induction parts generalizing values with
  | nil => simp [readParts, namedValues]
  | cons part parts ih =>
    by_cases named : part.contains 0x3d
    · rw [readParts, if_pos named, List.takeWhile_cons, if_pos named, namedValues_cons named,
        List.exists_mem_cons_iff, ← decodeComponent_eq_none_iff]
      cases decodeComponent ((part.dropWhile (· ≠ 0x3d)).drop 1) with
      | none => simp
      | some value => simpa using ih _
    · rw [readParts, if_neg named, List.takeWhile_cons, if_neg named]
      simp [namedValues]

theorem readParts_values (parts : List (List UInt8)) (values : Parameters)
    (accepted : (readParts parts values).1 = true) (name : List UInt8) :
    (readParts parts values).2 name =
      (lastValue (namedValues (parts.takeWhile (·.contains 0x3d))) name).elim (values name)
        decodeComponent := by
  induction parts generalizing values with
  | nil => simp [readParts, namedValues, lastValue]
  | cons part parts ih =>
    by_cases named : part.contains 0x3d
    · rw [readParts, if_pos named] at accepted ⊢
      rw [List.takeWhile_cons, if_pos named, namedValues_cons named, lastValue_cons]
      cases decoded : decodeComponent ((part.dropWhile (· ≠ 0x3d)).drop 1) with
      | none =>
        rw [decoded] at accepted
        cases accepted
      | some value =>
        rw [decoded] at accepted
        simp only [ih _ accepted]
        cases lastValue (namedValues (parts.takeWhile (·.contains 0x3d))) name with
        | some text => rfl
        | none =>
          by_cases same : part.takeWhile (· ≠ 0x3d) = name
          · rw [if_pos same, ← same, Function.update_self]
            exact decoded.symm
          · rw [if_neg same, Function.update_of_ne (Ne.symm same)]
            rfl
    · rw [readParts, if_neg named, List.takeWhile_cons, if_neg named]
      simp [namedValues, lastValue]

theorem namedValues_segments (target : List UInt8) :
    namedValues (segments target) = front target ++ back target := by
  rw [front, back, ← namedValues_append, List.takeWhile_append_dropWhile]

theorem queryParameters_rejects (target : List UInt8) :
    (queryParameters target fun _ => none).1 = false ↔ ∃ pair ∈ front target, Malformed pair.2 := by
  rw [queryParameters_eq, readParts_rejects, front]

theorem queryParameters_values {target : List UInt8}
    (accepted : (queryParameters target fun _ => none).1 = true) (name : List UInt8) :
    (queryParameters target fun _ => none).2 name =
      (lastValue (front target) name).bind decodeComponent := by
  rw [queryParameters_eq] at accepted ⊢
  rw [readParts_values _ _ accepted, front]
  cases lastValue (namedValues ((segments target).takeWhile (·.contains 0x3d))) name with
  | none => rfl
  | some text => rfl

/-- **`query_parameters` answers what the query means exactly when nothing behind the first segment
without `=` matters.** -/
theorem query_parameters_agrees (target : List UInt8) : Agrees target ↔ Unaffected target := by
  have split := namedValues_segments target
  by_cases bad : ∃ pair ∈ front target, Malformed pair.2
  · have rejected := (queryParameters_rejects target).2 bad
    refine ⟨fun _ => .inl bad, fun _ => ⟨?_, fun accepted => ?_⟩⟩
    · obtain ⟨pair, member, malformed⟩ := bad
      rw [split]
      exact iff_of_true rejected ⟨pair, List.mem_append_left _ member, malformed⟩
    · rw [rejected] at accepted
      cases accepted
  · have accepted : (queryParameters target fun _ => none).1 = true := by
      rw [← Bool.not_eq_false, queryParameters_rejects]
      exact bad
    have values := queryParameters_values accepted
    constructor
    · intro agrees
      have good : ∀ pair ∈ back target, ¬Malformed pair.2 := by
        intro pair member malformed
        have rejected := agrees.rejects.2
          ⟨pair, split ▸ List.mem_append_right _ member, malformed⟩
        rw [accepted] at rejected
        cases rejected
      refine .inr ⟨good, fun name text given => ?_⟩
      obtain ⟨value, decoded, -⟩ | ⟨-, malformed⟩ := decodeComponent_cases text
      · have meant := decodeComponent_eq_some_iff.1 decoded
        have whole : lastValue (namedValues (segments target)) name = some text := by
          rw [split, lastValue_append, given, Option.some_or]
        have stored := (agrees.values accepted name value).2 ⟨text, whole, meant⟩
        rw [values] at stored
        obtain ⟨before, found, same⟩ := Option.bind_eq_some_iff.1 stored
        exact ⟨before, value, found, decodeComponent_eq_some_iff.1 same, meant⟩
      · exact absurd malformed (good _ (lastValue_mem given))
    · rintro (malformed | ⟨good, kept⟩)
      · exact absurd malformed bad
      refine ⟨?_, fun _ name value => ?_⟩
      · rw [queryParameters_rejects, split]
        simp only [List.mem_append, or_and_right, exists_or]
        exact (or_iff_left fun ⟨pair, member, malformed⟩ => good pair member malformed).symm
      · rw [values, split, lastValue_append, Option.bind_eq_some_iff]
        cases given : lastValue (back target) name with
        | none => simp [decodeComponent_eq_some_iff]
        | some text =>
          obtain ⟨before, stored, found, decoded, meant⟩ := kept name text given
          rw [← decodeComponent_eq_some_iff] at decoded meant
          simp [found, decoded, meant, ← decodeComponent_eq_some_iff]

/-- A segment without `=` hides the limit behind it: `/api/v1/alerts?x&limit=5` lists a hundred. -/
theorem query_parameters_hides_limit : ¬Agrees (ascii "/api/v1/alerts?x&limit=5") ∧
    alertFilter (ascii "/api/v1/alerts?x&limit=5") = .ok (.recent 100) := by
  refine ⟨fun agrees => ?_, by decide +kernel⟩
  have given : lastValue (namedValues (segments (ascii "/api/v1/alerts?x&limit=5")))
      (ascii "limit") = some (ascii "5") := by decide +kernel
  have five : PercentDecoded (ascii "5") (ascii "5") := .plain (by decide) .nil
  have stored := (agrees.values (by decide +kernel) (ascii "limit") (ascii "5")).2 ⟨_, given, five⟩
  have hidden : (queryParameters (ascii "/api/v1/alerts?x&limit=5") fun _ => none).2
      (ascii "limit") = none := by decide +kernel
  cases hidden.symm.trans stored

/-- Empty segments at the end, `=` inside a value and a repeated name are read as meant. -/
example : alertFilter (ascii "/api/v1/alerts?class=a%3db=&limit=7&limit=9&") =
    .ok (.byClass (ascii "a=b=") 9) := by decide +kernel

end SkaiEdge.Web
