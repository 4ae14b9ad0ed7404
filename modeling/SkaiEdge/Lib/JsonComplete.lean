import SkaiEdge.Lib.Json

/-!
# What the grammar derives, the parser reads

With `parse_sound` this makes the parser the grammar's: a text is parsed to a tree exactly when
it is a text of it, and it is a text of one tree only. The induction is on the fuel, as it is for
soundness; `Complete` has one field for each of the three readers.
-/

namespace SkaiEdge.Lib

namespace Json

theorem skip_append {gap : List UInt8} (space : Space gap) (rest : List UInt8) :
    skip (gap ++ rest) = skip rest := by
  rw [skip, List.dropWhile_append_of_pos space, skip]

theorem skip_gap {gap : List UInt8} (space : Space gap) {c : UInt8} (rest : List UInt8)
    (printed : isSpace c = false) : skip (gap ++ c :: rest) = c :: rest := by
  rw [skip_append space, skip_cons rest printed]

theorem Ends.gap {gap : List UInt8} (space : Space gap) {rest : List UInt8} (ends : Ends rest) :
    Ends (gap ++ rest) := by
  cases gap with
  | nil => exact ends
  | cons c gap =>
    have blank := space c (List.mem_cons_self ..)
    apply Ends.cons
    simp only [isSpace, Bool.or_eq_true, decide_eq_true_eq] at blank
    rcases blank with ((rfl | rfl) | rfl) | rfl <;> decide

/-! ## Numbers -/

theorem Digits.cons {digits : List UInt8} (written : Digits digits) :
    ∃ c more, digits = c :: more ∧ isDigit c = true := by
  obtain ⟨c, more, rfl⟩ := List.exists_cons_of_ne_nil written.1
  exact ⟨c, more, rfl, written.2 c (List.mem_cons_self ..)⟩

theorem Ends.stops {rest : List UInt8} (ends : Ends rest) : ∀ c ∈ rest.head?, isDigit c = false :=
  fun c head => (ends c head).1

theorem readExponent_complete {scale rest : List UInt8} {exponent : Option (Bool × List UInt8)}
    (scaled : Exponent scale exponent) (ends : Ends rest) :
    readExponent (scale ++ rest) = some (exponent, rest) := by
  cases scaled with
  | none =>
    cases rest with
    | nil => rfl
    | cons c rest =>
      obtain ⟨-, -, small, capital⟩ := ends c rfl
      simp [readExponent, small, capital]
  | plain letter written =>
    have digits := readDigits_append rest written ends.stops
    obtain ⟨c, more, rfl, digit⟩ := written.cons
    have noSign : ¬(c = 0x2b ∨ c = 0x2d) := by
      rintro (rfl | rfl) <;> contradiction
    simp only [List.cons_append] at digits ⊢
    rw [readExponent, if_pos letter]
    simp only [if_neg noSign, digits, Option.map_some]
  | signed letter either written =>
    have digits := readDigits_append rest written ends.stops
    simp only [List.cons_append]
    rw [readExponent, if_pos letter]
    simp only [if_pos either, digits, Option.map_some]

/-- What begins a scale, or what ends the number, is no digit and no point. -/
theorem Exponent.begins {scale rest : List UInt8} {exponent : Option (Bool × List UInt8)}
    (scaled : Exponent scale exponent) (ends : Ends rest) :
    ∀ c ∈ (scale ++ rest).head?, isDigit c = false ∧ c ≠ 0x2e := by
  cases scaled with
  | none => exact fun c head => ⟨(ends c head).1, (ends c head).2.1⟩
  | plain letter =>
    intro c head
    cases head
    rcases letter with rfl | rfl <;> decide
  | signed letter =>
    intro c head
    cases head
    rcases letter with rfl | rfl <;> decide

theorem readMagnitude_complete (negative : Bool) {whole point fraction scale rest : List UInt8}
    {exponent : Option (Bool × List UInt8)} (isWhole : Whole whole) (fractional : Fraction point fraction)
    (scaled : Exponent scale exponent) (ends : Ends rest) :
    readMagnitude negative (whole ++ (point ++ (scale ++ rest))) =
      some (⟨negative, whole, fraction, exponent⟩, rest) := by
  have begins := scaled.begins ends
  have scale' := readExponent_complete scaled ends
  have leading : ¬ (whole.head? = some 0x30 ∧ whole ≠ [0x30]) := by
    rintro ⟨zero, longer⟩
    exact longer (isWhole.2 zero)
  cases fractional with
  | none =>
    have digits := readDigits_append (scale ++ rest) isWhole.1 fun c head => (begins c head).1
    have noPoint : readFraction (scale ++ rest) = some ([], scale ++ rest) := by
      cases shape : scale ++ rest with
      | nil => rfl
      | cons c more =>
        rw [readFraction, if_neg]
        exact (begins c (by rw [shape]; rfl)).2
    simp only [readMagnitude, List.nil_append, digits, bind, Option.bind_some, if_neg leading,
      noPoint, scale']
  | some written =>
    have digits := readDigits_append (0x2e :: (fraction ++ (scale ++ rest))) isWhole.1 (by
      intro c head
      cases head
      rfl)
    have point := readDigits_append (scale ++ rest) written fun c head => (begins c head).1
    simp only [readMagnitude, List.cons_append, digits, bind, Option.bind_some, if_neg leading,
      readFraction, if_true, point, scale']

theorem NumberText.reads {text : List UInt8} {n : Number} (written : NumberText text n) :
    Reads text (.number n) := by
  intro fuel rest enough ends
  obtain @⟨negative, whole, point, fraction, scale, exponent, isWhole, fractional, scaled⟩ := written
  have read := readMagnitude_complete negative isWhole fractional scaled ends
  obtain ⟨c, more, rfl, digit⟩ := isWhole.1.cons
  simp only [List.length_append, List.length_cons] at enough
  obtain ⟨fuel, rfl⟩ : ∃ k, fuel = k + 1 := Nat.exists_eq_add_one.2 (by omega)
  simp only [List.append_assoc]
  cases negative with
  | true =>
    rw [if_pos rfl, List.singleton_append, readValue_number fuel _ (.inl rfl), readNumber,
      if_pos rfl, read]
    rfl
  | false =>
    have noMinus : c ≠ 0x2d := by
      rintro rfl
      contradiction
    rw [if_neg (by decide), List.nil_append, List.cons_append,
      readValue_number fuel _ (.inr digit), readNumber, if_neg noMinus, ← List.cons_append, read]
    rfl

/-! ## Strings -/

theorem readUnit_append {hex : List UInt8} {n : Nat} (rest : List UInt8) (four : hex.length = 4)
    (value : hexValue hex = some n) : readUnit (hex ++ rest) = some (n, rest) := by
  rw [readUnit, if_neg (by rw [List.length_append]; omega), List.take_left' four,
    List.drop_left' four, value]
  rfl

theorem readEscape_pair {hex hex' : List UInt8} {n n' : Nat} (rest : List UInt8)
    (four : hex.length = 4) (value : hexValue hex = some n) (high : 0xd800 ≤ n ∧ n < 0xdc00)
    (four' : hex'.length = 4) (value' : hexValue hex' = some n') (low : 0xdc00 ≤ n' ∧ n' < 0xe000) :
    readEscape (0x75 :: (hex ++ 0x5c :: 0x75 :: hex') ++ rest) =
      some (utf8 (0x10000 + (n - 0xd800) * 0x400 + (n' - 0xdc00)), rest) := by
  have noShort : shortEscape 0x75 = none := by decide
  have unit := readUnit_append (0x5c :: 0x75 :: (hex' ++ rest)) four value
  have second : readLow (0x5c :: 0x75 :: (hex' ++ rest)) = some (n', rest) := by
    rw [readLow, if_pos ⟨rfl, rfl⟩, readUnit_append rest four' value', Option.bind_some]
    exact if_pos low
  have shape : 0x75 :: (hex ++ 0x5c :: 0x75 :: hex') ++ rest =
      0x75 :: (hex ++ 0x5c :: 0x75 :: (hex' ++ rest)) := by simp
  rw [shape, readEscape, noShort]
  simp only [if_true, unit, Option.bind_some]
  rw [if_neg (by omega), if_pos high.2, second]
  rfl

theorem Characters.reads {text bytes : List UInt8} (characters : Characters text bytes) :
    ReadsString text bytes := by
  induction characters with
  | nil => exact .nil
  | plain printable noQuote noBackslash _ ih => exact .plain printable noQuote noBackslash ih
  | short short _ ih => exact .escape [_] (fun rest => readEscape_short rest short) ih
  | @unit hex text bytes n four value single _ ih =>
    exact .escape (0x75 :: hex) (fun rest => readEscape_unit rest four value single) ih
  | @pair hex hex' text bytes n n' four value from' to' four' value' low high _ ih =>
    have reads := ReadsString.escape (0x75 :: (hex ++ 0x5c :: 0x75 :: hex'))
      (fun rest => readEscape_pair rest four value ⟨from', to'⟩ four' value' ⟨low, high⟩) ih
    simpa using reads

/-! ## Values -/

/-- The readers take exactly what the grammar derives, given fuel for each of its bytes. -/
structure Complete (fuel : Nat) : Prop where
  value : ∀ {text v}, Value text v → text.length ≤ fuel → ∀ rest, Ends rest →
    readValue fuel (text ++ rest) = some (v, rest)
  elements : ∀ {text items}, Elements text items → text.length < fuel → ∀ rest,
    readElements fuel (text ++ 0x5d :: rest) = some (items, rest)
  members : ∀ {text items}, Members text items → text.length < fuel → ∀ rest,
    readMembers fuel (text ++ 0x7d :: rest) = some (items, rest)

/-- A value begins with a byte that is no space and closes nothing. -/
theorem value_begins {text : List UInt8} {v : Json} (value : Value text v) :
    ∃ c more, text = c :: more ∧ isSpace c = false ∧ c ≠ 0x5d := by
  cases value with
  | null | true | false | string | emptyArray | array | emptyObject | object =>
    exact ⟨_, _, rfl, by decide, by decide⟩
  | number written =>
    obtain @⟨negative, whole, point, fraction, scale, exponent, isWhole, fractional, scaled⟩ := written
    obtain ⟨c, more, rfl, digit⟩ := isWhole.1.cons
    cases negative with
    | true => exact ⟨_, _, rfl, by decide, by decide⟩
    | false =>
      refine ⟨c, _, rfl, ?_, ?_⟩
      · cases blank : isSpace c with
        | false => rfl
        | true =>
          simp only [isSpace, Bool.or_eq_true, decide_eq_true_eq] at blank
          rcases blank with ((rfl | rfl) | rfl) | rfl <;> contradiction
      · rintro rfl
        contradiction

theorem readValue_skip (fuel : Nat) {gap : List UInt8} (space : Space gap) (rest : List UInt8) :
    readValue fuel (gap ++ rest) = readValue fuel rest := by
  cases fuel with
  | zero => rfl
  | succ fuel => rw [readValue, readValue, skip_append space]

theorem Complete.value_succ {fuel : Nat} (complete : Complete fuel) {text : List UInt8} {v : Json}
    (value : Value text v) (enough : text.length ≤ fuel + 1) (rest : List UInt8) (ends : Ends rest) :
    readValue (fuel + 1) (text ++ rest) = some (v, rest) := by
  cases value with
  | null => simp [readValue, skip, isSpace, readLiteral]
  | true => simp [readValue, skip, isSpace, readLiteral]
  | false => simp [readValue, skip, isSpace, readLiteral]
  | number written => exact written.reads (fuel + 1) rest enough ends
  | string characters => exact reads_string characters.reads (fuel + 1) rest enough ends
  | @emptyArray gap space =>
    have shape : 0x5b :: (gap ++ [0x5d]) ++ rest = 0x5b :: (gap ++ 0x5d :: rest) := by simp
    rw [shape, readValue, skip_cons _ (by decide)]
    simp [skip_gap space rest (show isSpace 0x5d = false by decide)]
  | @array inner items elements =>
    have shape : 0x5b :: (inner ++ [0x5d]) ++ rest = 0x5b :: (inner ++ 0x5d :: rest) := by simp
    simp only [List.length_cons, List.length_append, List.length_nil] at enough
    have list := complete.elements elements (by omega) rest
    have opened : (skip (inner ++ 0x5d :: rest)).head? ≠ some 0x5d := by
      intro closed
      obtain ⟨fuel, rfl⟩ : ∃ k, fuel = k + 1 := Nat.exists_eq_add_one.2 (by omega)
      rw [readElements, readValue_bracket fuel closed] at list
      contradiction
    rw [shape, readValue, skip_cons _ (by decide)]
    simp only [if_neg (show ¬ (0x5b : UInt8) = 0x22 by decide), if_true, if_neg opened, list]
    rfl
  | @emptyObject gap space =>
    have shape : 0x7b :: (gap ++ [0x7d]) ++ rest = 0x7b :: (gap ++ 0x7d :: rest) := by simp
    rw [shape, readValue, skip_cons _ (by decide)]
    simp [skip_gap space rest (show isSpace 0x7d = false by decide)]
  | @object inner items members =>
    have shape : 0x7b :: (inner ++ [0x7d]) ++ rest = 0x7b :: (inner ++ 0x7d :: rest) := by simp
    simp only [List.length_cons, List.length_append, List.length_nil] at enough
    have list := complete.members members (by omega) rest
    have opened : (skip (inner ++ 0x7d :: rest)).head? ≠ some 0x7d := by
      intro closed
      obtain ⟨fuel, rfl⟩ : ∃ k, fuel = k + 1 := Nat.exists_eq_add_one.2 (by omega)
      obtain ⟨tail, begins⟩ := List.head?_eq_some_iff.1 closed
      rw [readMembers, begins] at list
      simp at list
    rw [shape, readValue, skip_cons _ (by decide)]
    simp only [if_neg (show ¬ (0x7b : UInt8) = 0x22 by decide),
      if_neg (show ¬ (0x7b : UInt8) = 0x5b by decide), if_true, if_neg opened, list]
    rfl

theorem comma_ends (rest : List UInt8) : Ends (0x2c :: rest) := .cons rest (by decide)

theorem Complete.elements_succ {fuel : Nat} (complete : Complete fuel) {text : List UInt8}
    {items : List Json} (elements : Elements text items) (enough : text.length < fuel + 1)
    (rest : List UInt8) :
    readElements (fuel + 1) (text ++ 0x5d :: rest) = some (items, rest) := by
  cases elements with
  | @one a inner b v before value behind =>
    simp only [List.length_append] at enough
    have ends : Ends (b ++ 0x5d :: rest) := Ends.gap behind (.cons rest (by decide))
    have read := complete.value value (by omega) _ ends
    simp only [List.append_assoc]
    rw [readElements, readValue_skip fuel before, read]
    simp only [bind, Option.bind_some]
    rw [skip_gap behind rest (by decide)]
    simp
  | @cons a inner b more v items before value behind others =>
    simp only [List.length_append, List.length_cons] at enough
    have ends : Ends (b ++ 0x2c :: (more ++ 0x5d :: rest)) := Ends.gap behind (comma_ends _)
    have read := complete.value value (by omega) _ ends
    have list := complete.elements others (by omega) rest
    simp only [List.append_assoc, List.cons_append]
    rw [readElements, readValue_skip fuel before, read]
    simp only [bind, Option.bind_some]
    rw [skip_gap behind _ (by decide)]
    simp only [if_true, list, Option.bind_some]

theorem Complete.members_succ {fuel : Nat} (complete : Complete fuel) {text : List UInt8}
    {items : List (List UInt8 × Json)} (members : Members text items)
    (enough : text.length < fuel + 1) (rest : List UInt8) :
    readMembers (fuel + 1) (text ++ 0x7d :: rest) = some (items, rest) := by
  cases members with
  | @one a name b c inner d key v before characters gap gap' value behind =>
    simp only [List.length_append, List.length_cons] at enough
    have ends : Ends (d ++ 0x7d :: rest) := Ends.gap behind (.cons rest (by decide))
    have read := complete.value value (by omega) _ ends
    simp only [List.append_assoc, List.cons_append]
    rw [readMembers, skip_gap before _ (by decide)]
    simp only [if_true, bind]
    rw [characters.reads fuel _ (by omega), Option.bind_some]
    simp only
    rw [skip_gap gap _ (by decide)]
    simp only [if_true]
    rw [readValue_skip fuel gap', read, Option.bind_some]
    simp only
    rw [skip_gap behind rest (by decide)]
    simp
  | @cons a name b c inner d more key v items before characters gap gap' value behind others =>
    simp only [List.length_append, List.length_cons] at enough
    have ends : Ends (d ++ 0x2c :: (more ++ 0x7d :: rest)) := Ends.gap behind (comma_ends _)
    have read := complete.value value (by omega) _ ends
    have list := complete.members others (by omega) rest
    simp only [List.append_assoc, List.cons_append]
    rw [readMembers, skip_gap before _ (by decide)]
    simp only [if_true, bind]
    rw [characters.reads fuel _ (by omega), Option.bind_some]
    simp only
    rw [skip_gap gap _ (by decide)]
    simp only [if_true]
    rw [readValue_skip fuel gap', read, Option.bind_some]
    simp only
    rw [skip_gap behind _ (by decide)]
    simp only [if_true, list, Option.bind_some]

theorem complete (fuel : Nat) : Complete fuel := by
  induction fuel with
  | zero =>
    refine ⟨?_, ?_, ?_⟩
    · intro text v value enough
      obtain ⟨c, more, rfl, -⟩ := value_begins value
      simp at enough
    · intro text items elements enough
      exact absurd enough (Nat.not_lt_zero _)
    · intro text items members enough
      exact absurd enough (Nat.not_lt_zero _)
  | succ fuel ih => exact ⟨ih.value_succ, ih.elements_succ, ih.members_succ⟩

theorem parse_complete {text : List UInt8} {v : Json} (written : Text text v) :
    parse text = some v := by
  obtain ⟨a, b, c, rfl, before, value, behind⟩ := written
  have ends : Ends c := by
    have nothing : Ends [] := by simp [Ends]
    have := Ends.gap behind nothing
    simpa using this
  have read := (complete (a ++ (b ++ c)).length).value value (by simp; omega) c ends
  have gone : skip c = [] := by
    have := skip_append behind []
    simpa [skip] using this
  rw [parse, readValue_skip _ before, read]
  simp only [gone, if_true]

/-- **The parser is the grammar.** -/
theorem parse_iff {text : List UInt8} {v : Json} : parse text = some v ↔ Text text v :=
  ⟨parse_sound, parse_complete⟩

end Json

end SkaiEdge.Lib
