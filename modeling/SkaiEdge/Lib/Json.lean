import Mathlib

/-!
# JSON as bytes

The grammar of JSON over bytes, and a recursive descent parser for it. A string is the bytes it
stands for: an escape `\u` gives the UTF-8 bytes of its code point and other bytes from `20` on
stand for themselves, whether they are UTF-8 or not. A number keeps the digits it is written
with. `parse_sound` says that what the parser accepts is derived by the grammar; the lemmas
`Reads` say how the text of a tree is read, for whoever writes such a text.
-/

namespace SkaiEdge.Lib

/-- A number as it is written; the exponent with its sign. -/
structure Json.Number where
  negative : Bool
  whole : List UInt8
  fraction : List UInt8
  exponent : Option (Bool × List UInt8)
  deriving DecidableEq, Repr

inductive Json where
  | null
  | bool (value : Bool)
  | number (number : Json.Number)
  | string (bytes : List UInt8)
  | array (items : List Json)
  | object (members : List (List UInt8 × Json))
  deriving Repr

namespace Json

def isSpace (c : UInt8) : Bool := c = 0x20 || c = 0x09 || c = 0x0a || c = 0x0d

def isDigit (c : UInt8) : Bool := 0x30 ≤ c && c ≤ 0x39

def digitsValue (digits : List UInt8) : Nat :=
  digits.foldl (fun value digit => value * 10 + (digit.toNat - 48)) 0

def Number.value (n : Number) : ℚ :=
  let size : ℚ := digitsValue n.whole + digitsValue n.fraction / 10 ^ n.fraction.length
  let signed := if n.negative then -size else size
  match n.exponent with
  | none => signed
  | some (false, digits) => signed * 10 ^ digitsValue digits
  | some (true, digits) => signed / 10 ^ digitsValue digits

/-- The number is written in the shortest way: without exponent, without a zero at the end of
its fraction and, if it is zero, without a sign. -/
def Number.Shortest (n : Number) : Prop :=
  n.exponent = none ∧ n.fraction.getLast? ≠ some 0x30 ∧ (n.negative = true → n.value ≠ 0)

instance : DecidablePred Number.Shortest := fun _ => inferInstanceAs (Decidable (_ ∧ _ ∧ _))

/-! ## Grammar -/

def Space (text : List UInt8) : Prop := ∀ c ∈ text, isSpace c = true

def Digits (text : List UInt8) : Prop := text ≠ [] ∧ ∀ c ∈ text, isDigit c = true

/-- A number begins with no zero but a single one. -/
def Whole (text : List UInt8) : Prop := Digits text ∧ (text.head? = some 0x30 → text = [0x30])

inductive Fraction : List UInt8 → List UInt8 → Prop where
  | none : Fraction [] []
  | some {digits : List UInt8} : Digits digits → Fraction (0x2e :: digits) digits

inductive Exponent : List UInt8 → Option (Bool × List UInt8) → Prop where
  | none : Exponent [] none
  | plain {e : UInt8} {digits : List UInt8} (letter : e = 0x65 ∨ e = 0x45) :
      Digits digits → Exponent (e :: digits) (some (false, digits))
  | signed {e sign : UInt8} {digits : List UInt8} (letter : e = 0x65 ∨ e = 0x45)
      (either : sign = 0x2b ∨ sign = 0x2d) :
      Digits digits → Exponent (e :: sign :: digits) (some (sign = 0x2d, digits))

inductive NumberText : List UInt8 → Number → Prop where
  | mk {negative : Bool} {whole point fraction scale : List UInt8}
      {exponent : Option (Bool × List UInt8)} : Whole whole → Fraction point fraction →
      Exponent scale exponent →
      NumberText ((if negative then [0x2d] else []) ++ (whole ++ (point ++ scale)))
        ⟨negative, whole, fraction, exponent⟩

def hexDigit (c : UInt8) : Option Nat :=
  if isDigit c then some (c.toNat - 48)
  else if 0x61 ≤ c ∧ c ≤ 0x66 then some (c.toNat - 87)
  else if 0x41 ≤ c ∧ c ≤ 0x46 then some (c.toNat - 55)
  else none

def hexValue (digits : List UInt8) : Option Nat :=
  digits.foldlM (fun value digit => (hexDigit digit).map (value * 16 + ·)) 0

/-- The UTF-8 bytes of a code point. -/
def utf8 (n : Nat) : List UInt8 :=
  if n < 0x80 then [n.toUInt8]
  else if n < 0x800 then [(0xc0 + n / 64).toUInt8, (0x80 + n % 64).toUInt8]
  else if n < 0x10000 then
    [(0xe0 + n / 4096).toUInt8, (0x80 + n / 64 % 64).toUInt8, (0x80 + n % 64).toUInt8]
  else
    [(0xf0 + n / 262144).toUInt8, (0x80 + n / 4096 % 64).toUInt8, (0x80 + n / 64 % 64).toUInt8,
      (0x80 + n % 64).toUInt8]

/-- What an escape of one character stands for. -/
def shortEscape (c : UInt8) : Option UInt8 :=
  if c = 0x22 ∨ c = 0x5c ∨ c = 0x2f then some c
  else if c = 0x62 then some 0x08
  else if c = 0x66 then some 0x0c
  else if c = 0x6e then some 0x0a
  else if c = 0x72 then some 0x0d
  else if c = 0x74 then some 0x09
  else none

/-- The bytes of a string, without its quotes, and what they stand for. -/
inductive Characters : List UInt8 → List UInt8 → Prop where
  | nil : Characters [] []
  | plain {c : UInt8} {text bytes : List UInt8} : 0x20 ≤ c → c ≠ 0x22 → c ≠ 0x5c →
      Characters text bytes → Characters (c :: text) (c :: bytes)
  | short {c d : UInt8} {text bytes : List UInt8} : shortEscape c = some d →
      Characters text bytes → Characters (0x5c :: c :: text) (d :: bytes)
  | unit {hex text bytes : List UInt8} {n : Nat} : hex.length = 4 → hexValue hex = some n →
      (n < 0xd800 ∨ 0xe000 ≤ n) → Characters text bytes →
      Characters (0x5c :: 0x75 :: (hex ++ text)) (utf8 n ++ bytes)
  | pair {hex hex' text bytes : List UInt8} {n n' : Nat} : hex.length = 4 →
      hexValue hex = some n → 0xd800 ≤ n → n < 0xdc00 → hex'.length = 4 →
      hexValue hex' = some n' → 0xdc00 ≤ n' → n' < 0xe000 → Characters text bytes →
      Characters (0x5c :: 0x75 :: (hex ++ 0x5c :: 0x75 :: (hex' ++ text)))
        (utf8 (0x10000 + (n - 0xd800) * 0x400 + (n' - 0xdc00)) ++ bytes)

mutual

inductive Value : List UInt8 → Json → Prop where
  | null : Value [0x6e, 0x75, 0x6c, 0x6c] .null
  | true : Value [0x74, 0x72, 0x75, 0x65] (.bool true)
  | false : Value [0x66, 0x61, 0x6c, 0x73, 0x65] (.bool false)
  | number {text : List UInt8} {n : Number} : NumberText text n → Value text (.number n)
  | string {text bytes : List UInt8} : Characters text bytes →
      Value (0x22 :: (text ++ [0x22])) (.string bytes)
  | emptyArray {gap : List UInt8} : Space gap → Value (0x5b :: (gap ++ [0x5d])) (.array [])
  | array {text : List UInt8} {items : List Json} : Elements text items →
      Value (0x5b :: (text ++ [0x5d])) (.array items)
  | emptyObject {gap : List UInt8} : Space gap → Value (0x7b :: (gap ++ [0x7d])) (.object [])
  | object {text : List UInt8} {items : List (List UInt8 × Json)} : Members text items →
      Value (0x7b :: (text ++ [0x7d])) (.object items)

inductive Elements : List UInt8 → List Json → Prop where
  | one {a text b : List UInt8} {v : Json} : Space a → Value text v → Space b →
      Elements (a ++ (text ++ b)) [v]
  | cons {a text b more : List UInt8} {v : Json} {items : List Json} : Space a → Value text v →
      Space b → Elements more items → Elements (a ++ (text ++ (b ++ 0x2c :: more))) (v :: items)

inductive Members : List UInt8 → List (List UInt8 × Json) → Prop where
  | one {a name b c text d : List UInt8} {key : List UInt8} {v : Json} : Space a →
      Characters name key → Space b → Space c → Value text v → Space d →
      Members (a ++ 0x22 :: (name ++ 0x22 :: (b ++ 0x3a :: (c ++ (text ++ d))))) [(key, v)]
  | cons {a name b c text d more : List UInt8} {key : List UInt8} {v : Json}
      {items : List (List UInt8 × Json)} : Space a →
      Characters name key → Space b → Space c → Value text v → Space d → Members more items →
      Members (a ++ 0x22 :: (name ++ 0x22 :: (b ++ 0x3a :: (c ++ (text ++ (d ++ 0x2c :: more))))))
        ((key, v) :: items)

end

/-- `text` is the JSON text of `v`. -/
def Text (text : List UInt8) (v : Json) : Prop :=
  ∃ a b c, text = a ++ (b ++ c) ∧ Space a ∧ Value b v ∧ Space c

/-! ## Parser -/

def skip (bytes : List UInt8) : List UInt8 := bytes.dropWhile isSpace

def readDigits (bytes : List UInt8) : Option (List UInt8 × List UInt8) :=
  if bytes.takeWhile isDigit = [] then none
  else some (bytes.takeWhile isDigit, bytes.dropWhile isDigit)

def readFraction : List UInt8 → Option (List UInt8 × List UInt8)
  | [] => some ([], [])
  | c :: rest => if c = 0x2e then readDigits rest else some ([], c :: rest)

def readExponent : List UInt8 → Option (Option (Bool × List UInt8) × List UInt8)
  | [] => some (none, [])
  | c :: rest =>
    if c = 0x65 ∨ c = 0x45 then
      match rest with
      | [] => none
      | sign :: more =>
        if sign = 0x2b ∨ sign = 0x2d then
          (readDigits more).map fun (written, rest) => (some (sign = 0x2d, written), rest)
        else (readDigits (sign :: more)).map fun (written, rest) => (some (false, written), rest)
    else some (none, c :: rest)

/-- A number without its sign. -/
def readMagnitude (negative : Bool) (bytes : List UInt8) : Option (Number × List UInt8) := do
  let (whole, rest) ← readDigits bytes
  if whole.head? = some 0x30 ∧ whole ≠ [0x30] then none
  else do
    let (fraction, rest) ← readFraction rest
    let (exponent, rest) ← readExponent rest
    some (⟨negative, whole, fraction, exponent⟩, rest)

def readNumber : List UInt8 → Option (Number × List UInt8)
  | [] => none
  | c :: rest => if c = 0x2d then readMagnitude true rest else readMagnitude false (c :: rest)

def readUnit (bytes : List UInt8) : Option (Nat × List UInt8) :=
  if bytes.length < 4 then none
  else (hexValue (bytes.take 4)).map fun n => (n, bytes.drop 4)

/-- The second half of a surrogate pair. -/
def readLow : List UInt8 → Option (Nat × List UInt8)
  | a :: b :: rest =>
    if a = 0x5c ∧ b = 0x75 then
      (readUnit rest).bind fun (n, rest) =>
        if 0xdc00 ≤ n ∧ n < 0xe000 then some (n, rest) else none
    else none
  | _ => none

/-- What follows a backslash. -/
def readEscape : List UInt8 → Option (List UInt8 × List UInt8)
  | [] => none
  | c :: rest =>
    match shortEscape c with
    | some d => some ([d], rest)
    | none =>
      if c = 0x75 then
        (readUnit rest).bind fun (n, rest) =>
          if n < 0xd800 ∨ 0xe000 ≤ n then some (utf8 n, rest)
          else if n < 0xdc00 then
            (readLow rest).map fun (n', rest) =>
              (utf8 (0x10000 + (n - 0xd800) * 0x400 + (n' - 0xdc00)), rest)
          else none
      else none

/-- The rest of a string, its closing quote included. -/
def readCharacters : Nat → List UInt8 → Option (List UInt8 × List UInt8)
  | 0, _ => none
  | _ + 1, [] => none
  | fuel + 1, c :: rest =>
    if c = 0x22 then some ([], rest)
    else if c = 0x5c then do
      let (bytes, rest) ← readEscape rest
      let (more, rest) ← readCharacters fuel rest
      some (bytes ++ more, rest)
    else if c < 0x20 then none
    else do
      let (more, rest) ← readCharacters fuel rest
      some (c :: more, rest)

def readLiteral (word : List UInt8) (v : Json) (bytes : List UInt8) : Option (Json × List UInt8) :=
  if word <+: bytes then some (v, bytes.drop word.length) else none

mutual

def readValue : Nat → List UInt8 → Option (Json × List UInt8)
  | 0, _ => none
  | fuel + 1, bytes =>
    match skip bytes with
    | [] => none
    | c :: rest =>
      if c = 0x22 then (readCharacters fuel rest).map fun (bytes, rest) => (.string bytes, rest)
      else if c = 0x5b then
        if (skip rest).head? = some 0x5d then some (.array [], (skip rest).tail)
        else (readElements fuel rest).map fun (items, rest) => (.array items, rest)
      else if c = 0x7b then
        if (skip rest).head? = some 0x7d then some (.object [], (skip rest).tail)
        else (readMembers fuel rest).map fun (items, rest) => (.object items, rest)
      else if c = 0x6e then readLiteral [0x6e, 0x75, 0x6c, 0x6c] .null (c :: rest)
      else if c = 0x74 then readLiteral [0x74, 0x72, 0x75, 0x65] (.bool true) (c :: rest)
      else if c = 0x66 then readLiteral [0x66, 0x61, 0x6c, 0x73, 0x65] (.bool false) (c :: rest)
      else (readNumber (c :: rest)).map fun (n, rest) => (.number n, rest)

/-- The elements of an array up to its closing bracket. -/
def readElements : Nat → List UInt8 → Option (List Json × List UInt8)
  | 0, _ => none
  | fuel + 1, bytes => do
    let (v, rest) ← readValue fuel bytes
    match skip rest with
    | [] => none
    | c :: rest =>
      if c = 0x2c then do
        let (items, rest) ← readElements fuel rest
        some (v :: items, rest)
      else if c = 0x5d then some ([v], rest)
      else none

/-- The members of an object up to its closing brace. -/
def readMembers : Nat → List UInt8 → Option (List (List UInt8 × Json) × List UInt8)
  | 0, _ => none
  | fuel + 1, bytes =>
    match skip bytes with
    | [] => none
    | quote :: rest =>
      if quote = 0x22 then do
        let (key, rest) ← readCharacters fuel rest
        match skip rest with
        | [] => none
        | colon :: rest =>
          if colon = 0x3a then do
            let (v, rest) ← readValue fuel rest
            match skip rest with
            | [] => none
            | c :: rest =>
              if c = 0x2c then do
                let (items, rest) ← readMembers fuel rest
                some ((key, v) :: items, rest)
              else if c = 0x7d then some ([(key, v)], rest)
              else none
          else none
      else none

end

def parse (text : List UInt8) : Option Json :=
  match readValue text.length text with
  | none => none
  | some (v, rest) => if skip rest = [] then some v else none

/-! ## Soundness -/

theorem skip_cut (bytes : List UInt8) : ∃ gap, bytes = gap ++ skip bytes ∧ Space gap :=
  ⟨bytes.takeWhile isSpace, (List.takeWhile_append_dropWhile ..).symm,
    fun _ member => List.mem_takeWhile_imp member⟩

/-- What follows is space up to the byte `close`. -/
theorem closed_cut {bytes : List UInt8} {close : UInt8} (closed : (skip bytes).head? = some close) :
    ∃ gap, bytes = gap ++ close :: (skip bytes).tail ∧ Space gap := by
  obtain ⟨gap, cut, space⟩ := skip_cut bytes
  refine ⟨gap, ?_, space⟩
  rw [List.cons_head?_tail closed]
  exact cut

theorem readDigits_sound {bytes digits rest : List UInt8}
    (read : readDigits bytes = some (digits, rest)) : bytes = digits ++ rest ∧ Digits digits := by
  unfold readDigits at read
  split at read
  · contradiction
  · rename_i some'
    cases read
    exact ⟨(List.takeWhile_append_dropWhile ..).symm, some',
      fun _ member => List.mem_takeWhile_imp member⟩

theorem readFraction_sound {bytes fraction rest : List UInt8}
    (read : readFraction bytes = some (fraction, rest)) :
    ∃ point, bytes = point ++ rest ∧ Fraction point fraction := by
  unfold readFraction at read
  split at read
  · cases read
    exact ⟨[], rfl, .none⟩
  · split at read
    · rename_i point
      obtain ⟨rfl, digits⟩ := readDigits_sound read
      exact ⟨_, by rw [point, List.cons_append], .some digits⟩
    · cases read
      exact ⟨[], rfl, .none⟩

theorem readExponent_sound {bytes rest : List UInt8} {exponent : Option (Bool × List UInt8)}
    (read : readExponent bytes = some (exponent, rest)) :
    ∃ scale, bytes = scale ++ rest ∧ Exponent scale exponent := by
  unfold readExponent at read
  split at read
  · cases read
    exact ⟨[], rfl, .none⟩
  · split at read
    · rename_i letter
      split at read
      · contradiction
      · split at read
        · rename_i either
          obtain ⟨⟨digits, more⟩, found, same⟩ := Option.map_eq_some_iff.1 read
          obtain ⟨rfl, written⟩ := readDigits_sound found
          cases same
          exact ⟨_, rfl, .signed letter either written⟩
        · obtain ⟨⟨digits, more⟩, found, same⟩ := Option.map_eq_some_iff.1 read
          obtain ⟨shape, written⟩ := readDigits_sound found
          cases same
          exact ⟨_, by rw [shape, List.cons_append], .plain letter written⟩
    · cases read
      exact ⟨[], rfl, .none⟩

theorem readMagnitude_sound {negative : Bool} {bytes rest : List UInt8} {n : Number}
    (read : readMagnitude negative bytes = some (n, rest)) :
    ∃ text, (if negative then [0x2d] else []) ++ bytes = text ++ rest ∧ NumberText text n := by
  unfold readMagnitude at read
  simp only [bind, Option.bind_eq_some_iff, Prod.exists] at read
  obtain ⟨whole, tail, readWhole, read⟩ := read
  split at read
  · contradiction
  · rename_i leading
    simp only [Option.bind_eq_some_iff, Prod.exists] at read
    obtain ⟨fraction, behind, readPoint, exponent, last, readScale, same⟩ := read
    cases same
    obtain ⟨rfl, digits⟩ := readDigits_sound readWhole
    obtain ⟨point, rfl, fractional⟩ := readFraction_sound readPoint
    obtain ⟨scale, rfl, scaled⟩ := readExponent_sound readScale
    refine ⟨_, ?_, .mk ⟨digits, ?_⟩ fractional scaled⟩
    · simp
    · intro zero
      by_contra longer
      exact leading ⟨zero, longer⟩

theorem readNumber_sound {bytes rest : List UInt8} {n : Number}
    (read : readNumber bytes = some (n, rest)) :
    ∃ text, bytes = text ++ rest ∧ NumberText text n := by
  unfold readNumber at read
  split at read
  · contradiction
  · split at read
    · rename_i minus
      subst minus
      exact readMagnitude_sound read
    · exact readMagnitude_sound read

theorem readUnit_sound {bytes rest : List UInt8} {n : Nat} (read : readUnit bytes = some (n, rest)) :
    ∃ hex, bytes = hex ++ rest ∧ hex.length = 4 ∧ hexValue hex = some n := by
  unfold readUnit at read
  split at read
  · contradiction
  · rename_i long
    obtain ⟨m, found, same⟩ := Option.map_eq_some_iff.1 read
    cases same
    refine ⟨bytes.take 4, (List.take_append_drop ..).symm, ?_, found⟩
    rw [List.length_take]
    omega

theorem readLow_sound {bytes rest : List UInt8} {n : Nat} (read : readLow bytes = some (n, rest)) :
    ∃ hex, bytes = 0x5c :: 0x75 :: (hex ++ rest) ∧ hex.length = 4 ∧ hexValue hex = some n ∧
      0xdc00 ≤ n ∧ n < 0xe000 := by
  unfold readLow at read
  split at read
  · split at read
    · rename_i code
      obtain ⟨⟨m, tail⟩, found, inRange⟩ := Option.bind_eq_some_iff.1 read
      simp only at inRange
      split at inRange
      · rename_i low
        cases inRange
        obtain ⟨hex, rfl, four, value⟩ := readUnit_sound found
        exact ⟨hex, by rw [code.1, code.2], four, value, low⟩
      · contradiction
    · contradiction
  · contradiction

theorem readEscape_sound {bytes rest : List UInt8} {stands : List UInt8}
    (read : readEscape bytes = some (stands, rest)) (text more : List UInt8) :
    ∃ escape, bytes = escape ++ rest ∧
      (Characters text more → Characters (0x5c :: (escape ++ text)) (stands ++ more)) := by
  unfold readEscape at read
  split at read
  · contradiction
  · rename_i c tail
    split at read
    · rename_i d short
      cases read
      exact ⟨[c], rfl, .short short⟩
    · split at read
      · rename_i letter
        subst letter
        obtain ⟨⟨n, behind⟩, found, decoded⟩ := Option.bind_eq_some_iff.1 read
        obtain ⟨hex, rfl, four, value⟩ := readUnit_sound found
        simp only at decoded
        split at decoded
        · rename_i single
          cases decoded
          exact ⟨0x75 :: hex, rfl, .unit four value single⟩
        · rename_i surrogate
          split at decoded
          · rename_i high
            obtain ⟨⟨n', last⟩, low, same⟩ := Option.map_eq_some_iff.1 decoded
            simp only [Prod.mk.injEq] at same
            obtain ⟨rfl, rfl⟩ := same
            obtain ⟨hex', rfl, four', value', from', to'⟩ := readLow_sound low
            refine ⟨0x75 :: (hex ++ 0x5c :: 0x75 :: hex'), by simp, fun chars => ?_⟩
            have pair := Characters.pair four value (by omega) high four' value' from' to' chars
            simpa using pair
          · contradiction
      · contradiction

theorem readCharacters_sound {fuel : Nat} {bytes stands rest : List UInt8}
    (read : readCharacters fuel bytes = some (stands, rest)) :
    ∃ text, bytes = text ++ 0x22 :: rest ∧ Characters text stands := by
  induction fuel generalizing bytes stands with
  | zero => contradiction
  | succ fuel ih =>
    cases bytes with
    | nil => contradiction
    | cons c tail =>
      rw [readCharacters] at read
      split at read
      · rename_i quote
        cases read
        exact ⟨[], by rw [quote]; rfl, .nil⟩
      · rename_i noQuote
        split at read
        · rename_i backslash
          subst backslash
          simp only [bind, Option.bind_eq_some_iff, Prod.exists] at read
          obtain ⟨first, behind, escaped, more, last, chars, same⟩ := read
          cases same
          obtain ⟨text, rfl, derived⟩ := ih chars
          obtain ⟨escape, rfl, wraps⟩ := readEscape_sound escaped text more
          exact ⟨0x5c :: (escape ++ text), by simp, wraps derived⟩
        · rename_i noBackslash
          split at read
          · contradiction
          · rename_i printable
            simp only [bind, Option.bind_eq_some_iff, Prod.exists] at read
            obtain ⟨more, last, chars, same⟩ := read
            cases same
            obtain ⟨text, rfl, derived⟩ := ih chars
            exact ⟨c :: text, rfl, .plain (UInt8.not_lt.1 printable) noQuote noBackslash derived⟩

theorem readLiteral_sound {word bytes rest : List UInt8} {v u : Json}
    (read : readLiteral word v bytes = some (u, rest)) : bytes = word ++ rest ∧ u = v := by
  unfold readLiteral at read
  split at read
  · rename_i ahead
    cases read
    exact ⟨(List.prefix_append_drop ahead), rfl⟩
  · contradiction

/-- A value, with the space before it. -/
def Led (bytes : List UInt8) (v : Json) (rest : List UInt8) : Prop :=
  ∃ gap text, bytes = gap ++ (text ++ rest) ∧ Space gap ∧ Value text v

/-- What the three parsers derive with one amount of fuel. -/
structure Sound (fuel : Nat) : Prop where
  value : ∀ {bytes v rest}, readValue fuel bytes = some (v, rest) → Led bytes v rest
  elements : ∀ {bytes items rest}, readElements fuel bytes = some (items, rest) →
    ∃ text, bytes = text ++ 0x5d :: rest ∧ Elements text items
  members : ∀ {bytes items rest}, readMembers fuel bytes = some (items, rest) →
    ∃ text, bytes = text ++ 0x7d :: rest ∧ Members text items

theorem Sound.value_succ {fuel : Nat} (sound : Sound fuel) {bytes rest : List UInt8} {v : Json}
    (read : readValue (fuel + 1) bytes = some (v, rest)) : Led bytes v rest := by
  obtain ⟨gap, cut, space⟩ := skip_cut bytes
  -- it is enough to derive the text behind the space
  suffices derived : ∃ text, skip bytes = text ++ rest ∧ Value text v by
    obtain ⟨text, behind, value⟩ := derived
    exact ⟨gap, text, by rw [← behind]; exact cut, space, value⟩
  clear cut
  rw [readValue] at read
  split at read
  · contradiction
  · rename_i c tail shape
    rw [shape]
    split at read
    · rename_i quote
      obtain ⟨⟨stands, more⟩, chars, same⟩ := Option.map_eq_some_iff.1 read
      cases same
      obtain ⟨text, rfl, derived⟩ := readCharacters_sound chars
      exact ⟨_, by simp [quote], .string derived⟩
    split at read
    · rename_i bracket
      split at read
      · rename_i closed
        obtain ⟨gap, cut, space⟩ := closed_cut closed
        cases read
        exact ⟨_, by simp [bracket, ← cut], .emptyArray space⟩
      · obtain ⟨⟨items, more⟩, list, same⟩ := Option.map_eq_some_iff.1 read
        cases same
        obtain ⟨text, rfl, derived⟩ := sound.elements list
        exact ⟨_, by simp [bracket], .array derived⟩
    split at read
    · rename_i brace
      split at read
      · rename_i closed
        obtain ⟨gap, cut, space⟩ := closed_cut closed
        cases read
        exact ⟨_, by simp [brace, ← cut], .emptyObject space⟩
      · obtain ⟨⟨items, more⟩, list, same⟩ := Option.map_eq_some_iff.1 read
        cases same
        obtain ⟨text, rfl, derived⟩ := sound.members list
        exact ⟨_, by simp [brace], .object derived⟩
    split at read
    · obtain ⟨whole, rfl⟩ := readLiteral_sound read
      exact ⟨_, whole, .null⟩
    split at read
    · obtain ⟨whole, rfl⟩ := readLiteral_sound read
      exact ⟨_, whole, .true⟩
    split at read
    · obtain ⟨whole, rfl⟩ := readLiteral_sound read
      exact ⟨_, whole, .false⟩
    · obtain ⟨⟨n, more⟩, written, same⟩ := Option.map_eq_some_iff.1 read
      cases same
      obtain ⟨text, whole, derived⟩ := readNumber_sound written
      exact ⟨text, whole, .number derived⟩

theorem Sound.elements_succ {fuel : Nat} (sound : Sound fuel) {bytes rest : List UInt8}
    {items : List Json} (read : readElements (fuel + 1) bytes = some (items, rest)) :
    ∃ text, bytes = text ++ 0x5d :: rest ∧ Elements text items := by
  rw [readElements] at read
  simp only [bind, Option.bind_eq_some_iff, Prod.exists] at read
  obtain ⟨v, behind, first, read⟩ := read
  obtain ⟨gap, text, rfl, space, derived⟩ := sound.value first
  obtain ⟨gap', cut, space'⟩ := skip_cut behind
  split at read
  · contradiction
  · rename_i c tail shape
    rw [shape] at cut
    split at read
    · rename_i comma
      simp only [Option.bind_eq_some_iff, Prod.exists] at read
      obtain ⟨later, more, list, same⟩ := read
      cases same
      obtain ⟨others, rfl, elements⟩ := sound.elements list
      refine ⟨_, ?_, .cons space derived space' elements⟩
      rw [cut, comma]
      simp
    · split at read
      · rename_i bracket
        cases read
        refine ⟨_, ?_, .one space derived space'⟩
        rw [cut, bracket]
        simp
      · contradiction

theorem Sound.members_succ {fuel : Nat} (sound : Sound fuel) {bytes rest : List UInt8}
    {items : List (List UInt8 × Json)} (read : readMembers (fuel + 1) bytes = some (items, rest)) :
    ∃ text, bytes = text ++ 0x7d :: rest ∧ Members text items := by
  rw [readMembers] at read
  obtain ⟨a, cut, space⟩ := skip_cut bytes
  split at read
  · contradiction
  rename_i quote tail shape
  rw [shape] at cut
  split at read
  case isFalse => contradiction
  rename_i quoted
  simp only [bind, Option.bind_eq_some_iff, Prod.exists] at read
  obtain ⟨key, behind, chars, read⟩ := read
  obtain ⟨name, rfl, named⟩ := readCharacters_sound chars
  obtain ⟨b, cut', space'⟩ := skip_cut behind
  split at read
  · contradiction
  rename_i colon tail' shape'
  rw [shape'] at cut'
  split at read
  case isFalse => contradiction
  rename_i isColon
  simp only [Option.bind_eq_some_iff, Prod.exists] at read
  obtain ⟨v, behind', first, read⟩ := read
  obtain ⟨c, text, rfl, inner, derived⟩ := sound.value first
  obtain ⟨d, cut'', space''⟩ := skip_cut behind'
  split at read
  · contradiction
  rename_i sep tail'' shape''
  rw [shape''] at cut''
  split at read
  · rename_i comma
    simp only [Option.bind_eq_some_iff, Prod.exists] at read
    obtain ⟨later, more, list, same⟩ := read
    cases same
    obtain ⟨others, rfl, members⟩ := sound.members list
    refine ⟨_, ?_, .cons space named space' inner derived space'' members⟩
    rw [cut, quoted, cut', isColon, cut'', comma]
    simp
  · split at read
    · rename_i brace
      cases read
      refine ⟨_, ?_, .one space named space' inner derived space''⟩
      rw [cut, quoted, cut', isColon, cut'', brace]
      simp
    · contradiction

theorem sound (fuel : Nat) : Sound fuel := by
  induction fuel with
  | zero =>
    constructor
    · intro _ _ _ read
      contradiction
    · intro _ _ _ read
      contradiction
    · intro _ _ _ read
      contradiction
  | succ fuel ih => exact ⟨ih.value_succ, ih.elements_succ, ih.members_succ⟩

/-- **What the parser accepts is JSON.** -/
theorem parse_sound {text : List UInt8} {v : Json} (parsed : parse text = some v) : Text text v := by
  unfold parse at parsed
  split at parsed
  · contradiction
  · rename_i u rest read
    split at parsed
    · rename_i ended
      cases parsed
      obtain ⟨gap, middle, shape, space, derived⟩ := (sound _).value read
      obtain ⟨gap', cut, space'⟩ := skip_cut rest
      rw [ended, List.append_nil] at cut
      exact ⟨gap, middle, rest, shape, space, derived, cut ▸ space'⟩
    · contradiction

/-! ## Reading a text that was written -/

/-- A number may end here. -/
def Ends (rest : List UInt8) : Prop :=
  ∀ c ∈ rest.head?, isDigit c = false ∧ c ≠ 0x2e ∧ c ≠ 0x65 ∧ c ≠ 0x45

theorem Ends.cons {c : UInt8} (rest : List UInt8)
    (ends : isDigit c = false ∧ c ≠ 0x2e ∧ c ≠ 0x65 ∧ c ≠ 0x45) : Ends (c :: rest) := by
  intro d head
  cases head
  exact ends

/-- `text` is read as `v`, with fuel for each of its bytes. -/
def Reads (text : List UInt8) (v : Json) : Prop :=
  ∀ fuel rest, text.length ≤ fuel → Ends rest → readValue fuel (text ++ rest) = some (v, rest)

/-- `text`, up to a closing quote, is read as the string `stands`. -/
def ReadsString (text stands : List UInt8) : Prop :=
  ∀ fuel rest, text.length < fuel →
    readCharacters fuel (text ++ 0x22 :: rest) = some (stands, rest)

theorem skip_cons {c : UInt8} (rest : List UInt8) (printed : isSpace c = false) :
    skip (c :: rest) = c :: rest := by
  rw [skip, List.dropWhile_cons_of_neg (by simp [printed])]

theorem readDigits_append {digits : List UInt8} (rest : List UInt8) (written : Digits digits)
    (stops : ∀ c ∈ rest.head?, isDigit c = false) :
    readDigits (digits ++ rest) = some (digits, rest) := by
  have behind : rest.takeWhile isDigit = [] ∧ rest.dropWhile isDigit = rest := by
    cases rest with
    | nil => exact ⟨rfl, rfl⟩
    | cons c rest =>
      have stop := stops c rfl
      exact ⟨List.takeWhile_cons_of_neg (by simp [stop]), List.dropWhile_cons_of_neg (by simp [stop])⟩
  have taken : (digits ++ rest).takeWhile isDigit = digits := by
    rw [List.takeWhile_append_of_pos written.2, behind.1, List.append_nil]
  rw [readDigits, taken, if_neg written.1, List.dropWhile_append_of_pos written.2, behind.2]

/-- The text of a number without exponent. -/
def numberText (negative : Bool) (whole fraction : List UInt8) : List UInt8 :=
  (if negative then [0x2d] else []) ++ (whole ++ if fraction = [] then [] else 0x2e :: fraction)

theorem readMagnitude_append (negative : Bool) {whole fraction : List UInt8} (rest : List UInt8)
    (isWhole : Whole whole) (written : ∀ c ∈ fraction, isDigit c = true) (ends : Ends rest) :
    readMagnitude negative (whole ++ ((if fraction = [] then [] else 0x2e :: fraction) ++ rest)) =
      some (⟨negative, whole, fraction, none⟩, rest) := by
  have noScale : readExponent rest = some (none, rest) := by
    cases rest with
    | nil => rfl
    | cons c rest =>
      obtain ⟨-, -, small, capital⟩ := ends c rfl
      simp [readExponent, small, capital]
  have leading : ¬ (whole.head? = some 0x30 ∧ whole ≠ [0x30]) := fun ⟨zero, longer⟩ =>
    longer (isWhole.2 zero)
  by_cases integral : fraction = []
  · subst integral
    have noPoint : readFraction rest = some ([], rest) := by
      cases rest with
      | nil => rfl
      | cons c rest => rw [readFraction, if_neg (ends c rfl).2.1]
    have digits := readDigits_append rest isWhole.1 fun c head => (ends c head).1
    simp only [readMagnitude, if_true, List.nil_append, digits, bind, Option.bind_some,
      if_neg leading, noPoint, noScale]
  · have digits := readDigits_append (0x2e :: (fraction ++ rest)) isWhole.1 (by
      intro c head
      cases head
      rfl)
    have point := readDigits_append rest ⟨integral, written⟩ fun c head => (ends c head).1
    simp only [readMagnitude, if_neg integral, List.cons_append, digits, bind, Option.bind_some,
      if_neg leading, readFraction, if_true, point, noScale]

/-- How a byte that begins no other value is read. -/
theorem readValue_number {c : UInt8} (fuel : Nat) (rest : List UInt8)
    (begins : c = 0x2d ∨ isDigit c = true) : readValue (fuel + 1) (c :: rest) =
      (readNumber (c :: rest)).map fun (n, rest) => (.number n, rest) := by
  have range : c = 0x2d ∨ (0x30 ≤ c ∧ c ≤ 0x39) := by simpa [isDigit] using begins
  have other : ∀ d : UInt8, d ≠ 0x2d → (d < 0x30 ∨ 0x39 < d) → c ≠ d := by
    rintro d minus outside rfl
    rcases range with same | ⟨low, high⟩
    · exact minus same
    · rcases outside with below | above
      · exact absurd low (UInt8.not_le.2 below)
      · exact absurd high (UInt8.not_le.2 above)
  have printed : isSpace c = false := by
    simp [isSpace, other 0x20 (by decide) (by decide), other 0x09 (by decide) (by decide),
      other 0x0a (by decide) (by decide), other 0x0d (by decide) (by decide)]
  rw [readValue, skip_cons rest printed]
  simp only [other 0x22 (by decide) (by decide), other 0x5b (by decide) (by decide),
    other 0x7b (by decide) (by decide), other 0x6e (by decide) (by decide),
    other 0x74 (by decide) (by decide), other 0x66 (by decide) (by decide), if_false]

theorem reads_number (negative : Bool) {whole fraction : List UInt8} (isWhole : Whole whole)
    (written : ∀ c ∈ fraction, isDigit c = true) :
    Reads (numberText negative whole fraction) (.number ⟨negative, whole, fraction, none⟩) := by
  intro fuel rest enough ends
  obtain ⟨c, more, rfl⟩ := List.exists_cons_of_ne_nil isWhole.1.1
  have digit : isDigit c = true := isWhole.1.2 c (List.mem_cons_self ..)
  have read := readMagnitude_append negative rest isWhole written ends
  obtain ⟨fuel, rfl⟩ : ∃ k, fuel = k + 1 := by
    refine Nat.exists_eq_add_one.2 ?_
    simp only [numberText, List.length_append, List.length_cons] at enough
    omega
  cases negative with
  | true =>
    have shape : numberText true (c :: more) fraction ++ rest =
        0x2d :: (c :: more ++ ((if fraction = [] then [] else 0x2e :: fraction) ++ rest)) := by
      simp [numberText]
    rw [shape, readValue_number fuel _ (.inl rfl), readNumber, if_pos rfl, read]
    rfl
  | false =>
    have shape : numberText false (c :: more) fraction ++ rest =
        c :: (more ++ ((if fraction = [] then [] else 0x2e :: fraction) ++ rest)) := by
      simp [numberText]
    have noMinus : c ≠ 0x2d := by
      rintro rfl
      contradiction
    rw [shape, readValue_number fuel _ (.inr digit), readNumber, if_neg noMinus]
    rw [List.cons_append] at read
    rw [read]
    rfl

theorem ReadsString.nil : ReadsString [] [] := by
  intro fuel rest enough
  obtain ⟨fuel, rfl⟩ := Nat.exists_eq_add_one.2 (Nat.zero_lt_of_lt enough)
  rw [List.nil_append, readCharacters, if_pos rfl]

theorem ReadsString.plain {c : UInt8} {text stands : List UInt8} (printable : 0x20 ≤ c)
    (noQuote : c ≠ 0x22) (noBackslash : c ≠ 0x5c) (reads : ReadsString text stands) :
    ReadsString (c :: text) (c :: stands) := by
  intro fuel rest enough
  obtain ⟨fuel, rfl⟩ := Nat.exists_eq_add_one.2 (Nat.zero_lt_of_lt enough)
  rw [List.length_cons] at enough
  rw [List.cons_append, readCharacters, if_neg noQuote, if_neg noBackslash,
    if_neg (UInt8.not_lt.2 printable), reads fuel rest (by omega)]
  rfl

theorem ReadsString.escape (escape : List UInt8) {bytes text stands : List UInt8}
    (escapes : ∀ rest, readEscape (escape ++ rest) = some (bytes, rest))
    (reads : ReadsString text stands) :
    ReadsString (0x5c :: (escape ++ text)) (bytes ++ stands) := by
  intro fuel rest enough
  obtain ⟨fuel, rfl⟩ := Nat.exists_eq_add_one.2 (Nat.zero_lt_of_lt enough)
  simp only [List.length_cons, List.length_append] at enough
  rw [List.cons_append, List.append_assoc, readCharacters, if_neg (by decide), if_pos rfl, escapes]
  simp only [bind, Option.bind_some]
  rw [reads fuel rest (by omega)]
  rfl

theorem readEscape_short {c d : UInt8} (rest : List UInt8) (short : shortEscape c = some d) :
    readEscape ([c] ++ rest) = some ([d], rest) := by
  rw [List.singleton_append, readEscape, short]

theorem readEscape_unit {hex : List UInt8} {n : Nat} (rest : List UInt8) (four : hex.length = 4)
    (value : hexValue hex = some n) (single : n < 0xd800 ∨ 0xe000 ≤ n) :
    readEscape (0x75 :: hex ++ rest) = some (utf8 n, rest) := by
  have noShort : shortEscape 0x75 = none := by decide
  have unit : readUnit (hex ++ rest) = some (n, rest) := by
    rw [readUnit, if_neg (by rw [List.length_append]; omega), List.take_left' four,
      List.drop_left' four, value]
    rfl
  rw [List.cons_append, readEscape, noShort]
  simp only [if_true, unit, Option.bind_some, if_pos single]

theorem reads_string {text stands : List UInt8} (reads : ReadsString text stands) :
    Reads (0x22 :: (text ++ [0x22])) (.string stands) := by
  intro fuel rest enough _
  simp only [List.length_cons, List.length_append, List.length_nil] at enough
  obtain ⟨fuel, rfl⟩ : ∃ k, fuel = k + 1 := Nat.exists_eq_add_one.2 (by omega)
  have shape : 0x22 :: (text ++ [0x22]) ++ rest = 0x22 :: (text ++ 0x22 :: rest) := by simp
  rw [shape, readValue, skip_cons _ (by decide)]
  simp only [if_true, reads fuel rest (by omega), Option.map_some]

/-- No value begins with a closing bracket. -/
theorem readValue_bracket (fuel : Nat) {bytes : List UInt8}
    (closed : (skip bytes).head? = some 0x5d) : readValue fuel bytes = none := by
  cases fuel with
  | zero => rfl
  | succ fuel =>
    obtain ⟨tail, shape⟩ := List.head?_eq_some_iff.1 closed
    have noDigits : readDigits (0x5d :: tail) = none := by
      simp [readDigits, isDigit]
    rw [readValue, shape]
    simp [readNumber, readMagnitude, noDigits]

theorem readElements_intercalate {texts : List (List UInt8)} {items : List Json}
    (reads : List.Forall₂ Reads texts items) (some' : texts ≠ []) (fuel : Nat) (rest : List UInt8)
    (enough : ([0x2c].intercalate texts).length < fuel) :
    readElements fuel ([0x2c].intercalate texts ++ 0x5d :: rest) = some (items, rest) := by
  have comma : ∀ rest, Ends ((0x2c : UInt8) :: rest) := fun rest => .cons rest (by decide)
  have bracket : ∀ rest, Ends ((0x5d : UInt8) :: rest) := fun rest => .cons rest (by decide)
  obtain ⟨fuel, rfl⟩ := Nat.exists_eq_add_one.2 (Nat.zero_lt_of_lt enough)
  induction reads generalizing fuel with
  | nil => exact absurd rfl some'
  | cons first later ih =>
    rename_i text item texts items
    cases later with
    | nil =>
      rw [List.intercalate_singleton] at enough ⊢
      rw [readElements, first fuel _ (by omega) (bracket rest)]
      simp only [bind, Option.bind_some]
      rw [skip_cons _ (by decide)]
      simp
    | cons second others =>
      rw [List.intercalate_cons_cons] at enough ⊢
      simp only [List.length_append, List.length_cons, List.length_nil] at enough
      obtain ⟨fuel, rfl⟩ : ∃ k, fuel = k + 1 := Nat.exists_eq_add_one.2 (by omega)
      rw [List.append_assoc, List.append_assoc, List.singleton_append, readElements,
        first (fuel + 1) _ (by omega) (comma _)]
      simp only [bind, Option.bind_some]
      rw [skip_cons _ (by decide)]
      simp only [if_true]
      rw [ih (by simp) fuel (by omega)]
      rfl

theorem reads_array {texts : List (List UInt8)} {items : List Json}
    (reads : List.Forall₂ Reads texts items) :
    Reads (0x5b :: ([0x2c].intercalate texts ++ [0x5d])) (.array items) := by
  intro fuel rest enough _
  simp only [List.length_cons, List.length_append, List.length_nil] at enough
  obtain ⟨fuel, rfl⟩ : ∃ k, fuel = k + 1 := Nat.exists_eq_add_one.2 (by omega)
  have shape : 0x5b :: ([0x2c].intercalate texts ++ [0x5d]) ++ rest =
      0x5b :: ([0x2c].intercalate texts ++ 0x5d :: rest) := by simp
  rw [shape, readValue, skip_cons _ (by decide)]
  simp only [if_neg (show ¬ (0x5b : UInt8) = 0x22 by decide), if_true]
  by_cases none' : texts = []
  · subst none'
    cases reads
    rw [List.intercalate_nil, List.nil_append, skip_cons _ (by decide)]
    simp
  · have list := readElements_intercalate reads none' fuel rest (by omega)
    have opened : (skip ([0x2c].intercalate texts ++ 0x5d :: rest)).head? ≠ some 0x5d := by
      intro closed
      obtain ⟨fuel, rfl⟩ : ∃ k, fuel = k + 1 := Nat.exists_eq_add_one.2 (by omega)
      rw [readElements, readValue_bracket fuel closed] at list
      contradiction
    rw [if_neg opened, list]
    rfl

/-- A member of an object: its name as written, and the text of its value. -/
def memberText (member : List UInt8 × List UInt8) : List UInt8 :=
  0x22 :: (member.1 ++ 0x22 :: 0x3a :: member.2)

def ReadsMember (member : List UInt8 × List UInt8) (item : List UInt8 × Json) : Prop :=
  ReadsString member.1 item.1 ∧ Reads member.2 item.2

/-- How one member is read, up to what separates it from the next. -/
theorem readMembers_cons {member : List UInt8 × List UInt8} {item : List UInt8 × Json}
    (reads : ReadsMember member item) {fuel : Nat} {c : UInt8} (rest : List UInt8)
    (enough : (memberText member).length ≤ fuel) (ends : Ends (c :: rest))
    (printed : isSpace c = false) :
    readMembers (fuel + 1) (memberText member ++ c :: rest) =
      if c = 0x2c then (readMembers fuel rest).map fun (items, rest) => (item :: items, rest)
      else if c = 0x7d then some ([item], rest)
      else none := by
  simp only [memberText, List.length_cons, List.length_append] at enough
  have shape : memberText member ++ c :: rest =
      0x22 :: (member.1 ++ 0x22 :: 0x3a :: (member.2 ++ c :: rest)) := by simp [memberText]
  rw [shape, readMembers, skip_cons _ (by decide)]
  simp only [if_true, bind]
  rw [reads.1 fuel _ (by omega), Option.bind_some]
  simp only
  rw [skip_cons _ (by decide)]
  simp only [if_true]
  rw [reads.2 fuel _ (by omega) ends, Option.bind_some]
  simp only
  rw [skip_cons _ printed]
  simp only
  split
  · cases readMembers fuel rest with
    | none => rfl
    | some answer => rfl
  · rfl

theorem readMembers_intercalate {members : List (List UInt8 × List UInt8)}
    {items : List (List UInt8 × Json)} (reads : List.Forall₂ ReadsMember members items)
    (some' : members ≠ []) (fuel : Nat) (rest : List UInt8)
    (enough : ([0x2c].intercalate (members.map memberText)).length < fuel) :
    readMembers fuel ([0x2c].intercalate (members.map memberText) ++ 0x7d :: rest) =
      some (items, rest) := by
  have comma : ∀ rest, Ends ((0x2c : UInt8) :: rest) := fun rest => .cons rest (by decide)
  have brace : ∀ rest, Ends ((0x7d : UInt8) :: rest) := fun rest => .cons rest (by decide)
  obtain ⟨fuel, rfl⟩ := Nat.exists_eq_add_one.2 (Nat.zero_lt_of_lt enough)
  induction reads generalizing fuel with
  | nil => exact absurd rfl some'
  | cons first later ih =>
    cases later with
    | nil =>
      rw [List.map_singleton, List.intercalate_singleton] at enough ⊢
      rw [readMembers_cons first rest (by omega) (brace rest) (by decide)]
      rfl
    | cons second others =>
      simp only [List.map_cons] at enough ih ⊢
      rw [List.intercalate_cons_cons] at enough ⊢
      simp only [List.length_append, List.length_cons, List.length_nil] at enough
      obtain ⟨fuel, rfl⟩ : ∃ k, fuel = k + 1 := Nat.exists_eq_add_one.2 (by omega)
      rw [List.append_assoc, List.append_assoc, List.singleton_append,
        readMembers_cons first _ (by omega) (comma _) (by decide), if_pos rfl,
        ih (by simp) fuel (by omega)]
      rfl

theorem reads_object {members : List (List UInt8 × List UInt8)}
    {items : List (List UInt8 × Json)} (reads : List.Forall₂ ReadsMember members items)
    (some' : members ≠ []) :
    Reads (0x7b :: ([0x2c].intercalate (members.map memberText) ++ [0x7d])) (.object items) := by
  intro fuel rest enough _
  simp only [List.length_cons, List.length_append, List.length_nil] at enough
  obtain ⟨fuel, rfl⟩ : ∃ k, fuel = k + 1 := Nat.exists_eq_add_one.2 (by omega)
  have shape : 0x7b :: ([0x2c].intercalate (members.map memberText) ++ [0x7d]) ++ rest =
      0x7b :: ([0x2c].intercalate (members.map memberText) ++ 0x7d :: rest) := by simp
  have list := readMembers_intercalate reads some' fuel rest (by omega)
  -- the first member begins with its quote
  have opened : (skip ([0x2c].intercalate (members.map memberText) ++ 0x7d :: rest)).head? ≠
      some 0x7d := by
    intro closed
    obtain ⟨fuel, rfl⟩ : ∃ k, fuel = k + 1 := Nat.exists_eq_add_one.2 (by
      rcases Nat.eq_zero_or_pos fuel with rfl | some'
      · contradiction
      · exact some')
    obtain ⟨tail, begins⟩ := List.head?_eq_some_iff.1 closed
    rw [readMembers, begins] at list
    simp at list
  rw [shape, readValue, skip_cons _ (by decide)]
  simp only [if_neg (show ¬ (0x7b : UInt8) = 0x22 by decide),
    if_neg (show ¬ (0x7b : UInt8) = 0x5b by decide), if_true]
  rw [if_neg opened, list]
  rfl

/-- **A text written like this is parsed to its tree.** -/
theorem parse_reads {text : List UInt8} {v : Json} (reads : Reads text v) :
    parse text = some v := by
  have read := reads text.length [] (le_refl _) (by simp [Ends])
  rw [List.append_nil] at read
  rw [parse, read]
  rfl

end Json

end SkaiEdge.Lib
