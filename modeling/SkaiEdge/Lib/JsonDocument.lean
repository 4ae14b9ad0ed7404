import SkaiEdge.Lib.JsonComplete
import SkaiEdge.Lib.GeneralFormat

/-!
# Texts that come with their tree

A `Document` is a text a program writes together with the tree a reader gets from it. It is `valid`
when every number in it is finite: then the text is a text of the tree, and otherwise it has no
tree at all, since no reader gets past the number. Documents are put together as the text is, so
a writer made of these operations needs no proof of its own.
-/

namespace SkaiEdge.Lib

namespace Json

theorem Text.reads {text : List UInt8} {v : Json} (written : Text text v) (fuel : Nat)
    {rest : List UInt8} (enough : text.length ≤ fuel) (ends : Ends rest) :
    ∃ gap, Space gap ∧ readValue fuel (text ++ rest) = some (v, gap ++ rest) := by
  obtain ⟨a, b, c, rfl, before, value, behind⟩ := written
  refine ⟨c, behind, ?_⟩
  simp only [List.append_assoc, List.length_append] at enough ⊢
  rw [readValue_skip fuel before]
  exact (complete fuel).value value (by omega) _ (Ends.gap behind ends)

structure Document where
  text : List UInt8
  tree : Json
  valid : Bool
  begins : ∃ c more, text = c :: more ∧ isSpace c = false ∧ c ≠ 0x5d
  grammar : valid = true → Text text tree
  broken : valid = false → ∀ fuel rest, text.length ≤ fuel → Ends rest →
    readValue fuel (text ++ rest) = none

namespace Document

/-- A text that is a value by itself. -/
def ofValue {text : List UInt8} {v : Json} (value : Value text v) : Document where
  text := text
  tree := v
  valid := true
  begins := value_begins value
  grammar _ := by
    refine ⟨[], text, [], by simp, ?_, value, ?_⟩ <;> simp [Space]
  broken absurd' := by simp at absurd'

def null : Document := ofValue .null

def bool : Bool → Document
  | true => ofValue .true
  | false => ofValue .false

def number {text : List UInt8} {n : Number} (written : NumberText text n) : Document :=
  ofValue (.number written)

def string {text bytes : List UInt8} (characters : Characters text bytes) : Document :=
  ofValue (.string characters)

theorem stuck_nonfinite (negative : Bool) (word : List UInt8) (which : word = [0x69, 0x6e, 0x66] ∨
    word = [0x6e, 0x61, 0x6e]) (fuel : Nat) (rest : List UInt8) :
    readValue fuel ((if negative then [0x2d] else []) ++ word ++ rest) = none := by
  cases fuel with
  | zero => rfl
  | succ fuel =>
    rcases which with rfl | rfl <;> cases negative <;>
      simp [readValue, skip, isSpace, readNumber, readMagnitude, readDigits, isDigit, readLiteral]

/-- `output << std::setprecision(precision) << x`. -/
def double (precision : Nat) (some' : 1 ≤ precision) : Double → Document
  | .finite negative size => number (Double.print_written some' negative size).1
  | .infinite negative =>
    { text := Double.print precision (.infinite negative)
      tree := .null
      valid := false
      begins := by cases negative <;> exact ⟨_, _, rfl, by decide, by decide⟩
      grammar := by simp
      broken := fun _ fuel rest _ _ => stuck_nonfinite negative _ (.inl rfl) fuel rest }
  | .nan negative =>
    { text := Double.print precision (.nan negative)
      tree := .null
      valid := false
      begins := by cases negative <;> exact ⟨_, _, rfl, by decide, by decide⟩
      grammar := by simp
      broken := fun _ fuel rest _ _ => stuck_nonfinite negative _ (.inr rfl) fuel rest }

def optional {α : Type*} (write : α → Document) : Option α → Document
  | none => null
  | some a => write a

/-! ## Arrays -/

theorem elements_single {text : List UInt8} {v : Json} (written : Text text v) : Elements text [v] := by
  obtain ⟨a, b, c, rfl, before, value, behind⟩ := written
  exact .one before value behind

theorem elements_more {text more : List UInt8} {v : Json} {items : List Json} (written : Text text v)
    (others : Elements more items) : Elements (text ++ 0x2c :: more) (v :: items) := by
  obtain ⟨a, b, c, rfl, before, value, behind⟩ := written
  have all := Elements.cons before value behind others
  simpa using all

def commas (first : Document) (rest : List Document) : List UInt8 :=
  [0x2c].intercalate ((first :: rest).map text)

@[simp] theorem commas_nil (first : Document) : commas first [] = first.text := by
  simp [commas]

@[simp] theorem commas_cons (first second : Document) (rest : List Document) :
    commas first (second :: rest) = first.text ++ 0x2c :: commas second rest := by
  simp [commas, List.intercalate_cons_cons]

theorem elements_commas (first : Document) (rest : List Document)
    (valid : ∀ item ∈ first :: rest, item.valid = true) :
    Elements (commas first rest) ((first :: rest).map tree) := by
  induction rest generalizing first with
  | nil =>
    rw [commas_nil]
    exact elements_single (first.grammar (valid first (List.mem_cons_self ..)))
  | cons second rest ih =>
    have others := ih second fun item member => valid item (List.mem_cons_of_mem _ member)
    rw [commas_cons]
    exact elements_more (first.grammar (valid first (List.mem_cons_self ..))) others

/-- Reading stops at the first item that is broken. -/
theorem elements_broken (first : Document) (rest : List Document)
    (broken : ∃ item ∈ first :: rest, item.valid = false) (fuel : Nat) (behind : List UInt8)
    (enough : (commas first rest).length < fuel) :
    readElements fuel (commas first rest ++ 0x5d :: behind) = none := by
  induction rest generalizing first fuel with
  | nil =>
    obtain ⟨item, member, invalid⟩ := broken
    obtain rfl := List.mem_singleton.1 member
    obtain ⟨fuel, rfl⟩ : ∃ k, fuel = k + 1 := Nat.exists_eq_add_one.2 (by omega)
    rw [commas_nil] at enough ⊢
    rw [readElements, item.broken invalid fuel _ (by omega) (.cons behind (by decide))]
    rfl
  | cons second rest ih =>
    obtain ⟨fuel, rfl⟩ : ∃ k, fuel = k + 1 := Nat.exists_eq_add_one.2 (by omega)
    have ends : Ends (0x2c :: (commas second rest ++ 0x5d :: behind)) := comma_ends _
    rw [commas_cons] at enough ⊢
    rw [List.length_append, List.length_cons] at enough
    rw [List.append_assoc, List.cons_append, readElements]
    cases invalid : first.valid with
    | false =>
      rw [first.broken invalid fuel _ (by omega) ends]
      rfl
    | true =>
      obtain ⟨gap, space, read⟩ := (first.grammar invalid).reads fuel (by omega) ends
      have others : ∃ item ∈ second :: rest, item.valid = false := by
        obtain ⟨item, member, bad⟩ := broken
        rcases List.mem_cons.1 member with rfl | later
        · rw [invalid] at bad
          contradiction
        · exact ⟨item, later, bad⟩
      rw [read]
      simp only [bind, Option.bind_some]
      rw [skip_gap space _ (by decide)]
      simp only [if_true, ih second others fuel (by omega), Option.bind_none]

theorem commas_begins (first : Document) (rest : List Document) :
    ∃ c more, commas first rest = c :: more ∧ isSpace c = false ∧ c ≠ 0x5d := by
  obtain ⟨c, more, shape, printed, closes⟩ := first.begins
  cases rest with
  | nil => exact ⟨c, more, by rw [commas_nil, shape], printed, closes⟩
  | cons second rest => exact ⟨c, _, by rw [commas_cons, shape, List.cons_append], printed, closes⟩

theorem array_broken (first : Document) (rest : List Document)
    (broken : ∃ item ∈ first :: rest, item.valid = false) (fuel : Nat) (behind : List UInt8)
    (enough : (0x5b :: (commas first rest ++ [0x5d])).length ≤ fuel) :
    readValue fuel (0x5b :: (commas first rest ++ [0x5d]) ++ behind) = none := by
  simp only [List.length_cons, List.length_append, List.length_nil] at enough
  obtain ⟨fuel, rfl⟩ : ∃ k, fuel = k + 1 := Nat.exists_eq_add_one.2 (by omega)
  obtain ⟨c, more, shape, printed, closes⟩ := commas_begins first rest
  have open' : (skip (commas first rest ++ 0x5d :: behind)).head? ≠ some 0x5d := by
    rw [shape, List.cons_append, skip_cons _ printed]
    simpa using closes
  have stops := elements_broken first rest broken fuel behind (by omega)
  have joined : 0x5b :: (commas first rest ++ [0x5d]) ++ behind =
      0x5b :: (commas first rest ++ 0x5d :: behind) := by simp
  rw [joined, readValue, skip_cons _ (by decide)]
  simp [open', stops]

def array : List Document → Document
  | [] => ofValue (.emptyArray (show Space [] by simp [Space]))
  | first :: rest =>
    { text := 0x5b :: (commas first rest ++ [0x5d])
      tree := .array ((first :: rest).map tree)
      valid := (first :: rest).all valid
      begins := ⟨_, _, rfl, by decide, by decide⟩
      grammar := by
        intro every
        have elements := elements_commas first rest (List.all_eq_true.1 every)
        exact (ofValue (.array elements)).grammar rfl
      broken := by
        intro some' fuel behind enough _
        rw [List.all_eq_false] at some'
        exact array_broken first rest (by simpa using some') fuel behind enough }

/-! ## Objects -/

/-- A member of an object: its name as it is written, and what that stands for. -/
structure Member where
  {text key : List UInt8}
  name : Characters text key
  value : Document

namespace Member

def written (m : Member) : List UInt8 := 0x22 :: (m.text ++ 0x22 :: 0x3a :: m.value.text)

def pair (m : Member) : List UInt8 × Json := (m.key, m.value.tree)

theorem single (m : Member) (value : Text m.value.text m.value.tree) :
    Members m.written [m.pair] := by
  obtain ⟨a, b, c, shape, before, value, behind⟩ := value
  have blank : Space [] := by simp [Space]
  have all := Members.one blank m.name blank before value behind
  simpa [written, pair, shape] using all

theorem more (m : Member) {more : List UInt8} {items : List (List UInt8 × Json)}
    (value : Text m.value.text m.value.tree) (others : Members more items) :
    Members (m.written ++ 0x2c :: more) (m.pair :: items) := by
  obtain ⟨a, b, c, shape, before, value, behind⟩ := value
  have blank : Space [] := by simp [Space]
  have all := Members.cons blank m.name blank before value behind others
  simpa [written, pair, shape] using all

def commas (first : Member) (rest : List Member) : List UInt8 :=
  [0x2c].intercalate ((first :: rest).map written)

@[simp] theorem commas_nil (first : Member) : commas first [] = first.written := by
  simp [commas]

@[simp] theorem commas_cons (first second : Member) (rest : List Member) :
    commas first (second :: rest) = first.written ++ 0x2c :: commas second rest := by
  simp [commas, List.intercalate_cons_cons]

theorem members_commas (first : Member) (rest : List Member)
    (valid : ∀ m ∈ first :: rest, m.value.valid = true) :
    Members (commas first rest) ((first :: rest).map pair) := by
  induction rest generalizing first with
  | nil =>
    rw [commas_nil]
    exact first.single (first.value.grammar (valid first (List.mem_cons_self ..)))
  | cons second rest ih =>
    have others := ih second fun m member => valid m (List.mem_cons_of_mem _ member)
    rw [commas_cons]
    exact first.more (first.value.grammar (valid first (List.mem_cons_self ..))) others

/-- Reading a member comes down to reading its value. -/
theorem readMembers_written (m : Member) (fuel : Nat) (behind : List UInt8)
    (enough : m.written.length ≤ fuel) :
    readMembers (fuel + 1) (m.written ++ behind) = (readValue fuel (m.value.text ++ behind)).bind
      fun (v, rest) =>
        match skip rest with
        | [] => none
        | c :: rest =>
          if c = 0x2c then do
            let (items, rest) ← readMembers fuel rest
            some ((m.key, v) :: items, rest)
          else if c = 0x7d then some ([(m.key, v)], rest)
          else none := by
  simp only [written, List.length_cons, List.length_append] at enough
  have shape : m.written ++ behind = 0x22 :: (m.text ++ 0x22 :: 0x3a :: (m.value.text ++ behind)) := by
    simp [written]
  rw [shape, readMembers, skip_cons _ (by decide)]
  simp only [if_true, bind]
  rw [m.name.reads fuel _ (by omega), Option.bind_some]
  simp only
  rw [skip_cons _ (by decide)]
  exact if_pos rfl

theorem members_broken (first : Member) (rest : List Member)
    (broken : ∃ m ∈ first :: rest, m.value.valid = false) (fuel : Nat) (behind : List UInt8)
    (enough : (commas first rest).length < fuel) :
    readMembers fuel (commas first rest ++ 0x7d :: behind) = none := by
  have value : ∀ m : Member, m.value.text.length ≤ m.written.length := by
    intro m
    simp only [written, List.length_cons, List.length_append]
    omega
  induction rest generalizing first fuel with
  | nil =>
    obtain ⟨m, member, invalid⟩ := broken
    obtain rfl := List.mem_singleton.1 member
    obtain ⟨fuel, rfl⟩ : ∃ k, fuel = k + 1 := Nat.exists_eq_add_one.2 (by omega)
    have inside := value m
    rw [commas_nil] at enough ⊢
    rw [readMembers_written m fuel _ (by omega),
      m.value.broken invalid fuel _ (by omega) (.cons behind (by decide))]
    rfl
  | cons second rest ih =>
    obtain ⟨fuel, rfl⟩ : ∃ k, fuel = k + 1 := Nat.exists_eq_add_one.2 (by omega)
    have ends : Ends (0x2c :: (commas second rest ++ 0x7d :: behind)) := comma_ends _
    have inside := value first
    rw [commas_cons] at enough ⊢
    rw [List.length_append, List.length_cons] at enough
    rw [List.append_assoc, List.cons_append, readMembers_written first fuel _ (by omega)]
    cases invalid : first.value.valid with
    | false =>
      rw [first.value.broken invalid fuel _ (by omega) ends]
      rfl
    | true =>
      obtain ⟨gap, space, read⟩ := (first.value.grammar invalid).reads fuel (by omega) ends
      have others : ∃ m ∈ second :: rest, m.value.valid = false := by
        obtain ⟨m, member, bad⟩ := broken
        rcases List.mem_cons.1 member with rfl | later
        · rw [invalid] at bad
          contradiction
        · exact ⟨m, later, bad⟩
      rw [read, Option.bind_some]
      simp only
      rw [skip_gap space _ (by decide)]
      simp only [if_true, bind, ih second others fuel (by omega), Option.bind_none]

theorem object_broken (first : Member) (rest : List Member)
    (broken : ∃ m ∈ first :: rest, m.value.valid = false) (fuel : Nat) (behind : List UInt8)
    (enough : (0x7b :: (commas first rest ++ [0x7d])).length ≤ fuel) :
    readValue fuel (0x7b :: (commas first rest ++ [0x7d]) ++ behind) = none := by
  simp only [List.length_cons, List.length_append, List.length_nil] at enough
  obtain ⟨fuel, rfl⟩ : ∃ k, fuel = k + 1 := Nat.exists_eq_add_one.2 (by omega)
  have begins : ∃ more, commas first rest = 0x22 :: more := by
    cases rest with
    | nil => exact ⟨_, by rw [commas_nil, written]⟩
    | cons second rest => exact ⟨_, by rw [commas_cons, written, List.cons_append]⟩
  obtain ⟨more, shape⟩ := begins
  have open' : (skip (commas first rest ++ 0x7d :: behind)).head? ≠ some 0x7d := by
    rw [shape, List.cons_append, skip_cons _ (by decide)]
    simp
  have stops := members_broken first rest broken fuel behind (by omega)
  have joined : 0x7b :: (commas first rest ++ [0x7d]) ++ behind =
      0x7b :: (commas first rest ++ 0x7d :: behind) := by simp
  rw [joined, readValue, skip_cons _ (by decide)]
  simp [open', stops]

end Member

def object : List Member → Document
  | [] => ofValue (.emptyObject (show Space [] by simp [Space]))
  | first :: rest =>
    { text := 0x7b :: (Member.commas first rest ++ [0x7d])
      tree := .object ((first :: rest).map Member.pair)
      valid := (first :: rest).all (·.value.valid)
      begins := ⟨_, _, rfl, by decide, by decide⟩
      grammar := by
        intro every
        have members := Member.members_commas first rest (List.all_eq_true.1 every)
        exact (ofValue (.object members)).grammar rfl
      broken := by
        intro some' fuel behind enough _
        rw [List.all_eq_false] at some'
        exact Member.object_broken first rest (by simpa using some') fuel behind enough }

/-- The document with a line feed behind it. -/
def line (d : Document) : Document where
  text := d.text ++ [0x0a]
  tree := d.tree
  valid := d.valid
  begins := by
    obtain ⟨c, more, shape, facts⟩ := d.begins
    exact ⟨c, _, by rw [shape, List.cons_append], facts⟩
  grammar written := by
    obtain ⟨a, b, c, shape, before, value, behind⟩ := d.grammar written
    refine ⟨a, b, c ++ [0x0a], by simp [shape], before, value, ?_⟩
    intro e member
    rcases List.mem_append.1 member with old | feed
    · exact behind e old
    · rw [List.mem_singleton.1 feed]
      rfl
  broken := by
    intro invalid fuel rest enough _
    have ends : Ends (0x0a :: rest) := .cons rest (by decide)
    rw [List.length_append] at enough
    rw [List.append_assoc]
    exact d.broken invalid fuel _ (by omega) ends

/-- **What is written is read back**, and nothing is read from a document that is not valid. -/
theorem parse_document (d : Document) : parse d.text = if d.valid then some d.tree else none := by
  split
  · rename_i valid
    exact parse_complete (d.grammar valid)
  · rename_i invalid
    have ends : Ends [] := by simp [Ends]
    have stuck := d.broken (by simpa using invalid) d.text.length [] le_rfl ends
    rw [List.append_nil] at stuck
    rw [parse, stuck]

/-! ## What makes a document valid -/

@[simp] theorem valid_ofValue {text : List UInt8} {v : Json} (value : Value text v) :
    (ofValue value).valid = true := rfl

@[simp] theorem valid_null : null.valid = true := rfl

@[simp] theorem valid_bool (b : Bool) : (bool b).valid = true := by cases b <;> rfl

@[simp] theorem valid_number {text : List UInt8} {n : Number} (written : NumberText text n) :
    (number written).valid = true := rfl

@[simp] theorem valid_string {text bytes : List UInt8} (characters : Characters text bytes) :
    (string characters).valid = true := rfl

@[simp] theorem valid_double (precision : Nat) (some' : 1 ≤ precision) (x : Double) :
    (double precision some' x).valid = x.isFinite := by
  cases x <;> rfl

@[simp] theorem valid_optional {α : Type*} (write : α → Document) (a : Option α) :
    (optional write a).valid = a.all fun a => (write a).valid := by
  cases a <;> rfl

@[simp] theorem valid_array (items : List Document) : (array items).valid = items.all valid := by
  cases items <;> rfl

@[simp] theorem valid_object (members : List Member) :
    (object members).valid = members.all (·.value.valid) := by
  cases members <;> rfl

@[simp] theorem valid_line (d : Document) : d.line.valid = d.valid := rfl

end Document

end Json

end SkaiEdge.Lib
