import SkaiEdge.Lib.Text

/-!
# POSIX paths, lexically

A path is a text; `parts` cuts it at the slashes. Two texts name one file when they have the
same `locate`: the parts of the absolute path with empty and dot parts removed and `..` taken
back, as long as no symbolic link is in between. `normal` is what iterating over
`absolute(p).lexically_normal()` yields, where a trailing separator shows as a last empty part.
-/

namespace SkaiEdge.Lib.Path

abbrev Location := List (List Char)

/-- `p / q`. -/
def join (p q : List Char) : List Char :=
  if q.head? = some '/' then q
  else if p = [] ∨ p.getLast? = some '/' then p ++ q else p ++ '/' :: q

def parts (text : List Char) : List (List Char) := text.splitOn '/'

def absolute (cwd text : List Char) : List Char :=
  if text.head? = some '/' then text else join cwd text

def isDot (part : List Char) : Bool := part = [] || part = ['.']

def isDotDot (part : List Char) : Bool := part = ['.', '.']

def reduce (parts : List (List Char)) : Location :=
  parts.foldl (fun done part =>
    if isDot part then done else if isDotDot part then done.dropLast else done ++ [part]) []

def locate (cwd text : List Char) : Location := reduce (parts (absolute cwd text))

def normal (cwd text : List Char) : Location :=
  let location := locate cwd text
  if location ≠ [] ∧ (parts (absolute cwd text)).getLast?.any (fun part => isDot part || isDotDot part) then
    location ++ [[]]
  else location

/-- The location under the text `p.string() + suffix`. -/
def tag (suffix : List Char) (location : Location) : Location :=
  location.dropLast ++ [location.getLastD [] ++ suffix]

/-- The file name split before its last dot; a leading dot does not count. -/
def cut (name : List Char) : List Char × List Char :=
  match Text.findLastOf name '.' with
  | none | some 0 => (name, [])
  | some n => if isDotDot name then (name, []) else (name.take n, name.drop n)

def stem (name : List Char) : List Char := (cut name).1

def extension (name : List Char) : List Char := (cut name).2

/-- A name that stands for itself as the last part of a path. -/
structure Plain (name : List Char) : Prop where
  slash : '/' ∉ name
  dot : isDot name = false
  dotDot : isDotDot name = false

theorem reduce_append (parts : List (List Char)) {name : List Char} (plain : Plain name) :
    reduce (parts ++ [name]) = reduce parts ++ [name] := by
  simp [reduce, List.foldl_append, plain.dot, plain.dotDot]

theorem reduce_append_nil (parts : List (List Char)) : reduce (parts ++ [[]]) = reduce parts := by
  simp [reduce, List.foldl_append, isDot]

theorem reduce_bare {parts : List (List Char)} : ∀ part ∈ reduce parts, isDot part = false := by
  unfold reduce
  refine List.foldlRecOn (motive := fun done => ∀ part ∈ done, isDot part = false) parts _
    (by simp) fun done bare part _ => ?_
  split
  · exact bare
  · split
    · exact fun part' member => bare part' (List.dropLast_subset _ member)
    · rename_i solid _
      intro part' member
      rcases List.mem_append.1 member with old | new
      · exact bare part' old
      · rw [List.mem_singleton.1 new]
        exact Bool.eq_false_iff.2 solid

/-- A path whose parts start with those of another one is found below it. -/
theorem locate_prefix {cwd p q : List Char} (front : normal cwd p <+: normal cwd q) :
    locate cwd p <+: locate cwd q := by
  have shape : ∀ text, normal cwd text = locate cwd text ∨ normal cwd text = locate cwd text ++ [[]] := by
    intro text
    simp only [normal]
    split
    · exact .inr rfl
    · exact .inl rfl
  have start : locate cwd p <+: normal cwd q := by
    refine List.IsPrefix.trans ?_ front
    rcases shape p with same | longer
    · exact same ▸ List.prefix_rfl
    · rw [longer]
      exact List.prefix_append ..
  rcases shape q with same | longer
  · rwa [same] at start
  · rw [longer, List.prefix_concat_iff] at start
    refine start.resolve_left fun whole => ?_
    -- a trailing separator is no part of a location
    have bare : isDot [] = false := reduce_bare [] (show [] ∈ locate cwd p by simp [whole])
    exact absurd bare (by decide)

theorem parts_append {text name : List Char} (slash : '/' ∉ name) :
    parts (text ++ '/' :: name) = parts text ++ [name] := by
  rw [parts, List.splitOn_append_cons_self, List.splitOn_eq_singleton slash]
  rfl

theorem Plain.head {name : List Char} (plain : Plain name) : name.head? ≠ some '/' := by
  intro first
  exact plain.slash (List.mem_of_head? first)

theorem reduce_join {p name : List Char} (some' : p ≠ []) (plain : Plain name) :
    reduce (parts (join p name)) = reduce (parts p) ++ [name] := by
  unfold join
  rw [if_neg plain.head]
  split
  · rename_i ends
    obtain ⟨front, rfl⟩ := List.getLast?_eq_some_iff.1 (ends.resolve_left some')
    rw [List.append_assoc, List.singleton_append, parts_append plain.slash, reduce_append _ plain]
    have bare : parts (front ++ ['/']) = parts front ++ [[]] := parts_append (by simp)
    rw [bare, reduce_append_nil]
  · rw [parts_append plain.slash, reduce_append _ plain]

theorem head_join {p : List Char} (name : List Char) (some' : p ≠ []) (relative : name.head? ≠ some '/') :
    (join p name).head? = p.head? := by
  unfold join
  rw [if_neg relative]
  split <;> simp [List.head?_append, some', Option.or_of_isSome, List.isSome_head?]

theorem join_ne_nil {p name : List Char} (some' : p ≠ []) (relative : name.head? ≠ some '/') :
    join p name ≠ [] := by
  unfold join
  rw [if_neg relative]
  split <;> simp [some']

theorem join_assoc (cwd : List Char) {p name : List Char} (some' : p ≠ [])
    (relative : p.head? ≠ some '/') (plain : Plain name) :
    join cwd (join p name) = join (join cwd p) name := by
  have head : (join p name).head? ≠ some '/' := by rwa [head_join name some' plain.head]
  have last : ∀ front : List Char, (front ++ p).getLast? = p.getLast? := by
    intro front
    rw [List.getLast?_append]
    exact Option.or_of_isSome (by simp [some'])
  have front : ∃ front, ∀ q : List Char, q.head? ≠ some '/' → join cwd q = front ++ q := by
    by_cases ends : cwd = [] ∨ cwd.getLast? = some '/'
    · exact ⟨cwd, fun q start => by rw [join, if_neg start, if_pos ends]⟩
    · exact ⟨cwd ++ ['/'], fun q start => by rw [join, if_neg start, if_neg ends]; simp⟩
  obtain ⟨front, joins⟩ := front
  rw [joins _ head, joins _ relative]
  have whole : front ++ p ≠ [] := by simp [some']
  unfold join
  rw [if_neg plain.head, if_neg plain.head, last]
  by_cases ends : p.getLast? = some '/'
  · rw [if_pos (.inr ends), if_pos (.inr ends), List.append_assoc]
  · rw [if_neg (not_or.2 ⟨some', ends⟩), if_neg (not_or.2 ⟨whole, ends⟩), List.append_assoc]

/-- **The file `name` in the directory `p`.** -/
theorem locate_join (cwd : List Char) {p name : List Char} (some' : p ≠ []) (plain : Plain name) :
    locate cwd (join p name) = locate cwd p ++ [name] := by
  unfold locate absolute
  rw [head_join name some' plain.head]
  split
  · exact reduce_join some' plain
  · rename_i relative
    rw [join_assoc cwd some' relative plain]
    refine reduce_join ?_ plain
    unfold join
    split
    · exact some'
    · split <;> simp [some']

/-- A directory text ends with a separator, or with a dot part: a trailing separator is what
`lexically_normal` makes of it. -/
def ends (text : List Char) : Bool :=
  (parts text).getLast?.any fun part => isDot part || isDotDot part

theorem last_join (p : List Char) {q : List Char} (relative : q.head? ≠ some '/') :
    (parts (join p q)).getLast? = (parts q).getLast? := by
  have behind : ∀ front : List Char, (parts (front ++ '/' :: q)).getLast? = (parts q).getLast? := by
    intro front
    rw [parts, List.splitOn_append_cons_self, List.getLast?_append]
    exact Option.or_of_isSome (by simp [List.splitOn_ne_nil])
  unfold join
  rw [if_neg relative]
  split
  · rename_i cut
    rcases cut with rfl | slash
    · rfl
    · obtain ⟨front, rfl⟩ := List.getLast?_eq_some_iff.1 slash
      rw [List.append_assoc]
      exact behind front
  · exact behind p

/-- The last part of an absolute path is the last part of the text. -/
theorem normal_eq (cwd text : List Char) : normal cwd text =
    if locate cwd text ≠ [] ∧ ends text = true then locate cwd text ++ [[]] else locate cwd text := by
  have last : (parts (absolute cwd text)).getLast? = (parts text).getLast? := by
    unfold absolute
    split
    · rfl
    · rename_i relative
      exact last_join cwd relative
  simp only [normal, ends, last]
  rfl

theorem normal_join (cwd : List Char) {p name : List Char} (some' : p ≠ []) (plain : Plain name) :
    normal cwd (join p name) = locate cwd p ++ [name] := by
  have own : ends (join p name) = false := by
    rw [ends, last_join p plain.head, parts, List.splitOn_eq_singleton plain.slash]
    simp [plain.dot, plain.dotDot]
  rw [normal_eq, own, locate_join cwd some' plain]
  simp

theorem tag_append (suffix : List Char) (parent : Location) (name : List Char) :
    tag suffix (parent ++ [name]) = parent ++ [name ++ suffix] := by
  simp [tag]

theorem stem_append_extension (name : List Char) : stem name ++ extension name = name := by
  unfold stem extension cut
  split
  · simp
  · simp
  · split <;> simp

/-- The location is in the directory `root`, or in one of its subdirectories. -/
def Below (root location : Location) : Prop := root <+: location ∧ root ≠ location

instance (root location : Location) : Decidable (Below root location) :=
  inferInstanceAs (Decidable (_ ∧ _))

theorem Below.sibling {root parent : Location} {name : List Char} (below : Below root (parent ++ [name]))
    (name' : List Char) : Below root (parent ++ [name']) := by
  have inner : root <+: parent := (List.prefix_concat_iff.1 below.1).resolve_left below.2
  refine ⟨inner.trans (List.prefix_append ..), fun same => ?_⟩
  have size := inner.length_le
  rw [same, List.length_append, List.length_singleton] at size
  omega

/-- A name is cut before its last dot. -/
theorem cut_append {front rest : List Char} (some' : front ≠ []) (last : '.' ∉ rest)
    (plain : isDotDot (front ++ '.' :: rest) = false) :
    cut (front ++ '.' :: rest) = (front, '.' :: rest) := by
  unfold cut
  rw [Text.findLastOf_append front last]
  obtain ⟨n, size⟩ : ∃ n, front.length = n + 1 := by
    cases front with
    | nil => exact absurd rfl some'
    | cons c front => exact ⟨front.length, rfl⟩
  rw [size]
  simp only [plain, Bool.false_eq_true, ↓reduceIte]
  rw [← size, List.take_left, List.drop_left]

end SkaiEdge.Lib.Path
