import Mathlib

/-!
# Reading a configuration document (`check_keys` and `read_scalar` of `src/config.cpp`)

`Node` is what the YAML reader makes of a text, and `find` its `operator[]` on a constant node.
`Keyed` and `Gives` say what the two helpers accept; both survive another order of the keys.
-/

namespace SkaiEdge.Config

inductive Node where
  | null
  | scalar (text : String)
  | sequence (items : List Node)
  | map (entries : List (Node × Node))

def Node.text : Node → Option String
  | .scalar text => some text
  | _ => none

def Node.items : Node → Option (List Node)
  | .sequence items => some items
  | _ => none

def Node.entries : Node → Option (List (Node × Node))
  | .map entries => some entries
  | _ => none

/-- The value of the first entry with this key. -/
def Node.find (node : Node) (key : String) : Option Node :=
  ((node.entries.getD []).find? fun entry => entry.1.text = some key).map (·.2)

/-- The loop of `check_keys`; `seen` are the keys in front. -/
def checkEntries (path : String) (allowed : List String) (seen : List String) :
    List (Node × Node) → Except String Unit
  | [] => .ok ()
  | entry :: entries =>
    match entry.1.text with
    | none => .error (path ++ " has a non-string key")
    | some key =>
      let field := if path = "" then key else path ++ "." ++ key
      if key ∈ seen then .error (field ++ " is duplicated")
      else if key ∉ allowed then .error ("unknown configuration key: " ++ field)
      else checkEntries path allowed (key :: seen) entries

def checkKeys (node : Node) (path : String) (allowed : List String) : Except String Unit :=
  match node.entries with
  | none => .error (path ++ " must be a mapping")
  | some entries => checkEntries path allowed [] entries

/-- `if (const auto field = node[key])`; `value` is what a field has before the call. -/
def ifPresent {α : Type} (node : Node) (key : String) (value : α) (read : Node → Except String α) :
    Except String α :=
  match node.find key with
  | none => .ok value
  | some field => read field

def readScalar {α : Type} (convert : String → Option α) (node : Node) (key path : String)
    (value : α) : Except String α :=
  ifPresent node key value fun field =>
    match field.text with
    | none => .error (path ++ "." ++ key ++ " must be a scalar")
    | some text =>
      match convert text with
      | none => .error (path ++ "." ++ key ++ " has an invalid value")
      | some value => .ok value

/-! ## What the helpers accept -/

theorem bind_ok {α β : Type} {x : Except String α} {f : α → Except String β} {b : β} :
    (x >>= f) = .ok b ↔ ∃ a, x = .ok a ∧ f a = .ok b := by
  cases x with
  | error text => exact iff_of_false (by rintro ⟨⟩) (by rintro ⟨_, ⟨⟩, _⟩)
  | ok a =>
    constructor
    · intro run
      exact ⟨a, rfl, run⟩
    · rintro ⟨_, ⟨⟩, run⟩
      exact run

theorem check_ok {β : Type} {x : Except String Unit} {y : Except String β} {b : β} :
    (x >>= fun _ => y) = .ok b ↔ x = .ok () ∧ y = .ok b := by
  rw [bind_ok]
  constructor
  · rintro ⟨⟨⟩, checked, rest⟩
    exact ⟨checked, rest⟩
  · rintro ⟨checked, rest⟩
    exact ⟨(), checked, rest⟩

theorem pure_ok {α : Type} {a b : α} : (pure a : Except String α) = .ok b ↔ a = b :=
  Except.ok.injEq a b ▸ Iff.rfl

/-- A mapping whose keys are texts, each there once and all of them allowed. -/
def Keyed (node : Node) (allowed : List String) : Prop :=
  ∃ entries, node.entries = some entries ∧ (entries.map (·.1.text)).Nodup ∧
    ∀ entry ∈ entries, ∃ key ∈ allowed, entry.1.text = some key

/-- What a field is read as: what its node says, or `value` where the document has none. -/
inductive Reads {α : Type} (node : Node) (key : String) (value : α) (Says : Node → α → Prop) :
    α → Prop where
  | absent : node.find key = none → Reads node key value Says value
  | present {field : Node} {read : α} : node.find key = some field → Says field read →
      Reads node key value Says read

/-- A scalar says what its text is converted to. -/
def Scalar {α : Type} (convert : String → Option α) (node : Node) (read : α) : Prop :=
  ∃ text, node.text = some text ∧ convert text = some read

/-- `read` accepts exactly what a node says. -/
def Accepts {α : Type} (read : Node → Except String α) (Says : Node → α → Prop) : Prop :=
  ∀ node value, read node = .ok value ↔ Says node value

theorem checkEntries_ok {path : String} {allowed : List String} (seen : List String)
    (entries : List (Node × Node)) : checkEntries path allowed seen entries = .ok () ↔
      (entries.map (·.1.text)).Nodup ∧
        ∀ entry ∈ entries, ∃ key ∈ allowed, key ∉ seen ∧ entry.1.text = some key := by
  induction entries generalizing seen with
  | nil => exact iff_of_true rfl ⟨List.nodup_nil, by simp⟩
  | cons entry entries ih =>
    rw [List.map_cons, List.nodup_cons, List.forall_mem_cons, checkEntries]
    cases name : entry.1.text with
    | none => simp
    | some key =>
      by_cases before : key ∈ seen
      · simp [before]
      · by_cases known : key ∈ allowed
        · simp only [if_neg before, if_neg (not_not.2 known), ih]
          constructor
          · rintro ⟨once, all⟩
            refine ⟨⟨fun again => ?_, once⟩, ⟨key, known, before, rfl⟩, fun other member => ?_⟩
            · obtain ⟨other, member, same⟩ := List.mem_map.1 again
              obtain ⟨key', -, new, name'⟩ := all other member
              rw [same] at name'
              cases name'
              exact new List.mem_cons_self
            · obtain ⟨key', known', new, name'⟩ := all other member
              exact ⟨key', known', fun earlier => new (List.mem_cons_of_mem key earlier), name'⟩
          · rintro ⟨⟨new, once⟩, -, all⟩
            refine ⟨once, fun other member => ?_⟩
            obtain ⟨key', known', later, name'⟩ := all other member
            refine ⟨key', known', fun earlier => ?_, name'⟩
            obtain rfl | earlier := List.mem_cons.1 earlier
            · exact new (List.mem_map.2 ⟨other, member, name'⟩)
            · exact later earlier
        · simp [before, known]

theorem checkKeys_ok {node : Node} {path : String} {allowed : List String} :
    checkKeys node path allowed = .ok () ↔ Keyed node allowed := by
  unfold checkKeys Keyed
  cases node.entries with
  | none => simp
  | some entries =>
    simp only [checkEntries_ok, List.not_mem_nil, not_false_eq_true, true_and, Option.some.injEq,
      exists_eq_left']

theorem ifPresent_ok {α : Type} {read : Node → Except String α} {Says : Node → α → Prop}
    (accepts : Accepts read Says) {node : Node} {key : String} {value out : α} :
    ifPresent node key value read = .ok out ↔ Reads node key value Says out := by
  unfold ifPresent
  constructor
  · intro run
    split at run
    · rename_i missing
      cases run
      exact .absent missing
    · rename_i field found
      exact .present found ((accepts field out).1 run)
  · rintro (missing | ⟨found, stated⟩)
    · rw [missing]
    · rw [found]
      exact (accepts _ out).2 stated

theorem readScalar_ok {α : Type} {convert : String → Option α} {node : Node} {key path : String}
    {value out : α} : readScalar convert node key path value = .ok out ↔
      Reads node key value (Scalar convert) out := by
  refine ifPresent_ok fun field out => ?_
  unfold Scalar
  cases field.text with
  | none => simp
  | some text => cases converted : convert text <;> simp [converted]

/-! ## Another order of the keys -/

/-- The same document, with the entries of its mappings in any order. -/
inductive Same : Node → Node → Prop where
  | null : Same .null .null
  | scalar (text : String) : Same (.scalar text) (.scalar text)
  | sequence {items items' : List Node} : List.Forall₂ Same items items' →
      Same (.sequence items) (.sequence items')
  | map {entries ordered entries' : List (Node × Node)} :
      entries.map (·.1) = ordered.map (·.1) →
      List.Forall₂ Same (entries.map (·.2)) (ordered.map (·.2)) → ordered.Perm entries' →
      Same (.map entries) (.map entries')

theorem Same.text {node node' : Node} (same : Same node node') : node'.text = node.text := by
  cases same <;> rfl

theorem Same.items {node node' : Node} (same : Same node node') {items : List Node}
    (shape : node.items = some items) :
    ∃ items', node'.items = some items' ∧ List.Forall₂ Same items items' := by
  cases same with
  | sequence each =>
    cases shape
    exact ⟨_, rfl, each⟩
  | _ => cases shape

theorem paired {entries ordered : List (Node × Node)} (keys : entries.map (·.1) = ordered.map (·.1))
    (values : List.Forall₂ Same (entries.map (·.2)) (ordered.map (·.2))) {entry : Node × Node}
    (member : entry ∈ entries) : ∃ entry' ∈ ordered, entry.1 = entry'.1 ∧ Same entry.2 entry'.2 := by
  induction entries generalizing ordered with
  | nil => cases member
  | cons first entries ih =>
    cases ordered with
    | nil => cases keys
    | cons first' ordered =>
      rw [List.map_cons, List.map_cons, List.cons.injEq] at keys
      rw [List.map_cons, List.map_cons, List.forall₂_cons] at values
      obtain rfl | member := List.mem_cons.1 member
      · exact ⟨first', List.mem_cons_self, keys.1, values.1⟩
      · obtain ⟨entry', member', pair⟩ := ih keys.2 values.2 member
        exact ⟨entry', List.mem_cons_of_mem first' member', pair⟩

/-- An entry whose key is there once is found wherever it stands. -/
theorem find_once {entries : List (Node × Node)} (once : (entries.map (·.1.text)).Nodup)
    {entry : Node × Node} (member : entry ∈ entries) {key : String}
    (name : entry.1.text = some key) :
    (entries.find? fun entry => entry.1.text = some key) = some entry := by
  induction entries with
  | nil => cases member
  | cons first entries ih =>
    obtain ⟨new, once⟩ := List.nodup_cons.1 once
    obtain rfl | member := List.mem_cons.1 member
    · rw [List.find?_cons_of_pos (by simpa using name)]
    · have other : first.1.text ≠ some key := fun same =>
        new (List.mem_map.2 ⟨entry, member, name.trans same.symm⟩)
      rw [List.find?_cons_of_neg (by simpa using other)]
      exact ih once member

/-- **Reordered mappings have the same keys, and the same values under them.** -/
theorem Same.find {node node' : Node} (same : Same node node') {allowed : List String}
    (keyed : Keyed node allowed) :
    Keyed node' allowed ∧ ∀ key, Option.Rel Same (node.find key) (node'.find key) := by
  obtain ⟨entries, shape, once, all⟩ := keyed
  cases same with
  | map keys values perm =>
    cases shape
    rename_i ordered entries'
    have names : entries.map (·.1.text) = ordered.map (·.1.text) := by
      have texts := congrArg (List.map Node.text) keys
      rwa [List.map_map, List.map_map] at texts
    have texts := perm.map (·.1.text)
    rw [← names] at texts
    have once' := texts.nodup_iff.1 once
    refine ⟨⟨entries', rfl, once', fun entry member => ?_⟩, fun key => ?_⟩
    · obtain ⟨entry', member', name⟩ := List.mem_map.1 (texts.mem_iff.2 (List.mem_map_of_mem member))
      obtain ⟨key, known, name'⟩ := all entry' member'
      exact ⟨key, known, name.symm.trans name'⟩
    · simp only [Node.find, Node.entries, Option.getD_some]
      cases found : entries.find? fun entry => entry.1.text = some key with
      | none =>
        have missing : (entries'.find? fun entry => entry.1.text = some key) = none := by
          rw [List.find?_eq_none] at found ⊢
          intro entry member
          obtain ⟨entry', member', name⟩ :=
            List.mem_map.1 (texts.mem_iff.2 (List.mem_map_of_mem member))
          rw [← name]
          exact found entry' member'
        rw [missing]
        exact .none
      | some entry =>
        have name : entry.1.text = some key := by simpa using List.find?_some found
        obtain ⟨entry', member', pair⟩ := paired keys values (List.mem_of_find?_eq_some found)
        rw [find_once once' (perm.mem_iff.1 member') (pair.1 ▸ name)]
        exact .some pair.2
  | _ => cases shape

theorem Same.found {node node' : Node} (same : Same node node') {allowed : List String}
    (keyed : Keyed node allowed) {key : String} {field : Node} (found : node.find key = some field) :
    ∃ field', node'.find key = some field' ∧ Same field field' := by
  have related := (same.find keyed).2 key
  rw [found] at related
  cases other : node'.find key with
  | none =>
    rw [other] at related
    cases related
  | some field' =>
    rw [other] at related
    cases related with
    | some inside => exact ⟨field', rfl, inside⟩

theorem Same.isSome_find {node node' : Node} (same : Same node node') {allowed : List String}
    (keyed : Keyed node allowed) (key : String) :
    (node'.find key).isSome = (node.find key).isSome := by
  have related := (same.find keyed).2 key
  generalize node.find key = field at related ⊢
  generalize node'.find key = field' at related ⊢
  cases related <;> rfl

/-- `Says` is about the document and not about the order of its keys. -/
def Orderless {α : Type} (Says : Node → α → Prop) : Prop :=
  ∀ node node' value, Same node node' → Says node value → Says node' value

theorem scalar_orderless {α : Type} (convert : String → Option α) : Orderless (Scalar convert) := by
  rintro node node' value same ⟨text, shape, converted⟩
  exact ⟨text, same.text.trans shape, converted⟩

theorem Same.reads {α : Type} {Says : Node → α → Prop} (orderless : Orderless Says)
    {node node' : Node} (same : Same node node') {allowed : List String} (keyed : Keyed node allowed)
    {key : String} {value out : α} (reads : Reads node key value Says out) :
    Reads node' key value Says out := by
  cases reads with
  | absent missing =>
    have missing' := same.isSome_find keyed key
    rw [missing, Option.isSome_none, Option.isSome_eq_false_iff, Option.isNone_iff_eq_none] at missing'
    exact .absent missing'
  | present here stated =>
    obtain ⟨field', here', inside⟩ := same.found keyed here
    exact .present here' (orderless _ _ _ inside stated)

/-- A node that has every scalar of another one. -/
def Keeps (node node' : Node) : Prop :=
  ∀ ⦃α : Type⦄ ⦃convert : String → Option α⦄ ⦃key : String⦄ ⦃value out : α⦄,
    Reads node key value (Scalar convert) out → Reads node' key value (Scalar convert) out

theorem Same.keeps {node node' : Node} (same : Same node node') {allowed : List String}
    (keyed : Keyed node allowed) : Keeps node node' :=
  fun _ convert _ _ _ reads => same.reads (scalar_orderless convert) keyed reads

end SkaiEdge.Config
