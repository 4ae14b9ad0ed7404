import SkaiEdge.Config.Endpoint

/-!
# The WHIP resource URL (`whip_resource_url` in `src/webrtc/whip_policy.cpp`)

The server answers the POST with a `Location`, and the publisher later sends its bearer token
to the URL made of it. Endpoint and `Location` are cut at fixed offsets and at the first or
last `/`. `scheme` and `authority` read a URL the way a client does.
-/

namespace SkaiEdge.WebRtc.WhipResource

open SkaiEdge.Lib SkaiEdge.Config

def whipResourceUrl (endpoint location : List Char) : Except String (List Char) :=
  let authorityEnd := Text.find endpoint '/' 8
  let origin := Text.upTo endpoint authorityEnd
  match location with
  | [] => .error "WHIP 201 omitted Location; automatic retry stopped"
  | front :: rest =>
    if front = '/' ∧ rest.head? ≠ some '/' then .ok (origin ++ location)
    else if (origin ++ ['/']).isPrefixOf location then .ok location
    else if Text.find location ':' 0 = none ∧ front ≠ '/' then
      let pathEnd := Text.findLastOf endpoint '/'
      .ok (endpoint.take (pathEnd.elim 0 (· + 1)) ++ location)
    else .error "WHIP Location has a different origin; automatic retry stopped"

/-- Not one of the characters that end an authority. -/
def inAuthority (c : Char) : Bool := !(['/', '?', '#'].contains c)

/-- The text before the first `:`. -/
def scheme (url : List Char) : List Char := url.takeWhile (· ≠ ':')

/-- The text between `://` and the next `/`, `?` or `#`. -/
def authority (url : List Char) : List Char :=
  ((url.dropWhile (· ≠ ':')).drop 3).takeWhile inAuthority

/-- The two URLs go to the same origin. -/
def SameOrigin (url url' : List Char) : Prop := scheme url = scheme url' ∧ authority url = authority url'

/-- A `Location` without scheme that does not start with `/`. -/
def Relative (location : List Char) : Prop :=
  location ≠ [] ∧ ':' ∉ location ∧ location.head? ≠ some '/'

/-- A URL split at `://`. -/
def join (name tail : List Char) : List Char := name ++ "://".toList ++ tail

theorem join_append (name tail x : List Char) : join name tail ++ x = join name (tail ++ x) := by
  simp [join]

theorem scheme_join {name : List Char} (tail : List Char) (plain : ':' ∉ name) :
    scheme (join name tail) = name := by
  have stop : join name tail = name ++ ':' :: '/' :: '/' :: tail := by simp [join]
  rw [stop, scheme, Text.takeWhile_append_stop _ _ (by simp), List.takeWhile_eq_self_iff]
  intro c member
  have : c ≠ ':' := fun colon => plain (colon ▸ member)
  simpa using this

theorem authority_join {name : List Char} (tail : List Char) (plain : ':' ∉ name) :
    authority (join name tail) = tail.takeWhile inAuthority := by
  have stop : join name tail = name ++ ':' :: '/' :: '/' :: tail := by simp [join]
  have cut : (join name tail).dropWhile (· ≠ ':') = ':' :: '/' :: '/' :: tail := by
    have split := List.takeWhile_append_dropWhile (p := fun c => decide (c ≠ ':')) (l := join name tail)
    rw [show (join name tail).takeWhile (· ≠ ':') = name from scheme_join tail plain] at split
    exact List.append_cancel_left (split.trans stop)
  rw [authority, cut]
  rfl

theorem sameOrigin_join {name : List Char} (tail tail' : List Char) (plain : ':' ∉ name) :
    SameOrigin (join name tail) (join name tail') ↔
      tail.takeWhile inAuthority = tail'.takeWhile inAuthority := by
  rw [SameOrigin, scheme_join _ plain, scheme_join _ plain, authority_join _ plain,
    authority_join _ plain]
  simp

/-- An accepted endpoint, split: the origin of `whip_resource_url` is cut at the first `/`
behind the authority. -/
structure Split (endpoint name tail : List Char) : Prop where
  plain : ':' ∉ name
  shape : endpoint = join name tail
  origin : Text.upTo endpoint (Text.find endpoint '/' 8) = join name (tail.takeWhile (· ≠ '/'))
  path : '/' ∈ endpoint.drop 8 ↔ '/' ∈ tail

theorem exists_split {endpoint : List Char} (accepted : validateWhip ⟨true, endpoint⟩ = .ok ()) :
    ∃ name tail, Split endpoint name tail := by
  rcases validateWhip_shape accepted with ⟨tail, rfl⟩ | ⟨tail, rfl, path⟩
  · refine ⟨"https".toList, tail, by decide, by simp [join], ?_, ?_⟩
    · exact (Text.upTo_find "https://".toList tail '/').trans (by simp [join])
    · rw [show (8 : Nat) = "https://".toList.length from rfl, List.drop_left]
  · -- index 8 is inside the loopback address
    refine ⟨"http".toList, "127.0.0.1:".toList ++ tail, by decide, by simp [join], ?_, ?_⟩
    · exact (Text.upTo_find "http://1".toList ("27.0.0.1:".toList ++ tail) '/').trans
        (by simp [join])
    · simp [path]

/-- A path behind the authority does not change the origin. -/
theorem sameOrigin_of_slash {name tail : List Char} (plain : ':' ∉ name) (a x : List Char)
    (cut : a.takeWhile inAuthority = tail.takeWhile inAuthority) :
    SameOrigin (join name (a ++ '/' :: x)) (join name tail) := by
  rw [sameOrigin_join _ _ plain, Text.takeWhile_append_stop _ _ (by decide), cut]

theorem takeWhile_slash (tail : List Char) :
    (tail.takeWhile (· ≠ '/')).takeWhile inAuthority = tail.takeWhile inAuthority := by
  rw [List.takeWhile_takeWhile]
  congr 1
  funext c
  by_cases slash : c = '/'
  · simp [slash, inAuthority]
  · simp [slash]

/-- What a relative `Location` is appended to: the endpoint up to its last `/`. -/
theorem Split.directory {endpoint name tail : List Char} (split : Split endpoint name tail) :
    (∃ a b, tail = a ++ '/' :: b ∧
      endpoint.take ((Text.findLastOf endpoint '/').elim 0 (· + 1)) = join name (a ++ ['/'])) ∨
    ('/' ∉ tail ∧
      endpoint.take ((Text.findLastOf endpoint '/').elim 0 (· + 1)) = join name []) := by
  rw [split.shape]
  by_cases path : '/' ∈ tail
  · obtain ⟨a, b, rfl, last⟩ := Text.exists_last path
    refine .inl ⟨a, b, rfl, ?_⟩
    have cut := Text.take_findLastOf (name ++ "://".toList ++ a) last
    simpa [join] using cut
  · refine .inr ⟨path, ?_⟩
    have cut := Text.take_findLastOf (name ++ ":/".toList) path
    simpa [join] using cut

/-- **What `whip_resource_url` can return**: the origin with a path behind it, or a relative
`Location` in the endpoint's directory. -/
theorem whipResourceUrl_cases {endpoint location url : List Char}
    (returned : whipResourceUrl endpoint location = .ok url) :
    (∃ x, url = Text.upTo endpoint (Text.find endpoint '/' 8) ++ '/' :: x) ∨
    (Relative location ∧
      url = endpoint.take ((Text.findLastOf endpoint '/').elim 0 (· + 1)) ++ location) := by
  cases location with
  | nil => cases returned
  | cons front rest =>
    simp only [whipResourceUrl] at returned
    split at returned
    · rename_i absolute
      cases returned
      exact .inl ⟨rest, by rw [absolute.1]⟩
    · split at returned
      · rename_i same
        obtain ⟨x, shape⟩ := List.isPrefixOf_iff_prefix.1 same
        cases returned
        exact .inl ⟨x, by rw [← shape]; simp⟩
      · split at returned
        · rename_i relative
          cases returned
          refine .inr ⟨⟨by simp, Text.find_eq_none_iff.1 relative.1, ?_⟩, rfl⟩
          simpa using relative.2
        · cases returned

/-- A relative `Location` is always taken. -/
theorem whipResourceUrl_relative {endpoint name tail location : List Char}
    (split : Split endpoint name tail) (relative : Relative location) :
    whipResourceUrl endpoint location =
      .ok (endpoint.take ((Text.findLastOf endpoint '/').elim 0 (· + 1)) ++ location) := by
  obtain ⟨present, noColon, noSlash⟩ := relative
  cases location with
  | nil => exact absurd rfl present
  | cons front rest =>
    have front_ne : front ≠ '/' := by simpa using noSlash
    have other : (Text.upTo endpoint (Text.find endpoint '/' 8) ++ ['/']).isPrefixOf (front :: rest)
        = false := by
      rw [Bool.eq_false_iff]
      intro same
      have sub := (List.isPrefixOf_iff_prefix.1 same).subset
      rw [split.origin] at sub
      exact noColon (sub (by simp [join]))
    simp only [whipResourceUrl, front_ne, false_and, ↓reduceIte, other, Bool.false_eq_true,
      Text.find_eq_none_iff.2 noColon, ne_eq, not_false_eq_true, and_self]

/-- **The resource URL keeps the endpoint's origin exactly when a relative `Location` has a
path to be relative to**, or names the endpoint's authority itself. -/
theorem resource_url_same_origin_iff {endpoint : List Char} (location : List Char)
    (accepted : validateWhip ⟨true, endpoint⟩ = .ok ()) :
    (∀ url, whipResourceUrl endpoint location = .ok url → SameOrigin url endpoint) ↔
      '/' ∈ endpoint.drop 8 ∨ ¬ Relative location ∨
        location.takeWhile inAuthority = authority endpoint := by
  obtain ⟨name, tail, split⟩ := exists_split accepted
  have named : authority endpoint = tail.takeWhile inAuthority := by
    rw [split.shape]
    exact authority_join tail split.plain
  constructor
  · intro same
    rw [split.path, or_iff_not_imp_left, or_iff_not_imp_left, not_not]
    intro noPath relative
    have kept := same _ (whipResourceUrl_relative split relative)
    rcases split.directory with ⟨a, b, rfl, _⟩ | ⟨_, directory⟩
    · exact absurd (by simp) noPath
    · rw [directory, split.shape, join_append, sameOrigin_join _ _ split.plain] at kept
      rw [named]
      exact kept
  · intro allowed url returned
    rcases whipResourceUrl_cases returned with ⟨x, rfl⟩ | ⟨relative, rfl⟩
    · rw [split.origin, split.shape, join_append]
      exact sameOrigin_of_slash split.plain _ x (takeWhile_slash tail)
    · rcases split.directory with ⟨a, b, rfl, directory⟩ | ⟨noPath, directory⟩
      · rw [directory, split.shape, join_append, List.append_assoc]
        exact sameOrigin_of_slash split.plain a location
          (Text.takeWhile_append_stop a b (by decide)).symm
      · rw [split.path] at allowed
        rcases allowed with path | fixed | sameAuthority
        · exact absurd path noPath
        · exact absurd relative fixed
        · rw [directory, split.shape, join_append, sameOrigin_join _ _ split.plain, List.nil_append,
            sameAuthority, named]

/-- A relative `Location` next to an endpoint with a path stays at the endpoint's host. -/
theorem resource_url_same_origin_relative :
    validateWhip ⟨true, "https://media/whip".toList⟩ = .ok () ∧
      SameOrigin "https://media/evil.com/x".toList "https://media/whip".toList :=
  have accepted : validateWhip ⟨true, "https://media/whip".toList⟩ = .ok () := by decide
  ⟨accepted, (resource_url_same_origin_iff "evil.com/x".toList accepted).2 (.inl (by decide)) _
    (by decide)⟩

/-- An endpoint without a path turns a relative `Location` into a host. -/
theorem relative_location_names_host :
    validateWhip ⟨true, "https://media".toList⟩ = .ok () ∧
      whipResourceUrl "https://media".toList "evil.com/x".toList = .ok "https://evil.com/x".toList ∧
      ¬ SameOrigin "https://evil.com/x".toList "https://media".toList := by
  refine ⟨by decide, by decide, ?_⟩
  intro same
  exact absurd same.2 (by decide)

end SkaiEdge.WebRtc.WhipResource
