import SkaiEdge.Lib.Text

/-!
# Endpoints accepted by `validate` (`src/config.cpp`)
-/

namespace SkaiEdge.Config

open SkaiEdge.Lib

structure WhipConfig where
  enabled : Bool
  url : List Char
  deriving DecidableEq, Repr

def checkRange (valid : Bool) (field requirement : String) : Except String Unit :=
  if valid then .ok () else .error (field ++ " " ++ requirement)

/-- `std::from_chars` for `unsigned int`: the value of the leading digits and the rest. -/
def fromChars (text : List Char) : Option (Nat × List Char) :=
  let digits := text.takeWhile Char.isDigit
  let value := digits.foldl (fun value c => value * 10 + (c.toNat - '0'.toNat)) 0
  if digits = [] ∨ value ≥ 2 ^ 32 then none else some (value, text.dropWhile Char.isDigit)

def validPort (text : List Char) : Bool :=
  match fromChars text with
  | some (port, []) => decide (port ≥ 1) && decide (port ≤ 65535)
  | _ => false

def loopbackHttpEndpoint (url : List Char) : Bool :=
  let text := "http://127.0.0.1:".toList
  text.isPrefixOf url &&
    match Text.find url '/' text.length with
    | none => false
    | some path => validPort ((url.drop text.length).take (path - text.length))

/-- The two checks of `whip.url`. -/
def validateWhip (whip : WhipConfig) : Except String Unit := do
  checkRange (!whip.enabled || "https://".toList.isPrefixOf whip.url ||
      loopbackHttpEndpoint whip.url)
    "whip.url" "must use https or http://127.0.0.1:<port>/<path> when enabled"
  checkRange (!whip.enabled || decide (whip.url.length > 8) &&
      !whip.url.any fun c => " \t\r\n#".toList.contains c)
    "whip.url" "must be a valid endpoint without whitespace or fragments"

/-- A loopback endpoint has its path behind `http://127.0.0.1:`. -/
theorem loopbackHttpEndpoint_shape {url : List Char} (loopback : loopbackHttpEndpoint url = true) :
    ∃ tail, url = "http://127.0.0.1:".toList ++ tail ∧ '/' ∈ tail := by
  simp only [loopbackHttpEndpoint, Bool.and_eq_true, List.isPrefixOf_iff_prefix] at loopback
  obtain ⟨⟨tail, rfl⟩, path⟩ := loopback
  refine ⟨tail, rfl, ?_⟩
  by_contra none
  have missing : Text.find ("http://127.0.0.1:".toList ++ tail) '/' "http://127.0.0.1:".toList.length
      = Option.none := by
    rw [Text.find, List.drop_left, List.idxOf?_eq_none_iff.2 none]
    rfl
  rw [missing] at path
  cases path

/-- **What an enabled endpoint looks like.** -/
theorem validateWhip_shape {url : List Char} (accepted : validateWhip ⟨true, url⟩ = .ok ()) :
    (∃ tail, url = "https://".toList ++ tail) ∨
    (∃ tail, url = "http://127.0.0.1:".toList ++ tail ∧ '/' ∈ tail) := by
  unfold validateWhip at accepted
  cases https : "https://".toList.isPrefixOf url with
  | true =>
    obtain ⟨tail, shape⟩ := List.isPrefixOf_iff_prefix.1 https
    exact .inl ⟨tail, shape.symm⟩
  | false =>
    cases loopback : loopbackHttpEndpoint url with
    | true => exact .inr (loopbackHttpEndpoint_shape loopback)
    | false => simp only [https, loopback] at accepted; cases accepted

end SkaiEdge.Config
