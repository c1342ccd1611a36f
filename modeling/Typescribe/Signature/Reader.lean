/-
Reading a signature from its text.

Every text reads as some signature.  Blanks at the end are dropped, then
markers are taken from the front, with the blanks before each; what is left
is the leaf.  A bracket that holds neither nothing nor a length ends the
markers, and the leaf, bracket included, is kept verbatim.
-/
import Typescribe.Signature.Basic

namespace Typescribe

namespace Marker

/-- The length in an array marker: a plus sign or none, then decimal digits
for a number below 2^64. -/
def length? (s : Text) : Option UInt64 :=
  let digits := match s with
    | '+' :: rest => rest
    | other => other
  (Text.ofDecimal? digits).bind fun n => if n < UInt64.size then some (UInt64.ofNat n) else none

/-- The marker that a text starts with, and what follows it. -/
def read? : Text → Option (Marker × Text)
  | '*' :: rest => some (.pointer, rest)
  | '[' :: rest =>
    match Text.cutAt ']' rest with
    | some ([], element) => some (.slice, element)
    | some (size, element) => (length? size).map fun n => (.array n, element)
    | none => none
  | _ => none

/-- Reading a marker takes something off the text. -/
theorem length_of_read? {s rest : Text} {m : Marker} (h : read? s = some (m, rest)) :
    rest.length < s.length := by
  unfold read? at h
  split at h
  · simp only [Option.some.injEq, Prod.mk.injEq] at h
    simp [h.2]
  · split at h
    · next hc =>
      simp only [Option.some.injEq, Prod.mk.injEq] at h
      have := Text.length_of_cutAt hc
      simp [← h.2]
      omega
    · next hc =>
      obtain ⟨n, _, hn⟩ := Option.map_eq_some_iff.1 h
      simp only [Prod.mk.injEq] at hn
      have := Text.length_of_cutAt hc
      simp [← hn.2]
      omega
    · simp at h
  · simp at h

end Marker

namespace Leaf

/-- A package name: a small letter, then small letters, digits and
underscores. -/
def isPackage : Text → Bool
  | [] => false
  | c :: rest => c.isLower && rest.all fun d => d.isLower || d.isDigit || d == '_'

/-- A package name, a dot and an identifier, and nothing else. -/
def qualified? (s : Text) : Option Leaf :=
  match Text.cutAt '.' s with
  | some (package, name) =>
    if isPackage package && Text.isIdent name then some (.qualified package name) else none
  | none => none

/-- The leaf that a text without blanks at its ends stands for. -/
def ofText (s : Text) : Leaf :=
  match qualified? s with
  | some leaf => leaf
  | none =>
    match Primitive.ofName? s with
    | some kind => .primitive kind
    | none => .verbatim s

end Leaf

namespace Signature

/-- Reads a text that has no blanks at its end. -/
def ofTrimmed (s : Text) : Signature :=
  match _h : Marker.read? s.trimStart with
  | some (m, rest) => (ofTrimmed rest).under m
  | none => ⟨[], Leaf.ofText s.trimStart⟩
termination_by s.length
decreasing_by
  have := Marker.length_of_read? _h
  have := Text.length_trimStart_le s
  omega

/-- The signature that a text stands for. -/
def ofText (s : Text) : Signature := ofTrimmed s.trimEnd

end Signature

end Typescribe
