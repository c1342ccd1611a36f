/-
Texts as bytes, in UTF-8.

`encode` is total.  The way back goes through `units`, which cuts any bytes
whatever into characters and ill-formed pieces: an ill-formed piece is the
longest start of some character, or a single byte that starts none.  The
strict reader `decode?` wants no ill-formed piece, the lenient reader
`decodeLossy` puts the replacement character U+FFFD for each.
-/
import Typescribe.Text.Basic

namespace Typescribe.Utf8

/-- The bytes of a text. -/
def encode (s : Text) : List UInt8 := s.flatMap String.utf8EncodeChar

@[simp] theorem encode_nil : encode [] = [] := rfl

@[simp] theorem encode_append (s t : Text) : encode (s ++ t) = encode s ++ encode t :=
  List.flatMap_append

/-! ## Places in bytes -/

/-- How many bytes a text has. -/
def size (s : Text) : Nat := (encode s).length

/-- The text behind a number of bytes, which must end where a character does. -/
def drop? : Nat → Text → Option Text
  | 0, s => some s
  | _ + 1, [] => none
  | n + 1, c :: rest => if c.utf8Size ≤ n + 1 then drop? (n + 1 - c.utf8Size) rest else none

/-- The text of a number of bytes, which must end where a character does. -/
def take? : Nat → Text → Option Text
  | 0, _ => some []
  | _ + 1, [] => none
  | n + 1, c :: rest =>
    if c.utf8Size ≤ n + 1 then (take? (n + 1 - c.utf8Size) rest).map (c :: ·) else none

/-- The part of a text between two places, which must be between characters. -/
def slice? (first last : Nat) (s : Text) : Option Text := (drop? first s).bind (take? (last - first))

/-! ## Bytes as text -/

/-- What a first byte says: the bits it contributes itself, and between which
bounds each of the bytes after it must lie. -/
def lead? (b : Nat) : Option (Nat × List (Nat × Nat)) :=
  if b < 0x80 then some (b, [])
  else if b < 0xC2 then none
  else if b < 0xE0 then some (b - 0xC0, [(0x80, 0xBF)])
  else if b == 0xE0 then some (0, [(0xA0, 0xBF), (0x80, 0xBF)])
  else if b == 0xED then some (0xD, [(0x80, 0x9F), (0x80, 0xBF)])
  else if b < 0xF0 then some (b - 0xE0, [(0x80, 0xBF), (0x80, 0xBF)])
  else if b == 0xF0 then some (0, [(0x90, 0xBF), (0x80, 0xBF), (0x80, 0xBF)])
  else if b < 0xF4 then some (b - 0xF0, [(0x80, 0xBF), (0x80, 0xBF), (0x80, 0xBF)])
  else if b == 0xF4 then some (4, [(0x80, 0x8F), (0x80, 0xBF), (0x80, 0xBF)])
  else none

/-- Reads the bytes after the first one, six bits from each; stops before the
first byte out of its bounds. -/
def follow (bits : Nat) : List (Nat × Nat) → List UInt8 → Option Nat × List UInt8
  | [], bytes => (some bits, bytes)
  | _ :: _, [] => (none, [])
  | (low, high) :: more, b :: bytes =>
    if low ≤ b.toNat && b.toNat ≤ high then follow (bits * 64 + (b.toNat - 0x80)) more bytes
    else (none, b :: bytes)

theorem length_follow_le (bits : Nat) (bounds : List (Nat × Nat)) (bytes : List UInt8) :
    (follow bits bounds bytes).2.length ≤ bytes.length := by
  fun_induction follow bits bounds bytes <;> simp_all
  omega

/-- The characters (`some`) and ill-formed pieces (`none`) of a row of bytes. -/
def units : List UInt8 → List (Option Char)
  | [] => []
  | b :: bytes =>
    match lead? b.toNat with
    | none => none :: units bytes
    | some (bits, bounds) =>
      (follow bits bounds bytes).1.map Char.ofNat :: units (follow bits bounds bytes).2
termination_by bytes => bytes.length
decreasing_by
  · simp
  · have := length_follow_le bits bounds bytes
    simp
    omega

/-- The text that well-formed bytes stand for. -/
def decode? (bytes : List UInt8) : Option Text :=
  let us := units bytes
  if us.all Option.isSome then some (us.filterMap id) else none

/-- The text that bytes stand for, with U+FFFD for every ill-formed piece. -/
def decodeLossy (bytes : List UInt8) : Text :=
  (units bytes).map fun u => u.getD '\uFFFD'

end Typescribe.Utf8
