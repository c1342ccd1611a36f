/-
What a sink holds after writing.

Two writes one after the other are one write of all the bytes: a sink takes
the start of what it is offered, and once it has refused a byte it takes none
any more.  So a loop that writes piece by piece and stops at the first
refusal leaves what a single write of everything would have left, and the
position of the failing byte is all that matters.
-/
import Typescribe.Sink

namespace Typescribe.Sink

/-! ## One write -/

@[simp] theorem write_capacity (s : Sink) (bytes : List UInt8) :
    (s.write bytes).2.capacity = s.capacity := rfl

theorem write_accepted (s : Sink) (bytes : List UInt8) :
    (s.write bytes).2.accepted = s.accepted ++ bytes.take (s.room bytes.length) := rfl

/-- A write is complete when there is room for all its bytes. -/
theorem write_complete (s : Sink) (bytes : List UInt8) :
    (s.write bytes).1 = true ↔ s.room bytes.length = bytes.length := by
  simp [write]

/-- There is never room for more than is asked for. -/
theorem room_le (s : Sink) (size : Nat) : s.room size ≤ size := by
  unfold room
  split
  · exact Nat.le_refl size
  · exact Nat.min_le_left _ _

/-- Writing nothing succeeds and changes nothing. -/
@[simp] theorem write_nil (s : Sink) : s.write [] = (true, s) := by
  have h : s.room 0 = 0 := Nat.le_zero.1 (s.room_le 0)
  simp [write, h]

/-! ## Two writes -/

/-- The room for two pieces is the room for the first, and then the room that
is left for the second. -/
theorem room_add (s : Sink) (x y : List UInt8) :
    s.room (x.length + y.length)
      = s.room x.length + (s.write x).2.room y.length := by
  cases hc : s.capacity with
  | none => simp [room, hc]
  | some n =>
      simp only [room, write_capacity, hc, write_accepted, List.length_append, List.length_take]
      omega

/-- Bytes behind a refused one are refused. -/
theorem room_of_incomplete {s : Sink} {x : List UInt8} (h : (s.write x).1 = false) (size : Nat) :
    (s.write x).2.room size = 0 := by
  have hlt : s.room x.length ≠ x.length := by
    intro he
    rw [(s.write_complete x).2 he] at h
    cases h
  cases hc : s.capacity with
  | none => exact absurd (by simp [room, hc]) hlt
  | some n =>
      simp only [room, hc] at hlt
      simp only [room, write_capacity, hc, write_accepted, List.length_append, List.length_take]
      omega

/-- After an incomplete write a further one changes nothing. -/
theorem write_after_incomplete {s : Sink} {x : List UInt8} (h : (s.write x).1 = false)
    (y : List UInt8) : ((s.write x).2.write y).2 = (s.write x).2 := by
  show { (s.write x).2 with
    accepted := (s.write x).2.accepted ++ y.take ((s.write x).2.room y.length) } = _
  rw [room_of_incomplete h, List.take_zero, List.append_nil]

/-- Two writes are one write of both pieces. -/
theorem write_append (s : Sink) (x y : List UInt8) :
    s.write (x ++ y)
      = ((s.write x).1 && ((s.write x).2.write y).1, ((s.write x).2.write y).2) := by
  have hx := s.room_le x.length
  have hy := (s.write x).2.room_le y.length
  have hroom := room_add s x y
  refine Prod.ext ?_ ?_
  · rw [Bool.eq_iff_iff, Bool.and_eq_true, write_complete, write_complete, write_complete,
      List.length_append]
    omega
  · show { s with accepted := s.accepted ++ (x ++ y).take (s.room (x ++ y).length) } = _
    rw [List.length_append, hroom, List.take_append]
    cases h : (s.write x).1 with
    | true =>
        have hfull : s.room x.length = x.length := (s.write_complete x).1 h
        have hmore : x.take (s.room x.length + (s.write x).2.room y.length) = x :=
          List.take_of_length_le (by omega)
        have hrest : s.room x.length + (s.write x).2.room y.length - x.length
            = (s.write x).2.room y.length := by omega
        have hall : (s.write x).2.accepted = s.accepted ++ x := by
          rw [write_accepted, hfull, List.take_length]
        rw [hmore, hrest, ← List.append_assoc, ← hall]
        rfl
    | false =>
        have hnone : (s.write x).2.room y.length = 0 := room_of_incomplete h y.length
        have hrest : s.room x.length + 0 - x.length = 0 := by omega
        rw [write_after_incomplete h, hnone, hrest, List.take_zero, List.append_nil]
        rfl

/-- After an incomplete write a further piece changes nothing. -/
theorem write_append_of_incomplete {s : Sink} {x : List UInt8} (h : (s.write x).1 = false)
    (y : List UInt8) : s.write (x ++ y) = s.write x := by
  rw [write_append, write_after_incomplete h, h, Bool.false_and]
  exact Prod.ext h.symm rfl

/-- After a complete write a further piece is written to what it left. -/
theorem write_append_of_complete {s : Sink} {x : List UInt8} (h : (s.write x).1 = true)
    (y : List UInt8) : s.write (x ++ y) = (s.write x).2.write y := by
  rw [write_append, h, Bool.true_and]

/-! ## Many writes -/

/-- Writes pieces one after the other, up to the first that is not taken
whole. -/
def writeEach (s : Sink) : List (List UInt8) → Bool × Sink
  | [] => (true, s)
  | piece :: more =>
    match s.write piece with
    | (false, s) => (false, s)
    | (true, s) => writeEach s more

/-- It does not matter in which pieces bytes are written. -/
theorem writeEach_eq (s : Sink) (pieces : List (List UInt8)) :
    s.writeEach pieces = s.write pieces.flatten := by
  induction pieces generalizing s with
  | nil => exact s.write_nil.symm
  | cons piece more ih =>
      rw [writeEach, List.flatten_cons]
      split
      · next after h =>
        rw [write_append_of_incomplete (congrArg Prod.fst h), h]
      · next after h =>
        rw [write_append_of_complete (congrArg Prod.fst h), ih, h]

/-! ## Fresh sinks -/

/-- How many of the first `size` bytes a fresh sink takes. -/
def share (capacity : Option Nat) (size : Nat) : Nat :=
  match capacity with
  | none => size
  | some n => min n size

theorem share_le (capacity : Option Nat) (size : Nat) : share capacity size ≤ size := by
  cases capacity with
  | none => exact Nat.le_refl size
  | some n => exact Nat.min_le_right n size

/-- The room of a fresh sink is its share. -/
theorem room_fresh (capacity : Option Nat) (flushFails : Bool) (size : Nat) :
    room ⟨capacity, flushFails, []⟩ size = share capacity size := by
  cases capacity with
  | none => rfl
  | some n => simp [room, share, Nat.min_comm]

/-- A fresh sink takes the first of the bytes, up to its share. -/
theorem write_fresh (capacity : Option Nat) (flushFails : Bool) (bytes : List UInt8) :
    (write ⟨capacity, flushFails, []⟩ bytes).2.accepted
      = bytes.take (share capacity bytes.length) := by
  rw [write_accepted, room_fresh]
  rfl

/-- A write to a fresh sink fails when its share falls short. -/
theorem write_fresh_incomplete (capacity : Option Nat) (flushFails : Bool) (bytes : List UInt8) :
    (write ⟨capacity, flushFails, []⟩ bytes).1 = false
      ↔ share capacity bytes.length < bytes.length := by
  have hle := share_le capacity bytes.length
  rw [← Bool.not_eq_true, write_complete, room_fresh]
  omega

end Typescribe.Sink
