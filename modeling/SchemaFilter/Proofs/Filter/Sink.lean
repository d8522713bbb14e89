import SchemaFilter.Filter.Report

/-!
# What sinks take

A sink takes bytes as long as there is room, and then none at all.  So it makes no difference
whether it is given them at once or one after another, nor whether anybody looks at what does not
fit.

* `Sink.write_append` — bytes that are written in two pieces;
* `Sink.fst_write_append` — the same where nobody looks whether the first has been taken;
* `Sink.writeEach_eq_write` — **pieces** are the bytes that they make up;
* `Sink.written_write_of_room` — what a sink with some room has got;
* `Sink.deliver_of_hasRoomFor`, `Sink.deliver_of_room_lt` — what is delivered, and what is not.
-/

namespace SchemaFilter

namespace Sink

variable (sink : Sink)

@[simp] theorem write_nil : sink.write [] = (sink, true) := by
  obtain ⟨room, flushFails, written⟩ := sink
  cases room <;> simp [write]

/-- The second piece is written if the first has been, behind it; or else it does not matter. -/
theorem write_append (first second : Bytes) :
    sink.write (first ++ second) =
      if (sink.write first).2 then (sink.write first).1.write second
      else ((sink.write first).1, false) := by
  obtain ⟨room, flushFails, written⟩ := sink
  cases room with
  | none => simp [write]
  | some room =>
    by_cases hfirst : first.length ≤ room
    · have htake : first.take room = first := List.take_of_length_le hfirst
      have hroom : room - (first ++ second.take (room - first.length)).length =
          room - first.length - (second.take (room - first.length)).length := by
        rw [List.length_append]
        omega
      have hall : (first ++ second).length ≤ room ↔ second.length ≤ room - first.length := by
        rw [List.length_append]
        omega
      simp only [write, List.take_append, htake, hroom, hall, hfirst, decide_true, if_true,
        List.append_assoc]
    · -- The first piece fills the sink, and nothing of the second is taken.
      have hrest : second.take (room - first.length) = [] := by
        rw [Nat.sub_eq_zero_of_le (by omega), List.take_zero]
      have hall : ¬ (first ++ second).length ≤ room := by
        rw [List.length_append]
        omega
      simp only [write, List.take_append, hrest, List.append_nil, hall, hfirst, decide_false,
        Bool.false_eq_true, if_false]

/-- A sink that has not taken everything takes nothing more. -/
theorem fst_write_of_incomplete {first : Bytes} (h : (sink.write first).2 = false)
    (second : Bytes) : ((sink.write first).1.write second).1 = (sink.write first).1 := by
  obtain ⟨room, flushFails, written⟩ := sink
  cases room with
  | none => exact absurd h (by simp [write])
  | some room =>
    have hfirst : room < first.length := by simpa [write] using h
    have hroom : room - (first.take room).length = 0 := by
      rw [List.length_take]
      omega
    simp only [write, hroom, List.take_zero, List.append_nil, List.length_nil, Nat.sub_zero]

/-- Whether or not all of the first piece has been taken, the second is written behind it. -/
theorem fst_write_append (first second : Bytes) :
    (sink.write (first ++ second)).1 = ((sink.write first).1.write second).1 := by
  rw [write_append]
  by_cases h : (sink.write first).2 = true
  · rw [if_pos h]
  · rw [if_neg h, fst_write_of_incomplete sink (Bool.not_eq_true _ ▸ h)]

/-- **Pieces.**  To write pieces up to the first that does not fit is to write what they make up. -/
theorem writeEach_eq_write (pieces : List Bytes) :
    sink.writeEach pieces = sink.write pieces.flatten := by
  -- On both sides the other pieces are written exactly if the first one fits.
  induction pieces generalizing sink with
  | nil => exact sink.write_nil.symm
  | cons piece pieces ih =>
    rw [List.flatten_cons, write_append, writeEach]
    dsimp only
    rw [ih]

/-! ### What has been written -/

/-- There is room for some bytes, or for any number of them. -/
def HasRoomFor (bytes : Bytes) : Prop :=
  ∀ room, sink.room = some room → bytes.length ≤ room

/-- A sink with some room gets what fits. -/
theorem written_write_of_room {room : Nat} (h : sink.room = some room) (bytes : Bytes) :
    (sink.write bytes).1.written = sink.written ++ bytes.take room := by
  rw [write, h]

theorem written_write_of_unlimited (h : sink.room = none) (bytes : Bytes) :
    (sink.write bytes).1.written = sink.written ++ bytes := by
  rw [write, h]

/-- What there is room for is delivered, if that is confirmed. -/
theorem deliver_of_hasRoomFor {bytes : Bytes} (h : sink.HasRoomFor bytes) :
    (sink.deliver bytes).1.written = sink.written ++ bytes ∧
      (sink.deliver bytes).2 = if sink.flushFails then some flushFailedText else none := by
  obtain ⟨room, flushFails, written⟩ := sink
  cases room with
  | none => exact ⟨rfl, rfl⟩
  | some room =>
    have hroom : bytes.length ≤ room := h room rfl
    simp [deliver, write, hroom, List.take_of_length_le hroom]

/-- Where there is not room enough, as much is written as there is room for. -/
theorem deliver_of_room_lt {bytes : Bytes} {room : Nat} (h : sink.room = some room)
    (hlt : room < bytes.length) :
    (sink.deliver bytes).1.written = sink.written ++ bytes.take room ∧
      (sink.deliver bytes).2 = some closedText := by
  refine ⟨sink.written_write_of_room h bytes, ?_⟩
  simp [deliver, write, h, Nat.not_le.mpr hlt]

end Sink

end SchemaFilter
