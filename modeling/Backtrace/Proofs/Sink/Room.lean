import Backtrace.Sink

/-!
# The room of a sink

A sink takes bytes as long as it has room for them. Bytes for which there is room are all taken,
and the room is less by their number; of bytes for which there is none the sink takes as many as
fit, and refuses the rest. Nothing else about a sink decides what it takes, so it makes no
difference into how many writes the bytes are cut.
-/

namespace Backtrace.Sink

open Writer

/-- The sink after it took a number of bytes. -/
def after (sink : Sink) (count : Nat) : Sink := { sink with room := sink.room.map (· - count) }

/-- Bytes taken in two parts use as much room as bytes taken at once. -/
theorem after_after (sink : Sink) (first second : Nat) :
    (sink.after first).after second = sink.after (first + second) := by
  simp only [after, Option.map_map, Function.comp_def, Nat.sub_sub]

/-- No bytes use no room. -/
theorem after_zero (sink : Sink) : sink.after 0 = sink := by simp [after]

/-- The fault with which a sink refuses bytes: its own, or that of a write that takes none. -/
def refusing (refusal : Option FinalFault) : Fault := refusal.elim .shortWrite Subtype.val

/-- The sink has room for a number of bytes. -/
def Holds (sink : Sink) (count : Nat) : Prop := ∀ room ∈ sink.room, count ≤ room

instance (sink : Sink) (count : Nat) : Decidable (sink.Holds count) :=
  inferInstanceAs (Decidable (∀ room ∈ sink.room, count ≤ room))

/-- A sink that lacks the room for a number of bytes has a limit below it. -/
theorem exists_room_of_not_holds {sink : Sink} {count : Nat} (short : ¬ sink.Holds count) :
    ∃ room, sink.room = some room ∧ room < count := by
  simpa [Holds] using short

/-- There is room for two parts exactly if there is room for the first, and then for the
second. -/
theorem holds_add_iff {sink : Sink} {first second : Nat} :
    sink.Holds (first + second) ↔ sink.Holds first ∧ (sink.after first).Holds second := by
  obtain ⟨room, refusal, flushFault⟩ := sink
  cases room with
  | none => simp [Holds, after]
  | some room =>
    simp only [Holds, after, Option.map_some, Option.mem_def, Option.some.injEq, forall_eq']
    omega

/-- One write takes as many bytes as there is room for, if there is room for any. -/
theorem write_of_room {sink : Sink} {count : Nat} (some : sink.Holds 1)
    (fits : sink.Holds count) : sink.write count = (.ok count, sink.after count) := by
  obtain ⟨room, refusal, flushFault⟩ := sink
  cases room with
  | none => rfl
  | some room =>
    obtain ⟨spare, rfl⟩ := Nat.exists_eq_succ_of_ne_zero (Nat.one_le_iff_ne_zero.1 (some room rfl))
    have enough : count ≤ spare + 1 := fits (spare + 1) rfl
    simp [write, after, Nat.min_eq_left enough]

/-- Bytes for which there is room are all taken. -/
theorem writeAll_of_holds {sink : Sink} {bytes : Bytes} (enough : sink.Holds bytes.length) :
    writeAll sink bytes = ⟨bytes, .ok (), sink.after bytes.length⟩ := by
  cases bytes with
  | nil => rw [writeAll, writeOut_nil, List.length_nil, after_zero]
  | cons first rest =>
    -- One write takes all of the bytes, since there is room for the first of them.
    have one : sink.Holds 1 := fun room found =>
      Nat.le_trans (Nat.le_add_left 1 rest.length) (enough room found)
    have met := write_of_room one enough
    rw [writeAll, writeOut_of_taken (Nat.succ_pos rest.length) met]
    simp [Written.following]

/-- Where there is no room nothing is taken. -/
theorem writeAll_of_full {sink : Sink} (full : sink.room = some 0) {bytes : Bytes}
    (nonempty : bytes ≠ []) :
    writeAll sink bytes = ⟨[], .error (refusing sink.refusal), sink⟩ := by
  obtain ⟨room, refusal, flushFault⟩ := sink
  obtain rfl : room = some 0 := full
  cases refusal with
  | none => exact writeOut_of_stalled nonempty rfl
  | some fault => exact writeOut_of_error nonempty rfl fault.property

/-- Bytes for which there is no room are taken as far as there is, and then refused. -/
theorem writeAll_of_limited {sink : Sink} {room : Nat} (limited : sink.room = some room)
    {bytes : Bytes} (exceeded : room < bytes.length) :
    writeAll sink bytes = ⟨bytes.take room, .error (refusing sink.refusal), sink.after room⟩ := by
  have nonempty : bytes ≠ [] := List.ne_nil_of_length_pos (by omega)
  have used : (sink.after room).room = some 0 := by simp [after, limited]
  cases room with
  | zero => rw [writeAll_of_full limited nonempty, after_zero, List.take_zero]
  | succ spare =>
    -- The first write uses up the room, and the second finds none.
    have part : min bytes.length (spare + 1) = spare + 1 := Nat.min_eq_right (Nat.le_of_lt exceeded)
    have met : sink.write bytes.length = (.ok (spare + 1), sink.after (spare + 1)) := by
      simp [write, after, limited, part]
    have left : bytes.drop (spare + 1) ≠ [] :=
      List.ne_nil_of_length_pos (by rw [List.length_drop]; omega)
    have rest := writeAll_of_full used left
    rw [writeAll] at rest ⊢
    rw [writeOut_of_taken (Nat.succ_pos spare) met, rest]
    simp [Written.following, after]

/-- Bytes may be written in two parts, one after the other. -/
theorem writeAll_append (sink : Sink) (front back : Bytes) :
    writeAll sink (front ++ back) =
      (writeAll sink front).andThen fun after => writeAll after back := by
  by_cases first : sink.Holds front.length
  · rw [writeAll_of_holds first, Written.andThen]
    dsimp only
    by_cases second : (sink.after front.length).Holds back.length
    · have enough : sink.Holds (front ++ back).length := by
        rw [List.length_append]
        exact holds_add_iff.2 ⟨first, second⟩
      rw [writeAll_of_holds enough, writeAll_of_holds second, after_after, List.length_append]
      rfl
    · obtain ⟨left, limited, exceeded⟩ := exists_room_of_not_holds second
      obtain ⟨room, whole, rfl⟩ := Option.map_eq_some_iff.1 limited
      have fits : front.length ≤ room := first room whole
      have short : room < (front ++ back).length := by
        rw [List.length_append]
        omega
      rw [writeAll_of_limited whole short, writeAll_of_limited limited exceeded, List.take_append,
        List.take_of_length_le fits, after_after, Nat.add_sub_cancel' fits]
      rfl
  · obtain ⟨room, limited, exceeded⟩ := exists_room_of_not_holds first
    have short : room < (front ++ back).length := by
      rw [List.length_append]
      omega
    rw [writeAll_of_limited limited short, writeAll_of_limited limited exceeded,
      List.take_append_of_le_length (Nat.le_of_lt exceeded)]
    rfl

/-- A sink without a limit takes everything and stays as it is. -/
theorem writeAll_unlimited (bytes : Bytes) :
    writeAll unlimited bytes = ⟨bytes, .ok (), unlimited⟩ :=
  @writeAll_of_holds unlimited bytes (by simp [Holds, unlimited])

/-- A sink without a fault of flushing is flushed and stays as it is. -/
theorem flush_of_steady {sink : Sink} (steady : sink.flushFault = none) :
    Writer.flush sink = (.ok (), sink) := by
  have flushed : sink.flush = .ok () := by rw [Sink.flush, steady]
  exact congrArg (Prod.mk · sink) flushed

/-- Writing does not depend on how flushing ends. -/
theorem writeAll_flushFault (sink : Sink) (fault : Option Fault) (bytes : Bytes) :
    writeAll { sink with flushFault := fault } bytes =
      ⟨(writeAll sink bytes).taken, (writeAll sink bytes).result,
        { (writeAll sink bytes).writer with flushFault := fault }⟩ := by
  by_cases enough : sink.Holds bytes.length
  · rw [writeAll_of_holds enough]
    exact @writeAll_of_holds { sink with flushFault := fault } bytes enough
  · obtain ⟨room, limited, exceeded⟩ := exists_room_of_not_holds enough
    rw [writeAll_of_limited limited exceeded]
    exact @writeAll_of_limited { sink with flushFault := fault } room limited bytes exceeded

end Backtrace.Sink
