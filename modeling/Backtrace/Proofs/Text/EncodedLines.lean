import Backtrace.Trace.Input

/-!
# Lines in bytes

The byte of a line feed stands in the encoding of a text only where the text has a line feed. A
text of lines that are each ended by one therefore has as many of these bytes as lines, ends with
one unless it is empty, and is cut by them into the encodings of the lines.
-/

namespace Backtrace

namespace Utf8

/-- A text without a line feed is encoded without its byte. -/
theorem lineFeed_not_mem_encode {text : Text} (single : '\n' ∉ text) :
    lineFeed ∉ encode text := by
  intro inside
  obtain ⟨front, rest, split⟩ := List.append_of_mem inside
  have read : text = decodeLossy front ++ '\n' :: decodeLossy rest := by
    rw [← decodeLossy_encode text, split]
    exact decodeLossy_append_ascii (by decide) front rest
  apply single
  rw [read]
  simp

/-- Ended lines are encoded line by line. -/
theorem encode_flatMap (texts : List Text) :
    encode (texts.flatMap (· ++ ['\n'])) = (texts.map encode).flatMap (· ++ [lineFeed]) := by
  induction texts with
  | nil => rfl
  | cons text others ih =>
    rw [List.flatMap_cons, List.map_cons, List.flatMap_cons, encode_append, encode_append, ih]
    rfl

end Utf8

namespace Trace

variable {lines : List Bytes}

/-- Every ended line has one line feed. -/
theorem count_flatMap (single : ∀ line ∈ lines, lineFeed ∉ line) :
    (lines.flatMap (· ++ [lineFeed])).count lineFeed = lines.length := by
  induction lines with
  | nil => rfl
  | cons line others ih =>
    have first : line.count lineFeed = 0 :=
      List.count_eq_zero.2 (single line List.mem_cons_self)
    have rest : (others.flatMap (· ++ [lineFeed])).count lineFeed = others.length :=
      ih fun other inside => single other (List.mem_cons_of_mem _ inside)
    rw [List.flatMap_cons, List.count_append, List.count_append, first, rest, List.length_cons,
      List.count_singleton_self]
    omega

/-- Ended lines are the pieces between line feeds, and nothing follows the last one. -/
theorem splitOn_flatMap (single : ∀ line ∈ lines, lineFeed ∉ line) :
    (lines.flatMap (· ++ [lineFeed])).splitOn lineFeed = lines ++ [[]] := by
  induction lines with
  | nil => rfl
  | cons line others ih =>
    have rest : (others.flatMap (· ++ [lineFeed])).splitOn lineFeed = others ++ [[]] :=
      ih fun other inside => single other (List.mem_cons_of_mem _ inside)
    rw [List.flatMap_cons, List.append_assoc, List.singleton_append,
      List.splitOn_append_cons_self_of_not_mem (single line List.mem_cons_self), rest,
      List.cons_append]

/-- Ended lines are none, or they end with a line feed. -/
theorem flatMap_eq_nil_or_ended (lines : List Bytes) :
    lines.flatMap (· ++ [lineFeed]) = [] ∨
      (lines.flatMap (· ++ [lineFeed])).getLast? = some lineFeed := by
  rcases List.eq_nil_or_concat lines with rfl | ⟨front, line, rfl⟩
  · exact .inl rfl
  · right
    rw [List.concat_eq_append, List.flatMap_append, List.flatMap_singleton, ← List.append_assoc,
      List.getLast?_concat]

end Trace
end Backtrace
