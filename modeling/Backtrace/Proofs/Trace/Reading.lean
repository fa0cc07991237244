import Backtrace.Proofs.Trace.LineMachine

/-!
# Reading a line is completing a line

Reading one line takes some events and leaves the others. To the line machine each outcome of
it means one thing: a line that is read is the next line completed, an interruption is a fresh
start, and an end or a failure is the end of the machine. Reading again and again until the input
ends therefore meets exactly the lines that the machine completes.
-/

namespace Backtrace.Trace

open LineMachine

/-- The bytes up to the first line feed complete a line with what was held. -/
theorem foldl_take_of_split {chunk line rest : Bytes}
    (split : splitLine? chunk = some (line, rest)) (held : Bytes) :
    chunk.foldl take (holding held) = (rest.foldl take (holding [])).after [held ++ line] := by
  induction chunk generalizing held line with
  | nil => simp [splitLine?] at split
  | cons byte others ih =>
    rw [List.foldl_cons]
    unfold splitLine? at split
    by_cases feed : byte = lineFeed
    · rw [if_pos feed] at split
      obtain ⟨rfl, rfl⟩ := Prod.mk.inj (Option.some.inj split)
      have ended : (holding held).take byte = (holding []).after [held ++ [byte]] := by
        simp [take, feed, holding, after]
      rw [ended, foldl_take_after]
    · rw [if_neg feed] at split
      obtain ⟨parts, inner, same⟩ := Option.map_eq_some_iff.1 split
      obtain ⟨rfl, rfl⟩ := Prod.mk.inj same
      have kept : (holding held).take byte = holding (held ++ [byte]) := by
        simp [take, feed, holding]
      rw [kept, ih inner]
      simp

/-- Bytes without a line feed are held. -/
theorem foldl_take_of_open {chunk : Bytes} (whole : splitLine? chunk = none) (held : Bytes) :
    chunk.foldl take (holding held) = holding (held ++ chunk) := by
  induction chunk generalizing held with
  | nil => simp
  | cons byte others ih =>
    rw [List.foldl_cons]
    unfold splitLine? at whole
    by_cases feed : byte = lineFeed
    · simp [feed] at whole
    · rw [if_neg feed, Option.map_eq_none_iff] at whole
      have kept : (holding held).take byte = holding (held ++ [byte]) := by
        simp [take, feed, holding]
      rw [kept, ih whole]
      simp

/-- A pause completes what is held, or ends the input. -/
theorem step_pause_holding (held : Bytes) :
    (holding held).step .pause =
      if held = [] then ⟨[], [], .finished⟩ else (holding []).after [held] := by
  by_cases nothing : held = []
  · simp [step, holding, pause, nothing]
  · simp [step, holding, pause, after, nothing]

/-- What a scan makes of an input, by the first line that is read from it. -/
theorem scan_eq_of_readLine (held : Bytes) (input : List ReadEvent) :
    scan held input =
      match readLine held input with
      | (.line line, rest) => (scan [] rest).after [line]
      | (.interrupted _, rest) => scan [] rest
      | (.finished, _) => ⟨[], [], .finished⟩
      | (.failed _ fault, _) => ⟨[], [], .failed fault⟩ := by
  fun_induction readLine held input with
  | case1 held =>
    by_cases nothing : held = []
    · subst nothing
      rfl
    · simp only [atPause, if_neg nothing]
      change ((holding held).step .pause).step .pause = (scan [] []).after [held]
      rw [step_pause_holding, if_neg nothing, step_after]
      rfl
  | case2 held chunk events line rest split =>
    change ((((holding held).step (.bytes chunk)).run events).close) = _
    rw [step_bytes rfl, foldl_take_of_split split, run_after, close_after]
    rfl
  | case3 held chunk events whole ih =>
    rw [← ih]
    change ((((holding held).step (.bytes chunk)).run events).close) = _
    rw [step_bytes rfl, foldl_take_of_open whole, scan]
  | case4 held events =>
    change ((((holding held).step .pause).run events).close) = _
    rw [step_pause_holding]
    by_cases nothing : held = []
    · have ended : (⟨[], [], .finished⟩ : LineMachine).status ≠ .reading := by simp
      simp only [atPause, if_pos nothing]
      rw [run_of_ended ended, close_of_ended ended]
    · simp only [atPause, if_neg nothing]
      rw [run_after, close_after, scan]
  | case5 held events ih =>
    rw [← ih]
    rfl
  | case6 held events => rfl
  | case7 held fault events =>
    have ended : (⟨[], [], .failed fault⟩ : LineMachine).status ≠ .reading := by simp
    change ((⟨[], [], .failed fault⟩ : LineMachine).run events).close = _
    rw [run_of_ended ended, close_of_ended ended]

/-- What holds where an input ends or fails, and holds of an input whenever it holds of what one
reading leaves of it, holds of every input. Each case comes with what a scan makes of it. -/
theorem reading_induction {motive : List ReadEvent → Prop}
    (finished : ∀ input rest, readLine [] input = (.finished, rest) →
      scan [] input = ⟨[], [], .finished⟩ → motive input)
    (failed : ∀ input part fault rest, readLine [] input = (.failed part fault, rest) →
      scan [] input = ⟨[], [], .failed fault⟩ → motive input)
    (interrupted : ∀ input part rest, readLine [] input = (.interrupted part, rest) →
      scan [] input = scan [] rest → motive rest → motive input)
    (line : ∀ input bytes rest, readLine [] input = (.line bytes, rest) →
      scan [] input = (scan [] rest).after [bytes] → motive rest → motive input)
    (input : List ReadEvent) : motive input := by
  induction size : weight input using Nat.strongRecOn generalizing input with
  | _ size smaller =>
    subst size
    have scanned := scan_eq_of_readLine [] input
    match read : readLine [] input with
    | (.finished, rest) =>
      rw [read] at scanned
      exact finished input rest read scanned
    | (.failed part fault, rest) =>
      rw [read] at scanned
      exact failed input part fault rest read scanned
    | (.interrupted part, rest) =>
      rw [read] at scanned
      have less : weight rest < weight input := weight_of_cut read (.inl ⟨part, rfl⟩)
      exact interrupted input part rest read scanned (smaller _ less rest rfl)
    | (.line bytes, rest) =>
      rw [read] at scanned
      have ⟨nonempty, bound⟩ := weight_of_line read
      have positive := List.length_pos_iff.2 nonempty
      have less : weight rest < weight input := by
        simp only [List.length_nil] at bound
        omega
      exact line input bytes rest read scanned (smaller _ less rest rfl)

end Backtrace.Trace
