import Backtrace.Proofs.Decoding.OutputLines
import Backtrace.Proofs.Session.Reporting

/-!
# The output of a session

Whatever the resolver program prints, the output of a session that ends well consists of whole
lines, one for each resolved frame. Given to another session, it is nothing but noise.
-/

namespace Backtrace.Session

open Utf8

/-- A session that ends well has a run that ends well, with the same counts. -/
theorem run_of_decodeWith_ok {σ : Type} [Writer σ] {resolver : Resolver} {world : World}
    {configuration : Configuration} {writer : σ} {input : List ReadEvent} {summary : Summary}
    (ended : (decodeWith resolver world configuration writer input).result = .ok summary) :
    (Decoding.run resolver configuration writer input).result = .ok summary := by
  rw [result_decodeWith] at ended
  cases result : (Decoding.run resolver configuration writer input).result with
  | error error => simp [result, Except.mapError] at ended
  | ok counts =>
    rw [result] at ended
    exact congrArg Except.ok (Except.ok.inj ended)

/-- The output of a session that ends well is a text of whole lines, one for each resolved frame,
which starts with the address of the frame. Decoding the output, with any resolver and any writer
that can be flushed, only counts its lines. -/
theorem output_lines_of_decode (world : World) (configuration : Configuration)
    (input : List ReadEvent) (summary : Summary)
    (ended : (decode world configuration Sink.unlimited input).result = .ok summary) :
    let addresses := (FrameStream.ofInput input).frames.map Prod.snd
    let answers := (Resolver.external world).answers configuration 0 addresses
    let output := (decode world configuration Sink.unlimited input).activity.output
    (∃ text, output = encode text) ∧ (output = [] ∨ output.getLast? = some lineFeed) ∧
      output.count lineFeed = summary.resolved ∧
      (∃ lines, output.splitOn lineFeed = lines ++ [[]] ∧
        List.Forall₂ (fun answer line => encode (answer.address.spelling ++ " - ".toList) <+: line)
          (answers.filter Answer.isResolved) lines) ∧
      ∀ (σ : Type) [Writer σ] resolver used (writer after : σ) again,
        Writer.flush writer = (.ok (), after) → Trace.Delivers again output →
        let run := Decoding.run resolver used writer again
        run.activity.requests = [] ∧ run.activity.output = [] ∧ run.activity.invocations = [] ∧
          run.result = .ok ⟨summary.resolved, 0, 0, 0⟩ := by
  intro addresses answers output
  have ran : (Decoding.run (.external world) configuration Sink.unlimited input).result =
      .ok summary := run_of_decodeWith_ok ended
  obtain ⟨texts, lines, count, noise, starts⟩ :=
    Decoding.exists_lines_of_ok (Resolver.singleLines_external world) ran
  have written : output = encode (texts.flatMap (· ++ ['\n'])) :=
    (output_decodeWith (.external world) world configuration Sink.unlimited input).trans lines
  have cut : output = (texts.map encode).flatMap (· ++ [lineFeed]) :=
    written.trans (encode_flatMap texts)
  have apart : ∀ line ∈ texts.map encode, lineFeed ∉ line := by
    intro line inside
    obtain ⟨text, found, rfl⟩ := List.mem_map.1 inside
    exact lineFeed_not_mem_encode (noise text found).1
  refine ⟨⟨_, written⟩, ?_, ?_, ⟨texts.map encode, ?_, ?_⟩, ?_⟩
  · rw [cut]
    exact Trace.flatMap_eq_nil_or_ended _
  · rw [cut, Trace.count_flatMap apart, List.length_map, count]
  · rw [cut, Trace.splitOn_flatMap apart]
  · rw [List.forall₂_map_right_iff]
    refine starts.imp fun answer text ⟨rest, same⟩ => ?_
    rw [← same, encode_append (answer.address.spelling ++ " - ".toList) rest]
    exact List.prefix_append _ _
  · intro σ _ resolver used writer after again flushed delivered
    rw [written] at delivered
    have run := Decoding.run_of_noise resolver used flushed noise delivered
    rw [count] at run
    exact run

/-- A program that prints a frame with a carriage return, an ill-formed byte and a second frame
when it is run first, and two empty lines when it is run again. -/
theorem output_lines_of_decode_frames :
    let stdout : Bytes := [0x20, 0x30, 0x78, 0x31, 0x0D, 0x0A, 0xFF, 0x20, 0x30, 0x78, 0x32, 0x0A,
      0x20, 0x30, 0x78, 0x33]
    let world : World := ⟨.ok (.ofText "/work".toList), fun _ => .error .missing, fun _ => false,
      fun _ => none, fun asked _ => ⟨.exited 0, if asked = 0 then stdout else [0x0A, 0x0A], []⟩⟩
    let configuration : Configuration := ⟨.ofText "kboot.elf".toList, .ofText "addr2line".toList⟩
    let input : List ReadEvent := [.bytes (encode " 0x1\nnoise\n 0x2".toList)]
    let session := decode world configuration Sink.unlimited input
    let again := Decoding.run (.external world) configuration Sink.unlimited
      [.bytes session.activity.output]
    session.result = .ok ⟨3, 2, 2, 0⟩ ∧ session.activity.output.count lineFeed = 2 ∧
      again.result = .ok ⟨2, 0, 0, 0⟩ ∧ again.activity.requests = [] := by
  intro stdout world configuration input session again
  have found : (FrameStream.ofInput input).frames.map Prod.snd =
      [⟨['0', 'x', '1'], rfl⟩, ⟨['0', 'x', '2'], rfl⟩] := by
    rw [Decoding.map_snd_frames]
    rfl
  have answers : (Resolver.external world).answers configuration 0
      [⟨['0', 'x', '1'], rfl⟩, ⟨['0', 'x', '2'], rfl⟩] =
        [⟨⟨['0', 'x', '1'], rfl⟩, .ok (.resolved ⟨" 0x1\r".toList, "\uFFFD 0x2".toList⟩)⟩,
          ⟨⟨['0', 'x', '2'], rfl⟩, .ok (.resolved ⟨[], []⟩)⟩] := by rfl
  have answered : ∀ answer ∈ (Resolver.external world).answers configuration 0
      ((FrameStream.ofInput input).frames.map Prod.snd), answer.failure? = none := by
    rw [found, answers]
    simp [Answer.failure?]
  obtain ⟨-, -, result⟩ := Decoding.run_of_answered _ _ answered
  rw [FrameStream.fault?_ofInput, FrameStream.totalLines_ofInput, found, answers] at result
  have ended : session.result = .ok ⟨3, 2, 2, 0⟩ :=
    result_decodeWith_of_ok (result.trans (by rfl))
  obtain ⟨-, -, count, -, noise⟩ := output_lines_of_decode world configuration input _ ended
  have delivered : Trace.Delivers [.bytes session.activity.output]
      (session.activity.output ++ []) := .chunk _ .nothing
  rw [List.append_nil] at delivered
  obtain ⟨requests, -, -, whole⟩ :=
    noise Sink (.external world) configuration .unlimited .unlimited _ rfl delivered
  exact ⟨ended, count, whole, requests⟩

end Backtrace.Session
