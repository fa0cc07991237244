import Backtrace.Proofs.Decoding.Answers

/-!
# The outcome of a run

What a whole run comes to, for every input and every resolver, when the output takes everything.
Without a fault every frame of the input is asked for and every resolved one is written and
counted. With one, the first fault is the outcome, what was done before it stands, and the rest
of the input makes no difference.
-/

namespace Backtrace.Decoding

open Trace LineMachine

variable (resolver : Resolver) (configuration : Configuration)

/-- The frames of a stream have the addresses of the completed lines. -/
theorem map_snd_frames (input : List ReadEvent) :
    (FrameStream.ofInput input).frames.map Prod.snd = addressesIn (scan [] input).completed := by
  rw [FrameStream.frames_ofInput, Frame.map_snd_numbered]
  rfl

/-- An input without a fault is read to its end. -/
theorem fault?_scan_of_sound {input : List ReadEvent} (sound : ∀ fault, .fault fault ∉ input) :
    (scan [] input).fault? = none := by
  rw [scan, fault?_close, fault?]
  split
  · rename_i fault failed
    obtain ⟨before, after, rfl, -⟩ := exists_fault_of_failed rfl failed
    exact absurd (by simp) (sound fault)
  · rfl

/-- A run in which every request is answered, by the stream of its input. -/
theorem run_of_answered {input : List ReadEvent}
    (answered : ∀ answer ∈ resolver.answers configuration 0
      ((FrameStream.ofInput input).frames.map Prod.snd), answer.failure? = none) :
    let stream := FrameStream.ofInput input
    let addresses := stream.frames.map Prod.snd
    let answers := resolver.answers configuration 0 addresses
    let run := run resolver configuration Sink.unlimited input
    run.activity.requests = addresses.map configuration.request ∧
      run.activity.output = answers.flatMap Answer.written ∧
      run.result =
        match stream.fault? with
        | some fault => .error (.read fault)
        | none => .ok (.ofAnswers stream.totalLines answers) := by
  dsimp only
  rw [map_snd_frames] at answered ⊢
  rw [run_eq_overLines, FrameStream.fault?_ofInput, FrameStream.totalLines_ofInput]
  have law := overLines_of_answered 0 (scan [] input).fault? answered
  rw [Nat.zero_add] at law
  exact law

/-- Without a fault of the input or the resolver a run succeeds: it asks for every frame once and
in order, writes one line for each resolved frame, and counts lines, requests and both kinds of
answers. -/
theorem run_of_faultless (input : List ReadEvent) (sound : ∀ fault, .fault fault ∉ input)
    (answering : ∀ asked request, ∃ resolution,
      (resolver.answer asked request).outcome = .ok resolution) :
    let stream := FrameStream.ofInput input
    let addresses := stream.frames.map Prod.snd
    let answers := resolver.answers configuration 0 addresses
    let run := run resolver configuration Sink.unlimited input
    run.activity.requests =
        addresses.map (fun address => ⟨configuration.artifact, configuration.resolver, address⟩) ∧
      run.activity.output = answers.flatMap Answer.written ∧
      run.result = .ok ⟨stream.totalLines, run.activity.requests.length,
        answers.countP Answer.isResolved, answers.countP Answer.isUnresolved⟩ ∧
      run.activity.requests.length =
        answers.countP Answer.isResolved + answers.countP Answer.isUnresolved := by
  intro stream addresses answers run
  have answered : ∀ answer ∈ answers, answer.failure? = none := by
    intro answer inside
    obtain ⟨⟨address, place⟩, -, rfl⟩ := List.mem_map.1 inside
    obtain ⟨resolution, outcome⟩ := answering place (configuration.request address)
    simp only [Resolver.answerTo, outcome, Answer.failure?]
  obtain ⟨requests, output, result⟩ := run_of_answered resolver configuration answered
  have sound : stream.fault? = none := by
    rw [FrameStream.fault?_ofInput, fault?_scan_of_sound sound]
  have asked : run.activity.requests.length = answers.length := by
    rw [requests, List.length_map, Resolver.length_answers]
  refine ⟨requests, output, ?_, ?_⟩
  · rw [result, sound, asked]
    rfl
  · rw [asked, Answer.length_eq_of_answered answered]

/-- An unfinished line that is lost, a frame cut by a repeated read, a line of noise, a frame
that is not resolved and one that ends with the input. -/
theorem run_of_faultless_mixed :
    let input : List ReadEvent := [.bytes (Utf8.encode " 0x1".toList), .abandon,
      .bytes (Utf8.encode " 0x".toList), .retry, .bytes (Utf8.encode "A\r\nnoise\n 0xB".toList),
      .pause, .bytes (Utf8.encode " 0x7 (0XC)".toList)]
    let resolver : Resolver := ⟨"table".toList, fun asked request =>
      ⟨.ok (if asked = 1 then .unresolved
        else .resolved ⟨request.address.spelling, "a.c:7".toList⟩), [], []⟩⟩
    let configuration : Configuration := ⟨.ofText "kboot.elf".toList, .ofText "addr2line".toList⟩
    let run := run resolver configuration Sink.unlimited input
    (∀ fault, .fault fault ∉ input) ∧
      (∀ asked request, ∃ resolution, (resolver.answer asked request).outcome = .ok resolution) ∧
      run.result = .ok ⟨4, 3, 2, 1⟩ ∧
      run.activity.output = Utf8.encode "0xA - 0xA @ a.c:7\n0XC - 0XC @ a.c:7\n".toList := by
  intro input resolver configuration run
  have sound : ∀ fault, .fault fault ∉ input := by simp [input]
  have answering : ∀ asked request, ∃ resolution,
      (resolver.answer asked request).outcome = .ok resolution := fun _ _ => ⟨_, rfl⟩
  obtain ⟨requests, output, result, -⟩ :=
    run_of_faultless resolver configuration input sound answering
  rw [requests, FrameStream.totalLines_ofInput, map_snd_frames] at result
  rw [map_snd_frames] at output
  exact ⟨sound, answering, result.trans (by rfl), output.trans (by decide +kernel)⟩

end Backtrace.Decoding
