import Backtrace.Proofs.Decoding.FirstFault
import Backtrace.Proofs.Decoding.Invocations
import Backtrace.Proofs.Frame.Shape
import Backtrace.Proofs.Resolver.Replies
import Backtrace.Proofs.Session.Reporting
import Backtrace.Proofs.Trace.WholeText
import Backtrace.World.FileTree

/-!
# The programs that a session starts

A session starts its resolver program once for each frame, with the artifact and the address of
that frame. An address is made of a zero, a mark and digits, so it is one argument and neither an
option nor a path. The system may still refuse to start the program with one address and start it
with another, as it does where an argument is too long; the first refusal ends the session.
-/

namespace Backtrace

namespace World

variable {world : World} {invocation : Invocation} {fault : Fault}

/-- A program starts if nothing keeps it from starting. -/
theorem start_of_clear (clear : world.obstacle? invocation = none) (asked : Nat) :
    world.start asked invocation = .ok (world.reply asked invocation) := by
  rw [start, clear]

/-- A program does not start if something keeps it from starting. -/
theorem start_of_obstacle (refused : world.obstacle? invocation = some fault) (asked : Nat) :
    world.start asked invocation = .error fault := by
  rw [start, refused]

end World

namespace Resolver

variable {world : World} {configuration : Configuration} {address : Address}

/-- A request costs one run of its program, if that can be started. -/
theorem invocations_ask (world : World) (asked : Nat) (request : Request) :
    (ask world asked request).invocations =
      [invocation request].filter fun call => (world.obstacle? call).isNone := by
  cases obstacle : world.obstacle? (invocation request) with
  | none =>
    rw [ask_of_started (World.start_of_clear obstacle asked)]
    simp [obstacle]
  | some fault =>
    rw [ask_of_refused (World.start_of_obstacle obstacle asked)]
    simp [obstacle]

/-- The answer to a request whose program can be started is no failure. -/
theorem failure?_answerTo_of_clear
    (clear : world.obstacle? (invocation (configuration.request address)) = none) (asked : Nat) :
    ((external world).answerTo configuration asked address).failure? = none := by
  change (Answer.mk address (ask world asked _).outcome).failure? = none
  rw [ask_of_started (World.start_of_clear clear asked)]
  rfl

/-- The answer to a request whose program cannot be started is a failure to launch it. -/
theorem failure?_answerTo_of_obstacle {fault : Fault}
    (refused : world.obstacle? (invocation (configuration.request address)) = some fault)
    (asked : Nat) :
    ((external world).answerTo configuration asked address).failure? =
      some ⟨configuration.resolver, fault⟩ := by
  change (Answer.mk address (ask world asked _).outcome).failure? = _
  rw [ask_of_refused (World.start_of_obstacle refused asked)]
  rfl

end Resolver

namespace Decoding

open Resolver

variable {world : World} {configuration : Configuration} {input : List ReadEvent}

/-- The programs run for requests are those that can be started. -/
theorem invocationsOf_external (asked : Nat) (requests : List Request) :
    invocationsOf (external world) asked requests =
      (requests.map invocation).filter fun call => (world.obstacle? call).isNone := by
  induction requests generalizing asked with
  | nil => rfl
  | cons request later ih =>
    rw [invocationsOf_cons, ih, List.map_cons, ← List.singleton_append, List.filter_append]
    exact congrArg (· ++ _) (invocations_ask world asked request)

/-- Programs that can all be started are all run. -/
theorem filter_of_clear {addresses : List Address} (clear : ∀ address ∈ addresses,
      world.obstacle? (invocation (configuration.request address)) = none) :
    ((addresses.map configuration.request).map invocation).filter
        (fun call => (world.obstacle? call).isNone) =
      addresses.map fun address => invocation (configuration.request address) := by
  rw [List.map_map]
  refine List.filter_eq_self.2 fun call inside => ?_
  obtain ⟨address, found, rfl⟩ := List.mem_map.1 inside
  exact Option.isNone_iff_eq_none.2 (clear address found)

/-- Requests whose programs can be started are answered. -/
theorem answered_of_clear {addresses : List Address} (clear : ∀ address ∈ addresses,
      world.obstacle? (invocation (configuration.request address)) = none) :
    ∀ answer ∈ (external world).answers configuration 0 addresses, answer.failure? = none := by
  intro answer inside
  obtain ⟨⟨address, place⟩, here, rfl⟩ := List.mem_map.1 inside
  exact failure?_answerTo_of_clear (clear address (List.fst_mem_of_mem_zipIdx here)) place

/-- If the program can be started for every frame, it is run once for each, and the run ends as its
input does. -/
theorem run_of_clear (clear : ∀ address ∈ (FrameStream.ofInput input).frames.map Prod.snd,
      world.obstacle? (invocation (configuration.request address)) = none) :
    let addresses := (FrameStream.ofInput input).frames.map Prod.snd
    let run := run (external world) configuration Sink.unlimited input
    run.activity.invocations =
        addresses.map (fun address => invocation (configuration.request address)) ∧
      run.activity.output =
        ((external world).answers configuration 0 addresses).flatMap Answer.written ∧
      ((FrameStream.ofInput input).fault? = none → ∃ summary, run.result = .ok summary) := by
  intro addresses run
  obtain ⟨requests, output, result⟩ :=
    run_of_answered (external world) configuration (answered_of_clear clear)
  refine ⟨?_, output, ?_⟩
  · rw [invocations_run, requests, invocationsOf_external, filter_of_clear clear]
  · intro sound
    rw [sound] at result
    exact ⟨_, result⟩

/-- If the program can be started for some frames and not for the next one, it is run for these
only, and the run fails at that frame. -/
theorem run_of_obstacle {earlier later : List Address} {refused : Address} {fault : Fault}
    (split : (FrameStream.ofInput input).frames.map Prod.snd = earlier ++ refused :: later)
    (clear : ∀ address ∈ earlier,
      world.obstacle? (invocation (configuration.request address)) = none)
    (obstacle : world.obstacle? (invocation (configuration.request refused)) = some fault) :
    let run := run (external world) configuration Sink.unlimited input
    run.activity.invocations =
        earlier.map (fun address => invocation (configuration.request address)) ∧
      run.activity.requests = (earlier ++ [refused]).map configuration.request ∧
      run.activity.output =
        ((external world).answers configuration 0 earlier).flatMap Answer.written ∧
      run.result = .error (.launch ⟨configuration.resolver, fault⟩) := by
  intro run
  have answers := congrArg ((external world).answers configuration 0) split
  rw [answers_append, answers_cons] at answers
  obtain ⟨requests, -, output, result⟩ := run_of_launch_failure answers
    (answered_of_clear clear) (failure?_answerTo_of_obstacle obstacle _)
  rw [length_answers, split, List.take_length_add_append] at requests
  have asked : run.activity.requests = (earlier ++ [refused]).map configuration.request := requests
  refine ⟨?_, asked, output, result⟩
  rw [invocations_run, asked, invocationsOf_external, List.map_append, List.map_append,
    List.filter_append, filter_of_clear clear]
  simp [obstacle]

end Decoding

namespace Session

open Resolver Trace LineMachine

/-- An address is one argument: a zero, a mark and hexadecimal digits, with no dash to make it an
option, no slash to make it a path and no blank to make it two. -/
theorem address_as_argument (address : Address) :
    (∃ mark digits, address.spelling = '0' :: mark :: digits ∧ (mark = 'x' ∨ mark = 'X') ∧
      digits ≠ [] ∧ ∀ digit ∈ digits, isHexDigit digit = true) ∧
    0x2D ∉ Utf8.encode address.spelling ∧ slash ∉ Utf8.encode address.spelling ∧
    Text.Unbroken address.spelling := by
  have above {byte : UInt8} (inside : byte ∈ Utf8.encode address.spelling) :
      0x2F < byte.toNat := (address.toNat_of_mem_encode inside).1
  have dashless : 0x2D ∉ Utf8.encode address.spelling := fun inside =>
    absurd (above inside) (by decide)
  have slashless : slash ∉ Utf8.encode address.spelling := fun inside =>
    absurd (above inside) (by decide)
  exact ⟨address.exists_spelling, dashless, slashless, address.unbroken_spelling⟩

/-- An input without a fault brings none to the stream. -/
theorem fault?_of_sound {input : List ReadEvent} (sound : ∀ fault, .fault fault ∉ input) :
    (FrameStream.ofInput input).fault? = none := by
  rw [FrameStream.fault?_ofInput, Decoding.fault?_scan_of_sound sound]

/-- A session on an input without a fault starts its resolver program once for each frame, in
order, each time for the address of that frame as one argument, and succeeds. The first frame for
which the system does not start it ends the session, with the frames before it done. -/
theorem invocations_of_decode (world : World) (configuration : Configuration)
    (input : List ReadEvent) (sound : ∀ fault, .fault fault ∉ input) :
    let addresses := (FrameStream.ofInput input).frames.map Prod.snd
    let session := decode world configuration Sink.unlimited input
    let call : Address → Invocation := fun address => ⟨configuration.resolver,
      [Utf8.encode "-f".toList, Utf8.encode "-e".toList, configuration.artifact.bytes,
        Utf8.encode address.spelling]⟩
    (∀ address ∈ addresses,
      (∃ mark digits, address.spelling = '0' :: mark :: digits ∧ (mark = 'x' ∨ mark = 'X') ∧
        digits ≠ [] ∧ ∀ digit ∈ digits, isHexDigit digit = true) ∧
      0x2D ∉ Utf8.encode address.spelling ∧ slash ∉ Utf8.encode address.spelling ∧
      Text.Unbroken address.spelling) ∧
    ((∀ address ∈ addresses, world.obstacle? (call address) = none) →
      session.activity.invocations = addresses.map call ∧
        (addresses = [] → session.activity.output = []) ∧
        ∃ summary, session.result = .ok summary) ∧
    ∀ earlier refused later fault, addresses = earlier ++ refused :: later →
      (∀ address ∈ earlier, world.obstacle? (call address) = none) →
      world.obstacle? (call refused) = some fault →
        session.activity.invocations = earlier.map call ∧
          session.activity.requests = (earlier ++ [refused]).map configuration.request ∧
          session.activity.output =
            ((external world).answers configuration 0 earlier).flatMap Answer.written ∧
          session.result =
            .error (.decoding configuration (.launch ⟨configuration.resolver, fault⟩)) := by
  intro addresses session call
  refine ⟨fun address _ => address_as_argument address, ?_, ?_⟩
  · intro clear
    obtain ⟨ran, written, complete⟩ := Decoding.run_of_clear clear
    obtain ⟨summary, ended⟩ := complete (fault?_of_sound sound)
    refine ⟨(invocations_decodeWith ..).trans ran, ?_, summary, result_decodeWith_of_ok ended⟩
    intro nothing
    refine (output_decodeWith ..).trans (written.trans ?_)
    change ((external world).answers configuration 0 addresses).flatMap Answer.written = []
    rw [nothing]
    rfl
  · intro earlier refused later fault split clear obstacle
    obtain ⟨ran, asked, written, failed⟩ := Decoding.run_of_obstacle split clear obstacle
    exact ⟨(invocations_decodeWith ..).trans ran, (requests_decodeWith ..).trans asked,
      (output_decodeWith ..).trans written, result_decodeWith_of_error failed⟩

/-- A world with one program, which knows one place for every address. -/
def smallWorld : World :=
  (FileTree.ofListing (.ofText "/work".toList) [(.ofText "bin/addr2line".toList,
    .program ⟨[], ⟨.exited 0, Utf8.encode "main\na.c:7\n".toList, []⟩⟩ true)]).world

/-- The configuration whose resolver is the program of the small world. -/
def smallConfiguration : Configuration :=
  ⟨.ofText "kboot.elf".toList, .ofText "addr2line".toList⟩

/-- A resolver that answers a frame that comes twice and one with a large mark, and one that is
missing. -/
theorem invocations_of_decode_repeated :
    let lost : Configuration := ⟨.ofText "kboot.elf".toList, .ofText "./addr2line".toList⟩
    let input : List ReadEvent :=
      [.bytes (Utf8.encode " 0x1\n 0x7 (0X1f)\nnoise\n 0x".toList), .retry, .bytes [0x31]]
    let session := fun used => decode smallWorld used Sink.unlimited input
    (∀ fault, .fault fault ∉ input) ∧
      ((session smallConfiguration).activity.invocations =
        ["0x1", "0X1f", "0x1"].map fun address => ⟨smallConfiguration.resolver,
          ["-f", "-e", "kboot.elf", address].map (Utf8.encode ·.toList)⟩) ∧
      (∃ summary, (session smallConfiguration).result = .ok summary) ∧
      (session lost).activity.invocations = [] ∧ (session lost).activity.output = [] ∧
      (session lost).result = .error (.decoding lost (.launch ⟨lost.resolver, .missing⟩)) := by
  intro lost input session
  have sound : ∀ fault, .fault fault ∉ input := by simp [input]
  let first : Address := ⟨['0', 'x', '1'], rfl⟩
  let second : Address := ⟨['0', 'X', '1', 'f'], rfl⟩
  have addresses : (FrameStream.ofInput input).frames.map Prod.snd = [first, second, first] := by
    rw [Decoding.map_snd_frames]
    rfl
  obtain ⟨-, every, -⟩ := invocations_of_decode smallWorld smallConfiguration input sound
  obtain ⟨-, -, never⟩ := invocations_of_decode smallWorld lost input sound
  rw [addresses] at every never
  obtain ⟨ran, -, summary, ended⟩ := every (by decide +kernel)
  obtain ⟨none, -, silent, failed⟩ :=
    never [] first [second, first] .missing rfl (List.forall_mem_nil _) (by rfl)
  exact ⟨sound, ran, ⟨summary, ended⟩, none, silent, failed⟩

/-- The address zero, spelled with a number of digits and one more. -/
def zeros (count : Nat) : Address :=
  ⟨'0' :: 'x' :: List.replicate (count + 1) '0', by simp [Address.isLiteral, isHexDigit]⟩

/-- A line with an address of zeros alone is a frame. -/
theorem address?_zeros (count : Nat) :
    Frame.address? (' ' :: (zeros count).spelling) = some (zeros count) := by
  have lower : Frame.mark <+: (zeros count).spelling := ⟨List.replicate (count + 1) '0', rfl⟩
  have blank : Text.AllBlank [] := List.forall_mem_nil _
  have found := Frame.address?_of_alone lower blank
  rwa [List.append_nil] at found

/-- The program of the small world is not started with an address of too many zeros. -/
theorem obstacle?_zeros {count : Nat} (many : longestArgument < count + 3) :
    smallWorld.obstacle? (invocation (smallConfiguration.request (zeros count))) =
      some .argumentTooLong := by
  have zeroless : 0 ∉ Utf8.encode (zeros count).spelling := fun inside =>
    absurd ((zeros count).toNat_of_mem_encode inside).1 (by decide)
  have length : (Utf8.encode (zeros count).spelling).length = count + 3 := by
    rw [Address.encode_spelling, List.length_map]
    simp [zeros]
  have whole : (invocation (smallConfiguration.request (zeros count))).hasZeroByte = false := by
    have leading : smallConfiguration.resolver.bytes.contains 0 = false ∧
        (leadingArguments ++ [smallConfiguration.artifact.bytes]).any (·.contains 0) = false := by
      decide
    simpa [Invocation.hasZeroByte, invocation, Configuration.request, zeroless] using leading
  have long : (invocation (smallConfiguration.request (zeros count))).hasLongArgument = true := by
    simp [Invocation.hasLongArgument, invocation, Configuration.request, length, many]
  rw [World.obstacle?, whole, if_neg Bool.false_ne_true]
  exact if_pos long

/-- An input of two lines: one with a short address and one with many zeros. -/
def shortThenZeros (count : Nat) : List ReadEvent :=
  [.bytes (Utf8.encode (" 0x1\n".toList ++ ' ' :: (zeros count).spelling))]

/-- Both lines are frames. -/
theorem addresses_of_shortThenZeros (count : Nat) :
    (FrameStream.ofInput (shortThenZeros count)).frames.map Prod.snd =
      [⟨['0', 'x', '1'], rfl⟩, zeros count] := by
  have single : '\n' ∉ ' ' :: (zeros count).spelling := by
    intro inside
    rcases List.mem_cons.1 inside with feed | inside
    · simp at feed
    · exact absurd ((zeros count).toNat_of_mem_spelling inside).1 (by decide)
  have lines : Text.lines (" 0x1\n".toList ++ ' ' :: (zeros count).spelling) =
      [" 0x1".toList, ' ' :: (zeros count).spelling] := by
    change Text.lines (" 0x1".toList ++ '\n' :: ' ' :: (zeros count).spelling) = _
    rw [Text.lines_append_lineFeed (by decide), Text.lines_of_single (by simp) single]
    rfl
  have first : Frame.address? " 0x1".toList = some ⟨['0', 'x', '1'], rfl⟩ := by rfl
  rw [shortThenZeros, FrameStream.map_snd_frames_of_delivers (.chunk _ .nothing),
    List.append_nil, Utf8.decodeLossy_encode, Frame.addresses, lines,
    List.filterMap_cons_some first, List.filterMap_cons_some (address?_zeros count),
    List.filterMap_nil]

/-- If the second address is too long, the program is run for the first only. -/
theorem decode_shortThenZeros {count : Nat} (many : longestArgument < count + 3) :
    let session := decode smallWorld smallConfiguration Sink.unlimited (shortThenZeros count)
    session.activity.invocations =
        [invocation (smallConfiguration.request ⟨['0', 'x', '1'], rfl⟩)] ∧
      session.result = .error (.decoding smallConfiguration
        (.launch ⟨smallConfiguration.resolver, .argumentTooLong⟩)) := by
  intro session
  have split : (FrameStream.ofInput (shortThenZeros count)).frames.map Prod.snd =
      [⟨['0', 'x', '1'], rfl⟩] ++ zeros count :: [] := addresses_of_shortThenZeros count
  have clear : ∀ address ∈ [(⟨['0', 'x', '1'], rfl⟩ : Address)],
      smallWorld.obstacle? (invocation (smallConfiguration.request address)) = none := by
    decide +kernel
  obtain ⟨ran, -, -, failed⟩ := Decoding.run_of_obstacle split clear (obstacle?_zeros many)
  exact ⟨(invocations_decodeWith ..).trans ran, result_decodeWith_of_error failed⟩

/-- A session whose resolver program is launched for the first of two frames and not for the
second, whose address is too long to be an argument. -/
theorem decode_fails_after_launch :
    let input := shortThenZeros 131071
    let call := fun address => invocation (smallConfiguration.request address)
    let session := decode smallWorld smallConfiguration Sink.unlimited input
    (∀ fault, .fault fault ∉ input) ∧
      (FrameStream.ofInput input).frames.map Prod.snd =
        [⟨['0', 'x', '1'], rfl⟩, zeros 131071] ∧
      session.activity.invocations = [call ⟨['0', 'x', '1'], rfl⟩] ∧
      session.result = .error (.decoding smallConfiguration
        (.launch ⟨smallConfiguration.resolver, .argumentTooLong⟩)) :=
  ⟨by simp [shortThenZeros], addresses_of_shortThenZeros 131071,
    decode_shortThenZeros (by decide)⟩

end Session
end Backtrace
