import Backtrace.Proofs.Decoding.Outcome
import Backtrace.Proofs.Trace.WholeText

/-!
# Decoding answer by answer

What a run writes and what it asks come from its frames and the answers to them. The lines
between the frames only count, so a run can be told over the answers alone, with one number for
all lines; two inputs with the same frames then differ in that number at most. This holds for
every writer and every resolver, and however the run ends.
-/

namespace Backtrace

variable {σ : Type}

/-- What an activity shows to the output and to the resolver. -/
def Activity.exchanged (activity : Activity) : Activity :=
  ⟨activity.output, activity.requests, [], []⟩

/-- A handled frame by what it shows to the output and to the resolver. -/
def Handling.exchanged (handling : Handling σ) : Handling σ :=
  { handling with activity := handling.activity.exchanged }

namespace Run

/-- A run by what it shows to the output and to the resolver. -/
def exchanged (run : Run σ) : Run σ := { run with activity := run.activity.exchanged }

/-- Runs show the same exactly if they have the same result, output and requests and leave the
same writer. -/
theorem exchanged_eq_iff {left right : Run σ} : left.exchanged = right.exchanged ↔
    left.result = right.result ∧ left.activity.output = right.activity.output ∧
      left.activity.requests = right.activity.requests ∧ left.writer = right.writer := by
  simp [exchanged, Activity.exchanged, and_assoc]

/-- What a run shows, part by part. -/
theorem of_exchanged {run : Run σ} {result : Except DecodeError Summary} {output : Bytes}
    {requests : List Request} {writer : σ}
    (shown : run.exchanged = ⟨result, ⟨output, requests, [], []⟩, writer⟩) :
    run.result = result ∧ run.activity.output = output ∧ run.activity.requests = requests ∧
      run.writer = writer := by
  have same : run.exchanged = exchanged ⟨result, ⟨output, requests, [], []⟩, writer⟩ := shown
  exact exchanged_eq_iff.1 same

/-- Going on after a handled frame shows what the frame and what follows it show. -/
theorem exchanged_proceed (handling : Handling σ) (next : σ → Run σ) :
    (handling.proceed next).exchanged =
      handling.exchanged.proceed fun after => (next after).exchanged := by
  obtain ⟨outcome, activity, writer⟩ := handling
  cases outcome <;> rfl

/-- Counts and activities that come before a run may be taken together. -/
theorem following_following (first second : Summary) (before between : Activity) (run : Run σ) :
    (run.following second between).following first before =
      run.following (first + second) (before ++ between) := by
  obtain ⟨result, activity, writer⟩ := run
  cases result with
  | error error => simp only [following, Except.map, Activity.append_assoc]
  | ok summary => simp only [following, Except.map, Activity.append_assoc, Summary.add_assoc]

end Run

namespace Answer

variable [Writer σ]

/-- Writes the line for a known place, and nothing for any other answer. -/
def write (answer : Answer) (writer : σ) : Written σ :=
  match answer with
  | ⟨address, .ok (.resolved symbol)⟩ => Entry.write ⟨address, symbol⟩ writer
  | _ => ⟨[], .ok (), writer⟩

/-- Where there is no answer the writer is left as it is. -/
theorem write_of_failure {answer : Answer} {failure : LaunchFailure}
    (failed : answer.failure? = some failure) (writer : σ) :
    answer.write writer = ⟨[], .ok (), writer⟩ := by
  unfold failure? at failed
  split at failed
  · rfl
  · simp at failed

end Answer

namespace Decoding

variable [Writer σ] (configuration : Configuration) (fault : Option FinalFault)

/-- What becomes of a frame with this answer: its line is written, if it has one, and without
an answer the run ends. -/
def settle (writer : σ) (answer : Answer) : Handling σ :=
  let written := answer.write writer
  ⟨match answer.failure? with
    | some failure => .error (.launch failure)
    | none => (written.result.mapError .write).map fun _ => .ofAnswers 0 [answer],
    ⟨written.taken, [configuration.request answer.address], [], []⟩, written.writer⟩

/-- The run over the answers for the frames of an input with a number of lines, and the fault
that ended the input, if one did. -/
def overAnswers (lines : Nat) (writer : σ) : List Answer → Run σ
  | [] =>
    match fault with
    | some fault => ⟨.error (.read fault), .none, writer⟩
    | none => finish writer lines
  | answer :: later =>
    (settle configuration writer answer).proceed fun after => overAnswers lines after later

variable {resolver : Resolver} {configuration} {fault}

/-- Handling a frame is settling its answer. -/
theorem exchanged_handle (asked : Nat) (writer : σ) (number : Nat) (address : Address) :
    (handle resolver configuration asked writer number address).exchanged =
      settle configuration writer (resolver.answerTo configuration asked address) := by
  unfold handle settle Resolver.answerTo
  dsimp only
  cases (resolver.answer asked (configuration.request address)).outcome with
  | error failure => rfl
  | ok resolution => cases resolution <;> rfl

/-- A run over lines is the run over the answers for its frames, as far as its output, its
requests, its result and its writer go. -/
theorem exchanged_overLines (fault : Option FinalFault) (asked : Nat) (writer : σ) (number : Nat)
    (lines : List Bytes) :
    (overLines resolver configuration fault asked writer number lines).exchanged =
      overAnswers configuration fault (number + lines.length) writer
        (resolver.answers configuration asked (addressesIn lines)) := by
  induction lines generalizing asked writer number with
  | nil => cases fault <;> rfl
  | cons line later ih =>
    have count : number + (line :: later).length = number + 1 + later.length := by
      rw [List.length_cons]
      omega
    rw [count]
    cases found : Frame.address? (Utf8.decodeLossy line) with
    | none =>
      rw [addressesIn_cons_of_none found, overLines_cons_of_none found, ← ih]
      rfl
    | some address =>
      rw [addressesIn_cons_of_some found, overLines_cons_of_some found, Resolver.answers_cons,
        Run.exchanged_proceed, exchanged_handle, overAnswers]
      simp only [ih]

/-- A run is the run over the answers for the frames of its stream. -/
theorem exchanged_run (writer : σ) (input : List ReadEvent) :
    let stream := FrameStream.ofInput input
    (run resolver configuration writer input).exchanged =
      overAnswers configuration stream.fault? stream.totalLines writer
        (resolver.answers configuration 0 (stream.frames.map Prod.snd)) := by
  dsimp only
  rw [run_eq_overLines, exchanged_overLines, map_snd_frames, FrameStream.fault?_ofInput,
    FrameStream.totalLines_ofInput, Nat.zero_add]

/-- A run over delivered bytes is the run over the answers for the frames of their text. -/
theorem exchanged_run_of_delivers (writer : σ) {input : List ReadEvent} {bytes : Bytes}
    (delivered : Trace.Delivers input bytes) :
    (run resolver configuration writer input).exchanged =
      overAnswers configuration none (Utf8.decodeLossy bytes).lines.length writer
        (resolver.answers configuration 0 (Frame.addresses (Utf8.decodeLossy bytes))) := by
  rw [exchanged_run, FrameStream.fault?_of_delivers delivered,
    FrameStream.totalLines_of_delivers delivered, FrameStream.map_snd_frames_of_delivers delivered]

/-- More lines without frames add to the count of lines, and to nothing else. -/
theorem overAnswers_add (first lines : Nat) (writer : σ) (answers : List Answer) :
    overAnswers configuration fault (first + lines) writer answers =
      (overAnswers configuration fault lines writer answers).following (.ofLines first) .none := by
  induction answers generalizing writer with
  | nil =>
    cases fault with
    | some fault => rfl
    | none =>
      unfold overAnswers finish
      rcases Writer.flush writer with ⟨flushed | flushed, after⟩ <;> rfl
  | cons answer later ih =>
    rw [overAnswers, overAnswers]
    cases settled : (settle configuration writer answer).outcome with
    | error error =>
      rw [Handling.proceed_of_error settled, Handling.proceed_of_error settled]
      rfl
    | ok counts =>
      rw [Handling.proceed_of_ok settled, Handling.proceed_of_ok settled, ih,
        Run.following_following, Run.following_following, Summary.add_comm, Activity.append_none]
      rfl

end Decoding
end Backtrace
