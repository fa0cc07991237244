import Backtrace.Proofs.Decoding.FirstFault
import Backtrace.Proofs.Decoding.Invocations
import Backtrace.Proofs.Decoding.OverAnswers
import Backtrace.Proofs.Frame.Spelling
import Backtrace.Proofs.Resolver.Replies
import Backtrace.Proofs.Text.EncodedLines
import Backtrace.Proofs.Text.Lines
import Backtrace.Resolver.External
import Mathlib.Data.List.Forall2

/-!
# The lines of the output

With a resolver that never puts a line feed into a name or a location, the output has one line
for each resolved frame, and the line starts with the address of the frame. None of these lines
is a frame itself, since an address starts with a zero and a frame line with a blank, so the
output of a run is noise to the next one.
-/

namespace Backtrace

/-- The line of an entry is no frame: it starts with a zero and not with a blank. -/
theorem Entry.address?_text (entry : Entry) : Frame.address? entry.text = none := by
  obtain ⟨mark, digits, spelled, -⟩ := entry.address.exists_spelling
  apply Frame.address?_of_not_opening
  simp [Entry.text, spelled, Frame.opening]

namespace Answer

/-- The line for a known place, without its end. -/
def text? : Answer → Option Text
  | ⟨address, .ok (.resolved symbol)⟩ => some (Entry.text ⟨address, symbol⟩)
  | _ => none

/-- What is written for answers are their lines, each ended by a line feed. -/
theorem flatMap_written (answers : List Answer) :
    answers.flatMap written = Utf8.encode ((answers.filterMap text?).flatMap (· ++ ['\n'])) := by
  induction answers with
  | nil => rfl
  | cons answer later ih =>
    rw [List.flatMap_cons, ih]
    match answer with
    | ⟨address, .ok (.resolved symbol)⟩ =>
      have shown : text? ⟨address, .ok (.resolved symbol)⟩ =
          some (Entry.text ⟨address, symbol⟩) := rfl
      rw [List.filterMap_cons_some shown, List.flatMap_cons, Utf8.encode_append]
      rfl
    | ⟨_, .ok .unresolved⟩ => rfl
    | ⟨_, .error _⟩ => rfl

/-- No line for an answer is a frame. -/
theorem address?_of_text? {answer : Answer} {text : Text} (shown : answer.text? = some text) :
    Frame.address? text = none := by
  unfold text? at shown
  split at shown
  · rw [← Option.some.inj shown]
    exact Entry.address?_text _
  · simp at shown

/-- The lines for answers stand for the resolved ones in order, and each line starts with the
address of its frame. -/
theorem forall₂_text? (answers : List Answer) :
    List.Forall₂ (fun answer text => answer.address.spelling ++ " - ".toList <+: text)
      (answers.filter isResolved) (answers.filterMap text?) := by
  induction answers with
  | nil => exact .nil
  | cons answer later ih =>
    match answer with
    | ⟨address, .ok (.resolved symbol)⟩ =>
      have starts : address.spelling ++ " - ".toList <+: Entry.text ⟨address, symbol⟩ :=
        ⟨symbol.function ++ " @ ".toList ++ symbol.location, by simp [Entry.text]⟩
      exact .cons starts ih
    | ⟨_, .ok .unresolved⟩ => exact ih
    | ⟨_, .error _⟩ => exact ih

end Answer

namespace Symbol

/-- The symbol has no line feed in it. -/
structure SingleLine (symbol : Symbol) : Prop where
  /-- The name is on one line. -/
  function : '\n' ∉ symbol.function
  /-- The location is on one line. -/
  location : '\n' ∉ symbol.location

end Symbol

/-- The line of an entry holds no line feed if nothing in its symbol does. -/
theorem Entry.lineFeed_not_mem_text {entry : Entry} (single : entry.symbol.SingleLine) :
    '\n' ∉ entry.text := by
  have spelled : '\n' ∉ entry.address.spelling :=
    Text.lineFeed_not_mem_of_unbroken entry.address.unbroken_spelling
  simp [text, spelled, single.function, single.location]

namespace Resolver

/-- Every symbol that the resolver gives has no line feed in it. -/
def SingleLines (resolver : Resolver) : Prop :=
  ∀ asked request symbol, (resolver.answer asked request).outcome = .ok (.resolved symbol) →
    symbol.SingleLine

/-- A resolver program may print what it likes: no line feed gets into a symbol. -/
theorem singleLines_external (world : World) : (external world).SingleLines := by
  intro asked request symbol outcome
  change (ask world asked request).outcome = _ at outcome
  cases launched : world.start asked (invocation request) with
  | error fault =>
    rw [ask_of_refused launched] at outcome
    simp at outcome
  | ok completion =>
    obtain ⟨function, location, -⟩ := quiet_of_resolved launched outcome
    exact ⟨function, location⟩

/-- The lines for the answers of such a resolver have no line feed in them. -/
theorem lineFeed_not_mem_text {resolver : Resolver} (single : resolver.SingleLines)
    {configuration : Configuration} {asked : Nat} {addresses : List Address} {text : Text}
    (inside : text ∈ (resolver.answers configuration asked addresses).filterMap Answer.text?) :
    '\n' ∉ text := by
  obtain ⟨answer, found, shown⟩ := List.mem_filterMap.1 inside
  obtain ⟨⟨address, place⟩, -, rfl⟩ := List.mem_map.1 found
  unfold Answer.text? at shown
  split at shown
  · rename_i shownAddress symbol same
    obtain rfl := Option.some.inj shown
    have outcome : (resolver.answer place (configuration.request address)).outcome =
        .ok (.resolved symbol) := congrArg Answer.outcome same
    exact Entry.lineFeed_not_mem_text (single _ _ _ outcome)
  · simp at shown

end Resolver

namespace Decoding

variable {resolver : Resolver} {configuration : Configuration}

/-- A run that ends well has an answer for every frame; it writes the lines of the resolved ones
and counts them. -/
theorem run_of_ok {input : List ReadEvent} {summary : Summary}
    (ended : (run resolver configuration Sink.unlimited input).result = .ok summary) :
    let addresses := (FrameStream.ofInput input).frames.map Prod.snd
    let answers := resolver.answers configuration 0 addresses
    (run resolver configuration Sink.unlimited input).activity.output =
        answers.flatMap Answer.written ∧ summary.resolved = answers.countP Answer.isResolved := by
  intro addresses answers
  obtain ⟨-, output, result⟩ := run_of_answered resolver configuration (answered_of_ok ended)
  refine ⟨output, ?_⟩
  rw [ended] at result
  split at result
  · simp at result
  · rw [Except.ok.inj result]
    rfl

/-- The output of a run that ends well consists of lines, one for each resolved frame in order,
each of which starts with the address of its frame and is no frame itself. -/
theorem exists_lines_of_ok (single : resolver.SingleLines) {input : List ReadEvent}
    {summary : Summary}
    (ended : (run resolver configuration Sink.unlimited input).result = .ok summary) :
    let addresses := (FrameStream.ofInput input).frames.map Prod.snd
    let answers := resolver.answers configuration 0 addresses
    ∃ texts, (run resolver configuration Sink.unlimited input).activity.output =
        Utf8.encode (texts.flatMap (· ++ ['\n'])) ∧
      texts.length = summary.resolved ∧
      (∀ text ∈ texts, '\n' ∉ text ∧ Frame.address? text = none) ∧
      List.Forall₂ (fun answer text => answer.address.spelling ++ " - ".toList <+: text)
        (answers.filter Answer.isResolved) texts := by
  intro addresses answers
  obtain ⟨output, resolved⟩ := run_of_ok ended
  have starts := Answer.forall₂_text? answers
  refine ⟨answers.filterMap Answer.text?, ?_, ?_, fun text inside => ⟨?_, ?_⟩, starts⟩
  · rw [output, Answer.flatMap_written]
  · rw [resolved, List.countP_eq_length_filter]
    exact starts.length_eq.symm
  · exact Resolver.lineFeed_not_mem_text single inside
  · obtain ⟨answer, -, shown⟩ := List.mem_filterMap.1 inside
    exact Answer.address?_of_text? shown

/-- A text of lines that are no frames is read to its end, and nothing else is done. -/
theorem run_of_noise {σ : Type} [Writer σ] (resolver : Resolver) (configuration : Configuration)
    {writer after : σ} (flushed : Writer.flush writer = (.ok (), after)) {texts : List Text}
    (noise : ∀ text ∈ texts, '\n' ∉ text ∧ Frame.address? text = none) {input : List ReadEvent}
    (delivered : Trace.Delivers input (Utf8.encode (texts.flatMap (· ++ ['\n'])))) :
    let run := run resolver configuration writer input
    run.activity.requests = [] ∧ run.activity.output = [] ∧ run.activity.invocations = [] ∧
      run.result = .ok (.ofLines texts.length) := by
  intro run
  have lines : Text.lines (texts.flatMap (· ++ ['\n'])) = texts.map Text.dropReturn := by
    simpa using Text.lines_flatMap_append (fun text inside => (noise text inside).1) []
  have frames : Frame.addresses (texts.flatMap (· ++ ['\n'])) = [] := by
    rw [Frame.addresses, lines, List.filterMap_eq_nil_iff]
    intro line inside
    obtain ⟨text, found, rfl⟩ := List.mem_map.1 inside
    rw [Frame.address?_dropReturn, (noise text found).2]
  have shown : run.exchanged = finish writer texts.length := by
    have told : run.exchanged = _ := exchanged_run_of_delivers writer delivered
    rw [Utf8.decodeLossy_encode, frames, lines, List.length_map] at told
    exact told
  have requests : run.activity.requests = [] :=
    congrArg (fun run => run.activity.requests) shown
  have started : run.activity.invocations = invocationsOf resolver 0 run.activity.requests :=
    invocations_run writer input
  refine ⟨requests, congrArg (fun run => run.activity.output) shown, ?_, ?_⟩
  · rw [started, requests]
    rfl
  · refine (congrArg Run.result shown).trans ?_
    rw [finish, flushed]
    rfl

end Decoding
end Backtrace
