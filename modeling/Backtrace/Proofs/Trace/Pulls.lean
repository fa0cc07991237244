import Backtrace.Proofs.Trace.Frames

/-!
# Pulling any number of times

A stream may be pulled on after it has brought nothing or a fault. What one pull can do is said
once, case by case; what any number of pulls does follows by induction. The count of lines never
falls, a frame has the count as its number, and a stream that has ended brings nothing more and
leaves the rest of its input where it is.
-/

namespace Backtrace.FrameStream

/-- What a pull from a stream can bring and what stream it can leave. -/
inductive Advances (before : FrameStream) : Pull → Prop where
  /-- A stream that has ended stays as it is. -/
  | spent (ended : before.finished = true) : Advances before ⟨none, before, []⟩
  /-- Lines are read up to a frame, which has the number of the last of them. -/
  | frame {number : Nat} (later : before.linesRead < number) (address : Address)
      (rest : List ReadEvent) (line : Bytes) (records : List Record) :
      Advances before ⟨some (.frame number address), ⟨rest, number, false, line⟩, records⟩
  /-- Lines are read up to a fault, which ends the stream. -/
  | fault {count : Nat} (counted : before.linesRead ≤ count) (reason : FinalFault)
      (rest : List ReadEvent) (part : Bytes) (records : List Record) :
      Advances before ⟨some (.fault reason), ⟨rest, count, true, part⟩, records⟩
  /-- Lines are read up to the end of the input. -/
  | nothing {count : Nat} (counted : before.linesRead ≤ count) (rest : List ReadEvent)
      (records : List Record) : Advances before ⟨none, ⟨rest, count, true, []⟩, records⟩

namespace Advances

variable {before earlier : FrameStream} {pull : Pull}

/-- What a stream that goes on can do, a stream with no more lines read can do by reading up to
it; the records of the lines between come first. -/
theorem of_running (advanced : Advances before pull) (running : before.finished = false)
    (counted : earlier.linesRead ≤ before.linesRead) (records : List Record) :
    Advances earlier ⟨pull.item, pull.stream, records⟩ := by
  cases advanced with
  | spent ended =>
    rw [running] at ended
    contradiction
  | frame later address rest line =>
    exact .frame (Nat.lt_of_le_of_lt counted later) address rest line records
  | fault further reason rest part =>
    exact .fault (Nat.le_trans counted further) reason rest part records
  | nothing further rest => exact .nothing (Nat.le_trans counted further) rest records

/-- The count of lines does not fall. -/
theorem linesRead_le (advanced : Advances before pull) :
    before.linesRead ≤ pull.stream.linesRead := by
  cases advanced with
  | spent => exact Nat.le_refl _
  | frame later => exact Nat.le_of_lt later
  | fault counted => exact counted
  | nothing counted => exact counted

/-- A frame has the count after the pull as its number, and the count before was less. -/
theorem number_eq (advanced : Advances before pull) {number : Nat} {address : Address}
    (brought : pull.item = some (.frame number address)) :
    before.linesRead < number ∧ number = pull.stream.linesRead := by
  cases advanced with
  | frame later =>
    cases brought
    exact ⟨later, rfl⟩
  | _ => cases brought

/-- A pull that brings a fault or nothing leaves a stream that has ended. -/
theorem finished (advanced : Advances before pull)
    (ended : pull.item = none ∨ ∃ reason, pull.item = some (.fault reason)) :
    pull.stream.finished = true := by
  cases advanced with
  | spent still => exact still
  | frame => simp at ended
  | fault => rfl
  | nothing => rfl

end Advances

/-- Every pull does one of these. -/
theorem advances_next (stream : FrameStream) : Advances stream stream.next := by
  obtain ⟨input, count, finished, held⟩ := stream
  cases finished with
  | true =>
    rw [next_of_finished rfl]
    exact .spent rfl
  | false =>
    induction input, count, held using pull_induction with
    | finished input count held rest pulled =>
      rw [pulled]
      exact .nothing (Nat.le_refl count) rest []
    | failed input count held part reason rest pulled =>
      rw [pulled]
      exact .fault (Nat.le_refl count) reason rest part []
    | interrupted input count held part rest pulled _ ih =>
      rw [pulled]
      exact ih.of_running rfl (Nat.le_refl count) _
    | noise input count held line rest _ pulled _ ih =>
      rw [pulled]
      exact ih.of_running rfl (Nat.le_succ count) _
    | frame input count held line rest address _ pulled =>
      rw [pulled]
      exact .frame (Nat.lt_succ_self count) address rest line []

/-- The stream after a number of pulls. -/
def pulled (stream : FrameStream) : Nat → FrameStream
  | 0 => stream
  | count + 1 => stream.next.stream.pulled count

/-- Pulls may be made in two rounds. -/
theorem pulled_add (stream : FrameStream) (first second : Nat) :
    stream.pulled (first + second) = (stream.pulled first).pulled second := by
  induction first generalizing stream with
  | zero => rw [Nat.zero_add, pulled]
  | succ first ih =>
    rw [Nat.succ_add, pulled, pulled]
    exact ih stream.next.stream

/-- The last pull of several is made from the stream that the others leave. -/
theorem pulled_succ (stream : FrameStream) (count : Nat) :
    stream.pulled (count + 1) = (stream.pulled count).next.stream :=
  stream.pulled_add count 1

/-- There are as many pulls as asked for. -/
theorem length_pulls (stream : FrameStream) (count : Nat) :
    (stream.pulls count).length = count := by
  induction count generalizing stream with
  | zero => rfl
  | succ count ih =>
    rw [pulls, List.length_cons]
    exact congrArg (· + 1) (ih stream.next.stream)

/-- Each pull is the one from the stream that the pulls before it leave. -/
theorem getElem?_pulls {stream : FrameStream} {count index : Nat} (short : index < count) :
    (stream.pulls count)[index]? = some (stream.pulled index).next := by
  induction count generalizing stream index with
  | zero => contradiction
  | succ count ih =>
    rw [pulls]
    cases index with
    | zero => rfl
    | succ index =>
      rw [List.getElem?_cons_succ, pulled]
      exact ih (Nat.lt_of_succ_lt_succ short)

/-- No other pull is found. -/
theorem eq_of_getElem?_pulls {stream : FrameStream} {count index : Nat} {pull : Pull}
    (found : (stream.pulls count)[index]? = some pull) : pull = (stream.pulled index).next := by
  obtain ⟨short, -⟩ := List.getElem?_eq_some_iff.1 found
  rw [length_pulls] at short
  rw [getElem?_pulls short] at found
  exact (Option.some.inj found).symm

/-- However often a stream that has ended is pulled, it stays as it is. -/
theorem pulled_of_finished {stream : FrameStream} (finished : stream.finished = true)
    (count : Nat) : stream.pulled count = stream := by
  induction count with
  | zero => rfl
  | succ count ih => rw [pulled_succ, ih, next_of_finished finished]

/-- However often a stream that has ended is pulled, it brings nothing. -/
theorem filterMap_item_of_finished {stream : FrameStream} (finished : stream.finished = true)
    (count : Nat) : (stream.pulls count).filterMap Pull.item = [] := by
  have silent : ∀ pull ∈ stream.pulls count, pull.item = none := by
    intro pull inside
    obtain ⟨index, found⟩ := List.getElem?_of_mem inside
    have next : pull = (stream.pulled index).next := eq_of_getElem?_pulls found
    rw [next, pulled_of_finished finished, next_of_finished finished]
  exact List.filterMap_eq_nil_iff.2 silent

/-- Every pull after one that brings a fault or nothing brings nothing, reads nothing and records
nothing. -/
theorem next_pulled_of_ended {stream : FrameStream} {index later : Nat} (after : index < later)
    (ended : (stream.pulled index).next.item = none ∨
      ∃ reason, (stream.pulled index).next.item = some (.fault reason)) :
    (stream.pulled later).next = ⟨none, (stream.pulled index).next.stream, []⟩ := by
  have finished : (stream.pulled index).next.stream.finished = true :=
    (advances_next _).finished ended
  have further : later = index + 1 + (later - (index + 1)) := by omega
  have still : stream.pulled later = (stream.pulled index).next.stream := by
    rw [further, pulled_add, pulled_succ, pulled_of_finished finished]
  rw [still, next_of_finished finished]

/-- However often a stream is pulled, the count of lines does not fall. -/
theorem linesRead_le_pulled (stream : FrameStream) (count : Nat) :
    stream.linesRead ≤ (stream.pulled count).linesRead := by
  induction count with
  | zero => exact Nat.le_refl _
  | succ count ih =>
    rw [pulled_succ]
    exact Nat.le_trans ih (advances_next _).linesRead_le

/-- The numbers of the frames that pulls bring, in order. -/
def frameNumbers (pulls : List Pull) : List Nat :=
  (pulls.filterMap Pull.item).filterMap fun item => item.frame?.map Prod.fst

/-- The faults that pulls bring, in order. -/
def faults (pulls : List Pull) : List FinalFault :=
  (pulls.filterMap Pull.item).filterMap TraceItem.fault?

/-- A frame has a higher number than the lines read before. -/
theorem lt_of_mem_frameNumbers {stream : FrameStream} {count number : Nat}
    (inside : number ∈ frameNumbers (stream.pulls count)) : stream.linesRead < number := by
  obtain ⟨item, brought, numbered⟩ := List.mem_filterMap.1 inside
  obtain ⟨pull, pulled, same⟩ := List.mem_filterMap.1 brought
  obtain ⟨index, found⟩ := List.getElem?_of_mem pulled
  have next : pull = (stream.pulled index).next := eq_of_getElem?_pulls found
  cases item with
  | fault reason => simp [TraceItem.frame?] at numbered
  | frame place address =>
    have framed : (stream.pulled index).next.item = some (.frame number address) := by
      obtain rfl : place = number := Option.some.inj numbered
      rw [← next, same]
    exact Nat.lt_of_le_of_lt (stream.linesRead_le_pulled index)
      ((advances_next _).number_eq framed).1

/-- The numbers of frames increase strictly. -/
theorem pairwise_frameNumbers (stream : FrameStream) (count : Nat) :
    (frameNumbers (stream.pulls count)).Pairwise (· < ·) := by
  induction count generalizing stream with
  | zero => exact .nil
  | succ count ih =>
    have later : (frameNumbers (stream.next.stream.pulls count)).Pairwise (· < ·) :=
      ih stream.next.stream
    cases brought : stream.next.item with
    | none => simpa [frameNumbers, pulls, brought] using later
    | some item =>
      cases item with
      | fault reason => simpa [frameNumbers, pulls, brought, TraceItem.frame?] using later
      | frame number address =>
        have first : frameNumbers (stream.pulls (count + 1)) =
            number :: frameNumbers (stream.next.stream.pulls count) := by
          simp [frameNumbers, pulls, brought, TraceItem.frame?]
        have reached : number = stream.next.stream.linesRead :=
          (stream.advances_next.number_eq brought).2
        rw [first]
        apply List.Pairwise.cons _ later
        intro other inside
        rw [reached]
        exact lt_of_mem_frameNumbers inside

/-- At most one pull brings a fault. -/
theorem length_faults_le_one (stream : FrameStream) (count : Nat) :
    (faults (stream.pulls count)).length ≤ 1 := by
  induction count generalizing stream with
  | zero => exact Nat.zero_le 1
  | succ count ih =>
    have later : (faults (stream.next.stream.pulls count)).length ≤ 1 := ih stream.next.stream
    cases brought : stream.next.item with
    | none => simpa [faults, pulls, brought] using later
    | some item =>
      cases item with
      | frame number address =>
        simpa [faults, pulls, brought, List.filterMap_cons, TraceItem.fault?] using later
      | fault reason =>
        have finished : stream.next.stream.finished = true :=
          stream.advances_next.finished (.inr ⟨reason, brought⟩)
        have silent : (stream.next.stream.pulls count).filterMap Pull.item = [] :=
          filterMap_item_of_finished finished count
        simp [faults, pulls, brought, silent, TraceItem.fault?]

/-- However often a stream is pulled, the count of lines does not fall, the frames have increasing
numbers, and one pull at most brings a fault. After a fault or the end every pull brings nothing
and leaves the stream as it is. -/
theorem pulls_sound (input : List ReadEvent) (count : Nat) :
    let stream := ofInput input
    let pulls := stream.pulls count
    pulls.length = count ∧
      (∀ index pull, pulls[index]? = some pull →
        let before := stream.pulled index
        before.linesRead ≤ pull.stream.linesRead ∧ pull.stream = stream.pulled (index + 1) ∧
          (∀ number address, pull.item = some (.frame number address) →
            number = pull.stream.linesRead ∧ before.linesRead < number) ∧
          ((pull.item = none ∨ ∃ reason, pull.item = some (.fault reason)) →
            ∀ later other, index < later → pulls[later]? = some other →
              other = ⟨none, pull.stream, []⟩)) ∧
      (frameNumbers pulls).Pairwise (· < ·) ∧ (faults pulls).length ≤ 1 := by
  intro stream pulls
  have each : ∀ index pull, pulls[index]? = some pull → pull = (stream.pulled index).next :=
    fun index pull found => eq_of_getElem?_pulls found
  refine ⟨length_pulls stream count, ?_, pairwise_frameNumbers stream count,
    length_faults_le_one stream count⟩
  intro index pull found before
  obtain rfl : pull = before.next := each index pull found
  have advanced : Advances before before.next := advances_next before
  refine ⟨advanced.linesRead_le, (stream.pulled_succ index).symm, ?_, ?_⟩
  · intro number address brought
    exact (advanced.number_eq brought).symm
  · intro ended later other after met
    rw [each later other met]
    exact next_pulled_of_ended after ended

/-- A frame, noise, an interrupted line, a frame that a pause ends, and a fault inside a line with
more bytes and another fault after it. Of five pulls the third brings the first fault, and the
last finds the rest of the input as the third left it. -/
theorem pulls_sound_after_fault :
    let slow : FinalFault := ⟨.ofSystem "TimedOut" "slow", rfl⟩
    let gone : FinalFault := ⟨.ofSystem "Other" "gone", rfl⟩
    let rest : List ReadEvent := [.bytes (Utf8.encode "3\n".toList), .pause, .fault gone]
    let broken : List ReadEvent := .bytes (Utf8.encode " 0x".toList) :: .fault slow :: rest
    let input : List ReadEvent := .bytes (Utf8.encode " 0x1\nnoise\n 0".toList) :: .abandon ::
      .bytes (Utf8.encode " 0x2".toList) :: .pause :: broken
    let line : Bytes := Utf8.encode " 0x2".toList
    let part : Bytes := Utf8.encode " 0x".toList
    let stream := ofInput input
    let pulls := stream.pulls 5
    pulls[1]? = some ⟨some (.frame 3 ⟨['0', 'x', '2'], rfl⟩), ⟨broken, 3, false, line⟩,
        [.skippedLine 2 "noise".toList]⟩ ∧
      (stream.pulled 1).linesRead < 3 ∧
      pulls[2]? = some ⟨some (.fault slow), ⟨rest, 3, true, part⟩, []⟩ ∧
      pulls[4]? = some ⟨none, ⟨rest, 3, true, part⟩, []⟩ ∧
      (frameNumbers pulls).Pairwise (· < ·) ∧ (faults pulls).length ≤ 1 := by
  intro slow gone rest broken input line part stream pulls
  let second : List ReadEvent := .bytes (Utf8.encode " 0x2".toList) :: .pause :: broken
  let lost : List ReadEvent := .bytes (Utf8.encode " 0".toList) :: .abandon :: second
  let noise : List ReadEvent := .bytes (Utf8.encode "noise\n 0".toList) :: .abandon :: second
  have begun : stream.pulled 1 = ⟨noise, 1, false, Utf8.encode " 0x1\n".toList⟩ := by
    change (FrameStream.mk input 0 false []).next.stream = _
    rw [next_eq_of_readLine]
    rfl
  have skipped (held : Bytes) : (FrameStream.mk noise 1 false held).next =
      (FrameStream.mk lost 2 false (Utf8.encode "noise\n".toList)).next.after
        (.skippedLine 2 "noise".toList) := by
    rw [next_eq_of_readLine noise]
    rfl
  have dropped (held : Bytes) : (FrameStream.mk lost 2 false held).next =
      (FrameStream.mk second 2 false (Utf8.encode " 0".toList)).next := by
    rw [next_eq_of_readLine lost]
    rfl
  have found (held : Bytes) : (FrameStream.mk second 2 false held).next =
      ⟨some (.frame 3 ⟨['0', 'x', '2'], rfl⟩), ⟨broken, 3, false, line⟩, []⟩ := by
    rw [next_eq_of_readLine second]
    rfl
  have reached : (stream.pulled 1).next = ⟨some (.frame 3 ⟨['0', 'x', '2'], rfl⟩),
      ⟨broken, 3, false, line⟩, [.skippedLine 2 "noise".toList]⟩ := by
    rw [begun, skipped, dropped, found]
    rfl
  have third : (stream.pulled 2).next = ⟨some (.fault slow), ⟨rest, 3, true, part⟩, []⟩ := by
    rw [pulled_succ, reached, next_eq_of_readLine]
    rfl
  have framed : pulls[1]? = some (stream.pulled 1).next := getElem?_pulls (by decide)
  have stopped : pulls[2]? = some (stream.pulled 2).next := getElem?_pulls (by decide)
  have last : pulls[4]? = some (stream.pulled 4).next := getElem?_pulls (by decide)
  rw [reached] at framed
  rw [third] at stopped
  obtain ⟨-, sound, increasing, single⟩ := pulls_sound input 5
  obtain ⟨-, -, numbered, -⟩ := sound 1 _ framed
  obtain ⟨-, -, -, ended⟩ := sound 2 _ stopped
  have untouched : (stream.pulled 4).next = ⟨none, ⟨rest, 3, true, part⟩, []⟩ :=
    ended (.inr ⟨slow, rfl⟩) 4 _ (by decide) last
  rw [untouched] at last
  exact ⟨framed, (numbered 3 _ rfl).2, stopped, last, increasing, single⟩

end Backtrace.FrameStream
