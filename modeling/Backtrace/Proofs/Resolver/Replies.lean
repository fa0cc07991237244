import Backtrace.Proofs.Text.Ascii
import Backtrace.Proofs.Text.Lines
import Backtrace.Proofs.Text.Trimming
import Backtrace.Resolver.External
import Backtrace.Trace.Input

/-!
# Replies by their bytes

A resolver program replies in bytes, which are decoded as a whole and then cut into lines. The
laws here cut first: the function is what the bytes before the first line feed decode to, and the
location what the bytes after it up to the next one do, however ill-formed they are. The main
statement gives the answer to a request and what is logged about it from the status and the bytes
of the program that was started, and says what of these has no influence on the answer.
-/

namespace Backtrace

namespace Resolver

open Utf8

/-- The bytes before the first line feed, or all bytes if there is none. -/
def firstLine (bytes : Bytes) : Bytes := bytes.takeWhile (· != lineFeed)

/-- The bytes after the first line feed; none if there is none. -/
def afterFirstLine (bytes : Bytes) : Bytes := (bytes.dropWhile (· != lineFeed)).tail

variable {line : Bytes}

/-- Bytes without a line feed go on to the end of their line. -/
theorem forall_ne_lineFeed (single : lineFeed ∉ line) :
    ∀ byte ∈ line, (byte != lineFeed) = true := by
  intro byte inside
  rw [bne_iff_ne]
  rintro rfl
  exact single inside

/-- The first line ends where the first line feed stands. -/
theorem firstLine_append (single : lineFeed ∉ line) (rest : Bytes) :
    firstLine (line ++ lineFeed :: rest) = line := by
  rw [firstLine, List.takeWhile_append_of_pos (forall_ne_lineFeed single),
    List.takeWhile_cons_of_neg (by simp), List.append_nil]

/-- What follows the first line starts after the first line feed. -/
theorem afterFirstLine_append (single : lineFeed ∉ line) (rest : Bytes) :
    afterFirstLine (line ++ lineFeed :: rest) = rest := by
  rw [afterFirstLine, List.dropWhile_append_of_pos (forall_ne_lineFeed single),
    List.dropWhile_cons_of_neg (by simp), List.tail_cons]

/-- Bytes without a line feed are one line. -/
theorem firstLine_of_single (single : lineFeed ∉ line) : firstLine line = line :=
  List.takeWhile_eq_self_iff.2 (forall_ne_lineFeed single)

/-- The first line holds no line feed. -/
theorem lineFeed_not_mem_firstLine (bytes : Bytes) : lineFeed ∉ firstLine bytes := by
  intro inside
  unfold firstLine at inside
  have kept := List.mem_takeWhile_imp inside
  simp at kept

/-- A line feed among the bytes is read as one, between what precedes and what follows it. -/
theorem decodeLossy_append_lineFeed (front rest : Bytes) :
    decodeLossy (front ++ lineFeed :: rest) = decodeLossy front ++ '\n' :: decodeLossy rest :=
  decodeLossy_append_ascii (by decide) front rest

/-- The first piece between line feeds of the decoded bytes is the decoded first line. -/
theorem head?_splitOn_decodeLossy (bytes : Bytes) :
    ((decodeLossy bytes).splitOn '\n').head? = some (decodeLossy (firstLine bytes)) := by
  by_cases ended : lineFeed ∈ bytes
  · obtain ⟨line, rest, rfl, single⟩ := List.eq_append_cons_of_mem ended
    rw [decodeLossy_append_lineFeed, firstLine_append single,
      List.splitOn_append_cons_self_of_not_mem (lineFeed_not_mem_decodeLossy single),
      List.head?_cons]
  · rw [firstLine_of_single ended,
      List.splitOn_eq_singleton (lineFeed_not_mem_decodeLossy ended), List.head?_cons]

/-- The symbol that decoded output names is that of the first two lines of its bytes. -/
theorem ofOutput?_decodeLossy (stdout : Bytes) :
    Symbol.ofOutput? (decodeLossy stdout) =
      if lineFeed ∈ stdout then
        some ⟨decodeLossy (firstLine stdout), decodeLossy (firstLine (afterFirstLine stdout))⟩
      else none := by
  by_cases ended : lineFeed ∈ stdout
  · obtain ⟨function, rest, rfl, single⟩ := List.eq_append_cons_of_mem ended
    rw [if_pos ended, decodeLossy_append_lineFeed,
      Symbol.ofOutput?_append (lineFeed_not_mem_decodeLossy single), head?_splitOn_decodeLossy,
      firstLine_append single, afterFirstLine_append single]
    rfl
  · rw [if_neg ended, Symbol.ofOutput?_of_single (lineFeed_not_mem_decodeLossy ended)]

/-- A carriage return at the end of a line is trimmed off with the blanks. -/
theorem trim_dropReturn (text : Text) : text.dropReturn.trim = text.trim :=
  Text.apply_dropReturn (Text.trim_append_allBlank (by decide)) text

/-- The complaint is the decoded first line of the error output without blanks around it. -/
theorem complaint_eq (stderr : Bytes) :
    complaint stderr = (decodeLossy (firstLine stderr)).trim := by
  unfold complaint
  by_cases ended : lineFeed ∈ stderr
  · obtain ⟨line, rest, rfl, single⟩ := List.eq_append_cons_of_mem ended
    rw [firstLine_append single, decodeLossy_append_lineFeed,
      Text.lines_append_lineFeed (lineFeed_not_mem_decodeLossy single), List.head?_cons,
      Option.getD_some, trim_dropReturn]
  · rw [firstLine_of_single ended]
    by_cases silent : decodeLossy stderr = []
    · rw [silent]
      rfl
    · rw [Text.lines_of_single silent (lineFeed_not_mem_decodeLossy ended), List.head?_cons,
        Option.getD_some]

variable {world : World} {asked : Nat} {request : Request} {address : Address}
  {completion : Completion}

/-- A program succeeds exactly when it ends itself with the code zero. -/
theorem isSuccess_iff {status : ExitStatus} : status.isSuccess = true ↔ status = .exited 0 := by
  rw [ExitStatus.isSuccess, beq_iff_eq]

/-- A program that succeeds and prints a line feed resolves the address, and nothing is logged. -/
theorem interpret_of_named (succeeded : completion.status = .exited 0)
    (ended : lineFeed ∈ completion.stdout) :
    interpret address completion = (.resolved ⟨decodeLossy (firstLine completion.stdout),
      decodeLossy (firstLine (afterFirstLine completion.stdout))⟩, []) := by
  have success := isSuccess_iff.2 succeeded
  simp only [interpret, success, if_true, ofOutput?_decodeLossy, if_pos ended]

/-- A program that succeeds without a line feed says too little. -/
theorem interpret_of_short (succeeded : completion.status = .exited 0)
    (single : lineFeed ∉ completion.stdout) :
    interpret address completion =
      (.unresolved, [.shortOutput address (decodeLossy completion.stdout)]) := by
  have success := isSuccess_iff.2 succeeded
  simp only [interpret, success, if_true, ofOutput?_decodeLossy, if_neg single]

/-- A program that does not succeed leaves the address unresolved, whatever it prints. -/
theorem interpret_of_failed (failed : completion.status ≠ .exited 0) :
    interpret address completion = (.unresolved, [.resolverFailed address completion.status
      (decodeLossy (firstLine completion.stderr)).trim]) := by
  have failure : ¬ completion.status.isSuccess = true := fun success =>
    failed (isSuccess_iff.1 success)
  rw [interpret, if_neg failure, complaint_eq]

/-- A request whose program starts is answered by what the program leaves behind. -/
theorem ask_of_started (launched : world.start asked (invocation request) = .ok completion) :
    ask world asked request = ⟨.ok (interpret request.address completion).1,
      (interpret request.address completion).2, [invocation request]⟩ := by
  rw [ask, launched]

/-- A request whose program does not start is refused, without any run and any record. -/
theorem ask_of_refused {fault : Fault}
    (refused : world.start asked (invocation request) = .error fault) :
    ask world asked request = ⟨.error ⟨request.resolver, fault⟩, [], []⟩ := by
  rw [ask, refused]

/-- The answer of a program that starts: what its first two lines say if it succeeds and ends the
first one, and otherwise that the address is unresolved. -/
theorem outcome_ask (launched : world.start asked (invocation request) = .ok completion) :
    (ask world asked request).outcome =
      .ok (if completion.status = .exited 0 ∧ lineFeed ∈ completion.stdout then
        .resolved ⟨decodeLossy (firstLine completion.stdout),
          decodeLossy (firstLine (afterFirstLine completion.stdout))⟩
      else .unresolved) := by
  rw [ask_of_started launched]
  by_cases succeeded : completion.status = .exited 0
  · by_cases ended : lineFeed ∈ completion.stdout
    · rw [interpret_of_named succeeded ended, if_pos ⟨succeeded, ended⟩]
    · rw [interpret_of_short succeeded ended, if_neg fun named => ended named.2]
  · rw [interpret_of_failed succeeded, if_neg fun named => succeeded named.1]

/-- The answer is a symbol exactly if the program succeeds and ends a line, and the symbol is that
of its first two lines. -/
theorem outcome_eq_resolved_iff
    (launched : world.start asked (invocation request) = .ok completion) {symbol : Symbol} :
    (ask world asked request).outcome = .ok (.resolved symbol) ↔
      (completion.status = .exited 0 ∧ lineFeed ∈ completion.stdout) ∧
        symbol.function = decodeLossy (firstLine completion.stdout) ∧
          symbol.location = decodeLossy (firstLine (afterFirstLine completion.stdout)) := by
  obtain ⟨function, location⟩ := symbol
  rw [outcome_ask launched]
  by_cases named : completion.status = .exited 0 ∧ lineFeed ∈ completion.stdout
  · rw [if_pos named]
    simp [named, eq_comm]
  · rw [if_neg named]
    simp [named]

/-- The address is unresolved exactly if the program does not succeed or ends no line. -/
theorem outcome_eq_unresolved_iff
    (launched : world.start asked (invocation request) = .ok completion) :
    (ask world asked request).outcome = .ok .unresolved ↔
      ¬ (completion.status = .exited 0 ∧ lineFeed ∈ completion.stdout) := by
  rw [outcome_ask launched]
  by_cases named : completion.status = .exited 0 ∧ lineFeed ∈ completion.stdout
  · rw [if_pos named]
    simp [named]
  · rw [if_neg named]
    simp [named]

/-- A known place has no line feed in it, and nothing is logged about it. -/
theorem quiet_of_resolved (launched : world.start asked (invocation request) = .ok completion)
    {symbol : Symbol} (known : (ask world asked request).outcome = .ok (.resolved symbol)) :
    '\n' ∉ symbol.function ∧ '\n' ∉ symbol.location ∧ (ask world asked request).records = [] := by
  obtain ⟨⟨succeeded, ended⟩, function, location⟩ := (outcome_eq_resolved_iff launched).1 known
  have single : ∀ bytes, '\n' ∉ decodeLossy (firstLine bytes) :=
    fun bytes => lineFeed_not_mem_decodeLossy (lineFeed_not_mem_firstLine bytes)
  refine ⟨function ▸ single _, location ▸ single _, ?_⟩
  rw [ask_of_started launched, interpret_of_named succeeded ended]

/-- An unresolved address is logged once, with the output of a program that succeeded or with the
status and the complaint of one that did not. -/
theorem exists_record_of_unresolved
    (launched : world.start asked (invocation request) = .ok completion)
    (unknown : (ask world asked request).outcome = .ok .unresolved) :
    ∃ record, (ask world asked request).records = [record] ∧ record.level = .debug ∧
      (completion.status = .exited 0 → record.message = request.address.spelling ++
        " unresolved: short resolver output ".toList ++ (decodeLossy completion.stdout).quoted) ∧
      (completion.status ≠ .exited 0 → record.message = request.address.spelling ++
        " unresolved (".toList ++ completion.status.describe ++ "): ".toList ++
          (decodeLossy (firstLine completion.stderr)).trim) := by
  rw [ask_of_started launched]
  by_cases succeeded : completion.status = .exited 0
  · have short : lineFeed ∉ completion.stdout :=
      fun ended => (outcome_eq_unresolved_iff launched).1 unknown ⟨succeeded, ended⟩
    rw [interpret_of_short succeeded short]
    exact ⟨_, rfl, rfl, fun _ => rfl, fun failed => absurd succeeded failed⟩
  · rw [interpret_of_failed succeeded]
    exact ⟨_, rfl, rfl, fun success => absurd success succeeded, fun _ => rfl⟩

/-- Programs with the same success, and with the same output if they succeed, give the same
answer. -/
theorem outcome_congr {other : World} {later : Nat} {again : Completion}
    (launched : world.start asked (invocation request) = .ok completion)
    (relaunched : other.start later (invocation request) = .ok again)
    (alike : again.status = .exited 0 ↔ completion.status = .exited 0)
    (same : completion.status = .exited 0 → again.stdout = completion.stdout) :
    (ask other later request).outcome = (ask world asked request).outcome := by
  rw [outcome_ask launched, outcome_ask relaunched]
  by_cases succeeded : completion.status = .exited 0
  · rw [same succeeded, alike.2 succeeded, succeeded]
  · have failed : again.status ≠ .exited 0 := fun success => succeeded (alike.1 success)
    rw [if_neg fun answers => failed answers.1, if_neg fun answers => succeeded answers.1]

/-- A program that starts is understood by the bytes that it leaves behind: the address is resolved
exactly if the program exits with zero and prints a line feed, by the first two lines of its
output, and otherwise it is unresolved with one record. Nothing else has influence on the answer. -/
theorem ask_by_bytes {world : World} {asked : Nat} {request : Request}
    (launched : world.start asked (invocation request) = .ok completion) :
    let reply := ask world asked request
    let named := completion.status = .exited 0 ∧ lineFeed ∈ completion.stdout
    (∀ symbol, reply.outcome = .ok (.resolved symbol) ↔
        named ∧ symbol.function = decodeLossy (firstLine completion.stdout) ∧
          symbol.location = decodeLossy (firstLine (afterFirstLine completion.stdout))) ∧
      (reply.outcome = .ok .unresolved ↔ ¬ named) ∧
      (∀ symbol, reply.outcome = .ok (.resolved symbol) →
        '\n' ∉ symbol.function ∧ '\n' ∉ symbol.location ∧ reply.records = []) ∧
      (reply.outcome = .ok .unresolved → ∃ record, reply.records = [record] ∧
        record.level = .debug ∧
        (completion.status = .exited 0 → record.message = request.address.spelling ++
          " unresolved: short resolver output ".toList ++ (decodeLossy completion.stdout).quoted) ∧
        (completion.status ≠ .exited 0 → record.message = request.address.spelling ++
          " unresolved (".toList ++ completion.status.describe ++ "): ".toList ++
            (decodeLossy (firstLine completion.stderr)).trim)) ∧
      ∀ (other : World) (later : Nat) (again : Completion),
        other.start later (invocation request) = .ok again →
        (again.status = .exited 0 ↔ completion.status = .exited 0) →
        (completion.status = .exited 0 → again.stdout = completion.stdout) →
        (ask other later request).outcome = reply.outcome := by
  intro reply named
  refine ⟨fun symbol => outcome_eq_resolved_iff launched, outcome_eq_unresolved_iff launched,
    fun symbol => quiet_of_resolved launched, exists_record_of_unresolved launched, ?_⟩
  intro other later again relaunched alike same
  exact outcome_congr launched relaunched alike same

/-- A cut sequence right before a line feed and a carriage return before the next one, once with
and once without complaints, and the same output of a program that crashes. -/
theorem ask_by_bytes_ill_formed :
    let stdout : Bytes := [0xE2, 0x82, 0x0A, 0x3F, 0x3F, 0x0D, 0x0A, 0xFF]
    let stderr : Bytes := [0x20, 0xFF, 0x0D, 0x0A, 0x21]
    let quiet : Completion := ⟨.exited 0, stdout, []⟩
    let noisy : Completion := ⟨.exited 0, stdout, stderr⟩
    let crashing : Completion := ⟨.signalled 11 true, stdout, stderr⟩
    let world : World := ⟨.ok (.ofText "/work".toList), fun _ => .error .missing, fun _ => false,
      fun _ => none,
      fun asked _ => if asked = 0 then quiet else if asked = 1 then noisy else crashing⟩
    let request : Request :=
      ⟨.ofText "kboot.elf".toList, .ofText "addr2line".toList, ⟨['0', 'x', '1'], rfl⟩⟩
    world.start 0 (invocation request) = .ok quiet ∧
      world.start 1 (invocation request) = .ok noisy ∧
      world.start 2 (invocation request) = .ok crashing ∧
      (ask world 0 request).outcome = .ok (.resolved ⟨['\uFFFD'], ['?', '?', '\r']⟩) ∧
      (ask world 1 request).outcome = (ask world 0 request).outcome ∧
      (ask world 2 request).outcome = .ok .unresolved ∧
      ∃ record, (ask world 2 request).records = [record] ∧
        record.message = "0x1 unresolved (signal: 11 (SIGSEGV) (core dumped)): \uFFFD".toList := by
  intro stdout stderr quiet noisy crashing world request
  have first : world.start 0 (invocation request) = .ok quiet := by decide +kernel
  have second : world.start 1 (invocation request) = .ok noisy := by decide +kernel
  have third : world.start 2 (invocation request) = .ok crashing := by decide +kernel
  obtain ⟨resolved, -, -, -, alike⟩ := ask_by_bytes first
  obtain ⟨-, unresolved, -, told, -⟩ := ask_by_bytes third
  have unknown := unresolved.2 (by decide)
  obtain ⟨record, records, -, -, message⟩ := told unknown
  refine ⟨first, second, third, (resolved _).2 ⟨by decide, by decide +kernel, by decide +kernel⟩,
    alike world 1 noisy second Iff.rfl fun _ => rfl, unknown, record, records, ?_⟩
  exact (message (by decide)).trans (by decide +kernel)

end Resolver
end Backtrace
