import Backtrace.Session

/-!
# What a session adds to its run

A session does what its run does: the same output, the same requests and the same programs run,
and the same writer left behind. Its result is that of the run, an error together with the
configuration that was used. It adds log records only.
-/

namespace Backtrace

/-- What is done, apart from what is logged. -/
def Activity.unlogged (activity : Activity) : Activity := { activity with records := [] }

/-- What is written does not depend on what is logged. -/
theorem Activity.output_unlogged (activity : Activity) :
    activity.unlogged.output = activity.output := rfl

/-- What is asked does not depend on what is logged. -/
theorem Activity.requests_unlogged (activity : Activity) :
    activity.unlogged.requests = activity.requests := rfl

/-- What is run does not depend on what is logged. -/
theorem Activity.invocations_unlogged (activity : Activity) :
    activity.unlogged.invocations = activity.invocations := rfl

/-- Logging before an activity changes only what is logged. -/
theorem Activity.unlogged_ofRecords_append (records : List Record) (activity : Activity) :
    (.ofRecords records ++ activity : Activity).unlogged = activity.unlogged := rfl

/-- Logging after an activity changes only what is logged. -/
theorem Activity.unlogged_append_ofRecords (activity : Activity) (records : List Record) :
    (activity ++ .ofRecords records : Activity).unlogged = activity.unlogged := by
  simp [unlogged, append_def, ofRecords, Activity.none]

namespace Session

variable {σ : Type} [Writer σ] (resolver : Resolver) (world : World)
  (configuration : Configuration) (writer : σ) (input : List ReadEvent)

/-- The result is that of the run, under the configuration. -/
theorem result_decodeWith : (decodeWith resolver world configuration writer input).result =
    (Decoding.run resolver configuration writer input).result.mapError
      (.decoding configuration) := by
  unfold decodeWith
  dsimp only
  split
  · rename_i failed
    rw [failed]
    rfl
  · rename_i ended
    rw [ended]
    rfl

/-- The output, the requests and the programs run are those of the run. -/
theorem unlogged_decodeWith :
    (decodeWith resolver world configuration writer input).activity.unlogged =
      (Decoding.run resolver configuration writer input).activity.unlogged := by
  unfold decodeWith
  dsimp only
  split
  · exact Activity.unlogged_ofRecords_append _ _
  · rw [Activity.unlogged_append_ofRecords, Activity.unlogged_ofRecords_append]

/-- The output is that of the run. -/
theorem output_decodeWith :
    (decodeWith resolver world configuration writer input).activity.output =
      (Decoding.run resolver configuration writer input).activity.output := by
  rw [← Activity.output_unlogged, unlogged_decodeWith, Activity.output_unlogged]

/-- The requests are those of the run. -/
theorem requests_decodeWith :
    (decodeWith resolver world configuration writer input).activity.requests =
      (Decoding.run resolver configuration writer input).activity.requests := by
  rw [← Activity.requests_unlogged, unlogged_decodeWith, Activity.requests_unlogged]

/-- The programs run are those of the run. -/
theorem invocations_decodeWith :
    (decodeWith resolver world configuration writer input).activity.invocations =
      (Decoding.run resolver configuration writer input).activity.invocations := by
  rw [← Activity.invocations_unlogged, unlogged_decodeWith, Activity.invocations_unlogged]

/-- The writer is left as the run leaves it. -/
theorem writer_decodeWith : (decodeWith resolver world configuration writer input).writer =
    (Decoding.run resolver configuration writer input).writer := by
  unfold decodeWith
  dsimp only
  split <;> rfl

variable {resolver world configuration writer input}

/-- A session whose run ends well has the counts of the run. -/
theorem result_decodeWith_of_ok {summary : Summary}
    (ended : (Decoding.run resolver configuration writer input).result = .ok summary) :
    (decodeWith resolver world configuration writer input).result = .ok summary := by
  rw [result_decodeWith, ended]
  rfl

/-- A session whose run fails reports the error under its configuration. -/
theorem result_decodeWith_of_error {error : DecodeError}
    (failed : (Decoding.run resolver configuration writer input).result = .error error) :
    (decodeWith resolver world configuration writer input).result =
      .error (.decoding configuration error) := by
  rw [result_decodeWith, failed]
  rfl

end Session
end Backtrace
