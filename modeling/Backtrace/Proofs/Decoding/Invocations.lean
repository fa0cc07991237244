import Backtrace.Proofs.Decoding.Answers

/-!
# The programs that a run starts

A run starts programs only to answer its requests: those of the replies, in the order of the
requests, each exactly as often as the reply says. This holds for every resolver and every writer,
and however the run ends.
-/

namespace Backtrace.Decoding

variable {σ : Type} [Writer σ] {resolver : Resolver} {configuration : Configuration} {asked : Nat}
  {address : Address}

/-- Handling a frame starts the programs of the reply to its one request. -/
theorem invocations_handle (writer : σ) (number : Nat) :
    (handle resolver configuration asked writer number address).activity.invocations =
      (resolver.answer asked (configuration.request address)).invocations := by
  unfold handle
  dsimp only
  split
  · rfl
  · exact List.append_nil _
  · rfl

variable (resolver) (asked) in
/-- The programs started by the replies to requests, after a number of earlier requests. -/
def invocationsOf (requests : List Request) : List Invocation :=
  (requests.zipIdx asked).flatMap fun (request, place) =>
    (resolver.answer place request).invocations

/-- The first request is answered first. -/
theorem invocationsOf_cons (request : Request) (requests : List Request) :
    invocationsOf resolver asked (request :: requests) =
      (resolver.answer asked request).invocations ++
        invocationsOf resolver (asked + 1) requests := by
  simp [invocationsOf]

/-- A run over lines starts the programs of the replies to its requests. -/
theorem invocations_overLines (fault : Option FinalFault) (writer : σ) (number : Nat)
    (lines : List Bytes) :
    let run := overLines resolver configuration fault asked writer number lines
    run.activity.invocations = invocationsOf resolver asked run.activity.requests := by
  induction lines generalizing asked writer number with
  | nil => cases fault <;> rfl
  | cons line later ih =>
    dsimp only
    cases found : Frame.address? (Utf8.decodeLossy line) with
    | none =>
      rw [overLines_cons_of_none found]
      exact ih writer (number + 1)
    | some address =>
      rw [overLines_cons_of_some found]
      cases handled : (handle resolver configuration asked writer (number + 1) address).outcome with
      | error error =>
        rw [Handling.proceed_of_error handled, requests_handle, invocations_handle,
          invocationsOf_cons]
        exact (List.append_nil _).symm
      | ok counts =>
        rw [Handling.proceed_of_ok handled, Run.requests_following, Run.invocations_following,
          requests_handle, invocations_handle, ih, List.singleton_append, invocationsOf_cons]

/-- A run starts the programs of the replies to its requests. -/
theorem invocations_run (writer : σ) (input : List ReadEvent) :
    let run := run resolver configuration writer input
    run.activity.invocations = invocationsOf resolver 0 run.activity.requests := by
  dsimp only
  rw [run_eq_overLines]
  exact invocations_overLines _ writer 0 _

end Backtrace.Decoding
