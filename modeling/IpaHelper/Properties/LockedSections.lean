import IpaHelper.Processor.Operations

/-!
# The locked sections of `complete` and `receive_inputs`

Both operations hold the registry lock for one stretch, take the query's state out of the map,
and put a state back before they let the lock go.  Read over every map, every id and every
state at that id, the stretch is a transition on one entry: the expected state is replaced by
its successor, any other state goes back exactly as it was taken out, payload included, an
absent id stays absent, and no other id is touched.

The content is in `RunningQueries.remove_insert_self`: putting back what `remove` took out gives
the map it was taken from, under the map's own equality.  The `None` arm of `complete` never
reinserts, and is the identity because removing an absent key is
(`RunningQueries.remove_snd_of_none`).
-/

namespace IpaHelper

variable {Q : Type} [DecidableEq Q]

/-- `complete`'s locked stretch leaves every other id alone. -/
lemma completeLocked_inner_of_ne (queries : RunningQueries Q) {q q' : Q} (h : q' ≠ q) :
    (completeLocked queries q).1.inner q' = queries.inner q' := by
  rcases completeLocked_cases queries q with ⟨_, -, he⟩ | ⟨_, he⟩ <;> simp [he, h]

/-- `receive_inputs` leaves every id but its input's alone. -/
lemma receiveInputs_inner_of_ne (P : ProcessorEnv Q) (queries : RunningQueries Q)
    {input : QueryInput Q} {q' : Q} (h : q' ≠ input.queryId) :
    (receiveInputs P queries input).1.inner q' = queries.inner q' := by
  rcases receiveInputs_cases P queries input with ⟨_, _, -, he⟩ | ⟨_, he⟩ <;> simp [he, h]

/-- **The locked sections.**  Over every registry, id and input: `complete` moves a `Running`
query to `AwaitingCompletion` and hands out its handle, puts any other state back unchanged with
`InvalidState { from, to: Running }`, and reports an absent id as `NoSuchQuery`;
`receive_inputs` hands exactly the stored config and gateway to `start_query` and registers the
query as `Running` with the handle it returns, and otherwise fails with the map unchanged.
Neither touches another id. -/
theorem locked_sections_restore (P : ProcessorEnv Q) (queries : RunningQueries Q) (q : Q)
    (input : QueryInput Q) :
    (∀ handle, queries.inner q = some (.running handle) →
      completeLocked queries q = (queries.insert q .awaitingCompletion, .ok handle)) ∧
    (∀ state, queries.inner q = some state → (∀ handle, state ≠ .running handle) →
      completeLocked queries q =
        (queries, .error (.stateError (.invalidState state.status .running)))) ∧
    (queries.inner q = none → completeLocked queries q = (queries, .error (.noSuchQuery q))) ∧
    (∀ config gateway, queries.inner input.queryId = some (.awaitingInputs config gateway) →
      receiveInputs P queries input =
        (queries.insert input.queryId (.running (P.startQuery config gateway input.inputStream)),
          .ok ())) ∧
    (∀ state, queries.inner input.queryId = some state →
      (∀ config gateway, state ≠ .awaitingInputs config gateway) →
      receiveInputs P queries input =
        (queries, .error (.stateError (.invalidState state.status .running)))) ∧
    (queries.inner input.queryId = none →
      receiveInputs P queries input = (queries, .error (.noSuchQuery input.queryId))) ∧
    (∀ q', q' ≠ q → (completeLocked queries q).1.inner q' = queries.inner q') ∧
    (∀ q', q' ≠ input.queryId → (receiveInputs P queries input).1.inner q' = queries.inner q') :=
  ⟨fun _ => completeLocked_running, fun _ => completeLocked_not_running, completeLocked_none,
    fun _ _ => receiveInputs_awaitingInputs, fun _ => receiveInputs_not_awaitingInputs,
    receiveInputs_none, fun _ => completeLocked_inner_of_ne queries,
    fun _ => receiveInputs_inner_of_ne P queries⟩

end IpaHelper
