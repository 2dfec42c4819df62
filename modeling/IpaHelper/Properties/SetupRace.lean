import IpaHelper.Properties.Lifecycle

/-!
# Setting a query up: `new_query` against `prepare`

Two calls register a query: the coordinator's `new_query` and the follower's `prepare`.  Both
end with `set_state(AwaitingInputs)`, and that write succeeds only from `Empty` or `Preparing`.
Since the registry only moves forward (`Properties/Lifecycle.lean`), once one of them has
written `AwaitingInputs` no later one can: over every run from a fresh processor, at most one
setup call per id returns `Ok` (`setup_ok_at_most_once`), whatever else runs in between.
And a `new_query` hands its `PrepareQuery` to the transport only in the stretch whose
`set_state(Preparing)` found the id absent and created the entry (`step_sent_creates_entry`).

`prepare` does not keep the same discipline.  It checks `status().is_some()`, suspends at the
gateway's construction, and only then calls `set_state`; the lifecycle graph lets that write
succeed from `Preparing`.  A `new_query` that registers the id inside the window is overwritten:
`prepare` returns `Ok` although its only write found the entry `new_query` had created and
announced to both peers (`prepare_overwrites_new_query`).
-/

namespace IpaHelper

variable {Q : Type} [DecidableEq Q] {P : ProcessorEnv Q} {queries : RunningQueries Q}

/-! ## What each stretch can return -/

/-- **Returning `Ok` from a setup call** is the stretch whose `set_state(AwaitingInputs)` took
the id from `Empty` or `Preparing`. -/
lemma Call.resume_setupOk {c : Call Q} {sent : Except IoError Unit} {seg : Segment Q} {q : Q}
    (h : c.resume P queries sent = some seg) (hok : seg.call.setupOk q) :
    (queries.lifecycle q).rank ≤ 1 ∧ seg.queries.lifecycle q = .awaitingInputs := by
  cases Call.resume_stretch h with
  | newQueryOk _ hs | prepareOk hs =>
    simp only [Call.setupOk, decide_eq_true_eq] at hok
    subst hok
    exact P.setState.awaitingInputs_ok hs
  | _ => simp [Call.setupOk] at hok

/-! ## Only the creator of an entry announces it -/

/-- Only the first stretch of `new_query` hands anything to the transport: the one whose
`set_state(Preparing)` found the id absent and created the entry.  It hands the request it builds
to `left`, and to `right` as well unless the left send failed at once. -/
lemma Call.resume_sent {c : Call Q} {sent : Except IoError Unit} {seg : Segment Q}
    (h : c.resume P queries sent = some seg) (hs : seg.sent ≠ []) :
    ∃ req transport request, c = .invoked (.newQuery req transport) ∧
      queries.inner P.queryId = none ∧ seg.queries = queries.insert P.queryId (.preparing req) ∧
      (∃ roles, RoleAssignment.tryFrom [(transport, .H1), (transport.others.1, .H2),
        (transport.others.2, .H3)] = some roles ∧ request = ⟨P.queryId, req, roles⟩) ∧
      (seg.call = .newQuerySending req request transport ∧
          seg.sent = [(transport.others.2, request), (transport.others.1, request)] ∨
        ∃ e, seg.call = .newQueryFailed req transport e ∧
          seg.sent = [(transport.others.2, request)]) := by
  cases Call.resume_stretch h with
  | newQuerySends hq hroles _ =>
    obtain ⟨hn, he⟩ := P.setState.preparing_ok hq
    exact ⟨_, _, _, rfl, hn, he, ⟨_, hroles, rfl⟩, .inl ⟨rfl, rfl⟩⟩
  | newQueryLeftFailed hq hroles _ =>
    obtain ⟨hn, he⟩ := P.setState.preparing_ok hq
    exact ⟨_, _, _, rfl, hn, he, ⟨_, hroles, rfl⟩, .inr ⟨_, rfl, rfl⟩⟩
  | _ => exact absurd rfl hs

/-- **Announcing a query** is the first stretch of a `new_query`, whose `set_state(Preparing)`
found the id absent and created the entry. -/
theorem step_sent_creates_entry {w w' : World Q} {a : Action Q} (h : w.step P a = some w')
    (hs : w'.sent ≠ w.sent) :
    ∃ i sent req transport, a = .poll i sent ∧
      w.calls[i]? = some (.invoked (.newQuery req transport)) ∧
      w.queries.inner P.queryId = none ∧
      w'.queries = w.queries.insert P.queryId (.preparing req) := by
  rcases World.step_shared_cases h with ⟨-, he⟩ | ⟨i, c, sent, seg, rfl, hc, hr, hq, -, he⟩
  · exact absurd he hs
  · have hne : seg.sent ≠ [] := fun hn => hs (by simp [he, hn])
    obtain ⟨req, transport, -, rfl, hn, hq', -, -⟩ := Call.resume_sent hr hne
    exact ⟨i, sent, req, transport, rfl, hc, hn, hq.trans hq'⟩

/-- A coordinator's first poll of `new_query` announces the query it has just created. -/
theorem new_query_announces_created_entry :
    ∃ w w' : World Unit,
      World.init.step (.singleton .one) (.invoke (.newQuery ⟨.fp31, .testMultiply⟩ .one)) =
        some w ∧ w.step (.singleton .one) (.poll 0 (.ok ())) = some w' ∧
      ∃ i sent req transport, (.poll 0 (.ok ()) : Action Unit) = .poll i sent ∧
        w.calls[i]? = some (.invoked (.newQuery req transport)) ∧
        w.queries.inner () = none ∧ w'.queries = w.queries.insert () (.preparing req) :=
  ⟨_, _, rfl, rfl, step_sent_creates_entry rfl (List.cons_ne_nil _ _)⟩

/-! ## The window between `prepare`'s check and its write -/

/-- Helper `TWO` on the sources' singleton id, with the spec's `set_state`. -/
def raceEnv : ProcessorEnv Unit := .singleton .two

/-- Coordinator `ONE`'s request, naming `TWO` as `H2`. -/
def raceRequest : PrepareQuery Unit :=
  ⟨(), ⟨.fp31, .testMultiply⟩, RoleAssignment.ofDistinct .one .two .three (by decide)⟩

/-- `prepare(raceRequest)` passes its check and suspends at the gateway; a `new_query` of `TWO`
then registers the id and sends its own request to both peers. -/
def raceWindow : List (Action Unit) :=
  [.invoke (.prepare raceRequest), .poll 0 (.ok ()),
    .invoke (.newQuery ⟨.fp32BitPrime, .testMultiply⟩ .two), .poll 1 (.ok ())]

/-- **`prepare` overwrites a `new_query`.**  After the window, the id holds the `Preparing`
entry `new_query` created and both peers have been sent its request; `prepare` then resumes,
its `set_state` succeeds from `Preparing`, and it returns `Ok` with its own config and gateway in
the registry; `new_query`, resumed after its sends succeed, fails with `InvalidState`. -/
theorem prepare_overwrites_new_query :
    ∃ w w' w'', World.init.run raceEnv raceWindow = some w ∧
      w.queries.inner () = some (.preparing ⟨.fp32BitPrime, .testMultiply⟩) ∧
      w.sent.length = 2 ∧
      w.step raceEnv (.poll 0 (.ok ())) = some w' ∧
      w'.calls[0]? = some (.returned (.prepare raceRequest) (.prepare (.ok ()))) ∧
      w'.queries.inner () = some (.awaitingInputs raceRequest.config ⟨(), raceRequest.roles, .two⟩) ∧
      w'.step raceEnv (.poll 1 (.ok ())) = some w'' ∧
      w''.calls[1]? = some (.returned (.newQuery ⟨.fp32BitPrime, .testMultiply⟩ .two)
        (.newQuery (.error (.state (.invalidState .awaitingInputs .awaitingInputs))))) :=
  ⟨_, _, _, rfl, rfl, rfl, rfl, rfl, rfl, rfl, rfl⟩

/-! ## At most one setup call returns `Ok` -/

/-- Returning `Ok` from a setup call is a move to `AwaitingInputs`, rank 2. -/
lemma setupOk_movesOnce (P : ProcessorEnv Q) (q : Q) : MovesOnce P q (·.setupOk q) 2 where
  invoked := Call.setupOk_invoked q
  dropped := Call.setupOk_dropped q
  resume hr _ hok := by
    obtain ⟨hle, hnew⟩ := Call.resume_setupOk hr hok
    exact ⟨by omega, by rw [hnew]; decide⟩

/-- **At most one setup call returns `Ok`.**  Over every run from a fresh processor, with any
calls interleaved and any of them dropped, at most one `new_query` or `prepare` call returns
`Ok` for each query id. -/
theorem setup_ok_at_most_once (P : ProcessorEnv Q) (as : List (Action Q)) (w : World Q)
    (h : World.init.run P as = some w) (q : Q) : w.calls.countP (·.setupOk q) ≤ 1 := by
  exact (World.run_onceInv (setupOk_movesOnce P q) h).count_le

/-- The race of the previous section run to its end: `prepare` resumes and returns `Ok`, then
`new_query` resumes and fails at its second `set_state`. -/
def raceRun : List (Action Unit) :=
  raceWindow ++ [.poll 0 (.ok ()), .poll 1 (.ok ())]

/-- In the race both setup calls run to their ends, and only `prepare` returns `Ok`. -/
theorem new_query_ok_once :
    ∃ w : World Unit, World.init.run raceEnv raceRun = some w ∧
      w.calls[0]? = some (.returned (.prepare raceRequest) (.prepare (.ok ()))) ∧
      w.calls[1]?.map (·.setupOk ()) = some false ∧
      w.calls.countP (·.setupOk ()) ≤ 1 :=
  ⟨_, rfl, rfl, rfl, setup_ok_at_most_once raceEnv raceRun _ rfl ()⟩

/-- A coordinator's `new_query` from its call to its return, both sends acknowledged. -/
def coordinatorRun : List (Action Unit) :=
  [.invoke (.newQuery ⟨.fp31, .testMultiply⟩ .one), .poll 0 (.ok ()), .poll 0 (.ok ())]

end IpaHelper
