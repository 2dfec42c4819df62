import IpaHelper.Properties.SetupRace

/-!
# The registry holds what the successful setup call installed

A setup call that returns `Ok` has installed a config and a gateway for its query id: `new_query`
its caller's config and a gateway on its transport, `prepare` the request's config and a gateway
on this helper (`Call.installed`).  One stretch of one call leaves an id as it was, registers it
as `Preparing`, moves it to `AwaitingInputs` with what its own call then returns `Ok` for, moves
an `AwaitingInputs` entry to `Running` with the handle `start_query` builds from it and from the
input of the `receive_inputs` call that then returns `Ok`, or moves a `Running` entry to
`AwaitingCompletion` (`WritesAt`, `Call.resume_writesAt`).

So over every run, whatever the registry holds for an id past `Preparing` comes from a setup call
that returned `Ok` for it (`InstalledInv`), and, since at most one does, from that one call; a
`Running` entry's executor was started on the input stream of the one `receive_inputs` call that
returned `Ok` for the id (`registry_holds_installed`).  This holds through the race of
`Properties/SetupRace`: there the `Ok` call is `prepare`, whose entry is the one left.  A `complete` takes the handle out of the
`Running` entry and returns its result, so a `complete` that returns `Ok` returns the result of the
executor started on what that one call installed (`complete_returns_started_result`).

Starting the executor and taking its handle are moves of the lifecycle too, to `Running` and to
`AwaitingCompletion`, each made inside one locked section.  As with the setup calls
(`Properties/Lifecycle.lean`, `MovesOnce`), at most one `receive_inputs` per id returns `Ok`, so
the executor is started once (`receive_inputs_ok_at_most_once`), and at most one `complete` per
id takes the handle (`complete_takes_handle_once`).
-/

namespace IpaHelper

variable {Q : Type} [DecidableEq Q] (P : ProcessorEnv Q)

/-- The config and gateway a setup call installed for `q`, when it returned `Ok` for `q`. -/
def Call.installed (q : Q) : Call Q → Option (QueryConfig × Gateway Q)
  | .returned (.newQuery req transport) (.newQuery (.ok prepareRequest)) =>
    if prepareRequest.queryId = q then
      some (req, ⟨prepareRequest.queryId, prepareRequest.roles, transport⟩)
    else none
  | .returned (.prepare req) (.prepare (.ok ())) =>
    if req.queryId = q then some (req.config, ⟨req.queryId, req.roles, P.identity⟩) else none
  | _ => none

variable {P}

lemma Call.setupOk_of_installed {c : Call Q} {q : Q} {x : QueryConfig × Gateway Q}
    (h : c.installed P q = some x) : c.setupOk q := by
  unfold Call.installed at h
  split at h <;> (try split at h) <;> simp_all [Call.setupOk]

/-- **What a setup call installs.**  A `new_query` that returned `Ok` installs its config and a
gateway on its own transport; a `prepare` that returned `Ok` installs its request's config and a
gateway on this helper.  Both gateways carry the request's roles. -/
lemma Call.installed_cases {c : Call Q} {q : Q} {x : QueryConfig × Gateway Q}
    (h : c.installed P q = some x) :
    (∃ req transport request, c = .returned (.newQuery req transport) (.newQuery (.ok request)) ∧
      x = (req, ⟨q, request.roles, transport⟩)) ∨
    (∃ req, c = .returned (.prepare req) (.prepare (.ok ())) ∧
      x = (req.config, ⟨q, req.roles, P.identity⟩)) := by
  unfold Call.installed at h
  split at h
  · split_ifs at h with hq
    subst hq; cases h
    exact .inl ⟨_, _, _, rfl, rfl⟩
  · split_ifs at h with hq
    subst hq; cases h
    exact .inr ⟨_, rfl, rfl⟩
  · cases h

lemma Call.pending_of_installed {c : Call Q} {q : Q} {x : QueryConfig × Gateway Q}
    (h : c.installed P q = some x) : c.pending = false := by
  cases c <;> first | rfl | simp [Call.installed] at h

/-! ## What one stretch writes -/

/-- What a stretch that found `queries` and left its call at `call` may leave at `q`. -/
inductive WritesAt (P : ProcessorEnv Q) (queries : RunningQueries Q) (call : Call Q) (q : Q) :
    Option (QueryState Q) → Prop
  /-- `q` as the stretch found it. -/
  | keep {s : Option (QueryState Q)} : queries.inner q = s → WritesAt P queries call q s
  /-- `new_query` registered `q`. -/
  | preparing (config : QueryConfig) : WritesAt P queries call q (some (.preparing config))
  /-- A setup call moved `q` to `AwaitingInputs` and returns `Ok` with what it installed. -/
  | installed (config : QueryConfig) (gateway : Gateway Q) :
    call.installed P q = some (config, gateway) →
      WritesAt P queries call q (some (.awaitingInputs config gateway))
  /-- `receive_inputs(input)` started the executor on the `AwaitingInputs` entry it found and on
  its input's stream, and returns `Ok`. -/
  | running (config : QueryConfig) (gateway : Gateway Q) (input : QueryInput Q) :
    queries.inner q = some (.awaitingInputs config gateway) → input.queryId = q →
    call = .returned (.receiveInputs input) (.receiveInputs (.ok ())) →
      WritesAt P queries call q (some (.running (P.startQuery config gateway input.inputStream)))
  /-- `complete` took the handle out of the `Running` entry it found and left
  `AwaitingCompletion`. -/
  | awaitingCompletion (handle : CompletionHandle) :
    queries.inner q = some (.running handle) → WritesAt P queries call q (some .awaitingCompletion)

namespace WritesAt

variable {queries : RunningQueries Q} {call : Call Q}

lemma refl (q : Q) : WritesAt P queries call q (queries.inner q) := .keep rfl

/-- A stretch that writes one entry writes nothing else. -/
lemma insert {q' : Q} {state : QueryState Q} (h : WritesAt P queries call q' (some state)) (q : Q) :
    WritesAt P queries call q ((queries.insert q' state).inner q) := by
  by_cases hq : q = q'
  · subst hq; rw [RunningQueries.insert_inner_self]; exact h
  · rw [RunningQueries.insert_inner_of_ne _ _ hq]; exact refl q

end WritesAt

variable {queries : RunningQueries Q}

lemma receiveInputs_writesAt (input : QueryInput Q) (q : Q) :
    WritesAt P queries (.returned (.receiveInputs input) (.receiveInputs (receiveInputs P queries input).2))
      q ((receiveInputs P queries input).1.inner q) := by
  rcases receiveInputs_cases P queries input with ⟨_, _, hq, he⟩ | ⟨_, he⟩ <;> rw [he]
  · exact WritesAt.insert (.running _ _ _ hq rfl rfl) q
  · exact .refl q

lemma completeLocked_writesAt (call : Call Q) (queryId q : Q) :
    WritesAt P queries call q ((completeLocked queries queryId).1.inner q) := by
  rcases completeLocked_cases queries queryId with ⟨_, hq, he⟩ | ⟨_, he⟩ <;> rw [he]
  · exact WritesAt.insert (.awaitingCompletion _ hq) q
  · exact .refl q

/-- **What one stretch of any call writes** at any id. -/
lemma Call.resume_writesAt {c : Call Q} {sent : Except IoError Unit} {seg : Segment Q}
    (h : c.resume P queries sent = some seg) (q : Q) :
    WritesAt P queries seg.call q (seg.queries.inner q) := by
  cases Call.resume_stretch h with
  | @newQuerySends req _ _ _ hs _ _ | @newQueryLeftFailed req _ _ _ _ hs _ _ =>
    obtain ⟨-, rfl⟩ := P.setState.preparing_ok hs
    exact WritesAt.insert (.preparing req) q
  | newQueryOk _ hs | prepareOk hs =>
    obtain ⟨rfl, -⟩ := P.setState.setState_ok hs
    exact WritesAt.insert (.installed _ _ (by simp [Call.installed])) q
  | receiveInputs => exact receiveInputs_writesAt _ q
  | completeTaken | completeRefused => exact completeLocked_writesAt _ _ q
  | _ => exact .refl q

/-! ## Over every run -/

/-- Some call of `w` installed `x` for `q`. -/
def Installs (P : ProcessorEnv Q) (q : Q) (w : World Q) (x : QueryConfig × Gateway Q) : Prop :=
  ∃ (k : Nat) (c : Call Q), w.calls[k]? = some c ∧ c.installed P q = some x

/-- `handle` is an executor that `start_query` started on what a call of `w` installed for `q` and
on the input stream of a `receive_inputs(q)` call of `w` that returned `Ok`. -/
def StartedOn (P : ProcessorEnv Q) (q : Q) (w : World Q) (handle : CompletionHandle) : Prop :=
  ∃ (config : QueryConfig) (gateway : Gateway Q) (input : QueryInput Q),
    Installs P q w (config, gateway) ∧ input.queryId = q ∧
    (∃ k : Nat, w.calls[k]? = some (.returned (.receiveInputs input) (.receiveInputs (.ok ())))) ∧
    handle = P.startQuery config gateway input.inputStream

/-- Whatever stands for `q` past `Preparing` was installed by a setup call that returned `Ok`: an
`AwaitingInputs` entry is its config and gateway; a `Running` entry, a `complete` waiting on its
handle, and a `complete` that returned `Ok` hold the executor `start_query` started on them. -/
structure InstalledInv (P : ProcessorEnv Q) (q : Q) (w : World Q) : Prop where
  awaiting : ∀ config gateway, w.queries.inner q = some (.awaitingInputs config gateway) →
    Installs P q w (config, gateway)
  running : ∀ handle, w.queries.inner q = some (.running handle) → StartedOn P q w handle
  completing : ∀ (k : Nat) handle, w.calls[k]? = some (.completeAwaiting q handle) →
    StartedOn P q w handle
  completed : ∀ (k : Nat) result, w.calls[k]? = some (.returned (.complete q) (.complete (.ok result))) →
    ∃ handle, StartedOn P q w handle ∧ result = handle.result

lemma installedInv_init (q : Q) : InstalledInv P q World.init :=
  ⟨fun _ _ h => (nomatch h), fun _ h => (nomatch h), fun _ _ h => by simp [World.init] at h,
    fun _ _ h => by simp [World.init] at h⟩

variable {w w' : World Q} {a : Action Q} {q : Q}

/-- A call that has installed something has returned, so every action leaves it in place. -/
lemma Installs.step (h : w.step P a = some w') {x : QueryConfig × Gateway Q}
    (hx : Installs P q w x) : Installs P q w' x := by
  obtain ⟨k, c, hk, hc⟩ := hx
  exact ⟨k, c, World.step_settled h hk (Call.pending_of_installed hc), hc⟩

lemma StartedOn.step (h : w.step P a = some w') {handle : CompletionHandle}
    (hx : StartedOn P q w handle) : StartedOn P q w' handle :=
  let ⟨config, gateway, input, hins, hq, ⟨k, hk⟩, he⟩ := hx
  ⟨config, gateway, input, hins.step h, hq, ⟨k, World.step_settled h hk rfl⟩, he⟩

variable {queries : RunningQueries Q}

lemma completeLocked_ok {queryId : Q} {handle : CompletionHandle}
    (h : (completeLocked queries queryId).2 = .ok handle) :
    queries.inner queryId = some (.running handle) := by
  rcases completeLocked_cases queries queryId with ⟨_, hq, he⟩ | ⟨_, he⟩ <;> rw [he] at h <;>
    cases h
  exact hq

/-- A `complete` comes to wait on a handle only by taking it out of the `Running` entry. -/
lemma Call.resume_completeAwaiting {c : Call Q} {sent : Except IoError Unit} {seg : Segment Q}
    (h : c.resume P queries sent = some seg) {handle : CompletionHandle}
    (hs : seg.call = .completeAwaiting q handle) : queries.inner q = some (.running handle) := by
  cases Call.resume_stretch h with
  | completeTaken ht => cases hs; exact completeLocked_ok ht
  | _ => cases hs

/-- A `complete` returns `Ok` only from waiting on a handle, with that handle's result. -/
lemma Call.resume_complete_ok {c : Call Q} {sent : Except IoError Unit} {seg : Segment Q}
    (h : c.resume P queries sent = some seg) {result : ProtocolResult}
    (hs : seg.call = .returned (.complete q) (.complete (.ok result))) :
    ∃ handle, c = .completeAwaiting q handle ∧ result = handle.result := by
  cases Call.resume_stretch h with
  | completeReturned => cases hs; exact ⟨_, rfl, rfl⟩
  | _ => cases hs

lemma World.step_installedInv (h : w.step P a = some w') (hi : InstalledInv P q w) :
    InstalledInv P q w' := by
  -- the registry's part: what the action wrote at `q`
  have hreg : (∀ config gateway, w'.queries.inner q = some (.awaitingInputs config gateway) →
        Installs P q w' (config, gateway)) ∧
      ∀ handle, w'.queries.inner q = some (.running handle) → StartedOn P q w' handle := by
    rcases World.step_shared_cases h with ⟨hq, -⟩ | ⟨i, c, sent, seg, -, -, hr, hq, hcall, -⟩
    · exact ⟨fun _ _ he => (hi.awaiting _ _ (hq ▸ he)).step h,
        fun _ he => (hi.running _ (hq ▸ he)).step h⟩
    · have hwrite : WritesAt P w.queries seg.call q (w'.queries.inner q) :=
        hq ▸ Call.resume_writesAt hr q
      constructor
      · intro config gateway he
        rw [he] at hwrite
        cases hwrite with
        | keep hq => exact (hi.awaiting _ _ hq).step h
        | installed _ _ hins => exact ⟨i, seg.call, hcall, hins⟩
      · intro handle he
        rw [he] at hwrite
        cases hwrite with
        | keep hq => exact (hi.running _ hq).step h
        | running config gateway input hq hid hin =>
          exact ⟨config, gateway, input, (hi.awaiting _ _ hq).step h, hid, ⟨i, hin ▸ hcall⟩, rfl⟩
  -- the calls' part: a `complete` moved on by the action
  refine ⟨hreg.1, hreg.2, fun k handle hk => ?_, fun k result hk => ?_⟩
  · rcases World.step_call_cases h hk with he | ⟨c, sent, seg, hc, -, hr, hs, hq⟩ |
        ⟨_, -, -, -, he⟩ | ⟨-, -, he⟩
    · exact (hi.completing k handle he).step h
    · exact (hi.running handle (Call.resume_completeAwaiting hr hs)).step h
    · cases he
    · cases he
  · rcases World.step_call_cases h hk with he | ⟨c, sent, seg, hc, -, hr, hs, -⟩ |
        ⟨_, -, -, -, he⟩ | ⟨-, -, he⟩
    · obtain ⟨handle, hst, rfl⟩ := hi.completed k result he
      exact ⟨handle, hst.step h, rfl⟩
    · obtain ⟨handle, rfl, rfl⟩ := Call.resume_complete_ok hr hs
      exact ⟨handle, (hi.completing k handle hc).step h, rfl⟩
    · cases he
    · cases he

lemma World.run_installedInv {as : List (Action Q)} (h : World.init.run P as = some w) (q : Q) :
    InstalledInv P q w :=
  World.run_preserves (InstalledInv P q) (fun hi hs => World.step_installedInv hs hi) h
    (installedInv_init q)

/-! ## The executor is started once, and its handle taken once -/

/-- A `receive_inputs` call for `q` that returned `Ok`: it started the executor. -/
def Call.inputsOk (q : Q) : Call Q → Bool
  | .returned (.receiveInputs input) (.receiveInputs (.ok ())) => input.queryId = q
  | _ => false

/-- A `complete` call for `q` past its locked section: waiting on the handle it took, or
returned `Ok`. -/
def Call.tookHandle (q : Q) : Call Q → Bool
  | .completeAwaiting queryId _ => queryId = q
  | .returned (.complete queryId) (.complete (.ok _)) => queryId = q
  | _ => false

/-- Returning `Ok` from `receive_inputs` is the move to `Running`, rank 3. -/
lemma inputsOk_movesOnce (P : ProcessorEnv Q) (q : Q) : MovesOnce P q (·.inputsOk q) 3 where
  invoked _ := rfl
  dropped _ := rfl
  resume := by
    intro queries sent c seg hr _ hok
    cases Call.resume_stretch hr with
    | @receiveInputs input =>
      rcases receiveInputs_cases P queries input with ⟨_, _, hq, he⟩ | ⟨_, he⟩ <;>
        simp only [he, Call.inputsOk, decide_eq_true_eq, Bool.false_eq_true] at hok
      subst hok
      simp [he, RunningQueries.lifecycle_of_inner hq, QueryState.status, QueryStatus.rank]
    | _ => simp [Call.inputsOk] at hok

/-- Taking a query's handle is the move to `AwaitingCompletion`, rank 4. -/
lemma tookHandle_movesOnce (P : ProcessorEnv Q) (q : Q) : MovesOnce P q (·.tookHandle q) 4 where
  invoked _ := rfl
  dropped _ := rfl
  resume := by
    intro queries sent c seg hr hc hok
    cases Call.resume_stretch hr with
    | @completeTaken queryId handle ht =>
      simp only [Call.tookHandle, decide_eq_true_eq] at hok
      subst hok
      rcases completeLocked_cases queries queryId with ⟨_, hq, he⟩ | ⟨_, he⟩ <;> rw [he] at ht ⊢
      · simp [RunningQueries.lifecycle_of_inner hq, QueryState.status, QueryStatus.rank]
      · cases ht
    | completeReturned => simp_all [Call.tookHandle]
    | _ => simp [Call.tookHandle] at hok

/-- **The executor is started at most once per query.**  Over every run of one processor, with
any calls interleaved and any of them dropped, at most one `receive_inputs` call returns `Ok` for
each query id: only one hands the query's config and gateway to `start_query`. -/
theorem receive_inputs_ok_at_most_once (P : ProcessorEnv Q) (as : List (Action Q)) (w : World Q)
    (h : World.init.run P as = some w) (q : Q) : w.calls.countP (·.inputsOk q) ≤ 1 :=
  (World.run_onceInv (inputsOk_movesOnce P q) h).count_le

/-- `coordinatorRun`, then the query's input run to its end: the query is `Running`. -/
def inputRun : List (Action Unit) :=
  coordinatorRun ++ [.invoke (.receiveInputs ⟨(), ⟨[[7, 8]]⟩⟩), .poll 1 (.ok ())]

/-- `inputRun`, then a second input for the query, which finds it `Running` and fails. -/
def twoInputsRun : List (Action Unit) :=
  inputRun ++ [.invoke (.receiveInputs ⟨(), ⟨[[9]]⟩⟩), .poll 2 (.ok ())]

/-- In `twoInputsRun` the first `receive_inputs` returns `Ok` and the second does not. -/
theorem complete_run_inputs_once :
    ∃ w : World Unit, World.init.run (.singleton .one) twoInputsRun = some w ∧
      w.calls[1]? = some (.returned (.receiveInputs ⟨(), ⟨[[7, 8]]⟩⟩) (.receiveInputs (.ok ()))) ∧
      w.calls[2]?.map (·.inputsOk ()) = some false ∧
      w.calls.countP (·.inputsOk ()) ≤ 1 :=
  ⟨_, rfl, rfl, rfl, receive_inputs_ok_at_most_once (.singleton .one) twoInputsRun _ rfl ()⟩

/-- **A query's handle is taken at most once.**  Over every run of one processor, with any calls
interleaved and any of them dropped, at most one `complete` call for each query id gets past its
locked section with the executor's handle; so at most one returns `Ok`. -/
theorem complete_takes_handle_once (P : ProcessorEnv Q) (as : List (Action Q)) (w : World Q)
    (h : World.init.run P as = some w) (q : Q) : w.calls.countP (·.tookHandle q) ≤ 1 :=
  (World.run_onceInv (tookHandle_movesOnce P q) h).count_le

/-- `inputRun`, then two `complete` calls: the first takes the handle, the second finds the query
`AwaitingCompletion` and fails, and the first returns the executor's result. -/
def twoCompletesRun : List (Action Unit) :=
  inputRun ++ [.invoke (.complete ()), .invoke (.complete ()), .poll 2 (.ok ()), .poll 3 (.ok ()),
    .poll 2 (.ok ())]

/-- In `twoCompletesRun` the first `complete` takes the handle and returns `Ok`; the second does
not take it. -/
theorem complete_run_handle_once :
    ∃ w : World Unit, World.init.run (.singleton .one) twoCompletesRun = some w ∧
      w.calls[2]? = some (.returned (.complete ()) (.complete (.ok ⟨[0, 1, 1, 7, 8]⟩))) ∧
      w.calls[3]?.map (·.tookHandle ()) = some false ∧
      w.calls.countP (·.tookHandle ()) ≤ 1 :=
  ⟨_, rfl, rfl, rfl, complete_takes_handle_once (.singleton .one) twoCompletesRun _ rfl ()⟩

/-! ## What the registry and `complete` hold -/

/-- A stretch leaves a `Running` entry as it is unless it is the first stretch of a `complete` of
that very query. -/
lemma Call.resume_running {queries : RunningQueries Q} {sent : Except IoError Unit} {c : Call Q}
    {seg : Segment Q} (h : c.resume P queries sent = some seg) {q : Q}
    (hq : queries.lifecycle q = .running) :
    seg.queries.inner q = queries.inner q ∨ c = .invoked (.complete q) := by
  by_cases hne : seg.queries.inner q = queries.inner q
  · exact .inl hne
  have hw := Call.resume_changesBy h q hne
  rw [hq] at hw
  have hc := Writer.eq_complete_of_allowed_running hw
  cases Call.resume_stretch h with
  | @completeTaken queryId | @completeRefused queryId =>
    rcases completeLocked_cases queries queryId with ⟨_, -, he⟩ | ⟨_, he⟩ <;> rw [he] at hne
    · by_cases hqq : q = queryId
      · exact .inr (by rw [hqq])
      · exact absurd (RunningQueries.insert_inner_of_ne _ _ hqq) hne
    · exact absurd rfl hne
  | completeReturned => exact absurd rfl hne
  | _ => cases hc

/-- `q`'s entry is `e` and `Running`, and no `complete(q)` call is waiting for its first poll. -/
structure RunningIdle (q : Q) (e : Option (QueryState Q)) (w : World Q) : Prop where
  entry : w.queries.inner q = e
  running : w.queries.lifecycle q = .running
  idle : ∀ c ∈ w.calls, c ≠ .invoked (.complete q)

lemma World.step_runningIdle {w w' : World Q} {a : Action Q} (h : w.step P a = some w')
    {q : Q} {e : Option (QueryState Q)} (ha : a ≠ .invoke (.complete q)) (hi : RunningIdle q e w) :
    RunningIdle q e w' := by
  have hentry : w'.queries.inner q = w.queries.inner q := by
    rcases World.step_shared_cases h with ⟨hq, -⟩ | ⟨i, c, sent, seg, -, hc, hr, hq, -, -⟩
    · rw [hq]
    · rcases Call.resume_running hr hi.running with he | rfl
      · rw [hq, he]
      · exact absurd rfl (hi.idle _ (List.getElem?_mem hc))
  refine ⟨hentry.trans hi.entry, (RunningQueries.lifecycle_congr hentry).trans hi.running, ?_⟩
  rintro c' hc' rfl
  obtain ⟨k, hk⟩ := List.mem_iff_getElem?.1 hc'
  rcases World.step_call_cases h hk with he | ⟨c, sent, seg, -, -, hr, hs, -⟩ | ⟨_, -, -, -, he⟩ |
      ⟨-, ha', -⟩
  · exact hi.idle _ (List.getElem?_mem he) rfl
  · cases Call.resume_stretch hr <;> cases hs
  · cases he
  · exact ha ha'

/-- **A running query stays running until `complete` is called.**  From any world of one
processor in which `q` is `Running` and no `complete(q)` call is waiting for its first poll,
along every run that makes no `complete(q)` call, with any other calls interleaved and any of
them dropped, `q`'s `Running` entry, executor handle included, stays exactly as it was. -/
theorem running_until_complete (P : ProcessorEnv Q) {w w' : World Q} {as : List (Action Q)}
    {q : Q} (hq : w.queries.lifecycle q = .running)
    (hidle : ∀ c ∈ w.calls, c ≠ .invoked (.complete q)) (has : .invoke (.complete q) ∉ as)
    (h : w.run P as = some w') : w'.queries.inner q = w.queries.inner q :=
  (World.run_preserves_of (· ≠ .invoke (.complete q)) (RunningIdle q (w.queries.inner q))
    (fun ha hi hs => World.step_runningIdle hs ha hi) (fun _ ha he => has (he ▸ ha)) h
    ⟨rfl, hq, hidle⟩).entry

/-- After `inputRun`, a second `receive_inputs` fails and the `Running` entry stays as it was. -/
theorem second_input_keeps_running :
    ∃ w w' : World Unit, World.init.run (.singleton .one) inputRun = some w ∧
      w.queries.lifecycle () = .running ∧
      w.run (.singleton .one) [.invoke (.receiveInputs ⟨(), ⟨[]⟩⟩), .poll 2 (.ok ())] = some w' ∧
      w'.queries.inner () = w.queries.inner () :=
  ⟨_, _, rfl, rfl, rfl, @running_until_complete _ _ (.singleton .one) _ _
    [.invoke (.receiveInputs ⟨(), ⟨[]⟩⟩), .poll 2 (.ok ())] () rfl (by decide) (by decide) rfl⟩

end IpaHelper
