import IpaHelper.Framework.Registry

/-!
# The processor's operations, cut at their suspension points

`Processor` (`src/query/processor.rs`) runs its operations as futures on a cooperative runtime,
so another call can run only where one is suspended.  Each operation is cut here at its
`.await`s into stretches that run atomically:

* `new_query`: `newQueryStart` registers the query as `Preparing`, assigns roles and starts the
  two `PrepareQuery` sends, `left` first; `try_join` returns at once, without starting the right
  send, when the left one fails on its first poll.  `newQueryFinish` takes what the sends came
  back with, builds the gateway and moves the query to `AwaitingInputs`.
* `prepare`: `prepareStart` checks the helper's role and that the query is absent;
  `prepareFinish`, after the gateway is built, moves the query to `AwaitingInputs`.
* `receive_inputs` is synchronous: one stretch under the registry lock.
* `complete`: `completeLocked` is the stretch under the lock; the call then waits on the
  completion handle, which touches nothing shared.

`prepare` and `receive_inputs` stand under `#[cfg(never)]` in this revision; they are modelled as
written, as the other operations are.

`Call` records where a call stands and `Call.resume` runs its next stretch.  `Stretch` lists
what one stretch can do, each with the guard the code checks on the way, and `Call.resume_stretch`
shows that every stretch `Call.resume` runs is one of them; the properties of one stretch proved
in `Properties/` are case analyses on it.  The processor is
taken over every `set_state` that obeys `SetState`, every executor `start_query`, the identity of
its own transport, and the id `new_query` allocates; the sources allocate the singleton
`QueryId`, which is the instance `Q := Unit`.
-/

namespace IpaHelper

/-- An `io::Error` a transport send reports, by its kind tag. -/
structure IoError where
  kind : String
  deriving DecidableEq, Repr

/-- `NewQueryError`.  The `OneshotRecv` variant belongs to the command-stream adapter; `new_query`
never builds it, and it is left out. -/
inductive NewQueryError
  | state (source : StateError)
  | transport (source : IoError)
  deriving DecidableEq, Repr

/-- `PrepareQueryError`. -/
inductive PrepareQueryError
  | wrongTarget
  | alreadyRunning
  | stateError (source : StateError)
  deriving DecidableEq, Repr

/-- `QueryInputError`. -/
inductive QueryInputError (Q : Type)
  | noSuchQuery (queryId : Q)
  | stateError (source : StateError)
  deriving DecidableEq, Repr

/-- `QueryCompletionError`. -/
inductive QueryCompletionError (Q : Type)
  | noSuchQuery (queryId : Q)
  | stateError (source : StateError)
  deriving DecidableEq, Repr

/-- Modelled from the spec: `PrepareQuery { query_id, config, roles }`, the request a coordinator
sends its peers. -/
structure PrepareQuery (Q : Type) where
  queryId : Q
  config : QueryConfig
  roles : RoleAssignment
  deriving DecidableEq

/-- Modelled from the spec: a helper's secret-shared records, as the chunks of its input stream
(`ByteArrStream`). -/
structure ByteArrStream where
  chunks : List (List UInt8)
  deriving DecidableEq, Repr

/-- Modelled from the spec: `QueryInput { query_id, input_stream }`. -/
structure QueryInput (Q : Type) where
  queryId : Q
  inputStream : ByteArrStream
  deriving DecidableEq

/-- What a processor's calls run against besides the registry: `set_state`, the executor's
`start_query`, the helper its own transport speaks for (`self.transport` in `prepare`), and the
id `new_query` allocates. -/
structure ProcessorEnv (Q : Type) [DecidableEq Q] where
  setState : SetState Q
  startQuery : QueryConfig → Gateway Q → ByteArrStream → CompletionHandle
  identity : HelperIdentity
  queryId : Q

/-- A call made on the processor, as it was made. -/
inductive Invocation (Q : Type)
  | newQuery (req : QueryConfig) (transport : HelperIdentity)
  | prepare (req : PrepareQuery Q)
  | receiveInputs (input : QueryInput Q)
  | complete (queryId : Q)
  deriving DecidableEq

/-- `Except` values are equal when their tags and payloads are. -/
instance instDecidableEqExcept {ε α : Type} [DecidableEq ε] [DecidableEq α] :
    DecidableEq (Except ε α)
  | .error a, .error b => decidable_of_iff (a = b) ⟨congrArg _, Except.error.inj⟩
  | .ok a, .ok b => decidable_of_iff (a = b) ⟨congrArg _, Except.ok.inj⟩
  | .error _, .ok _ => isFalse nofun
  | .ok _, .error _ => isFalse nofun

/-- What a call returned; `panicked` is the `unwrap` of an impossible role assignment. -/
inductive Outcome (Q : Type)
  | newQuery (result : Except NewQueryError (PrepareQuery Q))
  | prepare (result : Except PrepareQueryError Unit)
  | receiveInputs (result : Except (QueryInputError Q) Unit)
  | complete (result : Except (QueryCompletionError Q) ProtocolResult)
  | panicked
  deriving DecidableEq

/-- Where an in-flight call stands. -/
inductive Call (Q : Type)
  /-- Made, its future not yet polled. -/
  | invoked (call : Invocation Q)
  /-- `new_query` at `try_join(send(left, ..), send(right, ..)).await`. -/
  | newQuerySending (req : QueryConfig) (prepareRequest : PrepareQuery Q)
      (transport : HelperIdentity)
  /-- `new_query` whose `try_join` found the left send failed at its first poll and returns that
  error without polling the right send.  The code returns in that same poll; here the return is
  the call's next stretch, which touches nothing shared. -/
  | newQueryFailed (req : QueryConfig) (transport : HelperIdentity) (error : IoError)
  /-- `prepare` at `Gateway::new(my_role, network, ..).await`. -/
  | prepareGateway (req : PrepareQuery Q)
  /-- `complete` at `handle.await`. -/
  | completeAwaiting (queryId : Q) (handle : CompletionHandle)
  | returned (call : Invocation Q) (outcome : Outcome Q)
  /-- Its future dropped at a suspension point. -/
  | dropped (call : Invocation Q)
  deriving DecidableEq

/-- The call a future belongs to. -/
def Call.origin {Q : Type} : Call Q → Invocation Q
  | .invoked call | .returned call _ | .dropped call => call
  | .newQuerySending req _ transport | .newQueryFailed req transport _ => .newQuery req transport
  | .prepareGateway req => .prepare req
  | .completeAwaiting queryId _ => .complete queryId

/-- A `new_query` or `prepare` call that returned `Ok` for query `q`. -/
def Call.setupOk {Q : Type} [DecidableEq Q] (q : Q) : Call Q → Bool
  | .returned _ (.newQuery (.ok prepareRequest)) => prepareRequest.queryId = q
  | .returned (.prepare req) (.prepare (.ok ())) => req.queryId = q
  | _ => false

@[simp] lemma Call.setupOk_invoked {Q : Type} [DecidableEq Q] (q : Q) (call : Invocation Q) :
    (Call.invoked call).setupOk q = false := rfl

@[simp] lemma Call.setupOk_dropped {Q : Type} [DecidableEq Q] (q : Q) (call : Invocation Q) :
    (Call.dropped call).setupOk q = false := rfl

/-- What one atomic stretch of a call leaves behind: the registry, where the call now stands,
and the `PrepareQuery` requests it handed to the transport, with their destinations. -/
structure Segment (Q : Type) where
  queries : RunningQueries Q
  call : Call Q
  sent : List (HelperIdentity × PrepareQuery Q)

variable {Q : Type} [DecidableEq Q] (P : ProcessorEnv Q)

/-- `new_query` up to its first `.await`: register the query as `Preparing` (the `?` returns
`set_state`'s error), take the transport's helper as `H1` and its `[right, left]` as `H2`, `H3`,
and poll `try_join(send(left, ..), send(right, ..))`.  It polls the left send first: when that
fails at once (`leftSent`), `try_join` returns its error and the right send never goes out;
otherwise both requests are handed to the transport. -/
def newQueryStart (queries : RunningQueries Q) (req : QueryConfig) (transport : HelperIdentity)
    (leftSent : Except IoError Unit) : Segment Q :=
  let call := Invocation.newQuery req transport
  match P.setState.setState queries P.queryId (.preparing req) with
  | .error e => ⟨queries, .returned call (.newQuery (.error (.state e))), []⟩
  | .ok queries =>
    let right := transport.others.1
    let left := transport.others.2
    match RoleAssignment.tryFrom [(transport, .H1), (right, .H2), (left, .H3)] with
    | none => ⟨queries, .returned call .panicked, []⟩
    | some roles =>
      let prepareRequest : PrepareQuery Q := ⟨P.queryId, req, roles⟩
      match leftSent with
      | .error e => ⟨queries, .newQueryFailed req transport e, [(left, prepareRequest)]⟩
      | .ok () => ⟨queries, .newQuerySending req prepareRequest transport,
          [(left, prepareRequest), (right, prepareRequest)]⟩

/-- `new_query` from its `try_join` on: a failed send ends the call with the transport's error;
otherwise it builds the gateway, moves the query to `AwaitingInputs` and returns the request. -/
def newQueryFinish (queries : RunningQueries Q) (req : QueryConfig)
    (prepareRequest : PrepareQuery Q) (transport : HelperIdentity) (sent : Except IoError Unit) :
    Segment Q :=
  let call := Invocation.newQuery req transport
  match sent with
  | .error e => ⟨queries, .returned call (.newQuery (.error (.transport e))), []⟩
  | .ok () =>
    let gateway : Gateway Q := ⟨prepareRequest.queryId, prepareRequest.roles, transport⟩
    match P.setState.setState queries prepareRequest.queryId (.awaitingInputs req gateway) with
    | .error e => ⟨queries, .returned call (.newQuery (.error (.state e))), []⟩
    | .ok queries => ⟨queries, .returned call (.newQuery (.ok prepareRequest)), []⟩

/-- `prepare` up to `Gateway::new(..).await`: refuse a request naming this helper `H1`, and one
for a query already registered; the check reads the registry and writes nothing. -/
def prepareStart (queries : RunningQueries Q) (req : PrepareQuery Q) : Segment Q :=
  let call := Invocation.prepare req
  let myRole := req.roles.role P.identity
  if myRole = .H1 then ⟨queries, .returned call (.prepare (.error .wrongTarget)), []⟩
  else if (queries.status req.queryId).isSome then
    ⟨queries, .returned call (.prepare (.error .alreadyRunning)), []⟩
  else ⟨queries, .prepareGateway req, []⟩

/-- `prepare` once its gateway is built: move the query to `AwaitingInputs` with the request's
config. -/
def prepareFinish (queries : RunningQueries Q) (req : PrepareQuery Q) : Segment Q :=
  let call := Invocation.prepare req
  let gateway : Gateway Q := ⟨req.queryId, req.roles, P.identity⟩
  match P.setState.setState queries req.queryId (.awaitingInputs req.config gateway) with
  | .error e => ⟨queries, .returned call (.prepare (.error (.stateError e))), []⟩
  | .ok queries => ⟨queries, .returned call (.prepare (.ok ())), []⟩

/-- `receive_inputs`, one stretch under the registry lock: an `AwaitingInputs` query's config and
gateway are taken out of the map and handed with the input stream to `start_query`, and the query
goes back in as `Running`; any other state goes back as it was, with `InvalidState`. -/
def receiveInputs (queries : RunningQueries Q) (input : QueryInput Q) :
    RunningQueries Q × Except (QueryInputError Q) Unit :=
  match queries.inner input.queryId with
  | some state =>
    let queries := (queries.remove input.queryId).2
    match state with
    | .awaitingInputs config gateway =>
      (queries.insert input.queryId (.running (P.startQuery config gateway input.inputStream)),
        .ok ())
    | state =>
      (queries.insert input.queryId state,
        .error (.stateError (.invalidState state.status .running)))
  | none => (queries, .error (.noSuchQuery input.queryId))

/-- The stretch of `complete` under the registry lock: a `Running` query's handle is taken out and
the query goes back in as `AwaitingCompletion`; any other state goes back as it was, with
`InvalidState`. -/
def completeLocked (queries : RunningQueries Q) (queryId : Q) :
    RunningQueries Q × Except (QueryCompletionError Q) CompletionHandle :=
  let removed := queries.remove queryId
  let queries := removed.2
  match removed.1 with
  | some (.running handle) => (queries.insert queryId .awaitingCompletion, .ok handle)
  | some state =>
    (queries.insert queryId state, .error (.stateError (.invalidState state.status .running)))
  | none => (queries, .error (.noSuchQuery queryId))

section LockedSections

variable {P} {queries : RunningQueries Q} {q : Q}

lemma completeLocked_running {handle : CompletionHandle}
    (h : queries.inner q = some (.running handle)) :
    completeLocked queries q = (queries.insert q .awaitingCompletion, .ok handle) := by
  simp [completeLocked, h]

lemma completeLocked_not_running {state : QueryState Q} (h : queries.inner q = some state)
    (hs : ∀ handle, state ≠ .running handle) :
    completeLocked queries q =
      (queries, .error (.stateError (.invalidState state.status .running))) := by
  cases state <;> simp_all [completeLocked]

lemma completeLocked_none (h : queries.inner q = none) :
    completeLocked queries q = (queries, .error (.noSuchQuery q)) := by
  simp [completeLocked, h, RunningQueries.remove_snd_of_none]

lemma receiveInputs_awaitingInputs {input : QueryInput Q} {config : QueryConfig}
    {gateway : Gateway Q} (h : queries.inner input.queryId = some (.awaitingInputs config gateway)) :
    receiveInputs P queries input =
      (queries.insert input.queryId (.running (P.startQuery config gateway input.inputStream)),
        .ok ()) := by
  simp [receiveInputs, h]

lemma receiveInputs_not_awaitingInputs {input : QueryInput Q} {state : QueryState Q}
    (h : queries.inner input.queryId = some state)
    (hs : ∀ config gateway, state ≠ .awaitingInputs config gateway) :
    receiveInputs P queries input =
      (queries, .error (.stateError (.invalidState state.status .running))) := by
  cases state <;> simp_all [receiveInputs]

lemma receiveInputs_none {input : QueryInput Q} (h : queries.inner input.queryId = none) :
    receiveInputs P queries input = (queries, .error (.noSuchQuery input.queryId)) := by
  simp [receiveInputs, h]

end LockedSections

/-- **`receive_inputs`' locked section, in two cases**: it starts the executor on the
`AwaitingInputs` entry it found and registers the query as `Running`, or it fails and leaves the
registry as it found it. -/
lemma receiveInputs_cases (queries : RunningQueries Q) (input : QueryInput Q) :
    (∃ config gateway, queries.inner input.queryId = some (.awaitingInputs config gateway) ∧
      receiveInputs P queries input =
        (queries.insert input.queryId (.running (P.startQuery config gateway input.inputStream)),
          .ok ())) ∨
    ∃ e, receiveInputs P queries input = (queries, .error e) := by
  rcases hq : queries.inner input.queryId with _ | state
  · exact .inr ⟨_, receiveInputs_none hq⟩
  · by_cases ha : ∃ config gateway, state = .awaitingInputs config gateway
    · obtain ⟨config, gateway, rfl⟩ := ha
      exact .inl ⟨config, gateway, rfl, receiveInputs_awaitingInputs hq⟩
    · exact .inr ⟨_, receiveInputs_not_awaitingInputs hq fun c g he => ha ⟨c, g, he⟩⟩

/-- **`complete`'s locked section, in two cases**: it takes the handle out of the `Running` entry
it found and leaves `AwaitingCompletion`, or it fails and leaves the registry as it found it. -/
lemma completeLocked_cases (queries : RunningQueries Q) (queryId : Q) :
    (∃ handle, queries.inner queryId = some (.running handle) ∧
      completeLocked queries queryId = (queries.insert queryId .awaitingCompletion, .ok handle)) ∨
    ∃ e, completeLocked queries queryId = (queries, .error e) := by
  rcases hq : queries.inner queryId with _ | state
  · exact .inr ⟨_, completeLocked_none hq⟩
  · by_cases hr : ∃ handle, state = .running handle
    · obtain ⟨handle, rfl⟩ := hr
      exact .inl ⟨handle, rfl, completeLocked_running hq⟩
    · exact .inr ⟨_, completeLocked_not_running hq fun h he => hr ⟨h, he⟩⟩

/-- Run a pending call to its next suspension point or to its return.  `sent` is what the
`PrepareQuery` sends came back with, read only by `new_query`: at its first poll, whether the left
send failed at once; waiting on the sends, what `try_join` came back with.  A call that has
returned or been dropped has no next stretch. -/
def Call.resume (queries : RunningQueries Q) (sent : Except IoError Unit) :
    Call Q → Option (Segment Q)
  | .invoked (.newQuery req transport) => some (newQueryStart P queries req transport sent)
  | .newQuerySending req prepareRequest transport =>
    some (newQueryFinish P queries req prepareRequest transport sent)
  | .newQueryFailed req transport e =>
    some ⟨queries, .returned (.newQuery req transport) (.newQuery (.error (.transport e))), []⟩
  | .invoked (.prepare req) => some (prepareStart P queries req)
  | .prepareGateway req => some (prepareFinish P queries req)
  | .invoked (.receiveInputs input) =>
    let result := receiveInputs P queries input
    some ⟨result.1, .returned (.receiveInputs input) (.receiveInputs result.2), []⟩
  | .invoked (.complete queryId) =>
    let result := completeLocked queries queryId
    match result.2 with
    | .ok handle => some ⟨result.1, .completeAwaiting queryId handle, []⟩
    | .error e => some ⟨result.1, .returned (.complete queryId) (.complete (.error e)), []⟩
  | .completeAwaiting queryId handle =>
    some ⟨queries, .returned (.complete queryId) (.complete (.ok handle.result)), []⟩
  | .returned _ _ | .dropped _ => none

/-! ## What one stretch can do -/

/-- **What one stretch can do**, read off `Call.resume` and the stretch functions: each
constructor is one way a call's next stretch can end, with the guard the code checks on the way,
the registry it leaves, where the call then stands and what it hands to the transport.
`new_query`'s `unwrap` of `try_from` is not among them: the assignment it builds is always valid
(`RoleAssignment.tryFrom_coordinator`). -/
inductive Stretch (P : ProcessorEnv Q) (queries : RunningQueries Q) (sent : Except IoError Unit) :
    Call Q → Segment Q → Prop
  /-- `new_query`'s `set_state(Preparing)` fails. -/
  | newQueryRefused {req transport e} :
    P.setState.setState queries P.queryId (.preparing req) = .error e →
    Stretch P queries sent (.invoked (.newQuery req transport))
      ⟨queries, .returned (.newQuery req transport) (.newQuery (.error (.state e))), []⟩
  /-- `new_query` registers the query as `Preparing`, and its left send does not fail at once: it
  hands its request to the transport for `left` and `right`. -/
  | newQuerySends {req transport queries' roles} :
    P.setState.setState queries P.queryId (.preparing req) = .ok queries' →
    RoleAssignment.tryFrom [(transport, .H1), (transport.others.1, .H2),
      (transport.others.2, .H3)] = some roles →
    sent = .ok () →
    Stretch P queries sent (.invoked (.newQuery req transport))
      ⟨queries', .newQuerySending req ⟨P.queryId, req, roles⟩ transport,
        [(transport.others.2, ⟨P.queryId, req, roles⟩),
          (transport.others.1, ⟨P.queryId, req, roles⟩)]⟩
  /-- `new_query` registers the query as `Preparing` and its left send fails at once: only `left`
  is handed the request. -/
  | newQueryLeftFailed {req transport queries' roles e} :
    P.setState.setState queries P.queryId (.preparing req) = .ok queries' →
    RoleAssignment.tryFrom [(transport, .H1), (transport.others.1, .H2),
      (transport.others.2, .H3)] = some roles →
    sent = .error e →
    Stretch P queries sent (.invoked (.newQuery req transport))
      ⟨queries', .newQueryFailed req transport e, [(transport.others.2, ⟨P.queryId, req, roles⟩)]⟩
  /-- `new_query` returns its left send's error. -/
  | newQueryLeftReturned {req transport e} :
    Stretch P queries sent (.newQueryFailed req transport e)
      ⟨queries, .returned (.newQuery req transport) (.newQuery (.error (.transport e))), []⟩
  /-- A send of `new_query` failed. -/
  | newQuerySendFailed {req prepareRequest transport e} :
    sent = .error e →
    Stretch P queries sent (.newQuerySending req prepareRequest transport)
      ⟨queries, .returned (.newQuery req transport) (.newQuery (.error (.transport e))), []⟩
  /-- Both sends came back; `set_state(AwaitingInputs)` fails. -/
  | newQueryStateFailed {req prepareRequest transport e} :
    sent = .ok () →
    P.setState.setState queries prepareRequest.queryId
      (.awaitingInputs req ⟨prepareRequest.queryId, prepareRequest.roles, transport⟩) = .error e →
    Stretch P queries sent (.newQuerySending req prepareRequest transport)
      ⟨queries, .returned (.newQuery req transport) (.newQuery (.error (.state e))), []⟩
  /-- Both sends came back; the query moves to `AwaitingInputs` and the request is returned. -/
  | newQueryOk {req prepareRequest transport queries'} :
    sent = .ok () →
    P.setState.setState queries prepareRequest.queryId
      (.awaitingInputs req ⟨prepareRequest.queryId, prepareRequest.roles, transport⟩) = .ok queries' →
    Stretch P queries sent (.newQuerySending req prepareRequest transport)
      ⟨queries', .returned (.newQuery req transport) (.newQuery (.ok prepareRequest)), []⟩
  /-- `prepare` refuses a request naming this helper `H1`. -/
  | prepareWrongTarget {req} :
    req.roles.role P.identity = .H1 →
    Stretch P queries sent (.invoked (.prepare req))
      ⟨queries, .returned (.prepare req) (.prepare (.error .wrongTarget)), []⟩
  /-- `prepare` refuses a query already registered. -/
  | prepareAlreadyRunning {req} :
    req.roles.role P.identity ≠ .H1 → (queries.status req.queryId).isSome →
    Stretch P queries sent (.invoked (.prepare req))
      ⟨queries, .returned (.prepare req) (.prepare (.error .alreadyRunning)), []⟩
  /-- `prepare`'s check found no entry for the id; it goes on to build its gateway. -/
  | prepareChecked {req} :
    req.roles.role P.identity ≠ .H1 → queries.inner req.queryId = none →
    Stretch P queries sent (.invoked (.prepare req)) ⟨queries, .prepareGateway req, []⟩
  /-- `prepare`'s `set_state(AwaitingInputs)` fails. -/
  | prepareStateFailed {req e} :
    P.setState.setState queries req.queryId
      (.awaitingInputs req.config ⟨req.queryId, req.roles, P.identity⟩) = .error e →
    Stretch P queries sent (.prepareGateway req)
      ⟨queries, .returned (.prepare req) (.prepare (.error (.stateError e))), []⟩
  /-- `prepare` installs the query as `AwaitingInputs`. -/
  | prepareOk {req queries'} :
    P.setState.setState queries req.queryId
      (.awaitingInputs req.config ⟨req.queryId, req.roles, P.identity⟩) = .ok queries' →
    Stretch P queries sent (.prepareGateway req)
      ⟨queries', .returned (.prepare req) (.prepare (.ok ())), []⟩
  /-- `receive_inputs` runs its locked section and returns. -/
  | receiveInputs {input} :
    Stretch P queries sent (.invoked (.receiveInputs input))
      ⟨(receiveInputs P queries input).1,
        .returned (.receiveInputs input) (.receiveInputs (receiveInputs P queries input).2), []⟩
  /-- `complete` takes a `Running` query's handle and waits on it. -/
  | completeTaken {queryId handle} :
    (completeLocked queries queryId).2 = .ok handle →
    Stretch P queries sent (.invoked (.complete queryId))
      ⟨(completeLocked queries queryId).1, .completeAwaiting queryId handle, []⟩
  /-- `complete`'s locked section refuses. -/
  | completeRefused {queryId e} :
    (completeLocked queries queryId).2 = .error e →
    Stretch P queries sent (.invoked (.complete queryId))
      ⟨(completeLocked queries queryId).1,
        .returned (.complete queryId) (.complete (.error e)), []⟩
  /-- The handle `complete` waits on resolves, and its result is returned. -/
  | completeReturned {queryId handle} :
    Stretch P queries sent (.completeAwaiting queryId handle)
      ⟨queries, .returned (.complete queryId) (.complete (.ok handle.result)), []⟩

variable {P}

/-- **Every stretch `Call.resume` runs is one of `Stretch`'s.** -/
lemma Call.resume_stretch {queries : RunningQueries Q} {sent : Except IoError Unit} {c : Call Q}
    {seg : Segment Q} (h : c.resume P queries sent = some seg) : Stretch P queries sent c seg := by
  cases c with
  | invoked call =>
    cases call with
    | newQuery req transport =>
      cases h
      obtain ⟨roles, hroles, -⟩ := RoleAssignment.tryFrom_coordinator transport
      dsimp only [newQueryStart]
      split
      · exact .newQueryRefused ‹_›
      · simp only [hroles]
        rcases sent with e | ⟨⟩
        · exact .newQueryLeftFailed ‹_› hroles rfl
        · exact .newQuerySends ‹_› hroles rfl
    | prepare =>
      cases h
      dsimp only [prepareStart]
      split_ifs with h1 h2
      · exact .prepareWrongTarget h1
      · exact .prepareAlreadyRunning h1 h2
      · exact .prepareChecked h1 (Option.map_eq_none'.1 (Option.not_isSome_iff_eq_none.1 h2))
    | receiveInputs => cases h; exact .receiveInputs
    | complete =>
      simp only [Call.resume] at h
      split at h <;> cases h
      · exact .completeTaken ‹_›
      · exact .completeRefused ‹_›
  | newQuerySending =>
    cases h
    dsimp only [newQueryFinish]
    split
    · exact .newQuerySendFailed rfl
    · split
      · exact .newQueryStateFailed rfl ‹_›
      · exact .newQueryOk rfl ‹_›
  | prepareGateway =>
    cases h
    dsimp only [prepareFinish]
    split
    · exact .prepareStateFailed ‹_›
    · exact .prepareOk ‹_›
  | newQueryFailed => cases h; exact .newQueryLeftReturned
  | completeAwaiting => cases h; exact .completeReturned
  | returned | dropped => cases h

/-- A stretch moves a call on without changing which call it is. -/
lemma Call.resume_origin {queries : RunningQueries Q} {sent : Except IoError Unit} {c : Call Q}
    {seg : Segment Q} (h : c.resume P queries sent = some seg) : seg.call.origin = c.origin := by
  cases Call.resume_stretch h <;> rfl

end IpaHelper
