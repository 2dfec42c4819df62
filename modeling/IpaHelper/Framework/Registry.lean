import IpaHelper.Framework.Identity

/-!
# The running-queries registry

The data the processor keeps per query (`crate::query::state`, outside the sources): the
`QueryState` variants of spec §3, their payload-free `QueryStatus`, and `RunningQueries`, the map
from query id to state behind the registry's one mutex.  The map is read as the function it is,
so two registries are equal exactly when they hold the same state at every id; that is the
equality under which `HashMap`s compare, and the one a remove-then-reinsert has to restore.

`Empty` is the spec's state of an absent key: `QueryState` has no variant for it, and
`RunningQueries.lifecycle` reads an absent key as `QueryStatus.empty`.

`QueryHandle::set_state` is not in the sources either.  The processor is verified against every
`set_state` that obeys `SetState`: a failed call returns no registry, so the map stays as it was,
and a successful one installs exactly the requested state at its own id along an edge of the
lifecycle graph `QueryStatus.canTransition`.  `lifecycleSetState`, the spec's own
`QueryState::transition`, is one such `set_state`.
-/

namespace IpaHelper

/-- Modelled from the spec: the field a query computes over (`ff::FieldType`). -/
inductive FieldType
  | fp31
  | fp32BitPrime
  deriving DecidableEq, Repr

/-- Modelled from the spec: the protocol a query runs (`helpers::query::QueryType`).  The IPA tuning
parameters are read by no function of the model and are left out. -/
inductive QueryType
  | testMultiply
  | ipa
  deriving DecidableEq, Repr

/-- Modelled from the spec: `QueryConfig { field_type, query_type }`. -/
structure QueryConfig where
  fieldType : FieldType
  queryType : QueryType
  deriving DecidableEq, Repr

/-- Modelled from the spec: a query's channel multiplexer (`helpers::Gateway`), recorded by what it
is built from: the query it serves, its role assignment, and the helper whose transport it owns.
The `GatewayConfig::default()` every construction passes is left out. -/
structure Gateway (Q : Type) where
  queryId : Q
  roles : RoleAssignment
  identity : HelperIdentity

/-- Modelled from the spec: the bytes a finished query hands back (`Box<dyn ProtocolResult>`,
through `into_bytes`). -/
structure ProtocolResult where
  bytes : List UInt8
  deriving DecidableEq, Repr

/-- Modelled from the spec: the executor's handle on a started query (`executor::start_query`);
awaiting it yields the protocol's result. -/
structure CompletionHandle where
  result : ProtocolResult
  deriving DecidableEq, Repr

/-- Modelled from the spec: a query's state on this helper (`QueryState`); an absent key is the
spec's `Empty`. -/
inductive QueryState (Q : Type)
  | preparing (config : QueryConfig)
  | awaitingInputs (config : QueryConfig) (gateway : Gateway Q)
  | running (handle : CompletionHandle)
  | awaitingCompletion
  | completed

/-- Modelled from the spec: the observable projection of a state (`QueryStatus`), `empty`
included. -/
inductive QueryStatus
  | empty
  | preparing
  | awaitingInputs
  | running
  | awaitingCompletion
  | completed
  deriving DecidableEq, Repr

/-- Modelled from the spec: `StateError`, an illegal transition, or the `Empty → Preparing`
collision. -/
inductive StateError
  | invalidState («from» «to» : QueryStatus)
  | alreadyRunning
  deriving DecidableEq, Repr

variable {Q : Type}

/-- Modelled from the spec: `QueryStatus::from(&QueryState)`. -/
def QueryState.status : QueryState Q → QueryStatus
  | .preparing _ => .preparing
  | .awaitingInputs _ _ => .awaitingInputs
  | .running _ => .running
  | .awaitingCompletion => .awaitingCompletion
  | .completed => .completed

namespace QueryStatus

/-- Modelled from the spec: the lifecycle graph, the total order
`Empty → Preparing → AwaitingInputs → Running → AwaitingCompletion → Completed` of spec §3, with
the follower's entry `Empty → AwaitingInputs` that `prepare` makes (§4.5.2). -/
def canTransition : QueryStatus → QueryStatus → Bool
  | empty, preparing | empty, awaitingInputs | preparing, awaitingInputs
  | awaitingInputs, running | running, awaitingCompletion | awaitingCompletion, completed => true
  | _, _ => false

/-- A status's place in the lifecycle order. -/
def rank : QueryStatus → Nat
  | empty => 0
  | preparing => 1
  | awaitingInputs => 2
  | running => 3
  | awaitingCompletion => 4
  | completed => 5

/-- The only edge into `Preparing` leaves `Empty`. -/
lemma eq_empty_of_canTransition_preparing {a : QueryStatus} (h : canTransition a preparing) :
    a = empty := by
  cases a <;> first | rfl | exact absurd h (by decide)

/-- The only edges into `AwaitingInputs` leave `Empty` and `Preparing`. -/
lemma rank_le_one_of_canTransition_awaitingInputs {a : QueryStatus}
    (h : canTransition a awaitingInputs) : a.rank ≤ 1 := by
  cases a <;> first | decide | exact absurd h (by decide)

end QueryStatus

/-- Modelled from the spec: the registry (`RunningQueries`), the map behind its mutex, read as a
function from query id to the state stored there. -/
@[ext]
structure RunningQueries (Q : Type) where
  inner : Q → Option (QueryState Q)

namespace RunningQueries

/-- Modelled from the spec: `RunningQueries::default()`, no query registered. -/
def empty : RunningQueries Q := ⟨fun _ => none⟩

@[simp] lemma empty_inner (q : Q) : (empty : RunningQueries Q).inner q = none := rfl

variable [DecidableEq Q]

/-- `HashMap::insert`. -/
def insert (queries : RunningQueries Q) (queryId : Q) (state : QueryState Q) : RunningQueries Q :=
  ⟨Function.update queries.inner queryId (some state)⟩

/-- `HashMap::remove`: the state taken out, and the map without it. -/
def remove (queries : RunningQueries Q) (queryId : Q) : Option (QueryState Q) × RunningQueries Q :=
  (queries.inner queryId, ⟨Function.update queries.inner queryId none⟩)

/-- Modelled from the spec: `QueryHandle::status`, the status of a registered query, `none` for an
absent key. -/
def status (queries : RunningQueries Q) (queryId : Q) : Option QueryStatus :=
  (queries.inner queryId).map QueryState.status

/-- The status on the lifecycle graph, an absent key read as `Empty`. -/
def lifecycle (queries : RunningQueries Q) (queryId : Q) : QueryStatus :=
  match queries.inner queryId with
  | some state => state.status
  | none => .empty

@[simp] lemma insert_inner_self (queries : RunningQueries Q) (q : Q) (state : QueryState Q) :
    (queries.insert q state).inner q = some state := by
  simp [insert]

@[simp] lemma insert_inner_of_ne (queries : RunningQueries Q) {q q' : Q} (state : QueryState Q)
    (h : q' ≠ q) : (queries.insert q state).inner q' = queries.inner q' := by
  simp [insert, h]

@[simp] lemma remove_fst (queries : RunningQueries Q) (q : Q) :
    (queries.remove q).1 = queries.inner q := rfl

/-- Putting back what `remove` took out restores the map. -/
@[simp] lemma remove_insert_self (queries : RunningQueries Q) {q : Q} {state : QueryState Q}
    (h : queries.inner q = some state) : (queries.remove q).2.insert q state = queries := by
  ext1; simp [remove, insert, ← h]

/-- Inserting over a removal is the plain insert. -/
@[simp] lemma remove_insert (queries : RunningQueries Q) (q : Q) (state : QueryState Q) :
    (queries.remove q).2.insert q state = queries.insert q state := by
  ext1; simp [remove, insert]

/-- Removing an absent key changes nothing. -/
lemma remove_snd_of_none (queries : RunningQueries Q) {q : Q} (h : queries.inner q = none) :
    (queries.remove q).2 = queries := by
  ext1; simp [remove, ← h]

@[simp] lemma lifecycle_insert_self (queries : RunningQueries Q) (q : Q) (state : QueryState Q) :
    (queries.insert q state).lifecycle q = state.status := by
  simp [lifecycle]

omit [DecidableEq Q] in
lemma lifecycle_of_inner {queries : RunningQueries Q} {q : Q} {state : QueryState Q}
    (h : queries.inner q = some state) : queries.lifecycle q = state.status := by
  simp [lifecycle, h]

omit [DecidableEq Q] in
lemma lifecycle_congr {queries queries' : RunningQueries Q} {q : Q}
    (h : queries'.inner q = queries.inner q) : queries'.lifecycle q = queries.lifecycle q := by
  simp [lifecycle, h]

omit [DecidableEq Q] in
/-- An id holds an entry exactly when its status is past `Empty`. -/
lemma isSome_iff_rank_pos {queries : RunningQueries Q} {q : Q} :
    (queries.inner q).isSome ↔ 0 < (queries.lifecycle q).rank := by
  unfold lifecycle
  rcases queries.inner q with _ | state
  · simp [QueryStatus.rank]
  · cases state <;> simp [QueryState.status, QueryStatus.rank]

end RunningQueries

variable [DecidableEq Q]

/-- What the processor relies on from `QueryHandle::set_state` (`crate::query::state`): a failed
call returns no registry, so the map stays as it was; a successful one installs exactly the
requested state at its own id, along an edge of the lifecycle graph. -/
structure SetState (Q : Type) [DecidableEq Q] where
  setState : RunningQueries Q → Q → QueryState Q → Except StateError (RunningQueries Q)
  setState_ok : ∀ {queries queryId state queries'},
    setState queries queryId state = .ok queries' →
      queries' = queries.insert queryId state ∧
        (queries.lifecycle queryId).canTransition state.status

namespace SetState

variable (S : SetState Q) {queries queries' : RunningQueries Q} {q : Q}

/-- A successful `set_state(Preparing)` found the id absent. -/
lemma preparing_ok {config : QueryConfig}
    (h : S.setState queries q (.preparing config) = .ok queries') :
    queries.inner q = none ∧ queries' = queries.insert q (.preparing config) := by
  obtain ⟨rfl, hc⟩ := S.setState_ok h
  refine ⟨?_, rfl⟩
  have he := QueryStatus.eq_empty_of_canTransition_preparing hc
  unfold RunningQueries.lifecycle at he
  split at he
  · rename_i state _; cases state <;> cases he
  · assumption

/-- A successful `set_state(AwaitingInputs)` found the id `Empty` or `Preparing`, and leaves it
`AwaitingInputs`. -/
lemma awaitingInputs_ok {config : QueryConfig} {gateway : Gateway Q}
    (h : S.setState queries q (.awaitingInputs config gateway) = .ok queries') :
    (queries.lifecycle q).rank ≤ 1 ∧ queries'.lifecycle q = .awaitingInputs := by
  obtain ⟨rfl, hc⟩ := S.setState_ok h
  exact ⟨QueryStatus.rank_le_one_of_canTransition_awaitingInputs hc, by simp [QueryState.status]⟩

end SetState

/-- Modelled from the spec: `QueryState::transition` (§3, §4.4).  A move along the lifecycle graph
succeeds with the requested state; any other move into `Preparing` is the `AlreadyRunning`
collision, and every other one is `InvalidState { from, to }`. -/
def QueryState.transition (current : QueryStatus) (state : QueryState Q) :
    Except StateError (QueryState Q) :=
  if current.canTransition state.status then .ok state
  else if state.status = .preparing then .error .alreadyRunning
  else .error (.invalidState current state.status)

/-- Modelled from the spec: `QueryHandle::set_state`, which under the registry lock moves the entry
(an absent one read as `Empty`) through `transition` and writes the result back. -/
def lifecycleSetState : SetState Q where
  setState queries queryId state :=
    (QueryState.transition (queries.lifecycle queryId) state).map (queries.insert queryId)
  setState_ok {queries queryId state queries'} h := by
    dsimp only [QueryState.transition] at h
    split at h
    · cases h; exact ⟨rfl, ‹_›⟩
    · split at h <;> cases h

end IpaHelper
