import IpaHelper.Properties.Installed

/-!
# The three-helper handshake

One `World` per helper, and the transport between them.  A coordinator's `new_query` hands two
`PrepareQuery` requests to its transport (`World.sent`); the transport delivers each at most
once, starting a `prepare` call on its destination; and the coordinator's `try_join` comes back
`Ok` only once both destinations have acknowledged, that is, once the `prepare` calls the
requests started there have returned `Ok`.  That is the contract of `Transport::send`, which
blocks "until the request is acknowledged by the remote party".  A send may fail at any time,
and a request stays deliverable after the call that sent it has returned or been dropped.
Anything else a helper's callers or runtime do is a `World` action on that helper.

**Agreement** (`handshake_agreement`).  Over every run of the three helpers from fresh
processors, once a coordinator's `new_query` has returned `Ok(request)`: the request names the
coordinator `H1` and its right and left neighbours `H2` and `H3`; and on each of the three
helpers exactly one setup call has returned `Ok` for the query, it carries that request (the
coordinator's `new_query`, and on each peer a `prepare` of that very request), and the query is
at `AwaitingInputs` or later.

**The same query everywhere** (`helpers_run_request`, `helpers_complete_request`).  Then on every
helper the query's `AwaitingInputs` entry holds the request's config and a gateway for the
request's id and role assignment on that helper, its `Running` entry the executor started with
them, and a `complete` of the query returns that executor's result.

**One coordinator per query** (`one_coordinator_per_query`).  At most one `new_query` call, on any
helper, returns `Ok` for a query id: two that did are the same call, since the coordinator's own
setup call is the one every helper installs and it names its helper `H1`.  Followers are not so
bounded: two coordinators' requests for one id can each be accepted by a peer, and then neither
coordinator's `new_query` returns `Ok`.

Each helper's processor, seen alone, follows a run of the single-processor model
(`Network.helper_run`), so the results of `Properties/` hold on every helper.
-/

namespace IpaHelper

/-- The transport carried message `index` of `source` to its destination, where it started the
`prepare` call at `prepareCall`. -/
structure Delivery (Q : Type) where
  source : HelperIdentity
  index : Nat
  message : Message Q
  prepareCall : Nat

/-- The three helpers' processors, and what the transport has delivered between them. -/
structure Network (Q : Type) where
  helpers : HelperIdentity → World Q
  deliveries : List (Delivery Q)

/-- One processor per helper, each on its own helper's transport. -/
structure Helpers (Q : Type) [DecidableEq Q] where
  env : HelperIdentity → ProcessorEnv Q
  env_identity : ∀ h, (env h).identity = h

/-- One move of the three helpers or of the transport. -/
inductive NetAction (Q : Type)
  /-- An action of one helper's callers or runtime. -/
  | act (h : HelperIdentity) (a : Action Q)
  /-- The transport delivers message `index` of `source`. -/
  | deliver (source : HelperIdentity) (index : Nat)

variable {Q : Type} [DecidableEq Q]

/-- A `prepare` of `request` that returned `Ok`. -/
def Call.acceptedPrepare (request : PrepareQuery Q) : Call Q → Bool
  | .returned (.prepare req) (.prepare (.ok ())) => req == request
  | _ => false

/-! ## What a coordinator's request says -/

/-- The request `new_query` builds: the allocated id, the caller's config, and the assignment
naming the transport's helper `H1` and its right and left neighbours `H2` and `H3`. -/
structure CoordinatorRequest (P : ProcessorEnv Q) (req : QueryConfig) (transport : HelperIdentity)
    (request : PrepareQuery Q) : Prop where
  queryId : request.queryId = P.queryId
  config : request.config = req
  coordinator : request.roles.role transport = .H1
  right : request.roles.role transport.others.1 = .H2
  left : request.roles.role transport.others.2 = .H3

section Coordinator

variable {P : ProcessorEnv Q} {queries : RunningQueries Q}

/-- The request `new_query` builds from its transport's triple is a coordinator's request. -/
lemma CoordinatorRequest.of_tryFrom {req : QueryConfig} {t : HelperIdentity} {roles : RoleAssignment}
    (h : RoleAssignment.tryFrom [(t, .H1), (t.others.1, .H2), (t.others.2, .H3)] = some roles) :
    CoordinatorRequest P req t ⟨P.queryId, req, roles⟩ := by
  obtain ⟨_, hr, h1, h2, h3⟩ := RoleAssignment.tryFrom_coordinator t
  cases h.symm.trans hr
  exact ⟨rfl, rfl, h1, h2, h3⟩

/-- A call comes to hold a coordinator's request only from `new_query`'s first stretch, which
builds it. -/
lemma Call.resume_newQuerySending {c : Call Q} {sent : Except IoError Unit} {seg : Segment Q}
    (h : c.resume P queries sent = some seg) {req : QueryConfig} {t : HelperIdentity}
    {request : PrepareQuery Q} (hs : seg.call = .newQuerySending req request t) :
    c = .invoked (.newQuery req t) ∧ CoordinatorRequest P req t request := by
  cases Call.resume_stretch h with
  | newQuerySends _ hroles => cases hs; exact ⟨rfl, .of_tryFrom hroles⟩
  | _ => cases hs

/-- A call returns a coordinator's request only from `new_query`'s second stretch, after both
sends came back `Ok`. -/
lemma Call.resume_newQuery_ok {c : Call Q} {sent : Except IoError Unit} {seg : Segment Q}
    (h : c.resume P queries sent = some seg) {req : QueryConfig} {t : HelperIdentity}
    {request : PrepareQuery Q}
    (hs : seg.call = .returned (.newQuery req t) (.newQuery (.ok request))) :
    c = .newQuerySending req request t ∧ sent = .ok () := by
  cases Call.resume_stretch h with
  | newQueryOk hsent => cases hs; exact ⟨rfl, hsent⟩
  | _ => cases hs

/-- Every coordinator's request a call holds or has returned is the one `new_query` builds. -/
def RequestsWf (P : ProcessorEnv Q) (w : World Q) : Prop :=
  ∀ (k : Nat) (c : Call Q), w.calls[k]? = some c →
    ∀ (req : QueryConfig) (t : HelperIdentity) (request : PrepareQuery Q),
    (c = .newQuerySending req request t ∨ c = .returned (.newQuery req t) (.newQuery (.ok request))) →
      CoordinatorRequest P req t request

lemma World.step_requestsWf {w w' : World Q} {a : Action Q} (h : w.step P a = some w')
    (hi : RequestsWf P w) : RequestsWf P w' := by
  intro k c' hk req t request hform
  rcases World.step_call_cases h hk with he | ⟨c, sent, seg, hc, -, hr, rfl, -⟩ | ⟨c, -, -, -, rfl⟩ |
      ⟨-, -, he⟩
  · exact hi k c' he req t request hform
  · rcases hform with hs | hs
    · exact (Call.resume_newQuerySending hr hs).2
    · obtain ⟨rfl, -⟩ := Call.resume_newQuery_ok hr hs
      exact hi k _ hc req t request (.inl rfl)
  · rcases hform with h | h <;> cases h
  · rw [he] at hform; rcases hform with h | h <;> cases h

lemma World.run_requestsWf {w w' : World Q} {as : List (Action Q)} (h : w.run P as = some w')
    (hi : RequestsWf P w) : RequestsWf P w' :=
  World.run_preserves (RequestsWf P) (fun hi hs => World.step_requestsWf hs hi) h hi

end Coordinator

namespace Network

lemma Call.acceptedPrepare_iff {request : PrepareQuery Q} {c : Call Q} :
    c.acceptedPrepare request ↔ c = .returned (.prepare request) (.prepare (.ok ())) := by
  unfold Call.acceptedPrepare
  split
  · simp
  · rename_i hc
    simp only [Bool.false_eq_true, false_iff]
    exact fun he => hc _ he

/-- `dest` has acknowledged `request` from `source`'s call `i`: the transport delivered it there
and the `prepare` it started returned `Ok`. -/
def acked (n : Network Q) (source : HelperIdentity) (i : Nat) (dest : HelperIdentity)
    (request : PrepareQuery Q) : Bool :=
  n.deliveries.any fun d => d.source == source && d.message.call == i && d.message.dest == dest &&
    ((n.helpers dest).calls[d.prepareCall]?.map (Call.acceptedPrepare request)).getD false

/-- What the transport allows a helper: a `new_query` runs on the helper's own transport, and its
sends come back `Ok` only once both peers have acknowledged its request. -/
def permits (n : Network Q) (h : HelperIdentity) : Action Q → Bool
  | .invoke (.newQuery _ transport) => transport == h
  | .poll i (.ok ()) =>
    match (n.helpers h).calls[i]? with
    | some (.newQuerySending _ request transport) =>
      n.acked h i transport.others.1 request && n.acked h i transport.others.2 request
    | _ => true
  | _ => true

/-- Fresh processors on all three helpers. -/
def init : Network Q := ⟨fun _ => .init, []⟩

variable (H : Helpers Q)

/-- One move, when it is possible: a helper's action when the transport permits it, a delivery
of a message not delivered before. -/
def step (n : Network Q) : NetAction Q → Option (Network Q)
  | .act h a =>
    if n.permits h a then
      ((n.helpers h).step (H.env h) a).map fun w =>
        { n with helpers := Function.update n.helpers h w }
    else none
  | .deliver source index =>
    match (n.helpers source).sent[index]? with
    | some m =>
      if n.deliveries.any (fun d => d.source == source && d.index == index) then none
      else
        ((n.helpers m.dest).step (H.env m.dest) (.invoke (.prepare m.request))).map fun w =>
          ⟨Function.update n.helpers m.dest w,
            n.deliveries ++ [⟨source, index, m, (n.helpers m.dest).calls.length⟩]⟩
    | none => none

/-- A run of the three helpers. -/
def run (n : Network Q) : List (NetAction Q) → Option (Network Q)
  | [] => some n
  | a :: as => (n.step H a).bind fun n' => n'.run as

variable {H}

lemma run_cons {n n' : Network Q} {a : NetAction Q} {as : List (NetAction Q)} :
    n.run H (a :: as) = some n' ↔ ∃ n₁, n.step H a = some n₁ ∧ n₁.run H as = some n' := by
  simp [run, Option.bind_eq_some]

/-- **What one move can do**: one helper's action, which the transport permits, or a delivery,
which starts a `prepare` of the message's request on its destination. -/
lemma step_cases {n n' : Network Q} {a : NetAction Q} (h : n.step H a = some n') :
    (∃ x a' w, a = .act x a' ∧ n.permits x a' ∧ (n.helpers x).step (H.env x) a' = some w ∧
      n'.helpers = Function.update n.helpers x w ∧ n'.deliveries = n.deliveries) ∨
    (∃ source index m w, a = .deliver source index ∧ (n.helpers source).sent[index]? = some m ∧
      (n.helpers m.dest).step (H.env m.dest) (.invoke (.prepare m.request)) = some w ∧
      n'.helpers = Function.update n.helpers m.dest w ∧
      n'.deliveries = n.deliveries ++ [⟨source, index, m, (n.helpers m.dest).calls.length⟩]) := by
  cases a with
  | act x a =>
    simp only [step] at h
    split at h
    · obtain ⟨w, hw, rfl⟩ := Option.map_eq_some'.1 h
      exact .inl ⟨x, a, w, rfl, ‹_›, hw, rfl, rfl⟩
    · cases h
  | deliver source index =>
    simp only [step] at h
    split at h
    · split at h
      · cases h
      · obtain ⟨w, hw, rfl⟩ := Option.map_eq_some'.1 h
        exact .inr ⟨source, index, _, w, rfl, ‹_›, hw, rfl, rfl⟩
    · cases h

/-- **What one move does to helper `x`**: nothing, an action of its own that the transport
permits, or the `prepare` a delivery to `x` starts. -/
lemma step_helper_cases {n n' : Network Q} {a : NetAction Q} (h : n.step H a = some n')
    (x : HelperIdentity) :
    n'.helpers x = n.helpers x ∨
    (∃ a', a = .act x a' ∧ n.permits x a' ∧ (n.helpers x).step (H.env x) a' = some (n'.helpers x)) ∨
    (∃ (source : HelperIdentity) (index : Nat) (m : Message Q), a = .deliver source index ∧ m.dest = x ∧
      (n.helpers x).step (H.env x) (.invoke (.prepare m.request)) = some (n'.helpers x)) := by
  rcases step_cases h with ⟨y, a', w, rfl, hp, hw, hn, -⟩ | ⟨source, index, m, w, rfl, -, hw, hn, -⟩
  · by_cases hx : x = y
    · subst hx; exact .inr (.inl ⟨a', rfl, hp, by rwa [hn, Function.update_same]⟩)
    · exact .inl (by rw [hn, Function.update_noteq hx])
  · by_cases hx : x = m.dest
    · subst hx; exact .inr (.inr ⟨source, index, m, rfl, rfl, by rwa [hn, Function.update_same]⟩)
    · exact .inl (by rw [hn, Function.update_noteq hx])

/-- **Each helper on its own.**  A move of the system moves each helper's processor by one action
of the single-processor model, or not at all. -/
lemma step_helpers {n n' : Network Q} {a : NetAction Q} (h : n.step H a = some n')
    (x : HelperIdentity) :
    n'.helpers x = n.helpers x ∨ ∃ a', (n.helpers x).step (H.env x) a' = some (n'.helpers x) := by
  rcases step_helper_cases h x with he | ⟨a', -, -, hw⟩ | ⟨_, _, _, -, -, hw⟩
  · exact .inl he
  · exact .inr ⟨a', hw⟩
  · exact .inr ⟨_, hw⟩

/-- What every move of a kind keeps holds over every run made of such moves. -/
lemma run_preserves_of (A : NetAction Q → Prop) (I : Network Q → Prop)
    (hstep : ∀ {n n' : Network Q} {a : NetAction Q}, A a → I n → n.step H a = some n' → I n')
    {as : List (NetAction Q)} (has : ∀ a ∈ as, A a) {n₀ n : Network Q} (h : n₀.run H as = some n)
    (h₀ : I n₀) : I n := by
  induction as generalizing n₀ with
  | nil => cases h; exact h₀
  | cons a as ih =>
    obtain ⟨n₁, h₁, h₂⟩ := run_cons.1 h
    exact ih (fun b hb => has b (List.mem_cons_of_mem a hb)) h₂
      (hstep (has a (List.mem_cons_self a as)) h₀ h₁)

/-- What every move keeps holds over every run. -/
lemma run_preserves (I : Network Q → Prop)
    (hstep : ∀ {n n' : Network Q} {a : NetAction Q}, I n → n.step H a = some n' → I n')
    {as : List (NetAction Q)} {n₀ n : Network Q} (h : n₀.run H as = some n) (h₀ : I n₀) : I n :=
  run_preserves_of (fun _ => True) I (fun _ => hstep) (fun _ _ => trivial) h h₀

/-- Over a run of the system, each helper's processor follows a run of its own. -/
lemma helper_run {as : List (NetAction Q)} {n : Network Q} (h : init.run H as = some n)
    (x : HelperIdentity) : ∃ as', World.init.run (H.env x) as' = some (n.helpers x) := by
  refine run_preserves (fun n => ∃ as', World.init.run (H.env x) as' = some (n.helpers x))
    ?_ h ⟨[], rfl⟩
  rintro n₁ n₂ a ⟨as₀, h₀⟩ hs
  rcases step_helpers hs x with he | ⟨a', ha'⟩
  · exact ⟨as₀, he ▸ h₀⟩
  · exact ⟨as₀ ++ [a'], World.run_snoc h₀ ha'⟩

/-- A call that has returned keeps what it returned through every move. -/
lemma step_returned {n n' : Network Q} {a : NetAction Q} (h : n.step H a = some n')
    {x : HelperIdentity} {j : Nat} {call : Invocation Q} {o : Outcome Q}
    (hj : (n.helpers x).calls[j]? = some (.returned call o)) :
    (n'.helpers x).calls[j]? = some (.returned call o) := by
  rcases step_helpers h x with he | ⟨a', ha'⟩
  · rwa [he]
  · obtain ⟨c', hc', -, hsame⟩ := World.step_calls ha' hj
    rw [hc', hsame rfl]

/-- An acknowledgement is a `prepare` of the request that returned `Ok` on its destination. -/
lemma acked_spec {n : Network Q} {source dest : HelperIdentity} {i : Nat}
    {request : PrepareQuery Q} (h : n.acked source i dest request) :
    ∃ j : Nat, (n.helpers dest).calls[j]? = some (.returned (.prepare request) (.prepare (.ok ()))) := by
  obtain ⟨d, -, hd⟩ := List.any_eq_true.1 h
  simp only [Bool.and_eq_true] at hd
  cases hc : (n.helpers dest).calls[d.prepareCall]? with
  | none => simp [hc] at hd
  | some c =>
    simp only [hc, Option.map_some', Option.getD_some] at hd
    exact ⟨d.prepareCall, by rw [hc, Call.acceptedPrepare_iff.1 hd.2]⟩

/-- What the transport keeps true of the three helpers. -/
structure HandshakeInv (n : Network Q) : Prop where
  /-- Every `new_query` runs on its own helper's transport. -/
  ownTransport : ∀ (x : HelperIdentity) (k : Nat) (c : Call Q), (n.helpers x).calls[k]? = some c →
    ∀ req t, c.origin = .newQuery req t → t = x
  /-- A `new_query` that returned `Ok` was acknowledged by both peers of its transport. -/
  acked : ∀ (x : HelperIdentity) (k : Nat) req (t : HelperIdentity) (request : PrepareQuery Q),
    (n.helpers x).calls[k]? = some (.returned (.newQuery req t) (.newQuery (.ok request))) →
    ∀ d, d = t.others.1 ∨ d = t.others.2 →
      ∃ j : Nat, (n.helpers d).calls[j]? = some (.returned (.prepare request) (.prepare (.ok ())))

omit [DecidableEq Q] in
lemma handshakeInv_init : HandshakeInv (init : Network Q) :=
  ⟨fun _ _ _ h => by simp [init, World.init] at h, fun _ _ _ _ _ h => by simp [init, World.init] at h⟩

lemma step_handshakeInv {n n' : Network Q} {a : NetAction Q} (h : n.step H a = some n')
    (hi : HandshakeInv n) : HandshakeInv n' := by
  constructor
  · intro x k c' hk req t ho
    rcases step_helper_cases h x with he | ⟨a', -, hp, hw⟩ | ⟨_, _, _, -, -, hw⟩
    · rw [he] at hk; exact hi.ownTransport x k c' hk req t ho
    · rcases World.step_origin hw hk with ⟨c, hc, he⟩ | rfl
      · exact hi.ownTransport x k c hc req t (he.trans ho)
      · rw [ho] at hp; simpa [permits] using hp
    · rcases World.step_origin hw hk with ⟨c, hc, he⟩ | ha
      · exact hi.ownTransport x k c hc req t (he.trans ho)
      · rw [ho] at ha; cases ha
  · intro x k req t request hk d hd
    suffices ∃ j : Nat,
        (n.helpers d).calls[j]? = some (.returned (.prepare request) (.prepare (.ok ()))) by
      obtain ⟨j, hj⟩ := this; exact ⟨j, step_returned h hj⟩
    rcases step_helper_cases h x with he | ⟨a', -, hp, hw⟩ | ⟨_, _, _, -, -, hw⟩
    · rw [he] at hk; exact hi.acked x k req t request hk d hd
    · rcases World.step_call_cases hw hk with he | ⟨c, sent, seg, hc, rfl, hr, hs, -⟩ |
          ⟨_, -, -, -, he⟩ | ⟨-, -, he⟩
      · exact hi.acked x k req t request he d hd
      · -- `new_query` resumed past its sends: the transport let them come back `Ok`
        obtain ⟨rfl, rfl⟩ := Call.resume_newQuery_ok hr hs
        simp only [permits, hc, Bool.and_eq_true] at hp
        rcases hd with rfl | rfl
        · exact acked_spec hp.1
        · exact acked_spec hp.2
      · cases he
      · cases he
    · rcases World.step_call_cases hw hk with he | ⟨_, _, _, -, ha, -⟩ | ⟨_, -, -, ha, -⟩ |
          ⟨-, -, he⟩
      · exact hi.acked x k req t request he d hd
      · cases ha
      · cases ha
      · cases he

lemma run_handshakeInv {as : List (NetAction Q)} {n : Network Q} (hn : init.run H as = some n) :
    HandshakeInv n :=
  run_preserves HandshakeInv (fun hi hs => step_handshakeInv hs hi) hn handshakeInv_init

end Network

/-! ## Agreement -/

section Agreement

variable {H : Helpers Q} {as : List (NetAction Q)} {n : Network Q} {c : HelperIdentity} {k : Nat}
  {req : QueryConfig} {t : HelperIdentity} {request : PrepareQuery Q}

/-- Once a coordinator's `new_query` has returned `Ok(request)`: it ran on the coordinator's own
transport, `request` is what `new_query` builds there, and each peer has a `prepare` of `request`
that returned `Ok`. -/
lemma Network.coordinator_ok (hn : Network.init.run H as = some n)
    (hk : (n.helpers c).calls[k]? = some (.returned (.newQuery req t) (.newQuery (.ok request)))) :
    t = c ∧ CoordinatorRequest (H.env c) req c request ∧
    ∀ d, d ≠ c → ∃ j : Nat,
      (n.helpers d).calls[j]? = some (.returned (.prepare request) (.prepare (.ok ()))) := by
  have hinv := Network.run_handshakeInv hn
  obtain rfl := hinv.ownTransport c k _ hk req t rfl
  obtain ⟨_, h⟩ := Network.helper_run hn t
  refine ⟨rfl, World.run_requestsWf h (fun _ _ h => by simp [World.init] at h) k _ hk req t
    request (.inr rfl), fun d hd => ?_⟩
  exact hinv.acked t k req t request hk d ((HelperIdentity.eq_or_others t d).resolve_left hd)

/-- Each helper then has the setup call of the query: the coordinator its `new_query`, a peer
its `prepare`; each installed the request's config and a gateway for the request on its helper. -/
lemma Network.setup_call (hn : Network.init.run H as = some n)
    (hk : (n.helpers c).calls[k]? = some (.returned (.newQuery req t) (.newQuery (.ok request))))
    (x : HelperIdentity) :
    ∃ (j : Nat) (c' : Call Q), (n.helpers x).calls[j]? = some c' ∧
      c'.installed (H.env x) request.queryId =
        some (request.config, ⟨request.queryId, request.roles, x⟩) := by
  obtain ⟨rfl, hreq, hpeer⟩ := Network.coordinator_ok hn hk
  by_cases hx : x = t
  · subst hx; exact ⟨k, _, hk, by simp [Call.installed, hreq.config]⟩
  · obtain ⟨j, hj⟩ := hpeer x hx
    exact ⟨j, _, hj, by simp [Call.installed, H.env_identity]⟩

/-- On every helper, whatever a call installed for the query is the request's config and a
gateway for the request on that helper: the helper's one setup call is the one `setup_call`
finds. -/
lemma Network.installs_request (hn : Network.init.run H as = some n)
    (hk : (n.helpers c).calls[k]? = some (.returned (.newQuery req t) (.newQuery (.ok request))))
    (x : HelperIdentity) {x' : QueryConfig × Gateway Q}
    (hx : Installs (H.env x) request.queryId (n.helpers x) x') :
    x' = (request.config, ⟨request.queryId, request.roles, x⟩) := by
  obtain ⟨j, c₀, hj, hins₀⟩ := Network.setup_call hn hk x
  obtain ⟨_, h⟩ := Network.helper_run hn x
  obtain ⟨k', c', hk', hc'⟩ := hx
  rw [(World.run_onceInv (setupOk_movesOnce _ _) h).unique hj (Call.setupOk_of_installed hins₀)
    (List.getElem?_mem hk') (Call.setupOk_of_installed hc'), hins₀] at hc'
  exact (Option.some.inj hc').symm

/-- **Agreement.**  Over every run of the three helpers, once a coordinator's `new_query` has
returned `Ok(request)`: it ran on the coordinator's own transport; the request is the one
`new_query` builds, naming the coordinator `H1` and its right and left neighbours `H2` and `H3`;
each peer has a `prepare` of that very request that returned `Ok`; and on every helper exactly
one setup call has returned `Ok` for the query, which is at `AwaitingInputs` or later. -/
theorem handshake_agreement (H : Helpers Q) {as : List (NetAction Q)} {n : Network Q}
    (hn : Network.init.run H as = some n) {c : HelperIdentity} {k : Nat} {req : QueryConfig}
    {t : HelperIdentity} {request : PrepareQuery Q}
    (hk : (n.helpers c).calls[k]? = some (.returned (.newQuery req t) (.newQuery (.ok request)))) :
    t = c ∧ CoordinatorRequest (H.env c) req c request ∧
    (∀ d, d ≠ c → ∃ j : Nat,
      (n.helpers d).calls[j]? = some (.returned (.prepare request) (.prepare (.ok ())))) ∧
    ∀ x, (n.helpers x).calls.countP (·.setupOk request.queryId) = 1 ∧
      2 ≤ ((n.helpers x).queries.lifecycle request.queryId).rank := by
  obtain ⟨ht, hreq, hpeer⟩ := Network.coordinator_ok hn hk
  refine ⟨ht, hreq, hpeer, fun x => ?_⟩
  obtain ⟨j, c', hj, hins⟩ := Network.setup_call hn hk x
  obtain ⟨_, h⟩ := Network.helper_run hn x
  exact (World.run_onceInv (setupOk_movesOnce _ _) h).of_mark hj (Call.setupOk_of_installed hins)

/-- **Every helper runs the coordinator's query.**  Over every run of the three helpers, once a
coordinator's `new_query` has returned `Ok(request)`, on every helper: an `AwaitingInputs` entry
for the query holds the request's config and a gateway for the request's id and role assignment
on that helper, and a `Running` entry holds the executor `start_query` started with them. -/
theorem helpers_run_request (H : Helpers Q) {as : List (NetAction Q)} {n : Network Q}
    (hn : Network.init.run H as = some n) {c : HelperIdentity} {k : Nat} {req : QueryConfig}
    {t : HelperIdentity} {request : PrepareQuery Q}
    (hk : (n.helpers c).calls[k]? = some (.returned (.newQuery req t) (.newQuery (.ok request))))
    (x : HelperIdentity) :
    (∀ config gateway,
      (n.helpers x).queries.inner request.queryId = some (.awaitingInputs config gateway) →
        config = request.config ∧ gateway = ⟨request.queryId, request.roles, x⟩) ∧
    (∀ handle, (n.helpers x).queries.inner request.queryId = some (.running handle) →
      ∃ stream, handle =
        (H.env x).startQuery request.config ⟨request.queryId, request.roles, x⟩ stream) := by
  obtain ⟨_, h⟩ := Network.helper_run hn x
  have hi := World.run_installedInv h request.queryId
  refine ⟨fun config gateway he => Prod.mk.inj (Network.installs_request hn hk x
    (hi.awaiting config gateway he)), fun handle he => ?_⟩
  obtain ⟨config, gateway, input, hins, -, -, rfl⟩ := hi.running handle he
  obtain ⟨rfl, rfl⟩ := Prod.mk.inj (Network.installs_request hn hk x hins)
  exact ⟨input.inputStream, rfl⟩

/-- **Every helper's result comes from the agreed query.**  Over every run of the three helpers,
once a coordinator's `new_query` has returned `Ok(request)`, a `complete` of the query that
returned `Ok(result)` on any helper returned the result of the executor `start_query` started
there with the request's config and a gateway for the request's id and role assignment on that
helper. -/
theorem helpers_complete_request (H : Helpers Q) {as : List (NetAction Q)} {n : Network Q}
    (hn : Network.init.run H as = some n) {c : HelperIdentity} {k : Nat} {req : QueryConfig}
    {t : HelperIdentity} {request : PrepareQuery Q}
    (hk : (n.helpers c).calls[k]? = some (.returned (.newQuery req t) (.newQuery (.ok request))))
    (x : HelperIdentity) {j : Nat} {result : ProtocolResult}
    (hj : (n.helpers x).calls[j]? =
      some (.returned (.complete request.queryId) (.complete (.ok result)))) :
    ∃ stream, result =
      ((H.env x).startQuery request.config ⟨request.queryId, request.roles, x⟩ stream).result := by
  obtain ⟨_, h⟩ := Network.helper_run hn x
  obtain ⟨_, ⟨config, gateway, input, hins, -, -, rfl⟩, rfl⟩ :=
    (World.run_installedInv h request.queryId).completed j result hj
  obtain ⟨rfl, rfl⟩ := Prod.mk.inj (Network.installs_request hn hk x hins)
  exact ⟨input.inputStream, rfl⟩

/-- **One coordinator per query.**  Over every run of the three helpers, at most one `new_query`
call, on any helper, returns `Ok` for a query id: two that did are the same call on the same
helper, and returned the same request.  This bounds the coordinators' successful setups only:
two coordinators' requests for one id can each be accepted by a follower, and then neither
coordinator's `new_query` returns `Ok`. -/
theorem one_coordinator_per_query (H : Helpers Q) {as : List (NetAction Q)} {n : Network Q}
    (hn : Network.init.run H as = some n) {c₁ c₂ : HelperIdentity} {k₁ k₂ : Nat}
    {req₁ req₂ : QueryConfig} {t₁ t₂ : HelperIdentity} {r₁ r₂ : PrepareQuery Q}
    (h₁ : (n.helpers c₁).calls[k₁]? = some (.returned (.newQuery req₁ t₁) (.newQuery (.ok r₁))))
    (h₂ : (n.helpers c₂).calls[k₂]? = some (.returned (.newQuery req₂ t₂) (.newQuery (.ok r₂))))
    (hid : r₁.queryId = r₂.queryId) : c₁ = c₂ ∧ k₁ = k₂ ∧ r₁ = r₂ := by
  obtain ⟨-, hreq₁, -⟩ := Network.coordinator_ok hn h₁
  obtain ⟨-, hreq₂, -⟩ := Network.coordinator_ok hn h₂
  -- on `c₁`, its own `new_query` installed what every helper installs for `r₂`
  have hins : Installs (H.env c₁) r₂.queryId (n.helpers c₁) (req₁, ⟨r₁.queryId, r₁.roles, t₁⟩) :=
    ⟨k₁, _, h₁, by simp [Call.installed, hid]⟩
  have hroles : r₁.roles = r₂.roles :=
    congrArg (fun x => x.2.roles) (Network.installs_request hn h₂ c₁ hins)
  -- both coordinators hold `H1` in the one assignment
  obtain rfl : c₁ = c₂ := by
    rw [← RoleAssignment.role_eq_H1.1 hreq₁.coordinator, hroles]
    exact RoleAssignment.role_eq_H1.1 hreq₂.coordinator
  -- and on that helper at most one setup call returns `Ok` for the id
  obtain ⟨_, hw⟩ := Network.helper_run hn c₁
  have hm := setupOk_movesOnce (H.env c₁) r₂.queryId
  obtain rfl : k₁ = k₂ := (World.run_onceInv hm hw).index_unique hm h₁
    (by simp [Call.setupOk, hid]) h₂ (by simp [Call.setupOk])
  rw [h₁] at h₂
  cases h₂
  exact ⟨rfl, rfl, rfl⟩

end Agreement

/-- The three helpers on the sources' singleton id, each on its own transport. -/
def threeHelpers : Helpers Unit := ⟨fun h => .singleton h, fun _ => rfl⟩

/-- `ONE` coordinates a query: its `new_query` sends to `THREE` and `TWO`, the transport delivers
both requests, each peer's `prepare` runs to `Ok`, and `new_query` resumes with both sends
acknowledged. -/
def handshakeRun : List (NetAction Unit) :=
  [.act .one (.invoke (.newQuery ⟨.fp31, .testMultiply⟩ .one)), .act .one (.poll 0 (.ok ())),
    .deliver .one 0, .act .three (.poll 0 (.ok ())), .act .three (.poll 0 (.ok ())),
    .deliver .one 1, .act .two (.poll 0 (.ok ())), .act .two (.poll 0 (.ok ())),
    .act .one (.poll 0 (.ok ()))]

/-- The handshake completes, and the three helpers then agree on the query. -/
theorem handshake_agreement_run :
    ∃ n request, Network.init.run threeHelpers handshakeRun = some n ∧
      (n.helpers .one).calls[0]? =
        some (.returned (.newQuery ⟨.fp31, .testMultiply⟩ .one) (.newQuery (.ok request))) ∧
      CoordinatorRequest (threeHelpers.env .one) ⟨.fp31, .testMultiply⟩ .one request ∧
      ∀ x, (n.helpers x).calls.countP (·.setupOk request.queryId) = 1 :=
  let ⟨n, request, hn, hk⟩ : ∃ n request, Network.init.run threeHelpers handshakeRun = some n ∧
      (n.helpers .one).calls[0]? =
        some (.returned (.newQuery ⟨.fp31, .testMultiply⟩ .one) (.newQuery (.ok request))) :=
    ⟨_, _, rfl, rfl⟩
  have h := handshake_agreement threeHelpers hn hk
  ⟨n, request, hn, hk, h.2.1, fun x => (h.2.2.2 x).1⟩

/-- After `handshakeRun`, peer `TWO` holds `ONE`'s query with the request's config, for the
request's id and role assignment on `TWO`. -/
theorem helpers_run_request_run :
    ∃ n request, Network.init.run threeHelpers handshakeRun = some n ∧
      (n.helpers .one).calls[0]? =
        some (.returned (.newQuery ⟨.fp31, .testMultiply⟩ .one) (.newQuery (.ok request))) ∧
      ∃ config gateway,
        (n.helpers .two).queries.inner request.queryId = some (.awaitingInputs config gateway) ∧
        config = request.config ∧ gateway = ⟨request.queryId, request.roles, .two⟩ :=
  ⟨_, _, rfl, rfl, _, _, rfl, by
    have h := @helpers_run_request _ _ threeHelpers handshakeRun _ rfl .one 0 _ _ _ rfl .two
    exact h.1 _ _ rfl⟩

/-- `handshakeRun`, then peer `TWO` takes its input and completes the query. -/
def completeOnTwo : List (NetAction Unit) :=
  handshakeRun ++ [.act .two (.invoke (.receiveInputs ⟨(), ⟨[[5]]⟩⟩)), .act .two (.poll 1 (.ok ())),
    .act .two (.invoke (.complete ())), .act .two (.poll 2 (.ok ())), .act .two (.poll 2 (.ok ()))]

/-- After `completeOnTwo`, `TWO`'s `complete` has returned the result of its executor started on
`ONE`'s request: `Fp31`, a gateway on `TWO` as `H2`, and `TWO`'s input. -/
theorem helpers_complete_request_run :
    ∃ n request, Network.init.run threeHelpers completeOnTwo = some n ∧
      (n.helpers .one).calls[0]? =
        some (.returned (.newQuery ⟨.fp31, .testMultiply⟩ .one) (.newQuery (.ok request))) ∧
      (n.helpers .two).calls[2]? =
        some (.returned (.complete request.queryId) (.complete (.ok ⟨[0, 2, 2, 5]⟩))) ∧
      ∃ stream, (⟨[0, 2, 2, 5]⟩ : ProtocolResult) = ((threeHelpers.env .two).startQuery request.config
        ⟨request.queryId, request.roles, .two⟩ stream).result :=
  ⟨_, _, rfl, rfl, rfl, by
    have h := @helpers_complete_request _ _ threeHelpers completeOnTwo _ rfl .one 0 _ _ _ rfl .two 2 _
      rfl
    exact h⟩

/-- `handshakeRun`, then `TWO` too starts coordinating a query; its `set_state(Preparing)` finds
the id taken. -/
def competingRun : List (NetAction Unit) :=
  handshakeRun ++ [.act .two (.invoke (.newQuery ⟨.fp32BitPrime, .testMultiply⟩ .two)),
    .act .two (.poll 1 (.ok ()))]

/-- After `competingRun`, `TWO`'s `new_query` has failed and `ONE`'s is the one coordinator of the
query. -/
theorem one_coordinator_run :
    ∃ n request, Network.init.run threeHelpers competingRun = some n ∧
      (∃ e, (n.helpers .two).calls[1]? = some (.returned
        (.newQuery ⟨.fp32BitPrime, .testMultiply⟩ .two) (.newQuery (.error e)))) ∧
      (n.helpers .one).calls[0]? =
        some (.returned (.newQuery ⟨.fp31, .testMultiply⟩ .one) (.newQuery (.ok request))) ∧
      (HelperIdentity.one = .one ∧ 0 = 0 ∧ request = request) :=
  let ⟨n, request, hn, he, hk⟩ : ∃ n request, Network.init.run threeHelpers competingRun = some n ∧
      (∃ e, (n.helpers .two).calls[1]? = some (.returned
        (.newQuery ⟨.fp32BitPrime, .testMultiply⟩ .two) (.newQuery (.error e)))) ∧
      (n.helpers .one).calls[0]? =
        some (.returned (.newQuery ⟨.fp31, .testMultiply⟩ .one) (.newQuery (.ok request))) :=
    ⟨_, _, rfl, ⟨_, rfl⟩, rfl⟩
  ⟨n, request, hn, he, hk, one_coordinator_per_query threeHelpers hn hk hk rfl⟩

end IpaHelper
