import IpaHelper.Protocol.Routing

/-!
# What every helper registers

A helper installs a query's config and gateway in two places only: its own `new_query` returning
`Ok`, on the coordinator's side, and a `prepare` returning `Ok`, on a follower's
(`Call.installed_cases`).  In deployment the transport starts every `prepare`, on a
`PrepareQuery` another helper's `new_query` handed over; `Network.PreparesDelivered` records that
over every run in which no caller starts one by hand, each `prepare` call came from a delivery.

Over such runs, whatever any helper holds for a query past `Preparing` was set up for that query,
on that helper, over the ring assignment of a helper whose `new_query` was called with that
config: that helper `H1`, its right neighbour `H2`, its left `H3` (`registered_query_ring`).
-/

namespace IpaHelper

variable {Q : Type} [DecidableEq Q] {H : Helpers Q}

namespace Network

/-! ## Every `prepare` came from the transport -/

/-- Every `prepare` call on a helper was started by a delivery of its request to that helper. -/
def PreparesDelivered (n : Network Q) : Prop :=
  ∀ (x : HelperIdentity) (k : Nat) (c : Call Q) (req : PrepareQuery Q),
    (n.helpers x).calls[k]? = some c → c.origin = .prepare req →
    ∃ dl ∈ n.deliveries, dl.message.dest = x ∧ dl.message.request = req

/-- A move other than a caller starting a `prepare` keeps every `prepare` delivered: a helper's
own move makes no `prepare`, and a delivery records the one it starts. -/
lemma step_preparesDelivered {n n' : Network Q} {a : NetAction Q} (h : n.step H a = some n')
    (ha : ∀ y req, a ≠ .act y (.invoke (.prepare req))) (hi : PreparesDelivered n) :
    PreparesDelivered n' := by
  intro x k c' req hk ho
  rcases step_cases h with ⟨y, a', w, rfl, -, hw, hn, hd⟩ |
      ⟨source, index, m, w, rfl, -, hw, hn, hd⟩
  case inl =>
    rw [hd]
    by_cases hx : x = y
    · subst hx
      rw [hn, Function.update_same] at hk
      rcases World.step_origin hw hk with ⟨c, hc, hoc⟩ | hinv
      · exact hi x k c req hc (hoc.trans ho)
      · exact absurd (by rw [hinv, ho]) (ha x req)
    · rw [hn, Function.update_noteq hx] at hk
      exact hi x k c' req hk ho
  case inr =>
    have hold : ∀ c, (n.helpers x).calls[k]? = some c → c.origin = .prepare req →
        ∃ dl ∈ n'.deliveries, dl.message.dest = x ∧ dl.message.request = req := fun c hc hoc => by
      obtain ⟨dl, hdl, hdx⟩ := hi x k c req hc hoc
      exact ⟨dl, hd ▸ List.mem_append_left _ hdl, hdx⟩
    by_cases hx : x = m.dest
    · subst hx
      rw [hn, Function.update_same] at hk
      rcases World.step_origin hw hk with ⟨c, hc, hoc⟩ | hinv
      · exact hold c hc (hoc.trans ho)
      · -- the delivery just made started this `prepare`
        rw [ho] at hinv; cases hinv
        exact ⟨_, hd ▸ List.mem_append_right _ (List.mem_singleton_self _), rfl, rfl⟩
    · rw [hn, Function.update_noteq hx] at hk
      exact hold c' hk ho

lemma run_preparesDelivered {as : List (NetAction Q)} {n : Network Q}
    (hn : init.run H as = some n)
    (hprep : ∀ (x : HelperIdentity) (req : PrepareQuery Q),
      NetAction.act x (.invoke (.prepare req)) ∉ as) :
    PreparesDelivered n :=
  run_preserves_of (fun a => ∀ y req, a ≠ .act y (.invoke (.prepare req))) PreparesDelivered
    (fun ha hi hs => step_preparesDelivered hs ha hi)
    (fun a ha y req he => hprep y req (he ▸ ha)) hn
    (fun _ _ _ _ h => by simp [init, World.init] at h)

end Network

/-! ## Gateways over a coordinator's ring -/

/-- `config` and `gateway` are set up for query `q` on helper `x`, over the ring assignment of a
helper `c` one of whose `new_query` calls was made with `config`: `c` holds `H1`, its right
neighbour `H2`, its left `H3`. -/
structure RingGateway (n : Network Q) (q : Q) (x : HelperIdentity) (config : QueryConfig)
    (gateway : Gateway Q) : Prop where
  queryId : gateway.queryId = q
  identity : gateway.identity = x
  coordinator : ∃ (c : HelperIdentity) (k : Nat) (call : Call Q),
    (n.helpers c).calls[k]? = some call ∧ call.origin = .newQuery config c ∧
    gateway.roles.role c = .H1 ∧ gateway.roles.role c.others.1 = .H2 ∧
    gateway.roles.role c.others.2 = .H3

/-- What a call of helper `x` installs is set up over a coordinator's ring: the coordinator's own
`new_query` runs on its own transport and builds the ring request, and a follower's `prepare`
came from a delivery of a request some `new_query` handed over. -/
lemma Network.installs_ringGateway {as : List (NetAction Q)} {n : Network Q}
    (hn : Network.init.run H as = some n) (hd : Network.PreparesDelivered n) {x : HelperIdentity}
    {q : Q} {config : QueryConfig} {gateway : Gateway Q}
    (hx : Installs (H.env x) q (n.helpers x) (config, gateway)) :
    RingGateway n q x config gateway := by
  have hinv := Network.run_handshakeInv hn
  obtain ⟨k, c, hk, hc⟩ := hx
  rcases Call.installed_cases hc with ⟨_, t, request, rfl, he⟩ | ⟨req, rfl, he⟩
  · -- the coordinator's side: its own `new_query`, on its own transport
    obtain ⟨rfl, rfl⟩ := Prod.mk.inj he
    obtain rfl := hinv.ownTransport x k _ hk _ t rfl
    obtain ⟨as', hw⟩ := Network.helper_run hn t
    have hreq := World.run_requestsWf hw (fun _ _ h => by simp [World.init] at h) k _ hk _ t
      request (.inr rfl)
    exact ⟨rfl, rfl, t, k, _, hk, rfl, hreq.coordinator, hreq.right, hreq.left⟩
  · -- a follower's side: the request a delivery carried from a coordinator's queue
    obtain ⟨rfl, rfl⟩ := Prod.mk.inj he
    obtain ⟨dl, hdl, rfl, rfl⟩ := hd x k _ req hk rfl
    obtain ⟨hsent, -⟩ := Network.run_deliveriesWf hn dl hdl
    obtain ⟨as', hw⟩ := Network.helper_run hn dl.source
    obtain ⟨_, t, c, hc, ho, hreq, -⟩ := World.run_sentWf hw dl.message (List.getElem?_mem hsent)
    obtain rfl := hinv.ownTransport _ _ c hc _ t ho
    obtain rfl := hreq.config
    exact ⟨rfl, H.env_identity _, dl.source, _, c, hc, ho, hreq.coordinator, hreq.right, hreq.left⟩

/-- **Every registered query is set up over a coordinator's ring.**  Over every run of the three
helpers in which no caller starts a `prepare` (the transport starts them all), whatever a helper
holds for a query past `Preparing` was set up for that query on that helper, over the ring
assignment of a helper whose `new_query` was called with that config: an `AwaitingInputs` entry
is such a config and gateway, and a `Running` entry is the executor `start_query` started on
one. -/
theorem registered_query_ring (H : Helpers Q) {as : List (NetAction Q)} {n : Network Q}
    (hn : Network.init.run H as = some n)
    (hprep : ∀ (x : HelperIdentity) (req : PrepareQuery Q),
      NetAction.act x (.invoke (.prepare req)) ∉ as)
    (x : HelperIdentity) (q : Q) :
    (∀ config gateway, (n.helpers x).queries.inner q = some (.awaitingInputs config gateway) →
      RingGateway n q x config gateway) ∧
    (∀ handle, (n.helpers x).queries.inner q = some (.running handle) →
      ∃ config gateway stream, handle = (H.env x).startQuery config gateway stream ∧
        RingGateway n q x config gateway) := by
  have hd := Network.run_preparesDelivered hn hprep
  obtain ⟨as', hw⟩ := Network.helper_run hn x
  have hi := World.run_installedInv hw q
  refine ⟨fun config gateway he =>
    Network.installs_ringGateway hn hd (hi.awaiting config gateway he), fun handle he => ?_⟩
  obtain ⟨config, gateway, input, hx, -, -, rfl⟩ := hi.running handle he
  exact ⟨config, gateway, input.inputStream, rfl, Network.installs_ringGateway hn hd hx⟩

/-- After the handshake, what follower `TWO` holds is set up over `ONE`'s ring. -/
theorem registered_query_ring_run :
    ∃ n, Network.init.run threeHelpers handshakeRun = some n ∧
      (∀ config gateway, (n.helpers .two).queries.inner () = some (.awaitingInputs config gateway) →
        RingGateway n () .two config gateway) ∧
      (∀ handle, (n.helpers .two).queries.inner () = some (.running handle) →
        ∃ config gateway stream, handle = (threeHelpers.env .two).startQuery config gateway stream ∧
          RingGateway n () .two config gateway) :=
  ⟨_, rfl, @registered_query_ring Unit _ threeHelpers handshakeRun _ rfl (by simp [handshakeRun])
    .two ()⟩

end IpaHelper
