import IpaHelper.Protocol.Handshake

/-!
# Where a coordinator's requests go

`new_query` addresses its `PrepareQuery` to the two other helpers of the ring, `[right, left] =
id.others()`, and names itself `H1` in it.  Three facts carry this from one processor to the
transport between the helpers:

* a request in a processor's queue was handed over by a `new_query` call on that processor, is the
  request the call builds, and goes to one of the call's transport's peers (`SentWf`);
* a `prepare` is refused with `WrongTarget` only when its request names this helper `H1`
  (`RefusalsWf`);
* every delivery carried a request from its source's queue and started, on its destination, a
  `prepare` of that request (`Network.DeliveriesWf`).

With `Network.HandshakeInv.ownTransport` (a `new_query` runs on its own helper's transport),
a delivered request never comes back to its coordinator, names its destination `H2` or `H3`,
and the `prepare` it starts there is never refused with `WrongTarget`
(`delivered_prepare_follower`).

How many requests one call hands over is settled by `try_join`, which polls the left send first
and returns at once, without starting the right send, when the left one fails on that poll.  So
a call hands over nothing, or its request to the left peer and then to the right, or to the left
peer alone; in that last case the call never returns `Ok`, and no call hands anything over twice
(`SendsOnce`, `new_query_sends_once`).
-/

namespace IpaHelper

variable {Q : Type} [DecidableEq Q] {P : ProcessorEnv Q}

/-! ## The requests one processor hands over -/

/-- Every request in the queue was handed over by a `new_query` call on transport `t`: it is the
request that call builds, addressed to one of `t`'s two peers. -/
def SentWf (P : ProcessorEnv Q) (w : World Q) : Prop :=
  ∀ m ∈ w.sent, ∃ (req : QueryConfig) (t : HelperIdentity) (c : Call Q),
    w.calls[m.call]? = some c ∧ c.origin = .newQuery req t ∧
    CoordinatorRequest P req t m.request ∧ (m.dest = t.others.1 ∨ m.dest = t.others.2)

lemma World.step_sentWf {w w' : World Q} {a : Action Q} (h : w.step P a = some w')
    (hi : SentWf P w) : SentWf P w' := by
  have hold : ∀ m ∈ w.sent, ∃ (req : QueryConfig) (t : HelperIdentity) (c : Call Q),
      w'.calls[m.call]? = some c ∧ c.origin = .newQuery req t ∧
      CoordinatorRequest P req t m.request ∧ (m.dest = t.others.1 ∨ m.dest = t.others.2) := by
    intro m hm
    obtain ⟨req, t, c, hc, ho, hreq, hd⟩ := hi m hm
    obtain ⟨c', hc', ho', -⟩ := World.step_calls h hc
    exact ⟨req, t, c', hc', ho'.trans ho, hreq, hd⟩
  intro m hm
  rcases World.step_shared_cases h with ⟨-, hs⟩ | ⟨i, c, sent, seg, -, -, hr, -, hcall, hs⟩
  · rw [hs] at hm; exact hold m hm
  · rw [hs] at hm
    rcases List.mem_append.1 hm with hm | hm
    · exact hold m hm
    · obtain ⟨⟨d, r⟩, hdr, rfl⟩ := List.mem_map.1 hm
      obtain ⟨req, transport, _, rfl, -, -, ⟨roles, hroles, rfl⟩, hseg⟩ :=
        Call.resume_sent hr (List.ne_nil_of_mem hdr)
      refine ⟨req, transport, _, hcall, Call.resume_origin hr, ?_⟩
      -- the request went to the left peer, or to the right one after it
      have hd : d = transport.others.2 ∧ r = ⟨P.queryId, req, roles⟩ ∨
          d = transport.others.1 ∧ r = ⟨P.queryId, req, roles⟩ := by
        rcases hseg with ⟨-, hs⟩ | ⟨_, -, hs⟩ <;> rw [hs] at hdr
        · simpa only [List.mem_cons, List.mem_singleton, List.not_mem_nil, or_false,
            Prod.mk.injEq] using hdr
        · exact .inl (by simpa only [List.mem_singleton, Prod.mk.injEq] using hdr)
      rcases hd with ⟨rfl, rfl⟩ | ⟨rfl, rfl⟩
      · exact ⟨.of_tryFrom hroles, .inr rfl⟩
      · exact ⟨.of_tryFrom hroles, .inl rfl⟩

/-- Every `WrongTarget` refusal is of a request naming this helper `H1`. -/
def RefusalsWf (P : ProcessorEnv Q) (w : World Q) : Prop :=
  ∀ (k : Nat) (req : PrepareQuery Q),
    w.calls[k]? = some (.returned (.prepare req) (.prepare (.error .wrongTarget))) →
    req.roles.role P.identity = .H1

/-- Only `prepare`'s check refuses with `WrongTarget`, and only a request naming this helper
`H1`. -/
lemma Call.resume_wrongTarget {queries : RunningQueries Q} {c : Call Q}
    {sent : Except IoError Unit} {seg : Segment Q} (h : c.resume P queries sent = some seg)
    {req : PrepareQuery Q}
    (hs : seg.call = .returned (.prepare req) (.prepare (.error .wrongTarget))) :
    req.roles.role P.identity = .H1 := by
  cases Call.resume_stretch h with
  | prepareWrongTarget h1 => cases hs; exact h1
  | _ => cases hs

lemma World.step_refusalsWf {w w' : World Q} {a : Action Q} (h : w.step P a = some w')
    (hi : RefusalsWf P w) : RefusalsWf P w' := by
  intro k req hk
  rcases World.step_call_cases h hk with he | ⟨_, _, _, -, -, hr, hs, -⟩ | ⟨_, -, -, -, he⟩ |
      ⟨-, -, he⟩
  · exact hi k req he
  · exact Call.resume_wrongTarget hr hs
  · cases he
  · cases he

lemma World.run_sentWf {as : List (Action Q)} {w : World Q} (h : World.init.run P as = some w) :
    SentWf P w :=
  World.run_preserves (SentWf P) (fun hi hs => World.step_sentWf hs hi) h (fun _ h => by cases h)

lemma World.run_refusalsWf {as : List (Action Q)} {w : World Q}
    (h : World.init.run P as = some w) : RefusalsWf P w :=
  World.run_preserves (RefusalsWf P) (fun hi hs => World.step_refusalsWf hs hi) h
    (fun _ _ h => by simp [World.init] at h)

/-! ## What one call hands over -/

/-- The requests in the queue that call `i` handed over, in the order it handed them over. -/
def World.sentBy (w : World Q) (i : Nat) : List (Message Q) :=
  w.sent.filter fun m => m.call = i

/-- **Each call hands over its requests once.**  Every request in the queue comes from a call of
the world.  A call that has not run yet has handed over nothing.  Any other has handed over
nothing or, for a `new_query` on transport `t`, its request to `t`'s left peer and then to its
right, or to the left peer alone; a call in that last case neither waits on its sends nor has
returned `Ok`. -/
structure SendsOnce (w : World Q) : Prop where
  call_lt : ∀ m ∈ w.sent, m.call < w.calls.length
  sentBy : ∀ (i : Nat) (c : Call Q), w.calls[i]? = some c → w.sentBy i = [] ∨
    c ≠ .invoked c.origin ∧ ∃ (req : QueryConfig) (t : HelperIdentity) (request : PrepareQuery Q),
      c.origin = .newQuery req t ∧
      (w.sentBy i = [⟨i, t.others.2, request⟩, ⟨i, t.others.1, request⟩] ∨
        w.sentBy i = [⟨i, t.others.2, request⟩] ∧
          ∀ r, c ≠ .newQuerySending req r t ∧ c ≠ .returned (.newQuery req t) (.newQuery (.ok r)))

/-- A stretch never leaves its call where it was invoked. -/
lemma Call.resume_ne_invoked {queries : RunningQueries Q} {c : Call Q}
    {sent : Except IoError Unit} {seg : Segment Q} (h : c.resume P queries sent = some seg) :
    seg.call ≠ .invoked seg.call.origin := by
  cases Call.resume_stretch h <;> nofun

/-- A `new_query` past its first stretch that is not waiting on its sends never comes to wait on
them, nor to return `Ok`: only its first stretch starts the wait, and only the wait ends in
`Ok`. -/
lemma Call.resume_not_sending {queries : RunningQueries Q} {c : Call Q}
    {sent : Except IoError Unit} {seg : Segment Q} (h : c.resume P queries sent = some seg)
    {req : QueryConfig} {t : HelperIdentity} (hi : c ≠ .invoked c.origin)
    (hc : ∀ r, c ≠ .newQuerySending req r t ∧ c ≠ .returned (.newQuery req t) (.newQuery (.ok r))) :
    ∀ r, seg.call ≠ .newQuerySending req r t ∧
      seg.call ≠ .returned (.newQuery req t) (.newQuery (.ok r)) := by
  refine fun r => ⟨fun hs => hi ?_, fun hs => (hc r).1 (Call.resume_newQuery_ok h hs).1⟩
  obtain ⟨rfl, -⟩ := Call.resume_newQuerySending h hs
  rfl

omit [DecidableEq Q] in
/-- The requests a poll of call `i` adds to those of call `k`: all of them if `k = i`. -/
lemma sentBy_poll (i k : Nat) (l : List (HelperIdentity × PrepareQuery Q)) :
    (l.map fun m => (⟨i, m.1, m.2⟩ : Message Q)).filter (fun m => m.call = k) =
      if i = k then l.map fun m => ⟨i, m.1, m.2⟩ else [] := by
  split_ifs with hik
  · refine List.filter_eq_self.2 fun m hm => ?_
    obtain ⟨_, -, rfl⟩ := List.mem_map.1 hm
    exact decide_eq_true hik
  · refine List.filter_eq_nil_iff.2 fun m hm => ?_
    obtain ⟨_, -, rfl⟩ := List.mem_map.1 hm
    exact fun h => hik (of_decide_eq_true h)

omit [DecidableEq Q] in
/-- No request in the queue names a call past the end of the list. -/
lemma SendsOnce.sentBy_eq_nil {w : World Q} (hi : SendsOnce w) {i : Nat}
    (hle : w.calls.length ≤ i) : w.sentBy i = [] :=
  List.filter_eq_nil_iff.2 fun m hm hmi => by
    have := hi.call_lt m hm
    simp only [decide_eq_true_eq] at hmi
    omega

lemma World.step_sendsOnce {w w' : World Q} {a : Action Q} (h : w.step P a = some w')
    (hi : SendsOnce w) : SendsOnce w' := by
  rcases World.step_cases h with ⟨-, hs, i, c, rfl, hc, -, hcalls⟩ | ⟨-, hs, call, rfl, hcalls⟩ |
      ⟨i, c, sent, seg, rfl, hc, hr, rfl⟩
  case inl =>
    -- `drop i`: the queue stays, and call `i` keeps its origin
    have hlt := (List.getElem?_eq_some_iff.1 hc).1
    have hsb : ∀ k, w'.sentBy k = w.sentBy k := fun k => by rw [World.sentBy, hs]; rfl
    refine ⟨fun m hm => ?_, fun k c' hk => ?_⟩
    · rw [hcalls, List.length_set]; exact hi.call_lt m (hs ▸ hm)
    · rw [hsb]; rw [hcalls] at hk
      by_cases hik : i = k
      · subst hik
        rw [List.getElem?_set_self hlt] at hk; cases hk
        rcases hi.sentBy i c hc with he | ⟨-, req, t, request, ho, hs⟩
        · exact .inl he
        · exact .inr ⟨nofun, req, t, request, ho, hs.imp id fun h => ⟨h.1, fun _ => ⟨nofun, nofun⟩⟩⟩
      · rw [List.getElem?_set_ne hik] at hk; exact hi.sentBy k c' hk
  case inr.inl =>
    -- `invoke`: the queue stays, and the new call has handed over nothing
    have hsb : ∀ k, w'.sentBy k = w.sentBy k := fun k => by rw [World.sentBy, hs]; rfl
    refine ⟨fun m hm => ?_, fun k c' hk => ?_⟩
    · have := hi.call_lt m (hs ▸ hm)
      rw [hcalls, List.length_append, List.length_singleton]; omega
    · rw [hsb]; rw [hcalls] at hk
      rcases Nat.lt_or_ge k w.calls.length with hlt | hge
      · rw [List.getElem?_append_left hlt] at hk; exact hi.sentBy k c' hk
      · exact .inl (hi.sentBy_eq_nil hge)
  case inr.inr =>
    -- `poll i`: only call `i` moves, and it hands over what its stretch sends
    have hlt := (List.getElem?_eq_some_iff.1 hc).1
    refine ⟨fun m hm => ?_, fun k c' hk => ?_⟩
    · rw [List.length_set]
      rcases List.mem_append.1 hm with hm | hm
      · exact hi.call_lt m hm
      · obtain ⟨_, -, rfl⟩ := List.mem_map.1 hm; exact hlt
    · simp only [World.sentBy, List.filter_append, sentBy_poll]
      by_cases hik : i = k
      · subst hik
        rw [List.getElem?_set_self hlt] at hk; cases hk
        rw [if_pos rfl]
        have hne := Call.resume_ne_invoked hr
        by_cases hsent : seg.sent = []
        · rw [hsent, List.map_nil, List.append_nil]
          rcases hi.sentBy i c hc with he | ⟨hni, req, t, request, hq, hs⟩
          · exact .inl he
          · refine .inr ⟨hne, req, t, request, (Call.resume_origin hr).trans hq, ?_⟩
            exact hs.imp id fun h => ⟨h.1, Call.resume_not_sending hr hni h.2⟩
        · -- the call's first stretch: it had handed over nothing before
          obtain ⟨req, t, request, rfl, -, -, -, hseg⟩ := Call.resume_sent hr hsent
          rcases hi.sentBy i _ hc with he | ⟨hni, -⟩
          · rw [World.sentBy] at he
            refine .inr ⟨hne, req, t, request, Call.resume_origin hr, ?_⟩
            rcases hseg with ⟨-, hs⟩ | ⟨e, hcall, hs⟩ <;> rw [he, hs]
            · exact .inl rfl
            · exact .inr ⟨rfl, fun r => by rw [hcall]; exact ⟨nofun, nofun⟩⟩
          · exact absurd rfl hni
      · rw [if_neg hik, List.append_nil]
        rw [List.getElem?_set_ne hik] at hk; exact hi.sentBy k c' hk

lemma World.run_sendsOnce {as : List (Action Q)} {w : World Q}
    (h : World.init.run P as = some w) : SendsOnce w :=
  World.run_preserves SendsOnce (fun hi hs => World.step_sendsOnce hs hi) h
    ⟨fun _ h => (by cases h), fun _ _ h => by simp [World.init] at h⟩

/-- **A `new_query` call hands over its request at most once to each peer.**  Over any run of
one processor, the requests a call has put in the queue are none, or, for a `new_query` call on
transport `t`, the request it builds: handed to `t`'s left peer and then to its right, or, when
`try_join` found the left send failed at once, to the left peer alone, and that call never
returns `Ok`.  No call hands anything over again. -/
theorem new_query_sends_once (P : ProcessorEnv Q) {as : List (Action Q)} {w : World Q}
    (h : World.init.run P as = some w) (i : Nat) :
    w.sentBy i = [] ∨ ∃ (req : QueryConfig) (t : HelperIdentity) (request : PrepareQuery Q)
      (c : Call Q), w.calls[i]? = some c ∧ c.origin = .newQuery req t ∧
      CoordinatorRequest P req t request ∧
      (w.sentBy i = [⟨i, t.others.2, request⟩, ⟨i, t.others.1, request⟩] ∨
        w.sentBy i = [⟨i, t.others.2, request⟩] ∧
          ∀ r, c ≠ .returned (.newQuery req t) (.newQuery (.ok r))) := by
  have hi := World.run_sendsOnce h
  cases hc : w.calls[i]? with
  | none => exact .inl (hi.sentBy_eq_nil (List.getElem?_eq_none_iff.1 hc))
  | some c =>
    rcases hi.sentBy i c hc with he | ⟨-, req, t, request, ho, hs⟩
    · exact .inl he
    · -- the left request is in the queue, so `SentWf` says how the call built it
      have hm : (⟨i, t.others.2, request⟩ : Message Q) ∈ w.sentBy i := by
        rcases hs with hs | ⟨hs, -⟩ <;> rw [hs] <;> exact List.mem_cons_self _ _
      obtain ⟨req', t', c', hc', ho', hreq, -⟩ := World.run_sentWf h _ (List.mem_filter.1 hm).1
      rw [hc] at hc'; cases hc'
      rw [ho] at ho'; cases ho'
      exact .inr ⟨req, t, request, c, rfl, ho, hreq, hs.imp id fun h => ⟨h.1, fun r => (h.2 r).2⟩⟩

/-- A coordinator whose left send fails at once: its `new_query` hands its request to `THREE`
alone and returns the error. -/
def leftRefusedRun : List (Action Unit) :=
  [.invoke (.newQuery ⟨.fp31, .testMultiply⟩ .one), .poll 0 (.error ⟨"ConnectionRefused"⟩),
    .poll 0 (.ok ())]

/-- After `leftRefusedRun`, `ONE`'s request went to `THREE` alone and the call did not succeed. -/
theorem new_query_sends_once_run :
    ∃ w : World Unit, World.init.run (.singleton .one) leftRefusedRun = some w ∧
      (w.sentBy 0 = [] ∨ ∃ (req : QueryConfig) (t : HelperIdentity) (request : PrepareQuery Unit)
        (c : Call Unit), w.calls[0]? = some c ∧ c.origin = .newQuery req t ∧
        CoordinatorRequest (.singleton .one) req t request ∧
        (w.sentBy 0 = [⟨0, t.others.2, request⟩, ⟨0, t.others.1, request⟩] ∨
          w.sentBy 0 = [⟨0, t.others.2, request⟩] ∧
            ∀ r, c ≠ .returned (.newQuery req t) (.newQuery (.ok r)))) :=
  ⟨_, rfl, @new_query_sends_once Unit _ (.singleton .one) leftRefusedRun _ rfl 0⟩

/-! ## Deliveries -/

namespace Network

variable {H : Helpers Q}

/-- A request in a helper's queue stays there through every move. -/
lemma step_sent_getElem {n n' : Network Q} {a : NetAction Q} (h : n.step H a = some n')
    {x : HelperIdentity} {j : Nat} {m : Message Q} (hj : (n.helpers x).sent[j]? = some m) :
    (n'.helpers x).sent[j]? = some m := by
  rcases step_helpers h x with he | ⟨a', ha'⟩
  · rwa [he]
  · obtain ⟨l, hl⟩ := World.step_sent ha'
    rw [hl, List.getElem?_append_left (List.getElem?_eq_some_iff.1 hj).1, hj]

/-- A call keeps its place on its helper and which call it is through every move. -/
lemma step_call_origin {n n' : Network Q} {a : NetAction Q} (h : n.step H a = some n')
    {x : HelperIdentity} {j : Nat} {c : Call Q} (hj : (n.helpers x).calls[j]? = some c) :
    ∃ c', (n'.helpers x).calls[j]? = some c' ∧ c'.origin = c.origin := by
  rcases step_helpers h x with he | ⟨a', ha'⟩
  · exact ⟨c, by rw [he, hj], rfl⟩
  · obtain ⟨c', hc', ho, -⟩ := World.step_calls ha' hj
    exact ⟨c', hc', ho⟩

/-- Every delivery carried a request from its source's queue and started on its destination a
`prepare` of that request. -/
def DeliveriesWf (n : Network Q) : Prop :=
  ∀ dl ∈ n.deliveries, (n.helpers dl.source).sent[dl.index]? = some dl.message ∧
    ∃ c, (n.helpers dl.message.dest).calls[dl.prepareCall]? = some c ∧
      c.origin = .prepare dl.message.request

omit [DecidableEq Q] in
lemma deliveriesWf_init : DeliveriesWf (init : Network Q) := fun _ h => by cases h

lemma step_deliveriesWf {n n' : Network Q} {a : NetAction Q} (h : n.step H a = some n')
    (hi : DeliveriesWf n) : DeliveriesWf n' := by
  have hold : ∀ dl ∈ n.deliveries, (n'.helpers dl.source).sent[dl.index]? = some dl.message ∧
      ∃ c, (n'.helpers dl.message.dest).calls[dl.prepareCall]? = some c ∧
        c.origin = .prepare dl.message.request := by
    intro dl hdl
    obtain ⟨hs, c, hc, ho⟩ := hi dl hdl
    obtain ⟨c', hc', ho'⟩ := step_call_origin h hc
    exact ⟨step_sent_getElem h hs, c', hc', ho'.trans ho⟩
  rcases step_cases h with ⟨-, -, -, -, -, -, -, hd⟩ |
      ⟨source, index, m, w, -, hm, hw, hn, hd⟩
  · intro dl hdl; rw [hd] at hdl; exact hold dl hdl
  · intro dl hdl
    rw [hd] at hdl
    rcases List.mem_append.1 hdl with hdl | hdl
    · exact hold dl hdl
    · rw [List.mem_singleton] at hdl
      subst hdl
      cases hw
      refine ⟨step_sent_getElem h hm, .invoked (.prepare m.request), ?_, rfl⟩
      rw [hn, Function.update_same]
      exact List.getElem?_concat_length _ _

lemma run_deliveriesWf {as : List (NetAction Q)} {n : Network Q} (hn : init.run H as = some n) :
    DeliveriesWf n :=
  run_preserves DeliveriesWf (fun hi hs => step_deliveriesWf hs hi) hn deliveriesWf_init

end Network

/-- **Requests reach followers.**  Over every run of the three helpers, a request the transport
delivers goes from a coordinator to one of its peers: the destination is not the source, the
request names the source `H1` and the destination `H2` or `H3`, and the call the delivery
started there is a `prepare` of that request which is never refused with `WrongTarget`. -/
theorem delivered_prepare_follower (H : Helpers Q) {as : List (NetAction Q)} {n : Network Q}
    (hn : Network.init.run H as = some n) {dl : Delivery Q} (hdl : dl ∈ n.deliveries) :
    dl.message.dest ≠ dl.source ∧
    dl.message.request.roles.role dl.source = .H1 ∧
    (dl.message.dest = dl.source.others.1 ∧ dl.message.request.roles.role dl.message.dest = .H2 ∨
      dl.message.dest = dl.source.others.2 ∧ dl.message.request.roles.role dl.message.dest = .H3) ∧
    ∃ c, (n.helpers dl.message.dest).calls[dl.prepareCall]? = some c ∧
      c.origin = .prepare dl.message.request ∧
      c ≠ .returned (.prepare dl.message.request) (.prepare (.error .wrongTarget)) := by
  obtain ⟨hsent, c, hc, ho⟩ := Network.run_deliveriesWf hn dl hdl
  obtain ⟨_, hsrc⟩ := Network.helper_run hn dl.source
  obtain ⟨req, t, c₀, hc₀, ho₀, hreq, hdest⟩ :=
    World.run_sentWf hsrc dl.message (List.getElem?_mem hsent)
  obtain rfl := (Network.run_handshakeInv hn).ownTransport dl.source dl.message.call c₀ hc₀ req t ho₀
  obtain ⟨_, hdst⟩ := Network.helper_run hn dl.message.dest
  have hpeer : dl.message.dest = dl.source.others.1 ∧
        dl.message.request.roles.role dl.message.dest = .H2 ∨
      dl.message.dest = dl.source.others.2 ∧
        dl.message.request.roles.role dl.message.dest = .H3 := by
    rcases hdest with hd | hd <;> rw [hd]
    · exact .inl ⟨rfl, hreq.right⟩
    · exact .inr ⟨rfl, hreq.left⟩
  have hnot : dl.message.request.roles.role dl.message.dest ≠ .H1 := by
    rcases hpeer with ⟨-, h⟩ | ⟨-, h⟩ <;> rw [h] <;> decide
  refine ⟨fun he => hnot (he ▸ hreq.coordinator), hreq.coordinator, hpeer, c, hc, ho, ?_⟩
  rintro rfl
  have h1 := World.run_refusalsWf hdst _ _ hc
  rw [H.env_identity] at h1
  exact hnot h1

/-- In `handshakeRun`, the transport's first delivery carries `ONE`'s request to a follower. -/
theorem delivered_prepare_follower_run :
    ∃ n, Network.init.run threeHelpers handshakeRun = some n ∧ ∃ dl ∈ n.deliveries,
      dl.message.dest ≠ dl.source ∧ dl.message.request.roles.role dl.source = .H1 :=
  ⟨_, rfl, _, List.mem_cons_self _ _, by
    have h := @delivered_prepare_follower _ _ threeHelpers handshakeRun _ rfl _
      (List.mem_cons_self _ _)
    exact ⟨h.1, h.2.1⟩⟩

end IpaHelper
