import IpaHelper.Processor.Operations

/-!
# Interleaved calls on one processor

A `World` is one processor while calls run on it: its registry, every call made on it so far,
and the `PrepareQuery` requests its calls have handed to the transport, each with the call that
sent it.  An `Action` is one move
of the callers or of the runtime: a caller makes a call, the runtime polls a call through its
next stretch, or a caller drops a call's future where it stands.  A run is any list of actions,
so it covers any number of calls, every interleaving of their stretches, and the abandonment of
any call at any of its suspension points.  The environment's answers are part of the action:
whether `new_query`'s left send fails at once, and what its sends came back with, are chosen by
the `poll` that runs the stretch.

Calls are never removed from `World.calls`: a returned call keeps what it returned, and a dropped
one keeps which call it was, so statements about what calls returned are statements about the
world.
-/

namespace IpaHelper

/-- A `PrepareQuery` handed to the transport: by which call, to which helper. -/
structure Message (Q : Type) where
  call : Nat
  dest : HelperIdentity
  request : PrepareQuery Q

/-- One processor while calls run on it. -/
structure World (Q : Type) where
  queries : RunningQueries Q
  calls : List (Call Q)
  sent : List (Message Q)

/-- One move of the callers or of the runtime. -/
inductive Action (Q : Type)
  /-- A caller makes a call; its future is created and not yet polled. -/
  | invoke (call : Invocation Q)
  /-- The runtime polls call `i` through its next stretch; `sent` answers a `new_query`'s sends:
  at its first poll whether the left one fails at once, later what `try_join` came back with. -/
  | poll (i : Nat) (sent : Except IoError Unit)
  /-- A caller drops call `i`'s future at the suspension point where it stands. -/
  | drop (i : Nat)
  deriving DecidableEq

/-- A call still in flight: neither returned nor dropped. -/
def Call.pending {Q : Type} : Call Q → Bool
  | .returned _ _ | .dropped _ => false
  | _ => true

variable {Q : Type} [DecidableEq Q] (P : ProcessorEnv Q)

/-- A stand-in for `executor::start_query`, whose code is not in the sources: the result names
what the executor was started on, the query's field (`0` for `Fp31`, `1` for `Fp32BitPrime`), the
helper the gateway is on and its role there (`1` to `3` each), then the input's bytes. -/
def echoQuery (config : QueryConfig) (gateway : Gateway Unit) (stream : ByteArrStream) :
    CompletionHandle :=
  ⟨⟨(match config.fieldType with | .fp31 => 0 | .fp32BitPrime => 1) ::
    (match gateway.identity with | .one => 1 | .two => 2 | .three => 3) ::
    (match gateway.roles.role gateway.identity with | .H1 => 1 | .H2 => 2 | .H3 => 3) ::
    stream.chunks.flatten⟩⟩

/-- A processor as the sources build it: on helper `identity`, allocating the singleton id, with
the spec's `set_state` and the stand-in executor `echoQuery`. -/
def ProcessorEnv.singleton (identity : HelperIdentity) : ProcessorEnv Unit :=
  ⟨lifecycleSetState, echoQuery, identity, ()⟩

/-- The processor before any call (`Processor::new()`). -/
def World.init : World Q := ⟨.empty, [], []⟩

/-- One action, when it is possible: a poll needs a call with a next stretch, a drop a pending
call. -/
def World.step (w : World Q) : Action Q → Option (World Q)
  | .invoke call => some { w with calls := w.calls ++ [.invoked call] }
  | .poll i sent =>
    match w.calls[i]? with
    | some c => (c.resume P w.queries sent).map fun seg =>
        ⟨seg.queries, w.calls.set i seg.call, w.sent ++ seg.sent.map fun m => ⟨i, m.1, m.2⟩⟩
    | none => none
  | .drop i =>
    match w.calls[i]? with
    | some c => if c.pending then some { w with calls := w.calls.set i (.dropped c.origin) }
      else none
    | none => none

/-- A run: the actions one after the other, as long as each is possible. -/
def World.run (w : World Q) : List (Action Q) → Option (World Q)
  | [] => some w
  | a :: as => (w.step P a).bind fun w' => w'.run as

variable {P}

/-- Only a call in flight has a next stretch. -/
lemma Call.pending_of_resume {queries : RunningQueries Q} {c : Call Q}
    {sent : Except IoError Unit} {seg : Segment Q} (h : c.resume P queries sent = some seg) :
    c.pending := by
  cases c <;> first | rfl | cases h

@[simp] lemma World.run_nil (w : World Q) : w.run P [] = some w := rfl

lemma World.run_cons {w w' : World Q} {a : Action Q} {as : List (Action Q)} :
    w.run P (a :: as) = some w' ↔ ∃ w₁, w.step P a = some w₁ ∧ w₁.run P as = some w' := by
  simp [World.run, Option.bind_eq_some]

/-- **What one action can do.**  Making a call or dropping one leaves the registry and the
transport alone; every other change is the next stretch of one call. -/
lemma World.step_cases {w w' : World Q} {a : Action Q} (h : w.step P a = some w') :
    (w'.queries = w.queries ∧ w'.sent = w.sent ∧ ∃ i c, a = .drop i ∧ w.calls[i]? = some c ∧
      c.pending ∧ w'.calls = w.calls.set i (.dropped c.origin)) ∨
    (w'.queries = w.queries ∧ w'.sent = w.sent ∧
      ∃ call, a = .invoke call ∧ w'.calls = w.calls ++ [.invoked call]) ∨
    ∃ i c sent seg, a = .poll i sent ∧ w.calls[i]? = some c ∧ c.resume P w.queries sent = some seg ∧
      w' = ⟨seg.queries, w.calls.set i seg.call, w.sent ++ seg.sent.map fun m => ⟨i, m.1, m.2⟩⟩ := by
  cases a with
  | invoke call =>
    cases h
    exact .inr (.inl ⟨rfl, rfl, call, rfl, rfl⟩)
  | poll i sent =>
    simp only [World.step] at h
    split at h
    · obtain ⟨seg, hs, rfl⟩ := Option.map_eq_some'.1 h
      exact .inr (.inr ⟨i, _, sent, seg, rfl, ‹_›, hs, rfl⟩)
    · cases h
  | drop i =>
    simp only [World.step] at h
    split at h
    · split at h
      · cases h
        exact .inl ⟨rfl, rfl, i, _, rfl, ‹_›, ‹_›, rfl⟩
      · cases h
    · cases h

lemma World.run_snoc {w w₁ w₂ : World Q} {as : List (Action Q)} {a : Action Q}
    (h₁ : w.run P as = some w₁) (h₂ : w₁.step P a = some w₂) : w.run P (as ++ [a]) = some w₂ := by
  induction as generalizing w with
  | nil => cases h₁; exact World.run_cons.2 ⟨w₂, h₂, rfl⟩
  | cons b as ih =>
    obtain ⟨w', hb, hr⟩ := World.run_cons.1 h₁
    exact World.run_cons.2 ⟨w', hb, ih hr⟩

/-- What every action that `A` allows keeps holds over every run of such actions. -/
lemma World.run_preserves_of (A : Action Q → Prop) (I : World Q → Prop)
    (hstep : ∀ {w w' : World Q} {a : Action Q}, A a → I w → w.step P a = some w' → I w')
    {as : List (Action Q)} (has : ∀ a ∈ as, A a) {w₀ w : World Q} (h : w₀.run P as = some w)
    (h₀ : I w₀) : I w := by
  induction as generalizing w₀ with
  | nil => cases h; exact h₀
  | cons a as ih =>
    obtain ⟨w₁, h₁, h₂⟩ := World.run_cons.1 h
    exact ih (fun b hb => has b (List.mem_cons_of_mem a hb)) h₂
      (hstep (has a (List.mem_cons_self a as)) h₀ h₁)

/-- What every action keeps holds over every run. -/
lemma World.run_preserves (I : World Q → Prop)
    (hstep : ∀ {w w' : World Q} {a : Action Q}, I w → w.step P a = some w' → I w')
    {as : List (Action Q)} {w₀ w : World Q} (h : w₀.run P as = some w) (h₀ : I w₀) : I w :=
  World.run_preserves_of (fun _ => True) I (fun _ => hstep) (fun _ _ => trivial) h h₀

/-- **What one action does to the state the calls share**: a call made or dropped leaves the
registry and the transport's queue alone; any other action is the next stretch of one call,
which then stands in that call's place. -/
lemma World.step_shared_cases {w w' : World Q} {a : Action Q} (h : w.step P a = some w') :
    (w'.queries = w.queries ∧ w'.sent = w.sent) ∨
    ∃ i c sent seg, a = .poll i sent ∧ w.calls[i]? = some c ∧ c.resume P w.queries sent = some seg ∧
      w'.queries = seg.queries ∧ w'.calls[i]? = some seg.call ∧
      w'.sent = w.sent ++ seg.sent.map fun m => ⟨i, m.1, m.2⟩ := by
  rcases World.step_cases h with ⟨hq, hs, -⟩ | ⟨hq, hs, -⟩ | ⟨i, c, sent, seg, rfl, hc, hr, rfl⟩
  · exact .inl ⟨hq, hs⟩
  · exact .inl ⟨hq, hs⟩
  · exact .inr ⟨i, c, sent, seg, rfl, hc, hr, rfl,
      List.getElem?_set_self (List.getElem?_eq_some_iff.1 hc).1, rfl⟩

/-- The transport's queue only grows. -/
lemma World.step_sent {w w' : World Q} {a : Action Q} (h : w.step P a = some w') :
    ∃ l, w'.sent = w.sent ++ l := by
  rcases World.step_shared_cases h with ⟨-, hs⟩ | ⟨_, _, _, _, -, -, -, -, -, hs⟩
  · exact ⟨[], by rw [hs, List.append_nil]⟩
  · exact ⟨_, hs⟩

/-- **Where a call stands after an action**: where it stood, one stretch further for the call
polled, dropped for the call dropped, or newly made. -/
lemma World.step_call_cases {w w' : World Q} {a : Action Q} (h : w.step P a = some w') {k : Nat}
    {c' : Call Q} (hk : w'.calls[k]? = some c') :
    w.calls[k]? = some c' ∨
    (∃ c sent seg, w.calls[k]? = some c ∧ a = .poll k sent ∧
      c.resume P w.queries sent = some seg ∧ seg.call = c' ∧ w'.queries = seg.queries) ∨
    (∃ c, w.calls[k]? = some c ∧ c.pending ∧ a = .drop k ∧ c' = .dropped c.origin) ∨
    (w.calls[k]? = none ∧ a = .invoke c'.origin ∧ c' = .invoked c'.origin) := by
  rcases World.step_cases h with ⟨-, -, i, c, rfl, hc, hp, hcalls⟩ | ⟨-, -, call, rfl, hcalls⟩ |
      ⟨i, c, sent, seg, rfl, hc, hr, rfl⟩
  · rw [hcalls, List.getElem?_set] at hk
    by_cases hi : i = k
    · subst hi
      simp only [(List.getElem?_eq_some_iff.1 hc).1, ↓reduceIte, Option.some.injEq] at hk
      exact .inr (.inr (.inl ⟨c, hc, hp, rfl, hk.symm⟩))
    · exact .inl (by simpa [hi] using hk)
  · rw [hcalls] at hk
    by_cases hlt : k < w.calls.length
    · exact .inl (by rwa [List.getElem?_append_left hlt] at hk)
    · rw [List.getElem?_append_right (by omega)] at hk
      have hk0 : k - w.calls.length = 0 := by
        have := (List.getElem?_eq_some_iff.1 hk).1; simp at this; omega
      rw [hk0] at hk; cases hk
      exact .inr (.inr (.inr ⟨List.getElem?_eq_none_iff.2 (by omega), rfl, rfl⟩))
  · change (w.calls.set i seg.call)[k]? = some c' at hk
    rw [List.getElem?_set] at hk
    by_cases hi : i = k
    · subst hi
      simp only [(List.getElem?_eq_some_iff.1 hc).1, ↓reduceIte, Option.some.injEq] at hk
      exact .inr (.inl ⟨c, sent, seg, hc, rfl, hr, hk, rfl⟩)
    · exact .inl (by simpa [hi] using hk)

/-- Every call after an action is a call from before it, or the one the action made. -/
lemma World.step_origin {w w' : World Q} {a : Action Q} (h : w.step P a = some w') {k : Nat}
    {c' : Call Q} (hk : w'.calls[k]? = some c') :
    (∃ c, w.calls[k]? = some c ∧ c.origin = c'.origin) ∨ a = .invoke c'.origin := by
  rcases World.step_call_cases h hk with he | ⟨c, _, _, hc, -, hr, rfl, -⟩ | ⟨c, hc, -, -, rfl⟩ |
      ⟨-, ha, -⟩
  · exact .inl ⟨c', he, rfl⟩
  · exact .inl ⟨c, hc, (Call.resume_origin hr).symm⟩
  · exact .inl ⟨c, hc, rfl⟩
  · exact .inr ha

/-- **What one action does to the calls made before it.**  Each keeps its place and which call
it is, and one that has returned or been dropped stays exactly as it was. -/
lemma World.step_calls {w w' : World Q} {a : Action Q} (h : w.step P a = some w') {k : Nat}
    {c : Call Q} (hk : w.calls[k]? = some c) :
    ∃ c', w'.calls[k]? = some c' ∧ c'.origin = c.origin ∧ (c.pending = false → c' = c) := by
  have hlen : k < w'.calls.length := by
    have hk' := (List.getElem?_eq_some_iff.1 hk).1
    rcases World.step_cases h with ⟨-, -, _, _, -, -, -, hcalls⟩ | ⟨-, -, _, -, hcalls⟩ |
        ⟨_, _, _, _, -, -, -, rfl⟩
    · rwa [hcalls, List.length_set]
    · rw [hcalls, List.length_append]; omega
    · simpa using hk'
  obtain ⟨c', hc'⟩ : ∃ c', w'.calls[k]? = some c' := ⟨_, List.getElem?_eq_getElem hlen⟩
  refine ⟨c', hc', ?_⟩
  rcases World.step_call_cases h hc' with he | ⟨c₀, sent, seg, hc₀, -, hr, rfl, -⟩ |
      ⟨c₀, hc₀, hp, -, rfl⟩ | ⟨hn, -⟩
  · rw [hk] at he; cases he; exact ⟨rfl, fun _ => rfl⟩
  · rw [hk] at hc₀; cases hc₀
    exact ⟨Call.resume_origin hr, fun hp => absurd (Call.pending_of_resume hr) (by simp [hp])⟩
  · rw [hk] at hc₀; cases hc₀
    exact ⟨rfl, fun h => absurd hp (by simp [h])⟩
  · rw [hk] at hn; cases hn

/-- A call that has returned or been dropped stays as it is. -/
lemma World.step_settled {w w' : World Q} {a : Action Q} (h : w.step P a = some w') {k : Nat}
    {c : Call Q} (hk : w.calls[k]? = some c) (hp : c.pending = false) : w'.calls[k]? = some c :=
  let ⟨_, hc', _, hsame⟩ := World.step_calls h hk
  hsame hp ▸ hc'

end IpaHelper
