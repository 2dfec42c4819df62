import IpaHelper.Processor.Interleaving

/-!
# The registry only moves forward

Over every world and every action, with any number of calls in flight, each in any stretch and
any of them dropped at any suspension point, every change the registry undergoes is one of five,
each made by one kind of call:

* `Empty → Preparing`, `Empty → AwaitingInputs` and `Preparing → AwaitingInputs`, by a
  `new_query` or `prepare` call, through `set_state`;
* `AwaitingInputs → Running`, by `receive_inputs`;
* `Running → AwaitingCompletion`, by `complete`.

`Writer.allowed` lists them, `ChangesBy` says a registry differs from another only by such
changes, and each stretch of each operation is shown to change the registry that way.  Along a
whole run the status of every id therefore only climbs the lifecycle order, and an entry once
present is never removed (`registry_changes_follow_lifecycle`).
-/

namespace IpaHelper

/-- Who writes the registry: a setup call through `set_state`, or the locked stretch of
`receive_inputs` or of `complete`. -/
inductive Writer
  | setState
  | receiveInputs
  | complete
  deriving DecidableEq, Repr

variable {Q : Type} [DecidableEq Q]

/-- The writer behind a call's stretches. -/
def Invocation.writer : Invocation Q → Writer
  | .newQuery _ _ | .prepare _ => .setState
  | .receiveInputs _ => .receiveInputs
  | .complete _ => .complete

/-- The registry changes each writer may make. -/
def Writer.allowed : Writer → QueryStatus → QueryStatus → Bool
  | .setState, .empty, .preparing | .setState, .empty, .awaitingInputs
  | .setState, .preparing, .awaitingInputs => true
  | .receiveInputs, .awaitingInputs, .running => true
  | .complete, .running, .awaitingCompletion => true
  | _, _, _ => false

lemma Writer.rank_lt_of_allowed {w : Writer} {a b : QueryStatus} (h : w.allowed a b) :
    a.rank < b.rank := by
  cases w <;> cases a <;> cases b <;> first | decide | exact absurd h (by decide)

/-- Only `complete` moves a query out of `Running`. -/
lemma Writer.eq_complete_of_allowed_running {w : Writer} {s : QueryStatus}
    (h : w.allowed .running s) : w = .complete := by
  cases w <;> cases s <;> first | rfl | exact absurd h (by decide)

/-- `queries'` differs from `queries` only by changes `w` may make. -/
def ChangesBy (w : Writer) (queries queries' : RunningQueries Q) : Prop :=
  ∀ q, queries'.inner q ≠ queries.inner q →
    w.allowed (queries.lifecycle q) (queries'.lifecycle q)

namespace ChangesBy

variable {w : Writer} {queries : RunningQueries Q}

omit [DecidableEq Q] in
lemma refl : ChangesBy w queries queries := fun _ h => absurd rfl h

lemma insert {q : Q} {state : QueryState Q} (h : w.allowed (queries.lifecycle q) state.status) :
    ChangesBy w queries (queries.insert q state) := by
  intro q' hne
  by_cases hq : q' = q
  · subst hq; simpa using h
  · exact absurd (RunningQueries.insert_inner_of_ne _ _ hq) hne

/-- A successful `set_state` to `Preparing` or `AwaitingInputs` makes a `set_state` change. -/
lemma setState (S : SetState Q) {queries' : RunningQueries Q} {q : Q} {state : QueryState Q}
    (h : S.setState queries q state = .ok queries')
    (hs : state.status = .preparing ∨ state.status = .awaitingInputs) :
    ChangesBy .setState queries queries' := by
  obtain ⟨rfl, hc⟩ := S.setState_ok h
  refine insert ?_
  rcases hs with hs | hs <;> rw [hs] at hc ⊢ <;> revert hc <;>
    cases queries.lifecycle q <;> decide

end ChangesBy

variable {P : ProcessorEnv Q} {queries : RunningQueries Q}

lemma receiveInputs_changesBy (input : QueryInput Q) :
    ChangesBy .receiveInputs queries (receiveInputs P queries input).1 := by
  rcases receiveInputs_cases P queries input with ⟨_, _, hq, he⟩ | ⟨_, he⟩ <;> rw [he]
  · exact .insert (by simp [RunningQueries.lifecycle, hq, QueryState.status, Writer.allowed])
  · exact .refl

lemma completeLocked_changesBy (q : Q) :
    ChangesBy .complete queries (completeLocked queries q).1 := by
  rcases completeLocked_cases queries q with ⟨_, hq, he⟩ | ⟨_, he⟩ <;> rw [he]
  · exact .insert (by simp [RunningQueries.lifecycle, hq, QueryState.status, Writer.allowed])
  · exact .refl

/-- **Every stretch of every call** changes the registry only as its call's writer may. -/
lemma Call.resume_changesBy {c : Call Q} {sent : Except IoError Unit} {seg : Segment Q}
    (h : c.resume P queries sent = some seg) : ChangesBy c.origin.writer queries seg.queries := by
  cases Call.resume_stretch h with
  | newQuerySends hs _ _ | newQueryLeftFailed hs _ _ => exact .setState P.setState hs (.inl rfl)
  | newQueryOk _ hs | prepareOk hs => exact .setState P.setState hs (.inr rfl)
  | receiveInputs => exact receiveInputs_changesBy _
  | completeTaken | completeRefused => exact completeLocked_changesBy _
  | _ => exact .refl

/-- One action changes the registry only by the next stretch of one call, and only as that
call's writer may. -/
lemma World.step_changesBy {w w' : World Q} {a : Action Q} (h : w.step P a = some w') :
    w'.queries = w.queries ∨ ∃ i sent c, a = .poll i sent ∧ w.calls[i]? = some c ∧
      ChangesBy c.origin.writer w.queries w'.queries := by
  rcases World.step_shared_cases h with ⟨hq, -⟩ | ⟨i, c, sent, seg, rfl, hc, hs, hq, -⟩
  · exact .inl hq
  · exact .inr ⟨i, sent, c, rfl, hc, hq ▸ Call.resume_changesBy hs⟩

lemma World.step_rank_le {w w' : World Q} {a : Action Q} (h : w.step P a = some w') (q : Q) :
    (w.queries.lifecycle q).rank ≤ (w'.queries.lifecycle q).rank := by
  rcases World.step_changesBy h with hq | ⟨i, sent, c, -, -, hc⟩
  · exact Nat.le_of_eq (by rw [hq])
  · by_cases hne : w'.queries.inner q = w.queries.inner q
    · exact Nat.le_of_eq (by rw [RunningQueries.lifecycle_congr hne])
    · exact Nat.le_of_lt (Writer.rank_lt_of_allowed (hc q hne))

/-- Along any run, the status of every id only climbs the lifecycle order. -/
lemma World.run_rank_le {w w' : World Q} {as : List (Action Q)} (h : w.run P as = some w')
    (q : Q) : (w.queries.lifecycle q).rank ≤ (w'.queries.lifecycle q).rank :=
  World.run_preserves (fun w' => (w.queries.lifecycle q).rank ≤ (w'.queries.lifecycle q).rank)
    (fun hi hs => Nat.le_trans hi (World.step_rank_le hs q)) h (Nat.le_refl _)

/-- **The registry only moves forward.**  Under every interleaving of any number of calls, any
of them dropped at any suspension point: every change one action makes to the registry is made
by the next stretch of one call, and is `Empty → Preparing`, `Empty → AwaitingInputs` or
`Preparing → AwaitingInputs` by a `new_query` or `prepare` call through `set_state`,
`AwaitingInputs → Running` by `receive_inputs`, or `Running → AwaitingCompletion` by `complete`.
Along every run, an entry once present stays present and its status never moves back. -/
theorem registry_changes_follow_lifecycle (P : ProcessorEnv Q) :
    (∀ (w w' : World Q) (a : Action Q), w.step P a = some w' →
      ∀ q, w'.queries.inner q ≠ w.queries.inner q →
        ∃ i sent c, a = .poll i sent ∧ w.calls[i]? = some c ∧
          c.origin.writer.allowed (w.queries.lifecycle q) (w'.queries.lifecycle q)) ∧
    (∀ (w w' : World Q) (as : List (Action Q)), w.run P as = some w' → ∀ q,
      ((w.queries.inner q).isSome → (w'.queries.inner q).isSome) ∧
        (w.queries.lifecycle q).rank ≤ (w'.queries.lifecycle q).rank) := by
  refine ⟨fun w w' a h q hne => ?_, fun w w' as h q => ?_⟩
  · rcases World.step_changesBy h with hq | ⟨i, sent, c, ha, hc, hch⟩
    · exact absurd (by rw [hq]) hne
    · exact ⟨i, sent, c, ha, hc, hch q hne⟩
  · have hle := World.run_rank_le h q
    refine ⟨fun hs => ?_, hle⟩
    rw [RunningQueries.isSome_iff_rank_pos] at hs ⊢
    exact Nat.lt_of_lt_of_le hs hle

/-! ## Each move at most once

A move of the lifecycle that a call reports (a setup call returning `Ok`, a `receive_inputs`
returning `Ok`, a `complete` taking the handle) is made by a stretch that finds the id below the
move's target and leaves it there.  Since the registry only moves forward, no later stretch finds
the id below the target again, so at most one call per id ever carries the report.  `MovesOnce`
says what a report must satisfy, and `World.run_onceInv` gives the conclusion over every run. -/

omit [DecidableEq Q] in
/-- Replacing the call at `i` changes a count by what the old and the new call contribute. -/
lemma countP_set_eq {calls : List (Call Q)} {i : Nat} {c : Call Q} (p : Call Q → Bool)
    (c' : Call Q) (hc : calls[i]? = some c) :
    (calls.set i c').countP p =
      calls.countP p - (if p c then 1 else 0) + (if p c' then 1 else 0) := by
  obtain ⟨hi, rfl⟩ := List.getElem?_eq_some_iff.1 hc
  exact List.countP_set _ _ _ _ hi

/-- Where one element satisfies `p`, any two that do are that one. -/
lemma eq_of_countP_eq_one {α : Type} {p : α → Bool} {l : List α} (h : l.countP p = 1) {a b : α}
    (ha : a ∈ l) (hpa : p a) (hb : b ∈ l) (hpb : p b) : a = b := by
  rw [List.countP_eq_length_filter, List.length_eq_one] at h
  obtain ⟨y, hy⟩ := h
  have ha' : a ∈ l.filter p := List.mem_filter.2 ⟨ha, hpa⟩
  have hb' : b ∈ l.filter p := List.mem_filter.2 ⟨hb, hpb⟩
  rw [hy, List.mem_singleton] at ha' hb'
  rw [ha', hb']

/-- `mark` is a report a call makes about `q` only by the stretch that takes `q` up to rank `r`:
no call carries it when made or dropped, and a stretch that gives it to a call found `q` below
`r` and leaves it at `r` or above. -/
structure MovesOnce (P : ProcessorEnv Q) (q : Q) (mark : Call Q → Bool) (r : Nat) : Prop where
  invoked : ∀ call, mark (.invoked call) = false
  dropped : ∀ call, mark (.dropped call) = false
  resume : ∀ {queries : RunningQueries Q} {sent : Except IoError Unit} {c : Call Q}
    {seg : Segment Q}, c.resume P queries sent = some seg → mark c = false → mark seg.call →
    (queries.lifecycle q).rank < r ∧ r ≤ (seg.queries.lifecycle q).rank

/-- No call of `w` carries the report, or one does and `q` is at rank `r` or above. -/
def OnceInv (mark : Call Q → Bool) (r : Nat) (q : Q) (w : World Q) : Prop :=
  w.calls.countP mark = 0 ∨ (w.calls.countP mark = 1 ∧ r ≤ (w.queries.lifecycle q).rank)

section OnceInv

variable {q : Q} {mark : Call Q → Bool} {r : Nat} {w w' : World Q}

lemma World.step_onceInv (hm : MovesOnce P q mark r) {a : Action Q} (h : w.step P a = some w')
    (hi : OnceInv mark r q w) : OnceInv mark r q w' := by
  have hrank := World.step_rank_le h q
  -- an action that gives the report to no call keeps the invariant
  have hkeep (hle : w'.calls.countP mark ≤ w.calls.countP mark) : OnceInv mark r q w' := by
    by_cases h0 : w'.calls.countP mark = 0
    · exact .inl h0
    · rcases hi with hi | ⟨h1, h2⟩
      · omega
      · exact .inr ⟨by omega, Nat.le_trans h2 hrank⟩
  rcases World.step_cases h with ⟨-, -, i, c, -, hc, -, hcalls⟩ | ⟨-, -, call, -, hcalls⟩ |
      ⟨i, c, sent, seg, rfl, hc, hs, rfl⟩
  · refine hkeep ?_
    rw [hcalls, countP_set_eq mark _ hc, hm.dropped, if_neg Bool.false_ne_true]
    omega
  · refine hkeep ?_
    rw [hcalls, List.countP_append]
    simp [hm.invoked]
  · have hcount := countP_set_eq mark seg.call hc
    by_cases hnew : mark c = false ∧ mark seg.call
    · -- the stretch that makes the move: `q` was below `r`, so no call carried the report
      obtain ⟨hlt, hge⟩ := hm.resume hs hnew.1 hnew.2
      have h0 : w.calls.countP mark = 0 := hi.elim id fun ⟨_, h2⟩ => by omega
      refine .inr ⟨?_, hge⟩
      change (w.calls.set i seg.call).countP mark = 1
      rw [hcount, h0, hnew.1, if_pos hnew.2]
      rfl
    · refine hkeep ?_
      change (w.calls.set i seg.call).countP mark ≤ _
      rw [hcount]
      by_cases hc' : mark c
      · have := List.countP_pos_iff.2 ⟨c, List.getElem?_mem hc, hc'⟩
        rw [if_pos hc']
        split <;> omega
      · have hs' : mark seg.call = false := by simpa [hc'] using hnew
        rw [if_neg hc', hs', if_neg Bool.false_ne_true]
        omega

/-- **Each reported move is made at most once**, over every run from a fresh processor. -/
lemma World.run_onceInv (hm : MovesOnce P q mark r) {as : List (Action Q)}
    (h : World.init.run P as = some w) : OnceInv mark r q w :=
  World.run_preserves (OnceInv mark r q) (fun hi hs => World.step_onceInv hm hs hi) h (.inl rfl)

omit [DecidableEq Q] in
lemma OnceInv.count_le (hi : OnceInv mark r q w) : w.calls.countP mark ≤ 1 := by
  rcases hi with h | ⟨h, -⟩ <;> omega

omit [DecidableEq Q] in
/-- A call carrying the report is the only one, and `q` is at rank `r` or above. -/
lemma OnceInv.of_mark (hi : OnceInv mark r q w) {j : Nat} {c : Call Q} (hj : w.calls[j]? = some c)
    (hc : mark c) : w.calls.countP mark = 1 ∧ r ≤ (w.queries.lifecycle q).rank :=
  hi.resolve_left (Nat.pos_iff_ne_zero.1 (List.countP_pos_iff.2 ⟨c, List.getElem?_mem hj, hc⟩))

omit [DecidableEq Q] in
/-- Any two calls carrying the report are the same call. -/
lemma OnceInv.unique (hi : OnceInv mark r q w) {j : Nat} {c : Call Q} (hj : w.calls[j]? = some c)
    (hc : mark c) {c' : Call Q} (hc' : c' ∈ w.calls) (hm' : mark c') : c' = c :=
  eq_of_countP_eq_one (hi.of_mark hj hc).1 hc' hm' (List.getElem?_mem hj) hc

/-- Two calls carrying the report stand at the same index: putting a fresh call in place of one
of them leaves no report, so none is left at the other. -/
lemma OnceInv.index_unique (hm : MovesOnce P q mark r) (hi : OnceInv mark r q w) {j j' : Nat}
    {c c' : Call Q} (hj : w.calls[j]? = some c) (hc : mark c) (hj' : w.calls[j']? = some c')
    (hc' : mark c') : j = j' := by
  by_contra hne
  have hset := countP_set_eq mark (.invoked c.origin) hj
  rw [(hi.of_mark hj hc).1, if_pos hc, hm.invoked] at hset
  have hpos : 0 < (w.calls.set j (.invoked c.origin)).countP mark :=
    List.countP_pos_iff.2 ⟨c', List.getElem?_mem (by rwa [List.getElem?_set_ne hne]), hc'⟩
  simp only [Nat.sub_self, Bool.false_eq_true, ↓reduceIte, Nat.add_zero] at hset
  omega

end OnceInv

end IpaHelper
