import HopExchange.Replication.Dispatch
import Mathlib.Logic.Relation

/-!
# Replication — Rounds

The rounds of `Dispatch`'s goroutine, over the step relation of `Replication.Dispatch`.
`b.Attempt()` is `attempt`, which only a round advances, so `attempt` counts the calls to
`PeerMgr.Peers` and `sendAllRequests`.

* `DispatchSt.toGo`: how far the goroutine is from returning.  Each of its moves lowers it
  and a step of another party leaves it (`toGo_step`), and until it returns the goroutine
  always has a move (`goroutine_enabled`).
* `Reachable.bounds`: with `BackoffAttemps ≥ 0` and `RF ≥ 1`, at most `BackoffAttemps + 1`
  rounds and at most `RF` records taken from `resChan` and sent on `out`.
* `dispatch_rounds`: the loop's bounds, its measure, and when `out` is closed: the deferred
  `unsub()` returns, and `close(out)` runs, exactly when the subscriber is not blocked.
  `dispatch_out_never_closed`: a run where it is blocked for good.
* `dispatch_excludes_unsent`: `rcv` holds every peer `Peers` returned, whether its request
  stream took the request or not, and no later round returns it.
-/

namespace HopExchange

/-- Where the goroutine is, counted down to `close(out)`: a round goes from the loop head to
the `select`, and each record or timer from the `select` back to a lower rank. -/
def Phase.rank : Phase → Nat
  | .select => 4
  | .forward _ => 3
  | .loop => 2
  | .exiting => 1
  | .closed => 0

@[simp] theorem Phase.rank_select : Phase.select.rank = 4 := rfl
@[simp] theorem Phase.rank_forward (r : PRecord) : (Phase.forward r).rank = 3 := rfl
@[simp] theorem Phase.rank_loop : Phase.loop.rank = 2 := rfl
@[simp] theorem Phase.rank_exiting : Phase.exiting.rank = 1 := rfl
@[simp] theorem Phase.rank_closed : Phase.closed.rank = 0 := rfl

/-- The goroutine's measure: six per round it may still start, two per record it may still
forward, and its place in the round. -/
def DispatchSt.toGo (c : Call) (s : DispatchSt) : Nat :=
  6 * ((c.opt.backoffAttemps + 1).toNat - s.attempt) + 2 * (c.opt.rf - s.n) + s.phase.rank

/-- The goroutine's counters stay within the options. -/
structure Bounds (c : Call) (s : DispatchSt) : Prop where
  attempt : (s.attempt : Int) ≤ c.opt.backoffAttemps + 1
  n_le : s.n ≤ c.opt.rf
  /-- Inside the loop, fewer than `RF` records have been forwarded. -/
  running : s.phase ≠ .exiting → s.phase ≠ .closed → s.n < c.opt.rf

variable {c : Call} {pulls : Pulls} {s s' : DispatchSt}

theorem Bounds.step (hb : Bounds c s) (h : Step c s s') : Bounds c s' := by
  obtain ⟨ha, hn, hr⟩ := hb
  cases h with
  | giveUp => exact ⟨ha, hn, fun h => absurd rfl h⟩
  | round _ _ hp ha' => exact ⟨by push_cast; omega, hn, fun _ _ => hr (by simp [hp]) (by simp [hp])⟩
  | fire hp | recv hp => exact ⟨ha, hn, fun _ _ => hr (by simp [hp]) (by simp [hp])⟩
  | forward hp =>
    have := hr (by simp [hp]) (by simp [hp])
    refine ⟨ha, this, fun he _ => ?_⟩
    dsimp only at he ⊢
    split_ifs at he
    · exact absurd rfl he
    · omega
  | unsub => exact ⟨ha, hn, fun _ h => absurd rfl h⟩
  | _ => exact ⟨ha, hn, hr⟩

theorem Reachable.bounds (ha : 0 ≤ c.opt.backoffAttemps) (hrf : 1 ≤ c.opt.rf)
    (h : Reachable c pulls s) : Bounds c s := by
  induction h with
  | init => exact ⟨by simp [DispatchSt.init]; omega, Nat.zero_le _, fun _ _ => hrf⟩
  | step _ hs ih => exact ih.step hs

/-- **The measure.**  A move of the goroutine (the only steps that change its phase) lowers
`toGo`, and every other step leaves it. -/
theorem toGo_step (hb : Bounds c s) (h : Step c s s') :
    s'.toGo c ≤ s.toGo c ∧ (s'.phase ≠ s.phase → s'.toGo c < s.toGo c) := by
  have ha := hb.attempt
  cases h with
  | giveUp hp | fire hp | recv hp | round _ _ hp | unsub hp =>
    simp only [DispatchSt.toGo, hp, Phase.rank]
    omega
  | forward hp =>
    have := hb.running (by simp [hp]) (by simp [hp])
    simp only [DispatchSt.toGo, hp]
    split_ifs <;> simp only [Phase.rank] <;> omega
  | _ => exact ⟨le_rfl, fun h => absurd rfl h⟩

/-- **Progress.**  Until it returns, the goroutine has a move: at the loop head a round
(asking for no peers, if need be) or its return, in the `select` the timer, and with a
record the send on `out`, which has a free slot. -/
theorem goroutine_enabled (hi : Inv c s) (hb : Bounds c s) (he : s.phase ≠ .exiting)
    (hc : s.phase ≠ .closed) : ∃ s', Step c s s' ∧ s'.phase ≠ s.phase := by
  have hn := hb.running he hc
  match hp : s.phase with
  | .loop =>
    by_cases ha : (s.attempt : Int) ≤ c.opt.backoffAttemps
    · exact ⟨_, .round [] (fun _ => .written) hp ha (by simp [PeersOk]; omega), nofun⟩
    · exact ⟨_, .giveUp hp (by omega), nofun⟩
  | .select => exact ⟨_, .fire hp, nofun⟩
  | .forward _ =>
    have := hi.count
    refine ⟨_, .forward hp (by omega), ?_⟩
    split_ifs <;> exact nofun
  | .exiting => exact absurd hp he
  | .closed => exact absurd hp hc

/-- Once the goroutine has returned, `out` is closed by the next step exactly when the
subscriber holds no record: the deferred `unsub()` waits for a callback that is running. -/
theorem close_iff (hp : s.phase = .exiting) :
    (∃ s', Step c s s' ∧ s'.phase = .closed) ↔ s.sub.held = [] := by
  refine ⟨fun ⟨s', h, hc⟩ => ?_, fun hs => ⟨_, .unsub hp hs, rfl⟩⟩
  cases h with
  | unsub _ hs => exact hs
  | giveUp hp' | round _ _ hp' | fire hp' | recv hp' | forward hp' => simp [hp] at hp'
  | _ => simp [hp] at hc

/-- **The loop of `Dispatch`.**  With `BackoffAttemps = a ≥ 0` and `RF ≥ 1`, in every state
a run reaches: at most `a + 1` rounds have been made, at most `RF` records have been taken
from `resChan` and at most `RF` sent on `out`, and a record about to be sent finds a free
slot; every move of the goroutine lowers `toGo` (at most `6(a + 1) + 2RF + 2` from the
start), no other step raises it, and the goroutine has a move until it returns.  Once it has
returned, `out` can be closed exactly when the subscriber is not blocked in its send. -/
theorem dispatch_rounds (ha : 0 ≤ c.opt.backoffAttemps) (hrf : 1 ≤ c.opt.rf)
    (hs : Reachable c pulls s) :
    (s.attempt : Int) ≤ c.opt.backoffAttemps + 1 ∧ s.taken ≤ c.opt.rf ∧ s.n ≤ c.opt.rf ∧
    (∀ r, s.phase = .forward r → s.out.length < c.opt.rf) ∧
    (∀ s', Step c s s' → s'.toGo c ≤ s.toGo c ∧ (s'.phase ≠ s.phase → s'.toGo c < s.toGo c)) ∧
    (s.phase ≠ .exiting → s.phase ≠ .closed → ∃ s', Step c s s' ∧ s'.phase ≠ s.phase) ∧
    (s.phase = .exiting → ((∃ s', Step c s s' ∧ s'.phase = .closed) ↔ s.sub.held = [])) := by
  have hb := hs.bounds ha hrf
  have hi := hs.inv
  have hcount := hi.count
  have hfwd : ∀ r, s.phase = .forward r → s.n < c.opt.rf := fun r hp =>
    hb.running (by simp [hp]) (by simp [hp])
  refine ⟨hb.attempt, ?_, hb.n_le, fun r hp => ?_, fun _ => toGo_step hb,
    goroutine_enabled hi hb, close_iff⟩
  · unfold DispatchSt.taken
    match hp : s.phase with
    | .forward r => simpa using hfwd r hp
    | .loop | .select | .exiting | .closed => simpa using hb.n_le
  · have := hfwd r hp
    omega

/-- One round with `RF = 1` asks peer `1`: the goroutine waits in its `select`, with a move
that leaves it. -/
theorem dispatch_rounds_first :
    ∃ s, Reachable ⟨⟨⟨1⟩, 0⟩, ⟨4, 1⟩, [⟨"Global", 0⟩], fun _ => [0]⟩ .empty s ∧
      s.attempt = 1 ∧ s.phase = .select ∧
      ∃ s', Step ⟨⟨⟨1⟩, 0⟩, ⟨4, 1⟩, [⟨"Global", 0⟩], fun _ => [0]⟩ s s' ∧ s'.phase ≠ s.phase := by
  let c : Call := ⟨⟨⟨1⟩, 0⟩, ⟨4, 1⟩, [⟨"Global", 0⟩], fun _ => [0]⟩
  have h1 : Reachable c .empty _ :=
    .step .init (Step.round [⟨1⟩] (fun _ => .written) rfl (by decide) (by decide))
  exact ⟨_, h1, rfl, rfl, (dispatch_rounds (by decide) (by decide) h1).2.2.2.2.2.1 nofun nofun⟩

/-! ### When `out` stays open -/

/-- The goroutine has returned while the subscriber is blocked on a full `resChan`. -/
structure Stuck (c : Call) (s : DispatchSt) : Prop where
  exiting : s.phase = .exiting
  blocked : s.sub.held ≠ []
  full : c.opt.rf ≤ s.resChan.length

/-- Nothing takes from `resChan` once the goroutine has returned, so nothing unblocks the
subscriber. -/
theorem Stuck.step (h : Stuck c s) (hs : Step c s s') : Stuck c s' := by
  obtain ⟨hp, hb, hf⟩ := h
  cases hs with
  | giveUp hp' | round _ _ hp' | fire hp' | recv hp' | forward hp' => simp [hp] at hp'
  | ignore _ hs | enqueue _ hs | block _ hs => simp [hs] at hb
  | unblock _ hroom => omega
  | unsub _ hs => exact absurd hs hb
  | take | authorizeOther => exact ⟨hp, hb, hf⟩

theorem Stuck.closure (h : Stuck c s) (hs : Relation.ReflTransGen (Step c) s s') :
    Stuck c s' := by
  induction hs with
  | refl => exact h
  | tail _ hs ih => exact ih.step hs

/-- With `RF = 1`, three rounds ask peers `1`, `2` and `3` in turn, and all three pull: every
completion is of a distinct peer this call sent the request to.  The goroutine forwards the
first record and returns, the second fills `resChan`, and the subscriber blocks on the third.
`unsub()` waits for it, and `out` is never closed. -/
theorem dispatch_out_never_closed :
    ∃ s, Reachable ⟨⟨⟨1⟩, 0⟩, ⟨4, 1⟩, [⟨"Global", 0⟩], fun _ => [0]⟩ .empty s ∧
      ((s.matched ⟨⟨1⟩, 0⟩).map PRecord.provider).Nodup ∧
      (∀ r ∈ s.matched ⟨⟨1⟩, 0⟩, r.provider ∈ s.sent) ∧ s.phase = .exiting ∧
      ∀ s', Relation.ReflTransGen (Step ⟨⟨⟨1⟩, 0⟩, ⟨4, 1⟩, [⟨"Global", 0⟩], fun _ => [0]⟩) s s' →
        s'.phase ≠ .closed := by
  let c : Call := ⟨⟨⟨1⟩, 0⟩, ⟨4, 1⟩, [⟨"Global", 0⟩], fun _ => [0]⟩
  let r : PeerId → PRecord := fun p => ⟨p, ⟨1⟩⟩
  have h1 : Reachable c .empty _ :=
    .step .init (Step.round [⟨1⟩] (fun _ => .written) rfl (by decide) (by decide))
  have h2 := h1.step (Step.fire rfl)
  have h3 := h2.step (Step.round [⟨2⟩] (fun _ => .written) rfl (by decide) (by decide))
  have h4 := h3.step (Step.fire rfl)
  have h5 := h4.step (Step.round [⟨3⟩] (fun _ => .written) rfl (by decide) (by decide))
  have h6 := h5.step (@Step.enqueue c _ ⟨.completed, ⟨1⟩, ⟨1⟩⟩ (r ⟨1⟩) rfl rfl (by decide))
  have h7 := h6.step (@Step.recv c _ (r ⟨1⟩) [] rfl rfl)
  have h8 := h7.step (@Step.forward c _ (r ⟨1⟩) rfl (by decide))
  have h9 := h8.step (@Step.enqueue c _ ⟨.completed, ⟨1⟩, ⟨2⟩⟩ (r ⟨2⟩) rfl rfl (by decide))
  have h10 := h9.step (@Step.block c _ ⟨.completed, ⟨1⟩, ⟨3⟩⟩ (r ⟨3⟩) rfl rfl (by decide))
  refine ⟨_, h10, by decide, by decide, rfl, fun s' hs' => ?_⟩
  rw [(Stuck.closure ⟨by rfl, by simp, by decide⟩ hs').exiting]
  exact nofun

/-! ### Whom later rounds exclude -/

theorem rcv_step (h : Step c s s') : s.rcv <+: s'.rcv := by
  cases h with
  | round => exact List.prefix_append _ _
  | _ => exact List.prefix_rfl

/-- A peer in `rcv` that was not sent the request is never sent it: later rounds return
only peers outside `rcv`. -/
theorem unsent_step {p : PeerId} (hp : p ∈ s.rcv) (hns : p ∉ s.sent) (h : Step c s s') :
    p ∈ s'.rcv ∧ p ∉ s'.sent := by
  refine ⟨(rcv_step h).subset hp, ?_⟩
  cases h with
  | round ps outcome _ _ hps =>
    simp only [List.mem_append, not_or]
    exact ⟨hns, fun h => (hps.2.2 p (List.mem_of_mem_filter h)).1 hp⟩
  | _ => exact hns

theorem unsent_closure {p : PeerId} (hp : p ∈ s.rcv) (hns : p ∉ s.sent)
    (hs : Relation.ReflTransGen (Step c) s s') : p ∈ s'.rcv ∧ p ∉ s'.sent := by
  induction hs with
  | refl => exact ⟨hp, hns⟩
  | tail _ h ih => exact unsent_step ih.1 ih.2 h

/-- With `RF = 2`, the first round's `Peers` returns peer `1` alone and opening its request
stream fails: peer `1` never received the request, yet it is in `rcv`, so from then on no
round of this `Dispatch` returns it, whatever `Peers` is asked for, and it is never sent
the request. -/
theorem dispatch_excludes_unsent :
    ∃ s, Reachable ⟨⟨⟨1⟩, 0⟩, ⟨4, 2⟩, [⟨"Global", 0⟩], fun _ => [0]⟩ .empty s ∧
      ⟨1⟩ ∈ s.rcv ∧ ⟨1⟩ ∉ s.sent ∧
      ∀ s', Relation.ReflTransGen (Step ⟨⟨⟨1⟩, 0⟩, ⟨4, 2⟩, [⟨"Global", 0⟩], fun _ => [0]⟩) s s' →
        ⟨1⟩ ∉ s'.sent ∧
        ∀ k ps, PeersOk (fun _ => [0]) k [⟨"Global", 0⟩] s'.rcv ps → ⟨1⟩ ∉ ps := by
  let c : Call := ⟨⟨⟨1⟩, 0⟩, ⟨4, 2⟩, [⟨"Global", 0⟩], fun _ => [0]⟩
  have h1 : Reachable c .empty _ :=
    .step .init (Step.round [⟨1⟩] (fun _ => .openFailed) rfl (by decide) (by decide))
  refine ⟨_, h1, by decide, by decide, fun s' hs' => ?_⟩
  have hu : (⟨1⟩ : PeerId) ∈ s'.rcv ∧ ⟨1⟩ ∉ s'.sent := unsent_closure (by decide) (by decide) hs'
  exact ⟨hu.2, fun _ _ hps h => (hps.2.2 _ h).1 hu.1⟩

end HopExchange
