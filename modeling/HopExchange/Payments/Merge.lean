import HopExchange.Basic
import Mathlib

/-!
# Payments — Merge

A `fundsReq` is active until its `cancel()`; `newMergedFundsReq(reqs)` points every request
at the merge (`setMergeParent`) and then runs `checkActive`, which reads `isActive` of each
request in turn and cancels the merge's context when it finds none active.  `cancel()`
marks its request inactive and reads its merge parent in one critical section, then runs
the parent's `checkActive`.  The queue later calls `m.sum()`, which adds the amounts of the
requests it reads as active, and then `m.onComplete(res)`, which hands `res` to the
promise of every request it reads as active.

Each critical section of a `fundsReq` is one step; `checkActive`, `sum` and `onComplete`
take one step per request, so every interleaving of the Go program is a run of
`MergeStep`.  Requests are numbers; `reqs` lists the merge's members in order.

* `MergeInv.step`: every index a scan has passed was inactive when read and stays so;
  a cancelled merge has no active member; once `newMergedFundsReq` has returned, either the
  merge is cancelled or some member's `cancel()` has not returned.
* `SumInv.step`: `sum` is the total of the amounts of the indices it read as active, and
  each index whose promise received `res` is among them.
-/

namespace HopExchange

/-- Where `newMergedFundsReq` is: `setMergeParent` at index `i`, `checkActive` at `i`, or
returned. -/
inductive NewPc where
  | setting (i : Nat)
  | checking (i : Nat)
  | done
  deriving DecidableEq, Repr

/-- Where a request's `cancel()` is: not called, in the parent's `checkActive` at `i`, or
returned. -/
inductive CancelPc where
  | idle
  | checking (i : Nat)
  | done
  deriving DecidableEq, Repr

/-- Where `sum` or `onComplete` is in its loop over `reqs`. -/
inductive LoopPc where
  | reading (i : Nat)
  | done
  deriving DecidableEq, Repr

/-- The requests' fields, the merge's context, and the threads; `included` and `delivered`
are ghost logs of indices. -/
structure MergeSt where
  active : Nat → Bool
  parent : Nat → Bool
  cancelled : Bool
  newPc : NewPc
  cancelPc : Nat → CancelPc
  sumPc : LoopPc
  sum : Int
  included : List Nat
  completePc : LoopPc
  delivered : List Nat

/-- Fresh requests (`newFundsReq` sets `active`), no parent, nothing run. -/
def MergeSt.init : MergeSt :=
  ⟨fun _ => true, fun _ => false, false, .setting 0, fun _ => .idle, .reading 0, 0, [],
    .reading 0, []⟩

/-- One atomic step of one thread. -/
inductive MergeStep (reqs : List Nat) (amt : Nat → Int) : MergeSt → MergeSt → Prop where
  /-- `r.setMergeParent(m)`. -/
  | setParent {s : MergeSt} {i r : Nat} (hp : s.newPc = .setting i) (hr : reqs[i]? = some r) :
      MergeStep reqs amt s
        { s with parent := Function.update s.parent r true, newPc := .setting (i + 1) }
  /-- The parents are set; `m.checkActive()` starts. -/
  | beginCheck {s : MergeSt} {i : Nat} (hp : s.newPc = .setting i) (hr : reqs[i]? = none) :
      MergeStep reqs amt s { s with newPc := .checking 0 }
  /-- `checkActive` of `newMergedFundsReq` reads an active request and returns. -/
  | newFound {s : MergeSt} {i r : Nat} (hp : s.newPc = .checking i) (hr : reqs[i]? = some r)
      (ha : s.active r = true) : MergeStep reqs amt s { s with newPc := .done }
  /-- It reads an inactive request and goes on. -/
  | newSkip {s : MergeSt} {i r : Nat} (hp : s.newPc = .checking i) (hr : reqs[i]? = some r)
      (ha : s.active r = false) : MergeStep reqs amt s { s with newPc := .checking (i + 1) }
  /-- It found no active request: `m.cancel()`. -/
  | newCancel {s : MergeSt} {i : Nat} (hp : s.newPc = .checking i) (hr : reqs[i]? = none) :
      MergeStep reqs amt s { s with cancelled := true, newPc := .done }
  /-- The critical section of `r.cancel()`: `active = false; m := r.merge`. -/
  | cancelEnter {s : MergeSt} {r : Nat} (hm : r ∈ reqs) (hc : s.cancelPc r = .idle) :
      MergeStep reqs amt s { s with
        active := Function.update s.active r false,
        cancelPc := Function.update s.cancelPc r (if s.parent r then .checking 0 else .done) }
  /-- The parent's `checkActive`, called by `r.cancel()`, reads an active request. -/
  | cancelFound {s : MergeSt} {r i r' : Nat} (hc : s.cancelPc r = .checking i)
      (hr : reqs[i]? = some r') (ha : s.active r' = true) :
      MergeStep reqs amt s { s with cancelPc := Function.update s.cancelPc r .done }
  | cancelSkip {s : MergeSt} {r i r' : Nat} (hc : s.cancelPc r = .checking i)
      (hr : reqs[i]? = some r') (ha : s.active r' = false) :
      MergeStep reqs amt s { s with cancelPc := Function.update s.cancelPc r (.checking (i + 1)) }
  | cancelCancel {s : MergeSt} {r i : Nat} (hc : s.cancelPc r = .checking i)
      (hr : reqs[i]? = none) :
      MergeStep reqs amt s { s with
        cancelled := true, cancelPc := Function.update s.cancelPc r .done }
  /-- `sum` reads `r.isActive()` and adds `r.amt` if so. -/
  | sumRead {s : MergeSt} {i r : Nat} (hp : s.sumPc = .reading i) (hr : reqs[i]? = some r) :
      MergeStep reqs amt s { s with
        sumPc := .reading (i + 1),
        sum := if s.active r then s.sum + amt r else s.sum,
        included := if s.active r then s.included ++ [i] else s.included }
  | sumDone {s : MergeSt} {i : Nat} (hp : s.sumPc = .reading i) (hr : reqs[i]? = none) :
      MergeStep reqs amt s { s with sumPc := .done }
  /-- After `sum` returned, `onComplete` reads `r.isActive()`; an active request's promise
  may receive `res` (or its context is done first). -/
  | completeRead {s : MergeSt} {i r : Nat} (got : Bool) (hs : s.sumPc = .done)
      (hp : s.completePc = .reading i) (hr : reqs[i]? = some r) :
      MergeStep reqs amt s { s with
        completePc := .reading (i + 1),
        delivered := if s.active r && got then s.delivered ++ [i] else s.delivered }
  | completeDone {s : MergeSt} {i : Nat} (hs : s.sumPc = .done) (hp : s.completePc = .reading i)
      (hr : reqs[i]? = none) :
      MergeStep reqs amt s { s with completePc := .done }

/-- The states of a merge from fresh requests. -/
inductive MergeReachable (reqs : List Nat) (amt : Nat → Int) : MergeSt → Prop where
  | init : MergeReachable reqs amt .init
  | step {s s' : MergeSt} :
      MergeReachable reqs amt s → MergeStep reqs amt s s' → MergeReachable reqs amt s'

/-! ### Cancellation of the merge -/

/-- The requests at indices below `i` are inactive. -/
def Passed (reqs : List Nat) (active : Nat → Bool) (i : Nat) : Prop :=
  ∀ j < i, ∀ r, reqs[j]? = some r → active r = false

/-- How many parents `newMergedFundsReq` has set. -/
def NewPc.parentsSet (reqs : List Nat) : NewPc → Nat
  | .setting i => i
  | _ => reqs.length

variable {reqs : List Nat} {amt : Nat → Int} {s s' : MergeSt}

theorem Passed.zero (active : Nat → Bool) : Passed reqs active 0 := fun _ h => absurd h (by omega)

theorem Passed.succ {active : Nat → Bool} {i r : Nat} (h : Passed reqs active i)
    (hr : reqs[i]? = some r) (ha : active r = false) : Passed reqs active (i + 1) := by
  intro j hj r' hr'
  rcases Nat.lt_succ_iff_lt_or_eq.mp hj with hj | rfl
  · exact h j hj r' hr'
  · rw [hr] at hr'
    cases hr'
    exact ha

/-- A scan that ran off the end has passed every member. -/
theorem Passed.all {active : Nat → Bool} {i : Nat} (h : Passed reqs active i)
    (hr : reqs[i]? = none) : ∀ r ∈ reqs, active r = false := by
  intro r hm
  obtain ⟨j, hj⟩ := List.mem_iff_getElem?.mp hm
  have hlt : j < reqs.length := (List.getElem?_eq_some_iff.mp hj).1
  have hle : reqs.length ≤ i := List.getElem?_eq_none_iff.mp hr
  exact h j (by omega) r hj

/-- Cancelling makes a request inactive and nothing makes one active again. -/
theorem Passed.cancel {active : Nat → Bool} {i r : Nat} (h : Passed reqs active i) :
    Passed reqs (Function.update active r false) i := by
  intro j hj r' hr'
  by_cases e : r' = r
  · subst e; simp
  · simp [Function.update_noteq e, h j hj r' hr']

/-- What holds in every state of a merge and its cancellations. -/
structure MergeInv (reqs : List Nat) (s : MergeSt) : Prop where
  newPassed : ∀ i, s.newPc = .checking i → Passed reqs s.active i
  cancelPassed : ∀ r i, s.cancelPc r = .checking i → Passed reqs s.active i
  /-- A cancelled merge has no active member. -/
  safe : s.cancelled = true → ∀ r ∈ reqs, s.active r = false
  /-- Only `cancel()` deactivates a request. -/
  idle : ∀ r, s.active r = true → s.cancelPc r = .idle
  parents : ∀ j < s.newPc.parentsSet reqs, ∀ r, reqs[j]? = some r → s.parent r = true
  /-- Once `newMergedFundsReq` returned, the merge is cancelled or some `cancel()` of a
  member has not returned. -/
  pending : s.newPc = .done →
    s.cancelled = true ∨ ∃ r ∈ reqs, s.cancelPc r = .idle ∨ ∃ i, s.cancelPc r = .checking i

theorem MergeInv.init : MergeInv reqs .init where
  newPassed := nofun
  cancelPassed := nofun
  safe := nofun
  idle _ _ := rfl
  parents _ h := absurd h (Nat.not_lt_zero _)
  pending := nofun

theorem update_active {active : Nat → Bool} {r r' : Nat}
    (h : Function.update active r false r' = true) : r' ≠ r ∧ active r' = true := by
  by_cases e : r' = r
  · subst e; simp at h
  · exact ⟨e, by simpa [Function.update_noteq e] using h⟩

/-- Once `newMergedFundsReq` is past `setMergeParent`, every member has its parent set. -/
theorem MergeInv.parents_of_ne (hi : MergeInv reqs s) (hp : ∀ i, s.newPc ≠ .setting i) :
    ∀ j < reqs.length, ∀ r, reqs[j]? = some r → s.parent r = true := by
  have h := hi.parents
  cases e : s.newPc with
  | setting i => exact absurd e (hp i)
  | _ => rwa [e] at h

/-- A request in its `cancel()` is inactive, so moving its `cancel()` on keeps `idle`. -/
theorem MergeInv.idle_update (hi : MergeInv reqs s) {r i : Nat} (hc : s.cancelPc r = .checking i)
    (c : CancelPc) : ∀ q, s.active q = true → Function.update s.cancelPc r c q = .idle := by
  intro q h
  have hq := hi.idle q h
  have e : q ≠ r := fun e => by rw [e, hc] at hq; cases hq
  rwa [Function.update_noteq e]

/-- A `cancel()` that returns leaves the scans of the others as they were. -/
theorem MergeInv.cancelPassed_done (hi : MergeInv reqs s) (r : Nat) :
    ∀ q j, Function.update s.cancelPc r .done q = .checking j → Passed reqs s.active j := by
  intro q j h
  by_cases e : q = r
  · subst e; simp at h
  · rw [Function.update_noteq e] at h; exact hi.cancelPassed q j h

theorem MergeInv.step (hi : MergeInv reqs s) (h : MergeStep reqs amt s s') : MergeInv reqs s' := by
  cases h with
  | @setParent i r hp hr =>
      refine ⟨nofun, hi.cancelPassed, hi.safe, hi.idle, fun j hj r' hr' => ?_, nofun⟩
      simp only [NewPc.parentsSet, Function.update_apply] at hj ⊢
      split
      · rfl
      rcases Nat.lt_succ_iff_lt_or_eq.mp hj with hj | rfl
      · exact hi.parents j (by simpa [hp, NewPc.parentsSet] using hj) r' hr'
      · rw [hr] at hr'; cases hr'; contradiction
  | @beginCheck i hp hr =>
      refine ⟨fun _ h => ?_, hi.cancelPassed, hi.safe, hi.idle, fun j hj r' hr' => ?_, nofun⟩
      · cases h; exact .zero _
      · have hle : reqs.length ≤ i := List.getElem?_eq_none_iff.mp hr
        simp only [NewPc.parentsSet] at hj
        exact hi.parents j (by simp only [hp, NewPc.parentsSet]; omega) r' hr'
  | @newFound i r hp hr ha =>
      refine ⟨nofun, hi.cancelPassed, hi.safe, hi.idle, hi.parents_of_ne (by simp [hp]),
        fun _ => .inr ⟨r, List.getElem?_mem hr, .inl (hi.idle r ha)⟩⟩
  | @newSkip i r hp hr ha =>
      refine ⟨fun _ h => ?_, hi.cancelPassed, hi.safe, hi.idle, hi.parents_of_ne (by simp [hp]),
        nofun⟩
      cases h; exact (hi.newPassed i hp).succ hr ha
  | @newCancel i hp hr =>
      exact ⟨nofun, hi.cancelPassed, fun _ => (hi.newPassed i hp).all hr, hi.idle,
        hi.parents_of_ne (by simp [hp]), fun _ => .inl rfl⟩
  | @cancelEnter r hm hc =>
      refine ⟨fun i h => (hi.newPassed i h).cancel, fun r' i h => ?_, fun h r' hr' => ?_,
        fun r' h => ?_, hi.parents, fun h => ?_⟩
      · by_cases e : r' = r
        · subst e
          simp only [Function.update_same] at h
          split at h <;> cases h
          exact .zero _
        · simp only [Function.update_noteq e] at h
          exact (hi.cancelPassed r' i h).cancel
      · by_cases e : r' = r
        · subst e; simp
        · simp [Function.update_noteq e, hi.safe h r' hr']
      · obtain ⟨e, h⟩ := update_active h
        simp [Function.update_noteq e, hi.idle r' h]
      · replace h : s.newPc = .done := h
        have hpar : s.parent r = true := by
          obtain ⟨j, hj⟩ := List.mem_iff_getElem?.mp hm
          exact hi.parents_of_ne (by simp [h]) j (List.getElem?_eq_some_iff.mp hj).1 r hj
        rcases hi.pending h with hcan | ⟨w, hw, hpc⟩
        · exact .inl hcan
        · refine .inr ⟨w, hw, ?_⟩
          by_cases e : w = r
          · subst e; simp [hpar]
          · simpa only [Function.update_noteq e] using hpc
  | @cancelFound r i r' hc hr ha =>
      have hne : r' ≠ r := fun e => by simp [e, hc] at ha; simp [hi.idle r ha] at hc
      refine ⟨hi.newPassed, hi.cancelPassed_done r, hi.safe, hi.idle_update hc _, hi.parents,
        fun h => ?_⟩
      rcases hi.pending h with hcan | ⟨w, hw, hpc⟩
      · exact .inl hcan
      · by_cases e : w = r
        · exact .inr ⟨r', List.getElem?_mem hr, .inl (by
            simpa [Function.update_noteq hne] using hi.idle r' ha)⟩
        · exact .inr ⟨w, hw, by simpa only [Function.update_noteq e] using hpc⟩
  | @cancelSkip r i r' hc hr ha =>
      refine ⟨hi.newPassed, fun q j h => ?_, hi.safe, hi.idle_update hc _, hi.parents,
        fun h => ?_⟩
      · by_cases e : q = r
        · subst e
          simp only [Function.update_same, CancelPc.checking.injEq] at h
          subst h
          exact (hi.cancelPassed q i hc).succ hr ha
        · simp only [Function.update_noteq e] at h; exact hi.cancelPassed q j h
      · rcases hi.pending h with hcan | ⟨w, hw, hpc⟩
        · exact .inl hcan
        · refine .inr ⟨w, hw, ?_⟩
          by_cases e : w = r
          · subst e; simp
          · simpa only [Function.update_noteq e] using hpc
  | @cancelCancel r i hc hr =>
      exact ⟨hi.newPassed, hi.cancelPassed_done r, fun _ => (hi.cancelPassed r i hc).all hr,
        hi.idle_update hc _, hi.parents, fun _ => .inl rfl⟩
  | sumRead | sumDone | completeRead | completeDone =>
      exact ⟨hi.newPassed, hi.cancelPassed, hi.safe, hi.idle, hi.parents, hi.pending⟩

theorem MergeReachable.mergeInv (hs : MergeReachable reqs amt s) : MergeInv reqs s := by
  induction hs with
  | init => exact .init
  | step _ h ih => exact ih.step h

/-- **Cancelling a merge.**  Whatever the interleaving, the merge's context is never
cancelled while a member is active; once `newMergedFundsReq` has returned and the `cancel()`
of every member has returned, the context is cancelled. -/
theorem merge_cancel (hs : MergeReachable reqs amt s) :
    (s.cancelled = true → ∀ r ∈ reqs, s.active r = false) ∧
    (s.newPc = .done → (∀ r ∈ reqs, s.cancelPc r = .done) → s.cancelled = true) := by
  have hi := hs.mergeInv
  refine ⟨hi.safe, fun hn hc => ?_⟩
  rcases hi.pending hn with h | ⟨r, hr, h | ⟨i, h⟩⟩
  · exact h
  · simp [hc r hr] at h
  · simp [hc r hr] at h

/-- One request cancelled while its merge is built: the merge's scan and the request's
`cancel()` both run to the end, and the merge is cancelled. -/
theorem merge_cancel_one :
    ∃ s, MergeReachable [1] (fun _ => 5) s ∧ s.newPc = .done ∧ s.cancelPc 1 = .done ∧
      s.cancelled = true := by
  have h1 : MergeReachable [1] (fun _ => 5) _ := .step .init (.setParent rfl rfl)
  have h2 := h1.step (.beginCheck rfl rfl)
  have h3 := h2.step (@MergeStep.cancelEnter _ _ _ 1 (by simp) rfl)
  have h4 := h3.step (.newSkip rfl rfl rfl)
  have h5 := h4.step (.newCancel rfl rfl)
  have h6 := h5.step (@MergeStep.cancelSkip _ _ _ 1 0 1 rfl rfl rfl)
  have h7 := h6.step (@MergeStep.cancelCancel _ _ _ 1 1 rfl rfl)
  exact ⟨_, h7, rfl, rfl, (merge_cancel h7).2 rfl (by simp)⟩

/-! ### The sum and the promises -/

/-- The sum of the amounts of the members at the indices `incl`. -/
def amountAt (reqs : List Nat) (amt : Nat → Int) (incl : List Nat) : Int :=
  (incl.map fun j => (reqs[j]?.map amt).getD 0).sum

/-- How far a loop over `reqs` has read. -/
def LoopPc.pos (reqs : List Nat) : LoopPc → Nat
  | .reading i => i
  | .done => reqs.length

/-- `sum` adds what it read as active, and only those indices reach `onComplete`'s
promises. -/
structure SumInv (reqs : List Nat) (amt : Nat → Int) (s : MergeSt) : Prop where
  total : s.sum = amountAt reqs amt s.included
  /-- A request active now was active when `sum` read it. -/
  read : ∀ j < s.sumPc.pos reqs, ∀ r, reqs[j]? = some r → s.active r = true → j ∈ s.included
  delivered : ∀ j ∈ s.delivered, j ∈ s.included

theorem SumInv.step (hi : SumInv reqs amt s) (h : MergeStep reqs amt s s') : SumInv reqs amt s' := by
  cases h with
  | @cancelEnter r hm hc =>
      exact ⟨hi.total, fun j hj r' hr' ha => hi.read j hj r' hr' (update_active ha).2,
        hi.delivered⟩
  | @sumRead i r hp hr =>
      refine ⟨?_, fun j hj r' hr' ha => ?_, fun j hj => ?_⟩
      · split <;> simp [hi.total, amountAt, hr]
      · simp only [LoopPc.pos] at hj
        rcases Nat.lt_succ_iff_lt_or_eq.mp hj with hj | rfl
        · have := hi.read j (by simpa [hp, LoopPc.pos] using hj) r' hr' ha
          split <;> simp [this]
        · rw [hr] at hr'; cases hr'
          simp only at ha
          simp [ha]
      · have := hi.delivered j hj
        split <;> simp [this]
  | @sumDone i hp hr =>
      have hle : reqs.length ≤ i := List.getElem?_eq_none_iff.mp hr
      refine ⟨hi.total, fun j hj r' hr' ha => hi.read j ?_ r' hr' ha, hi.delivered⟩
      simp only [hp, LoopPc.pos] at hj ⊢
      omega
  | @completeRead i r got hsd hp hr =>
      refine ⟨hi.total, hi.read, fun j hj => ?_⟩
      simp only at hj
      split at hj
      · rename_i ha
        rcases List.mem_append.mp hj with hj | hj
        · exact hi.delivered j hj
        · simp only [List.mem_singleton] at hj
          subst hj
          have hlt : j < reqs.length := (List.getElem?_eq_some_iff.mp hr).1
          have ha' : s.active r = true := by simp at ha; exact ha.1
          exact hi.read j (by simpa [hsd, LoopPc.pos] using hlt) r hr ha'
      · exact hi.delivered j hj
  | _ => exact ⟨hi.total, hi.read, hi.delivered⟩

theorem MergeReachable.sumInv (hs : MergeReachable reqs amt s) : SumInv reqs amt s := by
  induction hs with
  | init => exact ⟨rfl, fun j hj => by simp [MergeSt.init, LoopPc.pos] at hj, by simp [MergeSt.init]⟩
  | step _ h ih => exact ih.step h

/-- **No promise without its amount.**  Whatever `cancel()` calls interleave with `sum()`
and the later `onComplete(res)`, `sum` is the total of the amounts of the requests it read
as active, and every request whose promise received `res` is one of them. -/
theorem merge_sum_delivered (hs : MergeReachable reqs amt s) :
    s.sum = amountAt reqs amt s.included ∧ ∀ j ∈ s.delivered, j ∈ s.included :=
  ⟨hs.sumInv.total, hs.sumInv.delivered⟩

/-- Request `2` is cancelled between `sum`'s reads: only request `1` is summed and only its
promise receives the result. -/
theorem merge_sum_one_cancelled :
    ∃ s, MergeReachable [1, 2] (fun r => r) s ∧ s.delivered = [0] ∧ s.sum = 1 ∧
      s.included = [0] := by
  have h1 : MergeReachable [1, 2] (fun r => r) _ := .step .init (.sumRead rfl rfl)
  have h2 := h1.step (@MergeStep.cancelEnter _ _ _ 2 (by simp) rfl)
  have h3 := h2.step (.sumRead rfl rfl)
  have h4 := h3.step (.sumDone rfl rfl)
  have h5 := h4.step (.completeRead true rfl rfl rfl)
  have h6 := h5.step (.completeRead true rfl rfl rfl)
  obtain ⟨hsum, -⟩ := merge_sum_delivered h6
  exact ⟨_, h6, rfl, by simpa [amountAt] using hsum, rfl⟩

end HopExchange
