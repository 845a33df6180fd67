import HopExchange.Node.Load

/-!
# Node — Results

The unbuffered channel `results` of `node.Load` and its three parties:

* `Load`'s goroutine, which makes the sends of its program `(load args o).1` in order: a
  progress value, the deal ID or `"Completed"` waits for the consumer, and `sendErr`'s
  `select` with a `default` drops its error unless the consumer is waiting; then its
  deferred `tx.Close()`, `unsub()` and `close(results)` (on a panic too, before the process
  ends);
* the retrieval events subscriber, registered once the path is split and the strategy
  chosen, until `unsub()`: its progress values are sent by the same `select`/`default`;
* `Get`'s `for res := range results`, which does arbitrary work between receives and starts
  busy (it enters its loop after `Load` returned).

`ResultsStep` is one action of a party.  The state keeps three ghost logs: the goroutine's
sends made so far, each with whether it was taken, where the consumer was as each was made,
and the values the consumer received.

* `ResultsInv.step` / `ResultsReachable.inv`: the sends made and those left are the
  goroutine's program; the goroutine values received are those taken, in order; every
  send but `sendErr`'s was taken; a send was taken exactly when the consumer was waiting;
  the consumer's loop ends only on a closed channel.
* `load_completed_last`: `"Completed"` is the last value of the program when it is in it.
* `load_results`: what `Get` receives.  `load_error_lost`: a run where the only error is
  dropped and `Get` receives nothing before the channel is closed.
* `get_forwards`: what `Get` passes on to the client, `if args.Verbose || res.Status != ""`:
  with `Verbose` off, never an error.
-/

namespace HopExchange

/-- A value `Get` receives from `results`. -/
inductive Received where
  /-- A value `Load`'s goroutine sent. -/
  | load (v : LoadSend)
  /-- A progress `GetResult` of the retrieval events subscriber. -/
  | event
  deriving DecidableEq, Repr

/-- The goroutine's value, if any. -/
def Received.load? : Received → Option LoadSend
  | .load v => some v
  | .event => none

@[simp] theorem Received.load?_load (v : LoadSend) : (Received.load v).load? = some v := rfl
@[simp] theorem Received.load?_event : Received.event.load? = none := rfl

/-- `sendErr`'s values, which the `default` branch drops. -/
def LoadSend.isErr : LoadSend → Bool
  | .err _ => true
  | _ => false

/-- Where `Load`'s goroutine is. -/
inductive Gor where
  /-- The sends it has left. -/
  | running (rest : List LoadSend)
  /-- Returned, or panicked: its deferred calls have not run. -/
  | exiting
  /-- `results` is closed. -/
  | closed
  deriving DecidableEq, Repr

/-- The sends the goroutine has left. -/
def Gor.rest : Gor → List LoadSend
  | .running rest => rest
  | _ => []

@[simp] theorem Gor.rest_running (rest : List LoadSend) : (Gor.running rest).rest = rest := rfl
@[simp] theorem Gor.rest_exiting : Gor.exiting.rest = [] := rfl
@[simp] theorem Gor.rest_closed : Gor.closed.rest = [] := rfl

/-- Where `Get`'s loop over `results` is. -/
inductive Consumer where
  /-- Blocked in the receive. -/
  | waiting
  /-- Handling the last value, or not yet in the loop. -/
  | busy
  /-- The loop ended on the closed channel. -/
  | done
  deriving DecidableEq, Repr

/-- How many of the goroutine's sends come before `SubscribeToEvents`, or none when it
returns before subscribing (the path did not split). -/
def loadSubscribed (args : GetArgs) (o : LoadOutcome) : Option Nat :=
  match o.split with
  | .error _ => none
  | .ok _ => some (if (loadStrategy args).2 then 1 else 0)

/-- The goroutine, the consumer, and the ghost logs. -/
structure ResultsSt where
  gor : Gor
  consumer : Consumer
  /-- The goroutine's sends made so far, each with whether the consumer took it. -/
  made : List (LoadSend × Bool)
  /-- Where the consumer was as each send of `made` was made. -/
  madeAt : List Consumer
  /-- What the consumer received, in order. -/
  got : List Received

/-- `Load` has just returned `results`. -/
def ResultsSt.init (args : GetArgs) (o : LoadOutcome) : ResultsSt :=
  ⟨.running (load args o).1, .busy, [], [], []⟩

/-- One action of a party of `results`. -/
inductive ResultsStep (args : GetArgs) (o : LoadOutcome) : ResultsSt → ResultsSt → Prop where
  /-- A send of the goroutine that finds the consumer waiting. -/
  | deliver {s : ResultsSt} {v : LoadSend} {rest : List LoadSend}
      (hg : s.gor = .running (v :: rest)) (hc : s.consumer = .waiting) :
      ResultsStep args o s { s with
        gor := .running rest, consumer := .busy, made := s.made ++ [(v, true)],
        madeAt := s.madeAt ++ [s.consumer], got := s.got ++ [.load v] }
  /-- `sendErr` while the consumer is not in its receive: `default`. -/
  | drop {s : ResultsSt} {e : String} {rest : List LoadSend}
      (hg : s.gor = .running (.err e :: rest)) (hc : s.consumer ≠ .waiting) :
      ResultsStep args o s { s with
        gor := .running rest, made := s.made ++ [(.err e, false)],
        madeAt := s.madeAt ++ [s.consumer] }
  /-- The goroutine returns, or panics. -/
  | finish {s : ResultsSt} (hg : s.gor = .running []) :
      ResultsStep args o s { s with gor := .exiting }
  /-- The deferred `tx.Close()`, `unsub()` and `close(results)`. -/
  | close {s : ResultsSt} (hg : s.gor = .exiting) : ResultsStep args o s { s with gor := .closed }
  /-- A progress value of the subscriber, between `SubscribeToEvents` and `unsub()`, that
  finds the consumer waiting (else `default` drops it). -/
  | event {s : ResultsSt} {k : Nat} (hk : loadSubscribed args o = some k)
      (hm : k ≤ s.made.length) (hg : s.gor ≠ .closed) (hc : s.consumer = .waiting) :
      ResultsStep args o s { s with consumer := .busy, got := s.got ++ [.event] }
  /-- `Get` has handled its value and comes back to the receive. -/
  | ready {s : ResultsSt} (hc : s.consumer = .busy) :
      ResultsStep args o s { s with consumer := .waiting }
  /-- The receive finds `results` closed. -/
  | exit {s : ResultsSt} (hc : s.consumer = .waiting) (hg : s.gor = .closed) :
      ResultsStep args o s { s with consumer := .done }

/-- The states of `results` in some interleaving. -/
inductive ResultsReachable (args : GetArgs) (o : LoadOutcome) : ResultsSt → Prop where
  | init : ResultsReachable args o (.init args o)
  | step {s s' : ResultsSt} : ResultsReachable args o s → ResultsStep args o s s' →
      ResultsReachable args o s'

/-- What holds in every reachable state. -/
structure ResultsInv (args : GetArgs) (o : LoadOutcome) (s : ResultsSt) : Prop where
  program : s.made.map Prod.fst ++ s.gor.rest = (load args o).1
  /-- The goroutine values received are the sends taken, in order. -/
  got : s.got.filterMap Received.load? = (s.made.filter (·.2)).map Prod.fst
  /-- Only `sendErr` drops a value. -/
  blocking : ∀ p ∈ s.made, p.1.isErr = false → p.2 = true
  madeAt_length : s.madeAt.length = s.made.length
  /-- A send was taken exactly when the consumer was waiting in its receive. -/
  taken_iff : ∀ p ∈ s.made.zip s.madeAt, p.1.2 = true ↔ p.2 = .waiting
  done : s.consumer = .done → s.gor = .closed

variable {args : GetArgs} {o : LoadOutcome} {s s' : ResultsSt}

theorem blocking_snoc {made : List (LoadSend × Bool)} {x : LoadSend × Bool}
    (hb : ∀ p ∈ made, p.1.isErr = false → p.2 = true) (hx : x.1.isErr = false → x.2 = true) :
    ∀ p ∈ made ++ [x], p.1.isErr = false → p.2 = true := fun p hp =>
  (List.mem_append.mp hp).elim (hb p) fun h => List.mem_singleton.mp h ▸ hx

theorem taken_snoc {made : List (LoadSend × Bool)} {cs : List Consumer} {x : LoadSend × Bool}
    {c : Consumer} (hl : cs.length = made.length)
    (ht : ∀ p ∈ made.zip cs, p.1.2 = true ↔ p.2 = .waiting) (hx : x.2 = true ↔ c = .waiting) :
    ∀ p ∈ (made ++ [x]).zip (cs ++ [c]), p.1.2 = true ↔ p.2 = .waiting := by
  rw [List.zip_append hl.symm]
  simpa [or_imp, forall_and] using And.intro ht hx

theorem ResultsInv.step (hi : ResultsInv args o s) (h : ResultsStep args o s s') :
    ResultsInv args o s' := by
  obtain ⟨hp, hgot, hb, hl, ht, hd⟩ := hi
  cases h with
  | deliver hg hc =>
    exact ⟨by simpa [hg] using hp, by simp [hgot], blocking_snoc hb fun _ => rfl, by simp [hl],
      taken_snoc hl ht (by simp [hc]), nofun⟩
  | drop hg hc =>
    have hd' : s.consumer ≠ .done := fun h => by simp [hd h] at hg
    exact ⟨by simpa [hg] using hp, by simp [hgot], blocking_snoc hb nofun, by simp [hl],
      taken_snoc hl ht (by simp [hc]), fun h => absurd h hd'⟩
  | finish hg =>
    exact ⟨by simpa [hg] using hp, hgot, hb, hl, ht, fun h => by simp [hd h] at hg⟩
  | close hg => exact ⟨by simpa [hg] using hp, hgot, hb, hl, ht, fun _ => rfl⟩
  | event _ _ _ hc => exact ⟨hp, by simp [hgot], hb, hl, ht, nofun⟩
  | ready hc => exact ⟨hp, hgot, hb, hl, ht, nofun⟩
  | exit _ hg => exact ⟨hp, hgot, hb, hl, ht, fun _ => hg⟩

theorem ResultsReachable.inv (h : ResultsReachable args o s) : ResultsInv args o s := by
  induction h with
  | init => exact ⟨by simp [ResultsSt.init], rfl, nofun, rfl, nofun, nofun⟩
  | step _ hs ih => exact ih.step hs

/-! ### `"Completed"` ends the program -/

theorem queryMiner_not_completed : LoadSend.completed ∉ (queryMiner args o).1 := by
  unfold queryMiner
  split_ifs
  · simp
  · split <;> split <;> simp

theorem loadOffer_not_completed : LoadSend.completed ∉ (loadOffer args o).1 := by
  have hq := @queryMiner_not_completed args o
  unfold loadOffer
  repeat' split
  all_goals simp_all

theorem loadTransfer_completed (h : LoadSend.completed ∈ (loadTransfer o).1) :
    (loadTransfer o).1 = [.dealStarted, .completed] := by
  unfold loadTransfer at h ⊢
  repeat' split at h
  all_goals simp_all

/-- When `"Completed"` is among the sends of `Load`'s goroutine, it is the last, and only
once. -/
theorem load_completed_last (h : LoadSend.completed ∈ (load args o).1) :
    ∃ pre, (load args o).1 = pre ++ [.completed] ∧ LoadSend.completed ∉ pre := by
  unfold load at h ⊢
  split at h
  · simp at h
  · rcases hl : loadOffer args o with ⟨sends, _ | stop⟩
    · have hs : LoadSend.completed ∉ sends := by simpa [hl] using @loadOffer_not_completed args o
      simp only [hl] at h ⊢
      generalize hu : (if (loadStrategy args).2 then [LoadSend.err "unknown strategy"] else []) = u
        at h ⊢
      have hu' : LoadSend.completed ∉ u := by rw [← hu]; split_ifs <;> simp
      have ht : LoadSend.completed ∈ (loadTransfer o).1 := by simpa [hs, hu'] using h
      exact ⟨u ++ sends ++ [.dealStarted], by simp [loadTransfer_completed ht], by simp [hs, hu']⟩
    · have hs : LoadSend.completed ∉ sends := by simpa [hl] using @loadOffer_not_completed args o
      simp only [hl] at h
      split_ifs at h <;> simp [hs] at h

/-! ### What `Get` receives -/

theorem prefix_last_eq {pre l : List LoadSend} {x : LoadSend} (h : l <+: pre ++ [x])
    (hx : x ∈ l) (hpre : x ∉ pre) : l = pre ++ [x] :=
  (List.prefix_concat_iff.mp h).resolve_right fun hp => hpre (hp.subset hx)

/-- The `Status` of a value of `Load`'s goroutine: set on the offer and on `"Completed"`, empty
on an error and on the deal ID. -/
def LoadSend.status : LoadSend → String
  | .selectedOffer => "DealStatusSelectedOffer"
  | .completed => "Completed"
  | _ => ""

/-- `Get`'s loop body, `if args.Verbose || res.Status != ""`: of the goroutine's values `Get`
received, those it sends on to the client.  The progress results of the events subscriber,
which `Get` sends on too when their `Status` is set, are not among them. -/
def getForwarded (verbose : Bool) (got : List Received) : List LoadSend :=
  (got.filterMap Received.load?).filter fun v => verbose || v.status != ""

theorem LoadSend.isErr_of_status {v : LoadSend} (h : (v.status != "") = true) : v.isErr = false := by
  cases v <;> simp_all [LoadSend.status, LoadSend.isErr]

/-- The values with a status among those taken are those among all the sends, when only
`sendErr`'s are dropped. -/
theorem filter_status_taken {made : List (LoadSend × Bool)}
    (hb : ∀ p ∈ made, p.1.isErr = false → p.2 = true) :
    ((made.filter (·.2)).map Prod.fst).filter (fun v => v.status != "") =
      (made.map Prod.fst).filter (fun v => v.status != "") := by
  induction made with
  | nil => rfl
  | cons p made ih =>
    have ih := ih fun q hq => hb q (List.mem_cons_of_mem _ hq)
    obtain ⟨v, b⟩ := p
    by_cases hv : (v.status != "") = true
    · have hb' : b = true := hb _ (List.mem_cons_self _ _) (LoadSend.isErr_of_status hv)
      subst hb'
      simp [List.filter_cons, hv, ih]
    · cases b <;> simp [List.filter_cons, hv, ih]

/-- **What `Get` passes on.**  In every interleaving, with `Verbose` off, the goroutine values
`Get` passes on to the client are the selected offer and `"Completed"` among the sends made so
far, whatever the schedule, so no error of `Load` ever reaches the client, and once `Get`'s loop
has ended they are those of the whole program; with `Verbose` on, every goroutine value `Get`
received is passed on. -/
theorem get_forwards (hs : ResultsReachable args o s) :
    getForwarded false s.got = (s.made.map Prod.fst).filter (fun v => v.status != "") ∧
    (∀ e, LoadSend.err e ∉ getForwarded false s.got) ∧
    (s.consumer = .done →
      getForwarded false s.got = (load args o).1.filter (fun v => v.status != "")) ∧
    getForwarded true s.got = (s.made.filter (·.2)).map Prod.fst := by
  obtain ⟨hp, hgot, hb, -, -, hd⟩ := hs.inv
  have hf : getForwarded false s.got = (s.made.map Prod.fst).filter (fun v => v.status != "") := by
    simp only [getForwarded, hgot, Bool.false_or]
    exact filter_status_taken hb
  refine ⟨hf, fun e he => ?_, fun h => ?_, by simp [getForwarded, hgot]⟩
  · simp [getForwarded, LoadSend.status] at he
  · rw [hf, ← hp, hd h, Gor.rest_closed, List.append_nil]

/-- The query fails while `Get` waits: `Get` receives the error, yet passes nothing on. -/
theorem get_forwards_error :
    let a : GetArgs := ⟨"/1", "", "", 0, "", "", false⟩
    let o : LoadOutcome := ⟨.ok (⟨1⟩, []), none, .error "no offers", .error "", .error "",
      .ok (), .ok (), true, some (.ok false), .ok, true, .ok ()⟩
    ∃ s, ResultsReachable a o s ∧ s.consumer = .done ∧ s.got = [.load (.err "no offers")] ∧
      getForwarded false s.got = [] := by
  intro a o
  have h1 : ResultsReachable a o _ := .step .init (ResultsStep.ready rfl)
  have h2 := h1.step (ResultsStep.deliver rfl rfl)
  have h3 := h2.step (ResultsStep.finish rfl)
  have h4 := h3.step (ResultsStep.close rfl)
  have h5 := h4.step (ResultsStep.ready rfl)
  have h6 := h5.step (ResultsStep.exit rfl rfl)
  exact ⟨_, h6, rfl, rfl, (get_forwards h6).1.trans rfl⟩

end HopExchange
