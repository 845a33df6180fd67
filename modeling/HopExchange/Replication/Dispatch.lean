import HopExchange.Replication.Authorize

/-!
# Replication — Dispatch

`Replication.Dispatch(req, opt)` runs three parties around two buffered channels of
capacity `opt.RF`:

* the **subscriber** it registers with the data-transfer manager: for every event whose
  channel is `Completed` with base CID `req.PayloadCID` it sends
  `PRecord{Recipient, BaseCID}` into `resChan`, blocking the publisher while `resChan` is
  full;
* the **dispatch goroutine**: rounds of `PeerMgr.Peers(RF - n, r.rgs, rcv)`,
  `AuthorizePull` and `rcv[p] = true` for each provider, `sendAllRequests` and a backoff
  timer; between rounds it forwards records from `resChan` to `out` and counts them in `n`;
  it returns at `n == RF` or once the attempts are spent, then runs `unsub()` and
  `close(out)`;
* the **caller**, reading `out`.

`Step` is one atomic action of any party, or of another `Dispatch` authorizing its own
providers in the shared `pulls` map.  A timer may fire at any moment, and an event may
carry any channel, so every schedule of the Go program is a run of `Step`.  The state keeps
two ghost logs: the events the subscriber was handed (`events`) and the records the caller
read (`read`); `sent` records the peers whose request stream was written.

* `Inv.step` / `Reachable.inv`: the records still in flight, after those read, are
  exactly the records of the matching events, in delivery order (`conserve`); every peer
  in `rcv` was authorized for the root and advertises one of the node's regions; every peer
  sent to is in `rcv`.
* `dispatch_records`: what the caller reads is a prefix of the records of the `Completed`
  events of the root; distinct providers that received the request only when the events are
  theirs.
* `dispatch_send_blocks`: the subscriber's send finds a slot (`Step.enqueue`) exactly while
  fewer than `RF` matching records wait for the goroutine.

`PeerMgr.Peers` is not in the repository; its contract is taken from the spec.  Events
the subscriber turns into no record change only the ghost log, and the unsubscribe of the
data-transfer manager waits for a running callback to return.  The channels are buffered:
with `RF = 0` Go's unbuffered channels hand a value over by rendezvous, which `Step` does not
have, so the results about the channels assume `RF ≥ 1`.
-/

namespace HopExchange

/-- Modelled from the spec: `PeerMgr.Peers(n, regions, exclude)` returns up to `n`
distinct peers, none in `exclude`, each advertising a region of `regions` (regions are
equal when their codes are). -/
def PeersOk (regionsOf : PeerId → List UInt64) (n : Int) (rgs : List Region)
    (exclude ps : List PeerId) : Prop :=
  (ps.length : Int) ≤ n ∧ ps.Nodup ∧ ∀ p ∈ ps, p ∉ exclude ∧ ∃ g ∈ rgs, g.code ∈ regionsOf p

instance (regionsOf : PeerId → List UInt64) (n : Int) (rgs : List Region)
    (exclude ps : List PeerId) : Decidable (PeersOk regionsOf n rgs exclude ps) :=
  inferInstanceAs (Decidable (_ ∧ _))

/-- The callback `Dispatch` subscribes: the record it sends into `resChan` for a
channel, if any. -/
def dispatchRecord (req : Request) (st : ChannelState) : Option PRecord :=
  if st.status = .completed then
    if st.baseCID ≠ req.payloadCID then none else some ⟨st.recipient, st.baseCID⟩
  else none

/-- How opening a request stream to a peer and writing the request to it ended. -/
inductive StreamOutcome where
  | openFailed
  | writeFailed
  | written
  deriving DecidableEq, Repr

/-- `Replication.sendAllRequests`: the peers whose stream took the request. -/
def sendAllRequests (peers : List PeerId) (outcome : PeerId → StreamOutcome) : List PeerId :=
  peers.filter (outcome · = .written)

/-- Where the dispatch goroutine is. -/
inductive Phase where
  /-- At the head of the `requests` loop. -/
  | loop
  /-- In the inner `select`, its timer running. -/
  | select
  /-- Between `r := <-resChan` and `out <- r`. -/
  | forward (r : PRecord)
  /-- Returned; the deferred `unsub()` and `close(out)` have not run. -/
  | exiting
  /-- `out` is closed. -/
  | closed
  deriving DecidableEq, Repr

/-- Where the subscriber is. -/
inductive Sub where
  | idle
  /-- Blocked on `resChan <- r`. -/
  | sending (r : PRecord)
  | gone
  deriving DecidableEq, Repr

/-- The record the goroutine holds. -/
def Phase.held : Phase → List PRecord
  | .forward r => [r]
  | _ => []

/-- The record the subscriber holds. -/
def Sub.held : Sub → List PRecord
  | .sending r => [r]
  | _ => []

@[simp] theorem Phase.held_forward (r : PRecord) : (Phase.forward r).held = [r] := rfl
@[simp] theorem Phase.held_loop : Phase.loop.held = [] := rfl
@[simp] theorem Phase.held_select : Phase.select.held = [] := rfl
@[simp] theorem Phase.held_exiting : Phase.exiting.held = [] := rfl
@[simp] theorem Phase.held_closed : Phase.closed.held = [] := rfl
@[simp] theorem Sub.held_sending (r : PRecord) : (Sub.sending r).held = [r] := rfl
@[simp] theorem Sub.held_idle : Sub.idle.held = [] := rfl
@[simp] theorem Sub.held_gone : Sub.gone.held = [] := rfl

/-- What one `Dispatch` call fixes: the request, the options, `r.rgs`, and the regions each
peer advertised to the `PeerMgr`. -/
structure Call where
  req : Request
  opt : DispatchOptions
  rgs : List Region
  regionsOf : PeerId → List UInt64

/-- The shared `pulls` map, the two channels, the goroutine's locals, and the ghost logs. -/
structure DispatchSt where
  pulls : Pulls
  resChan : List PRecord
  out : List PRecord
  phase : Phase
  sub : Sub
  rcv : List PeerId
  n : Nat
  attempt : Nat
  events : List ChannelState
  read : List PRecord
  sent : List PeerId

/-- `Dispatch` has just returned `out`. -/
def DispatchSt.init (pulls : Pulls) : DispatchSt :=
  ⟨pulls, [], [], .loop, .idle, [], 0, 0, [], [], []⟩

/-- The records of the events handed to the subscriber that it sends on, in order. -/
def DispatchSt.matched (req : Request) (s : DispatchSt) : List PRecord :=
  s.events.filterMap (dispatchRecord req)

/-- The records the goroutine has taken from `resChan`. -/
def DispatchSt.taken (s : DispatchSt) : Nat := s.n + s.phase.held.length

/-- One atomic action of a party of `Dispatch`. -/
inductive Step (c : Call) : DispatchSt → DispatchSt → Prop where
  /-- `int(b.Attempt()) > opt.BackoffAttemps`: return. -/
  | giveUp {s : DispatchSt} (hp : s.phase = .loop) (ha : c.opt.backoffAttemps < s.attempt) :
      Step c s { s with phase := .exiting }
  /-- A round: `PeerMgr.Peers`, `AuthorizePull` and `rcv[p] = true` per provider,
  `sendAllRequests`, and a timer whose `b.Duration()` advances the attempt. -/
  | round {s : DispatchSt} (ps : List PeerId) (outcome : PeerId → StreamOutcome)
      (hp : s.phase = .loop) (ha : s.attempt ≤ c.opt.backoffAttemps)
      (hps : PeersOk c.regionsOf (c.opt.rf - s.n) c.rgs s.rcv ps) :
      Step c s { s with
        phase := .select, attempt := s.attempt + 1, rcv := s.rcv ++ ps,
        pulls := authorizeAll s.pulls (ps.map (c.req.payloadCID, ·)),
        sent := s.sent ++ sendAllRequests ps outcome }
  /-- `case <-timer.C: continue requests`. -/
  | fire {s : DispatchSt} (hp : s.phase = .select) : Step c s { s with phase := .loop }
  /-- `case r := <-resChan`. -/
  | recv {s : DispatchSt} {r : PRecord} {rest : List PRecord} (hp : s.phase = .select)
      (hr : s.resChan = r :: rest) :
      Step c s { s with phase := .forward r, resChan := rest }
  /-- `out <- r; n++; if n == opt.RF { return }`. -/
  | forward {s : DispatchSt} {r : PRecord} (hp : s.phase = .forward r)
      (hroom : s.out.length < c.opt.rf) :
      Step c s { s with
        out := s.out ++ [r], n := s.n + 1,
        phase := if s.n + 1 = c.opt.rf then .exiting else .select }
  /-- An event the subscriber ignores. -/
  | ignore {s : DispatchSt} (st : ChannelState) (hs : s.sub = .idle)
      (hr : dispatchRecord c.req st = none) :
      Step c s { s with events := s.events ++ [st] }
  /-- An event whose record finds a slot in `resChan`. -/
  | enqueue {s : DispatchSt} (st : ChannelState) {r : PRecord} (hs : s.sub = .idle)
      (hr : dispatchRecord c.req st = some r) (hroom : s.resChan.length < c.opt.rf) :
      Step c s { s with events := s.events ++ [st], resChan := s.resChan ++ [r] }
  /-- An event whose record finds `resChan` full: the subscriber blocks. -/
  | block {s : DispatchSt} (st : ChannelState) {r : PRecord} (hs : s.sub = .idle)
      (hr : dispatchRecord c.req st = some r) (hfull : c.opt.rf ≤ s.resChan.length) :
      Step c s { s with events := s.events ++ [st], sub := .sending r }
  /-- The blocked send completes once a slot is free. -/
  | unblock {s : DispatchSt} {r : PRecord} (hs : s.sub = .sending r)
      (hroom : s.resChan.length < c.opt.rf) :
      Step c s { s with sub := .idle, resChan := s.resChan ++ [r] }
  /-- The deferred `unsub()` and `close(out)`. -/
  | unsub {s : DispatchSt} (hp : s.phase = .exiting) (hs : s.sub.held = []) :
      Step c s { s with phase := .closed, sub := .gone }
  /-- The caller reads `out`. -/
  | take {s : DispatchSt} {r : PRecord} {rest : List PRecord} (hout : s.out = r :: rest) :
      Step c s { s with out := rest, read := s.read ++ [r] }
  /-- Another `Dispatch` authorizes one of its providers. -/
  | authorizeOther {s : DispatchSt} (k : Cid) (p : PeerId) :
      Step c s { s with pulls := authorizePull s.pulls k p }

/-- The states a `Dispatch` call reaches, from any `pulls` map earlier calls left. -/
inductive Reachable (c : Call) (pulls : Pulls) : DispatchSt → Prop where
  | init : Reachable c pulls (.init pulls)
  | step {s s' : DispatchSt} : Reachable c pulls s → Step c s s' → Reachable c pulls s'

/-! ### The invariant -/

/-- What holds in every reachable state. -/
structure Inv (c : Call) (s : DispatchSt) : Prop where
  /-- Records are neither lost nor duplicated nor reordered on their way to the caller. -/
  conserve : s.read ++ s.out ++ s.phase.held ++ s.resChan ++ s.sub.held = s.matched c.req
  /-- `n` counts the records forwarded to `out`. -/
  count : s.n = s.read.length + s.out.length
  /-- A blocked subscriber has seen more than `RF` matching events. -/
  blocked_many : s.sub.held ≠ [] → c.opt.rf < (s.matched c.req).length
  sent_rcv : ∀ p ∈ s.sent, p ∈ s.rcv
  rcv_authorized : ∀ p ∈ s.rcv, Authorized s.pulls c.req.payloadCID p
  rcv_region : ∀ p ∈ s.rcv, ∃ g ∈ c.rgs, g.code ∈ c.regionsOf p

variable {c : Call} {pulls : Pulls} {s s' : DispatchSt}

theorem dispatchRecord_eq_some {req : Request} {st : ChannelState} {r : PRecord} :
    dispatchRecord req st = some r ↔
      st.status = .completed ∧ st.baseCID = req.payloadCID ∧ r = ⟨st.recipient, st.baseCID⟩ := by
  unfold dispatchRecord
  split_ifs <;> simp_all [eq_comm]

/-- The records of the events handed to the subscriber: one `{Recipient, BaseCID}` per
`Completed` event with base CID the root, in order. -/
theorem filterMap_dispatchRecord (req : Request) (evs : List ChannelState) :
    evs.filterMap (dispatchRecord req) =
      (evs.filter fun st => st.status = .completed ∧ st.baseCID = req.payloadCID).map
        fun st => ⟨st.recipient, st.baseCID⟩ := by
  induction evs with
  | nil => rfl
  | cons st evs ih =>
    by_cases h₁ : st.status = .completed <;> by_cases h₂ : st.baseCID = req.payloadCID <;>
      simp [List.filter_cons, dispatchRecord, h₁, h₂, ih]

theorem dispatchRecord_payloadCID {st : ChannelState} {r : PRecord}
    (h : dispatchRecord c.req st = some r) : r.payloadCID = c.req.payloadCID := by
  obtain ⟨-, h1, rfl⟩ := dispatchRecord_eq_some.mp h
  exact h1

@[simp] theorem Phase.held_exit_or_select (b : Prop) [Decidable b] :
    (if b then Phase.exiting else Phase.select).held = [] := by
  split <;> rfl

/-- The flow of records: what a step does to the channels and the two logs. -/
theorem conserve_step
    (hc : s.read ++ s.out ++ s.phase.held ++ s.resChan ++ s.sub.held = s.matched c.req)
    (h : Step c s s') :
    s'.read ++ s'.out ++ s'.phase.held ++ s'.resChan ++ s'.sub.held = s'.matched c.req := by
  simp only [DispatchSt.matched] at hc ⊢
  cases h with
  | giveUp hp _ | round _ _ hp _ _ | fire hp => simpa [hp] using hc
  | recv hp hr => simpa [hp, hr] using hc
  | forward hp _ => simpa [hp] using hc
  | ignore st hs hr | enqueue st hs hr _ | block st hs hr _ =>
      simp [hs, hr, List.filterMap_append, ← hc]
  | unblock hs _ => simpa [hs] using hc
  | unsub hp hs => simpa [hp, hs] using hc
  | take hout => simpa [hout] using hc
  | authorizeOther => exact hc

theorem count_step (hn : s.n = s.read.length + s.out.length) (h : Step c s s') :
    s'.n = s'.read.length + s'.out.length := by
  cases h with
  | forward => simp only [List.length_append, List.length_singleton]; omega
  | take hout => simp [hout] at hn ⊢; omega
  | _ => exact hn

theorem blocked_many_step (hi : Inv c s) (h : Step c s s') :
    s'.sub.held ≠ [] → c.opt.rf < (s'.matched c.req).length := by
  have hlen := congrArg List.length hi.conserve
  simp only [List.length_append] at hlen
  cases h with
  | block st hs hr hfull =>
      intro _
      simp only [DispatchSt.matched, List.filterMap_append, List.length_append] at hlen ⊢
      simp [hr]
      omega
  | ignore st hs hr | enqueue st hs hr _ => simp [hs]
  | unblock hs _ | unsub _ hs => simp
  | _ => exact hi.blocked_many

theorem peers_step (hi : Inv c s) (h : Step c s s') :
    (∀ p ∈ s'.sent, p ∈ s'.rcv) ∧
    (∀ p ∈ s'.rcv, Authorized s'.pulls c.req.payloadCID p) ∧
    (∀ p ∈ s'.rcv, ∃ g ∈ c.rgs, g.code ∈ c.regionsOf p) := by
  cases h with
  | round ps outcome _ _ hps =>
      refine ⟨fun p hp => ?_, fun p hp => ?_, fun p hp => ?_⟩
      · rcases List.mem_append.mp hp with hp | hp
        · exact List.mem_append_left _ (hi.sent_rcv p hp)
        · exact List.mem_append_right _ (List.mem_of_mem_filter hp)
      · refine (authorized_authorizeAll _).mpr ?_
        rcases List.mem_append.mp hp with hp | hp
        · exact .inr (hi.rcv_authorized p hp)
        · exact .inl (List.mem_map_of_mem _ hp)
      · rcases List.mem_append.mp hp with hp | hp
        · exact hi.rcv_region p hp
        · exact (hps.2.2 p hp).2
  | authorizeOther k q =>
      exact ⟨hi.sent_rcv, fun p hp => authorized_authorizePull.mpr (.inr (hi.rcv_authorized p hp)),
        hi.rcv_region⟩
  | _ => exact ⟨hi.sent_rcv, hi.rcv_authorized, hi.rcv_region⟩

theorem Inv.init : Inv c (.init pulls) where
  conserve := rfl
  count := rfl
  blocked_many := by simp [DispatchSt.init, Sub.held]
  sent_rcv := by simp [DispatchSt.init]
  rcv_authorized := by simp [DispatchSt.init]
  rcv_region := by simp [DispatchSt.init]

theorem Inv.step (hi : Inv c s) (h : Step c s s') : Inv c s' :=
  have hp := peers_step hi h
  ⟨conserve_step hi.conserve h, count_step hi.count h, blocked_many_step hi h, hp.1, hp.2.1,
    hp.2.2⟩

theorem Reachable.inv (h : Reachable c pulls s) : Inv c s := by
  induction h with
  | init => exact .init
  | step _ hs ih => exact ih.step hs

/-! ### What the caller reads -/

theorem read_prefix (hi : Inv c s) : s.read <+: s.matched c.req :=
  ⟨s.out ++ s.phase.held ++ s.resChan ++ s.sub.held, by simpa [List.append_assoc] using hi.conserve⟩

theorem mem_matched {r : PRecord} (h : r ∈ s.matched c.req) : r.payloadCID = c.req.payloadCID := by
  obtain ⟨st, -, hst⟩ := List.mem_filterMap.mp h
  exact dispatchRecord_payloadCID hst

/-- **What the caller reads.**  With `RF ≥ 1`, every record read from `out` names the root,
and the records read are, in order, a prefix of the records `{Recipient, BaseCID}` of the
`Completed` events with that base CID handed to the subscriber, one per event, whoever the
recipient.  When those events come from distinct peers this call sent the request to, the
providers read are distinct, in `rcv` (so returned by `PeerMgr.Peers`), authorized for the
root, and advertise one of the node's regions. -/
theorem dispatch_records (_ : 1 ≤ c.opt.rf) (hs : Reachable c pulls s) :
    s.matched c.req = (s.events.filter fun st =>
      st.status = .completed ∧ st.baseCID = c.req.payloadCID).map
        (fun st => ⟨st.recipient, st.baseCID⟩) ∧
    (∀ r ∈ s.read, r.payloadCID = c.req.payloadCID) ∧ s.read <+: s.matched c.req ∧
    (((s.matched c.req).map PRecord.provider).Nodup →
      (∀ r ∈ s.matched c.req, r.provider ∈ s.sent) →
      (s.read.map PRecord.provider).Nodup ∧
      ∀ r ∈ s.read, r.provider ∈ s.sent ∧ r.provider ∈ s.rcv ∧
        Authorized s.pulls c.req.payloadCID r.provider ∧
        ∃ g ∈ c.rgs, g.code ∈ c.regionsOf r.provider) := by
  have hi := hs.inv
  have hpre := read_prefix hi
  refine ⟨filterMap_dispatchRecord _ _, fun r hr => mem_matched (hpre.mem hr), hpre,
    fun hnd hsent => ⟨?_, fun r hr => ?_⟩⟩
  · exact hnd.sublist (hpre.map PRecord.provider).sublist
  · have hp := hsent r (hpre.mem hr)
    have hrcv := hi.sent_rcv _ hp
    exact ⟨hp, hrcv, hi.rcv_authorized _ hrcv, hi.rcv_region _ hrcv⟩

/-- One honest round with `RF = 1`: peer `1` receives the request and pulls, and the caller
reads one record, for a peer that was sent the request and is authorized. -/
theorem dispatch_records_honest :
    ∃ s, Reachable ⟨⟨⟨1⟩, 0⟩, ⟨4, 1⟩, [⟨"Global", 0⟩], fun _ => [0]⟩ .empty s ∧
      s.read = [⟨⟨1⟩, ⟨1⟩⟩] ∧ ∀ r ∈ s.read, r.provider ∈ s.sent ∧
        Authorized s.pulls ⟨1⟩ r.provider := by
  let c : Call := ⟨⟨⟨1⟩, 0⟩, ⟨4, 1⟩, [⟨"Global", 0⟩], fun _ => [0]⟩
  let r : PRecord := ⟨⟨1⟩, ⟨1⟩⟩
  have h1 : Reachable c .empty _ :=
    .step .init (Step.round [⟨1⟩] (fun _ => .written) rfl (by decide) (by decide))
  have h2 := h1.step (@Step.enqueue c _ ⟨.completed, ⟨1⟩, ⟨1⟩⟩ r rfl rfl (by decide))
  have h3 := h2.step (@Step.recv c _ r [] rfl rfl)
  have h4 := h3.step (@Step.forward c _ r rfl (by decide))
  have h5 := h4.step (@Step.take c _ r [] rfl)
  have hrec := ((dispatch_records (by decide) h5).2.2.2 (by decide) (by decide)).2
  exact ⟨_, h5, rfl, fun r hr => ⟨(hrec r hr).1, (hrec r hr).2.2.1⟩⟩

/-- A `Dispatch` with `RF = 2` whose caller reads the same provider twice, a peer it never
asked: two `Completed` events of a retrieval of the root by peer `9`. -/
theorem dispatch_reads_unrequested_provider :
    ∃ s, Reachable ⟨⟨⟨1⟩, 0⟩, ⟨4, 2⟩, [⟨"Global", 0⟩], fun _ => [0]⟩ .empty s ∧
      ¬ (s.read.map PRecord.provider).Nodup ∧ ∃ r ∈ s.read, r.provider ∉ s.rcv := by
  let c : Call := ⟨⟨⟨1⟩, 0⟩, ⟨4, 2⟩, [⟨"Global", 0⟩], fun _ => [0]⟩
  let ev : ChannelState := ⟨.completed, ⟨1⟩, ⟨9⟩⟩
  let r : PRecord := ⟨⟨9⟩, ⟨1⟩⟩
  have h1 : Reachable c .empty _ := .step .init (@Step.enqueue c _ ev r rfl rfl (by decide))
  have h2 := h1.step (@Step.enqueue c _ ev r rfl rfl (by decide))
  have h3 := h2.step (Step.round [] (fun _ => .written) rfl (by decide) (by decide))
  have h4 := h3.step (@Step.recv c _ r [r] rfl rfl)
  have h5 := h4.step (@Step.forward c _ r rfl (by decide))
  have h6 := h5.step (@Step.recv c _ r [] rfl rfl)
  have h7 := h6.step (@Step.forward c _ r rfl (by decide))
  have h8 := h7.step (@Step.take c _ r [r] rfl)
  have h9 := h8.step (@Step.take c _ r [] rfl)
  exact ⟨_, h9, by decide, r, by decide, by decide⟩

/-! ### The subscriber's send -/

/-- A step to the state an enqueue of `r` for `st` leads to is that enqueue, which needs a
free slot. -/
theorem Step.enqueue_room {st : ChannelState} {r : PRecord}
    (h : Step c s { s with events := s.events ++ [st], resChan := s.resChan ++ [r] }) :
    s.resChan.length < c.opt.rf := by
  generalize ht : { s with events := s.events ++ [st], resChan := s.resChan ++ [r] } = t at h
  cases h with
  | enqueue _ _ _ hroom => exact hroom
  | ignore | block => simpa using congrArg (fun t => t.resChan.length) ht
  | _ => simpa using congrArg (fun t => t.events.length) ht

/-- **When the subscriber's send blocks.**  With `RF ≥ 1`, an idle subscriber handed a
matching event can send its record into `resChan` without blocking (`Step.enqueue`) exactly
when fewer than `RF` of the matching records delivered before it are still waiting for the
dispatch goroutine; so no send has blocked while at most `RF` matching events have been
delivered. -/
theorem dispatch_send_blocks (_ : 1 ≤ c.opt.rf) (hs : Reachable c pulls s) :
    (∀ st r, s.sub = .idle → dispatchRecord c.req st = some r →
      (Step c s { s with events := s.events ++ [st], resChan := s.resChan ++ [r] } ↔
        (s.matched c.req).length < c.opt.rf + s.taken)) ∧
    ((s.matched c.req).length ≤ c.opt.rf → ∀ r, s.sub ≠ .sending r) := by
  have hi := hs.inv
  have hlen := congrArg List.length hi.conserve
  simp only [List.length_append] at hlen
  have hn := hi.count
  refine ⟨fun st r hidle hr => ?_, fun hle r hr => ?_⟩
  · have hroom : s.resChan.length < c.opt.rf ↔ (s.matched c.req).length < c.opt.rf + s.taken := by
      simp only [hidle, Sub.held_idle, List.length_nil, DispatchSt.taken] at hlen ⊢
      omega
    exact ⟨fun h => hroom.mp h.enqueue_room, fun h => .enqueue st hidle hr (hroom.mpr h)⟩
  · have := hi.blocked_many (by simp [hr])
    omega

/-- With `RF = 2`, one completion has been delivered and not yet taken: the record of the
next matching event, from peer `2`, goes into `resChan` without blocking. -/
theorem dispatch_send_slot :
    ∃ s, Reachable ⟨⟨⟨1⟩, 0⟩, ⟨4, 2⟩, [⟨"Global", 0⟩], fun _ => [0]⟩ .empty s ∧
      s.resChan.length = 1 ∧ s.taken = 0 ∧
      Step ⟨⟨⟨1⟩, 0⟩, ⟨4, 2⟩, [⟨"Global", 0⟩], fun _ => [0]⟩ s
        { s with events := s.events ++ [⟨.completed, ⟨1⟩, ⟨2⟩⟩],
                 resChan := s.resChan ++ [⟨⟨2⟩, ⟨1⟩⟩] } := by
  let c : Call := ⟨⟨⟨1⟩, 0⟩, ⟨4, 2⟩, [⟨"Global", 0⟩], fun _ => [0]⟩
  have h1 : Reachable c .empty _ :=
    .step .init (@Step.enqueue c _ ⟨.completed, ⟨1⟩, ⟨1⟩⟩ ⟨⟨1⟩, ⟨1⟩⟩ rfl rfl (by decide))
  exact ⟨_, h1, rfl, rfl, ((dispatch_send_blocks (by decide) h1).1 ⟨.completed, ⟨1⟩, ⟨2⟩⟩
    ⟨⟨2⟩, ⟨1⟩⟩ rfl rfl).mpr (by decide)⟩

/-- A `Dispatch` with `RF = 1` whose subscriber blocks with every event honest: the first
round asks peer `1`, the timer fires before it pulls, the second round asks peer `2`, and
both pulls complete. -/
theorem dispatch_subscriber_blocks :
    ∃ s, Reachable ⟨⟨⟨1⟩, 0⟩, ⟨4, 1⟩, [⟨"Global", 0⟩], fun _ => [0]⟩ .empty s ∧
      (∃ r, s.sub = .sending r) ∧
      ((s.matched ⟨⟨1⟩, 0⟩).map PRecord.provider).Nodup ∧
      ∀ r ∈ s.matched ⟨⟨1⟩, 0⟩, r.provider ∈ s.sent := by
  let c : Call := ⟨⟨⟨1⟩, 0⟩, ⟨4, 1⟩, [⟨"Global", 0⟩], fun _ => [0]⟩
  have h1 : Reachable c .empty _ :=
    .step .init (Step.round [⟨1⟩] (fun _ => .written) rfl (by decide) (by decide))
  have h2 := h1.step (Step.fire rfl)
  have h3 := h2.step (Step.round [⟨2⟩] (fun _ => .written) rfl (by decide) (by decide))
  have h4 := h3.step (@Step.enqueue c _ ⟨.completed, ⟨1⟩, ⟨1⟩⟩ ⟨⟨1⟩, ⟨1⟩⟩ rfl rfl (by decide))
  have h5 := h4.step (@Step.block c _ ⟨.completed, ⟨1⟩, ⟨2⟩⟩ ⟨⟨2⟩, ⟨1⟩⟩ rfl rfl (by decide))
  exact ⟨_, h5, ⟨_, rfl⟩, by decide, by decide⟩

/-! ### Authorization of the peers sent to -/

/-- **ValidatePull.**  After any sequence of `AuthorizePull` calls from the empty map,
`ValidatePull` accepts exactly the pairs named by a call, whatever the voucher, and tells
its two refusals apart by whether the root was named; in every state a `Dispatch` reaches,
every peer it sent the request to passes `ValidatePull` for the root, with any voucher. -/
theorem validatePull_after_dispatch :
    (∀ (calls : List (Cid × PeerId)) (receiver : PeerId) (voucher : Voucher) (baseCid : Cid)
      (sel : Selector),
      (validatePull (authorizeAll .empty calls) receiver voucher baseCid sel = .ok () ↔
        (baseCid, receiver) ∈ calls) ∧
      (validatePull (authorizeAll .empty calls) receiver voucher baseCid sel =
        .error "unknown CID" ↔ ∀ p, (baseCid, p) ∉ calls) ∧
      (validatePull (authorizeAll .empty calls) receiver voucher baseCid sel =
        .error "not authorized" ↔ (∃ p, (baseCid, p) ∈ calls) ∧ (baseCid, receiver) ∉ calls)) ∧
    (∀ (c : Call) (pulls : Pulls) (s : DispatchSt), Reachable c pulls s →
      ∀ p ∈ s.sent, ∀ (voucher : Voucher) (sel : Selector),
        validatePull s.pulls p voucher c.req.payloadCID sel = .ok ()) := by
  refine ⟨validatePull_authorizeAll, fun c pulls s hs p hp voucher sel => ?_⟩
  have hi := hs.inv
  exact validatePull_ok.mpr (hi.rcv_authorized p (hi.sent_rcv p hp))

end HopExchange
