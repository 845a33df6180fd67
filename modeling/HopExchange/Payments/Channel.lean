import HopExchange.Basic
import Mathlib

/-!
# Payments — Channel

The record a payment channel keeps in the store (`ChannelInfo`), and how `create`,
`addFunds` and the waiters of their chain messages change it.  `create` pushes a message
and stores a record whose `PendingAmount` is the amount and whose `CreateMsg` is the
message; `addFunds` pushes a message to the channel's address and overwrites
`PendingAmount` and `AddFundsMsg`.  Each pushed message gets a waiter that, whenever its
receipt arrives, moves `PendingAmount` into `Amount` (exit code 0), drops it (a failed
`AddFunds`), removes the channel (a failed `Create`) or leaves the record as it is (an
error from `StateWaitMsg`, or a `Create` return that does not decode).

`ChanStep gated` runs these in any order.  `addFunds` checks nothing but `Channel`; with
`gated` it also waits until no message of the channel is outstanding, the discipline the
funds queue of the spec keeps ("at most one concurrent on-chain funding operation per
channel").  Two ghost lists keep the messages still waited for and the receipts observed.

* `MsgsExclusive.step`: `CreateMsg` and `AddFundsMsg` are never both set, in any order.
* `FundsInv.step`: under the queue's discipline `Amount` is the sum of the values of the
  messages whose waiter took its success path.
* `channel_funds`: both, over every run.
* `channel_amount_lost`: without the discipline, two overlapping `addFunds` lose one amount.
* `loadActorState_fault_iff`: `loadActorState` panics exactly when `StateReadState` fails.
* `laneCounts_cached`: `LaneCount`, through the cache of `getOrLoadLsAmt`, fails with its own
  load's error until a load succeeds, and from then on answers that array's length.
-/

namespace HopExchange

/-- The fields of `ChannelInfo` that `create`, `addFunds` and the waiters read or write. -/
structure ChannelInfo where
  channelID : String
  control : Address
  channel : Option Address
  amount : Int
  pendingAmount : Int
  createMsg : Option Cid
  addFundsMsg : Option Cid
  deriving DecidableEq, Repr

/-- Modelled from the spec: `Store.CreateChannel(from, to, createMsgCid, amount)` assigns a
fresh `channelId`, sets `createMsg`, `pendingAmount := amount` and `amount := 0`. -/
def createChannel (channelID : String) (from_ : Address) (mcid : Cid) (amt : Int) :
    ChannelInfo :=
  ⟨channelID, from_, none, 0, amt, some mcid, none⟩

/-- `channel.mutateChannelInfo`: a record the store does not hold is left alone. -/
def mutateChannelInfo (info : Option ChannelInfo) (mutate : ChannelInfo → ChannelInfo) :
    Option ChannelInfo :=
  info.map mutate

/-- What `StateWaitMsg(mcid, 5)` gave a waiter: an error, or a receipt with an exit code
and, for a `Create`, the robust address its return decodes to. -/
inductive Receipt where
  | waitErr (err : String)
  | exit (code : Int) (ret : Option Address)
  deriving DecidableEq, Repr

/-- `channel.waitPaychCreateMsg`: the record afterwards and the error returned. -/
def waitPaychCreateMsg (info : Option ChannelInfo) : Receipt → Option ChannelInfo × Option String
  | .waitErr err => (info, some err)
  | .exit code ret =>
    if code ≠ 0 then (none, some s!"payment channel creation failed (exit code {code})")
    else match ret with
      | none => (info, some "Error decoding Receipt")
      | some addr =>
        (mutateChannelInfo info fun ci =>
          { ci with channel := some addr, amount := ci.pendingAmount, pendingAmount := 0,
                    createMsg := none }, none)

/-- `channel.waitAddFundsMsg`: the record afterwards and the error returned. -/
def waitAddFundsMsg (info : Option ChannelInfo) : Receipt → Option ChannelInfo × Option String
  | .waitErr err => (info, some err)
  | .exit code _ =>
    if code ≠ 0 then
      (mutateChannelInfo info fun ci => { ci with pendingAmount := 0, addFundsMsg := none },
        some s!"voucher channel creation failed: adding funds (exit code {code})")
    else
      (mutateChannelInfo info fun ci =>
        { ci with amount := ci.amount + ci.pendingAmount, pendingAmount := 0,
                  addFundsMsg := none }, none)

/-- Which call pushed a funding message. -/
inductive MsgKind where
  | create
  | addFunds
  deriving DecidableEq, Repr

/-- A funding message pushed for the channel. -/
structure FundMsg where
  kind : MsgKind
  value : Int
  mcid : Cid
  deriving DecidableEq, Repr

/-- The waiter a message gets. -/
def FundMsg.wait (m : FundMsg) (info : Option ChannelInfo) (r : Receipt) :
    Option ChannelInfo × Option String :=
  match m.kind with
  | .create => waitPaychCreateMsg info r
  | .addFunds => waitAddFundsMsg info r

/-- The waiter observed exit code 0. -/
def Receipt.exitZero : Receipt → Bool
  | .exit code _ => code = 0
  | .waitErr _ => false

/-- The waiter took its success path: exit code 0 and, for a `Create`, a decoded return. -/
def FundMsg.credited (m : FundMsg) (r : Receipt) : Bool :=
  r.exitZero && (m.kind = .addFunds || match r with | .exit _ ret => ret.isSome | _ => false)

/-- The sum of the values of the messages whose receipt satisfies `p`. -/
def sumWhere (p : FundMsg → Receipt → Bool) (done : List (FundMsg × Receipt)) : Int :=
  (done.map fun d => if p d.1 d.2 then d.1.value else 0).sum

/-- The channel's record, the messages still waited for, and the receipts observed. -/
structure PaychSt where
  info : Option ChannelInfo
  waiting : List FundMsg
  done : List (FundMsg × Receipt)

/-- One call or one waiter completing. -/
inductive ChanStep (gated : Bool) : PaychSt → PaychSt → Prop where
  /-- `channel.create(amt)`: push the `Create` message and store the new record. -/
  | create {s : PaychSt} (id : String) (from_ : Address) (amt : Int) (mcid : Cid)
      (h0 : s.info = none) (hw : s.waiting = []) (hd : s.done = []) :
      ChanStep gated s { s with
        info := some (createChannel id from_ mcid amt),
        waiting := [⟨.create, amt, mcid⟩] }
  /-- `channel.addFunds(channelInfo, amt)`: push to the channel's address, then record the
  message and its amount. -/
  | addFunds {s : PaychSt} {ci : ChannelInfo} {addr : Address} (amt : Int) (mcid : Cid)
      (hi : s.info = some ci) (hch : ci.channel = some addr) (hg : gated → s.waiting = []) :
      ChanStep gated s { s with
        info := mutateChannelInfo s.info fun ci =>
          { ci with pendingAmount := amt, addFundsMsg := some mcid },
        waiting := s.waiting ++ [⟨.addFunds, amt, mcid⟩] }
  /-- The waiter of `m` completes with receipt `r`. -/
  | complete {s : PaychSt} {m : FundMsg} (r : Receipt) (hm : m ∈ s.waiting) :
      ChanStep gated s { s with
        info := (m.wait s.info r).1, waiting := s.waiting.erase m, done := s.done ++ [(m, r)] }

/-- The states of one channel, from before its creation. -/
inductive ChanReachable (gated : Bool) : PaychSt → Prop where
  | init : ChanReachable gated ⟨none, [], []⟩
  | step {s s' : PaychSt} : ChanReachable gated s → ChanStep gated s s' → ChanReachable gated s'

variable {gated : Bool} {s s' : PaychSt}

@[simp] theorem sumWhere_nil (p : FundMsg → Receipt → Bool) : sumWhere p [] = 0 := rfl

@[simp] theorem sumWhere_snoc (p : FundMsg → Receipt → Bool) (done : List (FundMsg × Receipt))
    (m : FundMsg) (r : Receipt) :
    sumWhere p (done ++ [(m, r)]) = sumWhere p done + if p m r then m.value else 0 := by
  simp [sumWhere]

/-- What a waiter can do to the record, and whether it credits its message. -/
theorem FundMsg.wait_cases (m : FundMsg) (info : Option ChannelInfo) (r : Receipt) :
    ((m.wait info r).1 = info ∧ m.credited r = false) ∨
    (m.kind = .create ∧ (m.wait info r).1 = none ∧ m.credited r = false) ∨
    (∃ addr, m.kind = .create ∧ m.credited r = true ∧ (m.wait info r).1 = info.map fun ci =>
      { ci with channel := some addr, amount := ci.pendingAmount, pendingAmount := 0,
                createMsg := none }) ∨
    (m.kind = .addFunds ∧ m.credited r = false ∧ (m.wait info r).1 = info.map fun ci =>
      { ci with pendingAmount := 0, addFundsMsg := none }) ∨
    (m.kind = .addFunds ∧ m.credited r = true ∧ (m.wait info r).1 = info.map fun ci =>
      { ci with amount := ci.amount + ci.pendingAmount, pendingAmount := 0,
                addFundsMsg := none }) := by
  obtain ⟨kind, value, mcid⟩ := m
  rcases r with err | ⟨code, ret⟩
  · exact .inl ⟨by cases kind <;> rfl, rfl⟩
  by_cases hc : code = 0
  · subst hc
    cases kind
    · cases ret with
      | none => exact .inl ⟨rfl, rfl⟩
      | some addr => exact .inr (.inr (.inl ⟨addr, rfl, rfl, rfl⟩))
    · exact .inr (.inr (.inr (.inr ⟨rfl, rfl, rfl⟩)))
  · have hz : Receipt.exitZero (.exit code ret) = false := by simp [Receipt.exitZero, hc]
    cases kind
    · exact .inr (.inl ⟨rfl, by simp [FundMsg.wait, waitPaychCreateMsg, hc],
        by simp [FundMsg.credited, hz]⟩)
    · exact .inr (.inr (.inr (.inl ⟨rfl, by simp [FundMsg.credited, hz],
        by simp [FundMsg.wait, waitAddFundsMsg, hc, mutateChannelInfo]⟩)))

/-! ### `CreateMsg` and `AddFundsMsg` -/

/-- A record with a `CreateMsg` has no address yet and no `AddFundsMsg`. -/
def MsgsExclusive (s : PaychSt) : Prop :=
  ∀ ci, s.info = some ci → ci.createMsg.isSome → ci.channel = none ∧ ci.addFundsMsg = none

theorem MsgsExclusive.step (hx : MsgsExclusive s) (h : ChanStep gated s s') :
    MsgsExclusive s' := by
  intro ci' hci' hc
  cases h with
  | create => cases hci'; simp [createChannel]
  | addFunds amt mcid hi hch =>
      simp only [hi, mutateChannelInfo, Option.map_some', Option.some.injEq] at hci'
      subst hci'
      simp [(hx _ hi hc).1] at hch
  | @complete m r hm =>
      rcases m.wait_cases s.info r with ⟨h1, -⟩ | ⟨-, h1, -⟩ | ⟨addr, -, -, h1⟩ | ⟨-, -, h1⟩ |
          ⟨-, -, h1⟩ <;> simp only [h1] at hci'
      · exact hx ci' hci' hc
      · cases hci'
      all_goals
        obtain ⟨ci, hci, rfl⟩ := Option.map_eq_some'.mp hci'
        simp_all [MsgsExclusive]

/-! ### `Amount` under the queue's discipline -/

/-- The accounting of one channel when at most one funding message is outstanding. -/
structure FundsInv (s : PaychSt) : Prop where
  single : s.waiting.length ≤ 1
  amount : ∀ ci, s.info = some ci → ci.amount = sumWhere FundMsg.credited s.done
  pending : ∀ ci, s.info = some ci → ∀ m ∈ s.waiting, ci.pendingAmount = m.value
  gone : s.info = none → sumWhere FundMsg.credited s.done = 0 ∧ s.waiting = []
  createFirst : ∀ m ∈ s.waiting, m.kind = .create → sumWhere FundMsg.credited s.done = 0

theorem FundsInv.step (hf : FundsInv s) (h : ChanStep true s s') : FundsInv s' := by
  cases h with
  | create id from_ amt mcid h0 hw hd =>
      refine ⟨by simp, ?_, ?_, by simp, ?_⟩ <;> simp [hd, createChannel]
  | @addFunds ci addr amt mcid hi hch hg =>
      have hw := hg rfl
      refine ⟨by simp [hw], ?_, ?_, by simp [hi, mutateChannelInfo], by simp [hw]⟩ <;>
        intro ci' hci' <;> simp only [hi, mutateChannelInfo, Option.map_some',
          Option.some.injEq] at hci' <;> subst hci'
      · exact hf.amount ci hi
      · simp [hw]
  | @complete m r hm =>
      have hw : s.waiting = [m] := by
        have hs := hf.single
        match hws : s.waiting, hm with
        | [_], hm => rw [List.mem_singleton.mp hm]
        | _ :: _ :: _, _ => rw [hws, List.length_cons, List.length_cons] at hs; omega
      obtain ⟨ci, hci⟩ : ∃ ci, s.info = some ci := by
        cases hi : s.info with
        | none => simp [(hf.gone hi).2] at hm
        | some ci => exact ⟨ci, rfl⟩
      have hp := hf.pending ci hci m hm
      have ha := hf.amount ci hci
      refine ⟨by simp [hw], ?_, by simp [hw], ?_, by simp [hw]⟩
      · intro ci' hci'
        rcases m.wait_cases (some ci) r with ⟨h1, hc⟩ | ⟨-, h1, -⟩ | ⟨addr, hk, hc, h1⟩ |
            ⟨-, hc, h1⟩ | ⟨-, hc, h1⟩ <;> simp only [h1, hci, Option.map_some',
              Option.some.injEq, reduceCtorEq] at hci' <;> subst hci' <;> simp only [hc,
              sumWhere_snoc, if_true, if_false] at ha ⊢
        · simp [ha]
        · simp [hf.createFirst m hm hk, hp]
        · simp [ha]
        · simp [ha, hp]
      · intro hnone
        rcases m.wait_cases (some ci) r with ⟨h1, -⟩ | ⟨hk, h1, hc⟩ | ⟨addr, -, -, h1⟩ |
            ⟨-, -, h1⟩ | ⟨-, -, h1⟩ <;> simp only [h1, hci, Option.map_some',
              reduceCtorEq] at hnone
        simp [hc, hf.createFirst m hm hk, hw]

theorem FundsInv.init : FundsInv ⟨none, [], []⟩ :=
  ⟨by simp, by simp, by simp, by simp, by simp⟩

theorem ChanReachable.msgsExclusive (hs : ChanReachable gated s) : MsgsExclusive s := by
  induction hs with
  | init => intro ci h; cases h
  | step _ h ih => exact ih.step h

theorem ChanReachable.fundsInv (hs : ChanReachable true s) : FundsInv s := by
  induction hs with
  | init => exact .init
  | step _ h ih => exact ih.step h

/-- **The funding of one channel.**  In any order of `create`, `addFunds` and receipts,
`CreateMsg` and `AddFundsMsg` are never both set.  When `addFunds` waits until no
funding message of the channel is outstanding, `Amount` is the sum of the values of the
messages whose waiter observed exit code 0 and, for the `Create` message, decoded the
channel's address. -/
theorem channel_funds :
    (∀ s, ChanReachable false s → ∀ ci, s.info = some ci →
      ¬ (ci.createMsg.isSome ∧ ci.addFundsMsg.isSome)) ∧
    (∀ s, ChanReachable true s → ∀ ci, s.info = some ci →
      ci.amount = sumWhere FundMsg.credited s.done) := by
  refine ⟨fun s hs ci hci ⟨hc, ha⟩ => ?_, fun s hs => hs.fundsInv.amount⟩
  simp [(hs.msgsExclusive ci hci hc).2] at ha

/-- Two `addFunds` overlapping on a funded channel: the second overwrites
`PendingAmount` before the first is confirmed, so after both receipts (exit code 0)
`Amount` is 17 where the messages carried 10, 5 and 7. -/
theorem channel_amount_lost :
    ∃ s, ChanReachable false s ∧ ∃ ci, s.info = some ci ∧
      ci.amount ≠ sumWhere (fun _ r => r.exitZero) s.done := by
  let m₀ : FundMsg := ⟨.create, 10, ⟨100⟩⟩
  let m₁ : FundMsg := ⟨.addFunds, 5, ⟨101⟩⟩
  let m₂ : FundMsg := ⟨.addFunds, 7, ⟨102⟩⟩
  have h1 : ChanReachable false _ := .step .init (.create "ch" ⟨1⟩ 10 ⟨100⟩ rfl rfl rfl)
  have h2 := h1.step (@ChanStep.complete false _ m₀ (.exit 0 (some ⟨5⟩)) (by simp))
  have h3 := h2.step (@ChanStep.addFunds false _ _ ⟨5⟩ 5 ⟨101⟩ rfl rfl nofun)
  have h4 := h3.step (@ChanStep.addFunds false _ _ ⟨5⟩ 7 ⟨102⟩ rfl rfl nofun)
  have h5 := h4.step (@ChanStep.complete false _ m₁ (.exit 0 none) (by simp))
  have h6 := h5.step (@ChanStep.complete false _ m₂ (.exit 0 none) (by decide))
  exact ⟨_, h6, _, rfl, by decide⟩

/-! ### Loading the actor state -/

/-- The outcome of every external call of `loadActorState`. -/
structure ActorStateOutcome where
  /-- `StateReadState`: the actor, or a nil `*ActorState` with an error. -/
  readState : Except String Unit
  unmarshal : Except String Unit
  readObj : Except String Unit
  newBlock : Except String Unit
  put : Except String Unit

/-- `channel.loadActorState`: the error it returns or the state (`.ok ()`), or a panic.  The
error of `StateReadState` is overwritten unread before `actorState.State`. -/
def loadActorState (o : ActorStateOutcome) : Except Fault (Except String Unit) :=
  match o.readState with
  | .error _ => .error .nilDereference
  | .ok () =>
    match o.unmarshal, o.readObj, o.newBlock, o.put with
    | .error e, _, _, _ => .ok (.error ("Error parsing actor state: " ++ e))
    | .ok (), .error e, _, _ => .ok (.error ("Unable to read lane states from chain: " ++ e))
    | .ok (), .ok (), .error e, _ => .ok (.error ("Unable to make a block with obj: " ++ e))
    | .ok (), .ok (), .ok (), .error e => .ok (.error ("Unable to set block in store: " ++ e))
    | .ok (), .ok (), .ok (), .ok () => .ok (.ok ())

/-- **Where `loadActorState` panics.**  Exactly when `StateReadState` fails. -/
theorem loadActorState_fault_iff {o : ActorStateOutcome} :
    (∃ f, loadActorState o = .error f) ↔ ∃ e, o.readState = .error e := by
  rcases o with ⟨e | _, _, _, _, _⟩
  · exact ⟨fun _ => ⟨e, rfl⟩, fun _ => ⟨_, rfl⟩⟩
  · refine ⟨fun ⟨f, hf⟩ => ?_, fun ⟨_, he⟩ => nomatch he⟩
    simp only [loadActorState] at hf
    split at hf <;> cases hf

/-! ### The lane states -/

/-- The `adt.Array` of lane states `adt.AsArray` loads from `LaneStates`; `LaneCount` reads
its `Length()`. -/
structure LaneArray where
  length : UInt64
  deriving DecidableEq, Repr

/-- `channelState.getOrLoadLsAmt`: the cached array `lsAmt`, else what `adt.AsArray` loads
(`load`), cached when it loads. -/
def getOrLoadLsAmt (lsAmt : Option LaneArray) (load : Except String LaneArray) :
    Except String LaneArray × Option LaneArray :=
  match lsAmt, load with
  | some a, _ => (.ok a, some a)
  | none, .error e => (.error e, none)
  | none, .ok a => (.ok a, some a)

/-- `LaneCount` called again and again on one `channelState`, each call with what `AsArray`
would load then: what the calls return. -/
def laneCounts (lsAmt : Option LaneArray) : List (Except String LaneArray) → List (Except String UInt64)
  | [] => []
  | load :: loads =>
    ((getOrLoadLsAmt lsAmt load).1.map LaneArray.length) :: laneCounts (getOrLoadLsAmt lsAmt load).2 loads

theorem laneCounts_some (a : LaneArray) (loads : List (Except String LaneArray)) :
    laneCounts (some a) loads = loads.map fun _ => .ok a.length := by
  induction loads with
  | nil => rfl
  | cons _ _ ih => simp [laneCounts, getOrLoadLsAmt, ih, Except.map]

/-- **The lane-state cache.**  On a `channelState` just decoded, with every load that succeeds
giving the one array `a` at the state's `LaneStates` root: the calls before the first load
that succeeds fail, each with its own load's error; from that call on, every call answers the
length of `a`, its own load failing or not.  So the cache answers as a fresh load would
wherever that load succeeds, and more often. -/
theorem laneCounts_cached (a : LaneArray) (loads : List (Except String LaneArray))
    (hsame : ∀ b, .ok b ∈ loads → b = a) :
    ∃ (es : List String) (rest : List (Except String LaneArray)),
      loads = es.map .error ++ rest ∧ (rest = [] ∨ ∃ rest', rest = .ok a :: rest') ∧
      laneCounts none loads = es.map .error ++ rest.map fun _ => .ok a.length := by
  induction loads with
  | nil => exact ⟨[], [], rfl, .inl rfl, rfl⟩
  | cons load loads ih =>
    rcases load with e | b
    · obtain ⟨es, rest, h₁, h₂, h₃⟩ := ih fun b hb => hsame b (.tail _ hb)
      exact ⟨e :: es, rest, by simp [h₁], h₂, by simp [laneCounts, getOrLoadLsAmt, h₃, Except.map]⟩
    · obtain rfl := hsame b (.head _)
      exact ⟨[], .ok b :: loads, rfl, .inr ⟨loads, rfl⟩,
        by simp [laneCounts, getOrLoadLsAmt, laneCounts_some, Except.map]⟩

/-- A load that fails, one that loads, one that fails: the third call answers from the cache. -/
theorem laneCounts_after_failure :
    ∃ (es : List String) (rest : List (Except String LaneArray)),
      [.error "blockstore: block not found", .ok ⟨3⟩, .error "blockstore: block not found"] =
        es.map .error ++ rest ∧ (rest = [] ∨ ∃ rest', rest = .ok ⟨3⟩ :: rest') ∧
      laneCounts none
        [.error "blockstore: block not found", .ok ⟨3⟩, .error "blockstore: block not found"] =
        es.map .error ++ rest.map fun _ => .ok (3 : UInt64) :=
  laneCounts_cached ⟨3⟩ _ (by simp)

end HopExchange
