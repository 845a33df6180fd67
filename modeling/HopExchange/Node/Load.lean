import HopExchange.Basic

/-!
# Node — Load

`node.Load` parses the path of a `GetArgs` and starts a goroutine that finds an offer (a
cached one, or by query and triage, with a miner of the arguments queried on top), waits
for the transfer, registers the ref and, when the transfer used a payment channel, reads
the channel's available funds.  The goroutine sends on the unbuffered channel it returns:
a progress value waits for the consumer, while `sendErr` drops its error unless the
consumer is waiting.  `node.filMinerInfo` and `node.ping` are the other calls of the node
that read what an external call returned.

Every external call is an input here: its outcome is a field of `LoadOutcome`.  The
goroutine is the list of values it sends, then how it stops.

* `loadStrategy`: the strategy `Load` installs, and whether it reported an unknown one.
* `load_fault`: every panic of `Load` is a nil dereference, of the miner info when a miner is
  given and `filMinerInfo` fails, or of the funds when `ChannelAvailableFunds` fails.
* `ping_fault_iff`: `ping` panics exactly when the pong arrives and the peerstore holds no
  string under `"AgentVersion"`.
-/

namespace HopExchange

/-- `GetArgs`, the fields `Get` and `Load` read; `Cid` is a path. -/
structure GetArgs where
  cid : String
  key : String
  out : String
  maxPPB : Int
  strategy : String
  miner : String
  verbose : Bool
  deriving DecidableEq, Repr

/-- The offer selection strategies of package `exchange`, with their parameters. -/
inductive Strategy where
  | selectFirst
  /-- `SelectCheapest(n, wait)`: the cheapest of the first `n` offers, or of those received
  within `wait` seconds. -/
  | selectCheapest (n wait : Nat)
  | selectFirstLowerThan (maxPPB : Int)
  deriving DecidableEq, Repr

/-- The strategy `Load` installs, and whether it sent the error "unknown strategy". -/
def loadStrategy (args : GetArgs) : Strategy × Bool :=
  let chosen : Strategy × Bool :=
    if args.strategy = "" then (.selectFirst, false)
    else match args.strategy with
      | "SelectFirst" => (.selectFirst, false)
      | "SelectCheapest" => (.selectCheapest 5 4, false)
      | "SelectFirstLowerThan" => (.selectFirstLowerThan args.maxPPB, false)
      | _ => (.selectFirst, true)
  if args.strategy = "" ∧ args.maxPPB > 0 then (.selectFirstLowerThan args.maxPPB, chosen.2)
  else chosen

/-- The fields of `StateMinerInfo`'s answer that `filMinerInfo` reads. -/
structure MinerInfo where
  peerId : Option PeerId
  /-- The multiaddresses, each as `NewMultiaddrBytes` decodes it: its error, or a
  multiaddress. -/
  multiaddrs : List (Except String Unit)

/-- `node.filMinerInfo`: the miner's peer, or a nil `*AddrInfo` with an error: that of
`StateMinerInfo`, that of the first multiaddress that does not decode, or one of the two
checks after the loop. -/
def filMinerInfo (info : Except String MinerInfo) : Except String PeerId := do
  let m ← info
  m.multiaddrs.forM id
  match m.peerId with
  | none => .error "no peer id available"
  | some p => if m.multiaddrs.length = 0 then .error "no peer address available" else .ok p

/-- What `Index.SetRef` answers `Load`. -/
inductive SetRefResult where
  | ok
  /-- `ErrRefAlreadyExists`: `Load` calls `UpdateRef` and logs its error. -/
  | alreadyExists
  | error (msg : String)
  deriving DecidableEq, Repr

/-- The outcome of every external call of `Load`'s goroutine. -/
structure LoadOutcome where
  /-- `path.SplitAbsPath`: the root and the segments after it. -/
  split : Except String (Cid × List String)
  /-- `OfferMgr.GetOffer(root)`: none on an error, else the offer's `AddrInfo()`. -/
  cachedOffer : Option (Except String Unit)
  query : Except String Unit
  /-- `address.NewFromString(args.Miner)`. -/
  minerAddr : Except String Address
  /-- `StateMinerInfo` at the parsed miner (`address.Undef` when parsing failed). -/
  minerInfo : Except String MinerInfo
  queryOffer : Except String Unit
  triage : Except String Unit
  /-- A deal started before the context ended. -/
  ongoing : Bool
  /-- `tx.Done()`: none when the context ended first, else the error or whether
  `res.PayCh` is a payment channel. -/
  done : Option (Except String Bool)
  setRef : SetRefResult
  /-- The consumer took `"Completed"` before the context ended. -/
  completedTaken : Bool
  /-- `Payments().ChannelAvailableFunds(res.PayCh)`. -/
  funds : Except String Unit

/-- A value the goroutine sends on `results`. -/
inductive LoadSend where
  /-- `sendErr`: taken only if the consumer is waiting, else dropped. -/
  | err (msg : String)
  /-- `Status: "DealStatusSelectedOffer"`. -/
  | selectedOffer
  /-- The `DealID` of the transfer. -/
  | dealStarted
  /-- `Status: "Completed"`. -/
  | completed
  deriving DecidableEq, Repr

/-- The text of `ctx.Err()`. -/
def contextCanceled : String := "context canceled"

/-- The miner queried on top of gossip: each failure is sent without a return, and a
failed `filMinerInfo` leaves `info` nil for `*info`. -/
def queryMiner (args : GetArgs) (o : LoadOutcome) : List LoadSend × Option Ending :=
  if args.miner = "" then ([], none)
  else
    let addrErr := match o.minerAddr with
      | .error e => [LoadSend.err e]
      | .ok _ => []
    match filMinerInfo o.minerInfo with
    | .error e => (addrErr ++ [.err e], some (.fault .nilDereference))
    | .ok _ => (addrErr, none)

/-- Finding the offer: the values sent, and how the goroutine stops if it stops here. -/
def loadOffer (args : GetArgs) (o : LoadOutcome) : List LoadSend × Option Ending :=
  match o.cachedOffer with
  | none =>
    match o.query with
    | .error e => ([.err e], some .ret)
    | .ok () =>
      match queryMiner args o with
      | (sends, some stop) => (sends, some stop)
      | (sends, none) =>
        match o.triage with
        | .error e => (sends ++ [.err e], some .ret)
        | .ok () => (sends ++ [.selectedOffer], none)
  | some (.error e) => ([.err e], some .ret)
  | some (.ok ()) =>
    match o.queryOffer, o.triage with
    | .error e, _ => ([.err e], some .ret)
    | .ok (), .error e => ([.selectedOffer, .err e], some .ret)
    | .ok (), .ok () => ([.selectedOffer], none)

/-- The transfer and its bookkeeping; with a payment channel whose funds cannot be read,
`funds.ConfirmedAmt` reads through nil. -/
def loadTransfer (o : LoadOutcome) : List LoadSend × Ending :=
  if o.ongoing then
    match o.done with
    | none => ([.dealStarted], .ret)
    | some (.error e) => ([.dealStarted, .err e], .ret)
    | some (.ok payCh) =>
      match o.setRef with
      | .error e => ([.dealStarted, .err e], .ret)
      | _ =>
        if o.completedTaken then
          ([.dealStarted, .completed],
            match payCh, o.funds with
            | true, .error _ => .fault .nilDereference
            | _, _ => .ret)
        else ([.dealStarted, .err contextCanceled], .ret)
  else ([.err contextCanceled], .ret)

/-- The goroutine of `node.Load`: what it sends, then how it stops. -/
def load (args : GetArgs) (o : LoadOutcome) : List LoadSend × Ending :=
  match o.split with
  | .error e => ([.err e], .ret)
  | .ok _ =>
    let unknown := if (loadStrategy args).2 then [LoadSend.err "unknown strategy"] else []
    match loadOffer args o with
    | (sends, some stop) => (unknown ++ sends, stop)
    | (sends, none) => (unknown ++ sends ++ (loadTransfer o).1, (loadTransfer o).2)

/-! ### Where `Load` panics -/

variable {args : GetArgs} {o : LoadOutcome} {f : Fault}

theorem queryMiner_fault {sends : List LoadSend}
    (h : queryMiner args o = (sends, some (.fault f))) :
    f = .nilDereference ∧ args.miner ≠ "" ∧ ∃ e, filMinerInfo o.minerInfo = .error e := by
  unfold queryMiner at h
  split_ifs at h with hm
  · cases h
  · cases hf : filMinerInfo o.minerInfo with
    | error e => simp [hf] at h; exact ⟨h.2.symm, hm, e, rfl⟩
    | ok _ => simp [hf] at h

theorem loadOffer_fault {sends : List LoadSend} (h : loadOffer args o = (sends, some (.fault f))) :
    f = .nilDereference ∧ args.miner ≠ "" ∧ ∃ e, filMinerInfo o.minerInfo = .error e := by
  unfold loadOffer at h
  -- every stop but the miner query's is a return
  repeat' split at h
  all_goals cases h
  exact queryMiner_fault ‹_›

theorem loadTransfer_fault (h : (loadTransfer o).2 = .fault f) :
    f = .nilDereference ∧ ∃ e, o.funds = .error e := by
  unfold loadTransfer at h
  -- every stop but the read of `funds` after a payment channel is a return
  repeat' split at h
  all_goals cases h
  exact ⟨rfl, _, ‹_›⟩

/-- **Where `Load` panics.**  Every panic of `Load`'s goroutine is a nil dereference: of the
miner info, when a miner is given and `filMinerInfo` fails, or of the funds, when
`ChannelAvailableFunds` fails. -/
theorem load_fault (h : (load args o).2 = .fault f) :
    f = .nilDereference ∧
      ((args.miner ≠ "" ∧ ∃ e, filMinerInfo o.minerInfo = .error e) ∨
        ∃ e, o.funds = .error e) := by
  unfold load at h
  cases hs : o.split with
  | error e => simp [hs] at h
  | ok _ =>
    rcases hl : loadOffer args o with ⟨sends, _ | stop⟩
    · simp [hs, hl] at h
      exact (loadTransfer_fault h).imp_right .inr
    · simp [hs, hl] at h
      subst h
      exact (loadOffer_fault hl).imp_right .inl

/-! ### `ping` -/

/-- What the peerstore holds under a key: a string, or a value of another type. -/
inductive PeerValue where
  | str (s : String)
  | other
  deriving DecidableEq, Repr

/-- The version `ping` reports: the last two of three dash-separated parts of the agent. -/
def pingVersion (agent : String) : String :=
  match agent.splitOn "-" with
  | [_, a, b] => a ++ "-" ++ b
  | _ => ""

/-- `node.ping`: the reported version or an error, or a panic.  `pong` is the first of the
pings and the deadline (none: the deadline); `agent` what `Peerstore().Get` found under
`"AgentVersion"` (none: nothing, and the assertion `agent.(string)` sees nil). -/
def ping (pong : Option (Except String Unit)) (agent : Option PeerValue) :
    Except Fault (Except String String) :=
  match pong with
  | none => .ok (.error "context deadline exceeded")
  | some (.error e) => .ok (.error e)
  | some (.ok ()) =>
    match agent with
    | some (.str a) => .ok (.ok (pingVersion a))
    | _ => .error .typeAssertion

/-- **Where `ping` panics.**  Exactly when the pong arrives and the peerstore holds no
string under `"AgentVersion"`. -/
theorem ping_fault_iff {pong : Option (Except String Unit)} {agent : Option PeerValue} :
    (∃ f, ping pong agent = .error f) ↔
      pong = some (.ok ()) ∧ ∀ a, agent ≠ some (.str a) := by
  rcases pong with _ | e | ⟨⟩
  · simp [ping]
  · simp [ping]
  · rcases agent with _ | a | _ <;> simp [ping]

end HopExchange
