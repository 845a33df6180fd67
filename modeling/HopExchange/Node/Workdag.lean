import HopExchange.Replication.Index

/-!
# Node — Workdag

The first of the two versions of the node in `node/popn.go`, the one built on the exchange's
`Workdag`.  `Add` puts a file into the workdag transaction `nd.tx`, which the first `Add`
creates and nothing replaces; `Status` reports on it; `Pack` commits it, archives it,
registers its ref with `Index().SetRef` and keeps the ref in `lastRef`; `Quote` prices the
storage of a commit (the ref `getCommit` picks) and keeps what the market answered in
`sQuote`, error or not; `Push` stores a commit with the kept quote's miners and dispatches
it to caches.

Each handler is a function of the node's fields and of what its external calls return.  It
gives the new fields and, in order, the calls it makes that others see and the notifications
it sends (`Effect`).  The handlers run one after another (`storageRun`).  An external call
that returns no error returns a value, as Go's convention has it.

* `storageRun_fields`: after any run, `nd.tx` is the transaction of the first `Add`, whatever
  came of it; `lastRef` the ref of the last `SetRef` that went through; `sQuote` the last
  answer of the market, a failure's nil included.
* `push_after_run`: after any run, a `Push` of the last commit to storage first stores the
  root of the last ref `Pack` registered, with the miners of the last quote the market gave.
* `push_results`: what `Push` tells the client.
* `push_size_round_trip`: a cache that handles the request `Push` dispatches registers the
  commit's root and payload size unchanged.
* `Get_fault_iff`: `Get` panics exactly when `Out` is set, the path names no file below its
  root, and the root is in the index or the retrieval got to its end.
-/

namespace HopExchange

/-- Go's conversion `uint64(x)` of an `int64` (or an `int`): `x` modulo `2^64`. -/
def toUInt64 (x : Int) : UInt64 := UInt64.ofNat (x % UInt64.size).toNat

/-- `int64(uint64(x)) = x` for every `int64` value `x`. -/
theorem toInt64_toUInt64 {x : Int} (h₁ : -(UInt64.size / 2 : Int) ≤ x)
    (h₂ : x < UInt64.size / 2) : toInt64 (toUInt64 x) = x := by
  have hn : (toUInt64 x).toNat = (x % UInt64.size).toNat % UInt64.size := rfl
  simp only [toInt64, hn, UInt64.size] at *
  split <;> omega

namespace Workdag

/-- `ErrNoDAGForPacking`. -/
def errNoDAGForPacking : String := "no DAG for packing"

/-- `ErrDAGNotPacked`. -/
def errDAGNotPacked : String := "DAG not packed"

/-- `ErrQuoteNotFound`. -/
def errQuoteNotFound : String := "quote not found"

/-- `ErrFilecoinRPCOffline`. -/
def errFilecoinRPCOffline : String := "filecoin RPC is offline"

/-- `ErrAllDealsFailed`. -/
def errAllDealsFailed : String := "all deals failed"

/-- `storage.Quote`: the miners offering storage, and the text `quote.Prices[addr].String()`
of each one's price. -/
structure Quote where
  miners : List Address
  price : Address → String

/-- What `GetMarketQuote` returns: a quote, or an error with the quote pointer returned
beside it (nil by convention; `Quote` keeps it whatever it is). -/
inductive MarketQuote where
  | ok (q : Quote)
  | error (e : String) (q : Option Quote)

/-- The quote pointer `GetMarketQuote` returned. -/
def MarketQuote.quote? : MarketQuote → Option Quote
  | .ok q => some q
  | .error _ q => q

/-- `storage.Receipt`: the miners that took a deal, and the deals. -/
structure Receipt where
  miners : List Address
  dealRefs : List Cid
  deriving DecidableEq, Repr

/-- `PieceRef`, what `archive` makes of a DAG. -/
structure PieceRef where
  cid : Cid
  payloadSize : Int
  /-- `abi.PaddedPieceSize`, a `uint64`. -/
  pieceSize : UInt64
  deriving DecidableEq, Repr

/-- What `Workdag().Stat` reports on a file. -/
structure DagStat where
  size : Int
  numBlocks : Int
  deriving DecidableEq, Repr

/-- `AddResult`; `size` is the value `filecoin.SizeStr` prints. -/
structure AddResult where
  cid : Option Cid
  size : UInt64
  numBlocks : Int
  err : String
  deriving DecidableEq, Repr

/-- `StatusResult`. -/
structure StatusResult where
  output : String
  err : String
  deriving DecidableEq, Repr

/-- `PackResult`. -/
structure PackResult where
  dataCID : Option Cid
  dataSize : Int
  pieceCID : Option Cid
  pieceSize : Int
  err : String
  deriving DecidableEq, Repr

/-- `QuoteResult`; `quotes` lists the entries the handler writes into its map, in order (an
address met twice brings the same price). -/
structure QuoteResult where
  ref : Option Cid
  quotes : List (Address × String)
  err : String
  deriving DecidableEq, Repr

/-- `PushResult`. -/
structure PushResult where
  miners : List Address
  deals : List Cid
  caches : List PeerId
  err : String
  deriving DecidableEq, Repr

/-- The notifications of the storage handlers. -/
inductive Notify where
  | add (r : AddResult)
  | status (r : StatusResult)
  | pack (r : PackResult)
  | quote (r : QuoteResult)
  | push (r : PushResult)
  deriving DecidableEq, Repr

/-- What a handler does that others see: `Index().SetRef` and `GetMarketQuote` with what
they returned, `rs.Store` with the root and the miners, `R().Dispatch` with its request, and
`nd.send`. -/
inductive Effect where
  | setRef (ref : DataRef) (res : Except String Unit)
  | marketQuote (pieceSize : UInt64) (res : MarketQuote)
  | store (root : Cid) (miners : List Address)
  | dispatch (req : Request)
  | send (n : Notify)

/-- `Add`'s `sendErr`. -/
def failAdd (e : String) : Effect := .send (.add ⟨none, 0, 0, e⟩)

/-- `Status`'s `sendErr`. -/
def failStatus (e : String) : Effect := .send (.status ⟨"", e⟩)

/-- `Pack`'s `sendErr`. -/
def failPack (e : String) : Effect := .send (.pack ⟨none, 0, none, 0, e⟩)

/-- `Quote`'s `sendErr`. -/
def failQuote (e : String) : Effect := .send (.quote ⟨none, [], e⟩)

/-- `Push`'s `sendErr`. -/
def failPush (e : String) : Effect := .send (.push ⟨[], [], [], e⟩)

/-- The ref of a `SetRef` that succeeded. -/
def Effect.registered : Effect → Option DataRef
  | .setRef ref (.ok ()) => some ref
  | _ => none

/-- The quote pointer a `GetMarketQuote` returned. -/
def Effect.quoted : Effect → Option (Option Quote)
  | .marketQuote _ m => some m.quote?
  | _ => none

/-- A `PushResult` sent. -/
def Effect.pushed : Effect → Option PushResult
  | .send (.push r) => some r
  | _ => none

/-- The fields the storage handlers share: the workdag transaction (by the identity
`Workdag().Tx` gave it) under `txmu`, the last packed ref under `rmu`, the last quote under
`qmu`. -/
structure StorageSt where
  tx : Option Nat
  lastRef : Option DataRef
  sQuote : Option Quote

/-- The fields as `New` leaves them. -/
def StorageSt.init : StorageSt := ⟨none, none, none⟩

/-! ### The handlers -/

/-- The outcome of `Add`'s calls. -/
structure AddOutcome where
  /-- The transaction `Workdag().Tx` makes when there is none. -/
  fresh : Nat
  /-- `tx.Put(exchange.KeyFromPath(args.Path), ...)`: the file's root. -/
  put : Except String Cid
  /-- What `Workdag().Stat` returns; an error beside it is only logged. -/
  stat : DagStat

/-- `node.Add` under `txmu`, released by `defer`. -/
def add (s : StorageSt) (o : AddOutcome) : StorageSt × List Effect :=
  -- `if nd.tx == nil { nd.tx = nd.exch.Workdag().Tx(ctx) }`, before the `Put`
  let s := { s with tx := s.tx.or (some o.fresh) }
  match o.put with
  | .error e => (s, [failAdd e])
  | .ok root => (s, [.send (.add ⟨some root, toUInt64 o.stat.size, o.stat.numBlocks, ""⟩)])

/-- `node.Status` under `txmu`, released by `defer`; `o` is `tx.Status()` printed. -/
def status (s : StorageSt) (o : Except String String) : List Effect :=
  match s.tx, o with
  | none, _ => [failStatus "no pending transaction"]
  | some _, .error e => [failStatus e]
  | some _, .ok out => [.send (.status ⟨out, ""⟩)]

/-- The outcome of `Pack`'s calls. -/
structure PackOutcome where
  /-- `nd.tx.Commit()`. -/
  commit : Except String DataRef
  archive : Except String PieceRef
  setRef : Except String Unit

/-- `node.Pack`.  It reads `nd.tx` without `txmu`, and sets `lastRef` after its notification. -/
def pack (s : StorageSt) (o : PackOutcome) : StorageSt × List Effect :=
  match s.tx, o.commit, o.archive with
  | none, _, _ => (s, [failPack errNoDAGForPacking])
  | some _, .error e, _ | some _, .ok _, .error e => (s, [failPack e])
  | some _, .ok ref, .ok piece =>
    match o.setRef with
    | .error e => (s, [.setRef ref (.error e), failPack e])
    | .ok () => ({ s with lastRef := some ref },
      [.setRef ref (.ok ()),
       .send (.pack ⟨some ref.payloadCID, piece.payloadSize, some piece.cid,
         toInt64 piece.pieceSize, ""⟩)])

/-- `node.getCommit`: the ref `cstr` names (`cid.Parse` then `PeekRef`, outcome `peek`), or
with no `cstr` the last packed ref. -/
def getCommit (lastRef : Option DataRef) (cstr : String) (peek : Except String DataRef) :
    Except String DataRef :=
  if cstr ≠ "" then peek
  else match lastRef with
    | some ref => .ok ref
    | none => .error errDAGNotPacked

/-- The outcome of `Quote`'s calls. -/
structure QuoteOutcome where
  /-- `IsFilecoinOnline()`. -/
  online : Bool
  peek : Except String DataRef
  /-- `nd.ms.Get(com.StoreID)`. -/
  store : Except String Unit
  archive : Except String PieceRef
  market : MarketQuote

/-- `node.Quote` of the commit `ref` names.  `sQuote` takes what the market returned before
the error check. -/
def quote (s : StorageSt) (ref : String) (o : QuoteOutcome) : StorageSt × List Effect :=
  if !o.online then (s, [failQuote errFilecoinRPCOffline])
  else match getCommit s.lastRef ref o.peek, o.store, o.archive with
    | .error e, _, _ | .ok _, .error e, _ | .ok _, .ok (), .error e => (s, [failQuote e])
    | .ok com, .ok (), .ok piece =>
      let s := { s with sQuote := o.market.quote? }
      let call := Effect.marketQuote piece.pieceSize o.market
      match o.market with
      | .error e _ => (s, [call, failQuote e])
      | .ok q => (s, [call, .send (.quote ⟨some com.payloadCID,
          q.miners.map fun a => (a, q.price a), ""⟩)])

/-- The arguments of `Push` it reads itself; `Duration` goes to `rs.Store` unread. -/
structure PushArgs where
  ref : String
  cacheOnly : Bool
  storageRF : Int
  /-- `args.Miners[addr.String()]`. -/
  miners : Address → Bool
  noCache : Bool
  cacheRF : Int

/-- How `Push`'s `range` over the dispatch's channel ends: at its first record, at the
channel's close before any, or never. -/
inductive FirstRecord where
  | record (r : PRecord)
  | closed
  | waits
  deriving DecidableEq, Repr

/-- The outcome of `Push`'s calls. -/
structure PushOutcome where
  peek : Except String DataRef
  online : Bool
  store : Except String Receipt
  dispatched : FirstRecord

/-- The request `Push` dispatches for a commit. -/
def pushRequest (com : DataRef) : Request := ⟨com.payloadCID, toUInt64 com.payloadSize⟩

/-- A stretch of a handler: what it did, and how the handler ended if it stopped there. -/
abbrev Stage := List Effect × Option Ending

/-- `b` after `a`, unless the handler stopped in `a`. -/
def Stage.andThen (a b : Stage) : Stage :=
  match a.2 with
  | some _ => a
  | none => (a.1 ++ b.1, b.2)

/-- `Push`'s storage branch. -/
def pushStorage (sQuote : Option Quote) (args : PushArgs) (o : PushOutcome) (com : DataRef) :
    Stage :=
  if !o.online then ([failPush errFilecoinRPCOffline], some .ret)
  else match sQuote with
    | none => ([failPush errQuoteNotFound], some .ret)
    | some q =>
      let call := Effect.store com.payloadCID (q.miners.filter args.miners)
      match o.store with
      | .error e => ([call, failPush e], some .ret)
      | .ok rcpt =>
        if rcpt.dealRefs = [] then ([call, failPush errAllDealsFailed], some .ret)
        else ([call, .send (.push ⟨rcpt.miners, rcpt.dealRefs, [], ""⟩)], none)

/-- `Push`'s cache branch: it returns after the first record.  The loop's `if err != nil`
tests the `err` of `getCommit`, nil past its check, and never sends. -/
def pushCache (com : DataRef) : FirstRecord → Stage
  | .record r => ([.dispatch (pushRequest com), .send (.push ⟨[], [], [r.provider], ""⟩)], some .ret)
  | .closed => ([.dispatch (pushRequest com)], none)
  | .waits => ([.dispatch (pushRequest com)], some .blocked)

/-- `node.Push`: the storage branch, the cache branch, then the empty `PushResult`. -/
def push (s : StorageSt) (args : PushArgs) (o : PushOutcome) : List Effect × Ending :=
  match getCommit s.lastRef args.ref o.peek with
  | .error e => ([failPush e], .ret)
  | .ok com =>
    let run := Stage.andThen
      (Stage.andThen
        (if !args.cacheOnly && 0 < args.storageRF then pushStorage s.sQuote args o com
          else ([], none))
        (if !args.noCache && 0 < args.cacheRF then pushCache com o.dispatched else ([], none)))
      ([.send (.push ⟨[], [], [], ""⟩)], some .ret)
    (run.1, run.2.getD .ret)

/-- A call of a storage handler with the outcomes of its external calls. -/
inductive StorageOp where
  | add (o : AddOutcome)
  | status (o : Except String String)
  | pack (o : PackOutcome)
  | quote (ref : String) (o : QuoteOutcome)
  | push (args : PushArgs) (o : PushOutcome)

/-- One handler, to its return. -/
def StorageOp.run (s : StorageSt) : StorageOp → StorageSt × List Effect
  | .add o => Workdag.add s o
  | .status o => (s, Workdag.status s o)
  | .pack o => Workdag.pack s o
  | .quote ref o => Workdag.quote s ref o
  | .push args o => (s, (Workdag.push s args o).1)

/-- Handlers one after another. -/
def storageRun (s : StorageSt) : List StorageOp → StorageSt × List Effect
  | [] => (s, [])
  | op :: ops => ((storageRun (op.run s).1 ops).1, (op.run s).2 ++ (storageRun (op.run s).1 ops).2)

/-- The transaction an `Add` would make. -/
def StorageOp.fresh? : StorageOp → Option Nat
  | .add o => some o.fresh
  | _ => none

/-! ### What each handler leaves behind -/

theorem option_or_getD {α : Type} (a b : Option α) (d : α) :
    (a.or b).getD d = a.getD (b.getD d) := by
  cases a <;> rfl

theorem findSome?_cons_or (f : StorageOp → Option Nat) (op : StorageOp) (ops : List StorageOp) :
    (op :: ops).findSome? f = (f op).or (ops.findSome? f) := by
  rw [List.findSome?_cons]; cases f op <;> rfl

theorem Stage.mem_andThen {a b : Stage} {e : Effect} (h : e ∈ (Stage.andThen a b).1) :
    e ∈ a.1 ∨ e ∈ b.1 := by
  unfold Stage.andThen at h
  split at h
  · exact .inl h
  · exact List.mem_append.1 h

/-- `Push`'s storage branch only stores and sends. -/
theorem pushStorage_kinds (q : Option Quote) (args : PushArgs) (o : PushOutcome) (com : DataRef) :
    ∀ e ∈ (pushStorage q args o com).1, (∃ root miners, e = .store root miners) ∨
      ∃ r, e = .send (.push r) := by
  unfold pushStorage
  repeat' split
  all_goals simp [failPush]

/-- `Push`'s cache branch only dispatches the commit and sends. -/
theorem pushCache_kinds (com : DataRef) (f : FirstRecord) :
    ∀ e ∈ (pushCache com f).1, e = .dispatch (pushRequest com) ∨ ∃ r, e = .send (.push r) := by
  cases f <;> simp [pushCache]

/-- **What `Push` can do.**  Store, dispatch the request of the commit `getCommit` found,
and send `PushResult`s. -/
theorem push_kinds (s : StorageSt) (args : PushArgs) (o : PushOutcome) :
    ∀ e ∈ (push s args o).1, (∃ root miners, e = .store root miners) ∨
      (∃ com, getCommit s.lastRef args.ref o.peek = .ok com ∧ e = .dispatch (pushRequest com)) ∨
      ∃ r, e = .send (.push r) := by
  rcases hg : getCommit s.lastRef args.ref o.peek with e | com
  · simp [push, hg, failPush]
  simp only [push, hg]
  intro e he
  rcases Stage.mem_andThen he with he | he
  · rcases Stage.mem_andThen he with he | he
    · split at he
      · exact (pushStorage_kinds _ _ _ _ e he).imp_right Or.inr
      · simp at he
    · split at he
      · rcases pushCache_kinds com o.dispatched e he with h | h
        · exact .inr (.inl ⟨com, rfl, h⟩)
        · exact .inr (.inr h)
      · simp at he
  · simp at he; simp [he]

/-- **One handler.**  What a handler leaves in the node's fields, read off what it did: the
first `Add` makes the transaction, a `SetRef` that succeeded sets `lastRef`, and a market
quote, whatever it was, sets `sQuote`. -/
theorem StorageOp.run_fst (s : StorageSt) (op : StorageOp) :
    (op.run s).1 = { s with
      tx := s.tx.or op.fresh?
      lastRef := ((op.run s).2.filterMap Effect.registered).getLast?.or s.lastRef
      sQuote := ((op.run s).2.filterMap Effect.quoted).getLast?.getD s.sQuote } := by
  cases op with
  | add o => obtain ⟨_, _ | _, _⟩ := o <;> rfl
  | status o => rcases s with ⟨_ | _, _, _⟩ <;> cases o <;> rfl
  | pack o =>
    obtain ⟨_ | _, _ | _, _ | _⟩ := o <;> rcases s with ⟨_ | _, _, _⟩ <;> rfl
  | quote ref o =>
    rcases s with ⟨_ | _, _, _⟩ <;> simp only [StorageOp.run, Workdag.quote] <;> split <;>
      (try split) <;> (try split) <;> rfl
  | push args o =>
    have h : ∀ e ∈ (Workdag.push s args o).1, e.registered = none ∧ e.quoted = none := by
      intro e he
      rcases push_kinds s args o e he with ⟨_, _, rfl⟩ | ⟨_, _, rfl⟩ | ⟨_, rfl⟩ <;>
        exact ⟨rfl, rfl⟩
    have h₁ : (Workdag.push s args o).1.filterMap Effect.registered = [] :=
      List.filterMap_eq_nil_iff.2 fun e he => (h e he).1
    have h₂ : (Workdag.push s args o).1.filterMap Effect.quoted = [] :=
      List.filterMap_eq_nil_iff.2 fun e he => (h e he).2
    rcases s with ⟨_ | _, _, _⟩ <;> simp [StorageOp.run, h₁, h₂, StorageOp.fresh?]

/-- **Any run.**  From any state, after any handlers with any outcomes: `nd.tx` is the
transaction the first `Add` made if there was none, whether or not its `Put` went through, and
nothing replaces it; `lastRef` is the ref of the last `SetRef` that succeeded; `sQuote` is
what the last `GetMarketQuote` returned, an error's nil included. -/
theorem storageRun_fields (s : StorageSt) (ops : List StorageOp) :
    (storageRun s ops).1 = { s with
      tx := s.tx.or (ops.findSome? StorageOp.fresh?)
      lastRef := ((storageRun s ops).2.filterMap Effect.registered).getLast?.or s.lastRef
      sQuote := ((storageRun s ops).2.filterMap Effect.quoted).getLast?.getD s.sQuote } := by
  induction ops generalizing s with
  | nil => rcases s with ⟨_ | _, _, _⟩ <;> rfl
  | cons op ops ih =>
    simp only [storageRun, ih, StorageOp.run_fst s op, List.filterMap_append,
      List.getLast?_append, findSome?_cons_or, Option.or_assoc, option_or_getD]

/-! ### What `Push` does -/

theorem Stage.head?_andThen {a b : Stage} (h : a.1 ≠ []) :
    (Stage.andThen a b).1.head? = a.1.head? := by
  unfold Stage.andThen; split
  · rfl
  · exact List.head?_append_of_ne_nil _ h

theorem Stage.andThen_ne_nil {a b : Stage} (h : a.1 ≠ []) : (Stage.andThen a b).1 ≠ [] := by
  unfold Stage.andThen; split
  · exact h
  · simp [h]

/-- Online, the storage branch first stores with the quote's miners, or finds no quote. -/
theorem pushStorage_head? (q : Option Quote) (args : PushArgs) {o : PushOutcome}
    (hon : o.online = true) (com : DataRef) :
    (pushStorage q args o com).1.head? = some (match q with
      | none => failPush errQuoteNotFound
      | some q => .store com.payloadCID (q.miners.filter args.miners)) := by
  rcases q with _ | q
  · simp [pushStorage, hon]
  · simp only [pushStorage, hon, Bool.not_true, Bool.false_eq_true, ite_false]
    split
    · rfl
    · split <;> rfl

/-- **Packing, quoting, pushing.**  After any run from the node `New` makes, a `Push` of the
last commit to storage (no `Ref`, not `CacheOnly`, `StorageRF > 0`, Filecoin online) starts
so: "DAG not packed" if no `SetRef` of a `Pack` went through; else "quote not found" if no
`GetMarketQuote` was made or the last one returned nil, however the ones before went; else it
stores the root of the last registered ref with those miners of the last quote that
`Miners` names, whichever commit that quote priced. -/
theorem push_after_run {ops : List StorageOp} {args : PushArgs} {o : PushOutcome}
    (href : args.ref = "") (hcache : args.cacheOnly = false) (hrf : 0 < args.storageRF)
    (hon : o.online = true) :
    (push (storageRun .init ops).1 args o).1.head? =
      match ((storageRun .init ops).2.filterMap Effect.registered).getLast?,
        ((storageRun .init ops).2.filterMap Effect.quoted).getLast?.getD none with
      | none, _ => some (failPush errDAGNotPacked)
      | some _, none => some (failPush errQuoteNotFound)
      | some ref, some q => some (.store ref.payloadCID (q.miners.filter args.miners)) := by
  have hl : (storageRun .init ops).1.lastRef =
      ((storageRun .init ops).2.filterMap Effect.registered).getLast? := by
    rw [storageRun_fields]; exact Option.or_none
  have hq : (storageRun .init ops).1.sQuote =
      ((storageRun .init ops).2.filterMap Effect.quoted).getLast?.getD none := by
    rw [storageRun_fields]; rfl
  rw [← hl, ← hq]
  generalize (storageRun .init ops).1 = s
  rcases s with ⟨tx, _ | ref, q⟩
  · simp [push, getCommit, href]
  · have hs : (!args.cacheOnly && decide (0 < args.storageRF)) = true := by simp [hcache, hrf]
    have hne : (pushStorage q args o ref).1 ≠ [] := by
      intro h; simpa [h] using pushStorage_head? q args hon ref
    simp only [push, getCommit, href, hs, ite_true, ne_eq, not_true_eq_false, ite_false]
    rw [Stage.head?_andThen, Stage.head?_andThen hne, pushStorage_head? q args hon]
    · rcases q <;> rfl
    · exact Stage.andThen_ne_nil hne

/-- A `Pack`, a `Quote` that got a quote, then a `Quote` whose market call failed: the
failure wiped the quote, and `Push` finds none. -/
theorem push_after_failed_quote :
    (push (storageRun .init
      [.add ⟨0, .ok ⟨1⟩, ⟨10, 1⟩⟩,
       .pack ⟨.ok ⟨⟨2⟩, 10, 0⟩, .ok ⟨⟨3⟩, 10, 128⟩, .ok ()⟩,
       .quote "" ⟨true, .error "", .ok (), .ok ⟨⟨3⟩, 10, 128⟩, .ok ⟨[⟨5⟩], fun _ => "1"⟩⟩,
       .quote "" ⟨true, .error "", .ok (), .ok ⟨⟨3⟩, 10, 128⟩, .error "timeout" none⟩]).1
      ⟨"", false, 1, fun _ => true, true, 0⟩ ⟨.error "", true, .error "", .closed⟩).1.head? =
      some (failPush errQuoteNotFound) :=
  (push_after_run rfl rfl (by decide) rfl).trans rfl

/-- The storage branch goes on having sent at most its receipt, or returns having sent an
error. -/
theorem pushStorage_results (q : Option Quote) (args : PushArgs) (o : PushOutcome)
    (com : DataRef) :
    ((pushStorage q args o com).2 = none ∧
      ((pushStorage q args o com).1.filterMap Effect.pushed).length ≤ 1 ∧
      ∀ r ∈ (pushStorage q args o com).1.filterMap Effect.pushed,
        r.deals ≠ [] ∧ r.caches = [] ∧ r.err = "") ∨
    ((pushStorage q args o com).2 = some .ret ∧ ∃ e, (pushStorage q args o com).1.filterMap
      Effect.pushed = [⟨[], [], [], e⟩]) := by
  unfold pushStorage
  repeat' split
  all_goals simp [failPush, Effect.pushed, *]

/-- The cache branch goes on having sent nothing, waits, or returns having named the first
record's provider. -/
theorem pushCache_results (com : DataRef) (f : FirstRecord) :
    ((pushCache com f).2 = none ∧ (pushCache com f).1.filterMap Effect.pushed = []) ∨
    ((pushCache com f).2 = some .blocked ∧ (pushCache com f).1.filterMap Effect.pushed = []) ∨
    ((pushCache com f).2 = some .ret ∧ ∃ r, f = .record r ∧
      (pushCache com f).1.filterMap Effect.pushed = [⟨[], [], [r.provider], ""⟩]) := by
  cases f <;> simp [pushCache, Effect.pushed]

/-- **The size a cache registers.**  A cache that handles the request `Push` dispatches, for a
root it holds no ref of, registers the commit's root and payload size unchanged: the size
goes out as `uint64(com.PayloadSize)` and `handleRequest` reads it back as `int64(req.Size)`,
for every `int64` size, negative ones included. -/
theorem push_size_round_trip {s : StorageSt} {args : PushArgs} {o : PushOutcome} {r : RecvSt}
    {req : Request} (h : Effect.dispatch req ∈ (push s args o).1)
    (hsize : ∀ com, getCommit s.lastRef args.ref o.peek = .ok com →
      -(UInt64.size / 2 : Int) ≤ com.payloadSize ∧ com.payloadSize < UInt64.size / 2)
    (hR : r.idx req.payloadCID = none) :
    ∃ com, getCommit s.lastRef args.ref o.peek = .ok com ∧
      (handleRequest r req).idx com.payloadCID = some (⟨com.payloadCID, com.payloadSize, r.next⟩, false) := by
  rcases push_kinds s args o _ h with ⟨_, _, h'⟩ | ⟨com, hg, h'⟩ | ⟨_, h'⟩
  · cases h'
  · cases h'
    obtain ⟨h₁, h₂⟩ := hsize com hg
    refine ⟨com, hg, ?_⟩
    rw [handleRequest_of_none hR]
    simp [pushRequest, toInt64_toUInt64 h₁ h₂]
  · cases h'

/-- A commit of payload size `-5` reaches the cache with size `-5`. -/
theorem push_size_negative :
    ∃ com, getCommit (some ⟨⟨1⟩, -5, 0⟩) "" (.error "") = .ok com ∧
      (handleRequest .empty (pushRequest ⟨⟨1⟩, -5, 0⟩)).idx com.payloadCID =
        some (⟨com.payloadCID, com.payloadSize, 0⟩, false) :=
  @push_size_round_trip ⟨none, some ⟨⟨1⟩, -5, 0⟩, none⟩ ⟨"", true, 0, fun _ => true, false, 1⟩
    ⟨.error "", true, .error "", .closed⟩ .empty (pushRequest ⟨⟨1⟩, -5, 0⟩)
    (by simp [push, getCommit, pushCache, Stage.andThen])
    (fun com h => by cases h; decide) rfl

/-! ### Retrieval -/

/-- The arguments of `Get` it reads.  `Verbose` only subscribes a logger, and `Timeout` sets
the deadline, whose expiry is an outcome. -/
structure GetArgs where
  cid : String
  out : String
  strategy : String
  miner : String
  deriving DecidableEq, Repr

/-- A `GetResult` of `Get`: `Local`, the deal's ID and prices, the latencies at the end, or
an error. -/
inductive GetResult where
  | local
  | deal
  | latencies
  | err (e : String)
  deriving DecidableEq, Repr

/-- The outcome of the calls of `Get` and `get`.  `session.QueryFrom`'s error is assigned to
the `err` the miner branch declares for itself, which nothing reads, so it is left out; the
`DataRef` given to `SetRef` is `{root, session.StoreID(), int64(resp.Size)}`. -/
structure GetOutcome where
  /-- `path.SplitAbsPath`: the root and the path's segments below it. -/
  split : Except String (Cid × List String)
  /-- `Index().GetStoreID(root)`. -/
  storeID : Except String Nat
  /-- `nd.export` of the file the first segment names. -/
  exportFile : Except String Unit
  /-- `address.NewFromString(args.Miner)`. -/
  minerAddr : Except String Unit
  /-- `rs.PeerInfo` of the miner. -/
  peerInfo : Except String Unit
  /-- `session.Query`, when no miner is given. -/
  query : Except String Unit
  /-- `session.Checkout()`. -/
  checkout : Except String Unit
  /-- `session.Ongoing()`, or the deadline first (`ctx.Err()`). -/
  ongoing : Except String Unit
  /-- `session.Done()`, or the deadline first. -/
  done : Except String Unit
  setRef : Except String Unit

/-- The strategy names `get`'s switch knows. -/
def knownStrategy (name : String) : Bool :=
  name = "SelectFirst" || name = "SelectCheapest" || name = "SelectFirstLowerThan"

/-- `get` up to `session.Done()`: the deal's `GetResult` once the deal started, and how the
session ended. -/
def getSession (args : GetArgs) (o : GetOutcome) : List GetResult × Except String Unit :=
  if !knownStrategy args.strategy then ([], .error "unknown strategy")
  else
    let found := if args.miner ≠ "" then o.minerAddr.bind fun _ => o.peerInfo else o.query
    match (found.bind fun _ => o.checkout).bind fun _ => o.ongoing with
    | .error e => ([], .error e)
    | .ok () => ([.deal], o.done)

/-- `nd.export(ctx, root, segs[0], args.Out, ...)`: `segs[0]` panics on a bare root. -/
def exportFirst (segs : List String) (exportFile : Except String Unit) :
    Except Fault (Except String Unit) :=
  match segs with
  | [] => .error .indexOutOfRange
  | _ :: _ => .ok exportFile

/-- `node.get` of the root with the segments `segs`: what it sends, and the error it returns. -/
def get (segs : List String) (args : GetArgs) (o : GetOutcome) :
    Except Fault (List GetResult × Option String) :=
  match getSession args o with
  | (sends, .error e) => .ok (sends, some e)
  | (sends, .ok ()) =>
    (if args.out = "" then .ok (.ok ()) else exportFirst segs o.exportFile).map fun exported =>
      match exported.bind fun _ => o.setRef with
      | .error e => (sends, some e)
      | .ok () => (sends ++ [.latencies], none)

/-- `node.Get`: what it sends. -/
def Get (args : GetArgs) (o : GetOutcome) : Except Fault (List GetResult) :=
  match o.split, o.storeID with
  | .error e, _ => .ok [.err e]
  | .ok (_, segs), .ok _ =>
    (if args.out = "" then .ok (.ok ()) else exportFirst segs o.exportFile).map fun
      | .error e => [.err e]
      | .ok () => [.local]
  | .ok (_, segs), .error _ =>
    (get segs args o).map fun r => r.1 ++ (r.2.map GetResult.err).toList

theorem except_map_fault {α β : Type} {g : α → β} {x : Except Fault α} :
    (∃ f, x.map g = .error f) ↔ ∃ f, x = .error f := by
  cases x <;> simp [Except.map]

theorem exportFirst_fault {segs : List String} {exportFile : Except String Unit} :
    (∃ f, exportFirst segs exportFile = .error f) ↔ segs = [] := by
  cases segs <;> simp [exportFirst]

/-- `get` panics exactly when its session ended well, `Out` is set and there is no segment. -/
theorem get_fault {segs : List String} {args : GetArgs} {o : GetOutcome} :
    (∃ f, get segs args o = .error f) ↔
      (getSession args o).2 = .ok () ∧ args.out ≠ "" ∧ segs = [] := by
  unfold get
  rcases getSession args o with ⟨sends, e | ⟨⟩⟩
  · simp [Except.map]
  · by_cases ho : args.out = ""
    · simp [ho, Except.map]
    · cases segs <;> simp [ho, exportFirst, Except.map]

/-- **Where `Get` panics.**  Exactly when `Out` is set, the path has no segment below its root,
and either the index has the root or the retrieval's session ended well: `segs[0]` is read
there, before the export.  A bare root with no `Out` is served, locally or not. -/
theorem Get_fault_iff {args : GetArgs} {o : GetOutcome} :
    (∃ f, Get args o = .error f) ↔ args.out ≠ "" ∧ (∃ root, o.split = .ok (root, [])) ∧
      ((∃ id, o.storeID = .ok id) ∨ (getSession args o).2 = .ok ()) := by
  unfold Get
  rcases o.split with e | ⟨root, segs⟩ <;> rcases o.storeID with e' | id
  · simp
  · simp
  · rw [except_map_fault, get_fault]
    simp only [Except.ok.injEq, Prod.mk.injEq, reduceCtorEq, exists_const, false_or]
    tauto
  · by_cases ho : args.out = ""
    · simp [ho, Except.map]
    · rw [except_map_fault]
      simp [ho, exportFirst_fault]

end Workdag

end HopExchange
