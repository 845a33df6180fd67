import HopExchange.Node.Load
import HopExchange.Payments.Channel

/-!
# Node — Handlers

The handlers of the node that share the pending transaction `nd.tx` under the mutex
`txmu`: `Put`, `Status`, `Commit`, `Get` and `getRef`.  `Put`, `Status` and `getRef` release
the lock with `defer`; `Commit` unlocks by hand on its first return and after closing the
transaction; `Get` unlocks by hand after its check of the pending transaction.  A handler
that finds `txmu` held waits forever.

The handlers run one after another (`runOps`); each is a function of the state and of the
outcomes of the external calls it makes.

* `runOps_of_locked`: once a handler returns holding `txmu`, every later handler blocks.
* `commit_locked`, `get_locked`: which returns of `Commit` and `Get` keep the lock.
* `commit_keeps_txmu`: a `Put`, then a `Commit` whose `tx.Commit` fails: both return, the
  lock stays held and every later handler blocks; and which returns of `Commit` and `Get`
  keep it.
* `handlers_fault`: `Get` of a bare CID, `Load` with a miner that cannot be found, `ping` of a
  peer without an agent version and `loadActorState` after a failed `StateReadState` panic;
  and where `Load`, `ping` and `loadActorState` can panic at all.
-/

namespace HopExchange

/-- The pending transaction and its lock. -/
structure TxSt where
  locked : Bool
  /-- `nd.tx`: the root of the pending transaction, or nil. -/
  tx : Option Cid
  deriving DecidableEq, Repr

/-- `txmu.Lock()`, then `k`; a held lock blocks the caller for good. -/
def TxSt.withLock (s : TxSt) (k : TxSt → TxSt × Ending) : TxSt × Ending :=
  if s.locked then (s, .blocked) else k { s with locked := true }

/-- `txmu.Unlock()`. -/
def TxSt.unlock (s : TxSt) : TxSt := { s with locked := false }

/-- The outcome of every external call of `Put`. -/
structure PutOutcome where
  /-- The root of the transaction `exch.Tx` creates when none is pending. -/
  fresh : Cid
  stat : Except String Unit
  serialFile : Except String Unit
  /-- `addRecursive`: the root of the transaction after the adds. -/
  addRecursive : Except String Cid

/-- `node.Put`: every return goes through `defer nd.txmu.Unlock()`. -/
def put (s : TxSt) (o : PutOutcome) : TxSt × Ending :=
  s.withLock fun s =>
    let s := if s.tx = none then { s with tx := some o.fresh } else s
    match o.stat, o.serialFile, o.addRecursive with
    | .ok (), .ok (), .ok root => ({ s with tx := some root }.unlock, .ret)
    | _, _, _ => (s.unlock, .ret)

/-- `node.Status`: every return goes through `defer nd.txmu.Unlock()`. -/
def status (s : TxSt) : TxSt × Ending :=
  s.withLock fun s => (s.unlock, .ret)

/-- The outcome of the calls `Commit` makes while it holds `txmu`. -/
structure CommitOutcome where
  commit : Except String Unit
  setRef : Except String Unit

/-- `node.Commit`: unlocks when no transaction is pending and after closing it; the two
error returns between keep the lock. -/
def commit (s : TxSt) (o : CommitOutcome) : TxSt × Ending :=
  s.withLock fun s =>
    match s.tx with
    | none => (s.unlock, .ret)
    | some _ =>
      match o.commit, o.setRef with
      | .ok (), .ok () => ({ s with tx := none }.unlock, .ret)
      | _, _ => (s, .ret)

/-- `Get`'s normalisation of `MaxPPB`: -1 forces 0, 0 takes the node's default. -/
def normalizeMaxPPB (maxPPB default : Int) : Int :=
  if maxPPB = -1 then 0 else if maxPPB = 0 then default else maxPPB

/-- The outcome of every external call of `Get`. -/
structure GetOutcome where
  /-- The calls of `Load`, whose path parsing `Get` shares. -/
  load : LoadOutcome
  /-- `tx.IsLocal(args.Key)` on the transaction of the root. -/
  isLocal : Bool

/-- `node.Get`, with the node's default `MaxPPB`: every return of the branch of the pending
transaction keeps `txmu`, and `segs[0]` is read whatever `segs` holds.  A panic of the goroutine
of `Load` stops the node. -/
def get (defaultPPB : Int) (s : TxSt) (args : GetArgs) (o : GetOutcome) : TxSt × Ending :=
  match o.load.split with
  | .error _ => (s, .ret)
  | .ok (root, segs) =>
    let args := { args with maxPPB := normalizeMaxPPB args.maxPPB defaultPPB }
    s.withLock fun s =>
      if s.tx = some root then
        if args.out ≠ "" then
          match segs with
          | [] => (s, .fault .indexOutOfRange)
          | _ :: _ => (s, .ret)
        else (s, .ret)
      else
        match segs with
        | [] => (s.unlock, .fault .indexOutOfRange)
        | key :: _ =>
          if o.isLocal then (s.unlock, .ret) else (s.unlock, (load { args with key } o.load).2)

/-- `node.getRef`: a given CID is looked up without the lock; otherwise `defer` releases it. -/
def getRef (s : TxSt) (cstr : String) : TxSt × Ending :=
  if cstr ≠ "" then (s, .ret) else s.withLock fun s => (s.unlock, .ret)

/-- A call of a handler that takes `txmu`, with the outcomes of its external calls. -/
inductive NodeOp where
  | put (o : PutOutcome)
  | status
  | commit (o : CommitOutcome)
  | get (args : GetArgs) (o : GetOutcome)
  | getRef (cstr : String)

/-- One handler, run to its end. -/
def NodeOp.run (defaultPPB : Int) (s : TxSt) : NodeOp → TxSt × Ending
  | .put o => HopExchange.put s o
  | .status => HopExchange.status s
  | .commit o => HopExchange.commit s o
  | .get args o => HopExchange.get defaultPPB s args o
  | .getRef cstr => HopExchange.getRef s cstr

/-- The handler reaches `txmu.Lock()`: all but `getRef` of a given CID and `Get` of a path
that does not parse. -/
def NodeOp.takesLock : NodeOp → Bool
  | .getRef cstr => cstr = ""
  | .get _ o => o.load.split.isOk
  | _ => true

/-- Handlers one after another: the last state and how each ended. -/
def runOps (defaultPPB : Int) : TxSt → List NodeOp → TxSt × List Ending
  | s, [] => (s, [])
  | s, op :: ops =>
    let r := op.run defaultPPB s
    ((runOps defaultPPB r.1 ops).1, r.2 :: (runOps defaultPPB r.1 ops).2)

/-! ### The lock -/

variable {s : TxSt} {d : Int}

@[simp] theorem TxSt.withLock_of_locked {k : TxSt → TxSt × Ending} (h : s.locked = true) :
    s.withLock k = (s, .blocked) := by
  simp [TxSt.withLock, h]

@[simp] theorem TxSt.withLock_of_unlocked {k : TxSt → TxSt × Ending} (h : s.locked = false) :
    s.withLock k = k { s with locked := true } := by
  simp [TxSt.withLock, h]

/-- With `txmu` held, a handler changes nothing, and blocks if it takes the lock. -/
theorem NodeOp.run_of_locked (op : NodeOp) (h : s.locked = true) :
    op.run d s = (s, if op.takesLock then .blocked else .ret) := by
  cases op with
  | getRef cstr =>
    by_cases hc : cstr = "" <;> simp [NodeOp.run, NodeOp.takesLock, HopExchange.getRef, hc, h]
  | get args o =>
    rcases hs : o.load.split with _ | ⟨root, segs⟩ <;>
      simp [NodeOp.run, NodeOp.takesLock, HopExchange.get, hs, TxSt.withLock_of_locked h,
        Except.isOk, Except.toBool]
  | _ => simp only [NodeOp.run, NodeOp.takesLock, HopExchange.put, HopExchange.status,
      HopExchange.commit, TxSt.withLock_of_locked h, if_true]

/-- **A held lock is held for good.**  From a state where `txmu` is held, every later handler
that takes the lock blocks, and the others change nothing. -/
theorem runOps_of_locked (ops : List NodeOp) (h : s.locked = true) :
    runOps d s ops = (s, ops.map fun op => if op.takesLock then .blocked else .ret) := by
  induction ops with
  | nil => rfl
  | cons op ops ih => simp [runOps, NodeOp.run_of_locked op h, ih]

/-- The returns of `Commit` that keep the lock: a transaction is pending and `tx.Commit` or
`SetRef` failed. -/
theorem commit_locked (h : s.locked = false) (o : CommitOutcome) :
    (commit s o).1.locked = true ↔
      s.tx.isSome ∧ ¬ ((∃ u, o.commit = .ok u) ∧ ∃ u, o.setRef = .ok u) := by
  simp only [commit, TxSt.withLock_of_unlocked h]
  rcases s with ⟨_, _ | root⟩
  · simp [TxSt.unlock]
  · rcases o with ⟨_ | ⟨⟩, _ | ⟨⟩⟩ <;> simp [TxSt.unlock]

/-- The returns of `Get` that keep the lock: the path names the root of the pending
transaction. -/
theorem get_locked (h : s.locked = false) (args : GetArgs) (o : GetOutcome) {root : Cid}
    {segs : List String} (hsplit : o.load.split = .ok (root, segs)) :
    (get d s args o).1.locked = true ↔ s.tx = some root := by
  simp only [get, hsplit, TxSt.withLock_of_unlocked h]
  by_cases ht : s.tx = some root
  · simp only [ht, if_true]
    split_ifs <;> (try split) <;> simp
  · simp only [ht, if_false, iff_false]
    split
    · simp [TxSt.unlock]
    · split_ifs <;> simp [TxSt.unlock]

/-- **Returns that keep `txmu`.**  After a `Put` that creates the transaction with root 2, a
`Commit` whose `tx.Commit` fails returns holding `txmu`: no handler is running, the lock is
held, and every later handler blocks.  In general, the returns of `Commit` that keep the lock
are those after a failed `tx.Commit` or `SetRef` on a pending transaction, and those of `Get`
are all the returns on a path whose root is the pending transaction's. -/
theorem commit_keeps_txmu :
    (∃ s, runOps 0 ⟨false, none⟩
        [.put ⟨⟨1⟩, .ok (), .ok (), .ok ⟨2⟩⟩, .commit ⟨.error "commit failed", .ok ()⟩] =
        (s, [.ret, .ret]) ∧ s.locked = true ∧
      ∀ ops, runOps 0 s ops = (s, ops.map fun op => if op.takesLock then .blocked else .ret)) ∧
    (∀ (s : TxSt) (o : CommitOutcome), s.locked = false →
      ((commit s o).1.locked = true ↔
        s.tx.isSome ∧ ¬ ((∃ u, o.commit = .ok u) ∧ ∃ u, o.setRef = .ok u))) ∧
    (∀ (d : Int) (s : TxSt) (args : GetArgs) (o : GetOutcome) (root : Cid) (segs : List String),
      s.locked = false → o.load.split = .ok (root, segs) →
      ((get d s args o).1.locked = true ↔ s.tx = some root)) :=
  ⟨⟨⟨true, some ⟨2⟩⟩, rfl, rfl, fun ops => runOps_of_locked ops rfl⟩,
    fun _ o h => commit_locked h o, fun _ _ args o _ _ h hsplit => get_locked h args o hsplit⟩

/-! ### Faults -/

/-- A bare CID has no segment after the root: `Get` reads `segs[0]` and panics when no
transaction of that root is pending. -/
theorem get_bare_cid_fault (h : s.locked = false) (args : GetArgs) (o : GetOutcome) {root : Cid}
    (hsplit : o.load.split = .ok (root, [])) (ht : s.tx ≠ some root) :
    (get d s args o).2 = .fault .indexOutOfRange := by
  simp [get, hsplit, h, ht]

/-- **Where the handlers panic.**  The four panics at concrete inputs: `Get` of a bare CID;
`Load` with a miner whose `StateMinerInfo` fails and no cached offer; `ping` of a peer with no
`"AgentVersion"`; `loadActorState` after `StateReadState` fails.  In general, every panic of
`Load` is a nil dereference of the miner info or of the funds, `ping` panics exactly when the
pong arrives and no agent string is stored, and `loadActorState` exactly when
`StateReadState` fails. -/
theorem handlers_fault :
    let o : LoadOutcome := ⟨.ok (⟨1⟩, []), none, .ok (), .ok ⟨7⟩, .error "actor not found",
      .ok (), .ok (), true, some (.ok false), .ok, true, .ok ()⟩
    let args : GetArgs := ⟨"/1", "", "", 0, "", "f07", false⟩
    (get 0 ⟨false, none⟩ args ⟨o, false⟩).2 = .fault .indexOutOfRange ∧
    (load args o).2 = .fault .nilDereference ∧
    ping (some (.ok ())) none = .error .typeAssertion ∧
    loadActorState ⟨.error "actor not found", .ok (), .ok (), .ok (), .ok ()⟩ =
      .error .nilDereference ∧
    (∀ (a : GetArgs) (lo : LoadOutcome) (f : Fault), (load a lo).2 = .fault f →
      f = .nilDereference ∧
        ((a.miner ≠ "" ∧ ∃ e, filMinerInfo lo.minerInfo = .error e) ∨ ∃ e, lo.funds = .error e)) ∧
    (∀ (pong : Option (Except String Unit)) (agent : Option PeerValue),
      (∃ f, ping pong agent = .error f) ↔ pong = some (.ok ()) ∧ ∀ a, agent ≠ some (.str a)) ∧
    (∀ ao : ActorStateOutcome,
      (∃ f, loadActorState ao = .error f) ↔ ∃ e, ao.readState = .error e) :=
  ⟨get_bare_cid_fault rfl _ _ rfl nofun, rfl, rfl, rfl, fun _ _ _ => load_fault,
    fun _ _ => ping_fault_iff, fun _ => loadActorState_fault_iff⟩

end HopExchange
