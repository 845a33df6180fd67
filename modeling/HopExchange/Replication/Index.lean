import HopExchange.Basic
import Mathlib.Logic.Function.Basic

/-!
# Replication — Index

The receiving side of a pull.  `handleRequest` reads a `Request`, takes a fresh store id,
registers a provisional `DataRef` with `Index.SetRef` and opens a pull channel;
`TransportConfigurer` points the transfer at the store of the root's ref; the
subscriber that `NewReplication` registers drops the ref of the base CID on every `Error`
event where this node is the recipient; `node.Load` finishes a retrieval into the store of
its transaction with `SetRef`, or `UpdateRef` when a ref already exists.

The `Index` itself is not in the repository; its operations follow the spec (§4.1).
Refs are keyed by root and carry the `DropRef` mark; a store holds a root once a transfer
into it completed.  Each pull of this node is one record moving from `opening` or
`transferring` to an end.

* `Fresh`: the store ids from the next one on are named by no store, pull or ref, in every
  reachable state.
* `request_open_fail`: from any reachable state where a root has no ref, a `Request` for it
  whose pull channel cannot be opened leaves a live `DataRef` whose store does not hold the
  root, with no pull completed.
-/

namespace HopExchange

/-- `exchange.DataRef`, the fields the exchange reads. -/
structure DataRef where
  payloadCID : Cid
  payloadSize : Int
  storeID : Nat
  deriving DecidableEq, Repr

/-- Modelled from the spec: the `Index`, a ref per root with whether `DropRef` marked it. -/
abbrev Index := Cid → Option (DataRef × Bool)

/-- Modelled from the spec: `SetRef(ref)` inserts, and fails `AlreadyExists` if a distinct
ref exists for the same root. -/
def Index.setRef (idx : Index) (ref : DataRef) : Except String Index :=
  match idx ref.payloadCID with
  | some (old, _) =>
    if old ≠ ref then .error "ref already exists"
    else .ok (Function.update idx ref.payloadCID (some (ref, false)))
  | none => .ok (Function.update idx ref.payloadCID (some (ref, false)))

/-- Modelled from the spec: `UpdateRef(ref)` overwrites the counters and keeps the store id;
the fields modelled here do not change. -/
def Index.updateRef (idx : Index) (ref : DataRef) : Except String Index :=
  match idx ref.payloadCID with
  | some _ => .ok idx
  | none => .error "ref not found"

/-- Modelled from the spec: `DropRef(root)` marks the ref for the garbage collector. -/
def Index.dropRef (idx : Index) (root : Cid) : Index :=
  match idx root with
  | some (ref, _) => Function.update idx root (some (ref, true))
  | none => idx

/-- Modelled from the spec: `GetStore(root)`, the store of the root's ref. -/
def Index.getStore (idx : Index) (root : Cid) : Option Nat :=
  (idx root).map (·.1.storeID)

/-- A live ref: held and not dropped. -/
def Index.Live (idx : Index) (root : Cid) : Prop :=
  ∃ ref, idx root = some (ref, false)

instance (idx : Index) (root : Cid) : Decidable (idx.Live root) :=
  match h : idx root with
  | some (ref, false) => isTrue ⟨ref, h⟩
  | some (_, true) => isFalse fun ⟨_, h'⟩ => by simp [h] at h'
  | none => isFalse fun ⟨_, h'⟩ => by simp [h] at h'

/-- Who started a pull: `handleRequest`, or a retrieval of `node.Load`. -/
inductive PullKind where
  | dispatch
  | retrieval
  deriving DecidableEq, Repr

/-- How far a pull is. -/
inductive PullStatus where
  | opening
  | openFailed
  | transferring
  /-- The transfer completed; `Load` has not yet registered a retrieval. -/
  | completed
  | failed
  /-- Completed and, for a retrieval, registered by `Load`. -/
  | finished
  deriving DecidableEq, Repr

/-- A pull of `root` into `store` (`none`: the default store of the transport). -/
structure Pull where
  kind : PullKind
  root : Cid
  size : Int
  store : Option Nat
  status : PullStatus
  deriving DecidableEq, Repr

/-- The pull has ended. -/
def Pull.ended (p : Pull) : Bool :=
  p.status = .openFailed || p.status = .failed || p.status = .finished

/-- The index, the stores' complete roots, the next store id and this node's pulls. -/
structure RecvSt where
  idx : Index
  filled : List (Nat × Cid)
  next : Nat
  pulls : List Pull

/-- `handleRequest` after reading `req`: a fresh store id and a provisional ref. -/
def handleRequest (s : RecvSt) (req : Request) : RecvSt :=
  let ref : DataRef := ⟨req.payloadCID, toInt64 req.size, s.next⟩
  match s.idx.setRef ref with
  | .ok idx => { s with
      idx := idx, next := s.next + 1,
      pulls := s.pulls ++ [⟨.dispatch, req.payloadCID, toInt64 req.size, none, .opening⟩] }
  | .error _ => { s with next := s.next + 1 }

/-- The ref of `node.Load` after a completed retrieval: `SetRef`, else `UpdateRef`. -/
def loadRegister (idx : Index) (ref : DataRef) : Index :=
  match idx.setRef ref with
  | .ok idx' => idx'
  | .error _ => (idx.updateRef ref).toOption.getD idx

/-- One step of a pull of this node. -/
inductive RecvStep : RecvSt → RecvSt → Prop where
  /-- A `Request` arrives on the request protocol. -/
  | request {s : RecvSt} (req : Request) : RecvStep s (handleRequest s req)
  /-- `OpenPullDataChannel` fails: `handleRequest` returns. -/
  | openFail {s : RecvSt} {i : Nat} {p : Pull} (hp : s.pulls[i]? = some p)
      (ho : p.status = .opening) :
      RecvStep s { s with pulls := s.pulls.set i { p with status := .openFailed } }
  /-- The channel opens; `TransportConfigurer` picks the store of the root's ref. -/
  | opened {s : RecvSt} {i : Nat} {p : Pull} (hp : s.pulls[i]? = some p)
      (ho : p.status = .opening) :
      RecvStep s { s with
        pulls := s.pulls.set i { p with store := s.idx.getStore p.root, status := .transferring } }
  /-- `node.Load` starts a retrieval into the store of a new transaction. -/
  | retrieve {s : RecvSt} (root : Cid) (size : Int) :
      RecvStep s { s with
        next := s.next + 1,
        pulls := s.pulls ++ [⟨.retrieval, root, size, some s.next, .transferring⟩] }
  /-- The transfer completes: the store holds the root. -/
  | complete {s : RecvSt} {i : Nat} {p : Pull} (hp : s.pulls[i]? = some p)
      (ht : p.status = .transferring) :
      RecvStep s { s with
        filled := s.filled ++ (p.store.map (·, p.root)).toList,
        pulls := s.pulls.set i
          { p with status := if p.kind = .dispatch then .finished else .completed } }
  /-- `Load` registers a completed retrieval. -/
  | register {s : RecvSt} {i : Nat} {p : Pull} {sid : Nat} (hp : s.pulls[i]? = some p)
      (hc : p.status = .completed) (hs : p.store = some sid) :
      RecvStep s { s with
        idx := loadRegister s.idx ⟨p.root, p.size, sid⟩,
        pulls := s.pulls.set i { p with status := .finished } }
  /-- The transfer fails: the `Error` subscriber drops the ref of the base CID. -/
  | fail {s : RecvSt} {i : Nat} {p : Pull} (hp : s.pulls[i]? = some p)
      (ht : p.status = .transferring) :
      RecvStep s { s with
        idx := s.idx.dropRef p.root,
        pulls := s.pulls.set i { p with status := .failed } }

/-- The states reached from an index and stores with no pull running. -/
inductive RecvReachable (s₀ : RecvSt) : RecvSt → Prop where
  | init : RecvReachable s₀ s₀
  | step {s s' : RecvSt} : RecvReachable s₀ s → RecvStep s s' → RecvReachable s₀ s'

/-! ### The index operations -/

section Ops

variable {idx idx' : Index} {ref : DataRef} {r : Cid} {e : DataRef × Bool}

theorem Index.setRef_of_none (h : idx ref.payloadCID = none) :
    idx.setRef ref = .ok (Function.update idx ref.payloadCID (some (ref, false))) := by
  simp [Index.setRef, h]

/-- A successful `SetRef` stores the new ref, live. -/
theorem Index.setRef_ok (h : idx.setRef ref = .ok idx') :
    idx' = Function.update idx ref.payloadCID (some (ref, false)) := by
  unfold Index.setRef at h
  split at h
  · split at h
    · cases h
    · cases h; rfl
  · cases h; rfl

/-- After a successful `SetRef` a root holds the new ref or what it held. -/
theorem Index.setRef_entry (h : idx.setRef ref = .ok idx') (he : idx' r = some e) :
    e = (ref, false) ∨ idx r = some e := by
  rw [Index.setRef_ok h] at he
  by_cases hr : r = ref.payloadCID
  · subst hr; simp at he; exact .inl he.symm
  · exact .inr (by simpa [hr] using he)

theorem loadRegister_entry (he : loadRegister idx ref r = some e) :
    e = (ref, false) ∨ idx r = some e := by
  cases h : idx.setRef ref with
  | ok idx' => simp only [loadRegister, h] at he; exact Index.setRef_entry h he
  | error _ =>
    cases h' : idx ref.payloadCID <;>
      simp only [loadRegister, h, Index.updateRef, h', Except.toOption, Option.getD_some,
        Option.getD_none] at he <;>
      exact .inr he

/-- `DropRef` only changes marks. -/
theorem Index.dropRef_entry (he : idx.dropRef r' r = some e) : ∃ b, idx r = some (e.1, b) := by
  cases h : idx r' with
  | none => simp only [Index.dropRef, h] at he; exact ⟨e.2, he⟩
  | some old =>
    simp only [Index.dropRef, h] at he
    by_cases hr : r = r'
    · subst hr; simp at he; subst he; exact ⟨_, h⟩
    · exact ⟨e.2, by simpa [hr] using he⟩

end Ops

/-! ### Fresh store ids -/

/-- Store ids from `next` on are unused: by the stores, the pulls and the refs. -/
structure Fresh (s : RecvSt) : Prop where
  filled : ∀ e ∈ s.filled, e.1 < s.next
  pulls : ∀ p ∈ s.pulls, ∀ sid ∈ p.store, sid < s.next
  refs : ∀ r e, s.idx r = some e → e.1.storeID < s.next

variable {s s' s₀ : RecvSt}

/-- A pull stays fresh when only its status changes, or its store to one below `next`. -/
theorem Fresh.set_pull (hf : Fresh s) {i : Nat} {p : Pull}
    (hp : ∀ sid ∈ p.store, sid < s.next) :
    ∀ q ∈ s.pulls.set i p, ∀ sid ∈ q.store, sid < s.next := fun q hq =>
  (List.mem_or_eq_of_mem_set hq).elim (hf.pulls q) fun h => h ▸ hp

theorem Fresh.store_of_get (hf : Fresh s) {i : Nat} {p : Pull} (hp : s.pulls[i]? = some p) :
    ∀ sid ∈ p.store, sid < s.next :=
  hf.pulls p (List.getElem?_mem hp)

/-- Taking a store id keeps every id in use below the next one. -/
theorem Fresh.succ (hf : Fresh s) : Fresh { s with next := s.next + 1 } :=
  ⟨fun e he => Nat.lt_succ_of_lt (hf.filled e he),
    fun q hq sid hsid => Nat.lt_succ_of_lt (hf.pulls q hq sid hsid),
    fun r e he => Nat.lt_succ_of_lt (hf.refs r e he)⟩

/-- A pull whose status alone changes keeps the pulls fresh. -/
theorem Fresh.set_status (hf : Fresh s) {i : Nat} {p : Pull} (hp : s.pulls[i]? = some p)
    (st : PullStatus) :
    ∀ q ∈ s.pulls.set i { p with status := st }, ∀ sid ∈ q.store, sid < s.next :=
  hf.set_pull fun sid h => hf.store_of_get hp sid h

theorem Fresh.step (hf : Fresh s) (h : RecvStep s s') : Fresh s' := by
  cases h with
  | request req =>
    have h1 := hf.succ
    dsimp only [handleRequest]
    split
    · refine ⟨h1.filled, fun q hq => ?_, fun r e he => ?_⟩
      · rcases List.mem_append.mp hq with hq | hq
        · exact h1.pulls q hq
        · rw [List.mem_singleton.mp hq]; nofun
      · rcases Index.setRef_entry ‹_› he with rfl | he
        · exact Nat.lt_succ_self _
        · exact h1.refs r e he
    · exact h1
  | openFail hp ho => exact ⟨hf.filled, hf.set_status hp _, hf.refs⟩
  | @opened i p hp ho =>
    refine ⟨hf.filled, hf.set_pull fun sid hsid => ?_, hf.refs⟩
    obtain ⟨e, he, rfl⟩ := Option.mem_map.mp hsid
    exact hf.refs _ e he
  | retrieve root size =>
    have h1 := hf.succ
    refine ⟨h1.filled, fun q hq => ?_, h1.refs⟩
    rcases List.mem_append.mp hq with hq | hq
    · exact h1.pulls q hq
    · rw [List.mem_singleton.mp hq]
      rintro sid ⟨⟩
      exact Nat.lt_succ_self _
  | @complete i p hp ht =>
    refine ⟨fun e he => ?_, hf.set_status hp _, hf.refs⟩
    simp only [List.mem_append, Option.mem_toList, Option.mem_map] at he
    rcases he with he | ⟨sid, hsid, rfl⟩
    · exact hf.filled e he
    · exact hf.store_of_get hp sid hsid
  | @register i p sid hp hc hs =>
    refine ⟨hf.filled, hf.set_status hp _, fun r e he => ?_⟩
    rcases loadRegister_entry he with rfl | he
    · exact hf.store_of_get hp sid hs
    · exact hf.refs r e he
  | fail hp ht =>
    refine ⟨hf.filled, hf.set_status hp _, fun r e he => ?_⟩
    obtain ⟨b, he⟩ := Index.dropRef_entry he
    exact hf.refs r (e.1, b) he

theorem RecvReachable.fresh (hs : RecvReachable s₀ s) (h₀ : Fresh s₀) : Fresh s := by
  induction hs with
  | init => exact h₀
  | step _ h ih => exact ih.step h

/-! ### A pull that never opens -/

/-- `handleRequest` for a root with no ref registers the provisional ref. -/
theorem handleRequest_of_none {req : Request} (hR : s.idx req.payloadCID = none) :
    handleRequest s req = { s with
      idx := Function.update s.idx req.payloadCID
        (some (⟨req.payloadCID, toInt64 req.size, s.next⟩, false)),
      next := s.next + 1,
      pulls := s.pulls ++
        [⟨.dispatch, req.payloadCID, toInt64 req.size, none, .opening⟩] } := by
  simp only [handleRequest,
    @Index.setRef_of_none s.idx ⟨req.payloadCID, toInt64 req.size, s.next⟩ hR]

/-- **A ref without blocks.**  From any reachable state where a root has no ref, a `Request`
for it whose pull channel fails to open ends with the stores unchanged, the one pull it
started ended without completing, and a live ref for the root naming a store that does not
hold it. -/
theorem request_open_fail (hs : RecvReachable s₀ s) (h₀ : Fresh s₀) {req : Request}
    (hR : s.idx req.payloadCID = none) :
    ∃ s', RecvReachable s₀ s' ∧ s'.filled = s.filled ∧
      (∀ p ∈ s'.pulls.drop s.pulls.length, p.status = .openFailed) ∧
      ∃ ref, s'.idx req.payloadCID = some (ref, false) ∧
        (ref.storeID, req.payloadCID) ∉ s'.filled := by
  have hr := hs.step (.request req)
  rw [handleRequest_of_none hR] at hr
  refine ⟨_, hr.step (@RecvStep.openFail _ s.pulls.length
    ⟨.dispatch, req.payloadCID, toInt64 req.size, none, .opening⟩ (by simp) rfl), rfl, ?_,
    ⟨req.payloadCID, toInt64 req.size, s.next⟩, by simp,
    fun h => Nat.lt_irrefl _ ((hs.fresh h₀).filled _ h)⟩
  simp [List.set_append]

/-- The node with no ref, no store holding a root and no pull. -/
def RecvSt.empty : RecvSt := ⟨fun _ => none, [], 0, []⟩

theorem RecvSt.fresh_empty : Fresh .empty :=
  ⟨fun _ h => absurd h (List.not_mem_nil _), fun _ h => absurd h (List.not_mem_nil _),
    fun _ _ h => Option.noConfusion h⟩

/-- A `Request` for root 1 reaching a fresh node whose pull channel fails to open: every
pull has ended, none completed and no ref existed, yet a live ref for the root remains and
its store does not hold the root. -/
theorem index_keeps_unbacked_ref :
    ∃ s, RecvReachable .empty s ∧ (∀ p ∈ s.pulls, p.ended ∧ p.status ≠ .finished) ∧
      ¬ RecvSt.empty.idx.Live ⟨1⟩ ∧ s.idx.Live ⟨1⟩ ∧
      ∀ ref b, s.idx ⟨1⟩ = some (ref, b) → (ref.storeID, ⟨1⟩) ∉ s.filled := by
  obtain ⟨s, hs, -, hp, ref, href, hfill⟩ :=
    @request_open_fail _ _ .init RecvSt.fresh_empty ⟨⟨1⟩, 5⟩ rfl
  refine ⟨s, hs, fun p hmem => ?_, by decide, ⟨ref, href⟩, fun ref' b h => ?_⟩
  · simp [hp p (by simpa [RecvSt.empty] using hmem), Pull.ended]
  · rw [href] at h
    cases h
    exact hfill

end HopExchange
