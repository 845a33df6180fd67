import HopExchange.Basic
import Mathlib.Logic.Function.Basic

/-!
# Replication — Authorize

`Replication.pulls` maps a root to the set of peers allowed to pull it without payment.
`AuthorizePull` adds a peer to the set of a root, creating the set on first use;
`ValidatePull` looks the set of `baseCid` up and accepts a receiver it holds.  Nothing in
the repository removes a peer or a root, so an authorization holds for the rest of a run.

* `authorized_authorizeAll`: after any sequence of `AuthorizePull` calls, a peer is
  authorized for a root exactly when one of the calls named the pair.
* `validatePull_authorizeAll`: from the empty map of `NewReplication`, `ValidatePull`
  accepts exactly those pairs, and its two errors are told apart by whether any call named
  the root.  The voucher and the selector are not read.
-/

namespace HopExchange

/-- `Replication.pulls`; `none` is a root with no set. -/
abbrev Pulls := Cid → Option (List PeerId)

/-- The map `NewReplication` starts with. -/
def Pulls.empty : Pulls := fun _ => none

/-- `Replication.AuthorizePull`. -/
def authorizePull (pulls : Pulls) (k : Cid) (p : PeerId) : Pulls :=
  match pulls k with
  | some set => Function.update pulls k (some (set.insert p))
  | none => Function.update pulls k (some [p])

/-- `AuthorizePull` called once per pair of `calls`, in order. -/
def authorizeAll (pulls : Pulls) (calls : List (Cid × PeerId)) : Pulls :=
  calls.foldl (fun m c => authorizePull m c.1 c.2) pulls

/-- `Replication.ValidatePull`; its `VoucherResult` is always `nil`. -/
def validatePull (pulls : Pulls) (receiver : PeerId) (_voucher : Voucher) (baseCid : Cid)
    (_selector : Selector) : Except String Unit :=
  match pulls baseCid with
  | none => .error "unknown CID"
  | some set => if receiver ∈ set then .ok () else .error "not authorized"

/-- `Replication.ValidatePush`. -/
def validatePush (_sender : PeerId) (_voucher : Voucher) (_baseCid : Cid)
    (_selector : Selector) : Except String Unit :=
  .error "no pushed accepted"

/-- `p` is in the set of `k`. -/
def Authorized (pulls : Pulls) (k : Cid) (p : PeerId) : Prop :=
  ∃ set, pulls k = some set ∧ p ∈ set

instance (pulls : Pulls) (k : Cid) (p : PeerId) : Decidable (Authorized pulls k p) :=
  match h : pulls k with
  | none => isFalse fun ⟨_, hs, _⟩ => by simp [h] at hs
  | some set => decidable_of_iff (p ∈ set) (by simp [Authorized, h])

variable {pulls : Pulls} {k k' : Cid} {p p' : PeerId} {v : Voucher} {s : Selector}

/-- Both branches of `AuthorizePull` store the old set, or the empty one, with `p` added. -/
theorem authorizePull_eq :
    authorizePull pulls k p = Function.update pulls k (some (((pulls k).getD []).insert p)) := by
  unfold authorizePull
  cases pulls k <;> rfl

/-- One call adds one pair and keeps the others. -/
theorem authorized_authorizePull :
    Authorized (authorizePull pulls k p) k' p' ↔ (k' = k ∧ p' = p) ∨ Authorized pulls k' p' := by
  by_cases hk : k' = k
  · subst hk
    cases h : pulls k' <;> simp [Authorized, authorizePull_eq, h, List.mem_insert_iff]
  · simp [Authorized, authorizePull_eq, hk]

/-- A root has a set once some call named it. -/
theorem authorizePull_none : authorizePull pulls k p k' = none ↔ k' ≠ k ∧ pulls k' = none := by
  by_cases hk : k' = k
  · subst hk
    simp [authorizePull_eq]
  · simp [authorizePull_eq, hk]

theorem authorized_authorizeAll (calls : List (Cid × PeerId)) :
    Authorized (authorizeAll pulls calls) k p ↔ (k, p) ∈ calls ∨ Authorized pulls k p := by
  induction calls generalizing pulls with
  | nil => simp [authorizeAll]
  | cons c cs ih =>
      simp only [authorizeAll, List.foldl_cons] at ih ⊢
      rw [ih, authorized_authorizePull]
      obtain ⟨c1, c2⟩ := c
      simp only [List.mem_cons, Prod.mk.injEq]
      tauto

theorem authorizeAll_none (calls : List (Cid × PeerId)) :
    authorizeAll pulls calls k = none ↔ (∀ p, (k, p) ∉ calls) ∧ pulls k = none := by
  induction calls generalizing pulls with
  | nil => simp [authorizeAll]
  | cons c cs ih =>
      simp only [authorizeAll, List.foldl_cons] at ih ⊢
      rw [ih, authorizePull_none]
      obtain ⟨c1, c2⟩ := c
      simp only [List.mem_cons, Prod.mk.injEq, not_or]
      constructor
      · rintro ⟨hcs, hk, hp⟩
        exact ⟨fun q => ⟨fun h => hk h.1, hcs q⟩, hp⟩
      · rintro ⟨hq, hp⟩
        exact ⟨fun q => (hq q).2, fun h => (hq c2).1 ⟨h, rfl⟩, hp⟩

theorem validatePull_ok : validatePull pulls p v k s = .ok () ↔ Authorized pulls k p := by
  unfold validatePull Authorized
  cases h : pulls k <;> simp [h]

theorem validatePull_unknown :
    validatePull pulls p v k s = .error "unknown CID" ↔ pulls k = none := by
  unfold validatePull
  cases h : pulls k <;> simp [h]
  split <;> simp

theorem validatePull_not_authorized :
    validatePull pulls p v k s = .error "not authorized" ↔
      (pulls k).isSome ∧ ¬ Authorized pulls k p := by
  unfold validatePull Authorized
  cases h : pulls k <;> simp [h]

/-- **ValidatePull after any history.**  From the empty map of `NewReplication` and any
sequence of `AuthorizePull` calls, `ValidatePull` accepts `receiver` for `baseCid` exactly
when a call named that pair, whatever the voucher; it answers `unknown CID` when no call
named the root and `not authorized` when calls named the root but not the receiver. -/
theorem validatePull_authorizeAll (calls : List (Cid × PeerId)) (receiver : PeerId)
    (voucher : Voucher) (baseCid : Cid) (sel : Selector) :
    (validatePull (authorizeAll .empty calls) receiver voucher baseCid sel = .ok () ↔
      (baseCid, receiver) ∈ calls) ∧
    (validatePull (authorizeAll .empty calls) receiver voucher baseCid sel =
      .error "unknown CID" ↔ ∀ p, (baseCid, p) ∉ calls) ∧
    (validatePull (authorizeAll .empty calls) receiver voucher baseCid sel =
      .error "not authorized" ↔ (∃ p, (baseCid, p) ∈ calls) ∧ (baseCid, receiver) ∉ calls) := by
  have hnone : ¬ Authorized Pulls.empty baseCid receiver := by simp [Authorized, Pulls.empty]
  have hsome : (authorizeAll .empty calls baseCid).isSome ↔ ∃ p, (baseCid, p) ∈ calls := by
    rw [← not_iff_not, Option.not_isSome_iff_eq_none, authorizeAll_none]
    simp [Pulls.empty]
  refine ⟨?_, ?_, ?_⟩
  · rw [validatePull_ok, authorized_authorizeAll]
    simp [hnone]
  · rw [validatePull_unknown, authorizeAll_none]
    simp [Pulls.empty]
  · rw [validatePull_not_authorized, authorized_authorizeAll, hsome]
    simp [hnone]

/-- `ValidatePull` accepts a receiver authorized for `baseCid` that presents a `Request` for
another root. -/
theorem validatePull_accepts_other_root :
    ¬ ∀ (calls : List (Cid × PeerId)) (receiver : PeerId) (voucher : Voucher) (baseCid : Cid),
      validatePull (authorizeAll .empty calls) receiver voucher baseCid .all = .ok () ↔
        (∃ r, voucher = .request r ∧ r.payloadCID = baseCid) ∧ (baseCid, receiver) ∈ calls := by
  intro h
  obtain ⟨⟨r, hr, hc⟩, -⟩ :=
    (h [(⟨1⟩, ⟨7⟩)] ⟨7⟩ (.request ⟨⟨2⟩, 0⟩) ⟨1⟩).mp rfl
  cases hr
  cases hc

end HopExchange
