import HopExchange.Basic
import Mathlib.Logic.Function.Basic
import Mathlib.Data.List.Basic

/-!
# Payments — Push

`channel.mpoolPush` asks the chain for the sender's actor (`StateGetActor`), copies its
`Nonce` into the message, signs it and pushes it to the message pool.  The chain advances
an account's nonce only when it includes a message of that account whose nonce is the
current one.  `create` and `addFunds`, on any channels of one wallet, push through
`mpoolPush` in any interleaving with inclusions; a per-channel lock does not order two
channels.

The state is the nonce of every account and a ghost log of pushes and inclusions.

* `NonceInv.step`: every pushed message carries the number of messages of its sender
  included before the push.
* `push_nonces`: two messages pushed by one sender carry the same nonce exactly when no
  message of that sender was included between the two pushes.
-/

namespace HopExchange

/-- The fields of `filecoin.Message` that the builders set and the chain reads. -/
structure Message where
  to_ : Address
  from_ : Address
  value : Int
  method : Nat
  params : List Address
  nonce : Nat
  deriving DecidableEq, Repr

/-- Modelled from the spec: the `Create` message goes to the init actor with constructor
parameters `(from, to)` and the amount as value. -/
def createMessage (initActor from_ to_ : Address) (amt : Int) : Message :=
  ⟨initActor, from_, amt, 2, [from_, to_], 0⟩

/-- The message `addFunds` builds: to the channel, method 0, the amount as value. -/
def addFundsMessage (ch from_ : Address) (amt : Int) : Message :=
  ⟨ch, from_, amt, 0, [], 0⟩

/-- `channel.mpoolPush`, past gas estimation and signing: `msg.Nonce = act.Nonce`. -/
def mpoolPush (actorNonce : Address → Nat) (msg : Message) : Message :=
  { msg with nonce := actorNonce msg.from_ }

/-- What the chain saw: a push to the pool, or an inclusion in a block. -/
inductive ChainEvent where
  | push (m : Message)
  | inBlock (m : Message)
  deriving DecidableEq, Repr

/-- An inclusion of a message of `a`. -/
def ChainEvent.includes (a : Address) : ChainEvent → Bool
  | .inBlock m => m.from_ = a
  | .push _ => false

/-- The inclusions of messages of `a` in a log. -/
def inclusions (a : Address) (log : List ChainEvent) : Nat :=
  log.countP (ChainEvent.includes a)

/-- The actor nonces and the ghost log. -/
structure PushSt where
  nonce : Address → Nat
  log : List ChainEvent

/-- `mpoolPush` of `msg` in state `s`. -/
def PushSt.push (s : PushSt) (msg : Message) : PushSt :=
  { s with log := s.log ++ [.push (mpoolPush s.nonce msg)] }

/-- A `create` or an `addFunds` of wallet `from_` on any channel, or an inclusion. -/
inductive PushStep (initActor from_ : Address) : PushSt → PushSt → Prop where
  | create {s : PushSt} (to_ : Address) (amt : Int) :
      PushStep initActor from_ s (s.push (createMessage initActor from_ to_ amt))
  | addFunds {s : PushSt} (ch : Address) (amt : Int) :
      PushStep initActor from_ s (s.push (addFundsMessage ch from_ amt))
  | inBlock {s : PushSt} {m : Message} (hm : .push m ∈ s.log) (hn : m.nonce = s.nonce m.from_) :
      PushStep initActor from_ s
        ⟨Function.update s.nonce m.from_ (s.nonce m.from_ + 1), s.log ++ [.inBlock m]⟩

/-- The states from a chain whose actors have nonces `nonce₀` and an empty log. -/
inductive PushReachable (initActor from_ : Address) (nonce₀ : Address → Nat) : PushSt → Prop where
  | init : PushReachable initActor from_ nonce₀ ⟨nonce₀, []⟩
  | step {s s' : PushSt} :
      PushReachable initActor from_ nonce₀ s → PushStep initActor from_ s s' →
        PushReachable initActor from_ nonce₀ s'

/-- Each account's nonce counts its inclusions, and each push carries the count at its
time. -/
structure NonceInv (nonce₀ : Address → Nat) (s : PushSt) : Prop where
  actor : ∀ a, s.nonce a = nonce₀ a + inclusions a s.log
  pushed : ∀ l₁ m l₂, s.log = l₁ ++ .push m :: l₂ → m.nonce = nonce₀ m.from_ + inclusions m.from_ l₁

variable {initActor from_ : Address} {nonce₀ : Address → Nat} {s s' : PushSt}

@[simp] theorem inclusions_nil (a : Address) : inclusions a [] = 0 := rfl

@[simp] theorem inclusions_append (a : Address) (l₁ l₂ : List ChainEvent) :
    inclusions a (l₁ ++ l₂) = inclusions a l₁ + inclusions a l₂ :=
  List.countP_append _ _ _

@[simp] theorem inclusions_push (a : Address) (m : Message) (l : List ChainEvent) :
    inclusions a (.push m :: l) = inclusions a l := by
  simp [inclusions, ChainEvent.includes]

@[simp] theorem inclusions_inBlock (a : Address) (m : Message) (l : List ChainEvent) :
    inclusions a (.inBlock m :: l) = inclusions a l + if m.from_ = a then 1 else 0 := by
  by_cases h : m.from_ = a <;> simp [inclusions, ChainEvent.includes, h]

/-- A decomposition of a log with one more event: the new event, or one of the old log. -/
theorem eq_append_push_snoc {log l₁ l₂ : List ChainEvent} {e : ChainEvent} {m : Message}
    (h : log ++ [e] = l₁ ++ .push m :: l₂) :
    (log = l₁ ∧ e = .push m) ∨ ∃ l₂', log = l₁ ++ .push m :: l₂' := by
  rcases List.eq_nil_or_concat l₂ with rfl | ⟨l₂', x, rfl⟩
  · obtain ⟨h1, h2⟩ := List.append_inj' h rfl
    exact .inl ⟨h1, by simpa using h2⟩
  · rw [List.concat_eq_append, ← List.cons_append, ← List.append_assoc] at h
    exact .inr ⟨l₂', (List.append_inj' h rfl).1⟩

theorem NonceInv.step (hi : NonceInv nonce₀ s) (h : PushStep initActor from_ s s') :
    NonceInv nonce₀ s' := by
  cases h with
  | create | addFunds =>
      refine ⟨fun a => by simpa [PushSt.push] using hi.actor a, fun l₁ m l₂ hl => ?_⟩
      rcases eq_append_push_snoc hl with ⟨rfl, he⟩ | ⟨l₂', hl'⟩
      · cases he
        simp [mpoolPush, hi.actor]
      · exact hi.pushed l₁ m l₂' hl'
  | @inBlock m hm hn =>
      refine ⟨fun a => ?_, fun l₁ m' l₂ hl => ?_⟩
      · by_cases ha : a = m.from_
        · subst ha
          simp [hi.actor, inclusions, ChainEvent.includes]
          omega
        · simp [Function.update_noteq ha, hi.actor, inclusions, ChainEvent.includes, Ne.symm ha]
      · rcases eq_append_push_snoc hl with ⟨-, he⟩ | ⟨l₂', hl'⟩
        · cases he
        · exact hi.pushed l₁ m' l₂' hl'

theorem PushReachable.nonceInv (hs : PushReachable initActor from_ nonce₀ s) :
    NonceInv nonce₀ s := by
  induction hs with
  | init => exact ⟨fun a => by simp, fun l₁ m l₂ h => by simp at h⟩
  | step _ h ih => exact ih.step h

/-- **The nonces of one sender.**  Every message pushed carries its sender's starting nonce
plus the number of the sender's messages included before the push; so two messages pushed by
one sender carry the same nonce exactly when no message of that sender was included between
the two pushes. -/
theorem push_nonces (hs : PushReachable initActor from_ nonce₀ s) :
    (∀ l₁ m l₂, s.log = l₁ ++ .push m :: l₂ → m.nonce = nonce₀ m.from_ + inclusions m.from_ l₁) ∧
    ∀ (l₁ l₂ l₃ : List ChainEvent) (m₁ m₂ : Message),
      s.log = l₁ ++ .push m₁ :: (l₂ ++ .push m₂ :: l₃) → m₁.from_ = m₂.from_ →
      (m₁.nonce = m₂.nonce ↔ ∀ e ∈ l₂, e.includes m₁.from_ = false) := by
  have hi := hs.nonceInv
  refine ⟨hi.pushed, fun l₁ l₂ l₃ m₁ m₂ hl hf => ?_⟩
  rw [hi.pushed l₁ m₁ _ hl, hi.pushed (l₁ ++ .push m₁ :: l₂) m₂ l₃ (by simp [hl]), ← hf]
  simp [inclusions, List.countP_eq_zero, ChainEvent.includes]

/-- A `create` pushed after the inclusion of an earlier `create` of the wallet gets the
next nonce. -/
theorem push_nonces_after_inclusion :
    ∃ s, PushReachable ⟨0⟩ ⟨1⟩ (fun _ => 0) s ∧ ∃ m₁ m₂ : Message,
      s.log = [.push m₁, .inBlock m₁, .push m₂] ∧ m₁.from_ = m₂.from_ ∧ m₁.nonce ≠ m₂.nonce := by
  let m₁ := mpoolPush (fun _ => 0) (createMessage ⟨0⟩ ⟨1⟩ ⟨2⟩ 10)
  have h1 : PushReachable ⟨0⟩ ⟨1⟩ (fun _ => 0) _ := .step .init (.create ⟨2⟩ 10)
  have h2 := h1.step (@PushStep.inBlock _ _ _ m₁ (by simp [PushSt.push]) rfl)
  have h3 := h2.step (.create ⟨3⟩ 10)
  refine ⟨_, h3, m₁, _, rfl, rfl, fun h => ?_⟩
  have := ((push_nonces h3).2 [] [.inBlock m₁] [] m₁ _ rfl rfl).mp h
  simp [ChainEvent.includes] at this

/-- Two `create`s of one wallet pushed before any inclusion carry the same nonce. -/
theorem push_same_nonce :
    ∃ s, PushReachable ⟨0⟩ ⟨1⟩ (fun _ => 0) s ∧ ∃ l₁ m₁ l₂ m₂ l₃,
      s.log = l₁ ++ .push m₁ :: (l₂ ++ .push m₂ :: l₃) ∧ m₁.from_ = m₂.from_ ∧
        m₁.nonce = m₂.nonce := by
  have h2 : PushReachable ⟨0⟩ ⟨1⟩ (fun _ => 0) _ :=
    (PushReachable.step .init (.create ⟨2⟩ 10)).step (.create ⟨3⟩ 10)
  exact ⟨_, h2, [], _, [], _, [], rfl, rfl, rfl⟩

end HopExchange
