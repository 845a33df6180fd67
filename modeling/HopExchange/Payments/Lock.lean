import Mathlib.Logic.Function.Basic

/-!
# Payments — Lock

`multiLock`, the lock of one payment channel.  `Lock()` takes the channel's own mutex
`chanLock`, then the read side of `globalLock`, which all channels share; `Unlock()` releases
them the other way round.  The write side of `globalLock` is taken by the channel manager when
it adds a channel (outside the repository): the writers here.  Both locks behave as Go's: a
`sync.Mutex` has one holder, and `RLock` of a `sync.RWMutex` waits while a writer holds the
lock or waits for it; the writer's `Lock` first takes the writer mutex, which shuts new readers
out, then waits for the readers inside to leave.

Who holds a mutex is read off where the threads are: a thread holds its channel's `chanLock`
from `chanLock.Lock()` to `chanLock.Unlock()`, the readers of `globalLock` are the threads
between `Lock()` and `Unlock()`, and a writer holds the writer mutex from its `Lock` to its
`Unlock`.  `LockMove` is one move of a thread or writer inside a lock operation; `LockStep`
also lets an idle thread or writer start one.

* `LockInv.step` / `LockReachable.inv`: at most one thread of a channel holds its `chanLock`,
  at most one writer holds the writer mutex, and no thread is inside `Lock()`..`Unlock()`
  while a writer holds the write side.
* `multiLock_exclusive`: the invariant over every run.
* `multiLock_deadlock_free`: in every state, while a thread or a writer is inside a lock
  operation, one of them can move; a thread takes no other lock between `Lock()` and
  `Unlock()`.
-/

namespace HopExchange

/-- Where a thread is in `multiLock.Lock()` .. `multiLock.Unlock()`. -/
inductive LockPc where
  | idle
  /-- In `Lock()`, waiting for `chanLock`. -/
  | chanWait
  /-- In `Lock()`, holding `chanLock`, waiting in `globalLock.RLock()`. -/
  | readWait
  /-- Between `Lock()` and `Unlock()`. -/
  | locked
  /-- In `Unlock()`: `globalLock.RUnlock()` is done, `chanLock.Unlock()` is not. -/
  | unlocking
  deriving DecidableEq, Repr

/-- The thread holds its channel's `chanLock`. -/
def LockPc.ownsChan : LockPc → Bool
  | .readWait | .locked | .unlocking => true
  | _ => false

/-- Where a writer of `globalLock` is. -/
inductive WriterPc where
  | idle
  /-- In `Lock()`, waiting for the writer mutex. -/
  | wWait
  /-- Holding the writer mutex, waiting for the readers inside to leave. -/
  | drain
  /-- Holding the write side. -/
  | writing
  deriving DecidableEq, Repr

/-- The writer holds the writer mutex, so that `RLock` waits. -/
def WriterPc.holdsW : WriterPc → Bool
  | .drain | .writing => true
  | _ => false

/-- The threads, each on the channel `chanOf t`, and the writers. -/
structure LockSt where
  thread : Nat → LockPc
  writer : Nat → WriterPc

/-- Nobody is in a lock operation. -/
def LockSt.init : LockSt := ⟨fun _ => .idle, fun _ => .idle⟩

/-- One move inside a lock operation. -/
inductive LockMove (chanOf : Nat → Nat) : LockSt → LockSt → Prop where
  /-- `chanLock.Lock()` returns: no thread of the channel holds it. -/
  | chanLock {s : LockSt} {t : Nat} (hp : s.thread t = .chanWait)
      (hc : ∀ t', chanOf t' = chanOf t → (s.thread t').ownsChan = false) :
      LockMove chanOf s { s with thread := Function.update s.thread t .readWait }
  /-- `globalLock.RLock()` returns: no writer holds the writer mutex. -/
  | rLock {s : LockSt} {t : Nat} (hp : s.thread t = .readWait)
      (hw : ∀ w, (s.writer w).holdsW = false) :
      LockMove chanOf s { s with thread := Function.update s.thread t .locked }
  /-- `globalLock.RUnlock()`. -/
  | rUnlock {s : LockSt} {t : Nat} (hp : s.thread t = .locked) :
      LockMove chanOf s { s with thread := Function.update s.thread t .unlocking }
  /-- `chanLock.Unlock()`. -/
  | chanUnlock {s : LockSt} {t : Nat} (hp : s.thread t = .unlocking) :
      LockMove chanOf s { s with thread := Function.update s.thread t .idle }
  /-- The writer takes the writer mutex: no other writer holds it. -/
  | wLock {s : LockSt} {w : Nat} (hp : s.writer w = .wWait)
      (hw : ∀ w', (s.writer w').holdsW = false) :
      LockMove chanOf s { s with writer := Function.update s.writer w .drain }
  /-- The readers inside have left: the writer holds the write side. -/
  | drained {s : LockSt} {w : Nat} (hp : s.writer w = .drain) (hr : ∀ t, s.thread t ≠ .locked) :
      LockMove chanOf s { s with writer := Function.update s.writer w .writing }
  /-- `globalLock.Unlock()`. -/
  | unlock {s : LockSt} {w : Nat} (hp : s.writer w = .writing) :
      LockMove chanOf s { s with writer := Function.update s.writer w .idle }

/-- A move, or an idle thread or writer calling `Lock()`. -/
inductive LockStep (chanOf : Nat → Nat) : LockSt → LockSt → Prop where
  | lock {s : LockSt} {t : Nat} (hp : s.thread t = .idle) :
      LockStep chanOf s { s with thread := Function.update s.thread t .chanWait }
  | writerLock {s : LockSt} {w : Nat} (hp : s.writer w = .idle) :
      LockStep chanOf s { s with writer := Function.update s.writer w .wWait }
  | move {s s' : LockSt} (h : LockMove chanOf s s') : LockStep chanOf s s'

/-- The states of the threads and writers in some interleaving. -/
inductive LockReachable (chanOf : Nat → Nat) : LockSt → Prop where
  | init : LockReachable chanOf .init
  | step {s s' : LockSt} : LockReachable chanOf s → LockStep chanOf s s' →
      LockReachable chanOf s'

/-- What holds in every reachable state. -/
structure LockInv (chanOf : Nat → Nat) (s : LockSt) : Prop where
  /-- At most one thread of a channel holds its `chanLock`. -/
  chan : ∀ t t', t ≠ t' → chanOf t = chanOf t' →
    (s.thread t).ownsChan = true → (s.thread t').ownsChan = false
  /-- At most one writer holds the writer mutex. -/
  writers : ∀ w w', w ≠ w' → (s.writer w).holdsW = true → (s.writer w').holdsW = false
  /-- A writer holding the write side shuts every thread out of its critical section. -/
  writing : ∀ w t, s.writer w = .writing → s.thread t ≠ .locked

variable {chanOf : Nat → Nat} {s s' : LockSt}

theorem LockInv.init : LockInv chanOf .init where
  chan _ _ _ _ h := nomatch h
  writers _ _ _ h := nomatch h
  writing _ _ h := nomatch h

/-- An update at `t` keeps "no two related indices both own" when the new value owns only if
no other index related to `t` owns. -/
theorem excl_update {α : Type} {f : Nat → α} {own : α → Bool} {R : Nat → Nat → Prop}
    (hR : ∀ a b, R a b → R b a)
    (hi : ∀ a b, a ≠ b → R a b → own (f a) = true → own (f b) = false) {t : Nat} {x : α}
    (hx : own x = true → ∀ b, b ≠ t → R t b → own (f b) = false) :
    ∀ a b, a ≠ b → R a b → own (Function.update f t x a) = true →
      own (Function.update f t x b) = false := by
  intro a b hab hr ha
  rcases eq_or_ne a t with rfl | hat
  · rw [Function.update_same] at ha
    rw [Function.update_noteq (Ne.symm hab)]
    exact hx ha b (Ne.symm hab) hr
  · rw [Function.update_noteq hat] at ha
    rcases eq_or_ne b t with rfl | hbt
    · rw [Function.update_same]
      cases hb : own x
      · rfl
      · simpa [ha] using hx hb a hat (hR _ _ hr)
    · rw [Function.update_noteq hbt]
      exact hi a b hab hr ha

/-- A thread's move keeps the channels' exclusion when it takes `chanLock` only while no
other thread of its channel holds it. -/
theorem chan_update {t : Nat} {pc : LockPc} (hi : LockInv chanOf s)
    (hx : pc.ownsChan = true → ∀ b, b ≠ t → chanOf t = chanOf b → (s.thread b).ownsChan = false) :
    ∀ a b, a ≠ b → chanOf a = chanOf b →
      (Function.update s.thread t pc a).ownsChan = true →
      (Function.update s.thread t pc b).ownsChan = false :=
  excl_update (fun _ _ => Eq.symm) hi.chan hx

/-- A thread's move that takes no `chanLock` keeps the channels' exclusion. -/
theorem chan_keep {t : Nat} {pc : LockPc} (hi : LockInv chanOf s)
    (hpc : pc.ownsChan = true → (s.thread t).ownsChan = true) :
    ∀ a b, a ≠ b → chanOf a = chanOf b →
      (Function.update s.thread t pc a).ownsChan = true →
      (Function.update s.thread t pc b).ownsChan = false :=
  chan_update hi fun h b hb hc => hi.chan t b hb.symm hc (hpc h)

/-- A writer's move keeps the writers' exclusion when it takes the writer mutex only while no
other writer holds it. -/
theorem writers_update {w : Nat} {pc : WriterPc} (hi : LockInv chanOf s)
    (hx : pc.holdsW = true → ∀ b, b ≠ w → (s.writer b).holdsW = false) :
    ∀ a b, a ≠ b → (Function.update s.writer w pc a).holdsW = true →
      (Function.update s.writer w pc b).holdsW = false := fun a b hab =>
  @excl_update _ s.writer WriterPc.holdsW (fun _ _ => True) (fun _ _ _ => trivial)
    (fun a b h _ => hi.writers a b h) w pc (fun h b hb _ => hx h b hb) a b hab trivial

/-- A writer's move that takes no writer mutex keeps the writers' exclusion. -/
theorem writers_keep {w : Nat} {pc : WriterPc} (hi : LockInv chanOf s)
    (hpc : pc.holdsW = true → (s.writer w).holdsW = true) :
    ∀ a b, a ≠ b → (Function.update s.writer w pc a).holdsW = true →
      (Function.update s.writer w pc b).holdsW = false :=
  writers_update hi fun h b hb => hi.writers w b hb.symm (hpc h)

/-- A thread's move out of, or not into, the critical section keeps writers alone. -/
theorem writing_thread {t : Nat} {pc : LockPc} (hi : LockInv chanOf s)
    (hpc : pc = .locked → ∀ w, s.writer w ≠ .writing) :
    ∀ w a, s.writer w = .writing → Function.update s.thread t pc a ≠ .locked := by
  intro w a hw
  by_cases hat : a = t
  · subst hat
    rw [Function.update_same]
    exact fun h => hpc h w hw
  · rw [Function.update_noteq hat]
    exact hi.writing w a hw

/-- A writer's move into the write side only once no thread is in its critical section. -/
theorem writing_writer {w : Nat} {pc : WriterPc} (hi : LockInv chanOf s)
    (hpc : pc = .writing → ∀ t, s.thread t ≠ .locked) :
    ∀ a t, Function.update s.writer w pc a = .writing → s.thread t ≠ .locked := by
  intro a t h
  by_cases haw : a = w
  · subst haw
    rw [Function.update_same] at h
    exact hpc h t
  · rw [Function.update_noteq haw] at h
    exact hi.writing a t h

theorem LockInv.move (hi : LockInv chanOf s) (h : LockMove chanOf s s') : LockInv chanOf s' := by
  cases h with
  | chanLock hp hc =>
    exact ⟨chan_update hi fun _ b _ hb => hc b hb.symm, hi.writers, writing_thread hi nofun⟩
  | rLock hp hw =>
    refine ⟨chan_keep hi (by simp [hp, LockPc.ownsChan]), hi.writers,
      writing_thread hi fun _ w h => ?_⟩
    simpa [h, WriterPc.holdsW] using hw w
  | rUnlock hp =>
    exact ⟨chan_keep hi (by simp [hp, LockPc.ownsChan]), hi.writers, writing_thread hi nofun⟩
  | chanUnlock hp =>
    exact ⟨chan_keep hi (by simp [LockPc.ownsChan]), hi.writers, writing_thread hi nofun⟩
  | wLock hp hw =>
    exact ⟨hi.chan, writers_update hi fun _ b _ => hw b, writing_writer hi nofun⟩
  | drained hp hr =>
    exact ⟨hi.chan, writers_keep hi (by simp [hp, WriterPc.holdsW]), writing_writer hi fun _ => hr⟩
  | unlock hp =>
    exact ⟨hi.chan, writers_keep hi (by simp [WriterPc.holdsW]), writing_writer hi nofun⟩

theorem LockInv.step (hi : LockInv chanOf s) (h : LockStep chanOf s s') : LockInv chanOf s' := by
  cases h with
  | lock hp =>
    exact ⟨chan_keep hi (by simp [LockPc.ownsChan]), hi.writers, writing_thread hi nofun⟩
  | writerLock hp =>
    exact ⟨hi.chan, writers_keep hi (by simp [WriterPc.holdsW]), writing_writer hi nofun⟩
  | move h => exact hi.move h

theorem LockReachable.inv (h : LockReachable chanOf s) : LockInv chanOf s := by
  induction h with
  | init => exact .init
  | step _ hs ih => exact ih.step hs

/-- **`multiLock` excludes.**  In every interleaving of threads taking and releasing the
locks of their channels and of writers of `globalLock`: two threads of one channel never both
hold its `chanLock` (so never both run between `Lock()` and `Unlock()`), two writers never
both hold the writer mutex, and no thread runs between `Lock()` and `Unlock()` while a writer
holds the write side. -/
theorem multiLock_exclusive (hs : LockReachable chanOf s) :
    (∀ t t', t ≠ t' → chanOf t = chanOf t' →
      (s.thread t).ownsChan = true → (s.thread t').ownsChan = false) ∧
    (∀ w w', w ≠ w' → (s.writer w).holdsW = true → (s.writer w').holdsW = false) ∧
    (∀ w t, s.writer w = .writing → s.thread t ≠ .locked) :=
  let hi := hs.inv
  ⟨hi.chan, hi.writers, hi.writing⟩

/-! ### Deadlock freedom -/

theorem move_of_locked {t : Nat} (h : s.thread t = .locked ∨ s.thread t = .unlocking) :
    ∃ s', LockMove chanOf s s' :=
  h.elim (fun h => ⟨_, .rUnlock h⟩) fun h => ⟨_, .chanUnlock h⟩

/-- A writer holding the writer mutex, or a thread inside it, can move. -/
theorem move_of_holdsW {w : Nat} (h : (s.writer w).holdsW = true) :
    ∃ s', LockMove chanOf s s' := by
  cases hw : s.writer w with
  | writing => exact ⟨_, .unlock hw⟩
  | drain =>
    by_cases hr : ∃ t, s.thread t = .locked
    · obtain ⟨t, ht⟩ := hr
      exact move_of_locked (.inl ht)
    · exact ⟨_, .drained hw (not_exists.mp hr)⟩
  | idle | wWait => simp [hw, WriterPc.holdsW] at h

/-- A thread holding its channel's `chanLock` can move, or lets one move. -/
theorem move_of_ownsChan {t : Nat} (h : (s.thread t).ownsChan = true) :
    ∃ s', LockMove chanOf s s' := by
  cases ht : s.thread t with
  | readWait =>
    by_cases hw : ∃ w, (s.writer w).holdsW = true
    · obtain ⟨w, hw⟩ := hw
      exact move_of_holdsW hw
    · exact ⟨_, .rLock ht fun w => by simpa using not_exists.mp hw w⟩
  | locked => exact move_of_locked (.inl ht)
  | unlocking => exact move_of_locked (.inr ht)
  | idle | chanWait => simp [ht, LockPc.ownsChan] at h

/-- **`multiLock` is deadlock free.**  In every state, while some thread or writer is inside
a lock operation, some thread or writer can move.  A thread waiting for `chanLock` waits for
the thread of its channel that holds it; that one, waiting in `RLock`, waits for the writer
that holds the writer mutex; that one, draining, waits for the threads between `Lock()` and
`Unlock()`, which can leave. -/
theorem multiLock_deadlock_free (h : (∃ t, s.thread t ≠ .idle) ∨ ∃ w, s.writer w ≠ .idle) :
    ∃ s', LockMove chanOf s s' := by
  rcases h with ⟨t, ht⟩ | ⟨w, hw⟩
  · cases hpc : s.thread t with
    | idle => exact absurd hpc ht
    | chanWait =>
      by_cases ho : ∃ t', chanOf t' = chanOf t ∧ (s.thread t').ownsChan = true
      · obtain ⟨t', -, ho⟩ := ho
        exact move_of_ownsChan ho
      · exact ⟨_, .chanLock hpc fun t' hc => by simpa [hc] using not_exists.mp ho t'⟩
    | readWait | locked | unlocking =>
      exact move_of_ownsChan (show (s.thread t).ownsChan = true by simp [hpc, LockPc.ownsChan])
  · cases hpc : s.writer w with
    | idle => exact absurd hpc hw
    | wWait =>
      by_cases ho : ∃ w', (s.writer w').holdsW = true
      · obtain ⟨w', ho⟩ := ho
        exact move_of_holdsW ho
      · exact ⟨_, .wLock hpc fun w' => by simpa using not_exists.mp ho w'⟩
    | drain | writing =>
      exact move_of_holdsW (show (s.writer w).holdsW = true by simp [hpc, WriterPc.holdsW])

/-- Thread `0` holds the `chanLock` of its channel and waits in `RLock`, held back by a
writer that holds the writer mutex and drains: some thread or writer can move. -/
theorem multiLock_deadlock_free_drain :
    ∃ s, LockReachable (fun _ => 0) s ∧ s.thread 0 = .readWait ∧ s.writer 0 = .drain ∧
      ∃ s', LockMove (fun _ => 0) s s' := by
  have h1 : LockReachable (fun _ => 0) _ := .step .init (@LockStep.lock _ _ 0 rfl)
  have h2 := h1.step (.move (@LockMove.chanLock _ _ 0 rfl fun t' _ => by
    rcases eq_or_ne t' 0 with rfl | h <;> simp [*, LockSt.init, LockPc.ownsChan]))
  have h3 := h2.step (@LockStep.writerLock _ _ 0 rfl)
  have h4 := h3.step (.move (@LockMove.wLock _ _ 0 rfl fun w => by
    rcases eq_or_ne w 0 with rfl | h <;> simp [*, LockSt.init, WriterPc.holdsW]))
  exact ⟨_, h4, rfl, rfl, multiLock_deadlock_free (.inl ⟨0, nofun⟩)⟩

end HopExchange
