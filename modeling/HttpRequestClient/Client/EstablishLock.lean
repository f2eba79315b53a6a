import HttpRequestClient.Client.Pool
import HttpRequestClient.Lib.Slots
import Mathlib.Data.List.Dedup
import Mathlib.Data.List.Perm.Subperm

/-!
# The locks under which sessions are established

`handleSession` looks for a session and makes one under a lock of its target.
The locks are entries of a table: `acquireEstablishLock` finds or takes an
entry and counts itself in it under the mutex of the table, and only then
waits for the lock; `releaseEstablishLock` unlocks first and gives up its
reference in a second section, where the last one frees the entry.

A thread between these sections holds nothing but a pointer to the entry.
`LocksSound` is what keeps the pointer good: an entry counts every thread that
points to it, and no entry of another key takes its place before.

* `runLocks_sound` says so for all runs in which a thread that comes finds
  fewer than `MAX_SESSIONS` keys in use, and what follows for the mutexes.
* `refCount_ne_holdsOrAwaits` is the run that shows why the count is not the
  number of the threads that hold the lock or wait for it.

An entry is `none` when its `inUse` is zero.  `locked` is the state of its
mutex.
-/

namespace HttpRequestClient.Client

open Runs

structure EstablishLock where
  key : Bytes
  locked : Bool
  refCount : Int
  deriving Repr, DecidableEq

/-- Where a thread is in `handleSession`, with the index of its entry and the
key that it asked for. -/
inductive LockPhase where
  | idle
  /-- `acquireEstablishLock` has left the table and waits for the lock. -/
  | waiting (i : Nat) (key : Bytes)
  | holding (i : Nat) (key : Bytes)
  /-- `releaseEstablishLock` has unlocked and not entered the table. -/
  | unlocked (i : Nat) (key : Bytes)
  /-- The table was full. -/
  | waitingFallback (key : Bytes)
  | holdingFallback (key : Bytes)
  deriving Repr, DecidableEq

structure EstablishLocks where
  slots : List (Option EstablishLock)
  fallbackLocked : Bool
  threads : List LockPhase
  deriving Repr, DecidableEq

/-- What is done to the mutex of an entry besides locking it. -/
inductive MutexCall where
  | init (i : Nat)
  | destroy (i : Nat)
  deriving Repr, DecidableEq

def MutexCall.slot : MutexCall → Nat
  | .init i => i
  | .destroy i => i

inductive LockEvent where
  /-- The section of `acquireEstablishLock` under the mutex of the table. -/
  | acquire (t : Nat) (target : Target) (forceHttp11 : Bool)
  /-- A thread that waits gets the lock. -/
  | lock (t : Nat)
  /-- The thread unlocks its entry, or the fallback. -/
  | unlock (t : Nat)
  /-- The section of `releaseEstablishLock` under the mutex of the table. -/
  | drop (t : Nat)
  deriving Repr, DecidableEq

def flag (b : Bool) : Bytes := ascii (if b then "1" else "0")

/-- The key of a target, cut to the 2048 bytes of the buffer. -/
def buildSessionKey (target : Target) (forceHttp11 : Bool) : Bytes :=
  (target.scheme ++ ascii "://" ++ target.host ++ ascii ":" ++ target.port ++ ascii "#" ++
    target.proxy.scheme ++ ascii "://" ++ target.proxy.host ++ ascii ":" ++ target.proxy.port ++
    ascii "@" ++ target.proxy.authorization ++ ascii "|nb=" ++ flag target.nonBlocking ++
    ascii "|h1=" ++ flag forceHttp11).take 2047

def initEstablishLocks (threads : Nat) : EstablishLocks where
  slots := List.replicate MAX_SESSIONS none
  fallbackLocked := false
  threads := List.replicate threads .idle

namespace EstablishLocks

variable (state : EstablishLocks)

def setThread (t : Nat) (phase : LockPhase) : EstablishLocks :=
  { state with threads := state.threads.set t phase }

def setSlot (i : Nat) (slot : Option EstablishLock) : EstablishLocks :=
  { state with slots := state.slots.set i slot }

/-- The entry of a key. -/
def findSlot (key : Bytes) : Option Nat :=
  state.slots.findIdx? fun slot => slot.any fun entry => entry.key = key

/-- The first entry that is not in use. -/
def freeIdx : Option Nat := state.slots.findIdx? Option.isNone

/-- Count a thread that goes on to wait for the lock of an entry. -/
def join (t i : Nat) (entry : EstablishLock) : EstablishLocks :=
  (state.setSlot i (some { entry with refCount := entry.refCount + 1 })).setThread t
    (.waiting i entry.key)

def acquireEstablishLock (t : Nat) (key : Bytes) : EstablishLocks × List MutexCall :=
  match state.findSlot key with
  | some i =>
    match state.slots[i]?.join with
    | some entry => (state.join t i entry, [])
    | none => (state, [])
  | none =>
    match state.freeIdx with
    | some i => (state.join t i ⟨key, false, 0⟩, [.init i])
    | none => (state.setThread t (.waitingFallback key), [])

/-- The second section of `releaseEstablishLock`. -/
def dropReference (t i : Nat) (entry : EstablishLock) : EstablishLocks × List MutexCall :=
  let counted := { entry with refCount := entry.refCount - 1 }
  if counted.refCount = 0 then ((state.setSlot i none).setThread t .idle, [.destroy i])
  else ((state.setSlot i (some counted)).setThread t .idle, [])

end EstablishLocks

open EstablishLocks in
/-- A thread that waits for a mutex takes a step when the mutex is free. -/
def stepLocks (state : EstablishLocks) : LockEvent → EstablishLocks × List MutexCall
  | .acquire t target forceHttp11 =>
    match state.threads[t]? with
    | some .idle => state.acquireEstablishLock t (buildSessionKey target forceHttp11)
    | _ => (state, [])
  | .lock t =>
    match state.threads[t]? with
    | some (.waiting i key) =>
      match state.slots[i]?.join with
      | some entry =>
        if entry.locked then (state, [])
        else ((state.setSlot i (some { entry with locked := true })).setThread t
          (.holding i key), [])
      | none => (state, [])
    | some (.waitingFallback key) =>
      if state.fallbackLocked then (state, [])
      else ({ state.setThread t (.holdingFallback key) with fallbackLocked := true }, [])
    | _ => (state, [])
  | .unlock t =>
    match state.threads[t]? with
    | some (.holding i key) =>
      match state.slots[i]?.join with
      | some entry =>
        ((state.setSlot i (some { entry with locked := false })).setThread t (.unlocked i key), [])
      | none => (state, [])
    | some (.holdingFallback _) =>
      ({ state.setThread t .idle with fallbackLocked := false }, [])
    | _ => (state, [])
  | .drop t =>
    match state.threads[t]? with
    | some (.unlocked i _) =>
      match state.slots[i]?.join with
      | some entry => state.dropReference t i entry
      | none => (state, [])
    | _ => (state, [])

def advanceLocks (state : EstablishLocks) (event : LockEvent) : EstablishLocks :=
  (stepLocks state event).1

def runLocks (threads : Nat) (events : List LockEvent) : EstablishLocks :=
  run advanceLocks (initEstablishLocks threads) events

/-! ## Who uses an entry -/

/-- The key that a thread works under. -/
def LockPhase.key : LockPhase → Option Bytes
  | .idle => none
  | .waiting _ key | .holding _ key | .unlocked _ key => some key
  | .waitingFallback key | .holdingFallback key => some key

/-- The thread has a pointer to the entry. -/
def LockPhase.uses (i : Nat) : LockPhase → Bool
  | .waiting j _ | .holding j _ | .unlocked j _ => j = i
  | _ => false

def LockPhase.holds (i : Nat) : LockPhase → Bool
  | .holding j _ => j = i
  | _ => false

def LockPhase.holdsOrAwaits (i : Nat) : LockPhase → Bool
  | .waiting j _ | .holding j _ => j = i
  | _ => false

/-- The key of a thread that is back from `acquireEstablishLock`, or has the
fallback, and has not called `releaseEstablishLock`. -/
def LockPhase.inside : LockPhase → Option Bytes
  | .holding _ key | .holdingFallback key => some key
  | _ => none

namespace EstablishLocks

variable (state : EstablishLocks)

def users (i : Nat) : Nat := state.threads.countP (LockPhase.uses i)

def holders (i : Nat) : Nat := state.threads.countP (LockPhase.holds i)

/-- How many different keys the threads work under. -/
def keysInUse : Nat := (state.threads.filterMap LockPhase.key).dedup.length

end EstablishLocks

/-- A thread that comes finds fewer than `MAX_SESSIONS` keys in use. -/
def FewKeys (state : EstablishLocks) : LockEvent → Prop
  | .acquire .. => state.keysInUse < MAX_SESSIONS
  | _ => True

instance (state : EstablishLocks) : ∀ event, Decidable (FewKeys state event)
  | .acquire .. => inferInstanceAs (Decidable (state.keysInUse < MAX_SESSIONS))
  | .lock _ | .unlock _ | .drop _ => inferInstanceAs (Decidable True)

/-- The entry that a thread points to is in use for its key. -/
def LockPhase.Backed (slots : List (Option EstablishLock)) : LockPhase → Prop
  | .idle => True
  | .waiting i key | .holding i key | .unlocked i key =>
    ∃ entry, slots[i]? = some (some entry) ∧ entry.key = key
  | .waitingFallback _ | .holdingFallback _ => False

/-- Every entry counts the threads that point to it, and no two are for one
key. -/
structure LocksSound (state : EstablishLocks) : Prop where
  size : state.slots.length = MAX_SESSIONS
  distinct : Slots.Distinct EstablishLock.key state.slots
  counted : ∀ i entry, state.slots[i]? = some (some entry) →
    entry.refCount = (state.users i : Int) ∧ 0 < state.users i ∧
      state.holders i = if entry.locked then 1 else 0
  backed : ∀ phase ∈ state.threads, phase.Backed state.slots

/-! ## Counting threads -/

section Count

variable {threads : List LockPhase} {t u i : Nat} {p q : LockPhase}

theorem countP_set_thread (ht : threads[t]? = some p) (q : LockPhase) (f : LockPhase → Bool) :
    (threads.set t q).countP f + (if f p then 1 else 0) =
      threads.countP f + (if f q then 1 else 0) := by
  obtain ⟨hlt, hp⟩ := List.getElem?_eq_some_iff.mp ht
  rw [List.countP_set hlt, hp]
  by_cases hf : f p
  · have hpos : 0 < threads.countP f :=
      List.countP_pos_iff.mpr ⟨p, List.mem_of_getElem? ht, hf⟩
    simp only [hf, if_true]
    omega
  · simp [hf]

/-- A thread that does not change is still there. -/
theorem mem_set_thread (hu : threads[u]? = some p) (hne : u ≠ t) : p ∈ threads.set t q := by
  have hkept : (threads.set t q)[u]? = some p := by
    rw [List.getElem?_set_ne hne.symm]
    exact hu
  exact List.mem_of_getElem? hkept

/-- Where at most one thread counts, no two do. -/
theorem eq_of_countP_le_one {f : LockPhase → Bool} (h : threads.countP f ≤ 1)
    (ht : threads[t]? = some p) (hp : f p = true) (hu : threads[u]? = some q) (hq : f q = true)
    (hidle : f .idle = false) : t = u := by
  by_contra hne
  have hcount := countP_set_thread ht .idle f
  have hmem : q ∈ threads.set t .idle := mem_set_thread hu (Ne.symm hne)
  have hpos : 0 < (threads.set t .idle).countP f := List.countP_pos_iff.mpr ⟨q, hmem, hq⟩
  simp only [hp, hidle, if_true] at hcount
  simp at hcount
  omega

theorem LockPhase.uses_of_holdsOrAwaits (h : p.holdsOrAwaits i = true) : p.uses i = true := by
  cases p <;> simp_all [holdsOrAwaits, uses]

theorem LockPhase.uses_of_holds (h : p.holds i = true) : p.uses i = true := by
  cases p <;> simp_all [holds, uses]

theorem LockPhase.holds_eq_false (h : p.uses i = false) : p.holds i = false := by
  by_contra hholds
  rw [uses_of_holds (by simpa using hholds)] at h
  exact Bool.noConfusion h

theorem LockPhase.Backed.exists_entry {slots : List (Option EstablishLock)} (h : p.Backed slots)
    (hp : p.uses i = true) :
    ∃ entry, slots[i]? = some (some entry) ∧ p.key = some entry.key := by
  cases p with
  | waiting j key | holding j key | unlocked j key =>
    obtain ⟨entry, hentry, rfl⟩ := h
    have hij : j = i := by simpa [uses] using hp
    subst hij
    exact ⟨entry, hentry, rfl⟩
  | idle | waitingFallback key | holdingFallback key => simp [uses] at hp

theorem uses_waiting (i : Nat) (key : Bytes) :
    ∀ j, j ≠ i → (LockPhase.waiting i key).uses j = false := by
  intro j hj
  simpa [LockPhase.uses] using Ne.symm hj

theorem uses_holding (i : Nat) (key : Bytes) :
    ∀ j, j ≠ i → (LockPhase.holding i key).uses j = false := uses_waiting i key

theorem uses_unlocked (i : Nat) (key : Bytes) :
    ∀ j, j ≠ i → (LockPhase.unlocked i key).uses j = false := uses_waiting i key

/-- Another table backs a thread if it has its entry. -/
theorem LockPhase.Backed.transfer {slots slots' : List (Option EstablishLock)}
    (h : p.Backed slots) (hentry : ∀ i, p.uses i = true →
      ∃ entry, slots'[i]? = some (some entry) ∧ p.key = some entry.key) : p.Backed slots' := by
  cases p with
  | idle => trivial
  | waiting j key | holding j key | unlocked j key =>
    obtain ⟨entry, hslot, hkey⟩ := hentry j (by simp [uses])
    exact ⟨entry, hslot, (Option.some.inj hkey).symm⟩
  | waitingFallback key | holdingFallback key => exact h

end Count

/-! ## A change of one entry and one thread -/

section Update

variable {state : EstablishLocks} {t i : Nat} {p q : LockPhase}

theorem users_setThread (ht : state.threads[t]? = some p) (i : Nat) :
    (state.setThread t q).users i + (if p.uses i then 1 else 0) =
      state.users i + (if q.uses i then 1 else 0) :=
  countP_set_thread ht q (LockPhase.uses i)

theorem holders_setThread (ht : state.threads[t]? = some p) (i : Nat) :
    (state.setThread t q).holders i + (if p.holds i then 1 else 0) =
      state.holders i + (if q.holds i then 1 else 0) :=
  countP_set_thread ht q (LockPhase.holds i)

/-- The entry `i` becomes `slot`, and a thread that points to no other entry
goes from `p` to `q`.  The threads at the other entries see no difference. -/
theorem LocksSound.update (h : LocksSound state) (ht : state.threads[t]? = some p)
    (hi : i < state.slots.length) (hp : ∀ j, j ≠ i → p.uses j = false)
    (hq : ∀ j, j ≠ i → q.uses j = false) (slot : Option EstablishLock)
    (hdistinct : Slots.Distinct EstablishLock.key (state.slots.set i slot))
    (hcounted : ∀ entry, slot = some entry →
      entry.refCount = ((state.setThread t q).users i : Int) ∧
        0 < (state.setThread t q).users i ∧
        (state.setThread t q).holders i = if entry.locked then 1 else 0)
    (hothers : ∀ u phase, u ≠ t → state.threads[u]? = some phase → phase.uses i = true →
      ∃ entry, slot = some entry ∧ phase.key = some entry.key)
    (hbacked : q.Backed (state.slots.set i slot)) :
    LocksSound ((state.setSlot i slot).setThread t q) := by
  have hself : (state.slots.set i slot)[i]? = some slot := List.getElem?_set_self hi
  have hother : ∀ j, j ≠ i → (state.slots.set i slot)[j]? = state.slots[j]? := fun j hj =>
    List.getElem?_set_ne (Ne.symm hj)
  have hsize : (state.slots.set i slot).length = MAX_SESSIONS := by
    rw [List.length_set, h.size]
  refine ⟨hsize, hdistinct, ?_, ?_⟩
  · intro j entry hj
    by_cases hij : j = i
    · subst hij
      exact hcounted entry (Option.some.inj (hself.symm.trans hj))
    · obtain ⟨hcount, hpos, hheld⟩ := h.counted j entry ((hother j hij).symm.trans hj)
      have husers : (state.setThread t q).users j = state.users j := by
        simpa [hp j hij, hq j hij] using users_setThread (q := q) ht j
      have hholders : (state.setThread t q).holders j = state.holders j := by
        simpa [LockPhase.holds_eq_false (hp j hij), LockPhase.holds_eq_false (hq j hij)] using
          holders_setThread (q := q) ht j
      rw [← husers] at hcount hpos
      rw [← hholders] at hheld
      exact ⟨hcount, hpos, hheld⟩
  · intro phase hphase
    obtain ⟨u, hu⟩ := List.mem_iff_getElem?.mp hphase
    by_cases hut : u = t
    · subst hut
      have hset : (state.threads.set u q)[u]? = some q :=
        List.getElem?_set_self (List.getElem?_eq_some_iff.mp ht).1
      have hphase : phase = q := Option.some.inj (hu.symm.trans hset)
      rw [hphase]
      exact hbacked
    · have hsame : state.threads[u]? = some phase := by
        have hset : (state.threads.set t q)[u]? = state.threads[u]? :=
          List.getElem?_set_ne (Ne.symm hut)
        exact hset.symm.trans hu
      have hbefore := h.backed phase (List.mem_of_getElem? hsame)
      apply hbefore.transfer
      intro j hj
      by_cases hij : j = i
      · subst hij
        obtain ⟨entry, rfl, hkey⟩ := hothers u phase hut hsame hj
        exact ⟨entry, hself, hkey⟩
      · obtain ⟨entry, hentry, hkey⟩ := hbefore.exists_entry hj
        exact ⟨entry, (hother j hij).trans hentry, hkey⟩

/-- An entry that stays in use for its key keeps its other threads. -/
theorem LocksSound.others (h : LocksSound state) {old new : EstablishLock}
    (hold : state.slots[i]? = some (some old)) (hkey : new.key = old.key) :
    ∀ u phase, u ≠ t → state.threads[u]? = some phase → phase.uses i = true →
      ∃ entry, some new = some entry ∧ phase.key = some entry.key := by
  intro u phase _ hu huses
  have hbacked := h.backed phase (List.mem_of_getElem? hu)
  obtain ⟨entry, hentry, hphase⟩ := hbacked.exists_entry huses
  have hsame : entry = old := by simpa using hentry.symm.trans hold
  exact ⟨new, rfl, by rw [hphase, hsame, hkey]⟩

/-- `LocksSound.update` for an entry that stays in use for its key. -/
theorem LocksSound.change (h : LocksSound state) (ht : state.threads[t]? = some p)
    {old new : EstablishLock}
    (hold : state.slots[i]? = some (some old)) (hkey : new.key = old.key)
    (hp : ∀ j, j ≠ i → p.uses j = false) (hq : ∀ j, j ≠ i → q.uses j = false)
    (hcount : new.refCount = ((state.setThread t q).users i : Int))
    (hpos : 0 < (state.setThread t q).users i)
    (hheld : (state.setThread t q).holders i = if new.locked then 1 else 0)
    (hbacked : q.Backed (state.slots.set i (some new))) :
    LocksSound ((state.setSlot i (some new)).setThread t q) := by
  have hi := (List.getElem?_eq_some_iff.mp hold).1
  refine h.update ht hi hp hq _ (h.distinct.exchange hold hkey) ?_ (h.others hold hkey) hbacked
  intro entry hentry
  cases hentry
  exact ⟨hcount, hpos, hheld⟩

/-- Nothing points to an entry that is not in use. -/
theorem LocksSound.uses_free (h : LocksSound state) (hfree : state.slots[i]? = some none)
    {phase : LockPhase} (hphase : phase ∈ state.threads) : phase.uses i = false := by
  by_contra huses
  obtain ⟨entry, hentry, _⟩ := (h.backed phase hphase).exists_entry (by simpa using huses)
  rw [hfree] at hentry
  simp at hentry

theorem LocksSound.users_free (h : LocksSound state) (hfree : state.slots[i]? = some none) :
    state.users i = 0 ∧ state.holders i = 0 := by
  constructor
  · apply List.countP_eq_zero.mpr
    intro phase hphase
    simp [h.uses_free hfree hphase]
  · apply List.countP_eq_zero.mpr
    intro phase hphase
    simp [LockPhase.holds_eq_false (h.uses_free hfree hphase)]

end Update

/-! ## What a step keeps -/

section Step

variable {state : EstablishLocks} {t i : Nat}

theorem findSlot_some {key : Bytes} (h : state.findSlot key = some i) :
    ∃ entry, state.slots[i]? = some (some entry) ∧ entry.key = key := by
  obtain ⟨hlt, hentry, _⟩ := List.findIdx?_eq_some_iff_getElem.mp h
  rw [Option.any_eq_true] at hentry
  obtain ⟨entry, hsome, hkey⟩ := hentry
  exact ⟨entry, List.getElem?_eq_some_iff.mpr ⟨hlt, hsome⟩, of_decide_eq_true hkey⟩

theorem findSlot_none {key : Bytes} (h : state.findSlot key = none) {entry : EstablishLock}
    (hentry : entry ∈ Slots.entries state.slots) : entry.key ≠ key := by
  have hslot := List.findIdx?_eq_none_iff.mp h (some entry) (Slots.mem_entries.mp hentry)
  simpa using hslot

theorem freeIdx_some (h : state.freeIdx = some i) : state.slots[i]? = some none := by
  obtain ⟨hlt, hfree, _⟩ := List.findIdx?_eq_some_iff_getElem.mp h
  exact List.getElem?_eq_some_iff.mpr ⟨hlt, Option.isNone_iff_eq_none.mp hfree⟩

/-- A full table has an entry for `MAX_SESSIONS` keys, each of them in use. -/
theorem LocksSound.freeIdx_ne_none (h : LocksSound state) (hfew : state.keysInUse < MAX_SESSIONS) :
    state.freeIdx ≠ none := by
  intro hfull
  have hall : ∀ slot ∈ state.slots, slot.isNone = false := List.findIdx?_eq_none_iff.mp hfull
  have hentries : (Slots.entries state.slots).length = state.slots.length := by
    rw [Slots.entries, List.length_filterMap_eq_countP, List.countP_eq_length]
    intro slot hslot
    simpa using hall slot hslot
  have hsub : (Slots.entries state.slots).map EstablishLock.key ⊆
      (state.threads.filterMap LockPhase.key).dedup := by
    intro key hkey
    obtain ⟨entry, hentry, rfl⟩ := List.mem_map.mp hkey
    obtain ⟨i, hi⟩ := List.mem_iff_getElem?.mp (Slots.mem_entries.mp hentry)
    obtain ⟨_, hpos, _⟩ := h.counted i entry hi
    obtain ⟨phase, hphase, huses⟩ := List.countP_pos_iff.mp hpos
    obtain ⟨found, hfound, hkey⟩ := (h.backed phase hphase).exists_entry huses
    have hsame : found = entry := by simpa using hfound.symm.trans hi
    rw [List.mem_dedup, List.mem_filterMap]
    exact ⟨phase, hphase, by rw [hkey, hsame]⟩
  have hle := (List.Nodup.subperm h.distinct hsub).length_le
  rw [List.length_map, hentries, h.size] at hle
  exact absurd hfew (Nat.not_lt.mpr hle)

/-- A thread that is idle joins an entry that counts all its users so far. -/
theorem LocksSound.join (h : LocksSound state) (ht : state.threads[t]? = some .idle)
    (hi : i < state.slots.length) {entry : EstablishLock}
    (hdistinct : Slots.Distinct EstablishLock.key
      (state.slots.set i (some { entry with refCount := entry.refCount + 1 })))
    (hcount : entry.refCount = (state.users i : Int))
    (hheld : state.holders i = if entry.locked then 1 else 0)
    (hothers : ∀ u phase, u ≠ t → state.threads[u]? = some phase → phase.uses i = true →
      ∃ found, some { entry with refCount := entry.refCount + 1 } = some found ∧
        phase.key = some found.key) :
    LocksSound (state.join t i entry) := by
  have husers := users_setThread (q := .waiting i entry.key) ht i
  have hholders := holders_setThread (q := .waiting i entry.key) ht i
  simp only [LockPhase.uses, LockPhase.holds, decide_true, if_true, Bool.false_eq_true, if_false,
    Nat.add_zero] at husers hholders
  refine h.update ht hi (fun _ _ => rfl) (uses_waiting i entry.key) _ hdistinct ?_ hothers
    ⟨_, List.getElem?_set_self hi, rfl⟩
  intro found hfound
  cases hfound
  refine ⟨?_, by omega, ?_⟩
  · rw [husers, hcount]
    push_cast
    rfl
  · rw [hholders]
    exact hheld

theorem LocksSound.acquire (h : LocksSound state) (ht : state.threads[t]? = some .idle)
    (key : Bytes) (hfew : state.keysInUse < MAX_SESSIONS) :
    LocksSound (state.acquireEstablishLock t key).1 := by
  rw [EstablishLocks.acquireEstablishLock]
  cases hfind : state.findSlot key with
  | some i =>
    obtain ⟨entry, hentry, -⟩ := findSlot_some hfind
    obtain ⟨hcount, -, hheld⟩ := h.counted i entry hentry
    simp only [hentry, Option.join_some]
    exact h.join ht (List.getElem?_eq_some_iff.mp hentry).1 (h.distinct.exchange hentry rfl) hcount
      hheld (h.others hentry rfl)
  | none =>
    cases hfree : state.freeIdx with
    | none => exact absurd hfree (h.freeIdx_ne_none hfew)
    | some i =>
      have hslot := freeIdx_some hfree
      obtain ⟨husers, hholders⟩ := h.users_free hslot
      apply h.join ht (List.getElem?_eq_some_iff.mp hslot).1
      · exact h.distinct.set_some hslot fun entry hentry => findSlot_none hfind hentry
      · simp [husers]
      · simp [hholders]
      · intro u phase _ hu huses
        rw [h.uses_free hslot (List.mem_of_getElem? hu)] at huses
        exact Bool.noConfusion huses

/-- A thread gets a lock that nobody holds. -/
theorem LocksSound.lock (h : LocksSound state) {key : Bytes}
    (ht : state.threads[t]? = some (.waiting i key))
    {entry : EstablishLock} (hentry : state.slots[i]? = some (some entry))
    (hkey : entry.key = key) (hfree : entry.locked = false) :
    LocksSound ((state.setSlot i (some { entry with locked := true })).setThread t
      (.holding i key)) := by
  have husers := users_setThread (q := .holding i key) ht i
  have hholders := holders_setThread (q := .holding i key) ht i
  simp only [LockPhase.uses, LockPhase.holds, decide_true, if_true, Bool.false_eq_true, if_false,
    Nat.add_zero] at husers hholders
  obtain ⟨hcount, hpos, hheld⟩ := h.counted i entry hentry
  have hi := (List.getElem?_eq_some_iff.mp hentry).1
  simp only [hfree, Bool.false_eq_true, if_false] at hheld
  refine h.change ht hentry rfl (uses_waiting i key) (uses_holding i key) ?_ ?_ ?_ ?_
  · rw [Nat.add_right_cancel husers]
    exact hcount
  · omega
  · simp only [if_true]
    omega
  · exact ⟨_, List.getElem?_set_self hi, hkey⟩

/-- The thread that holds a lock unlocks it. -/
theorem LocksSound.unlock (h : LocksSound state) {key : Bytes}
    (ht : state.threads[t]? = some (.holding i key))
    {entry : EstablishLock} (hentry : state.slots[i]? = some (some entry))
    (hkey : entry.key = key) :
    LocksSound ((state.setSlot i (some { entry with locked := false })).setThread t
      (.unlocked i key)) := by
  have husers := users_setThread (q := .unlocked i key) ht i
  have hholders := holders_setThread (q := .unlocked i key) ht i
  simp only [LockPhase.uses, LockPhase.holds, decide_true, if_true, Bool.false_eq_true, if_false,
    Nat.add_zero] at husers hholders
  obtain ⟨hcount, hpos, hheld⟩ := h.counted i entry hentry
  have hone : state.holders i ≤ 1 := by
    rw [hheld]
    split <;> omega
  have hi := (List.getElem?_eq_some_iff.mp hentry).1
  refine h.change ht hentry rfl (uses_holding i key) (uses_unlocked i key) ?_ ?_ ?_ ?_
  · rw [Nat.add_right_cancel husers]
    exact hcount
  · omega
  · simp only [Bool.false_eq_true, if_false]
    omega
  · exact ⟨_, List.getElem?_set_self hi, hkey⟩

/-- The last reference is that of the thread itself. -/
theorem LocksSound.dropReference (h : LocksSound state) {key : Bytes}
    (ht : state.threads[t]? = some (.unlocked i key)) {entry : EstablishLock}
    (hentry : state.slots[i]? = some (some entry)) :
    LocksSound (state.dropReference t i entry).1 := by
  have husers := users_setThread (q := .idle) ht i
  have hholders := holders_setThread (q := .idle) ht i
  simp only [LockPhase.uses, LockPhase.holds, decide_true, if_true, Bool.false_eq_true, if_false,
    Nat.add_zero] at husers hholders
  obtain ⟨hcount, hpos, hheld⟩ := h.counted i entry hentry
  have hi := (List.getElem?_eq_some_iff.mp hentry).1
  have hp := uses_unlocked i key
  rw [EstablishLocks.dropReference]
  by_cases hlast : entry.refCount - 1 = 0
  · simp only [hlast, if_true]
    refine h.update ht hi hp (fun _ _ => rfl) _ (h.distinct.set_none i) ?_ ?_ trivial
    · intro found hfound
      cases hfound
    · intro u phase hut hu huses
      -- another user would be counted as well
      have hzero : (state.setThread t .idle).users i = 0 := by omega
      have hmem : phase ∈ (state.setThread t .idle).threads := mem_set_thread hu hut
      have hnone := List.countP_eq_zero.mp hzero phase hmem
      exact absurd huses hnone
  · simp only [hlast, if_false]
    refine h.change ht hentry rfl hp (fun _ _ => rfl) ?_ ?_ ?_ trivial
    · simp only
      omega
    · omega
    · rw [hholders]
      exact hheld

theorem LocksSound.advance (h : LocksSound state) {event : LockEvent}
    (hfew : FewKeys state event) : LocksSound (advanceLocks state event) := by
  rw [advanceLocks]
  cases event with
  | acquire t target forceHttp11 =>
    rw [stepLocks]
    split
    · next ht => exact h.acquire ht _ hfew
    · exact h
  | lock t =>
    rw [stepLocks]
    split
    · next i key ht =>
      obtain ⟨entry, hentry, hkey⟩ := h.backed _ (List.mem_of_getElem? ht)
      simp only [hentry, Option.join_some]
      split
      · exact h
      · next hfree => exact h.lock ht hentry hkey (by simpa using hfree)
    · next key ht => exact absurd (h.backed _ (List.mem_of_getElem? ht)) id
    · exact h
  | unlock t =>
    rw [stepLocks]
    split
    · next i key ht =>
      obtain ⟨entry, hentry, hkey⟩ := h.backed _ (List.mem_of_getElem? ht)
      simp only [hentry, Option.join_some]
      exact h.unlock ht hentry hkey
    · next key ht => exact absurd (h.backed _ (List.mem_of_getElem? ht)) id
    · exact h
  | drop t =>
    rw [stepLocks]
    split
    · next i key ht =>
      obtain ⟨entry, hentry, -⟩ := h.backed _ (List.mem_of_getElem? ht)
      simp only [hentry, Option.join_some]
      exact h.dropReference ht hentry
    · exact h

theorem locksSound_init (threads : Nat) : LocksSound (initEstablishLocks threads) := by
  have hnone : ∀ (i : Nat) (slot : Option EstablishLock),
      (initEstablishLocks threads).slots[i]? = some slot → slot = none := by
    intro i slot hslot
    exact (List.mem_replicate.mp (List.mem_of_getElem? hslot)).2
  refine ⟨List.length_replicate, ?_, ?_, ?_⟩
  · have hempty : Slots.entries (initEstablishLocks threads).slots = [] :=
      Slots.entries_replicate_none MAX_SESSIONS
    rw [Slots.Distinct, hempty]
    exact List.nodup_nil
  · intro i entry hentry
    exact absurd (hnone i _ hentry) (by simp)
  · intro phase hphase
    rw [(List.mem_replicate.mp hphase).2]
    trivial

/-- A mutex is set up in an entry that no thread points to, and destroyed by
the last thread that did. -/
theorem LocksSound.mutexCall (h : LocksSound state) {event : LockEvent} {call : MutexCall}
    (hcall : call ∈ (stepLocks state event).2) {phase : LockPhase}
    (hphase : phase ∈ state.threads) : phase.holdsOrAwaits call.slot = false := by
  by_contra hthread
  have huses := LockPhase.uses_of_holdsOrAwaits (by simpa using hthread)
  cases event with
  | acquire t target forceHttp11 =>
    rw [stepLocks] at hcall
    split at hcall
    · rw [EstablishLocks.acquireEstablishLock] at hcall
      cases hfind : state.findSlot (buildSessionKey target forceHttp11) with
      | some i =>
        obtain ⟨entry, hentry, -⟩ := findSlot_some hfind
        simp [hfind, hentry] at hcall
      | none =>
        cases hfree : state.freeIdx with
        | none => simp [hfind, hfree] at hcall
        | some i =>
          have hinit : call = .init i := by simpa [hfind, hfree] using hcall
          rw [hinit] at huses
          have hnone : phase.uses i = false := h.uses_free (freeIdx_some hfree) hphase
          exact Bool.noConfusion (huses.symm.trans hnone)
    · simp at hcall
  | lock t =>
    rw [stepLocks] at hcall
    split at hcall
    · split at hcall
      · split at hcall <;> simp at hcall
      · simp at hcall
    · split at hcall <;> simp at hcall
    · simp at hcall
  | unlock t =>
    rw [stepLocks] at hcall
    split at hcall
    · split at hcall <;> simp at hcall
    · simp at hcall
    · simp at hcall
  | drop t =>
    rw [stepLocks] at hcall
    split at hcall
    · next i key ht =>
      obtain ⟨entry, hentry, -⟩ := h.backed _ (List.mem_of_getElem? ht)
      obtain ⟨hcount, -, -⟩ := h.counted i entry hentry
      simp only [hentry, Option.join_some, EstablishLocks.dropReference] at hcall
      split at hcall
      · next hlast =>
        have hdestroy : call = .destroy i := by simpa using hcall
        rw [hdestroy] at huses hthread
        have hone : state.users i ≤ 1 := by omega
        obtain ⟨u, hu⟩ := List.mem_iff_getElem?.mp hphase
        -- the thread that gives up its reference neither holds nor awaits
        have hsame : t = u := eq_of_countP_le_one hone ht (by simp [LockPhase.uses]) hu huses rfl
        rw [← hsame, ht] at hu
        cases hu
        simp [LockPhase.holdsOrAwaits] at hthread
      · simp at hcall
    · simp at hcall

/-- Two threads inside for one key are one thread. -/
theorem LocksSound.inside_unique (h : LocksSound state) {u : Nat} {p q : LockPhase} {key : Bytes}
    (ht : state.threads[t]? = some p) (hu : state.threads[u]? = some q)
    (hp : p.inside = some key) (hq : q.inside = some key) : t = u := by
  have hpb := h.backed p (List.mem_of_getElem? ht)
  have hqb := h.backed q (List.mem_of_getElem? hu)
  cases p with
  | holding i key' =>
    cases q with
    | holding j key'' =>
      cases hp
      cases hq
      obtain ⟨a, ha, rfl⟩ := hpb
      obtain ⟨b, hb, hkey⟩ := hqb
      have hij : i = j := h.distinct.slot_unique ha hb hkey.symm
      subst hij
      have hone : state.holders i ≤ 1 := by
        rw [(h.counted i a ha).2.2]
        split <;> omega
      exact eq_of_countP_le_one hone ht (by simp [LockPhase.holds]) hu (by simp [LockPhase.holds])
        rfl
    | holdingFallback _ => exact absurd hqb id
    | idle | waiting _ _ | unlocked _ _ | waitingFallback _ => simp [LockPhase.inside] at hq
  | holdingFallback _ => exact absurd hpb id
  | idle | waiting _ _ | unlocked _ _ | waitingFallback _ => simp [LockPhase.inside] at hp

end Step

/-! ## Runs -/

theorem runLocks_locksSound {threads : Nat} {events : List LockEvent}
    (h : Meets advanceLocks FewKeys (initEstablishLocks threads) events) :
    LocksSound (runLocks threads events) :=
  run_keeps (fun _ _ hsound hfew => hsound.advance hfew) h (locksSound_init threads)

/-- A key has one entry in use, which counts the threads that hold its lock,
wait for it or have unlocked it without giving up their reference.  One
thread at a time is between acquire and release for a key, and the mutex of
an entry is set up and destroyed while no thread holds or awaits it. -/
theorem runLocks_sound (threads : Nat) (events : List LockEvent)
    (h : Meets advanceLocks FewKeys (initEstablishLocks threads) events) :
    let state := runLocks threads events
    (∀ (i j : Nat) (a b : EstablishLock), state.slots[i]? = some (some a) →
      state.slots[j]? = some (some b) → a.key = b.key → i = j) ∧
    (∀ (i : Nat) (entry : EstablishLock), state.slots[i]? = some (some entry) →
      entry.refCount = (state.users i : Int)) ∧
    (∀ (t u : Nat) (p q : LockPhase) (key : Bytes), state.threads[t]? = some p →
      state.threads[u]? = some q → p.inside = some key → q.inside = some key → t = u) ∧
    (∀ (event : LockEvent), ∀ call ∈ (stepLocks state event).2, ∀ phase ∈ state.threads,
      phase.holdsOrAwaits call.slot = false) := by
  have hsound := runLocks_locksSound h
  refine ⟨?_, ?_, ?_, ?_⟩
  · intro i j a b ha hb hkey
    exact hsound.distinct.slot_unique ha hb hkey
  · intro i entry hentry
    exact (hsound.counted i entry hentry).1
  · intro t u p q key ht hu hp hq
    exact hsound.inside_unique ht hu hp hq
  · intro event call hcall phase hphase
    exact hsound.mutexCall hcall hphase

/-- The target of the example runs. -/
def exampleTarget : Target := ⟨ascii "https", ascii "a", ascii "443", .none, true⟩

/-- Two threads of one target, the second waiting for the first. -/
theorem runLocks_sound_two :
    let events : List LockEvent := [.acquire 0 exampleTarget false, .acquire 1 exampleTarget false,
      .lock 0, .lock 1, .unlock 0, .drop 0, .lock 1]
    let state := runLocks 2 events
    Meets advanceLocks FewKeys (initEstablishLocks 2) events ∧
    state.threads = [.idle, .holding 0 (buildSessionKey exampleTarget false)] ∧
    ∀ (i : Nat) (entry : EstablishLock), state.slots[i]? = some (some entry) →
      entry.refCount = (state.users i : Int) := by
  refine ⟨by decide +kernel, by decide +kernel, ?_⟩
  exact (runLocks_sound 2 _ (by decide +kernel)).2.1

/-- Between its two sections `releaseEstablishLock` is counted by an entry
that it neither holds nor waits for. -/
theorem refCount_ne_holdsOrAwaits :
    let events : List LockEvent := [.acquire 0 exampleTarget false, .lock 0, .unlock 0]
    let state := runLocks 1 events
    Meets advanceLocks FewKeys (initEstablishLocks 1) events ∧
    ¬ ∀ (i : Nat) (entry : EstablishLock), state.slots[i]? = some (some entry) →
      entry.refCount = (state.threads.countP (LockPhase.holdsOrAwaits i) : Int) := by
  refine ⟨by decide +kernel, ?_⟩
  intro h
  have hentry : (runLocks 1 [.acquire 0 exampleTarget false, .lock 0, .unlock 0]).slots[0]? =
      some (some ⟨buildSessionKey exampleTarget false, false, 1⟩) := by decide +kernel
  have hcount := h 0 _ hentry
  exact absurd hcount (by decide +kernel)

end HttpRequestClient.Client
