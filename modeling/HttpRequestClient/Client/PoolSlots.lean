import HttpRequestClient.Client.SessionKeys

/-!
# The arrays of the session pool

`SharedSessionPool` records three times which of its slots are taken: in
`sessionMap`, in the pointers of `sessions` and in `sessionCount`.  The
operations go by different ones: `registerSession` looks for a slot that is
not mapped, `cleanupSessions` and `getSessionInfo` for mapped ones, and
`cleanupTargetSession` and `markProxySessionsGoingAway` go by the pointers.

`PoolSound` says that the three agree.  `runPoolCalls_sound_iff`: they agree
all along a run exactly when `registerSession` always finds an open session in
its basket that is not in the pool, or no slot, and `cleanupTargetSession`
never gets a basket without a session while a slot is empty.  In
`cleanupTargetSession_underflow` it does, and the count of the empty pool
underflows.

A session is a number, which is its place in `heap`.
-/

namespace HttpRequestClient.Client

open Runs

structure SharedSessionPool where
  sessionCount : UInt64
  /-- `none` is a null pointer. -/
  sessions : List (Option Nat)
  sessionMap : List Int
  heap : List PooledSession
  time : Int

inductive PoolCall where
  | registerSession (basket : PoolBasket)
  | getSessionInfo (basket : PoolBasket)
  | cleanupSessions (isAll : Bool)
  | cleanupTargetSession (basket : PoolBasket)
  | markProxySessionsGoingAway (basket : PoolBasket)
  /-- `createSession` makes a session that is not in the pool. -/
  | createSession (target : Target) (protocol : HttpProtocol) (expirationInMilliseconds : Int)
  /-- The streams and the connection of a session move on. -/
  | useSession (s : Nat) (inflightCount : Nat) (goingAway connected : Bool)
  | tick (seconds : Nat)

namespace SharedSessionPool

/-- The pool is static, so its pointers are null. -/
def initSharedSessionPool (time : Int) : SharedSessionPool where
  sessionCount := 0
  sessions := List.replicate MAX_SESSIONS none
  sessionMap := List.replicate MAX_SESSIONS 0
  heap := []
  time := time

variable (pool : SharedSessionPool)

def updateSession (s : Nat) (f : PooledSession → PooledSession) : SharedSessionPool :=
  { pool with heap := pool.heap.modify s f }

/-- The `magic` of a session is right until it is freed. -/
def isOpen (s : Nat) : Bool := pool.heap[s]?.any fun session => !session.closed

def closeSession (s : Nat) : SharedSessionPool :=
  pool.updateSession s fun session => { session with closed := true }

/-- The pointer of a mapped slot.  A null pointer in one would be followed. -/
def mapped (i : Nat) : Option Nat :=
  if pool.sessionMap[i]? = some 1 then pool.sessions[i]?.join else none

/-- What `cleanupSessions` and `cleanupTargetSession` do to a slot. -/
def clearSlot (i : Nat) : SharedSessionPool :=
  { pool with
    sessions := pool.sessions.set i none
    sessionMap := pool.sessionMap.set i 0
    sessionCount := pool.sessionCount - 1 }

def reapable (isAll : Bool) (s : Nat) : Bool :=
  pool.heap[s]?.any fun session =>
    session.inflightCount = 0 ∧
      (isAll ∨ session.goingAway ∨ ¬session.connected ∨
        (pool.time - session.lastUsedTime) * 1000 > session.expirationInMilliseconds)

/-- One turn of the loop of `cleanupSessions`. -/
def cleanupSlot (isAll : Bool) (acc : SharedSessionPool × List Nat) (i : Nat) :
    SharedSessionPool × List Nat :=
  match acc.1.mapped i with
  | some s => if acc.1.reapable isAll s then (acc.1.clearSlot i, acc.2 ++ [s]) else acc
  | none => acc

def cleanupSessions (isAll : Bool) : SharedSessionPool :=
  let swept := (List.range MAX_SESSIONS).foldl (cleanupSlot isAll) (pool, [])
  swept.2.foldl closeSession swept.1

/-- The session of the basket is compared with the pointers of all slots. -/
def cleanupTargetSession (basket : PoolBasket) : SharedSessionPool :=
  match pool.sessions.findIdx? (· = basket.session) with
  | none => pool
  | some i =>
    match pool.sessions[i]?.join with
    | some target => (pool.clearSlot i).closeSession target
    | none => pool.clearSlot i

/-- The session of a slot if it is taken for the basket. -/
def fitting (basket : PoolBasket) (i : Nat) : Option Nat :=
  (pool.mapped i).filter fun s =>
    pool.isOpen s && pool.heap[s]?.any fun session => accepts session basket

/-- The pool, and the session of the basket. -/
def getSessionInfo (basket : PoolBasket) : SharedSessionPool × Option Nat :=
  match (List.range MAX_SESSIONS).findSome? (pool.fitting basket) with
  | some s =>
    (pool.updateSession s fun session => { session with lastUsedTime := pool.time }, some s)
  | none => (pool, basket.session)

/-- The first slot that is not mapped gets the pointer, whatever it is. -/
def registerSession (basket : PoolBasket) : SharedSessionPool :=
  match pool.sessionMap.findIdx? (· = 0) with
  | none => pool
  | some slotIndex =>
    let registered : SharedSessionPool :=
      { pool with
        sessions := pool.sessions.set slotIndex basket.session
        sessionMap := pool.sessionMap.set slotIndex 1
        sessionCount := pool.sessionCount + 1 }
    match basket.session with
    | some s =>
      registered.updateSession s fun session => { session with lastUsedTime := pool.time }
    | none => registered

def markSlot (basket : PoolBasket) (pool : SharedSessionPool) : Option Nat → SharedSessionPool
  | none => pool
  | some s =>
    pool.updateSession s fun session =>
      if ¬session.closed ∧ Pool.sameProxy session basket then { session with goingAway := true }
      else session

def markProxySessionsGoingAway (basket : PoolBasket) : SharedSessionPool :=
  pool.sessions.foldl (markSlot basket) pool

def createSession (target : Target) (protocol : HttpProtocol) (expirationInMilliseconds : Int) :
    SharedSessionPool :=
  { pool with
    heap := pool.heap ++ [⟨target, protocol, expirationInMilliseconds, 0, 0, false, true, false⟩] }

end SharedSessionPool

open SharedSessionPool in
def stepPoolCalls (pool : SharedSessionPool) : PoolCall → SharedSessionPool
  | .registerSession basket => pool.registerSession basket
  | .getSessionInfo basket => (pool.getSessionInfo basket).1
  | .cleanupSessions isAll => pool.cleanupSessions isAll
  | .cleanupTargetSession basket => pool.cleanupTargetSession basket
  | .markProxySessionsGoingAway basket => pool.markProxySessionsGoingAway basket
  | .createSession target protocol expirationInMilliseconds =>
    pool.createSession target protocol expirationInMilliseconds
  | .useSession s inflightCount goingAway connected =>
    pool.updateSession s fun session => { session with inflightCount, goingAway, connected }
  | .tick seconds => { pool with time := pool.time + seconds }

def runPoolCalls (time : Int) (calls : List PoolCall) : SharedSessionPool :=
  run stepPoolCalls (SharedSessionPool.initSharedSessionPool time) calls

/-- A slot is mapped exactly when it holds an open session, no session has two
slots, and the count is that of the mapped slots. -/
structure PoolSound (pool : SharedSessionPool) : Prop where
  mapped : ∀ i : Nat, pool.sessionMap[i]? = some 1 ↔
    ∃ s, pool.sessions[i]? = some (some s) ∧ pool.isOpen s = true
  distinct : ∀ i j s : Nat, pool.sessions[i]? = some (some s) → pool.sessions[j]? = some (some s) →
    i = j
  counted : pool.sessionCount.toNat = pool.sessionMap.count 1

/-- `registerSession` has an open session that is not in the pool, if there is
a slot for it; `cleanupTargetSession` has a session, if a slot is empty. -/
def KeepsSlots (pool : SharedSessionPool) : PoolCall → Prop
  | .registerSession basket =>
    0 ∈ pool.sessionMap →
      ∃ s, basket.session = some s ∧ pool.isOpen s = true ∧ some s ∉ pool.sessions
  | .cleanupTargetSession basket => none ∈ pool.sessions → basket.session ≠ none
  | _ => True

/-! ## The invariant -/

/-- What is mapped, as the pointers say it. -/
def mapOf (sessions : List (Option Nat)) : List Int :=
  sessions.map fun slot => if slot.isSome then 1 else 0

structure SlotsInv (pool : SharedSessionPool) : Prop where
  length_eq : pool.sessions.length = MAX_SESSIONS
  map_eq : pool.sessionMap = mapOf pool.sessions
  count_eq : pool.sessionCount = UInt64.ofNat (Slots.entries pool.sessions).length
  distinct : Slots.Distinct id pool.sessions
  isOpen : ∀ s, some s ∈ pool.sessions → pool.isOpen s = true

theorem getElem?_mapOf {sessions : List (Option Nat)} {i : Nat} :
    (mapOf sessions)[i]? = some 1 ↔ ∃ s, sessions[i]? = some (some s) := by
  rw [mapOf, List.getElem?_map]
  cases hslot : sessions[i]? with
  | none => simp
  | some slot => cases slot <;> simp

theorem zero_mem_mapOf {sessions : List (Option Nat)} : 0 ∈ mapOf sessions ↔ none ∈ sessions := by
  rw [mapOf, List.mem_map]
  constructor
  · rintro ⟨slot, hslot, hzero⟩
    cases slot with
    | none => exact hslot
    | some s => simp at hzero
  · exact fun h => ⟨none, h, rfl⟩

theorem count_mapOf (sessions : List (Option Nat)) :
    (mapOf sessions).count 1 = (Slots.entries sessions).length := by
  induction sessions with
  | nil => rfl
  | cons slot sessions ih =>
    cases slot with
    | none => simpa [mapOf] using ih
    | some s => simpa [mapOf] using ih

theorem length_entries_le (sessions : List (Option Nat)) :
    (Slots.entries sessions).length ≤ sessions.length :=
  List.length_filterMap_le _ _

namespace SlotsInv

variable {pool : SharedSessionPool} {basket : PoolBasket}

theorem length_entries_lt (h : SlotsInv pool) :
    (Slots.entries pool.sessions).length < 18446744073709551616 := by
  refine Nat.lt_of_le_of_lt (length_entries_le pool.sessions) ?_
  rw [h.length_eq]
  decide

theorem toNat_count (h : SlotsInv pool) : pool.sessionCount.toNat = pool.sessionMap.count 1 := by
  rw [h.count_eq, h.map_eq, count_mapOf, UInt64.toNat_ofNat_of_lt' h.length_entries_lt]

theorem sound (h : SlotsInv pool) : PoolSound pool := by
  refine ⟨fun i => ?_, fun i j s hi hj => h.distinct.slot_unique hi hj rfl, h.toNat_count⟩
  rw [h.map_eq, getElem?_mapOf]
  constructor
  · rintro ⟨s, hslot⟩
    exact ⟨s, hslot, h.isOpen s (List.mem_of_getElem? hslot)⟩
  · rintro ⟨s, hslot, -⟩
    exact ⟨s, hslot⟩

/-- The sessions of the pool stay open. -/
theorem of_heap (h : SlotsInv pool) {heap : List PooledSession}
    (hopen : ∀ s, some s ∈ pool.sessions → pool.isOpen s = true →
      ({ pool with heap } : SharedSessionPool).isOpen s = true) :
    SlotsInv { pool with heap } :=
  { h with isOpen := fun s hslot => hopen s hslot (h.isOpen s hslot) }

theorem isOpen_updateSession {f : PooledSession → PooledSession} {s t : Nat}
    (hclosed : s = t → ∀ session, (f session).closed = session.closed) :
    (pool.updateSession s f).isOpen t = pool.isOpen t := by
  rw [SharedSessionPool.isOpen, SharedSessionPool.isOpen, SharedSessionPool.updateSession,
    List.getElem?_modify]
  by_cases hst : s = t
  · cases pool.heap[t]? <;> simp [hst, hclosed hst]
  · cases pool.heap[t]? <;> simp [hst]

theorem updateSession (h : SlotsInv pool) (s : Nat) {f : PooledSession → PooledSession}
    (hclosed : ∀ session, (f session).closed = session.closed) :
    SlotsInv (pool.updateSession s f) :=
  h.of_heap fun _ _ hopen => (isOpen_updateSession fun _ => hclosed).trans hopen

/-- A session that has left the pool may be closed. -/
theorem closeSession (h : SlotsInv pool) {s : Nat} (hs : some s ∉ pool.sessions) :
    SlotsInv (pool.closeSession s) := by
  refine h.of_heap fun t ht hopen => (isOpen_updateSession fun hst => ?_).trans hopen
  exact absurd (hst ▸ ht) hs

theorem closeSessions {toClose : List Nat} (h : SlotsInv pool)
    (hout : ∀ s ∈ toClose, some s ∉ pool.sessions) :
    SlotsInv (toClose.foldl SharedSessionPool.closeSession pool) := by
  induction toClose generalizing pool with
  | nil => exact h
  | cons s toClose ih =>
    rw [List.forall_mem_cons] at hout
    exact ih (h.closeSession hout.1) hout.2

theorem mapped_eq_some {i s : Nat} (h : SlotsInv pool) :
    pool.mapped i = some s ↔ pool.sessions[i]? = some (some s) := by
  rw [SharedSessionPool.mapped, h.map_eq]
  by_cases hmapped : ∃ s, pool.sessions[i]? = some (some s)
  · rw [if_pos (getElem?_mapOf.mpr hmapped)]
    obtain ⟨t, ht⟩ := hmapped
    simp [ht]
  · rw [if_neg (mt getElem?_mapOf.mp hmapped)]
    simpa using fun hslot => hmapped ⟨s, hslot⟩

/-- A slot that holds a session is cleared, and the session is in no other. -/
theorem clearSlot (h : SlotsInv pool) {i s : Nat} (hslot : pool.sessions[i]? = some (some s)) :
    SlotsInv (pool.clearSlot i) ∧ some s ∉ (pool.clearSlot i).sessions := by
  have hperm := Slots.perm_entries_set_none hslot
  refine ⟨⟨?_, ?_, ?_, h.distinct.set_none i, fun t ht => ?_⟩, fun hs => ?_⟩
  · exact (List.length_set).trans h.length_eq
  · simp [SharedSessionPool.clearSlot, h.map_eq, mapOf, List.map_set]
  · have hlength := hperm.length_eq
    rw [List.length_cons] at hlength
    simp only [SharedSessionPool.clearSlot, h.count_eq, hlength, UInt64.ofNat_add]
    exact UInt64.add_sub_cancel _ _
  · have hkept := Slots.mem_entries.mpr ht
    exact h.isOpen t (Slots.mem_entries.mp ((Slots.entries_set_none _ i).subset hkept))
  · have hnodup := h.distinct
    rw [Slots.Distinct, List.map_id, hperm.nodup_iff, List.nodup_cons] at hnodup
    exact hnodup.1 (Slots.mem_entries.mpr hs)

/-- After some turns of the loop nothing that will be closed is in the pool. -/
def Swept (acc : SharedSessionPool × List Nat) : Prop :=
  SlotsInv acc.1 ∧ ∀ s ∈ acc.2, some s ∉ acc.1.sessions

theorem cleanupSlot (isAll : Bool) {acc : SharedSessionPool × List Nat} (h : Swept acc) (i : Nat) :
    Swept (SharedSessionPool.cleanupSlot isAll acc i) := by
  rw [SharedSessionPool.cleanupSlot]
  split
  · rename_i s hmapped
    split
    · obtain ⟨hinv, hs⟩ := h.1.clearSlot (h.1.mapped_eq_some.mp hmapped)
      refine ⟨hinv, fun t ht => ?_⟩
      cases List.mem_append.mp ht with
      | inl hbefore =>
        intro hslot
        have hkept := (Slots.entries_set_none _ i).subset (Slots.mem_entries.mpr hslot)
        exact h.2 t hbefore (Slots.mem_entries.mp hkept)
      | inr hnew =>
        rw [List.mem_singleton.mp hnew]
        exact hs
    · exact h
  · exact h

theorem cleanupSessions (h : SlotsInv pool) (isAll : Bool) :
    SlotsInv (pool.cleanupSessions isAll) := by
  have hswept (slots : List Nat) :
      Swept (run (SharedSessionPool.cleanupSlot isAll) (pool, []) slots) :=
    run_invariant (P := Swept) (fun acc i hacc => cleanupSlot isAll hacc i) slots
      ⟨h, fun s hs => absurd hs List.not_mem_nil⟩
  unfold SharedSessionPool.cleanupSessions
  generalize List.range MAX_SESSIONS = slots
  exact (hswept slots).1.closeSessions (hswept slots).2

theorem findIdx?_session {i : Nat} (hi : pool.sessions.findIdx? (· = basket.session) = some i) :
    pool.sessions[i]? = some basket.session := by
  obtain ⟨hlt, hsame, -⟩ := List.findIdx?_eq_some_iff_getElem.mp hi
  rw [List.getElem?_eq_getElem hlt, of_decide_eq_true hsame]

theorem cleanupTargetSession (h : SlotsInv pool) {s : Nat} (hsession : basket.session = some s) :
    SlotsInv (pool.cleanupTargetSession basket) := by
  rw [SharedSessionPool.cleanupTargetSession]
  split
  · exact h
  · rename_i i hi
    have hslot := findIdx?_session hi
    rw [hsession] at hslot
    obtain ⟨hinv, hs⟩ := h.clearSlot hslot
    rw [hslot]
    exact hinv.closeSession hs

theorem getSessionInfo (h : SlotsInv pool) (basket : PoolBasket) :
    SlotsInv (pool.getSessionInfo basket).1 := by
  unfold SharedSessionPool.getSessionInfo
  split
  · exact h.updateSession _ fun session => rfl
  · exact h

theorem markProxySessionsGoingAway (h : SlotsInv pool) (basket : PoolBasket) :
    SlotsInv (pool.markProxySessionsGoingAway basket) := by
  refine run_invariant (fun marked slot hmarked => ?_) pool.sessions h
  cases slot with
  | none => exact hmarked
  | some s =>
    refine hmarked.updateSession s fun session => ?_
    split <;> rfl

/-- The first slot that is not mapped is the first empty one. -/
theorem freeSlot_eq (h : SlotsInv pool) :
    pool.sessionMap.findIdx? (· = 0) = pool.sessions.findIdx? Option.isNone := by
  rw [h.map_eq, mapOf, List.findIdx?_map]
  congr 1
  funext slot
  cases slot <;> rfl

theorem findIdx?_unmapped (h : SlotsInv pool) {slotIndex : Nat}
    (hfree : pool.sessionMap.findIdx? (· = 0) = some slotIndex) :
    pool.sessions[slotIndex]? = some none := by
  rw [h.freeSlot_eq] at hfree
  obtain ⟨hlt, hnone, -⟩ := List.findIdx?_eq_some_iff_getElem.mp hfree
  rw [List.getElem?_eq_getElem hlt, Option.isNone_iff_eq_none.mp hnone]

theorem registerSession (h : SlotsInv pool)
    (hkeeps : KeepsSlots pool (.registerSession basket)) : SlotsInv (pool.registerSession basket) := by
  rw [SharedSessionPool.registerSession]
  split
  · exact h
  · rename_i slotIndex hfree
    have hempty := h.findIdx?_unmapped hfree
    have hzero : 0 ∈ pool.sessionMap := by
      rw [h.map_eq, zero_mem_mapOf]
      exact List.mem_of_getElem? hempty
    obtain ⟨s, hsession, hopen, hout⟩ := hkeeps hzero
    rw [hsession]
    refine SlotsInv.updateSession ⟨?_, ?_, ?_, ?_, fun t ht => ?_⟩ s fun _ => rfl
    · exact (List.length_set).trans h.length_eq
    · simp [h.map_eq, mapOf, List.map_set]
    · simp only [h.count_eq, Slots.length_entries_set_free hempty, UInt64.ofNat_add]
      rfl
    · refine h.distinct.set_some hempty fun t ht hst => hout ?_
      rw [← show t = s from hst]
      exact Slots.mem_entries.mp ht
    · cases List.mem_or_eq_of_mem_set ht with
      | inl hbefore => exact h.isOpen t hbefore
      | inr hnew =>
        cases hnew
        exact hopen

theorem createSession (h : SlotsInv pool) (target : Target) (protocol : HttpProtocol)
    (expirationInMilliseconds : Int) :
    SlotsInv (pool.createSession target protocol expirationInMilliseconds) := by
  refine h.of_heap fun s _ hopen => ?_
  rw [SharedSessionPool.isOpen] at hopen ⊢
  cases hsession : pool.heap[s]? with
  | none => simp [hsession] at hopen
  | some session =>
    rw [hsession] at hopen
    rw [List.getElem?_append_left (List.getElem?_eq_some_iff.mp hsession).1, hsession]
    exact hopen

end SlotsInv

theorem initSharedSessionPool_slotsInv (time : Int) :
    SlotsInv (SharedSessionPool.initSharedSessionPool time) := by
  rw [SharedSessionPool.initSharedSessionPool]
  refine ⟨List.length_replicate, ?_, ?_, ?_, fun s hs => ?_⟩
  · rw [mapOf, List.map_replicate]
    rfl
  · rw [Slots.entries_replicate_none]
    rfl
  · rw [Slots.Distinct, Slots.entries_replicate_none]
    exact List.nodup_nil
  · cases (List.mem_replicate.mp hs).2

theorem stepPoolCalls_slotsInv (pool : SharedSessionPool) (call : PoolCall) (h : SlotsInv pool)
    (hkeeps : KeepsSlots pool call) : SlotsInv (stepPoolCalls pool call) := by
  cases call with
  | registerSession basket => exact h.registerSession hkeeps
  | getSessionInfo basket => exact h.getSessionInfo basket
  | cleanupSessions isAll => exact h.cleanupSessions isAll
  | cleanupTargetSession basket =>
    cases hsession : basket.session with
    | some s => exact h.cleanupTargetSession hsession
    | none =>
      -- no slot is empty, so none matches
      have hfull : none ∉ pool.sessions := fun hnone => hkeeps hnone hsession
      have hmiss : pool.sessions.findIdx? (· = basket.session) = none := by
        rw [List.findIdx?_eq_none_iff, hsession]
        exact fun slot hslot => decide_eq_false fun hnone => hfull (hnone ▸ hslot)
      rw [stepPoolCalls, SharedSessionPool.cleanupTargetSession, hmiss]
      exact h
  | markProxySessionsGoingAway basket => exact h.markProxySessionsGoingAway basket
  | createSession target protocol expirationInMilliseconds =>
    exact h.createSession target protocol expirationInMilliseconds
  | useSession s inflightCount goingAway connected => exact h.updateSession s fun _ => rfl
  | tick seconds => exact { h with }

/-! ## The other calls -/

/-- Whatever else a mapped slot gets, the arrays do not agree. -/
theorem keepsSlots_of_registerSession {pool : SharedSessionPool} {basket : PoolBasket}
    (h : SlotsInv pool) (hsound : PoolSound (pool.registerSession basket)) :
    KeepsSlots pool (.registerSession basket) := by
  intro hzero
  obtain ⟨slotIndex, hfree⟩ : ∃ i, pool.sessionMap.findIdx? (· = 0) = some i := by
    refine Option.ne_none_iff_exists'.mp fun hnone => ?_
    have hnot := List.findIdx?_eq_none_iff.mp hnone 0 hzero
    simp at hnot
  have hempty := h.findIdx?_unmapped hfree
  have hlt : slotIndex < pool.sessions.length := (List.getElem?_eq_some_iff.mp hempty).1
  have hmapped : slotIndex < pool.sessionMap.length := by
    rw [h.map_eq, mapOf, List.length_map]
    exact hlt
  unfold SharedSessionPool.registerSession at hsound
  rw [hfree] at hsound
  cases hsession : basket.session with
  | none =>
    rw [hsession] at hsound
    obtain ⟨s, hslot, -⟩ := (hsound.mapped slotIndex).mp (List.getElem?_set_self hmapped)
    rw [List.getElem?_set_self hlt] at hslot
    cases hslot
  | some s =>
    rw [hsession] at hsound
    dsimp only at hsound
    have hslot : (pool.sessions.set slotIndex (some s))[slotIndex]? = some (some s) :=
      List.getElem?_set_self hlt
    obtain ⟨t, ht, hopen⟩ := (hsound.mapped slotIndex).mp (List.getElem?_set_self hmapped)
    cases Option.some.inj (Option.some.inj (hslot.symm.trans ht))
    refine ⟨s, rfl, ?_, fun hmem => ?_⟩
    · refine Eq.trans (Eq.symm ?_) hopen
      refine SlotsInv.isOpen_updateSession fun _ session => ?_
      rfl
    · -- the session has another slot already
      obtain ⟨j, hj⟩ := List.mem_iff_getElem?.mp hmem
      have hne : slotIndex ≠ j := by
        rintro rfl
        cases hempty.symm.trans hj
      have hkept : (pool.sessions.set slotIndex (some s))[j]? = some (some s) := by
        rw [List.getElem?_set_ne hne]
        exact hj
      exact hne (hsound.distinct slotIndex j s hslot hkept)

/-- An empty slot that is cleared is counted once more. -/
theorem keepsSlots_of_cleanupTargetSession {pool : SharedSessionPool} {basket : PoolBasket}
    (h : SlotsInv pool) (hsound : PoolSound (pool.cleanupTargetSession basket)) :
    KeepsSlots pool (.cleanupTargetSession basket) := by
  intro hnone hsession
  obtain ⟨i, hi⟩ : ∃ i, pool.sessions.findIdx? (· = basket.session) = some i := by
    refine Option.ne_none_iff_exists'.mp fun hmiss => ?_
    have hnot := List.findIdx?_eq_none_iff.mp hmiss none hnone
    simp [hsession] at hnot
  have hslot := SlotsInv.findIdx?_session hi
  rw [hsession] at hslot
  unfold SharedSessionPool.cleanupTargetSession at hsound
  rw [hi] at hsound
  dsimp only at hsound
  rw [hslot] at hsound
  have hmap : pool.sessionMap.set i 0 = pool.sessionMap := by
    have hzero : (mapOf pool.sessions)[i]? = some 0 := by
      rw [mapOf, List.getElem?_map, hslot]
      rfl
    rw [h.map_eq]
    exact Slots.set_eq_self hzero
  have hcount : (pool.sessionCount - 1).toNat = pool.sessionCount.toNat := by
    rw [h.toNat_count, ← hmap]
    exact hsound.counted
  have hlt := pool.sessionCount.toNat_lt
  rw [UInt64.toNat_sub, UInt64.toNat_one] at hcount
  omega

theorem runPoolCalls_sound_iff (time : Int) (calls : List PoolCall) :
    (∀ n, PoolSound (runPoolCalls time (calls.take n))) ↔
      Meets stepPoolCalls KeepsSlots (SharedSessionPool.initSharedSessionPool time) calls := by
  refine meets_iff_forall_take SlotsInv PoolSound stepPoolCalls_slotsInv (fun _ => SlotsInv.sound)
    (fun pool call h hsound => ?_) (initSharedSessionPool_slotsInv time)
  cases call with
  | registerSession basket => exact keepsSlots_of_registerSession h hsound
  | cleanupTargetSession basket => exact keepsSlots_of_cleanupTargetSession h hsound
  | _ => exact trivial

/-- The session of a basket is dropped before it has one, in an empty pool. -/
theorem cleanupTargetSession_underflow :
    let basket := newBasket ⟨ascii "https", ascii "localhost", ascii "443", .none, false⟩ false
      15000
    let pool := runPoolCalls 0 [.cleanupTargetSession basket]
    pool.sessionCount.toNat = 18446744073709551615 ∧ ¬PoolSound pool := by
  intro basket pool
  have hcount : pool.sessionCount.toNat = 18446744073709551615 := by
    decide +kernel
  have hmap : pool.sessionMap.count 1 = 0 := by
    decide +kernel
  refine ⟨hcount, fun hsound => ?_⟩
  have hcounted := hsound.counted
  rw [hcount, hmap] at hcounted
  cases hcounted

end HttpRequestClient.Client
