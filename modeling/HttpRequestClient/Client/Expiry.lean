import HttpRequestClient.Client.Pool

/-!
# The age of a pooled session

`registerSession` and `getSessionInfo` set the last use of a session, in full
seconds; a stream that ends does not.  The reaper compares the seconds since
then with the expiration, once there are no streams.

A `Timeline` is a pool with a clock of milliseconds.  It remembers when a last
use was set, and when the last exchange of a session ended.

* `runTimeline_expiry`: when every exchange ends in time for the reaper, no
  session is closed too early; whether it does or not, none is kept too long.
* `closed_early`: an exchange that does not end in time is closed too early, if
  the reaper runs at the wrong moment.
-/

namespace HttpRequestClient.Client

open Runs

/-! ## The use of sessions -/

namespace Pool

variable (pool : Pool)

/-- A basket, if it is in the phase. -/
def basketIn (b : Nat) (phase : BasketPhase) : Option PoolBasket :=
  (pool.baskets[b]?).filter fun basket => basket.phase = phase

/-- The session whose last use an event sets. -/
def stampedBy : PoolEvent → Option Nat
  | .getSessionInfo b => (pool.basketIn b .waiting).bind pool.reusable
  | .registerSession b =>
    (pool.basketIn b .created).bind fun basket =>
      if (pool.slots.findIdx? Option.isNone).isSome then basket.session else none
  | _ => none

/-- The session that an event unregisters a stream from. -/
def endedBy : PoolEvent → Option Nat
  | .unregisterStream b =>
    (pool.basketIn b .established).bind fun basket => if basket.stream then basket.session else none
  | _ => none

end Pool

/-- What an event does to a session that there is already. -/
structure SessionStep (pool : Pool) (event : PoolEvent) (i : Nat) : Prop where
  expiration : ((stepPool pool event).sessions i).expirationInMilliseconds =
    (pool.sessions i).expirationInMilliseconds
  lastUsed : ((stepPool pool event).sessions i).lastUsedTime =
    if pool.stampedBy event = some i then pool.time else (pool.sessions i).lastUsedTime
  ended : pool.endedBy event = some i →
    ((stepPool pool event).sessions i).inflightCount = (pool.sessions i).inflightCount - 1
  begun : pool.endedBy event ≠ some i →
    (pool.sessions i).inflightCount ≤ ((stepPool pool event).sessions i).inflightCount

section SessionStep

variable {pool : Pool} {b : Nat} {i : Nat}

/-- A call for a basket in a phase. -/
theorem inPhase_eq (phase : BasketPhase) (f : PoolBasket → Pool) :
    pool.inPhase b phase f = ((pool.basketIn b phase).map f).getD pool := by
  rw [Pool.inPhase, Pool.basketIn]
  cases pool.baskets[b]? with
  | none => rfl
  | some basket =>
    dsimp only
    rw [Option.filter_some]
    by_cases hphase : basket.phase = phase <;> simp [hphase]

/-- What the last use of the stamped session is set to. -/
def Pool.stamp (pool : Pool) (stamped : Option Nat) : Nat → PooledSession :=
  match stamped with
  | none => pool.sessions
  | some j => Function.update pool.sessions j { pool.sessions j with lastUsedTime := pool.time }

theorem getSessionInfo_sessions :
    (pool.getSessionInfo b).sessions = pool.stamp (pool.stampedBy (.getSessionInfo b)) := by
  rw [Pool.getSessionInfo, inPhase_eq, Pool.stampedBy]
  cases pool.basketIn b .waiting with
  | none => rfl
  | some basket =>
    simp only [Option.map_some, Option.getD_some, Option.bind_some]
    cases pool.reusable basket <;> rfl

theorem registerSession_sessions :
    (pool.registerSession b).sessions = pool.stamp (pool.stampedBy (.registerSession b)) := by
  rw [Pool.registerSession, inPhase_eq, Pool.stampedBy]
  cases pool.basketIn b .created with
  | none => rfl
  | some basket =>
    simp only [Option.map_some, Option.getD_some, Option.bind_some]
    cases pool.slots.findIdx? Option.isNone <;> cases basket.session <;> rfl

theorem SessionStep.of_stamp {event : PoolEvent} (hended : pool.endedBy event ≠ some i)
    (h : (stepPool pool event).sessions = pool.stamp (pool.stampedBy event)) :
    SessionStep pool event i := by
  refine ⟨?_, ?_, fun h => absurd h hended, fun _ => ?_⟩
  all_goals
    rw [h]
    cases pool.stampedBy event with
    | none => simp [Pool.stamp]
    | some j =>
      by_cases hj : i = j
      · simp [Pool.stamp, hj]
      · simp [Pool.stamp, hj, Ne.symm hj]

/-- The fields that tell the age of a session. -/
def aging (session : PooledSession) : Int × Int × Nat :=
  (session.expirationInMilliseconds, session.lastUsedTime, session.inflightCount)

theorem aging_setSession {j : Nat} {s : PooledSession} (h : aging s = aging (pool.sessions j)) :
    aging ((pool.setSession j s).sessions i) = aging (pool.sessions i) :=
  update_field aging h i

/-- An event that changes the sessions in other fields. -/
theorem SessionStep.of_aging {event : PoolEvent} (hstamped : pool.stampedBy event = none)
    (hended : pool.endedBy event = none)
    (haging : aging ((stepPool pool event).sessions i) = aging (pool.sessions i)) :
    SessionStep pool event i := by
  simp only [aging, Prod.mk.injEq] at haging
  obtain ⟨hexpiration, hlastUsed, hinflight⟩ := haging
  exact ⟨hexpiration, by rw [hlastUsed, hstamped]; rfl, by simp [hended], fun _ => hinflight.ge⟩

/-- The counting of a stream. -/
theorem SessionStep.of_inflight {event : PoolEvent} {j n : Nat}
    (hstamped : pool.stampedBy event = none)
    (hsessions : (stepPool pool event).sessions =
      Function.update pool.sessions j { pool.sessions j with inflightCount := n })
    (hended : pool.endedBy event = none ∧ (pool.sessions j).inflightCount ≤ n ∨
      pool.endedBy event = some j ∧ n = (pool.sessions j).inflightCount - 1) :
    SessionStep pool event i := by
  have hsession : (stepPool pool event).sessions i =
      if i = j then { pool.sessions j with inflightCount := n } else pool.sessions i := by
    rw [hsessions, Function.update_apply]
  by_cases hij : i = j
  · rw [hij, if_pos rfl] at hsession
    rw [hij]
    refine ⟨by rw [hsession], by rw [hsession, hstamped]; rfl, fun hj => ?_, fun hj => ?_⟩
    · rcases hended with ⟨hnone, -⟩ | ⟨-, hn⟩
      · exact nomatch hnone.symm.trans hj
      · rw [hsession, ← hn]
    · rw [hsession]
      exact hended.elim And.right fun h => absurd h.1 hj
  · rw [if_neg hij] at hsession
    refine ⟨by rw [hsession], by rw [hsession, hstamped]; rfl, fun hi => ?_, fun _ => ?_⟩
    · rcases hended with ⟨hnone, -⟩ | ⟨hj, -⟩
      · exact nomatch hnone.symm.trans hi
      · exact absurd (Option.some.inj (hi.symm.trans hj)) hij
    · rw [hsession]

/-- A stream is unregistered, or nothing happens. -/
theorem unregisterStream_cases (pool : Pool) (b : Nat) :
    pool.endedBy (.unregisterStream b) = none ∧ pool.unregisterStream b = pool ∨
      ∃ i basket, pool.endedBy (.unregisterStream b) = some i ∧ pool.unregisterStream b =
        (pool.setSession i
          { pool.sessions i with inflightCount := (pool.sessions i).inflightCount - 1 }).setBasket b
            basket := by
  rw [Pool.unregisterStream, inPhase_eq, Pool.endedBy]
  cases pool.basketIn b .established with
  | none => exact .inl ⟨rfl, rfl⟩
  | some basket =>
    simp only [Option.map_some, Option.getD_some, Option.bind_some]
    cases hsession : basket.session with
    | none => exact .inl ⟨ite_self _, rfl⟩
    | some i =>
      dsimp only
      split
      · exact .inr ⟨i, _, rfl, rfl⟩
      · exact .inl ⟨rfl, rfl⟩

theorem stepPool_session (event : PoolEvent) (hi : i < pool.created) :
    SessionStep pool event i := by
  cases event with
  | handleRequest target forceHttp11 expiration => exact .of_aging rfl rfl rfl
  | cleanupSessions isAll => exact .of_aging rfl rfl rfl
  | closeSession j =>
    refine .of_aging rfl rfl ?_
    show aging ((pool.closeSession j).sessions i) = aging (pool.sessions i)
    rw [Pool.closeSession]
    split
    · exact aging_setSession (s := { pool.sessions j with closed := true }) rfl
    · rfl
  | getSessionInfo b => exact .of_stamp (by simp [Pool.endedBy]) getSessionInfo_sessions
  | createSession b protocol =>
    refine .of_aging rfl rfl ?_
    show aging ((pool.createSession b protocol).sessions i) = aging (pool.sessions i)
    rw [Pool.createSession, inPhase_eq]
    cases pool.basketIn b .missed with
    | none => rfl
    | some basket =>
      show aging (Function.update pool.sessions pool.created _ i) = _
      rw [Function.update_of_ne (Nat.ne_of_lt hi)]
  | registerSession b => exact .of_stamp (by simp [Pool.endedBy]) registerSession_sessions
  | markProxySessionsGoingAway b =>
    refine .of_aging rfl rfl ?_
    show aging ((pool.markProxySessionsGoingAway b).sessions i) = aging (pool.sessions i)
    rw [Pool.markProxySessionsGoingAway, inPhase_eq]
    cases pool.basketIn b .missed with
    | none => rfl
    | some basket =>
      simp only [Option.map_some, Option.getD_some]
      split <;> rfl
  | registerStream b =>
    have hstep : stepPool pool (.registerStream b) = pool.registerStream b := rfl
    rw [Pool.registerStream, inPhase_eq] at hstep
    have hsame (h : stepPool pool (.registerStream b) = pool) :
        SessionStep pool (.registerStream b) i := .of_aging rfl rfl (by rw [h])
    cases hbasket : pool.basketIn b .established with
    | none => exact hsame (by rw [hstep, hbasket]; rfl)
    | some basket =>
      simp only [hbasket, Option.map_some, Option.getD_some] at hstep
      cases hsession : basket.session with
      | none => exact hsame (by rw [hstep, hsession])
      | some j =>
        rw [hsession] at hstep
        dsimp only at hstep
        split at hstep
        · exact .of_inflight rfl (by rw [hstep]; rfl) (.inl ⟨rfl, Nat.le_succ _⟩)
        · exact hsame hstep
  | unregisterStream b =>
    have hstep : stepPool pool (.unregisterStream b) = pool.unregisterStream b := rfl
    rcases unregisterStream_cases pool b with ⟨hnone, hsame⟩ | ⟨j, basket, hended, hsession⟩
    · exact .of_aging rfl hnone (by rw [hstep, hsame])
    · exact .of_inflight rfl (by rw [hstep, hsession]; rfl) (.inr ⟨hended, rfl⟩)
  | prepareRetry b forceHttp11 =>
    refine .of_aging rfl rfl ?_
    show aging ((pool.prepareRetry b forceHttp11).sessions i) = aging (pool.sessions i)
    rw [Pool.prepareRetry, inPhase_eq]
    cases pool.basketIn b .established with
    | none => rfl
    | some basket =>
      simp only [Option.map_some, Option.getD_some]
      cases basket.session with
      | none => rfl
      | some j =>
        dsimp only
        split
        · rfl
        · exact aging_setSession (s := { pool.sessions j with goingAway := true }) rfl
  | freeBasket b =>
    refine .of_aging rfl rfl ?_
    show aging ((pool.freeBasket b).sessions i) = aging (pool.sessions i)
    rw [Pool.freeBasket]
    split
    · rfl
    · split <;> rfl
  | goAway j =>
    exact .of_aging rfl rfl (aging_setSession (s := { pool.sessions j with goingAway := true }) rfl)
  | disconnect j =>
    exact .of_aging rfl rfl (aging_setSession (s := { pool.sessions j with connected := false }) rfl)
  | tick seconds => exact .of_aging rfl rfl rfl

/-- What an event does to the pool itself. -/
structure PoolStep (pool : Pool) (event : PoolEvent) (after : Pool) : Prop where
  created : pool.created ≤ after.created
  slots : ∀ i, some i ∈ after.slots → some i ∈ pool.slots ∨ pool.stampedBy event = some i
  time : after.time = pool.time

theorem PoolStep.of_slots {event : PoolEvent} {after : Pool} (hcreated : pool.created ≤ after.created)
    (hslots : after.slots = pool.slots) (htime : after.time = pool.time) :
    PoolStep pool event after :=
  ⟨hcreated, fun _ hi => .inl (hslots ▸ hi), htime⟩

theorem PoolStep.refl {event : PoolEvent} : PoolStep pool event pool :=
  .of_slots (Nat.le_refl _) rfl rfl

theorem registerSession_step : PoolStep pool (.registerSession b) (pool.registerSession b) := by
  refine ⟨?_, fun i hi => ?_, ?_⟩
  · refine inPhase_keeps (P := fun after => pool.created ≤ after.created) (Nat.le_refl _)
      fun basket _ _ => ?_
    dsimp only
    split <;> exact Nat.le_refl _
  · rw [Pool.registerSession, inPhase_eq] at hi
    rw [Pool.stampedBy]
    cases hbasket : pool.basketIn b .created with
    | none =>
      rw [hbasket] at hi
      exact .inl hi
    | some basket =>
      simp only [hbasket, Option.map_some, Option.getD_some] at hi
      split at hi
      · rename_i j slot hsession hslot
        rcases List.mem_or_eq_of_mem_set hi with hold | hnew
        · exact .inl hold
        · rw [Option.bind_some, hslot, if_pos Option.isSome_some, hsession, hnew]
          exact .inr rfl
      · exact .inl hi
  · refine inPhase_keeps (P := fun after => after.time = pool.time) rfl fun basket _ _ => ?_
    dsimp only
    split <;> rfl

theorem stepPool_pool {event : PoolEvent} (htick : ∀ seconds, event ≠ .tick seconds) :
    PoolStep pool event (stepPool pool event) := by
  cases event with
  | handleRequest target forceHttp11 expiration => exact .of_slots (Nat.le_refl _) rfl rfl
  | cleanupSessions isAll =>
    exact ⟨Nat.le_refl _, fun i hi => .inl (mem_cleanupSessions.mp hi).1, rfl⟩
  | closeSession j =>
    show PoolStep pool (.closeSession j) (pool.closeSession j)
    rw [Pool.closeSession]
    split
    · exact .of_slots (Nat.le_refl _) rfl rfl
    · exact .refl
  | getSessionInfo b =>
    refine inPhase_keeps .refl fun basket _ _ => ?_
    split <;> exact .of_slots (Nat.le_refl _) rfl rfl
  | createSession b protocol =>
    exact inPhase_keeps .refl fun basket _ _ => .of_slots (Nat.le_succ _) rfl rfl
  | registerSession b => exact registerSession_step
  | markProxySessionsGoingAway b =>
    exact inPhase_keeps .refl fun basket _ _ => .of_slots (Nat.le_refl _) rfl rfl
  | registerStream b =>
    refine inPhase_keeps .refl fun basket _ _ => ?_
    split
    · exact .refl
    · dsimp only
      split
      · exact .of_slots (Nat.le_refl _) rfl rfl
      · exact .refl
  | unregisterStream b =>
    refine inPhase_keeps .refl fun basket _ _ => ?_
    split
    · exact .refl
    · dsimp only
      split
      · exact .of_slots (Nat.le_refl _) rfl rfl
      · exact .refl
  | prepareRetry b forceHttp11 =>
    refine inPhase_keeps .refl fun basket _ _ => ?_
    split
    · exact .refl
    · split
      · exact .refl
      · exact .of_slots (Nat.le_refl _) rfl rfl
  | freeBasket b =>
    show PoolStep pool (.freeBasket b) (pool.freeBasket b)
    rw [Pool.freeBasket]
    split
    · exact .refl
    · split
      · exact .refl
      · exact .of_slots (Nat.le_refl _) rfl rfl
  | goAway j => exact .of_slots (Nat.le_refl _) rfl rfl
  | disconnect j => exact .of_slots (Nat.le_refl _) rfl rfl
  | tick seconds => exact absurd rfl (htick seconds)

theorem basketIn_mem {phase : BasketPhase} {basket : PoolBasket}
    (h : pool.basketIn b phase = some basket) : basket ∈ pool.baskets :=
  List.mem_of_getElem? (Option.filter_eq_some_iff.mp h).1

/-- Only sessions that there are are used. -/
theorem stampedBy_lt (h : StreamsInv pool) {event : PoolEvent}
    (hi : pool.stampedBy event = some i) : i < pool.created := by
  unfold Pool.stampedBy at hi
  split at hi
  · obtain ⟨basket, -, hreusable⟩ := Option.bind_eq_some_iff.mp hi
    exact h.pooled i (mem_slots_of_reusable hreusable)
  · obtain ⟨basket, hbasket, hsession⟩ := Option.bind_eq_some_iff.mp hi
    split at hsession
    · exact h.bounded basket (basketIn_mem hbasket) i hsession
    · cases hsession
  · cases hi

/-- A stream that ends was counted by its session. -/
theorem endedBy_pos (h : StreamsInv pool) {event : PoolEvent} (hi : pool.endedBy event = some i) :
    i < pool.created ∧ 0 < (pool.sessions i).inflightCount := by
  unfold Pool.endedBy at hi
  split at hi
  · obtain ⟨basket, hbasket, hsession⟩ := Option.bind_eq_some_iff.mp hi
    split at hsession
    · rename_i hstream
      exact ⟨h.bounded basket (basketIn_mem hbasket) i hsession,
        h.inflightCount_pos (basketIn_mem hbasket) hstream hsession⟩
    · cases hsession
  · cases hi

end SessionStep

/-! ## Timelines -/

/-- A pool with a clock of milliseconds. -/
structure Timeline where
  now : Int
  pool : Pool
  /-- When the last use of a session was set. -/
  stampedAt : Nat → Int
  /-- When the last exchange of a session ended. -/
  endedAt : Nat → Option Int

def initTimeline (now : Int) : Timeline :=
  ⟨now, initSharedSessionPool (now / 1000), fun _ => now, fun _ => none⟩

def elapsed : PoolEvent → Nat
  | .tick milliseconds => milliseconds
  | _ => 0

/-- A tick is one of milliseconds, and `time` counts the full seconds. -/
def inSeconds (now : Int) : PoolEvent → PoolEvent
  | .tick milliseconds => .tick ((now + milliseconds) / 1000 - now / 1000).toNat
  | event => event

/-- The time at which something has last happened to a session. -/
def record {α : Type} (times : Nat → α) (i : Option Nat) (time : α) : Nat → α :=
  fun j => if i = some j then time else times j

def stepTimeline (t : Timeline) (event : PoolEvent) : Timeline where
  now := t.now + elapsed event
  pool := stepPool t.pool (inSeconds t.now event)
  stampedAt := record t.stampedAt (t.pool.stampedBy event) t.now
  endedAt := record t.endedAt (t.pool.endedBy event) (some t.now)

def runTimeline (now : Int) (events : List PoolEvent) : Timeline :=
  run stepTimeline (initTimeline now) events

/-! ## What is asked of the reaper -/

def Timeline.expiration (t : Timeline) (i : Nat) : Int :=
  (t.pool.sessions i).expirationInMilliseconds

/-- The session is in the pool, and the reaper closes it for its age alone. -/
def Timeline.ClosesForExpiry (t : Timeline) (i : Nat) : Prop :=
  some i ∈ t.pool.slots ∧ some i ∉ (t.pool.cleanupSessions false).slots ∧
    (t.pool.sessions i).goingAway = false ∧ (t.pool.sessions i).connected = true

/-- No stream of the session is registered, and for longer than this time none
was, and the session was not reused. -/
def Timeline.Unused (t : Timeline) (i : Nat) (time : Int) : Prop :=
  (∀ basket ∈ t.pool.baskets, countedOn i basket = false) ∧ t.stampedAt i + time < t.now ∧
    ∀ ended ∈ t.endedAt i, ended + time < t.now

/-- The reaper, if it runs now, closes no session for its age whose last exchange
ended less than its expiration ago, and every session that was not used for a
second more than that. -/
structure ExpiryKept (t : Timeline) : Prop where
  spared : ∀ i, t.ClosesForExpiry i → ∀ ended ∈ t.endedAt i, ended + t.expiration i ≤ t.now
  closed : ∀ i, some i ∈ t.pool.slots → t.Unused i (t.expiration i + 1000) →
    some i ∉ (t.pool.cleanupSessions false).slots

/-- From when on the seconds of the reaper exceed an expiration. -/
def reapedFrom (stampedAt expiration : Int) : Int :=
  1000 * (stampedAt / 1000 + expiration / 1000 + 1)

/-- An exchange that leaves its session without streams ends so early that the
session has expired when the reaper takes it. -/
def EndsInTime (t : Timeline) (event : PoolEvent) : Prop :=
  ∀ i ∈ t.pool.endedBy event, (t.pool.sessions i).inflightCount = 1 → 0 < t.expiration i →
    t.now + t.expiration i ≤ reapedFrom (t.stampedAt i) (t.expiration i)

instance instDecidableEndsInTime (t : Timeline) (event : PoolEvent) :
    Decidable (EndsInTime t event) :=
  inferInstanceAs (Decidable (∀ i ∈ t.pool.endedBy event, _ → _ → _))

/-! ## The clock -/

section Timeline

variable {t : Timeline} {event : PoolEvent} {i : Nat}

@[simp] theorem stampedBy_inSeconds :
    t.pool.stampedBy (inSeconds t.now event) = t.pool.stampedBy event := by
  cases event <;> rfl

@[simp] theorem endedBy_inSeconds :
    t.pool.endedBy (inSeconds t.now event) = t.pool.endedBy event := by
  cases event <;> rfl

theorem now_le_stepTimeline : t.now ≤ (stepTimeline t event).now :=
  Int.le_add_of_nonneg_right (Int.natCast_nonneg _)

theorem le_stampedAt_stepTimeline (h : t.stampedAt i ≤ t.now) :
    t.stampedAt i ≤ (stepTimeline t event).stampedAt i := by
  show t.stampedAt i ≤ if t.pool.stampedBy event = some i then t.now else t.stampedAt i
  split
  · exact h
  · exact Int.le_refl _

/-- What an event does to the pool of a timeline. -/
structure TimelineStep (t : Timeline) (event : PoolEvent) : Prop where
  created : t.pool.created ≤ (stepTimeline t event).pool.created
  slots : ∀ i, some i ∈ (stepTimeline t event).pool.slots →
    some i ∈ t.pool.slots ∨ t.pool.stampedBy event = some i
  time : t.pool.time = t.now / 1000 →
    (stepTimeline t event).pool.time = (stepTimeline t event).now / 1000

theorem inSeconds_eq {now : Int} (htick : ∀ milliseconds, event ≠ .tick milliseconds) :
    inSeconds now event = event ∧ elapsed event = 0 := by
  cases event with
  | tick milliseconds => exact absurd rfl (htick milliseconds)
  | _ => exact ⟨rfl, rfl⟩

theorem stepTimeline_pool (t : Timeline) (event : PoolEvent) : TimelineStep t event := by
  by_cases htick : ∀ milliseconds, event ≠ .tick milliseconds
  · obtain ⟨hsame, hstill⟩ : inSeconds t.now event = event ∧ elapsed event = 0 :=
      inSeconds_eq htick
    have hpool : (stepTimeline t event).pool = stepPool t.pool event := by
      rw [stepTimeline, hsame]
    have hnow : (stepTimeline t event).now = t.now := by
      rw [stepTimeline, hstill]
      exact Int.add_zero _
    have hstep : PoolStep t.pool event (stepPool t.pool event) := stepPool_pool htick
    refine ⟨?_, ?_, fun htime => ?_⟩
    · rw [hpool]
      exact hstep.created
    · rw [hpool]
      exact hstep.slots
    · rw [hpool, hnow]
      exact hstep.time.trans htime
  · obtain ⟨milliseconds, htick⟩ := not_forall.mp htick
    cases not_not.mp htick
    refine ⟨Nat.le_refl _, fun i hi => .inl hi, fun htime => ?_⟩
    show t.pool.time + ((t.now + milliseconds) / 1000 - t.now / 1000).toNat =
      (t.now + milliseconds) / 1000
    omega

theorem stepTimeline_session (event : PoolEvent) (hi : i < t.pool.created) :
    SessionStep t.pool (inSeconds t.now event) i :=
  stepPool_session (inSeconds t.now event) hi

/-- What holds of the times. -/
structure TimelineInv (t : Timeline) : Prop where
  streams : StreamsInv t.pool
  time : t.pool.time = t.now / 1000
  stamped : ∀ i, some i ∈ t.pool.slots → (t.pool.sessions i).lastUsedTime = t.stampedAt i / 1000
  used : ∀ i, t.stampedAt i ≤ t.now
  ended : ∀ i, ∀ ended ∈ t.endedAt i, ended ≤ t.now
  fresh : ∀ i, t.pool.created ≤ i → t.endedAt i = none

theorem initTimeline_inv (now : Int) : TimelineInv (initTimeline now) where
  streams := (initSharedSessionPool_inv _).streams
  time := rfl
  stamped := fun _ hi => nomatch (List.mem_replicate.mp hi).2
  used := fun _ => Int.le_refl _
  ended := fun _ _ h => nomatch h
  fresh := fun _ _ => rfl

theorem TimelineInv.stamped_step (h : TimelineInv t)
    (hi : some i ∈ (stepTimeline t event).pool.slots) :
    ((stepTimeline t event).pool.sessions i).lastUsedTime =
      (stepTimeline t event).stampedAt i / 1000 := by
  have hstep (hlt : i < t.pool.created) := (stepTimeline_session event hlt).lastUsed
  simp only [stampedBy_inSeconds] at hstep
  show _ = (if t.pool.stampedBy event = some i then t.now else t.stampedAt i) / 1000
  by_cases hstamped : t.pool.stampedBy event = some i
  · simp only [if_pos hstamped] at hstep ⊢
    exact (hstep (stampedBy_lt h.streams hstamped)).trans h.time
  · simp only [if_neg hstamped] at hstep ⊢
    have hold := ((stepTimeline_pool t event).slots i hi).resolve_right hstamped
    exact (hstep (h.streams.pooled i hold)).trans (h.stamped i hold)

theorem stepTimeline_inv (h : TimelineInv t) (event : PoolEvent) :
    TimelineInv (stepTimeline t event) where
  streams := stepPool_streams h.streams
  time := (stepTimeline_pool t event).time h.time
  stamped i hi := h.stamped_step hi
  used i := by
    refine Int.le_trans ?_ now_le_stepTimeline
    show (if t.pool.stampedBy event = some i then t.now else t.stampedAt i) ≤ t.now
    split
    · exact Int.le_refl _
    · exact h.used i
  ended i ended hended := by
    refine Int.le_trans ?_ now_le_stepTimeline
    have hwhen : (if t.pool.endedBy event = some i then some t.now else t.endedAt i) = some ended :=
      hended
    split at hwhen
    · exact Int.le_of_eq (Option.some.inj hwhen).symm
    · exact h.ended i ended hwhen
  fresh i hi := by
    have hle : t.pool.created ≤ i := Nat.le_trans (stepTimeline_pool t event).created hi
    show (if t.pool.endedBy event = some i then some t.now else t.endedAt i) = none
    rw [if_neg fun hended => Nat.not_lt.mpr hle (endedBy_pos h.streams hended).1]
    exact h.fresh i hle

/-! ## The reaper -/

/-- The seconds of the reaper exceed an expiration. -/
theorem reapedFrom_le_iff {now stampedAt expiration : Int} :
    reapedFrom stampedAt expiration ≤ now ↔
      (now / 1000 - stampedAt / 1000) * 1000 > expiration := by
  rw [reapedFrom]
  omega

theorem reapedFrom_mono {stampedAt later expiration : Int} (h : stampedAt ≤ later) :
    reapedFrom stampedAt expiration ≤ reapedFrom later expiration := by
  rw [reapedFrom, reapedFrom]
  omega

theorem not_mem_cleanupSessions (hi : some i ∈ t.pool.slots) :
    some i ∉ (t.pool.cleanupSessions false).slots ↔ t.pool.reapable false i = true := by
  rw [mem_cleanupSessions, ← Bool.not_eq_false]
  exact ⟨fun h hnot => h ⟨hi, hnot⟩, fun h hmem => h hmem.2⟩

theorem TimelineInv.expired_iff (h : TimelineInv t) (hi : some i ∈ t.pool.slots) :
    (t.pool.time - (t.pool.sessions i).lastUsedTime) * 1000 > t.expiration i ↔
      reapedFrom (t.stampedAt i) (t.expiration i) ≤ t.now := by
  rw [reapedFrom_le_iff, h.time, h.stamped i hi]

theorem TimelineInv.closesForExpiry_iff (h : TimelineInv t) :
    t.ClosesForExpiry i ↔
      some i ∈ t.pool.slots ∧
        ((t.pool.sessions i).goingAway = false ∧ (t.pool.sessions i).connected = true) ∧
        (t.pool.sessions i).inflightCount = 0 ∧
        reapedFrom (t.stampedAt i) (t.expiration i) ≤ t.now := by
  rw [Timeline.ClosesForExpiry]
  refine and_congr_right fun hi => ?_
  rw [not_mem_cleanupSessions hi, and_comm]
  refine and_congr_right fun ⟨hgoing, hconnected⟩ => ?_
  rw [← h.expired_iff hi, Pool.reapable, decide_eq_true_iff]
  simp [hgoing, hconnected, Timeline.expiration]

/-- A session that is not used is not kept, however long its exchanges were. -/
theorem TimelineInv.closed (h : TimelineInv t) (hi : some i ∈ t.pool.slots)
    (hunused : t.Unused i (t.expiration i + 1000)) :
    some i ∉ (t.pool.cleanupSessions false).slots := by
  obtain ⟨hfree, hstamped, -⟩ := hunused
  have hnone : (t.pool.sessions i).inflightCount = 0 := by
    rw [h.streams.counted i, List.countP_eq_zero]
    intro basket hbasket
    simp [hfree basket hbasket]
  have hexpired : (t.pool.time - (t.pool.sessions i).lastUsedTime) * 1000 > t.expiration i := by
    rw [h.time, h.stamped i hi]
    omega
  rw [not_mem_cleanupSessions hi, Pool.reapable, decide_eq_true_iff]
  exact ⟨hnone, .inr (.inr (.inr hexpired))⟩

/-- The sessions without streams have expired when the reaper takes them. -/
def EndedInTime (t : Timeline) : Prop :=
  ∀ i, (t.pool.sessions i).inflightCount = 0 → 0 < t.expiration i →
    ∀ ended ∈ t.endedAt i, ended + t.expiration i ≤ reapedFrom (t.stampedAt i) (t.expiration i)

theorem stepTimeline_endedInTime (h : TimelineInv t) (hintime : EndedInTime t)
    (hends : EndsInTime t event) : EndedInTime (stepTimeline t event) := by
  intro i hnone hpos ended hended
  have hwhen : (if t.pool.endedBy event = some i then some t.now else t.endedAt i) = some ended :=
    hended
  have hlt : i < t.pool.created := by
    split at hwhen
    · rename_i hby
      exact (endedBy_pos h.streams hby).1
    · refine Nat.lt_of_not_le fun hle => ?_
      exact nomatch (h.fresh i hle).symm.trans hwhen
  have hstep := stepTimeline_session event hlt
  have hexpiration : (stepTimeline t event).expiration i = t.expiration i := hstep.expiration
  rw [hexpiration] at hpos ⊢
  refine Int.le_trans ?_ (reapedFrom_mono (le_stampedAt_stepTimeline (h.used i)))
  split at hwhen
  · rename_i hby
    cases hwhen
    have hcount := hstep.ended (endedBy_inSeconds.trans hby)
    have hstream := (endedBy_pos h.streams hby).2
    refine hends i hby ?_ hpos
    have hzero : (t.pool.sessions i).inflightCount - 1 = 0 := hcount.symm.trans hnone
    omega
  · rename_i hby
    have hcount := hstep.begun fun hended => hby (endedBy_inSeconds.symm.trans hended)
    exact hintime i (Nat.le_zero.mp (hcount.trans_eq hnone)) hpos ended hwhen

theorem TimelineInv.expiryKept (h : TimelineInv t) (hintime : EndedInTime t) : ExpiryKept t where
  spared i hcloses ended hended := by
    obtain ⟨-, -, hnone, hfrom⟩ := h.closesForExpiry_iff.mp hcloses
    by_cases hpos : 0 < t.expiration i
    · exact Int.le_trans (hintime i hnone hpos ended hended) hfrom
    · have hpast := h.ended i ended hended
      omega
  closed i hi hunused := h.closed hi hunused

end Timeline

theorem runTimeline_inv (now : Int) (events : List PoolEvent) :
    TimelineInv (runTimeline now events) :=
  run_invariant (P := TimelineInv) (fun _ event h => stepTimeline_inv h event) events
    (initTimeline_inv now)

/-- When every exchange that leaves its session without streams ends in time
for the reaper, no session is closed for its age before its expiration has
passed.  In any case the reaper closes a session that was not used for a
second more than that. -/
theorem runTimeline_expiry (start : Int) {events : List PoolEvent}
    (h : Meets stepTimeline EndsInTime (initTimeline start) events) (n : Nat) :
    ExpiryKept (runTimeline start (events.take n)) := by
  rw [← List.take_append_drop n events, meets_append] at h
  have hkept : TimelineInv (runTimeline start (events.take n)) ∧
      EndedInTime (runTimeline start (events.take n)) := by
    refine run_keeps (P := fun t => TimelineInv t ∧ EndedInTime t) (fun t event hinv hends => ?_)
      h.1 ⟨initTimeline_inv start, fun _ _ _ _ hended => nomatch hended⟩
    exact ⟨stepTimeline_inv hinv.1 event, stepTimeline_endedInTime hinv.1 hinv.2 hends⟩
  exact hkept.1.expiryKept hkept.2

/-- A short exchange.  Its session stays in the pool for four seconds, and is
closed when it was not used for more than five. -/
theorem runTimeline_expiry_idle :
    let target : Target := ⟨ascii "http", ascii "localhost", ascii "8080", .none, false⟩
    let events : List PoolEvent :=
      [.handleRequest target false 4000, .getSessionInfo 0, .createSession 0 .http11,
        .registerSession 0, .registerStream 0, .tick 500, .unregisterStream 0, .tick 4000,
        .cleanupSessions false, .tick 500, .tick 1000]
    let early := runTimeline 0 (events.take 9)
    let later := runTimeline 0 (events.take 10)
    let last := runTimeline 0 events
    some 0 ∈ early.pool.slots ∧
      (later.ClosesForExpiry 0 ∧ later.endedAt 0 = some 500 ∧
        500 + later.expiration 0 ≤ later.now) ∧
      last.Unused 0 (last.expiration 0 + 1000) ∧
      some 0 ∉ (last.pool.cleanupSessions false).slots := by
  intro target events early later last
  have hmeets : Meets stepTimeline EndsInTime (initTimeline 0) events := by decide +kernel
  have hearly : some 0 ∈ early.pool.slots := by decide +kernel
  have hcloses : later.ClosesForExpiry 0 :=
    ⟨by decide +kernel, by decide +kernel, by decide +kernel, by decide +kernel⟩
  have hended : later.endedAt 0 = some 500 := by decide +kernel
  have hslot : some 0 ∈ last.pool.slots := by decide +kernel
  have hunused : last.Unused 0 (last.expiration 0 + 1000) :=
    ⟨by decide +kernel, by decide +kernel, by decide +kernel⟩
  have hlater : ExpiryKept later := runTimeline_expiry 0 hmeets 10
  have hlast : ExpiryKept last := runTimeline_expiry 0 hmeets 11
  exact ⟨hearly, ⟨hcloses, hended, hlater.spared 0 hcloses 500 hended⟩, hunused,
    hlast.closed 0 hslot hunused⟩

/-- An exchange that takes six seconds.  A millisecond after its end the
reaper closes the session, which was to be kept for four seconds. -/
theorem runTimeline_closed_early :
    let target : Target := ⟨ascii "http", ascii "localhost", ascii "8080", .none, false⟩
    let events : List PoolEvent :=
      [.handleRequest target false 4000, .getSessionInfo 0, .createSession 0 .http11,
        .registerSession 0, .registerStream 0, .tick 6000, .unregisterStream 0, .tick 1]
    let t := runTimeline 0 events
    (t.ClosesForExpiry 0 ∧ t.endedAt 0 = some 6000 ∧ t.expiration 0 = 4000 ∧ t.now = 6001) ∧
      ¬ExpiryKept t := by
  intro target events t
  have hcloses : t.ClosesForExpiry 0 :=
    ⟨by decide +kernel, by decide +kernel, by decide +kernel, by decide +kernel⟩
  have hended : t.endedAt 0 = some 6000 := by decide +kernel
  refine ⟨⟨hcloses, hended, by decide +kernel, by decide +kernel⟩, fun hkept => ?_⟩
  have hspared : 6000 + t.expiration 0 ≤ t.now := hkept.spared 0 hcloses 6000 hended
  exact absurd hspared (by decide +kernel)

/-! ## Exchanges that end late -/

section Late

variable {pool : Pool} {t : Timeline} {event : PoolEvent} {i : Nat}

theorem stepPool_of_endedBy (hi : pool.endedBy event = some i) :
    ∃ b basket, event = .unregisterStream b ∧ pool.unregisterStream b =
      (pool.setSession i
        { pool.sessions i with inflightCount := (pool.sessions i).inflightCount - 1 }).setBasket b
          basket := by
  cases event with
  | unregisterStream b =>
    rcases unregisterStream_cases pool b with ⟨hnone, -⟩ | ⟨j, basket, hended, hstep⟩
    · exact nomatch hnone.symm.trans hi
    · cases Option.some.inj (hended.symm.trans hi)
      exact ⟨b, basket, rfl, hstep⟩
  | _ => cases hi

/-- An exchange that does not end in time, on a session that could be reused.
There is a moment at which the reaper closes the session too early. -/
theorem closed_early {start : Int} {events : List PoolEvent}
    (hlate : ¬EndsInTime (runTimeline start events) event)
    (hreusable : ∀ i ∈ (runTimeline start events).pool.endedBy event,
      let session := (runTimeline start events).pool.sessions i
      some i ∈ (runTimeline start events).pool.slots ∧ session.goingAway = false ∧
        session.connected = true) :
    ∃ milliseconds, ¬ExpiryKept (runTimeline start (events ++ [event, .tick milliseconds])) := by
  obtain ⟨t, ht⟩ : ∃ t, runTimeline start events = t := ⟨_, rfl⟩
  have hinv : TimelineInv t := ht ▸ runTimeline_inv start events
  rw [ht] at hlate hreusable
  simp only [EndsInTime, not_forall, Int.not_le] at hlate
  obtain ⟨i, hby, hcount, hpos, hfrom⟩ := hlate
  obtain ⟨hslot, hgoing, hconnected⟩ := hreusable i hby
  obtain ⟨b, basket, rfl, hstep⟩ := stepPool_of_endedBy hby
  -- the moment at which the session has expired, or now if it has already
  obtain ⟨milliseconds, hms⟩ : ∃ milliseconds : Nat,
      milliseconds = (reapedFrom (t.stampedAt i) (t.expiration i) - t.now).toNat := ⟨_, rfl⟩
  refine ⟨milliseconds, fun hkept => ?_⟩
  let later := stepTimeline (stepTimeline t (.unregisterStream b)) (.tick milliseconds)
  have hlater : runTimeline start (events ++ [.unregisterStream b, .tick milliseconds]) = later := by
    rw [runTimeline, run_append]
    exact congrArg (fun t => stepTimeline (stepTimeline t _) _) ht
  rw [hlater] at hkept
  have hnow : later.now = t.now + milliseconds := by
    show t.now + ((0 : Nat) : Int) + milliseconds = t.now + milliseconds
    omega
  have hslots : later.pool.slots = t.pool.slots := by
    show (t.pool.unregisterStream b).slots = t.pool.slots
    rw [hstep]
    rfl
  have hsession : later.pool.sessions i = { t.pool.sessions i with inflightCount := 0 } := by
    show (t.pool.unregisterStream b).sessions i = _
    rw [hstep, hcount]
    exact Function.update_self ..
  have hexpiration : later.expiration i = t.expiration i := by
    rw [Timeline.expiration, hsession]
    rfl
  have hended : later.endedAt i = some t.now := if_pos hby
  have hcloses : later.ClosesForExpiry i := by
    have hinv : TimelineInv later := stepTimeline_inv (stepTimeline_inv hinv _) _
    refine hinv.closesForExpiry_iff.mpr ⟨hslots ▸ hslot, ?_, by rw [hsession], ?_⟩
    · rw [hsession]
      exact ⟨hgoing, hconnected⟩
    · show reapedFrom (t.stampedAt i) (later.expiration i) ≤ later.now
      rw [hexpiration, hnow]
      omega
  have hspared := hkept.spared i hcloses t.now hended
  rw [hexpiration, hnow] at hspared
  omega

end Late

end HttpRequestClient.Client
