import HttpRequestClient.Client.Pool

/-!
# The identity of a session

`initSession` copies into a session what its connection was made with: the
scheme, host and port, the proxy, the blocking mode, and the `clientHelloId`
of the TLS and HTTP/2 profile.  `getSessionInfo` compares all of these but
the last.

The pool does not depend on the `clientHelloId`, which is why `Pool` leaves
it out.  A `ProfiledPool` is a pool with the `clientHelloId` of each session.
Those of the baskets do not change after `buildBasket`, so they are a
parameter here.

Every session was made by one of the requests (`Made`), for its target and
with its profile.  `runProfiled_sameIdentity`: some requests get sessions of
their own identity, in whatever order things happen, if and only if those for
one target ask for one profile.
-/

namespace HttpRequestClient.Client

open Runs

/-- What a connection is made with. -/
structure Identity where
  target : Target
  clientHelloId : Bytes
  deriving Repr, DecidableEq

structure ProfiledPool where
  pool : Pool
  clientHelloIds : Nat → Bytes

/-! ## Steps -/

/-- The protocol of a new session, from the one that ALPN selects.  A plain
connection and a forced one are HTTP/1.1. -/
def connectionProtocol (basket : PoolBasket) (selected : HttpProtocol) : HttpProtocol :=
  if strcasecmp basket.target.scheme (ascii "http") = 0 then .http11
  else if basket.forceHttp11 = false ∧ selected = .http2 then .http2
  else .http11

def negotiate (pool : Pool) : PoolEvent → PoolEvent
  | .createSession b selected =>
    match pool.baskets[b]? with
    | none => .createSession b selected
    | some basket => .createSession b (connectionProtocol basket selected)
  | event => event

section Profiles

variable (clientHelloId : Nat → Bytes)

/-- `initSession` records the profile of the basket. -/
def initSessionProfile (profiled : ProfiledPool) : PoolEvent → (Nat → Bytes)
  | .createSession b _ =>
    Function.update profiled.clientHelloIds profiled.pool.created (clientHelloId b)
  | _ => profiled.clientHelloIds

def stepProfiled (profiled : ProfiledPool) (event : PoolEvent) : ProfiledPool where
  pool := stepPool profiled.pool (negotiate profiled.pool event)
  clientHelloIds := initSessionProfile clientHelloId profiled event

def initProfiledPool (time : Int) : ProfiledPool := ⟨initSharedSessionPool time, fun _ => []⟩

def runProfiled (time : Int) (events : List PoolEvent) : ProfiledPool :=
  run (stepProfiled clientHelloId) (initProfiledPool time) events

def sessionIdentity (profiled : ProfiledPool) (i : Nat) : Identity :=
  ⟨(profiled.pool.sessions i).target, profiled.clientHelloIds i⟩

/-- The session was established for what the basket asks for. -/
def SameIdentity (profiled : ProfiledPool) (b : Nat) (basket : PoolBasket) (i : Nat) : Prop :=
  sessionIdentity profiled i = ⟨basket.target, clientHelloId b⟩ ∧
    (basket.forceHttp11 = true → (profiled.pool.sessions i).protocol = .http11)

/-- What `getSessionInfo` asks of a session. -/
def fits (pool : Pool) (basket : PoolBasket) (i : Nat) : Bool :=
  let session := pool.sessions i
  ¬session.goingAway ∧ session.target = basket.target ∧
    Pool.sessionProtocolUsable session basket ∧ session.connected

/-- No session before this one in the pool fits the basket. -/
def FirstFit (pool : Pool) (basket : PoolBasket) (i : Nat) : Prop :=
  fits pool basket i = true ∧ ∃ before later, Slots.entries pool.slots = before ++ i :: later ∧
    ∀ j ∈ before, fits pool basket j = false

/-- The target of a request that comes in. -/
def requested? : PoolEvent → Option Target
  | .handleRequest target _ _ => some target
  | _ => none

/-- The targets of the requests of a run, in the order of their baskets. -/
def requestedTargets (events : List PoolEvent) : List Target := events.filterMap requested?

/-- Requests for one target ask for one profile. -/
def Agreeing (targets : List Target) : Prop :=
  ∀ b c target, targets[b]? = some target → targets[c]? = some target →
    clientHelloId b = clientHelloId c

/-- The first session that fits was made with the profile of the basket. -/
def FindsOwn (profiled : ProfiledPool) : PoolEvent → Prop
  | .getSessionInfo b => ∀ basket, profiled.pool.baskets[b]? = some basket →
      basket.phase = .waiting → ∀ i, FirstFit profiled.pool basket i →
        profiled.clientHelloIds i = clientHelloId b
  | _ => True

end Profiles

theorem reusable_eq_some_iff {pool : Pool} {basket : PoolBasket} {i : Nat} :
    pool.reusable basket = some i ↔ FirstFit pool basket i := by
  have hfind : (Slots.entries pool.slots).find? (fits pool basket) = some i ↔ _ :=
    List.find?_eq_some_iff_append
  refine hfind.trans ?_
  simp [FirstFit]

/-! ## What a step does -/

section Steps

variable {pool after : Pool} {event : PoolEvent} {b i : Nat} {basket moved : PoolBasket}

/-- Where the session of a basket comes from. -/
inductive Holds (pool : Pool) (b i : Nat) (basket : PoolBasket) : PoolEvent → Prop where
  | kept {event : PoolEvent} (hsession : basket.session = some i) : Holds pool b i basket event
  | found (hphase : basket.phase = .waiting) (hfirst : FirstFit pool basket i) :
      Holds pool b i basket (.getSessionInfo b)
  | made (protocol : HttpProtocol) (hphase : basket.phase = .missed) (hi : i = pool.created) :
      Holds pool b i basket (.createSession b protocol)

/-- The baskets keep their targets, a request adds one, and a basket that has a
session was there before. -/
structure HoldsAfter (pool : Pool) (event : PoolEvent) (after : Pool) : Prop where
  targets : after.baskets.map PoolBasket.target =
    pool.baskets.map PoolBasket.target ++ (requested? event).toList
  holds : ∀ b moved i, after.baskets[b]? = some moved → moved.session = some i →
    ∃ basket, pool.baskets[b]? = some basket ∧ moved.target = basket.target ∧
      moved.forceHttp11 = basket.forceHttp11 ∧ Holds pool b i basket event

theorem HoldsAfter.same (h : after.baskets = pool.baskets) (hnone : requested? event = none) :
    HoldsAfter pool event after := by
  refine ⟨?_, fun b moved i hmoved hsession => ?_⟩
  · rw [h, hnone, Option.toList_none, List.append_nil]
  · rw [h] at hmoved
    exact ⟨moved, hmoved, rfl, rfl, .kept hsession⟩

/-- One basket moves. -/
theorem HoldsAfter.set (hbasket : pool.baskets[b]? = some basket)
    (h : after.baskets = pool.baskets.set b moved) (hnone : requested? event = none)
    (htarget : moved.target = basket.target)
    (hsession : ∀ i, moved.session = some i →
      moved.forceHttp11 = basket.forceHttp11 ∧ Holds pool b i basket event) :
    HoldsAfter pool event after := by
  refine ⟨?_, fun c other i hother hi => ?_⟩
  · have hold : (pool.baskets.map PoolBasket.target)[b]? = some basket.target := by
      rw [List.getElem?_map, hbasket, Option.map_some]
    obtain ⟨hlt, hsame⟩ := List.getElem?_eq_some_iff.mp hold
    rw [h, hnone, Option.toList_none, List.append_nil, List.map_set, htarget, ← hsame,
      List.set_getElem_self]
  · rw [h] at hother
    rcases getElem?_set_basket hother with ⟨rfl, rfl⟩ | ⟨-, hsame⟩
    · obtain ⟨hforce, hholds⟩ := hsession i hi
      exact ⟨basket, hbasket, htarget, hforce, hholds⟩
    · exact ⟨other, hsame, rfl, rfl, .kept hi⟩

theorem holdsAfter_handleRequest (target : Target) (forceHttp11 : Bool) (expiration : Int) :
    HoldsAfter pool (.handleRequest target forceHttp11 expiration)
      (pool.handleRequest target forceHttp11 expiration) := by
  refine ⟨?_, fun b moved i hmoved hsession => ?_⟩
  · rw [Pool.handleRequest, List.map_append]
    rfl
  · rw [Pool.handleRequest, List.getElem?_append] at hmoved
    split at hmoved
    · exact ⟨moved, hmoved, rfl, rfl, .kept hsession⟩
    · rw [List.getElem?_singleton] at hmoved
      split at hmoved
      · cases hmoved
        cases hsession
      · cases hmoved

theorem holdsAfter_getSessionInfo (b : Nat) :
    HoldsAfter pool (.getSessionInfo b) (pool.getSessionInfo b) := by
  refine inPhase_keeps (HoldsAfter.same rfl rfl) fun basket hbasket hphase => ?_
  split
  · exact HoldsAfter.set hbasket rfl rfl rfl fun i hi => ⟨rfl, .kept hi⟩
  · rename_i i hi
    refine HoldsAfter.set hbasket rfl rfl rfl fun j hj => ⟨rfl, ?_⟩
    cases hj
    exact .found hphase (reusable_eq_some_iff.mp hi)

theorem holdsAfter_createSession (b : Nat) (protocol : HttpProtocol) :
    HoldsAfter pool (.createSession b protocol) (pool.createSession b protocol) := by
  refine inPhase_keeps (HoldsAfter.same rfl rfl) fun basket hbasket hphase => ?_
  refine HoldsAfter.set hbasket rfl rfl rfl fun j hj => ⟨rfl, ?_⟩
  cases hj
  exact .made protocol hphase rfl

theorem holdsAfter_registerSession (b : Nat) :
    HoldsAfter pool (.registerSession b) (pool.registerSession b) := by
  refine inPhase_keeps (HoldsAfter.same rfl rfl) fun basket hbasket _ => ?_
  dsimp only
  split
  · exact HoldsAfter.set hbasket rfl rfl rfl fun i hi => ⟨rfl, .kept hi⟩
  · exact HoldsAfter.set hbasket rfl rfl rfl fun i hi => ⟨rfl, .kept hi⟩

theorem holdsAfter_registerStream (b : Nat) :
    HoldsAfter pool (.registerStream b) (pool.registerStream b) := by
  refine inPhase_keeps (HoldsAfter.same rfl rfl) fun basket hbasket _ => ?_
  split
  · exact HoldsAfter.same rfl rfl
  · dsimp only
    split
    · exact HoldsAfter.set hbasket rfl rfl rfl fun i hi => ⟨rfl, .kept hi⟩
    · exact HoldsAfter.same rfl rfl

theorem holdsAfter_unregisterStream (b : Nat) :
    HoldsAfter pool (.unregisterStream b) (pool.unregisterStream b) := by
  refine inPhase_keeps (HoldsAfter.same rfl rfl) fun basket hbasket _ => ?_
  split
  · exact HoldsAfter.same rfl rfl
  · dsimp only
    split
    · exact HoldsAfter.set hbasket rfl rfl rfl fun i hi => ⟨rfl, .kept hi⟩
    · exact HoldsAfter.same rfl rfl

theorem holdsAfter_prepareRetry (b : Nat) (forceHttp11 : Bool) :
    HoldsAfter pool (.prepareRetry b forceHttp11) (pool.prepareRetry b forceHttp11) := by
  refine inPhase_keeps (HoldsAfter.same rfl rfl) fun basket hbasket _ => ?_
  split
  · exact HoldsAfter.same rfl rfl
  · split
    · exact HoldsAfter.same rfl rfl
    · -- the basket has no session any more
      refine HoldsAfter.set hbasket rfl rfl rfl fun i hi => ?_
      cases hi

theorem holdsAfter_freeBasket (b : Nat) : HoldsAfter pool (.freeBasket b) (pool.freeBasket b) := by
  rw [Pool.freeBasket]
  split
  · exact HoldsAfter.same rfl rfl
  · rename_i basket hbasket
    split
    · exact HoldsAfter.same rfl rfl
    · exact HoldsAfter.set hbasket rfl rfl rfl fun i hi => ⟨rfl, .kept hi⟩

theorem stepPool_holds (pool : Pool) (event : PoolEvent) :
    HoldsAfter pool event (stepPool pool event) := by
  cases event with
  | handleRequest target forceHttp11 expiration =>
    exact holdsAfter_handleRequest target forceHttp11 expiration
  | cleanupSessions isAll => exact HoldsAfter.same rfl rfl
  | closeSession i =>
    refine HoldsAfter.same ?_ rfl
    rw [stepPool, Pool.closeSession]
    split <;> rfl
  | getSessionInfo b => exact holdsAfter_getSessionInfo b
  | createSession b protocol => exact holdsAfter_createSession b protocol
  | registerSession b => exact holdsAfter_registerSession b
  | markProxySessionsGoingAway b =>
    exact inPhase_keeps (HoldsAfter.same rfl rfl) fun basket _ _ => HoldsAfter.same rfl rfl
  | registerStream b => exact holdsAfter_registerStream b
  | unregisterStream b => exact holdsAfter_unregisterStream b
  | prepareRetry b forceHttp11 => exact holdsAfter_prepareRetry b forceHttp11
  | freeBasket b => exact holdsAfter_freeBasket b
  | goAway i => exact HoldsAfter.same rfl rfl
  | disconnect i => exact HoldsAfter.same rfl rfl
  | tick seconds => exact HoldsAfter.same rfl rfl

/-- The sessions there are keep what they were made with, and only the session
of a basket comes into the pool. -/
structure Advances (pool after : Pool) : Prop where
  created : pool.created ≤ after.created
  slots : ∀ i, some i ∈ after.slots →
    some i ∈ pool.slots ∨ ∃ basket ∈ pool.baskets, basket.session = some i
  target : ∀ i < pool.created, (after.sessions i).target = (pool.sessions i).target
  protocol : ∀ i < pool.created, (after.sessions i).protocol = (pool.sessions i).protocol

theorem Advances.refl (pool : Pool) : Advances pool pool :=
  ⟨Nat.le_refl _, fun _ => .inl, fun _ _ => rfl, fun _ _ => rfl⟩

/-- Neither the sessions nor the slots change. -/
theorem Advances.same (hsessions : after.sessions = pool.sessions) (hslots : after.slots = pool.slots)
    (hcreated : after.created = pool.created) : Advances pool after where
  created := Nat.le_of_eq hcreated.symm
  slots i hi := .inl (hslots ▸ hi)
  target i _ := by rw [hsessions]
  protocol i _ := by rw [hsessions]

/-- One session changes. -/
theorem Advances.update {session : PooledSession} (hslots : after.slots = pool.slots)
    (hcreated : after.created = pool.created)
    (hsessions : after.sessions = Function.update pool.sessions i session)
    (htarget : session.target = (pool.sessions i).target)
    (hprotocol : session.protocol = (pool.sessions i).protocol) : Advances pool after where
  created := Nat.le_of_eq hcreated.symm
  slots j hj := .inl (hslots ▸ hj)
  target j _ := by
    rw [hsessions]
    exact update_field PooledSession.target htarget j
  protocol j _ := by
    rw [hsessions]
    exact update_field PooledSession.protocol hprotocol j

theorem advances_cleanupSessions (isAll : Bool) : Advances pool (pool.cleanupSessions isAll) :=
  ⟨Nat.le_refl _, fun _ hi => .inl (mem_cleanupSessions.mp hi).1, fun _ _ => rfl, fun _ _ => rfl⟩

theorem advances_closeSession (i : Nat) : Advances pool (pool.closeSession i) := by
  rw [Pool.closeSession]
  split
  · exact Advances.update rfl rfl rfl rfl rfl
  · exact Advances.refl pool

theorem advances_getSessionInfo (b : Nat) : Advances pool (pool.getSessionInfo b) := by
  refine inPhase_keeps (Advances.refl pool) fun basket _ _ => ?_
  split
  · exact Advances.same rfl rfl rfl
  · exact Advances.update rfl rfl rfl rfl rfl

theorem advances_createSession (b : Nat) (protocol : HttpProtocol) :
    Advances pool (pool.createSession b protocol) := by
  refine inPhase_keeps (Advances.refl pool) fun basket _ _ => ?_
  refine ⟨Nat.le_succ _, fun _ => .inl, fun i hi => ?_, fun i hi => ?_⟩
  · exact congrArg PooledSession.target (Function.update_of_ne (Nat.ne_of_lt hi) _ _)
  · exact congrArg PooledSession.protocol (Function.update_of_ne (Nat.ne_of_lt hi) _ _)

theorem advances_registerSession (b : Nat) : Advances pool (pool.registerSession b) := by
  refine inPhase_keeps (Advances.refl pool) fun basket hbasket _ => ?_
  dsimp only
  split
  · rename_i i slot hsession _
    have hused : Advances pool
        (pool.setSession i { pool.sessions i with lastUsedTime := pool.time }) :=
      Advances.update rfl rfl rfl rfl rfl
    refine ⟨Nat.le_refl _, fun j hj => ?_, hused.target, hused.protocol⟩
    rcases List.mem_or_eq_of_mem_set hj with hold | hnew
    · exact .inl hold
    · cases hnew
      exact .inr ⟨basket, List.mem_of_getElem? hbasket, hsession⟩
  · exact Advances.same rfl rfl rfl

theorem advances_markProxySessionsGoingAway (b : Nat) :
    Advances pool (pool.markProxySessionsGoingAway b) := by
  refine inPhase_keeps (Advances.refl pool) fun basket _ _ => ?_
  refine ⟨Nat.le_refl _, fun _ => .inl, fun i _ => ?_, fun i _ => ?_⟩
  · dsimp only
    split <;> rfl
  · dsimp only
    split <;> rfl

theorem advances_registerStream (b : Nat) : Advances pool (pool.registerStream b) := by
  refine inPhase_keeps (Advances.refl pool) fun basket _ _ => ?_
  split
  · exact Advances.refl pool
  · dsimp only
    split
    · exact Advances.update rfl rfl rfl rfl rfl
    · exact Advances.refl pool

theorem advances_unregisterStream (b : Nat) : Advances pool (pool.unregisterStream b) := by
  refine inPhase_keeps (Advances.refl pool) fun basket _ _ => ?_
  split
  · exact Advances.refl pool
  · dsimp only
    split
    · exact Advances.update rfl rfl rfl rfl rfl
    · exact Advances.refl pool

theorem advances_prepareRetry (b : Nat) (forceHttp11 : Bool) :
    Advances pool (pool.prepareRetry b forceHttp11) := by
  refine inPhase_keeps (Advances.refl pool) fun basket _ _ => ?_
  split
  · exact Advances.refl pool
  · split
    · exact Advances.refl pool
    · exact Advances.update rfl rfl rfl rfl rfl

theorem advances_freeBasket (b : Nat) : Advances pool (pool.freeBasket b) := by
  rw [Pool.freeBasket]
  split
  · exact Advances.refl pool
  · split
    · exact Advances.refl pool
    · exact Advances.same rfl rfl rfl

theorem stepPool_advances (pool : Pool) (event : PoolEvent) :
    Advances pool (stepPool pool event) := by
  cases event with
  | handleRequest target forceHttp11 expiration => exact Advances.same rfl rfl rfl
  | cleanupSessions isAll => exact advances_cleanupSessions isAll
  | closeSession i => exact advances_closeSession i
  | getSessionInfo b => exact advances_getSessionInfo b
  | createSession b protocol => exact advances_createSession b protocol
  | registerSession b => exact advances_registerSession b
  | markProxySessionsGoingAway b => exact advances_markProxySessionsGoingAway b
  | registerStream b => exact advances_registerStream b
  | unregisterStream b => exact advances_unregisterStream b
  | prepareRetry b forceHttp11 => exact advances_prepareRetry b forceHttp11
  | freeBasket b => exact advances_freeBasket b
  | goAway i => exact Advances.update rfl rfl rfl rfl rfl
  | disconnect i => exact Advances.update rfl rfl rfl rfl rfl
  | tick seconds => exact Advances.same rfl rfl rfl

/-- A new session is made for the target of its basket. -/
theorem createSession_made (hbasket : pool.baskets[b]? = some basket)
    (hphase : basket.phase = .missed) (protocol : HttpProtocol) :
    (pool.createSession b protocol).created = pool.created + 1 ∧
      ((pool.createSession b protocol).sessions pool.created).target = basket.target ∧
      ((pool.createSession b protocol).sessions pool.created).protocol = protocol := by
  have hnew (session : PooledSession) :
      Function.update pool.sessions pool.created session pool.created = session :=
    Function.update_self _ _ _
  simp only [Pool.createSession, Pool.inPhase, hbasket, hphase, if_true]
  exact ⟨trivial, congrArg PooledSession.target (hnew _), congrArg PooledSession.protocol (hnew _)⟩

theorem inPhase_created {phase : BasketPhase} {f : PoolBasket → Pool}
    (h : ∀ basket, (f basket).created = pool.created) :
    (pool.inPhase b phase f).created = pool.created :=
  inPhase_keeps (P := fun after : Pool => after.created = pool.created) rfl
    fun basket _ _ => h basket

/-- Only a request that found no session makes one. -/
theorem stepPool_created (pool : Pool) (event : PoolEvent) :
    (stepPool pool event).created = pool.created ∨
      ∃ b protocol basket, event = .createSession b protocol ∧
        pool.baskets[b]? = some basket ∧ basket.phase = .missed := by
  cases event with
  | createSession b protocol =>
    cases hbasket : pool.baskets[b]? with
    | none =>
      left
      rw [stepPool, Pool.createSession, Pool.inPhase, hbasket]
    | some basket =>
      by_cases hphase : basket.phase = .missed
      · exact .inr ⟨b, protocol, basket, rfl, hbasket, hphase⟩
      · left
        rw [stepPool, Pool.createSession, Pool.inPhase, hbasket]
        exact congrArg Pool.created (if_neg hphase)
  | handleRequest target forceHttp11 expiration => exact .inl rfl
  | cleanupSessions isAll => exact .inl rfl
  | closeSession i =>
    left
    rw [stepPool, Pool.closeSession]
    split <;> rfl
  | getSessionInfo b =>
    left
    refine inPhase_created fun basket => ?_
    split <;> rfl
  | registerSession b =>
    left
    refine inPhase_created fun basket => ?_
    dsimp only
    split <;> rfl
  | markProxySessionsGoingAway b =>
    exact .inl (inPhase_created fun basket => rfl)
  | registerStream b =>
    left
    refine inPhase_created fun basket => ?_
    split
    · rfl
    · dsimp only
      split <;> rfl
  | unregisterStream b =>
    left
    refine inPhase_created fun basket => ?_
    split
    · rfl
    · dsimp only
      split <;> rfl
  | prepareRetry b forceHttp11 =>
    left
    refine inPhase_created fun basket => ?_
    split
    · rfl
    · split <;> rfl
  | freeBasket b =>
    left
    rw [stepPool, Pool.freeBasket]
    split
    · rfl
    · split <;> rfl
  | goAway i => exact .inl rfl
  | disconnect i => exact .inl rfl
  | tick seconds => exact .inl rfl

end Steps

/-! ## Runs -/

/-- Every basket has a session that was established for what it asks for. -/
structure OwnSessions (clientHelloId : Nat → Bytes) (profiled : ProfiledPool) : Prop where
  own : ∀ b basket i, profiled.pool.baskets[b]? = some basket → basket.session = some i →
    i < profiled.pool.created ∧ SameIdentity clientHelloId profiled b basket i
  pooled : ∀ i, some i ∈ profiled.pool.slots → i < profiled.pool.created

section Runs

variable {clientHelloId : Nat → Bytes} {profiled : ProfiledPool} {b i : Nat} {basket : PoolBasket}

/-- The sessions there are keep their identity. -/
theorem stepProfiled_sessionIdentity (event : PoolEvent) (hi : i < profiled.pool.created) :
    sessionIdentity (stepProfiled clientHelloId profiled event) i =
      sessionIdentity profiled i := by
  have hadvances := stepPool_advances profiled.pool (negotiate profiled.pool event)
  have hprofile : initSessionProfile clientHelloId profiled event i =
      profiled.clientHelloIds i := by
    unfold initSessionProfile
    split
    · exact Function.update_of_ne (Nat.ne_of_lt hi) _ _
    · rfl
  exact congrArg₂ Identity.mk (hadvances.target i hi) hprofile

theorem stepProfiled_protocol (event : PoolEvent) (hi : i < profiled.pool.created) :
    ((stepProfiled clientHelloId profiled event).pool.sessions i).protocol =
      (profiled.pool.sessions i).protocol :=
  (stepPool_advances profiled.pool (negotiate profiled.pool event)).protocol i hi

theorem SameIdentity.profile (h : SameIdentity clientHelloId profiled b basket i) :
    profiled.clientHelloIds i = clientHelloId b := congrArg Identity.clientHelloId h.1

/-- A basket moves, and the session it has keeps its identity. -/
theorem SameIdentity.step {event : PoolEvent} {moved : PoolBasket}
    (h : SameIdentity clientHelloId profiled b basket i) (hi : i < profiled.pool.created)
    (htarget : moved.target = basket.target) (hforce : moved.forceHttp11 = basket.forceHttp11) :
    SameIdentity clientHelloId (stepProfiled clientHelloId profiled event) b moved i := by
  rw [SameIdentity, stepProfiled_sessionIdentity event hi, stepProfiled_protocol event hi, htarget,
    hforce]
  exact h

/-- What `getSessionInfo` compares, and the profile that it does not. -/
theorem FirstFit.sameIdentity (h : FirstFit profiled.pool basket i)
    (hprofile : profiled.clientHelloIds i = clientHelloId b) :
    SameIdentity clientHelloId profiled b basket i := by
  obtain ⟨-, htarget, husable, -⟩ := of_decide_eq_true h.1
  obtain ⟨hcompatible, -⟩ := of_decide_eq_true husable
  refine ⟨congrArg₂ Identity.mk htarget hprofile, fun hforce => ?_⟩
  rcases hcompatible with hnot | hprotocol
  · exact absurd hforce hnot
  · exact hprotocol

theorem connectionProtocol_forced (h : basket.forceHttp11 = true) (selected : HttpProtocol) :
    connectionProtocol basket selected = .http11 := by
  unfold connectionProtocol
  split
  · rfl
  · exact if_neg fun hnot => Bool.false_ne_true (hnot.1.symm.trans h)

/-- A new session is established for its basket. -/
theorem sameIdentity_made (hbasket : profiled.pool.baskets[b]? = some basket)
    (hphase : basket.phase = .missed) (selected : HttpProtocol) :
    profiled.pool.created <
        (stepProfiled clientHelloId profiled (.createSession b selected)).pool.created ∧
      SameIdentity clientHelloId (stepProfiled clientHelloId profiled (.createSession b selected)) b
        basket profiled.pool.created := by
  have hnegotiate : negotiate profiled.pool (.createSession b selected) =
      .createSession b (connectionProtocol basket selected) := by
    rw [negotiate, hbasket]
  obtain ⟨hcreated, htarget, hprotocol⟩ :=
    createSession_made hbasket hphase (connectionProtocol basket selected)
  have hpool : (stepProfiled clientHelloId profiled (.createSession b selected)).pool =
      profiled.pool.createSession b (connectionProtocol basket selected) := by
    rw [stepProfiled, hnegotiate]
    rfl
  have hprofile : (stepProfiled clientHelloId profiled (.createSession b selected)).clientHelloIds
      profiled.pool.created = clientHelloId b := Function.update_self _ _ _
  rw [SameIdentity, sessionIdentity, hprofile, hpool, hcreated, htarget, hprotocol]
  exact ⟨Nat.lt_succ_self _, rfl, fun hforce => connectionProtocol_forced hforce selected⟩

theorem negotiate_createSession {event : PoolEvent} {protocol : HttpProtocol} {pool : Pool}
    (h : negotiate pool event = .createSession b protocol) :
    ∃ selected, event = .createSession b selected := by
  cases event with
  | createSession c selected =>
    rw [negotiate] at h
    split at h
    · cases h
      exact ⟨_, rfl⟩
    · cases h
      exact ⟨_, rfl⟩
  | _ => cases h

theorem stepProfiled_ownSessions {event : PoolEvent} (h : OwnSessions clientHelloId profiled)
    (hfinds : FindsOwn clientHelloId profiled event) :
    OwnSessions clientHelloId (stepProfiled clientHelloId profiled event) := by
  have hadvances := stepPool_advances profiled.pool (negotiate profiled.pool event)
  refine ⟨fun c moved j hmoved hsession => ?_, fun j hj => ?_⟩
  · obtain ⟨before, hbefore, htarget, hforce, hholds⟩ :=
      (stepPool_holds profiled.pool (negotiate profiled.pool event)).holds c moved j hmoved hsession
    have hsame (hown : j < profiled.pool.created ∧
        SameIdentity clientHelloId profiled c before j) :
        j < (stepProfiled clientHelloId profiled event).pool.created ∧
          SameIdentity clientHelloId (stepProfiled clientHelloId profiled event) c moved j :=
      ⟨Nat.lt_of_lt_of_le hown.1 hadvances.created, hown.2.step hown.1 htarget hforce⟩
    generalize hevent : negotiate profiled.pool event = negotiated at hholds
    cases hholds with
    | kept hkept => exact hsame (h.own c before j hbefore hkept)
    | found hphase hfirst =>
      have hslot := mem_slots_of_reusable (reusable_eq_some_iff.mpr hfirst)
      obtain rfl : event = .getSessionInfo c := by
        cases event with
        | createSession b selected =>
          simp only [negotiate] at hevent
          split at hevent <;> cases hevent
        | _ => exact hevent
      exact hsame ⟨h.pooled j hslot,
        hfirst.sameIdentity (hfinds before hbefore hphase j hfirst)⟩
    | made protocol hphase hj =>
      obtain ⟨selected, rfl⟩ := negotiate_createSession hevent
      rw [hj]
      obtain ⟨hlt, hidentity, hprotocol⟩ := sameIdentity_made hbefore hphase selected
      rw [SameIdentity, htarget, hforce]
      exact ⟨hlt, hidentity, hprotocol⟩
  · rcases hadvances.slots j hj with hold | ⟨before, hmem, hsession⟩
    · exact Nat.lt_of_lt_of_le (h.pooled j hold) hadvances.created
    · obtain ⟨c, hbefore⟩ := List.mem_iff_getElem?.mp hmem
      exact Nat.lt_of_lt_of_le (h.own c before j hbefore hsession).1 hadvances.created

theorem initProfiledPool_ownSessions (time : Int) :
    OwnSessions clientHelloId (initProfiledPool time) := by
  refine ⟨(fun b basket i hbasket => nomatch hbasket), fun i hi => ?_⟩
  exact nomatch (List.mem_replicate.mp hi).2

/-! ## The requests of a run -/

theorem requested?_negotiate (pool : Pool) (event : PoolEvent) :
    requested? (negotiate pool event) = requested? event := by
  cases event with
  | createSession b selected =>
    rw [negotiate]
    split <;> rfl
  | _ => rfl

/-- The session was made by one of the baskets: for its target, and with its
profile. -/
def MadeBy (clientHelloId : Nat → Bytes) (profiled : ProfiledPool) (i : Nat) : Prop :=
  ∃ b basket, profiled.pool.baskets[b]? = some basket ∧
    sessionIdentity profiled i = ⟨basket.target, clientHelloId b⟩

/-- The baskets are those of the requests that came, and every session was made
by one of them. -/
structure Made (clientHelloId : Nat → Bytes) (targets : List Target) (profiled : ProfiledPool) :
    Prop where
  targets : profiled.pool.baskets.map PoolBasket.target = targets
  maker : ∀ i < profiled.pool.created, MadeBy clientHelloId profiled i

/-- Baskets that are there keep their targets. -/
theorem stepProfiled_basket (clientHelloId : Nat → Bytes) (profiled : ProfiledPool)
    (event : PoolEvent) {b : Nat} {basket : PoolBasket}
    (h : profiled.pool.baskets[b]? = some basket) :
    ∃ moved, (stepProfiled clientHelloId profiled event).pool.baskets[b]? = some moved ∧
      moved.target = basket.target := by
  have htargets := (stepPool_holds profiled.pool (negotiate profiled.pool event)).targets
  have hold : (profiled.pool.baskets.map PoolBasket.target)[b]? = some basket.target := by
    rw [List.getElem?_map, h, Option.map_some]
  have hnew : ((stepProfiled clientHelloId profiled event).pool.baskets.map
      PoolBasket.target)[b]? = some basket.target := by
    show ((stepPool profiled.pool (negotiate profiled.pool event)).baskets.map
      PoolBasket.target)[b]? = _
    rw [htargets, List.getElem?_append_left (List.getElem?_eq_some_iff.mp hold).1, hold]
  rw [List.getElem?_map, Option.map_eq_some_iff] at hnew
  exact hnew

theorem MadeBy.step {event : PoolEvent} (h : MadeBy clientHelloId profiled i)
    (hi : i < profiled.pool.created) :
    MadeBy clientHelloId (stepProfiled clientHelloId profiled event) i := by
  obtain ⟨b, basket, hbasket, hidentity⟩ := h
  obtain ⟨moved, hmoved, htarget⟩ := stepProfiled_basket clientHelloId profiled event hbasket
  refine ⟨b, moved, hmoved, ?_⟩
  rw [stepProfiled_sessionIdentity event hi, hidentity, htarget]

theorem stepProfiled_made {targets : List Target} (h : Made clientHelloId targets profiled)
    (event : PoolEvent) :
    Made clientHelloId (targets ++ (requested? event).toList)
      (stepProfiled clientHelloId profiled event) := by
  have htargets := (stepPool_holds profiled.pool (negotiate profiled.pool event)).targets
  rw [requested?_negotiate, h.targets] at htargets
  refine ⟨htargets, fun i hi => ?_⟩
  by_cases hold : i < profiled.pool.created
  · exact (h.maker i hold).step hold
  · have hcreated : profiled.pool.created < (stepProfiled clientHelloId profiled
        event).pool.created := Nat.lt_of_le_of_lt (Nat.le_of_not_lt hold) hi
    rcases stepPool_created profiled.pool (negotiate profiled.pool event) with
      hsame | ⟨b, protocol, basket, hevent, hbasket, hphase⟩
    · exact absurd hcreated (by rw [stepProfiled, hsame]; exact Nat.lt_irrefl _)
    · obtain ⟨selected, rfl⟩ := negotiate_createSession hevent
      have hnext : (stepProfiled clientHelloId profiled (.createSession b selected)).pool.created =
          profiled.pool.created + 1 := by
        rw [stepProfiled, hevent]
        exact (createSession_made hbasket hphase protocol).1
      obtain rfl : i = profiled.pool.created := by omega
      obtain ⟨moved, hmoved, htarget⟩ :=
        stepProfiled_basket clientHelloId profiled (.createSession b selected) hbasket
      refine ⟨b, moved, hmoved, ?_⟩
      rw [(sameIdentity_made hbasket hphase selected).2.1, htarget]

/-- When the requests agree, the first session that fits is one of their own. -/
theorem Made.findsOwn {targets : List Target} (h : Made clientHelloId targets profiled)
    (hown : OwnSessions clientHelloId profiled) (hagree : Agreeing clientHelloId targets)
    (event : PoolEvent) : FindsOwn clientHelloId profiled event := by
  have htarget : ∀ {b : Nat} {basket : PoolBasket}, profiled.pool.baskets[b]? = some basket →
      targets[b]? = some basket.target := by
    intro b basket hbasket
    rw [← h.targets, List.getElem?_map, hbasket, Option.map_some]
  cases event with
  | getSessionInfo b =>
    intro basket hbasket _ i hfirst
    have hslot := mem_slots_of_reusable (reusable_eq_some_iff.mpr hfirst)
    obtain ⟨c, maker, hmaker, hidentity⟩ := h.maker i (hown.pooled i hslot)
    obtain ⟨-, hfits, -⟩ := of_decide_eq_true hfirst.1
    have hsame : maker.target = basket.target :=
      (congrArg Identity.target hidentity).symm.trans hfits
    have hprofile : profiled.clientHelloIds i = clientHelloId c :=
      congrArg Identity.clientHelloId hidentity
    rw [hprofile]
    exact hagree c b basket.target (hsame ▸ htarget hmaker) (htarget hbasket)
  | _ => trivial

theorem requestedTargets_append (events later : List PoolEvent) :
    requestedTargets (events ++ later) = requestedTargets events ++ requestedTargets later :=
  List.filterMap_append

theorem Agreeing.of_append {targets more : List Target}
    (h : Agreeing clientHelloId (targets ++ more)) : Agreeing clientHelloId targets := by
  intro b c target hb hc
  exact h b c target (List.getElem?_append_left (List.getElem?_eq_some_iff.mp hb).1 ▸ hb)
    (List.getElem?_append_left (List.getElem?_eq_some_iff.mp hc).1 ▸ hc)

/-- Requests that agree get sessions of their own identity. -/
theorem runProfiled_ownSessions (time : Int) {events : List PoolEvent}
    (hagree : Agreeing clientHelloId (requestedTargets events)) :
    Made clientHelloId (requestedTargets events) (runProfiled clientHelloId time events) ∧
      OwnSessions clientHelloId (runProfiled clientHelloId time events) := by
  induction events using List.reverseRecOn with
  | nil =>
    exact ⟨⟨rfl, fun i hi => absurd hi (Nat.not_lt_zero i)⟩, initProfiledPool_ownSessions time⟩
  | append_singleton events event ih =>
    rw [requestedTargets_append] at hagree ⊢
    obtain ⟨hmade, hown⟩ := ih hagree.of_append
    have hrun : runProfiled clientHelloId time (events ++ [event]) =
        stepProfiled clientHelloId (runProfiled clientHelloId time events) event := by
      rw [runProfiled, run_append]
      rfl
    have htargets : requestedTargets [event] = (requested? event).toList := by
      rw [requestedTargets, List.filterMap_cons, List.filterMap_nil]
      cases requested? event with
      | none => rfl
      | some target => rfl
    rw [hrun, htargets]
    exact ⟨stepProfiled_made hmade event,
      stepProfiled_ownSessions hown (hmade.findsOwn hown hagree.of_append event)⟩

/-! ## Requests that do not agree -/

/-- `getSessionInfo` stores the first session that fits. -/
theorem getSessionInfo_stores {pool : Pool} (hbasket : pool.baskets[b]? = some basket)
    (hphase : basket.phase = .waiting) (hfirst : FirstFit pool basket i) :
    (pool.getSessionInfo b).baskets[b]? =
      some { basket with phase := .established, session := some i } := by
  have hlt := (List.getElem?_eq_some_iff.mp hbasket).1
  rw [Pool.getSessionInfo, inPhase_of hbasket hphase, reusable_eq_some_iff.mpr hfirst]
  exact List.getElem?_set_self hlt

/-- Requests that come one after the other. -/
def arrivals (targets : List Target) : List PoolEvent :=
  targets.map fun target => .handleRequest target false 0

theorem requestedTargets_arrivals (targets : List Target) :
    requestedTargets (arrivals targets) = targets := by
  rw [requestedTargets, arrivals, List.filterMap_map]
  exact List.filterMap_some

theorem run_arrivals (clientHelloId : Nat → Bytes) (profiled : ProfiledPool)
    (targets : List Target) :
    run (stepProfiled clientHelloId) profiled (arrivals targets) =
      { profiled with pool := { profiled.pool with
          baskets := profiled.pool.baskets ++ targets.map (newBasket · false 0) } } := by
  induction targets generalizing profiled with
  | nil => rw [List.map_nil, List.append_nil]; rfl
  | cons target targets ih =>
    rw [arrivals, List.map_cons, run_cons, ← arrivals, ih, List.map_cons]
    show (⟨{ profiled.pool with baskets := _ }, _⟩ : ProfiledPool) = _
    rw [List.append_cons]
    rfl

/-- A request that finds no session makes one, and the pool has no other. -/
theorem run_firstMakes (clientHelloId : Nat → Bytes) (profiled : ProfiledPool) {b : Nat}
    {first : PoolBasket} (hslots : profiled.pool.slots = List.replicate MAX_SESSIONS none)
    (hfirst : profiled.pool.baskets[b]? = some first) (hwaiting : first.phase = .waiting) :
    let after := run (stepProfiled clientHelloId) profiled
      [.getSessionInfo b, .createSession b .http11, .registerSession b]
    Slots.entries after.pool.slots = [profiled.pool.created] ∧
      after.pool.sessions profiled.pool.created =
        ⟨first.target, .http11, first.sessionExpirationInMilliseconds, profiled.pool.time, 0,
          false, true, false⟩ ∧
      (∀ c, b ≠ c → after.pool.baskets[c]? = profiled.pool.baskets[c]?) ∧
      after.clientHelloIds profiled.pool.created = clientHelloId b := by
  obtain ⟨pool, clientHelloIds⟩ := profiled
  have hlt := (List.getElem?_eq_some_iff.mp hfirst).1
  -- the request finds nothing
  have hnone : pool.reusable first = none := by
    have hentries : Slots.entries pool.slots = [] := by
      rw [show pool.slots = List.replicate MAX_SESSIONS none from hslots]
      exact Slots.entries_replicate_none _
    rw [Pool.reusable, hentries]
    rfl
  let missed : PoolBasket := { first with phase := .missed }
  let looked := pool.setBasket b missed
  have hlooked : pool.getSessionInfo b = looked := by
    rw [Pool.getSessionInfo, inPhase_of hfirst hwaiting, hnone]
  have hmissed : looked.baskets[b]? = some missed := List.getElem?_set_self hlt
  -- it makes a session
  let session : PooledSession :=
    ⟨first.target, .http11, first.sessionExpirationInMilliseconds, 0, 0, false, true, false⟩
  let holding : PoolBasket := { missed with phase := .created, session := some pool.created }
  let made : Pool :=
    { (looked.setSession pool.created session).setBasket b holding with
      created := pool.created + 1 }
  have hmade : stepPool looked (negotiate looked (.createSession b .http11)) = made := by
    have hprotocol : connectionProtocol missed .http11 = .http11 := by
      unfold connectionProtocol
      split
      · rfl
      · exact if_neg fun hboth => nomatch hboth.2
    rw [negotiate, hmissed]
    dsimp only
    rw [hprotocol, stepPool, Pool.createSession, inPhase_of hmissed rfl]
    rfl
  have hholding : made.baskets[b]? = some holding :=
    List.getElem?_set_self (by rw [Pool.setSession]; simpa [looked, Pool.setBasket] using hlt)
  -- and puts it into the pool
  let used : PooledSession := { made.sessions pool.created with lastUsedTime := made.time }
  let pooled : Pool :=
    { (made.setBasket b { holding with phase := .established }).setSession pool.created used with
      slots := made.slots.set 0 (some pool.created) }
  have hpooled : made.registerSession b = pooled := by
    have hfree : made.slots.findIdx? Option.isNone = some 0 := by
      rw [show made.slots = List.replicate MAX_SESSIONS none from hslots]
      rfl
    rw [Pool.registerSession, inPhase_of hholding rfl]
    dsimp only
    rw [hfree]
  have hrun : run (stepProfiled clientHelloId) ⟨pool, clientHelloIds⟩
      [.getSessionInfo b, .createSession b .http11, .registerSession b] =
        ⟨pooled, Function.update clientHelloIds pool.created (clientHelloId b)⟩ := by
    rw [← hpooled, ← hmade, ← hlooked]
    show _ = (⟨_, Function.update clientHelloIds looked.created (clientHelloId b)⟩ : ProfiledPool)
    rw [← hlooked]
    rfl
  rw [hrun]
  refine ⟨?_, ?_, fun c hne => ?_, Function.update_self _ _ _⟩
  · show Slots.entries (pool.slots.set 0 (some pool.created)) = _
    rw [show pool.slots = List.replicate MAX_SESSIONS none from hslots]
    show Slots.entries (some pool.created :: List.replicate (MAX_SESSIONS - 1) none) = _
    rw [Slots.entries_some_cons, Slots.entries_replicate_none]
  · have hnew : made.sessions pool.created = session := Function.update_self _ _ _
    show Function.update made.sessions pool.created used pool.created = _
    rw [Function.update_self]
    show { made.sessions pool.created with lastUsedTime := pool.time } = _
    rw [hnew]
  · show (((pool.baskets.set b missed).set b holding).set b _)[c]? = _
    rw [List.getElem?_set_ne hne, List.getElem?_set_ne hne, List.getElem?_set_ne hne]

/-- Two requests for one target, without a session in the pool: the first one
makes a session, and the second one finds it. -/
theorem run_secondFinds (clientHelloId : Nat → Bytes) (profiled : ProfiledPool) {b c : Nat}
    {first second : PoolBasket}
    (hslots : profiled.pool.slots = List.replicate MAX_SESSIONS none) (hne : b ≠ c)
    (hfirst : profiled.pool.baskets[b]? = some first) (hwaiting : first.phase = .waiting)
    (hsecond : profiled.pool.baskets[c]? = some second) (hwaiting' : second.phase = .waiting)
    (htarget : second.target = first.target) :
    let after := run (stepProfiled clientHelloId) profiled
      [.getSessionInfo b, .createSession b .http11, .registerSession b, .getSessionInfo c]
    after.pool.baskets[c]? =
        some { second with phase := .established, session := some profiled.pool.created } ∧
      after.clientHelloIds profiled.pool.created = clientHelloId b := by
  obtain ⟨hentries, hsession, hothers, hmade⟩ :=
    run_firstMakes clientHelloId profiled hslots hfirst hwaiting
  have hfits : FirstFit (run (stepProfiled clientHelloId) profiled
      [.getSessionInfo b, .createSession b .http11, .registerSession b]).pool second
      profiled.pool.created := by
    refine ⟨?_, [], [], hentries, fun j hj => absurd hj List.not_mem_nil⟩
    rw [fits, hsession]
    simp [htarget, Pool.sessionProtocolUsable]
  exact ⟨getSessionInfo_stores ((hothers c hne).trans hsecond) hwaiting' hfits, hmade⟩

end Runs

/-- Some requests are never sent over a session that was established for
another identity, whatever the order of the steps, exactly when those for one
target ask for one profile. -/
theorem runProfiled_sameIdentity (clientHelloId : Nat → Bytes) (targets : List Target) :
    (∀ time events, requestedTargets events = targets → ∀ n b basket i,
        (runProfiled clientHelloId time (events.take n)).pool.baskets[b]? = some basket →
        basket.session = some i →
        SameIdentity clientHelloId (runProfiled clientHelloId time (events.take n)) b basket i) ↔
      Agreeing clientHelloId targets := by
  constructor
  · intro hsame b c target hb hc
    by_cases hne : b = c
    · rw [hne]
    let events := arrivals targets ++
      [.getSessionInfo b, .createSession b .http11, .registerSession b, .getSessionInfo c]
    have hevents : requestedTargets events = targets := by
      rw [requestedTargets_append, requestedTargets_arrivals]
      exact List.append_nil targets
    have hwaiting : ∀ {d : Nat}, targets[d]? = some target →
        ([] ++ targets.map (newBasket · false 0))[d]? = some (newBasket target false 0) := by
      intro d hd
      rw [List.nil_append, List.getElem?_map, hd, Option.map_some]
    have hrun : runProfiled clientHelloId 0 events = run (stepProfiled clientHelloId)
        { initProfiledPool 0 with pool := { initSharedSessionPool 0 with
            baskets := [] ++ targets.map (newBasket · false 0) } }
        [.getSessionInfo b, .createSession b .http11, .registerSession b, .getSessionInfo c] := by
      rw [runProfiled, run_append, run_arrivals]
      rfl
    obtain ⟨hfound, hmade⟩ := run_secondFinds clientHelloId
      { initProfiledPool 0 with pool := { initSharedSessionPool 0 with
        baskets := [] ++ targets.map (newBasket · false 0) } }
      rfl hne (hwaiting hb) rfl (hwaiting hc) rfl rfl
    rw [← hrun] at hfound hmade
    have hshared := hsame 0 events hevents events.length c _ _
      (by rw [List.take_length]; exact hfound) rfl
    rw [List.take_length] at hshared
    exact hmade.symm.trans hshared.profile
  · intro hagree time events hevents n b basket i hbasket hsession
    have htake : requestedTargets (events.take n) ++ requestedTargets (events.drop n) =
        targets := by
      rw [← requestedTargets_append, List.take_append_drop, hevents]
    rw [← htake] at hagree
    exact ((runProfiled_ownSessions time hagree.of_append).2.own b basket i hbasket hsession).2

/-- A request with another profile comes to the session of the first one. -/
theorem runProfiled_sharesSession :
    let target : Target := ⟨ascii "https", ascii "localhost", ascii "8443", .none, true⟩
    let clientHelloId : Nat → Bytes := fun b =>
      if b = 0 then ascii "hellochrome_152" else ascii "hellocrios_150"
    let events : List PoolEvent :=
      [.handleRequest target false 15000, .cleanupSessions false, .getSessionInfo 0,
        .createSession 0 .http2, .registerSession 0, .handleRequest target false 15000,
        .cleanupSessions false, .getSessionInfo 1]
    let profiled := runProfiled clientHelloId 0 events
    ∃ basket, profiled.pool.baskets[1]? = some basket ∧ basket.session = some 0 ∧
      ¬SameIdentity clientHelloId profiled 1 basket 0 := by
  intro target clientHelloId events profiled
  have hbasket : profiled.pool.baskets[1]? =
      some ⟨target, false, 15000, .established, some 0, false⟩ := by decide +kernel
  refine ⟨_, hbasket, rfl, fun hsame => ?_⟩
  have hother : profiled.clientHelloIds 0 ≠ clientHelloId 1 := by decide +kernel
  exact hother hsame.profile

end HttpRequestClient.Client
