import HttpRequestClient.Client.Attempts

/-!
# The session pool

Sessions and the baskets that hold them.  `handleSession` of `Session.c`
reaps the pool, takes a session out of it or makes a new one, and leaves the
pointer in the basket until the basket is freed or retried.  The reaper
spares a session that has streams in flight, which is all it knows of the
baskets: a basket has its session before its stream is registered and after
it is unregistered.

`runPool_holds`: every basket finds its session open and in the pool, if the
reaper never runs while a basket without a stream holds a session that is
going away, disconnected or idle for too long, and no session is made while
the pool is full.
`StreamsInv` is what holds of the streams in any case.

A step is a section under a lock, or the use of a session that only its
thread can see.  Sessions are never reused after they are freed, so they are
numbered as they are made.

Left out: the locks of `handleSession`, which keep two requests from making
a session for the same target, and the sessions that could not be made.
-/

namespace HttpRequestClient.Client

open Runs

def MAX_SESSIONS : Nat := 1024

/-! ## The state -/

structure Proxy where
  scheme : Bytes
  host : Bytes
  port : Bytes
  authorization : Bytes
  deriving Repr, DecidableEq

/-- What a session is reused for. -/
structure Target where
  scheme : Bytes
  host : Bytes
  port : Bytes
  proxy : Proxy
  nonBlocking : Bool
  deriving Repr, DecidableEq

/-- A session as the pool sees it.  `connected` is what `isConnecting` finds,
and `closed` says that `closeSession` has freed it. -/
structure PooledSession where
  target : Target
  protocol : HttpProtocol
  expirationInMilliseconds : Int
  lastUsedTime : Int
  inflightCount : Nat
  goingAway : Bool
  connected : Bool
  closed : Bool
  deriving Repr, DecidableEq

inductive BasketPhase where
  /-- `handleSession` is about to look for a session. -/
  | waiting
  /-- There was none in the pool. -/
  | missed
  /-- A new session is in the basket and not in the pool. -/
  | created
  /-- `handleSession` has returned with a session. -/
  | established
  | reclaimed
  deriving Repr, DecidableEq

/-- A basket.  `stream` says that its stream is registered on its session. -/
structure PoolBasket where
  target : Target
  forceHttp11 : Bool
  sessionExpirationInMilliseconds : Int
  phase : BasketPhase
  session : Option Nat
  stream : Bool
  deriving Repr, DecidableEq

/-- `toClose` are the sessions that a reaper has taken out of the pool and
not closed yet. -/
structure Pool where
  time : Int
  slots : List (Option Nat)
  sessions : Nat → PooledSession
  created : Nat
  toClose : List Nat
  baskets : List PoolBasket

/-- A basket of `buildBasket`. -/
def newBasket (target : Target) (forceHttp11 : Bool) (expiration : Int) : PoolBasket :=
  ⟨target, forceHttp11, expiration, .waiting, none, false⟩

def Proxy.none : Proxy := ⟨[], [], [], []⟩

def initSharedSessionPool (time : Int) : Pool where
  time := time
  slots := List.replicate MAX_SESSIONS none
  sessions := fun _ => ⟨⟨[], [], [], .none, false⟩, .http2, 0, 0, 0, false, false, false⟩
  created := 0
  toClose := []
  baskets := []

namespace Pool

variable (pool : Pool)

def setSession (i : Nat) (session : PooledSession) : Pool :=
  { pool with sessions := Function.update pool.sessions i session }

def setBasket (b : Nat) (basket : PoolBasket) : Pool :=
  { pool with baskets := pool.baskets.set b basket }

/-- Do something with a basket that is in a phase. -/
def inPhase (b : Nat) (phase : BasketPhase) (f : PoolBasket → Pool) : Pool :=
  match pool.baskets[b]? with
  | none => pool
  | some basket => if basket.phase = phase then f basket else pool

/-! ## The pool -/

/-- What `cleanupSessions` closes. -/
def reapable (isAll : Bool) (i : Nat) : Bool :=
  let session := pool.sessions i
  session.inflightCount = 0 ∧
    (isAll ∨ session.goingAway ∨ ¬session.connected ∨
      (pool.time - session.lastUsedTime) * 1000 > session.expirationInMilliseconds)

def cleanupSessions (isAll : Bool) : Pool :=
  { pool with
    slots := pool.slots.map (Option.filter fun i => !pool.reapable isAll i)
    toClose := pool.toClose ++ (Slots.entries pool.slots).filter (pool.reapable isAll) }

def closeSession (i : Nat) : Pool :=
  if i ∈ pool.toClose then
    { pool.setSession i { pool.sessions i with closed := true } with
      toClose := pool.toClose.filter (· ≠ i) }
  else pool

def sessionProtocolUsable (session : PooledSession) (basket : PoolBasket) : Bool :=
  let protocolCompatible := ¬basket.forceHttp11 ∨ session.protocol = .http11
  let busy := session.protocol = .http11 ∧ session.inflightCount > 0
  protocolCompatible ∧ ¬busy

/-- The first session of the pool that fits a basket. -/
def reusable (basket : PoolBasket) : Option Nat :=
  (Slots.entries pool.slots).find? fun i =>
    let session := pool.sessions i
    ¬session.goingAway ∧ session.target = basket.target ∧
      sessionProtocolUsable session basket ∧ session.connected

def getSessionInfo (b : Nat) : Pool :=
  pool.inPhase b .waiting fun basket =>
    match pool.reusable basket with
    | none => pool.setBasket b { basket with phase := .missed }
    | some i =>
      (pool.setSession i { pool.sessions i with lastUsedTime := pool.time }).setBasket b
        { basket with phase := .established, session := some i }

/-- `createSession`.  The last use is set when the session is registered. -/
def createSession (b : Nat) (protocol : HttpProtocol) : Pool :=
  pool.inPhase b .missed fun basket =>
    { (pool.setSession pool.created
        ⟨basket.target, protocol, basket.sessionExpirationInMilliseconds, 0, 0, false, true,
          false⟩).setBasket b
        { basket with phase := .created, session := some pool.created } with
      created := pool.created + 1 }

/-- `registerSession`.  Without a slot the session stays out of the pool. -/
def registerSession (b : Nat) : Pool :=
  pool.inPhase b .created fun basket =>
    let established := pool.setBasket b { basket with phase := .established }
    match basket.session, pool.slots.findIdx? Option.isNone with
    | some i, some slot =>
      { established.setSession i { pool.sessions i with lastUsedTime := pool.time } with
        slots := pool.slots.set slot (some i) }
    | _, _ => established

def sameProxy (session : PooledSession) (basket : PoolBasket) : Bool :=
  if basket.target.proxy.host ≠ [] then session.target.proxy = basket.target.proxy
  else session.target.proxy.host = []

/-- The sessions of the proxy of a basket are not reused. -/
def markProxySessionsGoingAway (b : Nat) : Pool :=
  pool.inPhase b .missed fun basket =>
    { pool with
      sessions := fun i =>
        let session := pool.sessions i
        if some i ∈ pool.slots ∧ sameProxy session basket then { session with goingAway := true }
        else session }

/-! ## The baskets -/

def handleRequest (target : Target) (forceHttp11 : Bool) (expiration : Int) : Pool :=
  { pool with baskets := pool.baskets ++ [newBasket target forceHttp11 expiration] }

/-- `registerStream` counts a stream, if there is a slot for it. -/
def registerStream (b : Nat) : Pool :=
  pool.inPhase b .established fun basket =>
    match basket.session with
    | none => pool
    | some i =>
      let session := pool.sessions i
      if ¬basket.stream ∧ session.inflightCount < MAX_CONCURRENT_STREAMS_PER_SESSION then
        (pool.setSession i { session with inflightCount := session.inflightCount + 1 }).setBasket b
          { basket with stream := true }
      else pool

def unregisterStream (b : Nat) : Pool :=
  pool.inPhase b .established fun basket =>
    match basket.session with
    | none => pool
    | some i =>
      let session := pool.sessions i
      if basket.stream then
        (pool.setSession i { session with inflightCount := session.inflightCount - 1 }).setBasket b
          { basket with stream := false }
      else pool

/-- `prepareRetry`, behind `unregisterStream`. -/
def prepareRetry (b : Nat) (forceHttp11 : Bool) : Pool :=
  pool.inPhase b .established fun basket =>
    match basket.session with
    | none => pool
    | some i =>
      if basket.stream then pool
      else
        (pool.setSession i { pool.sessions i with goingAway := true }).setBasket b
          { basket with
            forceHttp11 := basket.forceHttp11 || forceHttp11
            phase := .waiting
            session := none }

/-- `freeBasket`.  A stream that was forgotten stays registered. -/
def freeBasket (b : Nat) : Pool :=
  match pool.baskets[b]? with
  | none => pool
  | some basket =>
    if basket.phase = .created then pool else pool.setBasket b { basket with phase := .reclaimed }

end Pool

/-! ## Steps -/

inductive PoolEvent where
  | handleRequest (target : Target) (forceHttp11 : Bool) (expiration : Int)
  | cleanupSessions (isAll : Bool)
  | closeSession (i : Nat)
  | getSessionInfo (b : Nat)
  | createSession (b : Nat) (protocol : HttpProtocol)
  | registerSession (b : Nat)
  | markProxySessionsGoingAway (b : Nat)
  | registerStream (b : Nat)
  | unregisterStream (b : Nat)
  | prepareRetry (b : Nat) (forceHttp11 : Bool)
  | freeBasket (b : Nat)
  /-- A GOAWAY, a lost connection, a request that could not be sent, or a
  response that the connection ends with. -/
  | goAway (i : Nat)
  | disconnect (i : Nat)
  | tick (seconds : Nat)

def stepPool (pool : Pool) : PoolEvent → Pool
  | .handleRequest target forceHttp11 expiration =>
    pool.handleRequest target forceHttp11 expiration
  | .cleanupSessions isAll => pool.cleanupSessions isAll
  | .closeSession i => pool.closeSession i
  | .getSessionInfo b => pool.getSessionInfo b
  | .createSession b protocol => pool.createSession b protocol
  | .registerSession b => pool.registerSession b
  | .markProxySessionsGoingAway b => pool.markProxySessionsGoingAway b
  | .registerStream b => pool.registerStream b
  | .unregisterStream b => pool.unregisterStream b
  | .prepareRetry b forceHttp11 => pool.prepareRetry b forceHttp11
  | .freeBasket b => pool.freeBasket b
  | .goAway i => pool.setSession i { pool.sessions i with goingAway := true }
  | .disconnect i => pool.setSession i { pool.sessions i with connected := false }
  | .tick seconds => { pool with time := pool.time + seconds }

def runPool (time : Int) (events : List PoolEvent) : Pool :=
  run stepPool (initSharedSessionPool time) events

/-- The reaper finds no basket without a stream whose session it would
close, and a session that is made finds a slot. -/
def sparesHeld (pool : Pool) : PoolEvent → Bool
  | .cleanupSessions isAll =>
    pool.baskets.all fun basket =>
      basket.phase ≠ .established ∨ basket.stream ∨
        basket.session.all fun i => !pool.reapable isAll i
  | .registerSession _ => none ∈ pool.slots
  | _ => true

/-! ## What every step keeps -/

/-- The stream of a basket is counted on a session. -/
def countedOn (i : Nat) (basket : PoolBasket) : Bool := basket.stream ∧ basket.session = some i

section

variable {pool : Pool} {b : Nat} {basket : PoolBasket}

theorem inPhase_keeps {P : Pool → Prop} {phase : BasketPhase} {f : PoolBasket → Pool}
    (hsame : P pool)
    (hf : ∀ basket, pool.baskets[b]? = some basket → basket.phase = phase → P (f basket)) :
    P (pool.inPhase b phase f) := by
  rw [Pool.inPhase]
  split
  · exact hsame
  · rename_i basket hbasket
    split
    · exact hf basket hbasket ‹_›
    · exact hsame

theorem inPhase_of {phase : BasketPhase} {f : PoolBasket → Pool}
    (hbasket : pool.baskets[b]? = some basket) (hphase : basket.phase = phase) :
    pool.inPhase b phase f = f basket := by
  rw [Pool.inPhase, hbasket]
  exact if_pos hphase

/-- Only the basket that was set is counted anew. -/
theorem countP_set_basket {baskets : List PoolBasket} (h : baskets[b]? = some basket)
    (after : PoolBasket) (p : PoolBasket → Bool) :
    (baskets.set b after).countP p + (if p basket then 1 else 0) =
      baskets.countP p + (if p after then 1 else 0) := by
  obtain ⟨hlt, rfl⟩ := List.getElem?_eq_some_iff.mp h
  have hle : (if p baskets[b] then 1 else 0) ≤ baskets.countP p := by
    split
    · exact List.countP_pos_iff.mpr ⟨_, List.getElem_mem hlt, ‹_›⟩
    · exact Nat.zero_le _
  rw [List.countP_set hlt]
  omega

theorem countP_set_basket_same {baskets : List PoolBasket} (h : baskets[b]? = some basket)
    {after : PoolBasket} {p : PoolBasket → Bool} (hp : p after = p basket) :
    (baskets.set b after).countP p = baskets.countP p := by
  have hset := countP_set_basket h after p
  rw [hp] at hset
  exact Nat.add_right_cancel hset

/-- Which baskets there are when one is set. -/
theorem getElem?_set_basket {baskets : List PoolBasket} {c : Nat} {after other : PoolBasket}
    (h : (baskets.set b after)[c]? = some other) :
    c = b ∧ other = after ∨ c ≠ b ∧ baskets[c]? = some other := by
  rw [List.getElem?_set] at h
  split at h
  · rename_i hbc
    split at h
    · exact .inl ⟨hbc.symm, (Option.some.inj h).symm⟩
    · cases h
  · rename_i hbc
    exact .inr ⟨Ne.symm hbc, h⟩

/-- A field that a change of a session leaves. -/
theorem update_field {α : Type} {sessions : Nat → PooledSession} {i : Nat}
    {session : PooledSession} (f : PooledSession → α) (h : f session = f (sessions i)) (j : Nat) :
    f (Function.update sessions i session j) = f (sessions j) := by
  by_cases hj : j = i
  · subst hj
    rw [Function.update_self, h]
  · rw [Function.update_of_ne hj]

theorem mem_cleanupSessions {isAll : Bool} {i : Nat} :
    some i ∈ (pool.cleanupSessions isAll).slots ↔
      some i ∈ pool.slots ∧ pool.reapable isAll i = false := by
  simp only [Pool.cleanupSessions, List.mem_map]
  constructor
  · rintro ⟨slot, hslot, hfilter⟩
    obtain ⟨rfl, hnot⟩ := Option.filter_eq_some_iff.mp hfilter
    exact ⟨hslot, by simpa using hnot⟩
  · rintro ⟨hslot, hnot⟩
    exact ⟨some i, hslot, by simp [Option.filter, hnot]⟩

/-- A session that is reused is in the pool. -/
theorem mem_slots_of_reusable {i : Nat} (h : pool.reusable basket = some i) :
    some i ∈ pool.slots :=
  Slots.mem_entries.mp (List.mem_of_find?_eq_some h)

/-! ### Streams -/

/-- What holds of the streams and the sessions, whatever the reaper does. -/
structure StreamsInv (pool : Pool) : Prop where
  counted : ∀ i, (pool.sessions i).inflightCount = pool.baskets.countP (countedOn i)
  pooled : ∀ i, some i ∈ pool.slots → i < pool.created
  bounded : ∀ basket ∈ pool.baskets, ∀ i, basket.session = some i → i < pool.created
  waiting : ∀ basket ∈ pool.baskets, basket.phase = .waiting ∨ basket.phase = .missed →
    basket.session = none ∧ basket.stream = false

/-- Sessions change, and no stream is counted. -/
theorem StreamsInv.sessions (h : StreamsInv pool) {sessions : Nat → PooledSession}
    (hcount : ∀ i, (sessions i).inflightCount = (pool.sessions i).inflightCount) :
    StreamsInv { pool with sessions } :=
  { h with counted := fun i => (hcount i).trans (h.counted i) }

theorem StreamsInv.setSession (h : StreamsInv pool) {i : Nat} {session : PooledSession}
    (hcount : session.inflightCount = (pool.sessions i).inflightCount) :
    StreamsInv (pool.setSession i session) :=
  h.sessions (update_field PooledSession.inflightCount hcount)

/-- The rule for the steps of a basket. -/
theorem StreamsInv.put (h : StreamsInv pool) {after : PoolBasket}
    {sessions : Nat → PooledSession} {slots : List (Option Nat)} {created : Nat}
    (hle : pool.created ≤ created)
    (hcount : ∀ i, (sessions i).inflightCount = (pool.baskets.set b after).countP (countedOn i))
    (hslots : ∀ i, some i ∈ slots → some i ∈ pool.slots ∨ after.session = some i)
    (hsession : ∀ i, after.session = some i → i < created)
    (hwaiting : after.phase = .waiting ∨ after.phase = .missed →
      after.session = none ∧ after.stream = false) :
    StreamsInv { pool with sessions, slots, created, baskets := pool.baskets.set b after } := by
  refine ⟨hcount, fun i hi => ?_, fun other hother i hi => ?_, fun other hother => ?_⟩
  · rcases hslots i hi with hslot | hnew
    · exact Nat.lt_of_lt_of_le (h.pooled i hslot) hle
    · exact hsession i hnew
  · rcases List.mem_or_eq_of_mem_set hother with hold | rfl
    · exact Nat.lt_of_lt_of_le (h.bounded other hold i hi) hle
    · exact hsession i hi
  · rcases List.mem_or_eq_of_mem_set hother with hold | rfl
    · exact h.waiting other hold
    · exact hwaiting

/-- A basket moves, and its stream stays. -/
theorem StreamsInv.setBasket (h : StreamsInv pool) (hbasket : pool.baskets[b]? = some basket)
    {after : PoolBasket} (hcount : ∀ i, countedOn i after = countedOn i basket)
    (hsession : ∀ i, after.session = some i → i < pool.created)
    (hwaiting : after.phase = .waiting ∨ after.phase = .missed →
      after.session = none ∧ after.stream = false) :
    StreamsInv (pool.setBasket b after) :=
  h.put (Nat.le_refl _)
    (fun i => (h.counted i).trans (countP_set_basket_same hbasket (hcount i)).symm)
    (fun _ hi => .inl hi) hsession hwaiting

theorem StreamsInv.handleRequest (h : StreamsInv pool) (target : Target) (forceHttp11 : Bool)
    (expiration : Int) : StreamsInv (pool.handleRequest target forceHttp11 expiration) := by
  have hnew : ∀ other ∈ (pool.handleRequest target forceHttp11 expiration).baskets,
      other ∈ pool.baskets ∨ other = newBasket target forceHttp11 expiration := by
    intro other hother
    simpa [Pool.handleRequest] using hother
  refine { h with
    counted := fun i => ?_, bounded := fun other hother i hi => ?_
    waiting := fun other hother hphase => ?_ }
  · show (pool.sessions i).inflightCount = (pool.baskets ++ [_]).countP (countedOn i)
    rw [List.countP_append, h.counted i]
    rfl
  · rcases hnew other hother with hold | rfl
    · exact h.bounded other hold i hi
    · cases hi
  · rcases hnew other hother with hold | rfl
    · exact h.waiting other hold hphase
    · exact ⟨rfl, rfl⟩

theorem StreamsInv.closeSession (h : StreamsInv pool) (i : Nat) :
    StreamsInv (pool.closeSession i) := by
  rw [Pool.closeSession]
  split
  · have hclosed : StreamsInv (pool.setSession i { pool.sessions i with closed := true }) :=
      h.setSession rfl
    exact { hclosed with }
  · exact h

theorem StreamsInv.getSessionInfo (h : StreamsInv pool) (b : Nat) :
    StreamsInv (pool.getSessionInfo b) := by
  refine inPhase_keeps h fun basket hbasket hphase => ?_
  obtain ⟨hsession, hstream⟩ := h.waiting basket (List.mem_of_getElem? hbasket) (.inl hphase)
  split
  · refine h.setBasket hbasket (fun i => rfl) (fun i hi => ?_) (fun _ => ⟨hsession, hstream⟩)
    exact nomatch hsession.symm.trans hi
  · rename_i i hi
    have hused : StreamsInv (pool.setSession i { pool.sessions i with lastUsedTime := pool.time }) :=
      h.setSession rfl
    refine hused.setBasket hbasket (fun j => by simp [countedOn, hstream]) (fun j hj => ?_) (by simp)
    cases hj
    exact h.pooled i (mem_slots_of_reusable hi)

theorem StreamsInv.createSession (h : StreamsInv pool) (b : Nat) (protocol : HttpProtocol) :
    StreamsInv (pool.createSession b protocol) := by
  refine inPhase_keeps h fun basket hbasket hphase => ?_
  obtain ⟨hsession, hstream⟩ := h.waiting basket (List.mem_of_getElem? hbasket) (.inr hphase)
  refine h.put (Nat.le_succ _) (fun i => ?_) (fun i hi => .inl hi) (fun i hi => ?_) (by simp)
  · rw [countP_set_basket_same hbasket (by simp [countedOn, hstream])]
    show (Function.update pool.sessions pool.created _ i).inflightCount = _
    by_cases hi : i = pool.created
    · -- nobody has a session with the next number
      subst hi
      rw [Function.update_self]
      refine Eq.symm (List.countP_eq_zero.mpr fun other hold hcounted => ?_)
      rw [countedOn, decide_eq_true_iff] at hcounted
      exact Nat.lt_irrefl _ (h.bounded other hold pool.created hcounted.2)
    · rw [Function.update_of_ne hi]
      exact h.counted i
  · cases hi
    exact Nat.lt_succ_self _

theorem StreamsInv.registerSession (h : StreamsInv pool) (b : Nat) :
    StreamsInv (pool.registerSession b) := by
  refine inPhase_keeps h fun basket hbasket hphase => ?_
  have hbound := h.bounded basket (List.mem_of_getElem? hbasket)
  dsimp only
  split
  · rename_i i slot hsession hslot
    have hused : StreamsInv (pool.setSession i { pool.sessions i with lastUsedTime := pool.time }) :=
      h.setSession rfl
    refine h.put (Nat.le_refl _) (fun j => ?_) (fun j hj => ?_) hbound (by simp)
    · refine (hused.counted j).trans (countP_set_basket_same hbasket ?_).symm
      rfl
    · rcases List.mem_or_eq_of_mem_set hj with hold | hnew
      · exact .inl hold
      · exact .inr (hsession.trans hnew.symm)
  · exact h.setBasket hbasket (fun i => rfl) hbound (by simp)

theorem StreamsInv.markProxySessionsGoingAway (h : StreamsInv pool) (b : Nat) :
    StreamsInv (pool.markProxySessionsGoingAway b) := by
  refine inPhase_keeps h fun basket _ _ => h.sessions fun i => ?_
  dsimp only
  split <;> rfl

/-- The stream of a basket is registered or unregistered. -/
theorem StreamsInv.setStream (h : StreamsInv pool) (hbasket : pool.baskets[b]? = some basket)
    (hphase : basket.phase = .established) {i : Nat} (hsession : basket.session = some i)
    {stream : Bool} {inflightCount : Nat}
    (hcount : inflightCount + (if basket.stream then 1 else 0) =
      (pool.sessions i).inflightCount + (if stream then 1 else 0)) :
    StreamsInv ((pool.setSession i { pool.sessions i with inflightCount }).setBasket b
      { basket with stream }) := by
  refine h.put (Nat.le_refl _) (fun j => ?_) (fun j hj => .inl hj)
    (h.bounded basket (List.mem_of_getElem? hbasket)) (by simp [hphase])
  show (Function.update pool.sessions i _ j).inflightCount = _
  by_cases hj : j = i
  · subst hj
    have hset := countP_set_basket hbasket { basket with stream } (countedOn j)
    have hbefore : countedOn j basket = basket.stream := by simp [countedOn, hsession]
    have hafter : countedOn j { basket with stream } = stream := by simp [countedOn, hsession]
    rw [hbefore, hafter, ← h.counted j] at hset
    rw [Function.update_self]
    exact Nat.add_right_cancel (hcount.trans hset.symm)
  · have hne : i ≠ j := Ne.symm hj
    rw [Function.update_of_ne hj, h.counted j,
      countP_set_basket_same hbasket (by simp [countedOn, hsession, hne])]

/-- The session of a stream counts it. -/
theorem StreamsInv.inflightCount_pos (h : StreamsInv pool) (hmem : basket ∈ pool.baskets)
    (hstream : basket.stream = true) {i : Nat} (hsession : basket.session = some i) :
    0 < (pool.sessions i).inflightCount := by
  rw [h.counted i]
  exact List.countP_pos_iff.mpr ⟨basket, hmem, by simp [countedOn, hstream, hsession]⟩

theorem StreamsInv.registerStream (h : StreamsInv pool) (b : Nat) :
    StreamsInv (pool.registerStream b) := by
  refine inPhase_keeps h fun basket hbasket hphase => ?_
  split
  · exact h
  · rename_i i hsession
    dsimp only
    split
    · rename_i hfree
      have hstream : basket.stream = false := by simpa using hfree.1
      exact h.setStream hbasket hphase hsession (by simp [hstream])
    · exact h

theorem StreamsInv.unregisterStream (h : StreamsInv pool) (b : Nat) :
    StreamsInv (pool.unregisterStream b) := by
  refine inPhase_keeps h fun basket hbasket hphase => ?_
  split
  · exact h
  · rename_i i hsession
    dsimp only
    split
    · rename_i hstream
      have hpos := h.inflightCount_pos (List.mem_of_getElem? hbasket) hstream hsession
      exact h.setStream hbasket hphase hsession (by simp [hstream, Nat.sub_add_cancel hpos])
    · exact h

theorem StreamsInv.prepareRetry (h : StreamsInv pool) (b : Nat) (forceHttp11 : Bool) :
    StreamsInv (pool.prepareRetry b forceHttp11) := by
  refine inPhase_keeps h fun basket hbasket hphase => ?_
  split
  · exact h
  · rename_i i hsession
    split
    · exact h
    · rename_i hnot
      have hstream : basket.stream = false := by simpa using hnot
      have hmarked : StreamsInv (pool.setSession i { pool.sessions i with goingAway := true }) :=
        h.setSession rfl
      exact hmarked.setBasket hbasket (fun j => by simp [countedOn, hstream])
        (fun j hj => nomatch hj) (fun _ => ⟨rfl, hstream⟩)

theorem StreamsInv.freeBasket (h : StreamsInv pool) (b : Nat) : StreamsInv (pool.freeBasket b) := by
  rw [Pool.freeBasket]
  split
  · exact h
  · rename_i basket hbasket
    split
    · exact h
    · exact h.setBasket hbasket (fun i => rfl)
        (h.bounded basket (List.mem_of_getElem? hbasket)) (by simp)

theorem stepPool_streams {event : PoolEvent} (h : StreamsInv pool) :
    StreamsInv (stepPool pool event) := by
  cases event with
  | handleRequest target forceHttp11 expiration =>
    exact h.handleRequest target forceHttp11 expiration
  | cleanupSessions isAll =>
    exact { h with pooled := fun i hi => h.pooled i (mem_cleanupSessions.mp hi).1 }
  | closeSession i => exact h.closeSession i
  | getSessionInfo b => exact h.getSessionInfo b
  | createSession b protocol => exact h.createSession b protocol
  | registerSession b => exact h.registerSession b
  | markProxySessionsGoingAway b => exact h.markProxySessionsGoingAway b
  | registerStream b => exact h.registerStream b
  | unregisterStream b => exact h.unregisterStream b
  | prepareRetry b forceHttp11 => exact h.prepareRetry b forceHttp11
  | freeBasket b => exact h.freeBasket b
  | goAway i => exact h.setSession rfl
  | disconnect i => exact h.setSession rfl
  | tick seconds => exact { h with }

/-! ### Sessions -/

/-- A session that nobody but the basket that made it has seen. -/
structure Unseen (pool : Pool) (b i : Nat) : Prop where
  isOpen : (pool.sessions i).closed = false
  slots : some i ∉ pool.slots
  toClose : i ∉ pool.toClose
  baskets : ∀ c other, pool.baskets[c]? = some other → other.session = some i → c = b

/-- The pool has open sessions only, every session counts the streams of its
baskets, and `handleSession` returns with a session of the pool. -/
structure PoolInv (pool : Pool) : Prop where
  counted : ∀ i, (pool.sessions i).inflightCount = pool.baskets.countP (countedOn i)
  pooled : ∀ i, some i ∈ pool.slots →
    i < pool.created ∧ (pool.sessions i).closed = false ∧ i ∉ pool.toClose
  closing : ∀ i ∈ pool.toClose, i < pool.created
  bounded : ∀ basket ∈ pool.baskets, ∀ i, basket.session = some i → i < pool.created
  waiting : ∀ basket ∈ pool.baskets, basket.phase = .waiting ∨ basket.phase = .missed →
    basket.session = none ∧ basket.stream = false
  fresh : ∀ b basket, pool.baskets[b]? = some basket → basket.phase = .created →
    basket.stream = false ∧ ∃ i, basket.session = some i ∧ Unseen pool b i
  held : ∀ basket ∈ pool.baskets, basket.phase = .established →
    ∀ i, basket.session = some i → some i ∈ pool.slots

theorem Unseen.of_baskets {i : Nat} {after : Pool} (h : Unseen pool b i)
    (hclosed : (after.sessions i).closed = (pool.sessions i).closed)
    (hslots : some i ∈ after.slots → some i ∈ pool.slots)
    (htoClose : i ∈ after.toClose → i ∈ pool.toClose) (hbaskets : after.baskets = pool.baskets) :
    Unseen after b i :=
  ⟨hclosed.trans h.isOpen, fun hmem => h.slots (hslots hmem), fun hmem => h.toClose (htoClose hmem),
    by rw [hbaskets]; exact h.baskets⟩

theorem PoolInv.streams (h : PoolInv pool) : StreamsInv pool where
  counted := h.counted
  pooled i hi := (h.pooled i hi).1
  bounded := h.bounded
  waiting := h.waiting

/-- A change of sessions that neither closes one nor counts a stream. -/
theorem PoolInv.sessions (h : PoolInv pool) {sessions : Nat → PooledSession}
    (hcount : ∀ i, (sessions i).inflightCount = (pool.sessions i).inflightCount)
    (hclosed : ∀ i, (sessions i).closed = (pool.sessions i).closed) :
    PoolInv { pool with sessions } := by
  refine { h.streams.sessions hcount with
    pooled := fun i hi => ?_, closing := h.closing, fresh := fun b basket hbasket hphase => ?_
    held := h.held }
  · obtain ⟨hlt, hopen, hclose⟩ := h.pooled i hi
    exact ⟨hlt, (hclosed i).trans hopen, hclose⟩
  · obtain ⟨hstream, i, hsession, hunseen⟩ := h.fresh b basket hbasket hphase
    exact ⟨hstream, i, hsession, hunseen.of_baskets (hclosed i) id id rfl⟩

theorem PoolInv.setSession (h : PoolInv pool) {i : Nat} {session : PooledSession}
    (hcount : session.inflightCount = (pool.sessions i).inflightCount)
    (hclosed : session.closed = (pool.sessions i).closed) : PoolInv (pool.setSession i session) :=
  h.sessions (update_field PooledSession.inflightCount hcount)
    (update_field PooledSession.closed hclosed)

/-- What may become of a basket: it keeps its session, finds one in the pool,
makes one or has none, and its session is in the pool when `handleSession` has
returned. -/
structure Moves (pool : Pool) (basket after : PoolBasket) : Prop where
  session : ∀ i, after.session = some i →
    basket.session = some i ∨ some i ∈ pool.slots ∨ after.phase = .created ∧ i = pool.created
  waiting : after.phase = .waiting ∨ after.phase = .missed →
    after.session = none ∧ after.stream = false
  created : after.phase = .created → after.stream = false ∧ after.session = some pool.created
  established : after.phase = .established → ∀ i, after.session = some i →
    i < pool.created ∧ (pool.sessions i).closed = false ∧ i ∉ pool.toClose

/-- The rule for the steps of a basket: its sessions and the pool change with
it. -/
theorem PoolInv.put (h : PoolInv pool) (hbasket : pool.baskets[b]? = some basket)
    {after : PoolBasket} (hmoves : Moves pool basket after) {sessions : Nat → PooledSession}
    {slots : List (Option Nat)} {created : Nat}
    (hstreams : StreamsInv
      { pool with sessions, slots, created, baskets := pool.baskets.set b after })
    (hle : pool.created ≤ created)
    (hnew : after.phase = .created → (sessions pool.created).closed = false)
    (hclosed : ∀ i < pool.created, (sessions i).closed = (pool.sessions i).closed)
    (hslots : ∀ i, some i ∈ slots ↔
      some i ∈ pool.slots ∨ after.phase = .established ∧ after.session = some i) :
    PoolInv { pool with sessions, slots, created, baskets := pool.baskets.set b after } := by
  refine { hstreams with
    pooled := fun i hi => ?_, closing := fun i hi => Nat.lt_of_lt_of_le (h.closing i hi) hle
    fresh := fun c other hother hphase => ?_, held := fun other hother hphase i hi => ?_ }
  · have hpooled : i < pool.created ∧ (pool.sessions i).closed = false ∧ i ∉ pool.toClose := by
      rcases (hslots i).mp hi with hold | ⟨hphase, hsession⟩
      · exact h.pooled i hold
      · exact hmoves.established hphase i hsession
    obtain ⟨hlt, hopen, hclosing⟩ := hpooled
    exact ⟨Nat.lt_of_lt_of_le hlt hle, (hclosed i hlt).trans hopen, hclosing⟩
  · rcases getElem?_set_basket hother with ⟨rfl, rfl⟩ | ⟨hne, hold⟩
    · obtain ⟨hstream, hsession⟩ := hmoves.created hphase
      refine ⟨hstream, pool.created, hsession, hnew hphase, fun hslot => ?_, fun hclosing => ?_,
        fun d another hanother hshared => ?_⟩
      · rcases (hslots _).mp hslot with hslot | ⟨hestablished, _⟩
        · exact Nat.lt_irrefl _ (h.pooled _ hslot).1
        · exact nomatch hphase.symm.trans hestablished
      · exact Nat.lt_irrefl _ (h.closing _ hclosing)
      · rcases getElem?_set_basket hanother with ⟨rfl, _⟩ | ⟨_, hd⟩
        · rfl
        · exact absurd (h.bounded another (List.mem_of_getElem? hd) _ hshared) (Nat.lt_irrefl _)
    · obtain ⟨hstream, i, hi, hunseen⟩ := h.fresh c other hold hphase
      have hlt := h.bounded other (List.mem_of_getElem? hold) i hi
      -- the basket that moves does not come to the session of another one
      have hapart : after.session ≠ some i := by
        intro hshared
        rcases hmoves.session i hshared with hbefore | hslot | ⟨_, rfl⟩
        · exact hne (hunseen.baskets b basket hbasket hbefore).symm
        · exact hunseen.slots hslot
        · exact Nat.lt_irrefl _ hlt
      refine ⟨hstream, i, hi, (hclosed i hlt).trans hunseen.isOpen, fun hslot => ?_,
        hunseen.toClose, fun d another hanother hshared => ?_⟩
      · rcases (hslots i).mp hslot with hslot | ⟨_, hshared⟩
        · exact hunseen.slots hslot
        · exact hapart hshared
      · rcases getElem?_set_basket hanother with ⟨_, rfl⟩ | ⟨_, hd⟩
        · exact absurd hshared hapart
        · exact hunseen.baskets d another hd hshared
  · refine (hslots i).mpr ?_
    rcases List.mem_or_eq_of_mem_set hother with hold | rfl
    · exact .inl (h.held other hold hphase i hi)
    · exact .inr ⟨hphase, hi⟩

theorem PoolInv.handleRequest (h : PoolInv pool) (target : Target) (forceHttp11 : Bool)
    (expiration : Int) : PoolInv (pool.handleRequest target forceHttp11 expiration) := by
  have hget : ∀ (c : Nat) (other : PoolBasket),
      (pool.handleRequest target forceHttp11 expiration).baskets[c]? = some other →
        pool.baskets[c]? = some other ∨ other = newBasket target forceHttp11 expiration := by
    intro c other hother
    rw [Pool.handleRequest, List.getElem?_append] at hother
    split at hother
    · exact .inl hother
    · rw [List.getElem?_singleton] at hother
      split at hother
      · exact .inr (Option.some.inj hother).symm
      · cases hother
  refine { h.streams.handleRequest target forceHttp11 expiration with
    pooled := h.pooled, closing := h.closing, fresh := fun c other hother hphase => ?_
    held := fun other hother hphase => ?_ }
  · rcases hget c other hother with hold | rfl
    · obtain ⟨hstream, i, hi, hunseen⟩ := h.fresh c other hold hphase
      refine ⟨hstream, i, hi, hunseen.isOpen, hunseen.slots, hunseen.toClose, ?_⟩
      intro d another hanother hshared
      rcases hget d another hanother with hd | rfl
      · exact hunseen.baskets d another hd hshared
      · cases hshared
    · cases hphase
  · obtain ⟨c, hother⟩ := List.mem_iff_getElem?.mp hother
    rcases hget c other hother with hold | rfl
    · exact h.held other (List.mem_of_getElem? hold) hphase
    · cases hphase

/-- A session with a stream in flight is not reaped. -/
theorem PoolInv.reapable_stream (h : PoolInv pool) (hmem : basket ∈ pool.baskets)
    (hstream : basket.stream = true) {i : Nat} (hsession : basket.session = some i) (isAll : Bool) :
    pool.reapable isAll i = false := by
  have hpos := h.streams.inflightCount_pos hmem hstream hsession
  rw [Pool.reapable, decide_eq_false_iff_not]
  rintro ⟨hzero, _⟩
  exact Nat.ne_of_gt hpos hzero

theorem PoolInv.cleanupSessions (h : PoolInv pool) {isAll : Bool}
    (hspares : sparesHeld pool (.cleanupSessions isAll) = true) :
    PoolInv (pool.cleanupSessions isAll) := by
  have hclose : ∀ i ∈ (pool.cleanupSessions isAll).toClose,
      i ∈ pool.toClose ∨ some i ∈ pool.slots ∧ pool.reapable isAll i = true := by
    intro i hi
    simpa [Pool.cleanupSessions, Slots.mem_entries] using hi
  refine { h with
    pooled := fun i hi => ?_, closing := fun i hi => ?_, fresh := fun c other hother hphase => ?_
    held := fun other hother hphase i hi => ?_ }
  · obtain ⟨hslot, hnot⟩ := mem_cleanupSessions.mp hi
    obtain ⟨hlt, hopen, hclosing⟩ := h.pooled i hslot
    refine ⟨hlt, hopen, fun hmem => ?_⟩
    rcases hclose i hmem with hold | ⟨_, hreapable⟩
    · exact hclosing hold
    · exact nomatch hnot.symm.trans hreapable
  · rcases hclose i hi with hold | ⟨hslot, _⟩
    · exact h.closing i hold
    · exact (h.pooled i hslot).1
  · obtain ⟨hstream, i, hi, hunseen⟩ := h.fresh c other hother hphase
    refine ⟨hstream, i, hi, hunseen.isOpen, fun hmem => ?_, fun hmem => ?_, hunseen.baskets⟩
    · exact hunseen.slots (mem_cleanupSessions.mp hmem).1
    · rcases hclose i hmem with hold | ⟨hslot, _⟩
      · exact hunseen.toClose hold
      · exact hunseen.slots hslot
  · refine mem_cleanupSessions.mpr ⟨h.held other hother hphase i hi, ?_⟩
    cases hstream : other.stream with
    | true => exact h.reapable_stream hother hstream hi isAll
    | false =>
      rw [sparesHeld, List.all_eq_true] at hspares
      simpa [hphase, hstream, hi] using hspares other hother

theorem PoolInv.closeSession (h : PoolInv pool) (i : Nat) : PoolInv (pool.closeSession i) := by
  have hstreams := h.streams.closeSession i
  rw [Pool.closeSession] at hstreams ⊢
  split
  · rename_i hi
    rw [if_pos hi] at hstreams
    have hsame : ∀ j, j ∉ pool.toClose →
        Function.update pool.sessions i { pool.sessions i with closed := true } j =
          pool.sessions j := by
      intro j hj
      refine Function.update_of_ne (fun hji => hj ?_) _ _
      rw [hji]
      exact hi
    refine { hstreams with
      pooled := fun j hj => ?_, closing := fun j hj => ?_
      fresh := fun c other hother hphase => ?_, held := h.held }
    · obtain ⟨hlt, hopen, hclosing⟩ := h.pooled j hj
      refine ⟨hlt, ?_, fun hmem => hclosing (List.mem_filter.mp hmem).1⟩
      exact (congrArg PooledSession.closed (hsame j hclosing)).trans hopen
    · exact h.closing j (List.mem_filter.mp hj).1
    · obtain ⟨hstream, j, hj, hunseen⟩ := h.fresh c other hother hphase
      refine ⟨hstream, j, hj, hunseen.of_baskets ?_ id (fun hmem => (List.mem_filter.mp hmem).1) rfl⟩
      exact congrArg PooledSession.closed (hsame j hunseen.toClose)
  · exact h

/-- A basket moves, and the pool is as before. -/
theorem PoolInv.setBasket (h : PoolInv pool) (hbasket : pool.baskets[b]? = some basket)
    {after : PoolBasket} (hmoves : Moves pool basket after)
    (hcount : ∀ i, countedOn i after = countedOn i basket) (hcreated : after.phase ≠ .created)
    (hheld : after.phase = .established → ∀ i, after.session = some i → some i ∈ pool.slots) :
    PoolInv (pool.setBasket b after) := by
  have hsession : ∀ i, after.session = some i → i < pool.created := by
    intro i hi
    rcases hmoves.session i hi with hbefore | hslot | ⟨hphase, -⟩
    · exact h.bounded basket (List.mem_of_getElem? hbasket) i hbefore
    · exact (h.pooled i hslot).1
    · exact absurd hphase hcreated
  exact h.put hbasket hmoves (h.streams.setBasket hbasket hcount hsession hmoves.waiting)
    (Nat.le_refl _) (fun hphase => absurd hphase hcreated) (fun _ _ => rfl)
    fun i => ⟨.inl, fun hi => hi.elim id fun hnew => hheld hnew.1 i hnew.2⟩

theorem PoolInv.getSessionInfo (h : PoolInv pool) (b : Nat) : PoolInv (pool.getSessionInfo b) := by
  refine inPhase_keeps h fun basket hbasket hphase => ?_
  obtain ⟨hsession, hstream⟩ := h.waiting basket (List.mem_of_getElem? hbasket) (.inl hphase)
  split
  · refine h.setBasket hbasket ⟨fun i hi => .inl hi, fun _ => ⟨hsession, hstream⟩, ?_, ?_⟩
      (fun i => rfl) ?_ ?_
    all_goals simp
  · rename_i i hi
    have hslot := mem_slots_of_reusable hi
    have hused : PoolInv (pool.setSession i { pool.sessions i with lastUsedTime := pool.time }) :=
      h.setSession rfl rfl
    refine hused.setBasket hbasket ⟨fun j hj => .inr (.inl ?_), ?_, ?_, fun _ j hj => ?_⟩
      (fun j => ?_) ?_ (fun _ j hj => ?_)
    · cases hj
      exact hslot
    · simp
    · simp
    · cases hj
      exact hused.pooled i hslot
    · simp [countedOn, hstream]
    · simp
    · cases hj
      exact hslot

theorem PoolInv.createSession (h : PoolInv pool) (b : Nat) (protocol : HttpProtocol) :
    PoolInv (pool.createSession b protocol) := by
  refine inPhase_keeps h fun basket hbasket hphase => ?_
  obtain ⟨hsession, hstream⟩ := h.waiting basket (List.mem_of_getElem? hbasket) (.inr hphase)
  have hstreams := h.streams.createSession b protocol
  rw [Pool.createSession, inPhase_of hbasket hphase] at hstreams
  have hmoves : Moves pool basket
      { basket with phase := .created, session := some pool.created } :=
    ⟨fun i hi => .inr (.inr ⟨rfl, (Option.some.inj hi).symm⟩), by simp, fun _ => ⟨hstream, rfl⟩,
      by simp⟩
  refine h.put hbasket hmoves hstreams (Nat.le_succ _) (fun _ => ?_) (fun i hi => ?_)
    (fun i => ?_)
  · show (Function.update pool.sessions pool.created _ pool.created).closed = false
    rw [Function.update_self]
  · show (Function.update pool.sessions pool.created _ i).closed = _
    rw [Function.update_of_ne (Nat.ne_of_lt hi)]
  · simp [Pool.setBasket, Pool.setSession]

theorem PoolInv.registerSession (h : PoolInv pool) {b : Nat}
    (hspares : sparesHeld pool (.registerSession b) = true) : PoolInv (pool.registerSession b) := by
  refine inPhase_keeps h fun basket hbasket hphase => ?_
  obtain ⟨hstream, i, hsession, hunseen⟩ := h.fresh b basket hbasket hphase
  obtain ⟨slot, hslot⟩ : ∃ slot, pool.slots.findIdx? Option.isNone = some slot := by
    refine Option.ne_none_iff_exists'.mp fun hnone => ?_
    exact nomatch List.findIdx?_eq_none_iff.mp hnone none (by simpa [sparesHeld] using hspares)
  have hfree : pool.slots[slot]? = some none := by
    obtain ⟨hlt, hnone, _⟩ := List.findIdx?_eq_some_iff_getElem.mp hslot
    rw [List.getElem?_eq_getElem hlt, Option.isNone_iff_eq_none.mp hnone]
  have hstreams := h.streams.registerSession b
  rw [Pool.registerSession, inPhase_of hbasket hphase] at hstreams
  have hclosed : ({ pool.sessions i with lastUsedTime := pool.time } : PooledSession).closed =
      (pool.sessions i).closed := rfl
  have hmoves : Moves pool basket { basket with phase := .established } := by
    refine ⟨fun j hj => .inl hj, by simp, by simp, fun _ j hj => ?_⟩
    cases Option.some.inj (hsession.symm.trans hj)
    exact ⟨h.bounded basket (List.mem_of_getElem? hbasket) i hsession, hunseen.isOpen,
      hunseen.toClose⟩
  simp only [hsession, hslot] at hmoves hstreams ⊢
  refine h.put hbasket hmoves hstreams (Nat.le_refl _) (by simp)
    (fun j _ => update_field PooledSession.closed hclosed j) (fun j => ?_)
  rw [← Slots.mem_entries, ← Slots.mem_entries, (Slots.perm_entries_set_some hfree i).mem_iff,
    List.mem_cons]
  simp [or_comm, eq_comm]

theorem PoolInv.markProxySessionsGoingAway (h : PoolInv pool) (b : Nat) :
    PoolInv (pool.markProxySessionsGoingAway b) := by
  refine inPhase_keeps h fun basket _ _ => h.sessions (fun i => ?_) (fun i => ?_)
  · dsimp only
    split <;> rfl
  · dsimp only
    split <;> rfl

/-- The stream of a basket is registered or unregistered, and its session
counts it. -/
theorem PoolInv.setStream (h : PoolInv pool) (hbasket : pool.baskets[b]? = some basket)
    (hphase : basket.phase = .established) {i : Nat} (hsession : basket.session = some i)
    {stream : Bool} {inflightCount : Nat}
    (hcount : inflightCount + (if basket.stream then 1 else 0) =
      (pool.sessions i).inflightCount + (if stream then 1 else 0)) :
    PoolInv ((pool.setSession i { pool.sessions i with inflightCount }).setBasket b
      { basket with stream }) := by
  have hslot := h.held basket (List.mem_of_getElem? hbasket) hphase
  have hmoves : Moves pool basket { basket with stream } :=
    ⟨fun j hj => .inl hj, by simp [hphase], by simp [hphase],
      fun _ j hj => h.pooled j (hslot j hj)⟩
  have hclosed : ({ pool.sessions i with inflightCount } : PooledSession).closed =
      (pool.sessions i).closed := rfl
  exact h.put hbasket hmoves (h.streams.setStream hbasket hphase hsession hcount) (Nat.le_refl _)
    (by simp [hphase]) (fun j _ => update_field PooledSession.closed hclosed j)
    fun j => ⟨.inl, fun hj => hj.elim id fun hnew => hslot j hnew.2⟩

theorem PoolInv.registerStream (h : PoolInv pool) (b : Nat) : PoolInv (pool.registerStream b) := by
  refine inPhase_keeps h fun basket hbasket hphase => ?_
  split
  · exact h
  · rename_i i hsession
    dsimp only
    split
    · rename_i hfree
      have hstream : basket.stream = false := by simpa using hfree.1
      exact h.setStream hbasket hphase hsession (by simp [hstream])
    · exact h

theorem PoolInv.unregisterStream (h : PoolInv pool) (b : Nat) :
    PoolInv (pool.unregisterStream b) := by
  refine inPhase_keeps h fun basket hbasket hphase => ?_
  split
  · exact h
  · rename_i i hsession
    dsimp only
    split
    · rename_i hstream
      have hpos := h.streams.inflightCount_pos (List.mem_of_getElem? hbasket) hstream hsession
      exact h.setStream hbasket hphase hsession (by simp [hstream, Nat.sub_add_cancel hpos])
    · exact h

theorem PoolInv.prepareRetry (h : PoolInv pool) (b : Nat) (forceHttp11 : Bool) :
    PoolInv (pool.prepareRetry b forceHttp11) := by
  refine inPhase_keeps h fun basket hbasket hphase => ?_
  split
  · exact h
  · rename_i i hsession
    split
    · exact h
    · rename_i hnot
      have hstream : basket.stream = false := by simpa using hnot
      have hmarked : PoolInv (pool.setSession i { pool.sessions i with goingAway := true }) :=
        h.setSession rfl rfl
      refine hmarked.setBasket hbasket ⟨?_, fun _ => ⟨rfl, hstream⟩, ?_, ?_⟩ (fun j => ?_) ?_ ?_
      · simp
      · simp
      · simp
      · simp [countedOn, hstream]
      · simp
      · simp

theorem PoolInv.freeBasket (h : PoolInv pool) (b : Nat) : PoolInv (pool.freeBasket b) := by
  rw [Pool.freeBasket]
  split
  · exact h
  · rename_i basket hbasket
    split
    · exact h
    · refine h.setBasket hbasket ⟨fun i hi => .inl hi, ?_, ?_, ?_⟩ (fun i => rfl) ?_ ?_
      all_goals simp

theorem stepPool_inv {event : PoolEvent} (h : PoolInv pool)
    (hspares : sparesHeld pool event = true) : PoolInv (stepPool pool event) := by
  cases event with
  | handleRequest target forceHttp11 expiration =>
    exact h.handleRequest target forceHttp11 expiration
  | cleanupSessions isAll => exact h.cleanupSessions hspares
  | closeSession i => exact h.closeSession i
  | getSessionInfo b => exact h.getSessionInfo b
  | createSession b protocol => exact h.createSession b protocol
  | registerSession b => exact h.registerSession hspares
  | markProxySessionsGoingAway b => exact h.markProxySessionsGoingAway b
  | registerStream b => exact h.registerStream b
  | unregisterStream b => exact h.unregisterStream b
  | prepareRetry b forceHttp11 => exact h.prepareRetry b forceHttp11
  | freeBasket b => exact h.freeBasket b
  | goAway i => exact h.setSession rfl rfl
  | disconnect i => exact h.setSession rfl rfl
  | tick seconds =>
    refine { h with fresh := fun b basket hbasket hphase => ?_ }
    obtain ⟨hstream, i, hsession, hunseen⟩ := h.fresh b basket hbasket hphase
    exact ⟨hstream, i, hsession, hunseen.of_baskets rfl id id rfl⟩

theorem initSharedSessionPool_inv (time : Int) : PoolInv (initSharedSessionPool time) := by
  refine ⟨fun i => rfl, fun i hi => ?_, (fun i hi => nomatch hi), (fun basket hmem => nomatch hmem),
    (fun basket hmem => nomatch hmem), (fun b basket hbasket => nomatch hbasket),
    (fun basket hmem => nomatch hmem)⟩
  exact nomatch (List.mem_replicate.mp hi).2

end

/-- As long as a basket has its session, the session is not closed, and it is
in the pool when `handleSession` has returned. -/
theorem runPool_holds (time : Int) {events : List PoolEvent}
    (h : Meets stepPool (fun pool event => sparesHeld pool event = true)
      (initSharedSessionPool time) events) (n : Nat) :
    let pool := runPool time (events.take n)
    ∀ basket ∈ pool.baskets, basket.phase ≠ .reclaimed → ∀ i, basket.session = some i →
      (pool.sessions i).closed = false ∧ (basket.phase ≠ .created → some i ∈ pool.slots) := by
  intro pool basket hmem hlive i hsession
  rw [← List.take_append_drop n events, meets_append] at h
  have hinv : PoolInv pool :=
    run_keeps (fun pool event => stepPool_inv) h.1 (initSharedSessionPool_inv time)
  cases hphase : basket.phase with
  | waiting => exact nomatch (hinv.waiting basket hmem (.inl hphase)).1.symm.trans hsession
  | missed => exact nomatch (hinv.waiting basket hmem (.inr hphase)).1.symm.trans hsession
  | created =>
    obtain ⟨b, hbasket⟩ := List.mem_iff_getElem?.mp hmem
    obtain ⟨_, j, hj, hunseen⟩ := hinv.fresh b basket hbasket hphase
    cases Option.some.inj (hj.symm.trans hsession)
    exact ⟨hunseen.isOpen, fun hnot => absurd rfl hnot⟩
  | established =>
    have hslot := hinv.held basket hmem hphase i hsession
    exact ⟨(hinv.pooled i hslot).2.1, fun _ => hslot⟩
  | reclaimed => exact absurd hphase hlive

/-- The session of a request in flight goes away.  It outlives the reaper of
another request, and is closed when its basket has been freed. -/
theorem runPool_holds_inflight :
    let target : Target := ⟨ascii "http", ascii "localhost", ascii "8080", .none, false⟩
    let events : List PoolEvent :=
      [.handleRequest target false 15000, .cleanupSessions false, .getSessionInfo 0,
        .createSession 0 .http11, .registerSession 0, .registerStream 0, .goAway 0,
        .handleRequest target false 15000, .cleanupSessions false, .getSessionInfo 1,
        .unregisterStream 0, .freeBasket 0, .cleanupSessions false, .closeSession 0]
    let pool := runPool 0 (events.take 11)
    (∃ basket ∈ pool.baskets, basket.phase ≠ .reclaimed ∧ basket.session = some 0) ∧
      (pool.sessions 0).closed = false ∧ some 0 ∈ pool.slots ∧
      ((runPool 0 events).sessions 0).closed = true := by
  intro target events pool
  have hmeets : Meets stepPool (fun pool event => sparesHeld pool event = true)
      (initSharedSessionPool 0) events := by
    decide +kernel
  have hbasket : ⟨target, false, 15000, .established, some 0, false⟩ ∈ pool.baskets := by
    decide +kernel
  have hholds := runPool_holds 0 hmeets 11
  rw [show runPool 0 (events.take 11) = pool from rfl] at hholds
  obtain ⟨hopen, hslot⟩ := hholds _ hbasket (by decide) 0 rfl
  exact ⟨⟨_, hbasket, by decide, rfl⟩, hopen, hslot (by decide), by decide +kernel⟩

/-- A blocking request gets a response that the connection ends with.  Before
its result is collected another request reaps the session, which the basket
still points to. -/
theorem runPool_reaped :
    let target : Target := ⟨ascii "http", ascii "localhost", ascii "8080", .none, false⟩
    let events : List PoolEvent :=
      [.handleRequest target false 15000, .cleanupSessions false, .getSessionInfo 0,
        .createSession 0 .http11, .registerSession 0, .registerStream 0, .goAway 0,
        .unregisterStream 0, .handleRequest target false 15000, .cleanupSessions false,
        .closeSession 0]
    let pool := runPool 0 events
    ¬∀ basket ∈ pool.baskets, basket.phase ≠ .reclaimed → ∀ i, basket.session = some i →
      (pool.sessions i).closed = false ∧ (basket.phase ≠ .created → some i ∈ pool.slots) := by
  intro target events pool hall
  have hbasket : ⟨target, false, 15000, .established, some 0, false⟩ ∈ pool.baskets := by
    decide +kernel
  have hclosed : (pool.sessions 0).closed = true := by decide +kernel
  have hopen := (hall _ hbasket (by decide) 0 rfl).1
  exact nomatch hclosed.symm.trans hopen

end HttpRequestClient.Client
