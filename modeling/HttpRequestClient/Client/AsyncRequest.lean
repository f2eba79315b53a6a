import HttpRequestClient.Client.Attempts
import HttpRequestClient.Client.Retry

/-!
# A non-blocking HTTP/1.1 request

One request among others, with the threads that share its basket and its
streams.  The starter runs `handleRequestAsync`: it makes an attempt or two,
each of them with an exchange on a thread of its own, and publishes the
basket with the stream of the last attempt.  Polls of `handleResponse` and
`cleanupAsyncRequests` reclaim what is published.

A step is what a thread does between two looks at what others can write:
the starter looks three times for an error in the basket, and an exchange
writes its error there as the last thing it does.

Streams are numbered as they are registered.  `held` is the stream that is
registered and not unregistered; there is never more than one.

`RequestInv` is what every step keeps.  It says that the streams are
unregistered one after the other, and that nothing is reclaimed before the
basket is published.

Left out: the sink that is completed when an attempt fails, what other
requests do to their own streams, and the polls that read a basket after
another one has freed it.
-/

namespace HttpRequestClient.Client

open Http2 Http11 Runs

/-! ## The state -/

/-- Where a stream is registered. -/
structure StreamRef where
  session : Nat
  slot : Nat
  deriving Repr, DecidableEq

/-- The thread of an exchange.  Between the end of its stream and its return
it unlocks the session and copies the error into the basket. -/
structure ExchangeThread where
  stream : Nat
  phase : ExchangePhase
  returned : Bool
  deriving Repr, DecidableEq

/-- The next thing that the starter does. -/
inductive StarterPhase where
  | obtaining
  | registering
  | starting
  | checking
  | retrying
  | dropping
  | publishing
  | over
  deriving Repr, DecidableEq

/-- The entry of the request in `asyncRegistry`.  `published` is the stream
next to the basket, when the basket is there.  After a cleanup another
request may use the entry as well. -/
structure AsyncEntry where
  inUse : Bool
  shared : Bool
  published : Option (Option Nat)
  deriving Repr, DecidableEq

/-- The request.  `session`, `error` and `freed` are of its basket, `stream`
and `attempt` are the variables of the starter, and `deciding` counts the
polls that found the request done and did not claim it yet.  `registered`
and `unregistered` record its streams, and `others` are the streams that
other requests have on the sessions. -/
structure AsyncRequest where
  sessions : Nat → Session
  others : List StreamRef
  phase : StarterPhase
  attempt : Nat
  session : Option Nat
  error : Option Error
  stream : Option Nat
  registered : List StreamRef
  unregistered : List Nat
  threads : List ExchangeThread
  entry : AsyncEntry
  deciding : Nat
  freed : Bool

/-- A request that has its entry, on sessions that are not used yet. -/
def allocate (headerTableSize : Nat) : AsyncRequest where
  sessions := fun _ => initSession headerTableSize
  others := []
  phase := .obtaining
  attempt := 0
  session := none
  error := none
  stream := none
  registered := []
  unregistered := []
  threads := []
  entry := ⟨true, false, none⟩
  deciding := 0
  freed := false

/-- What `handleHttp11RequestAsync` comes to. -/
inductive Start where
  | created
  | noMemory
  | createFailed
  deriving Repr, DecidableEq

namespace AsyncRequest

variable (request : AsyncRequest)

/-- The stream that is registered and not unregistered. -/
def held : Option Nat :=
  if request.unregistered.length < request.registered.length then
    some request.unregistered.length
  else none

/-- Where a stream is, as long as it is registered. -/
def locate (n : Nat) : Option StreamRef :=
  if request.held = some n then request.registered[n]? else none

/-- The streams of the sessions: the one that is held, and those of others. -/
def live : List StreamRef :=
  (request.registered[request.unregistered.length]?).toList ++ request.others

def streamOf (n : Nat) : Option Stream :=
  (request.locate n).bind fun ref => streamAt (request.sessions ref.session) ref.slot

def setSession (i : Nat) (session : Session) : AsyncRequest :=
  { request with sessions := Function.update request.sessions i session }

/-- Change a stream that is registered, and its session with it. -/
def modify (n : Nat) (f : Session → Stream → Session × Stream) : AsyncRequest :=
  match request.locate n with
  | none => request
  | some ref =>
    match streamAt (request.sessions ref.session) ref.slot with
    | none => request
    | some stream =>
      let after := f (request.sessions ref.session) stream
      request.setSession ref.session (modifyStream after.1 ref.slot fun _ => after.2)

/-- `unregisterStream` on the stream of a pointer that may be null.  The
basket still has the session that the stream was registered on. -/
def unregister (stream : Option Nat) : AsyncRequest :=
  match stream with
  | none => request
  | some n =>
    let recorded := { request with unregistered := request.unregistered ++ [n] }
    match request.locate n with
    | none => recorded
    | some ref =>
      recorded.setSession ref.session
        (unregisterStream (request.sessions ref.session) ref.slot)

/-! ## The starter -/

/-- `handleSession`: a session, or an error. -/
def obtainSession (session : Option Nat) (error : Option Error) : AsyncRequest :=
  if session = none ∨ error ≠ none then
    { request with session := session, error := error, phase := .retrying }
  else { request with session := session, error := error, phase := .registering }

/-- `registerStream` on the session of the basket. -/
def register (sink : Option ResponseSink) : AsyncRequest :=
  match request.session with
  | none => request
  | some i =>
    let registered := request.setSession i (registerStream (request.sessions i) sink)
    match freeSlot (request.sessions i) with
    | none =>
      { registered with error := some ERR_RESPONSE_READING_CONNECTION_ERROR, phase := .retrying }
    | some slot =>
      { registered with
        registered := request.registered ++ [⟨i, slot⟩]
        stream := some request.registered.length
        phase := .starting }

/-- There is no memory for a stream. -/
def registerFails : AsyncRequest :=
  { request with error := some ERR_SYSTEM_MEMORY_ALLOCATION_FAILED, phase := .retrying }

def startExchange (start : Start) : AsyncRequest :=
  match request.stream with
  | none => request
  | some n =>
    match start with
    | .created =>
      { request with threads := request.threads ++ [⟨n, .idle, false⟩], phase := .checking }
    | .noMemory =>
      { request with error := some ERR_SYSTEM_MEMORY_ALLOCATION_FAILED, phase := .checking }
    | .createFailed =>
      let error := some ERR_REQUEST_SENDING_HTTP11_REQUEST_FAILED
      let ended := request.modify n fun session stream =>
        (session, endStream { stream with error := error })
      { ended with error := error, phase := .checking }

/-- The look of `executeRequest` behind the dispatch. -/
def checkError : AsyncRequest :=
  if request.error ≠ none then
    { request.unregister request.stream with stream := none, phase := .retrying }
  else { request with phase := .retrying }

/-- `prepareRetry`: the session is not used again, and the error is gone. -/
def prepareRetry : AsyncRequest :=
  let marked :=
    match request.session with
    | none => request
    | some i => request.setSession i { request.sessions i with goingAway := true }
  { marked with session := none, error := none }

/-- The second look: a retryable error of the first attempt makes another. -/
def decideRetry : AsyncRequest :=
  if isRetryableError request.error ∧ request.attempt = 0 then
    { (request.unregister request.stream).prepareRetry with
      stream := none
      attempt := 1
      phase := .obtaining }
  else { request with phase := .dropping }

/-- The third look: with an error the stream is forgotten. -/
def dropStream : AsyncRequest :=
  if request.error ≠ none then { request with stream := none, phase := .publishing }
  else { request with phase := .publishing }

def publish : AsyncRequest :=
  { request with
    entry := { request.entry with published := some request.stream }
    stream := none
    phase := .over }

/-! ## The other threads -/

def exchange (lib : DecoderLib) (k : Nat) (step : ExchangeStep) : AsyncRequest :=
  match request.threads[k]? with
  | none => request
  | some thread =>
    match thread.phase.next step with
    | none => request
    | some phase =>
      { request.modify thread.stream fun session stream => exchangeStep lib session stream step with
        threads := request.threads.set k { thread with phase := phase } }

/-- The end of `handleHttp11RequestSync` behind `endStream`. -/
def exchangeReturn (k : Nat) : AsyncRequest :=
  match request.threads[k]? with
  | none => request
  | some thread =>
    if thread.phase = .ended ∧ ¬thread.returned then
      let error := (request.streamOf thread.stream).bind Stream.error
      { request with
        error := if error ≠ none then error else request.error
        threads := request.threads.set k { thread with returned := true } }
    else request

/-- What a poll or a cleanup finds by the handle: the stream next to the
basket. -/
def found : Option (Option Nat) := if request.entry.inUse then request.entry.published else none

/-- A poll finds that the stream has ended, or an error without a stream. -/
def pollEnded : AsyncRequest :=
  match request.found with
  | some (some n) =>
    match request.streamOf n with
    | none => request
    | some stream =>
      if stream.isEnded then
        { request with
          error := if request.error = none then stream.error else request.error
          deciding := request.deciding + 1 }
      else request
  | some none =>
    if request.error ≠ none then { request with deciding := request.deciding + 1 } else request
  | none => request

/-- A poll finds that the stream has not ended and its time is over. -/
def pollTimeout : AsyncRequest :=
  match request.found with
  | some (some n) =>
    match request.streamOf n with
    | none => request
    | some stream =>
      if stream.isEnded then request
      else
        { request with
          error := some ERR_RESPONSE_NO_CONTENT_AFTER_READING_TIMEOUT
          deciding := request.deciding + 1 }
  | _ => request

/-- `asyncDetachSlot`, `unregisterStream` and `freeBasket`. -/
def reclaim : AsyncRequest :=
  match request.found with
  | none => { request with entry := { request.entry with inUse := false, published := none } }
  | some stream =>
    { request.unregister stream with
      entry := { request.entry with inUse := false, published := none }
      freed := true }

/-- A poll that found the request done and copied all of its result claims
it, if no other one did. -/
def claim : AsyncRequest :=
  if request.deciding = 0 then request
  else
    let claimed := { request with deciding := request.deciding - 1 }
    if request.found = none then claimed else claimed.reclaim

/-- `cleanupAsyncRequests`, and the end of another request in the entry. -/
def cleanup : AsyncRequest := if request.entry.inUse then request.reclaim else request

/-- Another request gets the entry. -/
def reuseEntry : AsyncRequest :=
  if request.entry.inUse then request else { request with entry := ⟨true, true, none⟩ }

/-- Another request publishes its basket in the entry. -/
def overwriteEntry : AsyncRequest :=
  if request.entry.shared then { request with entry := { request.entry with published := none } }
  else request

def otherRegister (i : Nat) (sink : Option ResponseSink) : AsyncRequest :=
  let registered := request.setSession i (registerStream (request.sessions i) sink)
  match freeSlot (request.sessions i) with
  | none => registered
  | some slot => { registered with others := ⟨i, slot⟩ :: request.others }

def otherUnregister (ref : StreamRef) : AsyncRequest :=
  if ref ∈ request.others then
    { request.setSession ref.session (unregisterStream (request.sessions ref.session) ref.slot) with
      others := request.others.erase ref }
  else request

end AsyncRequest

/-! ## Steps -/

inductive RequestEvent where
  | obtainSession (session : Option Nat) (error : Option Error)
  | register (sink : Option ResponseSink)
  | registerFails
  | startExchange (start : Start)
  | checkError
  | decideRetry
  | dropStream
  | publish
  | exchange (k : Nat) (step : ExchangeStep)
  | exchangeReturn (k : Nat)
  | pollEnded
  | pollTimeout
  | claim
  | cleanup
  | reuseEntry
  | overwriteEntry
  | otherRegister (i : Nat) (sink : Option ResponseSink)
  | otherUnregister (ref : StreamRef)

/-- The phase of the starter that an event belongs to. -/
def RequestEvent.phase? : RequestEvent → Option StarterPhase
  | .obtainSession _ _ => some .obtaining
  | .register _ => some .registering
  | .registerFails => some .registering
  | .startExchange _ => some .starting
  | .checkError => some .checking
  | .decideRetry => some .retrying
  | .dropStream => some .dropping
  | .publish => some .publishing
  | _ => none

def performRequest (lib : DecoderLib) (request : AsyncRequest) : RequestEvent → AsyncRequest
  | .obtainSession session error => request.obtainSession session error
  | .register sink => request.register sink
  | .registerFails => request.registerFails
  | .startExchange start => request.startExchange start
  | .checkError => request.checkError
  | .decideRetry => request.decideRetry
  | .dropStream => request.dropStream
  | .publish => request.publish
  | .exchange k step => request.exchange lib k step
  | .exchangeReturn k => request.exchangeReturn k
  | .pollEnded => request.pollEnded
  | .pollTimeout => request.pollTimeout
  | .claim => request.claim
  | .cleanup => request.cleanup
  | .reuseEntry => request.reuseEntry
  | .overwriteEntry => request.overwriteEntry
  | .otherRegister i sink => request.otherRegister i sink
  | .otherUnregister ref => request.otherUnregister ref

/-- The starter does one thing after the other; the other threads act at any
time. -/
def stepRequest (lib : DecoderLib) (request : AsyncRequest) (event : RequestEvent) :
    AsyncRequest :=
  if event.phase?.all (· = request.phase) then performRequest lib request event else request

def runRequest (lib : DecoderLib) (headerTableSize : Nat) (events : List RequestEvent) :
    AsyncRequest :=
  run (stepRequest lib) (allocate headerTableSize) events

theorem stepRequest_keeps {lib : DecoderLib} {P : AsyncRequest → Prop} {request : AsyncRequest}
    {event : RequestEvent} (hsame : P request)
    (hperform : (∀ phase, event.phase? = some phase → request.phase = phase) →
      P (performRequest lib request event)) :
    P (stepRequest lib request event) := by
  rw [stepRequest]
  split
  · rename_i hguard
    refine hperform fun phase hphase => ?_
    rw [hphase, Option.all_some, decide_eq_true_eq] at hguard
    exact hguard.symm
  · exact hsame

/-! ## The streams of the sessions -/

/-- The streams of the sessions are those of a list, and every session
counts its own. -/
structure Tally (sessions : Nat → Session) (live : List StreamRef) : Prop where
  nodup : live.Nodup
  occupied : ∀ ref, ref ∈ live ↔ streamAt (sessions ref.session) ref.slot ≠ none
  counted : ∀ i, (sessions i).inflightCount = live.countP (fun ref => ref.session = i)

section Tally

variable {sessions : Nat → Session} {live : List StreamRef}

theorem Tally.perm (h : Tally sessions live) {other : List StreamRef} (hperm : other.Perm live) :
    Tally sessions other :=
  ⟨hperm.nodup_iff.mpr h.nodup, fun ref => hperm.mem_iff.trans (h.occupied ref),
    fun i => (h.counted i).trans (hperm.countP_eq _).symm⟩

/-- A change of a session that fills and frees no slot. -/
theorem Tally.update (h : Tally sessions live) {i : Nat} {session : Session}
    (hstreams : ∀ slot, streamAt session slot = none ↔ streamAt (sessions i) slot = none)
    (hcount : session.inflightCount = (sessions i).inflightCount) :
    Tally (Function.update sessions i session) live := by
  refine ⟨h.nodup, fun ref => (h.occupied ref).trans (not_congr ?_), fun j => ?_⟩
  · by_cases hi : ref.session = i
    · rw [hi, Function.update_self]
      exact (hstreams ref.slot).symm
    · rw [Function.update_of_ne hi]
  · by_cases hi : j = i
    · subst hi
      rw [Function.update_self, hcount, h.counted]
    · rw [Function.update_of_ne hi, h.counted]

theorem Tally.register (h : Tally sessions live) {i slot : Nat}
    (hslot : freeSlot (sessions i) = some slot) (sink : Option ResponseSink) :
    Tally (Function.update sessions i (registerStream (sessions i) sink)) (⟨i, slot⟩ :: live) := by
  refine ⟨List.nodup_cons.mpr ⟨fun hmem => ?_, h.nodup⟩, fun ref => ?_, fun j => ?_⟩
  · exact (h.occupied ⟨i, slot⟩).mp hmem (streamAt_freeSlot hslot).2
  · rw [List.mem_cons, h.occupied]
    by_cases hsession : ref.session = i
    · rw [hsession, Function.update_self, streamAt_registerStream hslot]
      by_cases hother : slot = ref.slot
      · simp [hother, ← hsession]
      · rw [if_neg hother, or_iff_right]
        rintro rfl
        exact hother rfl
    · rw [Function.update_of_ne hsession, or_iff_right]
      rintro rfl
      exact hsession rfl
  · rw [List.countP_cons]
    by_cases hsession : j = i
    · subst hsession
      rw [Function.update_self, registerStream_free hslot, ← h.counted]
      simp
    · rw [Function.update_of_ne hsession, h.counted]
      simp [Ne.symm hsession]

theorem Tally.full (h : Tally sessions live) {i : Nat} (hfull : freeSlot (sessions i) = none)
    (sink : Option ResponseSink) :
    Tally (Function.update sessions i (registerStream (sessions i) sink)) live := by
  rw [registerStream_full hfull]
  exact h.update (fun _ => Iff.rfl) rfl

theorem Tally.unregister (h : Tally sessions live) {ref : StreamRef} (hmem : ref ∈ live) :
    Tally (Function.update sessions ref.session
      (unregisterStream (sessions ref.session) ref.slot)) (live.erase ref) := by
  refine ⟨h.nodup.erase ref, fun other => ?_, fun j => ?_⟩
  · rw [h.nodup.mem_erase_iff, h.occupied]
    by_cases hsession : other.session = ref.session
    · rw [hsession, Function.update_self, streamAt_unregisterStream]
      by_cases hslot : ref.slot = other.slot
      · have heq : other = ref := by
          cases ref
          cases other
          simp_all
        simp [heq]
      · rw [if_neg hslot, and_iff_right]
        rintro rfl
        exact hslot rfl
    · rw [Function.update_of_ne hsession, and_iff_right]
      rintro rfl
      exact hsession rfl
  · have hcount := (List.perm_cons_erase hmem).countP_eq fun ref => decide (ref.session = j)
    rw [List.countP_cons] at hcount
    by_cases hsession : j = ref.session
    · subst hsession
      have hbefore := h.counted ref.session
      rw [Function.update_self, unregisterStream]
      simp at hcount
      dsimp only
      omega
    · rw [Function.update_of_ne hsession, h.counted]
      simpa [Ne.symm hsession] using hcount

end Tally

/-! ## The stream that is held -/

namespace AsyncRequest

variable {request : AsyncRequest} {n : Nat}

theorem sessions_setSession (i : Nat) (session : Session) :
    (request.setSession i session).sessions = Function.update request.sessions i session := rfl

theorem held_eq_some :
    request.held = some n ↔
      n = request.unregistered.length ∧
        request.unregistered.length < request.registered.length := by
  rw [held]
  split
  · rename_i hlt
    rw [Option.some.injEq]
    exact ⟨fun h => ⟨h.symm, hlt⟩, fun h => h.1.symm⟩
  · rename_i hlt
    exact ⟨(fun h => nomatch h), fun h => absurd h.2 hlt⟩

theorem held_eq_none :
    request.held = none ↔ request.registered.length ≤ request.unregistered.length := by
  rw [held]
  split
  · rename_i hlt
    exact ⟨(fun h => nomatch h), fun h => absurd hlt (Nat.not_lt.mpr h)⟩
  · rename_i hlt
    exact ⟨fun _ => Nat.not_lt.mp hlt, fun _ => rfl⟩

theorem locate_of_held (h : request.held = some n) :
    ∃ ref, request.locate n = some ref ∧ request.live = ref :: request.others := by
  obtain ⟨rfl, hlt⟩ := held_eq_some.mp h
  have hget := List.getElem?_eq_getElem hlt
  exact ⟨_, by rw [locate, if_pos h, hget], by rw [live, hget]; rfl⟩

theorem held_of_locate {ref : StreamRef} (h : request.locate n = some ref) :
    request.held = some n := by
  rw [locate] at h
  split at h
  · assumption
  · cases h

theorem live_of_locate {ref : StreamRef} (h : request.locate n = some ref) :
    request.live = ref :: request.others := by
  obtain ⟨found, hfound, hlive⟩ := locate_of_held (held_of_locate h)
  rw [hlive, Option.some.inj (hfound.symm.trans h)]

theorem held_of_streamOf {stream : Stream} (h : request.streamOf n = some stream) :
    request.held = some n := by
  rw [streamOf, Option.bind_eq_some_iff] at h
  obtain ⟨ref, href, _⟩ := h
  exact held_of_locate href

theorem live_of_held_none (h : request.held = none) : request.live = request.others := by
  rw [live, List.getElem?_eq_none (held_eq_none.mp h)]
  rfl

/-- A change of a stream leaves all but the sessions as it is, fills and
frees no slot, and changes this stream only. -/
theorem modify_spec (request : AsyncRequest) (n : Nat) {f : Session → Stream → Session × Stream}
    (hstreams : ∀ session stream, (f session stream).1.streams = session.streams)
    (hcount : ∀ session stream, (f session stream).1.inflightCount = session.inflightCount) :
    ∃ sessions, request.modify n f = { request with sessions := sessions } ∧
      (∀ live, Tally request.sessions live → Tally sessions live) ∧
      ∀ m after, (request.modify n f).streamOf m = some after →
        request.streamOf m = some after ∨
          ∃ session stream, m = n ∧ request.streamOf n = some stream ∧
            after = (f session stream).2 := by
  rw [modify]
  split
  · exact ⟨request.sessions, rfl, fun live h => h, fun m after h => .inl h⟩
  · rename_i ref href
    split
    · exact ⟨request.sessions, rfl, fun live h => h, fun m after h => .inl h⟩
    · rename_i stream hstream
      refine ⟨_, rfl, fun live h => h.update (fun slot => ?_) (hcount _ _), fun m after hafter => ?_⟩
      · rw [streamAt_modifyStream, streamAt_of_streams (hstreams _ _)]
        split
        · rw [Option.map_eq_none_iff]
        · rfl
      · right
        -- no other stream is held
        have hm : m = n :=
          Option.some.inj ((held_of_streamOf hafter).symm.trans (held_of_locate href))
        subst hm
        refine ⟨request.sessions ref.session, stream, rfl, ?_, ?_⟩
        · rw [streamOf, href, Option.bind_some, hstream]
        · have hlocate : (request.setSession ref.session
              (modifyStream (f (request.sessions ref.session) stream).1 ref.slot
                fun _ => (f (request.sessions ref.session) stream).2)).locate m = some ref := href
          rw [streamOf, hlocate, Option.bind_some, sessions_setSession, Function.update_self,
            streamAt_modifyStream, if_pos rfl, streamAt_of_streams (hstreams _ _), hstream] at hafter
          exact (Option.some.inj hafter).symm

/-- The stream that is held is unregistered. -/
theorem unregister_held (h : request.held = some n) :
    ∃ sessions, request.unregister (some n) =
        { request with sessions := sessions, unregistered := request.unregistered ++ [n] } ∧
      (Tally request.sessions request.live → Tally sessions request.others) := by
  obtain ⟨ref, href, hlive⟩ := locate_of_held h
  simp only [unregister, href]
  refine ⟨_, rfl, fun htally => ?_⟩
  rw [hlive] at htally
  simpa using htally.unregister List.mem_cons_self

end AsyncRequest

/-! ## What every step keeps -/

/-- The streams are unregistered in the order of their registration, each
before the next one is registered.  Until the starter forgets or publishes
its stream, that is the one that is held, and nothing is reclaimed before
the basket is published. -/
structure RequestInv (request : AsyncRequest) : Prop where
  order : request.unregistered = List.range request.unregistered.length
  bound : request.unregistered.length ≤ request.registered.length ∧
    request.registered.length ≤ request.unregistered.length + 1
  tally : Tally request.sessions request.live
  early : request.phase = .obtaining ∨ request.phase = .registering → request.stream = none
  pointer : request.phase ≠ .publishing → request.phase ≠ .over → request.held = request.stream
  kept : ∀ n, request.stream = some n → request.held = some n
  published : ∀ n, request.entry.published = some (some n) → request.held = some n
  unpublished : request.phase ≠ .over →
    request.entry.published = none ∧ request.freed = false ∧ request.deciding = 0
  handed : request.phase = .over → request.stream = none
  freed : request.freed = true → request.entry.published = none

section RequestInv

variable {request : AsyncRequest}

/-- The starter goes on, and its stream stays where it is. -/
theorem RequestInv.advance (h : RequestInv request) (hnow : request.phase ≠ .over)
    (hfrom : request.phase ≠ .publishing) {phase : StarterPhase} (hto : phase ≠ .over)
    (hearly : phase = .obtaining ∨ phase = .registering → request.stream = none)
    (attempt : Nat) (session : Option Nat) (error : Option Error) :
    RequestInv { request with phase := phase, attempt, session, error } :=
  { h with
    early := hearly
    pointer := fun _ _ => h.pointer hfrom hnow
    unpublished := fun _ => h.unpublished hnow
    handed := fun hover => absurd hover hto }

theorem RequestInv.sessions (h : RequestInv request) {sessions : Nat → Session}
    (htally : Tally sessions request.live) : RequestInv { request with sessions := sessions } :=
  { h with tally := htally }

/-- All streams are unregistered. -/
theorem RequestInv.all_unregistered (h : RequestInv request) (hheld : request.held = none) :
    request.unregistered = List.range request.registered.length ∧
      Tally request.sessions request.others := by
  have hlength : request.unregistered.length = request.registered.length :=
    Nat.le_antisymm h.bound.1 (AsyncRequest.held_eq_none.mp hheld)
  refine ⟨by rw [← hlength]; exact h.order, ?_⟩
  rw [← AsyncRequest.live_of_held_none hheld]
  exact h.tally

/-- `unregisterStream` on the stream that is held, if there is one. -/
theorem RequestInv.unregister (h : RequestInv request) {stream : Option Nat}
    (hheld : request.held = stream) :
    ∃ sessions unregistered, request.unregister stream = { request with sessions, unregistered } ∧
      unregistered = List.range request.registered.length ∧ Tally sessions request.others := by
  cases stream with
  | none =>
    obtain ⟨horder, htally⟩ := h.all_unregistered hheld
    exact ⟨request.sessions, request.unregistered, rfl, horder, htally⟩
  | some n =>
    obtain ⟨sessions, heq, htally⟩ := AsyncRequest.unregister_held hheld
    refine ⟨sessions, _, heq, ?_, htally h.tally⟩
    obtain ⟨rfl, hlt⟩ := AsyncRequest.held_eq_some.mp hheld
    have hlength : request.registered.length = request.unregistered.length + 1 := by
      have := h.bound.2
      omega
    rw [hlength, List.range_succ, ← h.order]

theorem held_range {request : AsyncRequest}
    (h : request.unregistered = List.range request.registered.length) :
    request.held = none := by
  rw [AsyncRequest.held_eq_none, h, List.length_range]

/-- What is left when all streams are unregistered. -/
theorem requestInv_drained {sessions : Nat → Session} {unregistered : List Nat}
    (horder : unregistered = List.range request.registered.length)
    (htally : Tally sessions request.others) (entry : AsyncEntry) (deciding : Nat) (freed : Bool)
    (hentry : entry.published = none)
    (hnow : request.phase ≠ .over → freed = false ∧ deciding = 0) :
    RequestInv { request with sessions, unregistered, entry, deciding, freed, stream := none } := by
  have hheld : AsyncRequest.held
      { request with sessions, unregistered, entry, deciding, freed, stream := none } = none :=
    held_range horder
  refine ⟨?_, ?_, ?_, fun _ => rfl, fun _ _ => hheld, (fun n hn => nomatch hn), fun n hn => ?_,
    fun hphase => ⟨hentry, hnow hphase⟩, fun _ => rfl, fun _ => hentry⟩
  · show unregistered = List.range unregistered.length
    rw [horder, List.length_range]
  · show unregistered.length ≤ request.registered.length ∧
      request.registered.length ≤ unregistered.length + 1
    rw [horder, List.length_range]
    omega
  · rw [AsyncRequest.live_of_held_none hheld]
    exact htally
  · exact nomatch hentry.symm.trans hn

theorem RequestInv.obtainSession (h : RequestInv request) (hphase : request.phase = .obtaining)
    (session : Option Nat) (error : Option Error) :
    RequestInv (request.obtainSession session error) := by
  have hstream := h.early (.inl hphase)
  rw [AsyncRequest.obtainSession]
  split
  · exact h.advance (by simp [hphase]) (by simp [hphase]) (by simp) (fun _ => hstream) _ _ _
  · exact h.advance (by simp [hphase]) (by simp [hphase]) (by simp) (fun _ => hstream) _ _ _

theorem register_eq (request : AsyncRequest) (sink : Option ResponseSink) :
    request.register sink = request ∨
      ∃ i, request.session = some i ∧
        (freeSlot (request.sessions i) = none ∧
            request.register sink =
              { request with
                sessions := Function.update request.sessions i
                  (registerStream (request.sessions i) sink)
                error := some ERR_RESPONSE_READING_CONNECTION_ERROR
                phase := .retrying } ∨
          ∃ slot, freeSlot (request.sessions i) = some slot ∧
            request.register sink =
              { request with
                sessions := Function.update request.sessions i
                  (registerStream (request.sessions i) sink)
                registered := request.registered ++ [⟨i, slot⟩]
                stream := some request.registered.length
                phase := .starting }) := by
  rw [AsyncRequest.register]
  split
  · exact .inl rfl
  · rename_i i hsession
    dsimp only
    split
    · rename_i hfull
      exact .inr ⟨i, hsession, .inl ⟨hfull, rfl⟩⟩
    · rename_i slot hslot
      exact .inr ⟨i, hsession, .inr ⟨slot, hslot, rfl⟩⟩

theorem RequestInv.register (h : RequestInv request) (hphase : request.phase = .registering)
    (sink : Option ResponseSink) : RequestInv (request.register sink) := by
  have hheld : request.held = none := by
    rw [h.pointer (by simp [hphase]) (by simp [hphase]), h.early (.inr hphase)]
  obtain ⟨horder, htally⟩ := h.all_unregistered hheld
  have hunpublished := h.unpublished (by simp [hphase])
  rcases register_eq request sink with heq | ⟨i, _, ⟨hfull, heq⟩ | ⟨slot, hslot, heq⟩⟩
  · rw [heq]
    exact h
  · rw [heq]
    have hsame := h.sessions (AsyncRequest.live_of_held_none hheld ▸ htally.full hfull sink)
    exact hsame.advance (by simp [hphase]) (by simp [hphase]) (by simp) (by simp) _ _ _
  · rw [heq]
    -- the stream that was just registered is held
    have hlength : request.unregistered.length = request.registered.length := by
      rw [horder, List.length_range]
    refine { h with
      bound := ?_, tally := ?_, early := by simp, pointer := fun _ _ => ?_, kept := ?_,
      published := (fun n hn => nomatch hunpublished.1.symm.trans hn),
      unpublished := fun _ => hunpublished, handed := by simp }
    · simp [hlength]
    · simpa [AsyncRequest.live, hlength] using htally.register hslot sink
    · simp [AsyncRequest.held, hlength]
    · intro n hn
      cases hn
      simp [AsyncRequest.held, hlength]

/-- `unregisterStream` and the null pointer behind it. -/
theorem RequestInv.forget (h : RequestInv request) (hnow : request.phase ≠ .over)
    (hfrom : request.phase ≠ .publishing) :
    ∃ sessions unregistered, request.unregister request.stream =
        { request with sessions, unregistered } ∧
      unregistered = List.range request.registered.length ∧
      RequestInv { request with sessions, unregistered, stream := none } := by
  obtain ⟨sessions, unregistered, heq, horder, htally⟩ := h.unregister (h.pointer hfrom hnow)
  obtain ⟨hpublished, hrest⟩ := h.unpublished hnow
  exact ⟨sessions, unregistered, heq, horder,
    requestInv_drained horder htally _ _ _ hpublished fun _ => hrest⟩

theorem RequestInv.startExchange (h : RequestInv request) (hphase : request.phase = .starting)
    (start : Start) : RequestInv (request.startExchange start) := by
  have hnow : request.phase ≠ .over := by simp [hphase]
  have hfrom : request.phase ≠ .publishing := by simp [hphase]
  rw [AsyncRequest.startExchange]
  split
  · exact h
  · rename_i n hstream
    cases start with
    | created =>
      have hthreads : RequestInv { request with threads := request.threads ++ [⟨n, .idle, false⟩] } :=
        { h with }
      exact hthreads.advance hnow hfrom (by simp) (by simp) _ _ _
    | noMemory => exact h.advance hnow hfrom (by simp) (by simp) _ _ _
    | createFailed =>
      dsimp only
      obtain ⟨sessions, heq, htally, _⟩ := request.modify_spec n
        (f := fun session stream =>
          (session, endStream { stream with error := some ERR_REQUEST_SENDING_HTTP11_REQUEST_FAILED }))
        (fun _ _ => rfl) (fun _ _ => rfl)
      rw [heq]
      exact (h.sessions (htally _ h.tally)).advance hnow hfrom (by simp) (by simp) _ _ _

theorem RequestInv.checkError (h : RequestInv request) (hphase : request.phase = .checking) :
    RequestInv request.checkError := by
  have hnow : request.phase ≠ .over := by simp [hphase]
  have hfrom : request.phase ≠ .publishing := by simp [hphase]
  rw [AsyncRequest.checkError]
  split
  · obtain ⟨sessions, unregistered, heq, _, hforget⟩ := h.forget hnow hfrom
    rw [heq]
    exact hforget.advance hnow hfrom (by simp) (by simp) _ _ _
  · exact h.advance hnow hfrom (by simp) (by simp) _ _ _

theorem prepareRetry_eq (request : AsyncRequest) :
    ∃ sessions, request.prepareRetry =
        { request with sessions := sessions, session := none, error := none } ∧
      ∀ live, Tally request.sessions live → Tally sessions live := by
  rw [AsyncRequest.prepareRetry]
  cases request.session with
  | none => exact ⟨request.sessions, rfl, fun live h => h⟩
  | some i =>
    exact ⟨Function.update request.sessions i { request.sessions i with goingAway := true }, rfl,
      fun live h => h.update (fun _ => Iff.rfl) rfl⟩

theorem RequestInv.decideRetry (h : RequestInv request) (hphase : request.phase = .retrying) :
    RequestInv request.decideRetry := by
  have hnow : request.phase ≠ .over := by simp [hphase]
  have hfrom : request.phase ≠ .publishing := by simp [hphase]
  rw [AsyncRequest.decideRetry]
  split
  · obtain ⟨sessions, unregistered, heq, _, hforget⟩ := h.forget hnow hfrom
    obtain ⟨sessions', hretry, htally⟩ := prepareRetry_eq { request with sessions, unregistered }
    rw [heq, hretry]
    exact (hforget.sessions (htally _ hforget.tally)).advance hnow hfrom (by simp) (fun _ => rfl)
      _ _ _
  · exact h.advance hnow hfrom (by simp) (by simp) _ _ _

theorem RequestInv.dropStream (h : RequestInv request) (hphase : request.phase = .dropping) :
    RequestInv request.dropStream := by
  have hnow : request.phase ≠ .over := by simp [hphase]
  have hfrom : request.phase ≠ .publishing := by simp [hphase]
  rw [AsyncRequest.dropStream]
  split
  · exact { h with
      early := by simp, pointer := by simp, kept := (fun n hn => nomatch hn)
      unpublished := fun _ => h.unpublished hnow, handed := by simp }
  · exact h.advance hnow hfrom (by simp) (by simp) _ _ _

theorem RequestInv.publish (h : RequestInv request) (hphase : request.phase = .publishing) :
    RequestInv request.publish := by
  obtain ⟨_, hfreed, _⟩ := h.unpublished (by simp [hphase])
  refine { h with
    early := by simp [AsyncRequest.publish], pointer := by simp [AsyncRequest.publish]
    kept := (fun n hn => nomatch hn), published := fun n hn => h.kept n (Option.some.inj hn)
    unpublished := fun hover => absurd rfl hover, handed := fun _ => rfl
    freed := fun hafter => ?_ }
  exact nomatch hfreed.symm.trans hafter

/-- A step of an exchange changes the threads and the stream of one of them. -/
theorem exchange_eq (lib : DecoderLib) (request : AsyncRequest) (k : Nat) (step : ExchangeStep) :
    request.exchange lib k step = request ∨
      ∃ thread phase sessions, request.threads[k]? = some thread ∧
        thread.phase.next step = some phase ∧
        request.exchange lib k step =
          { request with sessions, threads := request.threads.set k { thread with phase } } ∧
        (∀ live, Tally request.sessions live → Tally sessions live) ∧
        ∀ m after, (request.exchange lib k step).streamOf m = some after →
          request.streamOf m = some after ∨
            ∃ session stream, m = thread.stream ∧ request.streamOf thread.stream = some stream ∧
              after = (exchangeStep lib session stream step).2 := by
  rw [AsyncRequest.exchange]
  split
  · exact .inl rfl
  · rename_i thread hthread
    split
    · exact .inl rfl
    · rename_i phase hnext
      obtain ⟨sessions, heq, htally, hstream⟩ := request.modify_spec thread.stream
        (f := fun session stream => exchangeStep lib session stream step)
        (fun session stream => exchangeStep_streams session step)
        (fun session stream => exchangeStep_inflightCount session step)
      refine .inr ⟨thread, phase, sessions, hthread, hnext, by rw [heq], htally, ?_⟩
      exact hstream

theorem RequestInv.exchange (h : RequestInv request) (lib : DecoderLib) (k : Nat)
    (step : ExchangeStep) : RequestInv (request.exchange lib k step) := by
  rcases exchange_eq lib request k step with heq | ⟨thread, phase, sessions, _, _, heq, htally, _⟩
  · rw [heq]
    exact h
  · rw [heq]
    exact { h with tally := htally _ h.tally }

theorem exchangeReturn_eq (request : AsyncRequest) (k : Nat) :
    request.exchangeReturn k = request ∨
      ∃ thread error, request.threads[k]? = some thread ∧ thread.phase = .ended ∧
        thread.returned = false ∧
        request.exchangeReturn k =
          { request with error, threads := request.threads.set k { thread with returned := true } } := by
  rw [AsyncRequest.exchangeReturn]
  split
  · exact .inl rfl
  · rename_i thread hthread
    split
    · rename_i hended
      exact .inr ⟨thread, _, hthread, hended.1, by simpa using hended.2, rfl⟩
    · exact .inl rfl

theorem RequestInv.exchangeReturn (h : RequestInv request) (k : Nat) :
    RequestInv (request.exchangeReturn k) := by
  rcases exchangeReturn_eq request k with heq | ⟨thread, error, _, _, _, heq⟩
  · rw [heq]
    exact h
  · rw [heq]
    exact { h with }

/-- What is found in the entry was published. -/
theorem RequestInv.over_of_found (h : RequestInv request) {stream : Option Nat}
    (hfound : request.found = some stream) :
    request.phase = .over ∧ request.entry.published = some stream := by
  rw [AsyncRequest.found] at hfound
  split at hfound
  · refine ⟨by_contra fun hphase => ?_, hfound⟩
    exact nomatch (h.unpublished hphase).1.symm.trans hfound
  · cases hfound

/-- A poll finds that the request is done. -/
theorem RequestInv.decide (h : RequestInv request) (hphase : request.phase = .over)
    (error : Option Error) (deciding : Nat) :
    RequestInv { request with error, deciding } :=
  { h with unpublished := fun hnot => absurd hphase hnot }

theorem pollEnded_eq (request : AsyncRequest) :
    request.pollEnded = request ∨
      ∃ stream error, request.found = some stream ∧
        (∀ n, stream = some n → ∃ ended, request.streamOf n = some ended ∧ ended.isEnded = true) ∧
        request.pollEnded = { request with error, deciding := request.deciding + 1 } := by
  rw [AsyncRequest.pollEnded]
  split
  · rename_i n hfound
    split
    · exact .inl rfl
    · rename_i stream hstream
      split
      · rename_i hended
        refine .inr ⟨some n, _, hfound, fun m hm => ⟨stream, ?_, hended⟩, rfl⟩
        cases hm
        exact hstream
      · exact .inl rfl
  · rename_i hfound
    split
    · exact .inr ⟨none, request.error, hfound, (fun m hm => nomatch hm), rfl⟩
    · exact .inl rfl
  · exact .inl rfl

theorem RequestInv.pollEnded (h : RequestInv request) : RequestInv request.pollEnded := by
  rcases pollEnded_eq request with heq | ⟨stream, error, hfound, _, heq⟩
  · rw [heq]
    exact h
  · rw [heq]
    exact h.decide (h.over_of_found hfound).1 _ _

theorem pollTimeout_eq (request : AsyncRequest) :
    request.pollTimeout = request ∨
      ∃ n stream error, request.found = some (some n) ∧ request.streamOf n = some stream ∧
        stream.isEnded = false ∧
        request.pollTimeout = { request with error, deciding := request.deciding + 1 } := by
  rw [AsyncRequest.pollTimeout]
  split
  · rename_i n hfound
    split
    · exact .inl rfl
    · rename_i stream hstream
      split
      · exact .inl rfl
      · rename_i hended
        exact .inr ⟨n, stream, _, hfound, hstream, by simpa using hended, rfl⟩
  · exact .inl rfl

theorem RequestInv.pollTimeout (h : RequestInv request) : RequestInv request.pollTimeout := by
  rcases pollTimeout_eq request with heq | ⟨n, stream, error, hfound, _, _, heq⟩
  · rw [heq]
    exact h
  · rw [heq]
    exact h.decide (h.over_of_found hfound).1 _ _

/-- The entry changes, and what it had published is gone. -/
theorem RequestInv.entry (h : RequestInv request) (entry : AsyncEntry)
    (hentry : entry.published = none) : RequestInv { request with entry } :=
  { h with
    published := (fun _ hn => nomatch hentry.symm.trans hn)
    unpublished := fun hphase => ⟨hentry, (h.unpublished hphase).2⟩
    freed := fun _ => hentry }

/-- What is reclaimed: the stream that was published is unregistered. -/
theorem RequestInv.reclaim_eq (h : RequestInv request) {stream : Option Nat}
    (hfound : request.found = some stream) :
    ∃ sessions unregistered, request.reclaim =
        { request with
          sessions, unregistered, freed := true
          entry := { request.entry with inUse := false, published := none } } ∧
      (stream = none ∧ sessions = request.sessions ∧ unregistered = request.unregistered ∨
        unregistered = List.range request.registered.length ∧ Tally sessions request.others) := by
  simp only [AsyncRequest.reclaim, hfound]
  cases stream with
  | none => exact ⟨request.sessions, request.unregistered, rfl, .inl ⟨rfl, rfl, rfl⟩⟩
  | some n =>
    have hheld := h.published n (h.over_of_found hfound).2
    obtain ⟨sessions, unregistered, heq, hdrained⟩ := h.unregister hheld
    exact ⟨sessions, unregistered, by rw [heq], .inr hdrained⟩

theorem RequestInv.reclaim (h : RequestInv request) : RequestInv request.reclaim := by
  cases hfound : request.found with
  | none =>
    simp only [AsyncRequest.reclaim, hfound]
    exact h.entry _ rfl
  | some stream =>
    obtain ⟨sessions, unregistered, heq, hcases⟩ := h.reclaim_eq hfound
    obtain ⟨hover, hpublished⟩ := h.over_of_found hfound
    rw [heq]
    rcases hcases with ⟨_, rfl, rfl⟩ | ⟨horder, htally⟩
    · exact { h.entry { request.entry with inUse := false, published := none } rfl with
        unpublished := fun hnot => absurd hover hnot, freed := fun _ => rfl }
    · have hdrained := requestInv_drained horder htally
        { request.entry with inUse := false, published := none } request.deciding true rfl
        fun hnot => absurd hover hnot
      rw [← h.handed hover] at hdrained
      exact hdrained

theorem RequestInv.claimed (h : RequestInv request) :
    RequestInv { request with deciding := request.deciding - 1 } :=
  { h with
    unpublished := fun hphase => by
      obtain ⟨hpublished, hfreed, hdeciding⟩ := h.unpublished hphase
      exact ⟨hpublished, hfreed, by rw [hdeciding]⟩ }

theorem RequestInv.claim (h : RequestInv request) : RequestInv request.claim := by
  rw [AsyncRequest.claim]
  split
  · exact h
  · dsimp only
    split
    · exact h.claimed
    · exact h.claimed.reclaim

theorem RequestInv.otherRegister (h : RequestInv request) (i : Nat) (sink : Option ResponseSink) :
    RequestInv (request.otherRegister i sink) := by
  rw [AsyncRequest.otherRegister]
  split
  · rename_i hfull
    exact h.sessions (h.tally.full hfull sink)
  · rename_i slot hslot
    exact { h with tally := (h.tally.register hslot sink).perm List.perm_middle }

theorem RequestInv.otherUnregister (h : RequestInv request) (ref : StreamRef) :
    RequestInv (request.otherUnregister ref) := by
  rw [AsyncRequest.otherUnregister]
  split
  · rename_i hmem
    have htally := h.tally.unregister (List.mem_append_right _ hmem)
    rw [AsyncRequest.live, List.erase_append_right _ fun hheld =>
      List.disjoint_of_nodup_append h.tally.nodup hheld hmem] at htally
    exact { h with tally := htally }
  · exact h

theorem stepRequest_inv (lib : DecoderLib) (request : AsyncRequest) (event : RequestEvent)
    (h : RequestInv request) : RequestInv (stepRequest lib request event) := by
  refine stepRequest_keeps h fun hphase => ?_
  cases event with
  | obtainSession session error => exact h.obtainSession (hphase _ rfl) session error
  | register sink => exact h.register (hphase _ rfl) sink
  | registerFails =>
    have hnow := hphase _ rfl
    exact h.advance (by simp [hnow]) (by simp [hnow]) (by simp) (by simp) _ _ _
  | startExchange start => exact h.startExchange (hphase _ rfl) start
  | checkError => exact h.checkError (hphase _ rfl)
  | decideRetry => exact h.decideRetry (hphase _ rfl)
  | dropStream => exact h.dropStream (hphase _ rfl)
  | publish => exact h.publish (hphase _ rfl)
  | exchange k step => exact h.exchange lib k step
  | exchangeReturn k => exact h.exchangeReturn k
  | pollEnded => exact h.pollEnded
  | pollTimeout => exact h.pollTimeout
  | claim => exact h.claim
  | cleanup =>
    simp only [performRequest, AsyncRequest.cleanup]
    split
    · exact h.reclaim
    · exact h
  | reuseEntry =>
    simp only [performRequest, AsyncRequest.reuseEntry]
    split
    · exact h
    · exact h.entry _ rfl
  | overwriteEntry =>
    simp only [performRequest, AsyncRequest.overwriteEntry]
    split
    · exact h.entry _ rfl
    · exact h
  | otherRegister i sink => exact h.otherRegister i sink
  | otherUnregister ref => exact h.otherUnregister ref

theorem allocate_inv (headerTableSize : Nat) : RequestInv (allocate headerTableSize) := by
  refine ⟨rfl, ⟨Nat.le_refl 0, Nat.zero_le 1⟩, ⟨List.nodup_nil, fun ref => ?_, fun i => rfl⟩,
    fun _ => rfl, fun _ _ => rfl, (fun n hn => nomatch hn), (fun n hn => nomatch hn),
    fun _ => ⟨rfl, rfl, rfl⟩, fun _ => rfl, (fun h => nomatch h)⟩
  refine ⟨fun hmem => absurd hmem List.not_mem_nil, fun hne => ?_⟩
  exact absurd (streamAt_initSession headerTableSize ref.slot) hne

end RequestInv

end HttpRequestClient.Client
