import HttpRequestClient.Http11.Receiver
import HttpRequestClient.Http2.Connection
import Mathlib.Logic.Function.Basic

/-!
# Attempts and their completion

The attempts of requests on one session, from `registerStream` to
`unregisterStream`, with either protocol.  An attempt that could not be sent
is completed and removed in `executeRequest`.  A blocking one that was sent
is removed behind `awaitStream`, a non-blocking one by `handleResponseAsync`
or `cleanupAsyncRequests`.  On HTTP/1.1 the exchange runs on the thread of
the request, or on its own for a non-blocking request.

A reading timeout removes a stream that has not ended, and nothing completes
its sink.  `runAttempts_completesOnce`: without that, and when the thread of
a request that failed is not overtaken by the reader, every attempt with a
contract gets its completion exactly once before it is removed.

Left out: the write of the reader's queue, which no stream sees.
-/

namespace HttpRequestClient.Client

open Http2 Http11 Runs

inductive HttpProtocol where
  | http11
  | http2
  deriving Repr, DecidableEq

/-- Where the thread of an attempt is. -/
inductive AttemptPhase where
  /-- The request is handed to its protocol. -/
  | dispatching
  /-- There was an error in the basket. -/
  | failed
  /-- `completeResponseSink` found the sink open. -/
  | completing
  | completed
  /-- The response is awaited or polled. -/
  | sent
  deriving Repr, DecidableEq

/-- Where an HTTP/1.1 exchange is. -/
inductive ExchangePhase where
  | idle
  | sending
  | receiving
  | ending
  | ended
  deriving Repr, DecidableEq

structure Attempt where
  nonBlocking : Bool
  phase : AttemptPhase
  exchange : ExchangePhase
  deriving Repr, DecidableEq

/-! ## HTTP/1.1 exchanges -/

/-- The steps of `handleHttp11RequestSync`.  A request that is not sent leaves
an error, and the session goes away unless the request was not even built. -/
inductive ExchangeStep where
  | start
  | send (error : Option Error) (goingAway : Bool)
  | receive (method : Method) (transport : Transport)
  | finish

def ExchangePhase.next : ExchangePhase → ExchangeStep → Option ExchangePhase
  | .idle, .start => some .sending
  | .sending, .send none _ => some .receiving
  | .sending, .send (some _) _ => some .ending
  | .receiving, .receive _ _ => some .ending
  | .ending, .finish => some .ended
  | _, _ => none

def endStream (stream : Stream) : Stream := completeResponseSink { stream with isEnded := true }

/-- The session and the stream after a step. -/
def exchangeStep (lib : DecoderLib) (session : Session) (stream : Stream) :
    ExchangeStep → Session × Stream
  | .start => (session, stream)
  | .send error goingAway =>
    match error with
    | none => (session, stream)
    | some error =>
      ({ session with goingAway := session.goingAway || goingAway },
        { stream with error := some error })
  | .receive method transport =>
    let received := receiveHttp11Response lib ⟨method, session⟩ stream transport
    (received.1, received.2.1)
  | .finish => (session, endStream stream)

/-! ## The system -/

/-- A session, the attempts by the slot of their stream, and the calls that
each attempt with a contract had got when it was removed. -/
structure Attempts where
  protocol : HttpProtocol
  session : Session
  attempts : Nat → Option Attempt
  finished : List (List Callback)

/-- How an attempt that was sent is removed: its stream has ended, its
reading timeout passed before that, or the client is cleaned up. -/
inductive Reclaim where
  | ended
  | timedOut
  | cleanup
  deriving Repr, DecidableEq

inductive AttemptEvent where
  /-- The reader dispatches a frame. -/
  | frame (frame : Frame)
  | lost (error : Option Error)
  | register (nonBlocking : Bool) (decompress : Nat) (contract : Option ResponseStream)
  | exchange (slot : Nat) (step : ExchangeStep)
  /-- `executeRequest` looks for an error in the basket. -/
  | dispatched (slot : Nat) (error : Option Error)
  | checkCompletion (slot : Nat)
  | finishCompletion (slot : Nat)
  /-- `executeRequest` removes an attempt that failed. -/
  | drop (slot : Nat)
  | collect (slot : Nat) (reclaim : Reclaim)

/-- The errors that the basket may have after the dispatch.  On HTTP/2 the
request is written or not.  An exchange on the thread of the request has come
to its end; one on its own thread may be anywhere, and leaves its error when
it returns.  Without memory for that thread there is no exchange. -/
def mayLeave (protocol : HttpProtocol) (attempt : Attempt) (stream : Stream)
    (error : Option Error) : Bool :=
  match protocol with
  | .http2 => true
  | .http11 =>
    if attempt.exchange = .idle then attempt.nonBlocking ∧ error ≠ none
    else if attempt.exchange = .ended then error = stream.error ∨ attempt.nonBlocking ∧ error = none
    else attempt.nonBlocking ∧ error = none

def mayReclaim (attempt : Attempt) (stream : Stream) : Reclaim → Bool
  | .ended => stream.isEnded
  | .timedOut => !stream.isEnded
  | .cleanup => attempt.nonBlocking

/-- Write back an attempt and its stream. -/
def Attempts.put (state : Attempts) (session : Session) (slot : Nat) (attempt : Attempt)
    (stream : Stream) : Attempts :=
  { state with
    session := modifyStream session slot fun _ => stream
    attempts := Function.update state.attempts slot (some attempt) }

/-- Remove an attempt. -/
def Attempts.remove (state : Attempts) (slot : Nat) : Attempts :=
  { state with
    session := unregisterStream state.session slot
    attempts := Function.update state.attempts slot none
    finished := state.finished ++ (contractCalls state.session slot).toList }

/-- Do something with an attempt, if there is one in the slot. -/
def Attempts.onSlot (state : Attempts) (slot : Nat) (f : Attempt → Stream → Attempts) : Attempts :=
  match state.attempts slot, streamAt state.session slot with
  | some attempt, some stream => f attempt stream
  | _, _ => state

section Step

variable (lib : DecoderLib)

def registerAttempt (state : Attempts) (nonBlocking : Bool) (sink : ResponseSink) : Attempts :=
  let registered := { state with session := registerStream state.session (some sink) }
  match freeSlot state.session with
  | none => registered
  | some slot =>
    { registered with
      attempts := Function.update state.attempts slot (some ⟨nonBlocking, .dispatching, .idle⟩) }

def exchangeAttempt (state : Attempts) (slot : Nat) (step : ExchangeStep) : Attempts :=
  state.onSlot slot fun attempt stream =>
    match attempt.exchange.next step with
    | none => state
    | some phase =>
      if state.protocol = .http11 then
        let after := exchangeStep lib state.session stream step
        state.put after.1 slot { attempt with exchange := phase } after.2
      else state

def stepAttempts (state : Attempts) : AttemptEvent → Attempts
  | .frame frame =>
    if state.protocol = .http2 then
      { state with session := readerDispatch lib state.session frame }
    else state
  | .lost error =>
    if state.protocol = .http2 then { state with session := loseConnection state.session error }
    else state
  | .register nonBlocking decompress contract =>
    registerAttempt state nonBlocking (buildResponseSink decompress contract)
  | .exchange slot step => exchangeAttempt lib state slot step
  | .dispatched slot error =>
    state.onSlot slot fun attempt stream =>
      if attempt.phase = .dispatching ∧ mayLeave state.protocol attempt stream error then
        let phase : AttemptPhase := if error = none then .sent else .failed
        state.put state.session slot { attempt with phase := phase } stream
      else state
  | .checkCompletion slot =>
    state.onSlot slot fun attempt stream =>
      if attempt.phase = .failed then
        let phase : AttemptPhase := if stream.completed then .completed else .completing
        state.put state.session slot { attempt with phase := phase } stream
      else state
  | .finishCompletion slot =>
    state.onSlot slot fun attempt stream =>
      if attempt.phase = .completing then
        state.put state.session slot { attempt with phase := .completed } (finishCompletion stream)
      else state
  | .drop slot =>
    state.onSlot slot fun attempt _ =>
      if attempt.phase = .completed then state.remove slot else state
  | .collect slot reclaim =>
    state.onSlot slot fun attempt stream =>
      if attempt.phase = .sent ∧ mayReclaim attempt stream reclaim then state.remove slot
      else state

def openSession (protocol : HttpProtocol) (headerTableSize : Nat) : Attempts :=
  ⟨protocol, initSession headerTableSize, fun _ => none, []⟩

def runAttempts (protocol : HttpProtocol) (headerTableSize : Nat) (events : List AttemptEvent) :
    Attempts :=
  run (stepAttempts lib) (openSession protocol headerTableSize) events

end Step

/-- A stream with a contract is not removed before it has ended, and its sink
is not completed a second time by the thread of its request. -/
def completesOnce (state : Attempts) : AttemptEvent → Bool
  | .finishCompletion slot =>
    (streamAt state.session slot).all fun stream =>
      (contractSink stream).all fun sink => !sink.completed
  | .collect slot .timedOut =>
    (streamAt state.session slot).all fun stream => (contractSink stream).isNone
  | .collect slot .cleanup =>
    (streamAt state.session slot).all fun stream =>
      (contractSink stream).isNone || stream.isEnded
  | _ => true

/-! ## What every attempt keeps -/

/-- The completion is counted, a stream that has ended is completed, and so
is one whose thread has seen to it. -/
structure AttemptInv (attempt : Attempt) (stream : Stream) : Prop where
  counted : OnSink ResponseSink.Counted stream
  ended : stream.isEnded = true → SinkCompleted stream
  completed : attempt.phase = .completed → SinkCompleted stream

structure AttemptsInv (state : Attempts) : Prop where
  slots : ∀ slot, Option.Rel AttemptInv (state.attempts slot) (streamAt state.session slot)
  finished : ∀ calls ∈ state.finished, completions calls = 1

variable {lib : DecoderLib} {state : Attempts} {attempt : Attempt} {stream : Stream}

/-- What each call of the funnel keeps, a stream keeps with its frames. -/
theorem AttemptInv.handled {session : Session} (frame : Frame) (h : AttemptInv attempt stream) :
    AttemptInv attempt (streamAfter lib session stream frame) := by
  refine ⟨?_, streamAfter_completed lib session stream frame, fun hphase => ?_⟩
  · exact streamAfter_onSink lib session frame (fun _ _ hrel => hrel.counted)
      (fun _ _ hrel => hrel.counted) (fun _ _ hrel => hrel.counted) h.counted
  · exact streamAfter_onSink lib session frame
      (fun _ _ hrel hcompleted => hrel.completed.trans hcompleted)
      (fun _ _ hrel hcompleted => hrel.completed.trans hcompleted)
      (fun _ _ hrel _ => hrel.completed) (h.completed hphase)

theorem AttemptInv.fail (session : Session) (onlyPending : Bool) (h : AttemptInv attempt stream) :
    AttemptInv attempt (failStream session onlyPending stream) := by
  refine ⟨failStream_onSink session onlyPending (fun _ _ hrel => hrel.counted) h.counted, ?_,
    fun hphase => failStream_onSink session onlyPending (fun _ _ hrel _ => hrel.completed)
      (h.completed hphase)⟩
  unfold failStream
  split
  · exact fun _ => completeResponseSink_completed _
  · exact h.ended

theorem AttemptInv.frame {session : Session} {frame : Frame} {after : Stream}
    (h : AttemptInv attempt stream) (hchange : FrameChange lib session frame stream after) :
    AttemptInv attempt after := by
  cases hchange with
  | same => exact h
  | handled => exact h.handled frame
  | failed after => exact h.fail after true

/-- What depends on the sink and the end of a stream only. -/
theorem AttemptInv.marked {after : Stream} (h : AttemptInv attempt stream)
    (hmarked : Marked stream after) : AttemptInv attempt after :=
  ⟨h.counted.of_sink hmarked.sink,
    fun hended => (h.ended (hmarked.isEnded ▸ hended)).of_sink hmarked.sink,
    fun hphase => (h.completed hphase).of_sink hmarked.sink⟩

/-- A call of the funnel that is no completion. -/
theorem AttemptInv.rel {R : ResponseSink → ResponseSink → Prop} {after : Stream}
    (h : AttemptInv attempt stream) (hrel : SinkRel R stream after)
    (hended : after.isEnded = stream.isEnded)
    (hcounted : ∀ sink sink', R sink sink' → sink.Counted → sink'.Counted)
    (hcompleted : ∀ sink sink', R sink sink' → sink'.completed = sink.completed) :
    AttemptInv attempt after := by
  have hkeeps : SinkCompleted stream → SinkCompleted after := fun hdone =>
    hdone.rel hrel fun sink sink' _ hstep hflag => (hcompleted sink sink' hstep).trans hflag
  exact ⟨h.counted.rel hrel fun sink sink' _ => hcounted sink sink',
    fun hafter => hkeeps (h.ended (hended ▸ hafter)), fun hphase => hkeeps (h.completed hphase)⟩

theorem AttemptInv.receive (basket : Basket) (transport : Transport)
    (h : AttemptInv attempt stream) :
    AttemptInv attempt (receiveHttp11Response lib basket stream transport).2.1 := by
  refine receiveHttp11Response_keeps (P := AttemptInv attempt) (fun stream data hstream => ?_)
    (fun before after hmarked hbefore => hbefore.marked hmarked) (fun stream hstream => ?_)
    (fun stream hstream => ?_) basket transport h
  · exact hstream.rel (appendStreamPayload_sink lib stream data)
      (appendStreamPayload_keeps lib stream data).isEnded (fun _ _ hrel => hrel.fed.counted)
      (fun _ _ hrel => hrel.fed.completed)
  · exact hstream.rel (deliverResponseHeaders_sink lib stream)
      (deliverResponseHeaders_keeps lib stream).isEnded (fun _ _ hrel => hrel.counted)
      (fun _ _ hrel => hrel.completed)
  · exact hstream.rel (takeResponseCancellation_sink stream)
      (takeResponseCancellation_keeps stream).1.isEnded (fun _ _ hrel => hrel.fed.counted)
      (fun _ _ hrel => hrel.completed)

theorem AttemptInv.exchange (lib : DecoderLib) (session : Session) (step : ExchangeStep)
    (h : AttemptInv attempt stream) : AttemptInv attempt (exchangeStep lib session stream step).2 := by
  cases step with
  | start => exact h
  | send error goingAway =>
    cases error with
    | none => exact h
    | some error => exact h.marked ⟨rfl, rfl⟩
  | receive method transport => exact h.receive _ transport
  | finish =>
    have hended : OnSink ResponseSink.Counted { stream with isEnded := true } :=
      h.counted.of_sink rfl
    exact ⟨hended.rel (completeResponseSink_sink _) fun _ _ _ hrel => hrel.counted,
      fun _ => completeResponseSink_completed _, fun _ => completeResponseSink_completed _⟩

/-- An exchange changes nothing of its session but that it goes away. -/
theorem exchangeStep_session (lib : DecoderLib) (session : Session) (stream : Stream)
    (step : ExchangeStep) :
    ∃ goingAway, (exchangeStep lib session stream step).1 =
      { session with goingAway := goingAway } := by
  cases step with
  | start => exact ⟨_, rfl⟩
  | send error goingAway =>
    cases error with
    | none => exact ⟨_, rfl⟩
    | some error => exact ⟨_, rfl⟩
  | receive method transport =>
    simp only [exchangeStep, receiveHttp11Response]
    split
    · exact ⟨_, rfl⟩
    · simp only [closeSessionIfSingleUse]
      split
      · exact ⟨_, rfl⟩
      · exact ⟨_, rfl⟩
  | finish => exact ⟨_, rfl⟩

theorem exchangeStep_streams (session : Session) (step : ExchangeStep) :
    (exchangeStep lib session stream step).1.streams = session.streams := by
  obtain ⟨goingAway, heq⟩ := exchangeStep_session lib session stream step
  rw [heq]

theorem exchangeStep_inflightCount (session : Session) (step : ExchangeStep) :
    (exchangeStep lib session stream step).1.inflightCount = session.inflightCount := by
  obtain ⟨goingAway, heq⟩ := exchangeStep_session lib session stream step
  rw [heq]

/-- Only `endStream` ends a stream. -/
theorem exchangeStep_isEnded (session : Session) {step : ExchangeStep} (hstep : step ≠ .finish) :
    (exchangeStep lib session stream step).2.isEnded = stream.isEnded := by
  cases step with
  | start => rfl
  | send error goingAway =>
    cases error with
    | none => rfl
    | some error => rfl
  | receive method transport =>
    refine receiveHttp11Response_keeps (P := fun after => after.isEnded = stream.isEnded)
      (fun before data h => ?_) (fun before after hmarked h => hmarked.isEnded.trans h)
      (fun before h => ?_) (fun before h => ?_) _ transport rfl
    · exact (appendStreamPayload_keeps lib before data).isEnded.trans h
    · exact (deliverResponseHeaders_keeps lib before).isEnded.trans h
    · exact (takeResponseCancellation_keeps before).1.isEnded.trans h
  | finish => exact absurd rfl hstep

/-! ## What every step keeps -/

theorem AttemptsInv.put (h : AttemptsInv state) {session : Session}
    (hstreams : session.streams = state.session.streams) {slot : Nat}
    (hslot : streamAt state.session slot ≠ none) {attempt : Attempt} {stream : Stream}
    (hinv : AttemptInv attempt stream) : AttemptsInv (state.put session slot attempt stream) := by
  refine ⟨fun other => ?_, h.finished⟩
  show Option.Rel AttemptInv (Function.update state.attempts slot (some attempt) other)
    (streamAt (modifyStream session slot fun _ => stream) other)
  rw [streamAt_modifyStream, streamAt_of_streams hstreams]
  by_cases hother : slot = other
  · subst hother
    obtain ⟨found, hfound⟩ := Option.ne_none_iff_exists'.mp hslot
    rw [if_pos rfl, Function.update_self, hfound]
    exact .some hinv
  · rw [if_neg hother, Function.update_of_ne (Ne.symm hother)]
    exact h.slots other

theorem AttemptsInv.remove (h : AttemptsInv state) {slot : Nat}
    (hcalls : ∀ calls, contractCalls state.session slot = some calls → completions calls = 1) :
    AttemptsInv (state.remove slot) := by
  constructor
  · intro other
    show Option.Rel AttemptInv (Function.update state.attempts slot none other)
      (streamAt (unregisterStream state.session slot) other)
    rw [streamAt_unregisterStream]
    by_cases hother : slot = other
    · subst hother
      rw [if_pos rfl, Function.update_self]
      exact .none
    · rw [if_neg hother, Function.update_of_ne (Ne.symm hother)]
      exact h.slots other
  · intro calls hmem
    rcases List.mem_append.mp hmem with hold | hnew
    · exact h.finished calls hold
    · exact hcalls calls (Option.mem_toList.mp hnew)

theorem AttemptsInv.onSlot (h : AttemptsInv state) {slot : Nat} {f : Attempt → Stream → Attempts}
    (hf : ∀ attempt stream, state.attempts slot = some attempt →
      streamAt state.session slot = some stream → AttemptInv attempt stream →
      AttemptsInv (f attempt stream)) : AttemptsInv (state.onSlot slot f) := by
  have hslot := h.slots slot
  unfold Attempts.onSlot
  split
  · rename_i attempt stream hattempt hstream
    rw [hattempt, hstream] at hslot
    cases hslot with
    | some hinv => exact hf attempt stream hattempt hstream hinv
  · exact h

/-- A completed contract got its completion once. -/
theorem AttemptInv.completions_eq {slot : Nat} {calls : List Callback}
    (h : AttemptInv attempt stream) (hslot : streamAt state.session slot = some stream)
    (hcompleted : SinkCompleted stream) (hcalls : contractCalls state.session slot = some calls) :
    completions calls = 1 := by
  rw [contractCalls, hslot, Option.bind_some, Option.map_eq_some_iff] at hcalls
  obtain ⟨sink, hsink, rfl⟩ := hcalls
  rw [contractSink, Option.filter_eq_some_iff] at hsink
  rw [h.counted sink hsink.1 (Option.isSome_iff_ne_none.mp hsink.2),
    hcompleted sink hsink.1, if_pos rfl]

theorem stepAttempts_register (h : AttemptsInv state) (nonBlocking : Bool) (decompress : Nat)
    (contract : Option ResponseStream) :
    AttemptsInv (stepAttempts lib state (.register nonBlocking decompress contract)) := by
  show AttemptsInv (registerAttempt state nonBlocking (buildResponseSink decompress contract))
  unfold registerAttempt
  dsimp only
  split
  · rename_i hfull
    rw [registerStream_full hfull]
    exact ⟨h.slots, h.finished⟩
  · rename_i slot hslot
    refine ⟨fun other => ?_, h.finished⟩
    dsimp only
    rw [streamAt_registerStream hslot]
    by_cases hother : slot = other
    · subst hother
      rw [if_pos rfl, Function.update_self]
      refine .some ⟨fun sink hsink => ?_, (fun hended => nomatch hended),
        (fun hphase => nomatch hphase)⟩
      cases hsink
      exact buildResponseSink_counted decompress contract
    · rw [if_neg hother, Function.update_of_ne (Ne.symm hother)]
      exact h.slots other

theorem stepAttempts_reader (h : AttemptsInv state) (frame : Frame) :
    AttemptsInv (stepAttempts lib state (.frame frame)) := by
  rw [stepAttempts]
  split
  · refine ⟨fun slot => ?_, h.finished⟩
    have hslot := h.slots slot
    have hchange := readerDispatch_streamAt lib state.session frame slot
    dsimp only
    generalize state.attempts slot = attempt at hslot ⊢
    generalize streamAt state.session slot = before at hslot hchange
    generalize streamAt (readerDispatch lib state.session frame) slot = after at hchange ⊢
    cases hslot with
    | none =>
      cases hchange
      exact .none
    | some hinv =>
      cases hchange with
      | some hchange => exact .some (hinv.frame hchange)
  · exact h

theorem stepAttempts_lost (h : AttemptsInv state) (error : Option Error) :
    AttemptsInv (stepAttempts lib state (.lost error)) := by
  rw [stepAttempts]
  split
  · refine ⟨fun slot => ?_, h.finished⟩
    have hslot := h.slots slot
    dsimp only
    rw [loseConnection, streamAt_failAllStreams]
    rw [streamAt] at hslot ⊢
    dsimp only
    generalize state.attempts slot = attempt at hslot ⊢
    generalize (state.session.streams[slot]?).join = before at hslot ⊢
    cases hslot with
    | none => exact .none
    | some hinv => exact .some (hinv.fail _ false)
  · exact h

theorem stepAttempts_collect (h : AttemptsInv state) {slot : Nat} {reclaim : Reclaim}
    (honce : completesOnce state (.collect slot reclaim) = true) :
    AttemptsInv (stepAttempts lib state (.collect slot reclaim)) := by
  refine h.onSlot fun attempt stream hattempt hstream hinv => ?_
  split
  · rename_i hallowed
    refine h.remove fun calls hcalls => ?_
    -- a contract is only removed from a stream that has ended
    have hended : stream.isEnded = true := by
      have hcontract : contractSink stream ≠ none := by
        intro hnone
        rw [contractCalls, hstream, Option.bind_some, hnone] at hcalls
        cases hcalls
      cases reclaim with
      | ended => exact hallowed.2
      | timedOut =>
        rw [completesOnce, hstream, Option.all_some, Option.isNone_iff_eq_none] at honce
        exact absurd honce hcontract
      | cleanup =>
        rw [completesOnce, hstream, Option.all_some, Bool.or_eq_true,
          Option.isNone_iff_eq_none] at honce
        exact honce.resolve_left hcontract
    exact hinv.completions_eq hstream (hinv.ended hended) hcalls
  · exact h

theorem stepAttempts_inv {event : AttemptEvent} (h : AttemptsInv state)
    (honce : completesOnce state event = true) : AttemptsInv (stepAttempts lib state event) := by
  cases event with
  | frame frame => exact stepAttempts_reader h frame
  | lost error => exact stepAttempts_lost h error
  | register nonBlocking decompress contract =>
    exact stepAttempts_register h nonBlocking decompress contract
  | exchange slot step =>
    refine h.onSlot fun attempt stream _ hstream hinv => ?_
    split
    · exact h
    · split
      · have hafter := hinv.exchange lib state.session step
        exact h.put (exchangeStep_streams state.session step) (by rw [hstream]; simp)
          ⟨hafter.counted, hafter.ended, hafter.completed⟩
      · exact h
  | dispatched slot error =>
    refine h.onSlot fun attempt stream _ hstream hinv => ?_
    split
    · refine h.put rfl (by rw [hstream]; simp) ⟨hinv.counted, hinv.ended, fun hphase => ?_⟩
      split at hphase
      · cases hphase
      · cases hphase
    · exact h
  | checkCompletion slot =>
    refine h.onSlot fun attempt stream _ hstream hinv => ?_
    split
    · refine h.put rfl (by rw [hstream]; simp) ⟨hinv.counted, hinv.ended, fun hphase => ?_⟩
      dsimp only at hphase
      split at hphase
      · rename_i hcompleted
        exact (sinkCompleted_iff stream).mpr hcompleted
      · cases hphase
    · exact h
  | finishCompletion slot =>
    refine h.onSlot fun attempt stream _ hstream hinv => ?_
    split
    · rw [completesOnce, hstream, Option.all_some] at honce
      have hdone := finishCompletion_completed stream
      refine h.put rfl (by rw [hstream]; simp) ⟨?_, fun _ => hdone, fun _ => hdone⟩
      refine hinv.counted.rel (finishCompletion_sink stream) fun sink sink' hsink hrel hcounted =>
        hrel.counted hcounted fun hcontract => ?_
      rw [contractSink_of hsink hcontract, Option.all_some] at honce
      simpa using honce
    · exact h
  | drop slot =>
    refine h.onSlot fun attempt stream _ hstream hinv => ?_
    split
    · rename_i hphase
      exact h.remove fun calls hcalls =>
        hinv.completions_eq hstream (hinv.completed hphase) hcalls
    · exact h
  | collect slot reclaim => exact stepAttempts_collect h honce

theorem openSession_inv (protocol : HttpProtocol) (headerTableSize : Nat) :
    AttemptsInv (openSession protocol headerTableSize) := by
  refine ⟨fun slot => ?_, fun calls hcalls => absurd hcalls List.not_mem_nil⟩
  show Option.Rel AttemptInv none (streamAt (initSession headerTableSize) slot)
  rw [streamAt_initSession]
  exact .none

/-- Every attempt with a contract that was removed had got its completion
exactly once, in every state of a run whose events all meet the condition. -/
theorem runAttempts_completesOnce (lib : DecoderLib) (protocol : HttpProtocol)
    (headerTableSize : Nat) {events : List AttemptEvent}
    (h : Meets (stepAttempts lib) (fun state event => completesOnce state event = true)
      (openSession protocol headerTableSize) events) (n : Nat) :
    ∀ calls ∈ (runAttempts lib protocol headerTableSize (events.take n)).finished,
      completions calls = 1 := by
  rw [← List.take_append_drop n events, meets_append] at h
  have hinv : AttemptsInv (runAttempts lib protocol headerTableSize (events.take n)) :=
    run_keeps (fun state event => stepAttempts_inv) h.1 (openSession_inv protocol headerTableSize)
  exact hinv.finished

/-- A non-blocking HTTP/1.1 request whose exchange answers `204`. -/
theorem runAttempts_completesOnce_http11 :
    let transport : Transport := ⟨[⟨ascii "HTTP/1.1 204 No Content\r\n\r\n", by decide⟩], .closed⟩
    let events : List AttemptEvent :=
      [.register true 0 (some takeAll), .exchange 0 .start, .dispatched 0 none,
        .exchange 0 (.send none false), .exchange 0 (.receive .get transport),
        .exchange 0 .finish, .collect 0 .ended]
    let state := runAttempts noDecoders .http11 4096 events
    state.finished =
        [[.onHeaders [⟨ascii ":status", ascii "204"⟩], .onComplete none]] ∧
      ∀ calls ∈ state.finished, completions calls = 1 := by
  intro transport events state
  have hmeets : Meets (stepAttempts noDecoders)
      (fun state event => completesOnce state event = true) (openSession .http11 4096) events :=
    ⟨rfl, rfl, rfl, rfl, rfl, rfl, rfl, trivial⟩
  exact ⟨by decide +kernel, runAttempts_completesOnce noDecoders .http11 4096 hmeets 7⟩

/-- A blocking HTTP/2 request that `awaitStream` gives up.  Its consumer is
never told. -/
theorem runAttempts_timedOut :
    let events : List AttemptEvent :=
      [.register false 0 (some takeAll), .dispatched 0 none, .collect 0 .timedOut]
    let state := runAttempts noDecoders .http2 4096 events
    state.finished = [[]] ∧ ¬∀ calls ∈ state.finished, completions calls = 1 := by
  intro events state
  have hfinished : state.finished = [[]] := by decide +kernel
  refine ⟨hfinished, fun hall => ?_⟩
  have hone := hall [] (by rw [hfinished]; exact List.mem_singleton.mpr rfl)
  exact absurd hone (by decide)

end HttpRequestClient.Client
