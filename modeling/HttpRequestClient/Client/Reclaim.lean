import HttpRequestClient.Client.AsyncRequest

/-!
# Reclaiming a non-blocking request

Two results about every run of a request, with the threads in any order.

* `runRequest_unregisters`: every stream is unregistered exactly once when
  the handle has been reclaimed, if the starter does not find an error that
  was not there when `executeRequest` looked for one.  A stream that is
  forgotten there stays registered for good.
* `runRequest_safe`: no exchange runs on a basket or a stream that was
  reclaimed, if no poll gives up a stream that has not ended, and nothing is
  reclaimed behind the back of a thread that has ended its stream and not
  returned yet.
-/

namespace HttpRequestClient.Client

open Http2 Http11 Runs

variable {lib : DecoderLib} {request : AsyncRequest}

/-! ## The stream that the handle reclaims -/

/-- The starter does not forget a stream. -/
def keepsStream (request : AsyncRequest) : RequestEvent → Bool
  | .dropStream => request.stream = none ∨ request.error = none
  | _ => true

/-- A stream that is held is in the hands of the starter or published, as
long as the entry is not taken from the request. -/
structure HoldInv (request : AsyncRequest) : Prop where
  kept : ∀ n, request.held = some n →
    request.stream = some n ∨ request.entry.published = some (some n) ∨
      request.phase = .over ∧ request.entry.published = none
  freed : request.freed = true → request.held = none

theorem holdInv_of_none (h : request.held = none) : HoldInv request :=
  ⟨(fun _ hn => nomatch h.symm.trans hn), fun _ => h⟩

/-- Before the starter comes to its end the stream is in its hands. -/
theorem RequestInv.hold (h : RequestInv request) (hpublishing : request.phase ≠ .publishing)
    (hover : request.phase ≠ .over) : HoldInv request := by
  refine ⟨fun n hn => .inl ?_, fun hfreed => ?_⟩
  · rw [← h.pointer hpublishing hover, hn]
  · cases (h.unpublished hover).2.1.symm.trans hfreed

theorem HoldInv.entry (h : RequestInv request) (hhold : HoldInv request) (entry : AsyncEntry)
    (hentry : entry.published = none) : HoldInv { request with entry } := by
  refine ⟨fun n hn => ?_, hhold.freed⟩
  rcases hhold.kept n hn with hstream | hpublished | ⟨hover, _⟩
  · exact .inl hstream
  · have hover : request.phase = .over := by
      refine by_contra fun hphase => ?_
      cases (h.unpublished hphase).1.symm.trans hpublished
    exact .inr (.inr ⟨hover, hentry⟩)
  · exact .inr (.inr ⟨hover, hentry⟩)

theorem HoldInv.reclaim (h : RequestInv request) (hhold : HoldInv request) :
    HoldInv request.reclaim := by
  cases hfound : request.found with
  | none =>
    simp only [AsyncRequest.reclaim, hfound]
    exact hhold.entry h _ rfl
  | some stream =>
    obtain ⟨sessions, unregistered, heq, hcases⟩ := h.reclaim_eq hfound
    obtain ⟨hover, hpublished⟩ := h.over_of_found hfound
    -- nothing is held any more
    have hheld : request.reclaim.held = none := by
      rw [heq]
      rcases hcases with ⟨rfl, rfl, rfl⟩ | ⟨horder, _⟩
      · show request.held = none
        cases hheld : request.held with
        | none => rfl
        | some n =>
          rcases hhold.kept n hheld with hstream | hsome | ⟨_, hnone⟩
          · cases (h.handed hover).symm.trans hstream
          · cases hpublished.symm.trans hsome
          · cases hpublished.symm.trans hnone
      · exact held_range horder
    exact holdInv_of_none hheld

theorem HoldInv.claim (h : RequestInv request) (hhold : HoldInv request) :
    HoldInv request.claim := by
  rw [AsyncRequest.claim]
  split
  · exact hhold
  · dsimp only
    have hclaimed : HoldInv { request with deciding := request.deciding - 1 } :=
      ⟨hhold.kept, hhold.freed⟩
    split
    · exact hclaimed
    · exact hclaimed.reclaim h.claimed

theorem HoldInv.exchange (hhold : HoldInv request) (k : Nat) (step : ExchangeStep) :
    HoldInv (request.exchange lib k step) := by
  rcases exchange_eq lib request k step with heq | ⟨thread, phase, sessions, _, _, heq, _, _⟩
  · rw [heq]
    exact hhold
  · rw [heq]
    exact ⟨hhold.kept, hhold.freed⟩

theorem HoldInv.dropStream (h : RequestInv request) (hhold : HoldInv request)
    (hphase : request.phase = .dropping)
    (hkeeps : request.stream = none ∨ request.error = none) : HoldInv request.dropStream := by
  rw [AsyncRequest.dropStream]
  split
  · rename_i herror
    have hstream := hkeeps.resolve_right herror
    have hheld := h.pointer (by simp [hphase]) (by simp [hphase])
    rw [hstream] at hheld
    exact holdInv_of_none hheld
  · refine ⟨fun n hn => .inl ?_, hhold.freed⟩
    exact (h.pointer (by simp [hphase]) (by simp [hphase])).symm.trans hn

theorem HoldInv.publish (h : RequestInv request) (hhold : HoldInv request)
    (hphase : request.phase = .publishing) : HoldInv request.publish := by
  obtain ⟨hpublished, _⟩ := h.unpublished (by simp [hphase])
  refine ⟨fun n hn => ?_, hhold.freed⟩
  rcases hhold.kept n hn with hstream | hsome | ⟨hover, _⟩
  · exact .inr (.inl (by rw [AsyncRequest.publish, hstream]))
  · cases hpublished.symm.trans hsome
  · cases hphase.symm.trans hover

/-- Until it drops its stream or publishes, the starter is not near its end. -/
theorem performRequest_phase (lib : DecoderLib) {event : RequestEvent} {phase : StarterPhase}
    (hevent : event.phase? = some phase) (hphase : request.phase = phase)
    (hdrop : event ≠ .dropStream) (hpublish : event ≠ .publish) :
    (performRequest lib request event).phase ≠ .publishing ∧
      (performRequest lib request event).phase ≠ .over := by
  cases event with
  | obtainSession session error =>
    simp only [performRequest, AsyncRequest.obtainSession]
    split
    · simp
    · simp
  | register sink =>
    cases hevent
    simp only [performRequest, AsyncRequest.register]
    split
    · simp [hphase]
    · split
      · simp
      · simp
  | registerFails => simp [performRequest, AsyncRequest.registerFails]
  | startExchange start =>
    cases hevent
    simp only [performRequest, AsyncRequest.startExchange]
    split
    · simp [hphase]
    · cases start <;> simp
  | checkError =>
    simp only [performRequest, AsyncRequest.checkError]
    split
    · simp
    · simp
  | decideRetry =>
    simp only [performRequest, AsyncRequest.decideRetry]
    split
    · simp
    · simp
  | dropStream => exact absurd rfl hdrop
  | publish => exact absurd rfl hpublish
  | _ => cases hevent

theorem stepRequest_hold {event : RequestEvent} (h : RequestInv request) (hhold : HoldInv request)
    (hkeeps : keepsStream request event = true) : HoldInv (stepRequest lib request event) := by
  refine stepRequest_keeps (P := fun after => RequestInv after → HoldInv after) (fun _ => hhold)
    (fun hphase hafter => ?_) (stepRequest_inv lib request event h)
  -- the starter before its end
  have hearly : ∀ phase, event.phase? = some phase → event ≠ .dropStream → event ≠ .publish →
      HoldInv (performRequest lib request event) := by
    intro phase hevent hdrop hpublish
    obtain ⟨hpublishing, hover⟩ :=
      performRequest_phase lib hevent (hphase phase hevent) hdrop hpublish
    exact hafter.hold hpublishing hover
  cases event with
  | dropStream => exact hhold.dropStream h (hphase _ rfl) (by simpa [keepsStream] using hkeeps)
  | publish => exact hhold.publish h (hphase _ rfl)
  | exchange k step => exact hhold.exchange k step
  | exchangeReturn k =>
    show HoldInv (request.exchangeReturn k)
    rcases exchangeReturn_eq request k with heq | ⟨thread, error, _, _, _, heq⟩
    · rw [heq]
      exact hhold
    · rw [heq]
      exact ⟨hhold.kept, hhold.freed⟩
  | pollEnded =>
    show HoldInv request.pollEnded
    rcases pollEnded_eq request with heq | ⟨stream, error, _, _, heq⟩
    · rw [heq]
      exact hhold
    · rw [heq]
      exact ⟨hhold.kept, hhold.freed⟩
  | pollTimeout =>
    show HoldInv request.pollTimeout
    rcases pollTimeout_eq request with heq | ⟨n, stream, error, _, _, _, heq⟩
    · rw [heq]
      exact hhold
    · rw [heq]
      exact ⟨hhold.kept, hhold.freed⟩
  | claim => exact hhold.claim h
  | cleanup =>
    simp only [performRequest, AsyncRequest.cleanup]
    split
    · exact hhold.reclaim h
    · exact hhold
  | reuseEntry =>
    simp only [performRequest, AsyncRequest.reuseEntry]
    split
    · exact hhold
    · exact hhold.entry h _ rfl
  | overwriteEntry =>
    simp only [performRequest, AsyncRequest.overwriteEntry]
    split
    · exact hhold.entry h _ rfl
    · exact hhold
  | otherRegister i sink =>
    simp only [performRequest, AsyncRequest.otherRegister]
    split
    · exact ⟨hhold.kept, hhold.freed⟩
    · exact ⟨hhold.kept, hhold.freed⟩
  | otherUnregister ref =>
    simp only [performRequest, AsyncRequest.otherUnregister]
    split
    · exact ⟨hhold.kept, hhold.freed⟩
    · exact hhold
  | _ => exact hearly _ rfl (by simp) (by simp)

/-- When the handle has been reclaimed, every stream of the request was
unregistered exactly once: the slots hold the streams of other requests, and
the sessions count these only. -/
theorem runRequest_unregisters (lib : DecoderLib) (headerTableSize : Nat)
    {events : List RequestEvent}
    (h : Meets (stepRequest lib) (fun request event => keepsStream request event = true)
      (allocate headerTableSize) events) (n : Nat) :
    let request := runRequest lib headerTableSize (events.take n)
    request.freed = true →
      request.unregistered = List.range request.registered.length ∧
        (∀ ref, streamAt (request.sessions ref.session) ref.slot ≠ none ↔ ref ∈ request.others) ∧
        ∀ i, (request.sessions i).inflightCount =
          request.others.countP (fun ref => ref.session = i) := by
  intro request hfreed
  rw [← List.take_append_drop n events, meets_append] at h
  have hinv : RequestInv request ∧ HoldInv request :=
    run_keeps (P := fun request => RequestInv request ∧ HoldInv request)
      (fun request event hinv hkeeps =>
        ⟨stepRequest_inv lib request event hinv.1, stepRequest_hold hinv.1 hinv.2 hkeeps⟩)
      h.1 ⟨allocate_inv headerTableSize, (allocate_inv headerTableSize).hold (by simp [allocate])
        (by simp [allocate])⟩
  obtain ⟨horder, htally⟩ := hinv.1.all_unregistered (hinv.2.freed hfreed)
  exact ⟨horder, fun ref => (htally.occupied ref).symm, htally.counted⟩

/-- An exchange that answers `204`, collected by a poll. -/
theorem runRequest_unregisters_answered :
    let transport : Transport := ⟨[⟨ascii "HTTP/1.1 204 No Content\r\n\r\n", by decide⟩], .closed⟩
    let events : List RequestEvent :=
      [.obtainSession (some 0) none, .register none, .startExchange .created, .checkError,
        .decideRetry, .dropStream, .publish, .exchange 0 .start, .exchange 0 (.send none false),
        .exchange 0 (.receive .get transport), .exchange 0 .finish, .exchangeReturn 0, .pollEnded,
        .claim]
    let request := runRequest noDecoders 4096 events
    request.freed = true ∧ request.registered = [⟨0, 0⟩] ∧ request.unregistered = [0] ∧
      (request.sessions 0).inflightCount = 0 := by
  intro transport events request
  have hmeets : Meets (stepRequest noDecoders)
      (fun request event => keepsStream request event = true) (allocate 4096) events := by
    decide +kernel
  have hfreed : request.freed = true := by decide +kernel
  have hregistered : request.registered = [⟨0, 0⟩] := by decide +kernel
  have hothers : request.others = [] := by decide +kernel
  have hrun := runRequest_unregisters noDecoders 4096 hmeets 14
  rw [show events.take 14 = events from rfl] at hrun
  obtain ⟨horder, _, hcounted⟩ := hrun hfreed
  refine ⟨hfreed, hregistered, ?_, ?_⟩
  · rw [horder, hregistered]
    rfl
  · rw [hcounted 0, hothers]
    rfl

/-- The exchange fails behind the first look of the starter, which forgets
the stream.  The handle is reclaimed, and the stream is never unregistered. -/
theorem runRequest_leaks :
    let events : List RequestEvent :=
      [.obtainSession (some 0) none, .register none, .startExchange .created, .checkError,
        .exchange 0 .start, .exchange 0 (.send (some ERR_REQUEST_SENDING_HTTP11_REQUEST_FAILED) true),
        .exchange 0 .finish, .exchangeReturn 0, .decideRetry, .dropStream, .publish, .pollEnded,
        .claim]
    let request := runRequest noDecoders 4096 events
    request.freed = true ∧ request.registered = [⟨0, 0⟩] ∧ request.unregistered = [] ∧
      request.unregistered ≠ List.range request.registered.length ∧
      request.others = [] ∧ streamAt (request.sessions 0) 0 ≠ none ∧
      (request.sessions 0).inflightCount = 1 := by
  decide +kernel

/-! ## The threads of the exchanges -/

/-- The stream that a poll or a cleanup finds has ended. -/
def foundEnded (request : AsyncRequest) : Bool :=
  (request.found.join.bind request.streamOf).all Stream.isEnded

/-- No thread has ended its stream and has not returned. -/
def noneReturning (request : AsyncRequest) : Bool :=
  request.threads.all fun thread => thread.phase ≠ .ended ∨ thread.returned

/-- The time of no poll is over before the stream has ended, a cleanup finds
a stream that has ended, and no thread is about to return when something is
reclaimed. -/
def sparesThreads (request : AsyncRequest) : RequestEvent → Bool
  | .pollTimeout => foundEnded request
  | .claim => request.found = none ∨ noneReturning request
  | .cleanup => request.found = none ∨ foundEnded request ∧ noneReturning request
  | _ => true

def AllReturned (request : AsyncRequest) : Prop :=
  ∀ thread ∈ request.threads, thread.returned = true

/-- No exchange can run: a thread is not started yet, or it has left its
error, or the starter has no stream. -/
def Quiet (request : AsyncRequest) : Prop :=
  request.phase = .starting ∨
    (request.phase ≠ .over ∧ (request.error ≠ none ∨ request.stream = none)) ∨
    request.entry.published = some none

/-- Only the last thread may run, on the stream that is held and before the
basket is freed. -/
structure ThreadsInv (request : AsyncRequest) : Prop where
  returned : ∀ thread ∈ request.threads, thread.returned = true → thread.phase = .ended
  running : ∀ k thread, request.threads[k]? = some thread → thread.returned = false →
    k + 1 = request.threads.length ∧ request.held = some thread.stream ∧ request.freed = false
  ended : ∀ n stream, request.streamOf n = some stream → stream.isEnded = true →
    ∀ thread ∈ request.threads, thread.stream = n → thread.phase = .ended
  idle : Quiet request → AllReturned request
  clean : request.phase = .registering ∨ request.phase = .starting → request.error = none
  fresh : request.phase = .starting →
    ∀ n stream, request.streamOf n = some stream → stream.isEnded = false
  decided : request.deciding ≠ 0 → ∀ thread ∈ request.threads, thread.phase = .ended

/-- Nothing else is left to see to when all threads have returned. -/
theorem threadsInv_of_allReturned
    (hreturned : ∀ thread ∈ request.threads, thread.returned = true → thread.phase = .ended)
    (hall : AllReturned request)
    (hclean : request.phase = .registering ∨ request.phase = .starting → request.error = none)
    (hfresh : request.phase = .starting →
      ∀ n stream, request.streamOf n = some stream → stream.isEnded = false) :
    ThreadsInv request := by
  have hended : ∀ thread ∈ request.threads, thread.phase = .ended := fun thread hmem =>
    hreturned thread hmem (hall thread hmem)
  refine ⟨hreturned, fun k thread hthread hrunning => ?_, fun _ _ _ _ thread hmem _ =>
    hended thread hmem, fun _ => hall, hclean, hfresh, fun _ => hended⟩
  cases (hall thread (List.mem_of_getElem? hthread)).symm.trans hrunning

theorem quiet_of_early (h : RequestInv request)
    (hphase : request.phase = .obtaining ∨ request.phase = .registering) : Quiet request := by
  refine .inr (.inl ⟨?_, .inr (h.early hphase)⟩)
  rcases hphase with hphase | hphase <;> simp [hphase]

theorem quiet_of_error (hphase : request.phase ≠ .over) (herror : request.error ≠ none) :
    Quiet request :=
  .inr (.inl ⟨hphase, .inl herror⟩)

theorem ThreadsInv.ended_of_not_running (h : ThreadsInv request) {thread : ExchangeThread}
    (hmem : thread ∈ request.threads) (hheld : request.held ≠ some thread.stream) :
    thread.phase = .ended := by
  obtain ⟨k, hk⟩ := List.mem_iff_getElem?.mp hmem
  cases hreturned : thread.returned with
  | true => exact h.returned thread hmem hreturned
  | false => exact absurd (h.running k thread hk hreturned).2.1 hheld

/-- The threads before the last one have returned. -/
theorem ThreadsInv.returned_of_ne (h : ThreadsInv request) {k j : Nat}
    {thread other : ExchangeThread} (hk : request.threads[k]? = some thread)
    (hrunning : thread.returned = false) (hj : request.threads[j]? = some other) (hne : k ≠ j) :
    other.returned = true := by
  cases hreturned : other.returned with
  | true => rfl
  | false =>
    have hlast := (h.running k thread hk hrunning).1
    have hother := (h.running j other hj hreturned).1
    omega

/-- The starter goes on with its stream. -/
theorem ThreadsInv.advance (h : ThreadsInv request) (hnow : request.phase ≠ .over)
    {phase : StarterPhase} (hregistering : phase ≠ .registering) (hstarting : phase ≠ .starting) :
    ThreadsInv { request with phase } := by
  refine { h with
    idle := fun hquiet => ?_, clean := fun hphase => ?_
    fresh := fun hphase => absurd hphase hstarting }
  · rcases hquiet with hphase | ⟨_, hrest⟩ | hpublished
    · exact absurd hphase hstarting
    · exact h.idle (.inr (.inl ⟨hnow, hrest⟩))
    · exact h.idle (.inr (.inr hpublished))
  · rcases hphase with hphase | hphase
    · exact absurd hphase hregistering
    · exact absurd hphase hstarting

/-- The starter goes on while no thread runs. -/
theorem ThreadsInv.quiet (h : ThreadsInv request) (hquiet : Quiet request) {after : AsyncRequest}
    (hthreads : after.threads = request.threads) (hregistering : after.phase ≠ .registering)
    (hstarting : after.phase ≠ .starting) : ThreadsInv after := by
  refine threadsInv_of_allReturned ?_ ?_ (fun hphase => ?_) (fun hphase => absurd hphase hstarting)
  · rw [hthreads]
    exact h.returned
  · rw [AllReturned, hthreads]
    exact h.idle hquiet
  · rcases hphase with hphase | hphase
    · exact absurd hphase hregistering
    · exact absurd hphase hstarting

theorem ThreadsInv.obtainSession (h : RequestInv request) (hthreads : ThreadsInv request)
    (hphase : request.phase = .obtaining) (session : Option Nat) (error : Option Error) :
    ThreadsInv (request.obtainSession session error) := by
  have hquiet := quiet_of_early h (.inl hphase)
  rw [AsyncRequest.obtainSession]
  split
  · exact hthreads.quiet hquiet rfl (by simp) (by simp)
  · rename_i hobtained
    refine threadsInv_of_allReturned hthreads.returned (hthreads.idle hquiet) (fun _ => ?_) (by simp)
    simpa using fun herror => hobtained (.inr herror)

/-- A stream that was just registered has not ended. -/
theorem ThreadsInv.register (h : RequestInv request) (hthreads : ThreadsInv request)
    (hphase : request.phase = .registering) (sink : Option ResponseSink) :
    ThreadsInv (request.register sink) := by
  have hquiet := quiet_of_early h (.inr hphase)
  have hafter := h.register hphase sink
  rcases register_eq request sink with heq | ⟨i, _, ⟨_, heq⟩ | ⟨slot, hslot, heq⟩⟩
  · rw [heq]
    exact hthreads
  · rw [heq]
    exact hthreads.quiet hquiet rfl (by simp) (by simp)
  · rw [heq] at hafter ⊢
    refine threadsInv_of_allReturned hthreads.returned (hthreads.idle hquiet)
      (fun _ => hthreads.clean (.inl hphase)) (fun _ n stream hstream => ?_)
    have hheld := hafter.kept _ rfl
    cases Option.some.inj (hheld.symm.trans (AsyncRequest.held_of_streamOf hstream))
    rw [AsyncRequest.streamOf, AsyncRequest.locate, if_pos hheld] at hstream
    simp only [List.getElem?_concat_length, Option.bind_some, Function.update_self,
      streamAt_registerStream hslot, if_true, Option.some.injEq] at hstream
    rw [← hstream]
    rfl

theorem ThreadsInv.startExchange (h : RequestInv request) (hthreads : ThreadsInv request)
    (hphase : request.phase = .starting) (start : Start) :
    ThreadsInv (request.startExchange start) := by
  have hquiet : Quiet request := .inl hphase
  have hall := hthreads.idle hquiet
  obtain ⟨hpublished, hfreed, hdeciding⟩ := h.unpublished (by simp [hphase])
  rw [AsyncRequest.startExchange]
  split
  · exact hthreads
  · rename_i n hstream
    cases start with
    | created =>
      have hmem : ∀ thread ∈ request.threads ++ [⟨n, .idle, false⟩],
          thread ∈ request.threads ∨ thread = ⟨n, .idle, false⟩ := by
        intro thread hthread
        simpa using hthread
      refine ⟨fun thread hthread hreturned => ?_, fun k thread hthread hrunning => ?_,
        fun m stream hm hended thread hthread heq => ?_, fun hquiet => ?_, by simp, by simp,
        fun hdecided => absurd hdeciding hdecided⟩
      · rcases hmem thread hthread with hold | rfl
        · exact hthreads.returned thread hold hreturned
        · cases hreturned
      · rw [List.getElem?_append] at hthread
        split at hthread
        · have hreturned := hall thread (List.mem_of_getElem? hthread)
          cases hreturned.symm.trans hrunning
        · rw [List.getElem?_singleton] at hthread
          split at hthread
          · cases hthread
            refine ⟨?_, h.kept n hstream, hfreed⟩
            simp only [List.length_append, List.length_singleton]
            omega
          · cases hthread
      · cases (hthreads.fresh hphase m stream hm).symm.trans hended
      · rcases hquiet with hstarting | ⟨_, herror | hnone⟩ | hnone
        · cases hstarting
        · exact absurd (hthreads.clean (.inr hphase)) herror
        · cases hstream.symm.trans hnone
        · cases hpublished.symm.trans hnone
    | noMemory => exact hthreads.quiet hquiet rfl (by simp) (by simp)
    | createFailed =>
      dsimp only
      obtain ⟨sessions, heq, _, _⟩ := request.modify_spec n
        (f := fun session stream =>
          (session, endStream { stream with error := some ERR_REQUEST_SENDING_HTTP11_REQUEST_FAILED }))
        (fun _ _ => rfl) (fun _ _ => rfl)
      rw [heq]
      exact hthreads.quiet hquiet rfl (by simp) (by simp)

theorem ThreadsInv.checkError (h : RequestInv request) (hthreads : ThreadsInv request)
    (hphase : request.phase = .checking) : ThreadsInv request.checkError := by
  have hnow : request.phase ≠ .over := by simp [hphase]
  rw [AsyncRequest.checkError]
  split
  · rename_i herror
    obtain ⟨sessions, unregistered, heq, _, _⟩ := h.forget hnow (by simp [hphase])
    rw [heq]
    exact hthreads.quiet (quiet_of_error hnow herror) rfl (by simp) (by simp)
  · exact hthreads.advance hnow (by simp) (by simp)

theorem ThreadsInv.decideRetry (h : RequestInv request) (hthreads : ThreadsInv request)
    (hphase : request.phase = .retrying) : ThreadsInv request.decideRetry := by
  have hnow : request.phase ≠ .over := by simp [hphase]
  rw [AsyncRequest.decideRetry]
  split
  · rename_i hretry
    have herror : request.error ≠ none := by
      intro hnone
      rw [hnone] at hretry
      cases hretry.1
    obtain ⟨sessions, unregistered, heq, _, _⟩ := h.forget hnow (by simp [hphase])
    obtain ⟨sessions', hprepared, _⟩ := prepareRetry_eq { request with sessions, unregistered }
    rw [heq, hprepared]
    exact hthreads.quiet (quiet_of_error hnow herror) rfl (by simp) (by simp)
  · exact hthreads.advance hnow (by simp) (by simp)

theorem ThreadsInv.dropStream (hthreads : ThreadsInv request)
    (hphase : request.phase = .dropping) : ThreadsInv request.dropStream := by
  have hnow : request.phase ≠ .over := by simp [hphase]
  rw [AsyncRequest.dropStream]
  split
  · rename_i herror
    exact hthreads.quiet (quiet_of_error hnow herror) rfl (by simp) (by simp)
  · exact hthreads.advance hnow (by simp) (by simp)

theorem ThreadsInv.publish (hthreads : ThreadsInv request)
    (hphase : request.phase = .publishing) : ThreadsInv request.publish := by
  refine { hthreads with
    idle := fun hquiet => ?_, clean := by simp [AsyncRequest.publish]
    fresh := by simp [AsyncRequest.publish] }
  rcases hquiet with hstarting | ⟨hnow, _⟩ | hpublished
  · cases hstarting
  · exact absurd rfl hnow
  · exact hthreads.idle (.inr (.inl ⟨by simp [hphase], .inr (Option.some.inj hpublished)⟩))

/-- A step of the thread that runs.  It ends its stream as the last thing it
does with it. -/
theorem ThreadsInv.exchange (hthreads : ThreadsInv request) (k : Nat) (step : ExchangeStep) :
    ThreadsInv (request.exchange lib k step) := by
  rcases exchange_eq lib request k step with
    heq | ⟨thread, phase, sessions, hthread, hnext, heq, _, hstreamOf⟩
  · rw [heq]
    exact hthreads
  · have hmem := List.mem_of_getElem? hthread
    have hphase : thread.phase ≠ .ended := by
      intro hended
      rw [hended] at hnext
      cases hnext
    have hrunning : thread.returned = false := by
      cases hreturned : thread.returned with
      | false => rfl
      | true => exact absurd (hthreads.returned thread hmem hreturned) hphase
    obtain ⟨hlast, hheld, hfreed⟩ := hthreads.running k thread hthread hrunning
    have hcases : ∀ j other, (request.threads.set k { thread with phase })[j]? = some other →
        j = k ∧ other = { thread with phase } ∨
          j ≠ k ∧ request.threads[j]? = some other ∧ other.returned = true := by
      intro j other hother
      rw [List.getElem?_set] at hother
      split at hother
      · rename_i hkj
        split at hother
        · exact .inl ⟨hkj.symm, (Option.some.inj hother).symm⟩
        · cases hother
      · rename_i hkj
        exact .inr ⟨Ne.symm hkj, hother, hthreads.returned_of_ne hthread hrunning hother hkj⟩
    rw [heq] at hstreamOf ⊢
    refine ⟨fun other hother hreturned => ?_, fun j other hother hother_running => ?_,
      fun n after hafter hended other hother heq => ?_, fun hquiet => ?_, hthreads.clean,
      fun hstarting => ?_, fun hdecided => absurd (hthreads.decided hdecided thread hmem) hphase⟩
    · obtain ⟨j, hj⟩ := List.mem_iff_getElem?.mp hother
      rcases hcases j other hj with ⟨_, rfl⟩ | ⟨_, hold, _⟩
      · cases hrunning.symm.trans hreturned
      · exact hthreads.returned other (List.mem_of_getElem? hold) hreturned
    · rcases hcases j other hother with ⟨rfl, rfl⟩ | ⟨_, _, hreturned⟩
      · exact ⟨by rw [List.length_set]; exact hlast, hheld, hfreed⟩
      · cases hother_running.symm.trans hreturned
    · obtain ⟨j, hj⟩ := List.mem_iff_getElem?.mp hother
      rcases hcases j other hj with ⟨_, rfl⟩ | ⟨_, hold, hreturned⟩
      · rcases hstreamOf n after hafter with hsame | ⟨session, stream, rfl, hstream, rfl⟩
        · exact absurd (hthreads.ended n after hsame hended thread hmem heq) hphase
        · by_cases hfinish : step = .finish
          · subst hfinish
            show phase = .ended
            cases hbefore : thread.phase <;> rw [hbefore] at hnext <;> cases hnext
            rfl
          · rw [exchangeStep_isEnded session hfinish] at hended
            exact absurd (hthreads.ended _ stream hstream hended thread hmem rfl) hphase
      · exact hthreads.returned other (List.mem_of_getElem? hold) hreturned
    · cases hrunning.symm.trans (hthreads.idle hquiet thread hmem)
    · cases hrunning.symm.trans (hthreads.idle (.inl hstarting) thread hmem)

theorem ThreadsInv.exchangeReturn (h : RequestInv request) (hthreads : ThreadsInv request)
    (k : Nat) : ThreadsInv (request.exchangeReturn k) := by
  rcases exchangeReturn_eq request k with heq | ⟨thread, error, hthread, hended, hrunning, heq⟩
  · rw [heq]
    exact hthreads
  · rw [heq]
    have hloud : ¬Quiet request := fun hquiet =>
      nomatch hrunning.symm.trans (hthreads.idle hquiet thread (List.mem_of_getElem? hthread))
    have hcases : ∀ other ∈ request.threads.set k { thread with returned := true },
        other.returned = true ∧ other.phase = .ended := by
      intro other hother
      obtain ⟨j, hj⟩ := List.mem_iff_getElem?.mp hother
      rw [List.getElem?_set] at hj
      split at hj
      · split at hj
        · cases hj
          exact ⟨rfl, hended⟩
        · cases hj
      · rename_i hkj
        have hreturned := hthreads.returned_of_ne hthread hrunning hj hkj
        exact ⟨hreturned, hthreads.returned other (List.mem_of_getElem? hj) hreturned⟩
    refine threadsInv_of_allReturned (fun other hother _ => (hcases other hother).2)
      (fun other hother => (hcases other hother).1) (fun hphase => absurd ?_ hloud)
      (fun hphase => absurd (.inl hphase) hloud)
    rcases hphase with hphase | hphase
    · exact quiet_of_early h (.inr hphase)
    · exact .inl hphase

/-- When the stream that was found has ended, no exchange is under way. -/
theorem ThreadsInv.ended_of_found (h : RequestInv request) (hthreads : ThreadsInv request)
    {found : Option Nat} (hfound : request.found = some found)
    (hended : ∀ n, found = some n →
      ∃ stream, request.streamOf n = some stream ∧ stream.isEnded = true) :
    ∀ thread ∈ request.threads, thread.phase = .ended := by
  intro thread hmem
  cases found with
  | none =>
    have hquiet : Quiet request := .inr (.inr (h.over_of_found hfound).2)
    exact hthreads.returned thread hmem (hthreads.idle hquiet thread hmem)
  | some n =>
    obtain ⟨stream, hstream, hend⟩ := hended n rfl
    by_cases heq : thread.stream = n
    · exact hthreads.ended n stream hstream hend thread hmem heq
    · refine hthreads.ended_of_not_running hmem fun hheld => heq ?_
      exact Option.some.inj (hheld.symm.trans (AsyncRequest.held_of_streamOf hstream))

theorem ThreadsInv.pollEnded (h : RequestInv request) (hthreads : ThreadsInv request) :
    ThreadsInv request.pollEnded := by
  rcases pollEnded_eq request with heq | ⟨found, error, hfound, hended, heq⟩
  · rw [heq]
    exact hthreads
  · rw [heq]
    have hover := (h.over_of_found hfound).1
    have hall := hthreads.ended_of_found h hfound hended
    refine { hthreads with
      idle := fun hquiet => ?_, clean := fun hphase => ?_, decided := fun _ => hall }
    · rcases hquiet with hstarting | ⟨hnow, _⟩ | hpublished
      · cases hover.symm.trans hstarting
      · exact absurd hover hnow
      · exact hthreads.idle (.inr (.inr hpublished))
    · rcases hphase with hphase | hphase
      · cases hover.symm.trans hphase
      · cases hover.symm.trans hphase

/-- The stream that was found is there. -/
theorem RequestInv.streamOf_of_found (h : RequestInv request) {n : Nat}
    (hfound : request.found = some (some n)) : ∃ stream, request.streamOf n = some stream := by
  obtain ⟨ref, href, hlive⟩ :=
    AsyncRequest.locate_of_held (h.published n (h.over_of_found hfound).2)
  have hslot := (h.tally.occupied ref).mp (by rw [hlive]; exact List.mem_cons_self)
  obtain ⟨stream, hstream⟩ := Option.ne_none_iff_exists'.mp hslot
  exact ⟨stream, by rw [AsyncRequest.streamOf, href, Option.bind_some, hstream]⟩

theorem foundEnded_spec (h : RequestInv request) (hended : foundEnded request = true)
    {found : Option Nat} (hfound : request.found = some found) :
    ∀ n, found = some n → ∃ stream, request.streamOf n = some stream ∧ stream.isEnded = true := by
  rintro n rfl
  obtain ⟨stream, hstream⟩ := h.streamOf_of_found hfound
  refine ⟨stream, hstream, ?_⟩
  rw [foundEnded, hfound, Option.join_some, Option.bind_some, hstream, Option.all_some] at hended
  exact hended

/-- No poll gives up a stream that has not ended. -/
theorem pollTimeout_of_foundEnded (h : RequestInv request) (hended : foundEnded request = true) :
    request.pollTimeout = request := by
  rcases pollTimeout_eq request with heq | ⟨n, stream, error, hfound, hstream, hnot, _⟩
  · exact heq
  · obtain ⟨ended, hended', hend⟩ := foundEnded_spec h hended hfound n rfl
    cases Option.some.inj (hstream.symm.trans hended')
    cases hnot.symm.trans hend

theorem ThreadsInv.entry (hthreads : ThreadsInv request) (entry : AsyncEntry)
    (hentry : entry.published = none) : ThreadsInv { request with entry } := by
  refine { hthreads with idle := fun hquiet => ?_ }
  rcases hquiet with hstarting | hnow | hpublished
  · exact hthreads.idle (.inl hstarting)
  · exact hthreads.idle (.inr (.inl hnow))
  · cases hentry.symm.trans hpublished

theorem allReturned_of_noneReturning
    (hended : ∀ thread ∈ request.threads, thread.phase = .ended)
    (hnone : noneReturning request = true) : AllReturned request := by
  intro thread hmem
  rw [noneReturning, List.all_eq_true] at hnone
  have hthread := hnone thread hmem
  rw [decide_eq_true_iff] at hthread
  exact hthread.resolve_left fun hne => hne (hended thread hmem)

theorem ThreadsInv.reclaim (h : RequestInv request) (hthreads : ThreadsInv request)
    (hall : request.found ≠ none → AllReturned request) : ThreadsInv request.reclaim := by
  cases hfound : request.found with
  | none =>
    simp only [AsyncRequest.reclaim, hfound]
    exact hthreads.entry _ rfl
  | some found =>
    obtain ⟨sessions, unregistered, heq, _⟩ := h.reclaim_eq hfound
    have hover := (h.over_of_found hfound).1
    rw [heq]
    refine threadsInv_of_allReturned hthreads.returned (hall (by simp [hfound]))
      (fun hphase => ?_) (fun hphase => ?_)
    · exact hthreads.clean hphase
    · cases hover.symm.trans hphase

theorem ThreadsInv.claim (h : RequestInv request) (hthreads : ThreadsInv request)
    (hspares : request.found = none ∨ noneReturning request = true) :
    ThreadsInv request.claim := by
  rw [AsyncRequest.claim]
  split
  · exact hthreads
  · rename_i hdeciding
    have hclaimed : ThreadsInv { request with deciding := request.deciding - 1 } :=
      { hthreads with decided := fun _ => hthreads.decided hdeciding }
    dsimp only
    split
    · exact hclaimed
    · rename_i hfound
      exact hclaimed.reclaim h.claimed fun _ =>
        allReturned_of_noneReturning (hthreads.decided hdeciding) (hspares.resolve_left hfound)

theorem ThreadsInv.cleanup (h : RequestInv request) (hthreads : ThreadsInv request)
    (hspares : request.found = none ∨ foundEnded request = true ∧ noneReturning request = true) :
    ThreadsInv request.cleanup := by
  rw [AsyncRequest.cleanup]
  split
  · refine hthreads.reclaim h fun hfound => ?_
    obtain ⟨found, hsome⟩ := Option.ne_none_iff_exists'.mp hfound
    obtain ⟨hended, hnone⟩ := hspares.resolve_left hfound
    exact allReturned_of_noneReturning
      (hthreads.ended_of_found h hsome (foundEnded_spec h hended hsome)) hnone
  · exact hthreads

/-- Other requests leave the stream alone. -/
theorem ThreadsInv.sessions (hthreads : ThreadsInv request) {sessions : Nat → Session}
    {others : List StreamRef}
    (hstream : ∀ n, AsyncRequest.streamOf { request with sessions, others } n =
      request.streamOf n) : ThreadsInv { request with sessions, others } :=
  { hthreads with
    ended := fun n stream hn => hthreads.ended n stream ((hstream n).symm.trans hn)
    fresh := fun hphase n stream hn => hthreads.fresh hphase n stream ((hstream n).symm.trans hn) }

theorem streamOf_update {i n : Nat} {session : Session} {others : List StreamRef}
    (h : ∀ ref, request.locate n = some ref → ref.session = i →
      streamAt session ref.slot = streamAt (request.sessions i) ref.slot) :
    AsyncRequest.streamOf
        { request with sessions := Function.update request.sessions i session, others } n =
      request.streamOf n := by
  show (request.locate n).bind _ = (request.locate n).bind _
  cases hlocate : request.locate n with
  | none => rfl
  | some ref =>
    rw [Option.bind_some, Option.bind_some]
    dsimp only
    by_cases hi : ref.session = i
    · subst hi
      rw [Function.update_self]
      exact h ref hlocate rfl
    · rw [Function.update_of_ne hi]

theorem ThreadsInv.otherRegister (h : RequestInv request) (hthreads : ThreadsInv request) (i : Nat)
    (sink : Option ResponseSink) : ThreadsInv (request.otherRegister i sink) := by
  rw [AsyncRequest.otherRegister]
  split
  · rename_i hfull
    refine hthreads.sessions fun n => streamOf_update fun ref _ _ => ?_
    rw [registerStream_full hfull]
    rfl
  · rename_i slot hslot
    refine hthreads.sessions fun n => streamOf_update fun ref href hi => ?_
    rw [streamAt_registerStream hslot, if_neg]
    rintro rfl
    subst hi
    have hmem : ref ∈ request.live := by
      rw [AsyncRequest.live_of_locate href]
      exact List.mem_cons_self
    exact (h.tally.occupied ref).mp hmem (streamAt_freeSlot hslot).2

theorem ThreadsInv.otherUnregister (h : RequestInv request) (hthreads : ThreadsInv request)
    (ref : StreamRef) : ThreadsInv (request.otherUnregister ref) := by
  rw [AsyncRequest.otherUnregister]
  split
  · rename_i hmem
    refine hthreads.sessions fun n => streamOf_update fun held hheld hi => ?_
    rw [streamAt_unregisterStream, if_neg]
    intro hslot
    have hnodup := h.tally.nodup
    rw [AsyncRequest.live_of_locate hheld, List.nodup_cons] at hnodup
    have heq : held = ref := by
      cases held
      cases ref
      simp_all
    exact hnodup.1 (heq ▸ hmem)
  · exact hthreads

theorem stepRequest_threads {event : RequestEvent} (h : RequestInv request)
    (hthreads : ThreadsInv request) (hspares : sparesThreads request event = true) :
    ThreadsInv (stepRequest lib request event) := by
  refine stepRequest_keeps hthreads fun hphase => ?_
  cases event with
  | obtainSession session error => exact hthreads.obtainSession h (hphase _ rfl) session error
  | register sink => exact hthreads.register h (hphase _ rfl) sink
  | registerFails =>
    exact hthreads.quiet (quiet_of_early h (.inr (hphase _ rfl))) rfl
      (by simp [performRequest, AsyncRequest.registerFails])
      (by simp [performRequest, AsyncRequest.registerFails])
  | startExchange start => exact hthreads.startExchange h (hphase _ rfl) start
  | checkError => exact hthreads.checkError h (hphase _ rfl)
  | decideRetry => exact hthreads.decideRetry h (hphase _ rfl)
  | dropStream => exact hthreads.dropStream (hphase _ rfl)
  | publish => exact hthreads.publish (hphase _ rfl)
  | exchange k step => exact hthreads.exchange k step
  | exchangeReturn k => exact hthreads.exchangeReturn h k
  | pollEnded => exact hthreads.pollEnded h
  | pollTimeout =>
    show ThreadsInv request.pollTimeout
    rw [pollTimeout_of_foundEnded h hspares]
    exact hthreads
  | claim => exact hthreads.claim h (by simpa [sparesThreads] using hspares)
  | cleanup => exact hthreads.cleanup h (by simpa [sparesThreads] using hspares)
  | reuseEntry =>
    simp only [performRequest, AsyncRequest.reuseEntry]
    split
    · exact hthreads
    · exact hthreads.entry _ rfl
  | overwriteEntry =>
    simp only [performRequest, AsyncRequest.overwriteEntry]
    split
    · exact hthreads.entry _ rfl
    · exact hthreads
  | otherRegister i sink => exact hthreads.otherRegister h i sink
  | otherUnregister ref => exact hthreads.otherUnregister h ref

/-- A thread whose stream was unregistered, or whose basket was freed, has
ended its stream and returned. -/
theorem ThreadsInv.safe (h : RequestInv request) (hthreads : ThreadsInv request)
    {thread : ExchangeThread} (hmem : thread ∈ request.threads)
    (hreclaimed : thread.stream ∈ request.unregistered ∨ request.freed = true) :
    thread.phase = .ended ∧ thread.returned = true := by
  obtain ⟨k, hk⟩ := List.mem_iff_getElem?.mp hmem
  have hreturned : thread.returned = true := by
    refine by_contra fun hnot => ?_
    obtain ⟨_, hheld, hfreed⟩ := hthreads.running k thread hk (by simpa using hnot)
    rcases hreclaimed with hunregistered | htrue
    · rw [h.order, List.mem_range, (AsyncRequest.held_eq_some.mp hheld).1] at hunregistered
      exact Nat.lt_irrefl _ hunregistered
    · cases hfreed.symm.trans htrue
  exact ⟨hthreads.returned thread hmem hreturned, hreturned⟩

theorem allocate_threads (headerTableSize : Nat) : ThreadsInv (allocate headerTableSize) :=
  threadsInv_of_allReturned (by simp [allocate]) (by simp [AllReturned, allocate])
    (fun _ => rfl) (by simp [allocate])

/-- No exchange runs on what was reclaimed: the stream of a thread is
unregistered, and the basket is freed, only after the thread has ended its
stream and returned. -/
theorem runRequest_safe (lib : DecoderLib) (headerTableSize : Nat) {events : List RequestEvent}
    (h : Meets (stepRequest lib) (fun request event => sparesThreads request event = true)
      (allocate headerTableSize) events) (n : Nat) :
    let request := runRequest lib headerTableSize (events.take n)
    ∀ thread ∈ request.threads, thread.stream ∈ request.unregistered ∨ request.freed = true →
      thread.phase = .ended ∧ thread.returned = true := by
  intro request thread hmem hreclaimed
  rw [← List.take_append_drop n events, meets_append] at h
  have hinv : RequestInv request ∧ ThreadsInv request :=
    run_keeps (P := fun request => RequestInv request ∧ ThreadsInv request)
      (fun request event hinv hspares =>
        ⟨stepRequest_inv lib request event hinv.1, stepRequest_threads hinv.1 hinv.2 hspares⟩)
      h.1 ⟨allocate_inv headerTableSize, allocate_threads headerTableSize⟩
  exact hinv.2.safe hinv.1 hmem hreclaimed

/-- An exchange whose stream ends before a poll looks at it. -/
theorem runRequest_safe_answered :
    let transport : Transport := ⟨[⟨ascii "HTTP/1.1 204 No Content\r\n\r\n", by decide⟩], .closed⟩
    let events : List RequestEvent :=
      [.obtainSession (some 0) none, .register none, .startExchange .created, .checkError,
        .exchange 0 .start, .decideRetry, .dropStream, .exchange 0 (.send none false), .publish,
        .pollEnded, .exchange 0 (.receive .get transport), .exchange 0 .finish, .pollEnded,
        .exchangeReturn 0, .claim]
    let request := runRequest noDecoders 4096 events
    request.freed = true ∧ request.threads.length = 1 ∧
      ∀ thread ∈ request.threads, thread.phase = .ended ∧ thread.returned = true := by
  intro transport events request
  have hmeets : Meets (stepRequest noDecoders)
      (fun request event => sparesThreads request event = true) (allocate 4096) events := by
    decide +kernel
  have hfreed : request.freed = true := by decide +kernel
  have hsafe := runRequest_safe noDecoders 4096 hmeets 15
  rw [show events.take 15 = events from rfl] at hsafe
  exact ⟨hfreed, by decide +kernel, fun thread hmem => hsafe thread hmem (.inr hfreed)⟩

/-- The time of a poll is over while the exchange waits for the connection.
The stream is unregistered and the basket is freed, and the exchange goes on
with them. -/
theorem runRequest_timedOut :
    let events : List RequestEvent :=
      [.obtainSession (some 0) none, .register none, .startExchange .created, .checkError,
        .decideRetry, .dropStream, .publish, .pollTimeout, .claim, .exchange 0 .start]
    let request := runRequest noDecoders 4096 events
    request.threads = [⟨0, .sending, false⟩] ∧ request.unregistered = [0] ∧
      request.freed = true ∧
      ¬∀ thread ∈ request.threads, thread.stream ∈ request.unregistered ∨ request.freed = true →
        thread.phase = .ended ∧ thread.returned = true := by
  decide +kernel

end HttpRequestClient.Client
