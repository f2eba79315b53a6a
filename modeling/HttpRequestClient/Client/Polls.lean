import HttpRequestClient.Lib.Runs
import HttpRequestClient.ResponsePayload
import HttpRequestClient.Session

/-!
# Polls of a non-blocking request

`handleResponse` on the handle of a non-blocking request, from the moment it
is published.  A poll looks whether the stream has ended or the reading
timeout has run out, makes the JSON once, and gives up the handle when the
JSON fits the buffer of the caller.  Between two polls the stream may change
in any way, and an HTTP/1.1 exchange may write its error into the basket.

`runPolls_completes` says what the polls behind a completed one report, in
runs in which the clock does not go back and nothing brings the request back
to life in between: a stream that has ended stays ended, and no chunk moves
the last activity of one that has timed out.  `runPolls_inFlightAgain` is a
run in which a chunk does.

Left out: the freed memory behind a handle that is given up, and what lies in
memory behind the JSON.
-/

namespace HttpRequestClient.Client

open Runs

/-! ## The handle -/

/-- jansson and the decoders. -/
structure AnswerLib where
  json : Jansson
  json_dumps : Json → Bytes
  payload : PayloadLib

structure PolledStream where
  stream : Stream
  lastActivityTime : Int

/-- A basket with its entry in `asyncRegistry`. -/
structure AsyncHandle where
  basket : AnswerBasket
  serializedResult : Option Bytes
  stream : Option PolledStream
  startTime : Int
  registered : Bool

/-- A call of `handleResponse`: whether `dest` is a buffer, its capacity, and
the clock. -/
structure Poll where
  dest : Bool
  capacity : Int
  now : Int
  deriving Repr, DecidableEq

/-- What a call reports, and the bytes that it writes to `dest`. -/
structure PollAnswer where
  outStatus : Int
  outLen : Int
  copied : Option Bytes
  deriving Repr, DecidableEq

/-! ## One poll -/

/-- A `size_t` as an `int`, and an `int` as a `size_t`. -/
def asInt (n : Nat) : Int :=
  if n % 0x100000000 < 0x80000000 then (n % 0x100000000 : Nat)
  else (n % 0x100000000 : Nat) - 0x100000000

def asSize (n : Int) : Nat := (n % 0x10000000000000000).toNat

section Poll

variable (lib : AnswerLib)

/-- The time that the reading timeout counts from: the last activity, of a
stream with a sink only. -/
def lastActivity (handle : AsyncHandle) (polled : PolledStream) : Int :=
  if isResponseStreaming polled.stream ∧ polled.lastActivityTime > handle.startTime then
    polled.lastActivityTime
  else handle.startTime

def readingTimedOut (handle : AsyncHandle) (polled : PolledStream) (now : Int) : Bool :=
  let timeoutMs := handle.basket.responseReadingTimeoutInMilliseconds
  timeoutMs > 0 ∧ (now - lastActivity handle polled) * 1000 > timeoutMs

/-- Whether the request is done: `failed`, and the basket with its error. -/
def pollVerdict (handle : AsyncHandle) (now : Int) : Option (Bool × AnswerBasket) :=
  match handle.stream with
  | none => if handle.basket.error ≠ none then some (true, handle.basket) else none
  | some polled =>
    if polled.stream.isEnded then some (false, handle.basket)
    else if readingTimedOut handle polled now then
      some (true, { handle.basket with
        error := some ERR_RESPONSE_NO_CONTENT_AFTER_READING_TIMEOUT })
    else none

/-- The stream is moved into a basket without an error, at every such poll. -/
def finalizeHandle (basket : AnswerBasket) :
    Option PolledStream → AnswerBasket × Option PolledStream
  | none => (basket, none)
  | some polled =>
    if basket.error = none then
      let (basket, stream) := finalizeStreamIntoBasket lib.payload basket polled.stream
      (basket, some { polled with stream := stream })
    else (basket, some polled)

/-- The cached JSON, or that of the basket. -/
def serializeOnce (basket : AnswerBasket) : Option Bytes → Bytes × AnswerBasket
  | some json => (json, basket)
  | none =>
    let (answer, basket) := basketToString lib.json basket
    (lib.json_dumps answer, basket)

/-- The code of `copyBasketResult`, and what it copies with the terminator. -/
def copyBasketResult (json : Bytes) (capacity : Int) : Int × Option Bytes :=
  let len := asInt json.length
  if len ≥ capacity then (2, none)
  else (1, some ((json ++ [0]).take (asSize (len + 1))))

def handleResponseAsync (handle : AsyncHandle) (poll : Poll) : PollAnswer × AsyncHandle :=
  if ¬handle.registered then (⟨-1, 0, none⟩, handle)
  else
    match pollVerdict handle poll.now with
    | none => (⟨0, 0, none⟩, handle)
    | some (failed, basket) =>
      let finalized := finalizeHandle lib basket handle.stream
      let result := serializeOnce lib finalized.1 handle.serializedResult
      let code := copyBasketResult result.1 poll.capacity
      (⟨if failed then -1 else code.1, asInt result.1.length, code.2⟩,
        { handle with
          basket := result.2
          stream := finalized.2
          serializedResult := some result.1
          registered := code.1 ≠ 1 })

def handleResponse (handle : AsyncHandle) (poll : Poll) : PollAnswer × AsyncHandle :=
  if ¬poll.dest ∨ poll.capacity ≤ 0 then (⟨-1, 0, none⟩, handle)
  else handleResponseAsync lib handle poll

/-! ## Runs -/

/-- What happens to a handle between two moments. -/
inductive PollEvent where
  | stream (after : PolledStream)
  | exchangeError (error : Error)
  | call (poll : Poll)

def stepPolls (handle : AsyncHandle) : PollEvent → AsyncHandle
  | .stream after => { handle with stream := handle.stream.map fun _ => after }
  | .exchangeError error => { handle with basket := { handle.basket with error := some error } }
  | .call poll => (handleResponse lib handle poll).2

def runPolls (handle : AsyncHandle) (events : List PollEvent) : AsyncHandle :=
  run (stepPolls lib) handle events

/-- A stream that has ended stays ended, and one that has not ends or has no
later activity. -/
def StaysDone (handle : AsyncHandle) (before after : PolledStream) : Prop :=
  after.stream.isEnded = true ∨
    before.stream.isEnded = false ∧ lastActivity handle after ≤ lastActivity handle before

instance (handle : AsyncHandle) (before after : PolledStream) :
    Decidable (StaysDone handle before after) :=
  inferInstanceAs (Decidable (_ ∨ _ ∧ _))

/-- A call has a buffer, and once the JSON is made nothing happens to the
stream that a poll would take for a request in flight. -/
def KeepsDone (handle : AsyncHandle) : PollEvent → Prop
  | .stream after => handle.serializedResult.isSome = true →
      ∀ before ∈ handle.stream, StaysDone handle before after
  | .exchangeError _ => True
  | .call poll => poll.dest = true ∧ 0 < poll.capacity

instance (handle : AsyncHandle) : ∀ event, Decidable (KeepsDone handle event)
  | .stream after =>
    inferInstanceAs (Decidable (_ → ∀ before ∈ handle.stream, StaysDone handle before after))
  | .exchangeError _ => inferInstanceAs (Decidable True)
  | .call _ => inferInstanceAs (Decidable (_ ∧ _))

def callTime? : PollEvent → Option Int
  | .call poll => some poll.now
  | _ => none

/-- What the clock shows at the calls. -/
def callTimes (events : List PollEvent) : List Int := events.filterMap callTime?

end Poll

section Polls

variable {lib : AnswerLib} {handle : AsyncHandle} {poll : Poll}

/-- The JSON that a poll at some time has for its caller. -/
def resultAt (lib : AnswerLib) (handle : AsyncHandle) (now : Int) : Option Bytes :=
  (pollVerdict handle now).map fun verdict =>
    (serializeOnce lib (finalizeHandle lib verdict.2 handle.stream).1 handle.serializedResult).1

theorem handleResponse_pending (hdest : poll.dest = true) (hcapacity : 0 < poll.capacity)
    (hlive : handle.registered = true) (hresult : resultAt lib handle poll.now = none) :
    handleResponse lib handle poll = (⟨0, 0, none⟩, handle) := by
  have hverdict : pollVerdict handle poll.now = none := by simpa [resultAt] using hresult
  have hargs : ¬(¬poll.dest ∨ poll.capacity ≤ 0) := by simp [hdest, hcapacity]
  rw [handleResponse, if_neg hargs, handleResponseAsync, if_neg (by simp [hlive]), hverdict]

theorem pollVerdict_error {now : Int} {failed : Bool} {basket : AnswerBasket}
    (hverdict : pollVerdict handle now = some (failed, basket)) (hnone : handle.stream = none) :
    basket.error ≠ none := by
  rw [pollVerdict, hnone] at hverdict
  dsimp only at hverdict
  split at hverdict
  · rename_i herror
    cases hverdict
    exact herror
  · cases hverdict

theorem finalizeHandle_stream (lib : AnswerLib) (basket : AnswerBasket)
    (stream : Option PolledStream) :
    (finalizeHandle lib basket stream).2 = none ↔ stream = none := by
  cases stream with
  | none => simp [finalizeHandle]
  | some polled =>
    rw [finalizeHandle]
    split
    · simp
    · simp

/-- Neither the JSON nor the move of the stream takes an error away. -/
theorem serializeOnce_error (lib : AnswerLib) {basket : AnswerBasket} (h : basket.error ≠ none)
    (cached : Option Bytes) : (serializeOnce lib basket cached).2.error ≠ none := by
  cases cached with
  | some json => exact h
  | none =>
    show (basketToString lib.json basket).2.error ≠ none
    rw [basketToString_basket]
    split
    · simp
    · exact h

theorem copyBasketResult_code (json : Bytes) (capacity : Int) :
    (copyBasketResult json capacity).1 ≠ 0 ∧
      ((copyBasketResult json capacity).1 = 1 ↔ asInt json.length < capacity) := by
  have hcopy : copyBasketResult json capacity =
      if asInt json.length ≥ capacity then (2, none)
      else (1, some ((json ++ [0]).take (asSize (asInt json.length + 1)))) := by
    rw [copyBasketResult]
  rw [hcopy]
  split
  · rename_i hfull
    exact ⟨by simp, by simpa using hfull⟩
  · rename_i hfits
    exact ⟨by simp, by simpa using hfits⟩

/-- What a poll finds done. -/
def Done (handle : AsyncHandle) (now : Int) (polled : PolledStream) : Prop :=
  polled.stream.isEnded = true ∨ readingTimedOut handle polled now = true

/-- A timeout that has run out has run out for any later poll, when there was
no activity since. -/
theorem readingTimedOut_later {other : AsyncHandle} {polled after : PolledStream}
    {now later : Int}
    (htimeout : other.basket.responseReadingTimeoutInMilliseconds =
      handle.basket.responseReadingTimeoutInMilliseconds)
    (hactivity : lastActivity other after ≤ lastActivity handle polled) (hle : now ≤ later)
    (h : readingTimedOut handle polled now = true) :
    readingTimedOut other after later = true := by
  simp only [readingTimedOut, gt_iff_lt, decide_eq_true_eq] at h ⊢
  rw [htimeout]
  omega

theorem finalizeResponsePayload_timeout (lib : PayloadLib) (basket : AnswerBasket)
    (combinedPayload : Bytes) (payloadDecoded : Bool) :
    (finalizeResponsePayload lib basket combinedPayload
        payloadDecoded).responseReadingTimeoutInMilliseconds =
      basket.responseReadingTimeoutInMilliseconds := by
  unfold finalizeResponsePayload
  split
  · rfl
  · dsimp only
    split
    · rfl
    · split
      · rfl
      · split
        · rfl
        · rfl

/-- Only the body of a stream is moved. -/
theorem finalizeHandle_keeps (lib : AnswerLib) (basket : AnswerBasket)
    (stream : Option PolledStream) :
    (finalizeHandle lib basket stream).1.responseReadingTimeoutInMilliseconds =
        basket.responseReadingTimeoutInMilliseconds ∧
      ∀ after ∈ (finalizeHandle lib basket stream).2, ∃ before ∈ stream,
        after.stream.isEnded = before.stream.isEnded ∧ after.stream.sink = before.stream.sink ∧
          after.lastActivityTime = before.lastActivityTime := by
  cases stream with
  | none => exact ⟨rfl, fun after hafter => nomatch hafter⟩
  | some polled =>
    rw [finalizeHandle]
    split
    · dsimp only
      unfold finalizeStreamIntoBasket
      split
      · refine ⟨rfl, fun after hafter => ?_⟩
        cases hafter
        exact ⟨polled, rfl, rfl, rfl, rfl⟩
      · refine ⟨finalizeResponsePayload_timeout lib.payload _ _ _, fun after hafter => ?_⟩
        cases hafter
        exact ⟨polled, rfl, rfl, rfl, rfl⟩
    · refine ⟨rfl, fun after hafter => ?_⟩
      cases hafter
      exact ⟨polled, rfl, rfl, rfl, rfl⟩

theorem serializeOnce_timeout (lib : AnswerLib) (basket : AnswerBasket) (cached : Option Bytes) :
    (serializeOnce lib basket cached).2.responseReadingTimeoutInMilliseconds =
      basket.responseReadingTimeoutInMilliseconds := by
  cases cached with
  | some json => rfl
  | none =>
    show (basketToString lib.json basket).2.responseReadingTimeoutInMilliseconds = _
    rw [basketToString_basket]
    split
    · rfl
    · rfl

/-- What a poll finds in a stream is there behind the poll as well. -/
theorem pollVerdict_done {now : Int} {verdict : Bool × AnswerBasket}
    (h : pollVerdict handle now = some verdict) :
    verdict.2.responseReadingTimeoutInMilliseconds =
        handle.basket.responseReadingTimeoutInMilliseconds ∧
      ∀ polled ∈ handle.stream, Done handle now polled := by
  unfold pollVerdict at h
  cases hstream : handle.stream with
  | none =>
    rw [hstream] at h
    dsimp only at h
    split at h
    · cases h
      exact ⟨rfl, fun polled hpolled => nomatch hpolled⟩
    · cases h
  | some polled =>
    rw [hstream] at h
    dsimp only at h
    split at h
    · rename_i hended
      cases h
      exact ⟨rfl, fun _ hpolled => Option.some.inj hpolled ▸ .inl hended⟩
    · split at h
      · rename_i htimeout
        cases h
        exact ⟨rfl, fun _ hpolled => Option.some.inj hpolled ▸ .inr htimeout⟩
      · cases h

/-- The request is over since some time: its JSON is made, the stream is done,
and an error stands for a stream that there is not. -/
structure Frozen (json : Bytes) (since : Int) (handle : AsyncHandle) : Prop where
  result : handle.serializedResult = some json
  error : handle.stream = none → handle.basket.error ≠ none
  done : ∀ polled ∈ handle.stream, Done handle since polled

/-- A poll of a request that is done. -/
structure Completes (json : Bytes) (poll : Poll) (answer : PollAnswer) (after : AsyncHandle) :
    Prop where
  status : answer.outStatus ≠ 0
  outLen : answer.outLen = asInt json.length
  copied : answer.copied = (copyBasketResult json poll.capacity).2
  reclaimed : after.registered = false ↔ asInt json.length < poll.capacity
  frozen : Frozen json poll.now after

theorem handleResponse_done (hdest : poll.dest = true) (hcapacity : 0 < poll.capacity)
    (hlive : handle.registered = true) {json : Bytes}
    (hresult : resultAt lib handle poll.now = some json) :
    Completes json poll (handleResponse lib handle poll).1
      (handleResponse lib handle poll).2 := by
  have hargs : ¬(¬poll.dest ∨ poll.capacity ≤ 0) := by simp [hdest, hcapacity]
  rw [handleResponse, if_neg hargs, handleResponseAsync, if_neg (by simp [hlive])]
  cases hverdict : pollVerdict handle poll.now with
  | none => simp [resultAt, hverdict] at hresult
  | some verdict =>
    obtain ⟨failed, basket⟩ := verdict
    have hjson : (serializeOnce lib (finalizeHandle lib basket handle.stream).1
        handle.serializedResult).1 = json := by
      simpa [resultAt, hverdict] using hresult
    have hcode := copyBasketResult_code json poll.capacity
    obtain ⟨hlimit, hdone⟩ := pollVerdict_done hverdict
    obtain ⟨hkept, hstreams⟩ := finalizeHandle_keeps lib basket handle.stream
    dsimp only
    rw [hjson]
    refine ⟨?_, rfl, rfl, ?_, rfl, ?_, ?_⟩
    · dsimp only
      split
      · decide
      · exact hcode.1
    · simp only [ne_eq, decide_not, Bool.not_eq_false', decide_eq_true_eq]
      exact hcode.2
    · intro hnone
      have hstream := (finalizeHandle_stream lib basket handle.stream).mp hnone
      have herror := pollVerdict_error hverdict hstream
      rw [hstream]
      exact serializeOnce_error lib herror _
    · intro after hafter
      obtain ⟨polled, hpolled, hended, hsink, hactivity⟩ := hstreams after hafter
      refine (hdone polled hpolled).imp hended.trans fun htimeout => ?_
      have hstreaming : isResponseStreaming after.stream = isResponseStreaming polled.stream :=
        congrArg Option.isSome hsink
      have hlast : lastActivity handle after = lastActivity handle polled := by
        rw [lastActivity, lastActivity, hactivity]
        simp only [hstreaming]
      exact readingTimedOut_later (((serializeOnce_timeout lib _ _).trans hkept).trans hlimit)
        (Int.le_of_eq hlast) (Int.le_refl _) htimeout

/-- A request whose JSON is made has that JSON for every later poll. -/
theorem Frozen.resultAt {json : Bytes} {since : Int} (h : Frozen json since handle)
    (hlater : since ≤ poll.now) : resultAt lib handle poll.now = some json := by
  have hverdict : ∃ verdict, pollVerdict handle poll.now = some verdict := by
    unfold pollVerdict
    cases hstream : handle.stream with
    | none => exact ⟨_, if_pos (h.error hstream)⟩
    | some polled =>
      rcases h.done polled hstream with hended | htimeout
      · exact ⟨_, if_pos hended⟩
      · by_cases hended : polled.stream.isEnded = true
        · exact ⟨_, if_pos hended⟩
        · have hstill := readingTimedOut_later rfl (Int.le_refl _) hlater htimeout
          exact ⟨_, (if_neg hended).trans (if_pos hstill)⟩
  obtain ⟨verdict, hverdict⟩ := hverdict
  rw [Client.resultAt, hverdict, h.result]
  rfl

theorem Frozen.later {json : Bytes} {since later : Int} (h : Frozen json since handle)
    (hle : since ≤ later) : Frozen json later handle where
  result := h.result
  error := h.error
  done polled hpolled :=
    (h.done polled hpolled).imp id (readingTimedOut_later rfl (Int.le_refl _) hle)

theorem stepPolls_frozen {json : Bytes} {since : Int} {event : PollEvent}
    (h : Frozen json since handle) (hkeeps : KeepsDone handle event)
    (hlater : ∀ now ∈ callTime? event, since ≤ now) :
    Frozen json ((callTime? event).getD since) (stepPolls lib handle event) := by
  cases event with
  | stream after =>
    have hmade : handle.serializedResult.isSome = true := by
      rw [h.result]
      rfl
    refine ⟨h.result, fun hnone => h.error ?_, fun polled hpolled => ?_⟩
    · simpa [stepPolls] using hnone
    · obtain ⟨before, hbefore, rfl⟩ := Option.map_eq_some_iff.mp hpolled
      rcases hkeeps hmade before hbefore with hended | ⟨hopen, hactivity⟩
      · exact .inl hended
      · rcases h.done before hbefore with hended | htimeout
        · rw [hopen] at hended
          cases hended
        · exact .inr (readingTimedOut_later rfl hactivity (Int.le_refl _) htimeout)
  | exchangeError error => exact ⟨h.result, fun _ => by simp [stepPolls], h.done⟩
  | call poll =>
    have hsince : since ≤ poll.now := hlater poll.now rfl
    by_cases hlive : handle.registered = true
    · exact (handleResponse_done hkeeps.1 hkeeps.2 hlive (h.resultAt hsince)).frozen
    · have hargs : ¬(¬poll.dest ∨ poll.capacity ≤ 0) := by simp [hkeeps.1, hkeeps.2]
      have hsame : stepPolls lib handle (.call poll) = handle := by
        rw [stepPolls, handleResponse, if_neg hargs, handleResponseAsync,
          if_pos (by simpa using hlive)]
      rw [hsame]
      exact h.later hsince

/-- What is frozen has its JSON for every call, as long as the clock does not
go back. -/
theorem Frozen.run_resultAt {json : Bytes} {since : Int} (h : Frozen json since handle)
    {events : List PollEvent} (hkeeps : Meets (stepPolls lib) KeepsDone handle events)
    (hclock : (since :: callTimes (events ++ [.call poll])).Pairwise (· ≤ ·)) :
    Client.resultAt lib (run (stepPolls lib) handle events) poll.now = some json := by
  induction events generalizing handle since with
  | nil => exact h.resultAt ((List.pairwise_cons.mp hclock).1 poll.now List.mem_cons_self)
  | cons event events ih =>
    obtain ⟨hlater, hrest⟩ := List.pairwise_cons.mp hclock
    have htimes : callTimes (event :: events ++ [.call poll]) =
        (callTime? event).toList ++ callTimes (events ++ [.call poll]) := by
      cases event with
      | stream after => rfl
      | exchangeError error => rfl
      | call poll => rfl
    rw [htimes] at hlater hrest
    refine ih (stepPolls_frozen h hkeeps.1 fun now hnow => ?_) hkeeps.2 ?_
    · exact hlater now (List.mem_append_left _ (Option.mem_toList.mpr hnow))
    · cases htime : callTime? event with
      | none =>
        rw [htime] at hlater hrest
        exact List.pairwise_cons.mpr ⟨hlater, hrest⟩
      | some now =>
        rw [htime] at hrest
        exact hrest

/-- A buffer that is large enough gets the JSON, whatever its size. -/
theorem copyBasketResult_fits (json : Bytes) {capacity capacity' : Int}
    (h : asInt json.length < capacity) (h' : asInt json.length < capacity') :
    (copyBasketResult json capacity).2 = (copyBasketResult json capacity').2 := by
  rw [copyBasketResult, copyBasketResult, if_neg (by omega), if_neg (by omega)]

/-- A handle that is given up stays given up. -/
theorem stepPolls_reclaimed (handle : AsyncHandle) (event : PollEvent)
    (h : handle.registered = false) : (stepPolls lib handle event).registered = false := by
  cases event with
  | stream after => exact h
  | exchangeError error => exact h
  | call poll =>
    rw [stepPolls, handleResponse, handleResponseAsync]
    split
    · exact h
    · simp [h]

/-- A call that reports nothing changes nothing. -/
theorem handleResponse_inFlight (h : (handleResponse lib handle poll).1.outStatus = 0) :
    (handleResponse lib handle poll).2 = handle := by
  by_cases hdest : poll.dest = true
  · by_cases hcapacity : 0 < poll.capacity
    · by_cases hlive : handle.registered = true
      · cases hresult : resultAt lib handle poll.now with
        | none => rw [handleResponse_pending hdest hcapacity hlive hresult]
        | some json => exact absurd h (handleResponse_done hdest hcapacity hlive hresult).status
      · have hargs : ¬(¬poll.dest ∨ poll.capacity ≤ 0) := by simp [hdest, hcapacity]
        rw [handleResponse, if_neg hargs, handleResponseAsync, if_pos (by simpa using hlive)]
    · rw [handleResponse, if_pos (.inr (by omega))]
  · rw [handleResponse, if_pos (.inl hdest)]

/-- Behind a call that reports completion, every call up to the one that gives
up the handle reports completion and the same length, when the clock does not
go back and the stream does not come back to life.  A call gives up the
handle exactly when its capacity is larger than that, and then has what a
single call with a large enough buffer would have got at the first
completion. -/
theorem runPolls_completes (lib : AnswerLib) (handle : AsyncHandle) (before : List PollEvent)
    (first : Poll) (between : List PollEvent) (later : Poll)
    (h : Meets (stepPolls lib) KeepsDone handle
      (before ++ .call first :: (between ++ [.call later])))
    (hclock : (callTimes (before ++ .call first :: (between ++ [.call later]))).Pairwise (· ≤ ·))
    (hcompleted : (handleResponse lib (runPolls lib handle before) first).1.outStatus ≠ 0)
    (hlive : (runPolls lib handle (before ++ .call first :: between)).registered = true) :
    let found := runPolls lib handle before
    let completion := handleResponse lib found first
    let retry := handleResponse lib (runPolls lib handle (before ++ .call first :: between)) later
    retry.1.outStatus ≠ 0 ∧ retry.1.outLen = completion.1.outLen ∧
    (completion.2.registered = false ↔ completion.1.outLen < first.capacity) ∧
    (retry.2.registered = false ↔ completion.1.outLen < later.capacity) ∧
    (∀ capacity, 0 < capacity → completion.1.outLen < capacity →
      completion.1.outLen < later.capacity →
        retry.1.copied = (handleResponse lib found { first with capacity := capacity }).1.copied) ∧
    (∀ (waiting : AsyncHandle) (poll : Poll), (handleResponse lib waiting poll).1.outStatus = 0 →
      (handleResponse lib waiting poll).2 = waiting) := by
  intro found completion retry
  obtain ⟨-, hfirst, hrest⟩ := meets_append.mp h
  obtain ⟨hbetween, hlater⟩ := meets_snoc.mp hrest
  have hsplit : runPolls lib handle (before ++ .call first :: between) =
      run (stepPolls lib) completion.2 between := by
    rw [runPolls, run_append, run_cons]
    rfl
  -- the first call found the handle in the registry
  have hfound : found.registered = true := by
    by_contra hreclaimed
    have hkept : (run (stepPolls lib) found (.call first :: between)).registered = false :=
      run_invariant stepPolls_reclaimed _ (by simpa using hreclaimed)
    rw [hsplit] at hlive
    rw [run_cons] at hkept
    exact absurd (hkept.symm.trans hlive) (by decide)
  cases hresult : resultAt lib found first.now with
  | none =>
    have hpending := handleResponse_pending hfirst.1 hfirst.2 hfound hresult
    exact absurd (congrArg (fun answer => answer.1.outStatus) hpending) hcompleted
  | some json =>
    have hdone := handleResponse_done hfirst.1 hfirst.2 hfound hresult
    have hbehind : (first.now :: callTimes (between ++ [.call later])).Pairwise (· ≤ ·) := by
      rw [callTimes, List.filterMap_append] at hclock
      exact (List.pairwise_append.mp hclock).2.1
    have hagain : resultAt lib (run (stepPolls lib) completion.2 between) later.now = some json :=
      hdone.frozen.run_resultAt hbetween hbehind
    rw [hsplit] at hlive
    have hretry : Completes json later retry.1 retry.2 := by
      have hsame : retry = handleResponse lib (run (stepPolls lib) completion.2 between) later := by
        rw [← hsplit]
      rw [hsame]
      exact handleResponse_done hlater.1 hlater.2 hlive hagain
    have houtLen : completion.1.outLen = asInt json.length := hdone.outLen
    rw [houtLen]
    refine ⟨hretry.status, hretry.outLen, hdone.reclaimed, hretry.reclaimed, ?_,
      fun _ _ hwaiting => handleResponse_inFlight hwaiting⟩
    intro capacity hcapacity hfits hlaterFits
    let roomy : Poll := { first with capacity := capacity }
    have hroomy : roomy.dest = true ∧ 0 < roomy.capacity := ⟨hfirst.1, hcapacity⟩
    have hsame : resultAt lib found roomy.now = some json := hresult
    have hsingle := handleResponse_done hroomy.1 hroomy.2 hfound hsame
    rw [hretry.copied, hsingle.copied]
    exact copyBasketResult_fits json hlaterFits hfits

/-! ## A late chunk -/

/-- jansson, and no decoders. -/
def plainAnswerLib : AnswerLib := ⟨.manual, Json.dumps, plainPayloadLib⟩

/-- A request that was published at the time 0, with a reading timeout of one
second. -/
def waitingHandle : AsyncHandle where
  basket := { plainRequest with responseReadingTimeoutInMilliseconds := 1000, nonBlocking := true }
  serializedResult := none
  stream := some ⟨newStream 1 (some (buildResponseSink 0 none)), 0⟩
  startTime := 0
  registered := true

/-- The stream of the request once a chunk has arrived. -/
def lateChunk : PolledStream where
  stream := (appendStreamPayload noDecoders (newStream 1 (some (buildResponseSink 0 none)))
    (ascii "late")).2
  lastActivityTime := 3

/-- The same stream at its end. -/
def endedStream : PolledStream :=
  { lateChunk with stream := { lateChunk.stream with isEnded := true } }

/-- The stream ends, and two calls ask for its JSON. -/
theorem runPolls_completes_ended :
    (handleResponse plainAnswerLib (runPolls plainAnswerLib waitingHandle
        ([.stream endedStream] ++ [.call ⟨true, 10, 3⟩])) ⟨true, 4096, 9⟩).1.outLen =
      (handleResponse plainAnswerLib (runPolls plainAnswerLib waitingHandle
        [.stream endedStream]) ⟨true, 10, 3⟩).1.outLen :=
  (runPolls_completes plainAnswerLib waitingHandle [.stream endedStream] ⟨true, 10, 3⟩ []
    ⟨true, 4096, 9⟩ (by decide +kernel) (by decide +kernel) (by decide +kernel)
    (by decide +kernel)).2.1

/-- The reading timeout runs out, the JSON does not fit, and a chunk arrives
before the next call, which reports a request in flight. -/
theorem runPolls_inFlightAgain :
    let completion := handleResponse plainAnswerLib waitingHandle ⟨true, 10, 2⟩
    let handle := runPolls plainAnswerLib waitingHandle [.call ⟨true, 10, 2⟩, .stream lateChunk]
    completion.1.outStatus = -1 ∧ 10 < completion.1.outLen ∧ handle.registered = true ∧
      (handleResponse plainAnswerLib handle ⟨true, 4096, 3⟩).1.outStatus = 0 := by
  decide +kernel

end Polls

end HttpRequestClient.Client
