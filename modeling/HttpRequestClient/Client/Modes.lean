import HttpRequestClient.Client.Polls
import HttpRequestClient.Client.Retry
import HttpRequestClient.Http2.Requests

/-!
# The two modes of a request

`handleRequestSync` and `handleRequestAsync` of `HttpClient.c` make up to two
attempts with `executeRequest`.  The blocking mode waits for the stream inside
of it, so the error of the stream is in the basket when the loop looks for one
that is worth a retry.  The non-blocking mode does not wait, and a poll finds
the error when no attempt is left.

`collected_second_iff` says in which mode a request whose first attempt ends
with a retryable error comes to the response of its second attempt.  In the
non-blocking mode that is the basket of the poll (`resultAt_collected`).

What the server and the network do is a parameter: for each attempt the error
of its session, the writes that succeed, and its stream at every time.

Left out: the protocol that a retry is forced to, which is that of the second
attempt, and the error that an HTTP/1.1 exchange leaves in the basket of a
non-blocking request when it returns.
-/

namespace HttpRequestClient.Client.Modes

open Http2 Hpack

/-! ## Attempts -/

/-- The request of an attempt on its connection.  `started` is the error of
starting an HTTP/1.1 exchange on a thread of its own. -/
inductive Dispatch where
  | http2 (write : Bytes → Bool) (stack : Bytes) (request : Http2Request)
  | http11 (started : Option Error)

/-- What an attempt meets.  `session` is the error that `handleSession` or
`registerStream` leaves.  The request is out at `sent`, and the wait for the
stream is given up at `deadline`, renewals included. -/
structure ServedAttempt where
  session : Option Error
  established : BasketSession
  streamId : Nat
  dispatch : Dispatch
  stream : Nat → PolledStream
  sent : Nat
  deadline : Nat

/-- The error in the basket behind the dispatch.  An exchange on the thread of
the request has come to its end by then. -/
def ServedAttempt.dispatchError (attempt : ServedAttempt) (waitForResponse : Bool) :
    Option Error :=
  match attempt.dispatch with
  | .http2 write stack request => (handleHttp2Request write stack attempt.streamId request).2
  | .http11 started =>
    if waitForResponse then (attempt.stream attempt.sent).stream.error else started

/-- The time at which a wait from `t` on for some time is over. -/
def waitUntil (stream : Nat → PolledStream) (t : Nat) : Nat → Nat
  | 0 => t
  | steps + 1 => if (stream t).stream.isEnded then t else waitUntil stream (t + 1) steps

/-- When the wait is over, and the error of a stream that has not ended. -/
def awaitStream (attempt : ServedAttempt) : Nat × Option Error :=
  let t := waitUntil attempt.stream attempt.sent (attempt.deadline - attempt.sent)
  let stream := (attempt.stream t).stream
  let received := stream.numHeaders > 0 ∨ stream.combinedPayload.length > 0
  (t,
    if stream.isEnded then none
    else if received then some ERR_RESPONSE_NO_CONTENT_AFTER_READING_TIMEOUT
    else some ERR_RESPONSE_PARTIAL_CONTENT_AFTER_READING_TIMEOUT)

section Request

variable (lib : AnswerLib)

/-- The basket behind the attempt, and whether it has a stream. -/
def executeRequest (basket : AnswerBasket) (attempt : ServedAttempt) (waitForResponse : Bool) :
    AnswerBasket × Bool :=
  match attempt.session with
  | some error => ({ basket with error := some error }, false)
  | none =>
    let basket := { basket with
      session := some attempt.established
      streamId := attempt.streamId }
    match attempt.dispatchError waitForResponse with
    | some error => ({ basket with error := some error }, false)
    | none =>
      if ¬waitForResponse then (basket, true)
      else
        match awaitStream attempt with
        | (_, some error) => ({ basket with error := some error }, true)
        | (t, none) =>
          ((finalizeStreamIntoBasket lib.payload basket (attempt.stream t).stream).1, true)

def prepareRetry (basket : AnswerBasket) : AnswerBasket :=
  { basket with session := none, error := none }

def handleRequestSync (basket : AnswerBasket) (attempts : Nat → ServedAttempt) : AnswerBasket :=
  if basket.error ≠ none then basket
  else
    let first := (executeRequest lib basket (attempts 0) true).1
    if isRetryableError first.error then
      (executeRequest lib (prepareRetry first) (attempts 1) true).1
    else first

/-- The basket that is published, and the attempt of the stream next to it. -/
def handleRequestAsync (basket : AnswerBasket) (attempts : Nat → ServedAttempt) :
    AnswerBasket × Option Nat :=
  if basket.error ≠ none then (basket, none)
  else
    let first := executeRequest lib basket (attempts 0) false
    let (last, n) := if isRetryableError first.1.error then
        (executeRequest lib (prepareRetry first.1) (attempts 1) false, 1)
      else (first, 0)
    (last.1, if last.1.error = none ∧ last.2 then some n else none)

/-- A published request at some time. -/
def publishedHandle (basket : AnswerBasket) (attempts : Nat → ServedAttempt) (startTime : Int)
    (now : Nat) : AsyncHandle :=
  let published := handleRequestAsync lib basket attempts
  { basket := published.1
    serializedResult := none
    stream := published.2.map fun n => (attempts n).stream now
    startTime := startTime
    registered := true }

/-- The basket that the answer is made of.  A non-blocking request is polled
at the time `now`, and has none while it is in flight. -/
def collected (basket : AnswerBasket) (attempts : Nat → ServedAttempt) (startTime : Int)
    (now : Nat) : Option AnswerBasket :=
  if basket.nonBlocking then
    let handle := publishedHandle lib basket attempts startTime now
    (pollVerdict handle now).map fun verdict => (finalizeHandle lib verdict.2 handle.stream).1
  else some (handleRequestSync lib basket attempts)

end Request

/-! ## A first attempt that ends with a retryable error -/

/-- The stream of an attempt ends at some time, with an error. -/
structure EndsWith (attempt : ServedAttempt) (endsAt : Nat) (error : Error) : Prop where
  ended : ∀ t, (attempt.stream t).stream.isEnded = true ↔ endsAt ≤ t
  error : ∀ t, endsAt ≤ t → (attempt.stream t).stream.error = some error

/-- The request goes out on HTTP/2, which alone has these errors. -/
def ServedAttempt.overHttp2 (attempt : ServedAttempt) : Prop :=
  ∃ write stack request, attempt.dispatch = .http2 write stack request

section Retry

variable {lib : AnswerLib} {basket : AnswerBasket} {attempt : ServedAttempt}

theorem encodeHeader_error {header : RequestHeader} {error : Error}
    (h : encodeHeader header = .error error) : error = ERR_REQUEST_UNKNOWN_PSEUDO_HEADER := by
  rw [encodeHeader] at h
  split at h
  · unfold hpackPseudoHeaders at h
    dsimp only at h
    split at h
    · split at h
      · cases h
      · split at h <;> cases h
    · split at h
      · split at h
        · cases h
        · split at h <;> cases h
      · split at h
        · cases h
        · split at h
          · cases h
          · cases h
            rfl
  · cases h

theorem encodeHeaders_error {headers : List RequestHeader} {error : Error}
    (h : encodeHeaders headers = .error error) : error = ERR_REQUEST_UNKNOWN_PSEUDO_HEADER := by
  induction headers with
  | nil => cases h
  | cons header headers ih =>
    rw [encodeHeaders] at h
    split at h
    · cases hhead : encodeHeader header with
      | error headError =>
        rw [hhead] at h
        cases h
        exact encodeHeader_error hhead
      | ok head =>
        cases htail : encodeHeaders headers with
        | error tailError =>
          rw [hhead, htail] at h
          cases h
          exact ih htail
        | ok tail =>
          rw [hhead, htail] at h
          cases h
    · exact ih h

/-- Sending a request leaves no error that is worth a retry. -/
theorem handleHttp2Request_not_retryable (write : Bytes → Bool) (stack : Bytes) (streamId : Nat)
    (request : Http2Request) :
    isRetryableError (handleHttp2Request write stack streamId request).2 = false := by
  unfold handleHttp2Request buildHttp2HeadersFrame
  cases hencode : encodeHeaders request.headers with
  | error error =>
    rw [encodeHeaders_error hencode]
    rfl
  | ok hpackBuffer =>
    dsimp only
    split
    · rename_i error hbuilt
      split at hbuilt <;> cases hbuilt
    · split
      · rfl
      · cases request.payload with
        | none => rfl
        | some payload =>
          dsimp only
          split
          · rfl
          · split
            · rfl
            · rfl

theorem dispatchError_not_retryable (hhttp2 : attempt.overHttp2) (waitForResponse : Bool) :
    isRetryableError (attempt.dispatchError waitForResponse) = false := by
  obtain ⟨write, stack, request, hdispatch⟩ := hhttp2
  rw [ServedAttempt.dispatchError, hdispatch]
  exact handleHttp2Request_not_retryable write stack attempt.streamId request

theorem waitUntil_ended {endsAt : Nat} {stream : Nat → PolledStream}
    (hends : ∀ t, (stream t).stream.isEnded = true ↔ endsAt ≤ t) (steps : Nat) :
    ∀ t, (stream (waitUntil stream t steps)).stream.isEnded = true ↔ endsAt ≤ t + steps := by
  induction steps with
  | zero => exact hends
  | succ steps ih =>
    intro t
    rw [waitUntil]
    split
    · rename_i hended
      have hle := (hends t).mp hended
      exact iff_of_true hended (by omega)
    · rw [ih (t + 1), Nat.add_right_comm, Nat.add_assoc]

/-- The wait of an attempt that ends finds its stream ended, or an error. -/
theorem awaitStream_ended {endsAt : Nat} {error : Error} (hends : EndsWith attempt endsAt error)
    (hle : endsAt ≤ max attempt.sent attempt.deadline) :
    (awaitStream attempt).2 = none ∧
      (attempt.stream (awaitStream attempt).1).stream.error = some error := by
  have hended := (waitUntil_ended hends.ended (attempt.deadline - attempt.sent)
    attempt.sent).mpr (by omega)
  exact ⟨if_pos hended, hends.error _ ((hends.ended _).mp hended)⟩

theorem awaitStream_givenUp {endsAt : Nat} {error : Error} (hends : EndsWith attempt endsAt error)
    (hlt : max attempt.sent attempt.deadline < endsAt) :
    ∃ timeout, (awaitStream attempt).2 = some timeout ∧ isRetryableError (some timeout) = false := by
  have hopen : ¬(attempt.stream (awaitStream attempt).1).stream.isEnded = true := by
    rw [awaitStream, waitUntil_ended hends.ended]
    omega
  unfold awaitStream at hopen ⊢
  dsimp only at hopen ⊢
  rw [if_neg hopen]
  split
  · exact ⟨_, rfl, rfl⟩
  · exact ⟨_, rfl, rfl⟩

/-- A second attempt does not see what the first one has left. -/
theorem executeRequest_again (hsession : attempt.session = none) (hnew : basket.error = none)
    (session : Option BasketSession) (streamId : Nat) (error : Option Error)
    (waitForResponse : Bool) :
    executeRequest lib (prepareRetry { basket with
      session := session, streamId := streamId, error := error }) attempt waitForResponse =
      executeRequest lib basket attempt waitForResponse := by
  simp only [executeRequest, hsession, prepareRetry, hnew]

/-- The first attempt of the blocking mode. -/
theorem handleRequestSync_eq {attempts : Nat → ServedAttempt} {endsAt : Nat} {error : Error}
    (hnew : basket.error = none) (hstream : (attempts 0).session = none)
    (hhttp2 : (attempts 0).overHttp2) (hends : EndsWith (attempts 0) endsAt error)
    (hretryable : isRetryableError (some error) = true)
    (hsecond : (executeRequest lib basket (attempts 1) true).1.error = none) :
    handleRequestSync lib basket attempts = (executeRequest lib basket (attempts 1) true).1 ↔
      (attempts 0).dispatchError true = none ∧
        endsAt ≤ max (attempts 0).sent (attempts 0).deadline := by
  have hsession : (attempts 1).session = none := by
    cases hsession : (attempts 1).session with
    | none => rfl
    | some failure => simp [executeRequest, hsession] at hsecond
  have hkept : ∀ after : AnswerBasket, after.error ≠ none →
      after ≠ (executeRequest lib basket (attempts 1) true).1 := by
    rintro after herror rfl
    exact herror hsecond
  rw [handleRequestSync, if_neg (by simp [hnew])]
  cases hdispatch : (attempts 0).dispatchError true with
  | some failure =>
    have hnot := dispatchError_not_retryable hhttp2 true
    rw [hdispatch] at hnot
    have hfirst : (executeRequest lib basket (attempts 0) true).1.error = some failure := by
      simp [executeRequest, hstream, hdispatch]
    dsimp only
    rw [hfirst, hnot, if_neg Bool.false_ne_true]
    exact iff_of_false (hkept _ (by simp [hfirst])) (by simp)
  | none =>
    by_cases hle : endsAt ≤ max (attempts 0).sent (attempts 0).deadline
    · obtain ⟨hwaited, herror⟩ := awaitStream_ended hends hle
      have hfirst : (executeRequest lib basket (attempts 0) true).1 =
          { basket with
            session := some (attempts 0).established
            streamId := (attempts 0).streamId
            error := some error } := by
        have hwait : awaitStream (attempts 0) = ((awaitStream (attempts 0)).1, none) := by
          rw [← hwaited]
        simp only [executeRequest, hstream, hdispatch, not_true_eq_false, if_false]
        rw [hwait]
        simp [finalizeStreamIntoBasket, herror]
      dsimp only
      rw [hfirst, if_pos hretryable, executeRequest_again hsession hnew]
      exact iff_of_true rfl ⟨rfl, hle⟩
    · obtain ⟨timeout, hwaited, hnot⟩ := awaitStream_givenUp hends (by omega)
      have hfirst : (executeRequest lib basket (attempts 0) true).1.error = some timeout := by
        have hwait : awaitStream (attempts 0) = ((awaitStream (attempts 0)).1, some timeout) := by
          rw [← hwaited]
        simp only [executeRequest, hstream, hdispatch, not_true_eq_false, if_false]
        rw [hwait]
      dsimp only
      rw [hfirst, hnot, if_neg Bool.false_ne_true]
      exact iff_of_false (hkept _ (by simp [hfirst])) (fun h => hle h.2)

/-- A non-blocking request makes one attempt, and publishes its error or its
stream. -/
theorem handleRequestAsync_eq {attempts : Nat → ServedAttempt} (hnew : basket.error = none)
    (hstream : (attempts 0).session = none) (hhttp2 : (attempts 0).overHttp2) :
    ∃ published, handleRequestAsync lib basket attempts = published ∧
      ((published.1.error ≠ none ∧ published.2 = none) ∨
        (published.1.error = none ∧ published.2 = some 0)) := by
  refine ⟨_, rfl, ?_⟩
  have hnot := dispatchError_not_retryable hhttp2 false
  have hfirst : (executeRequest lib basket (attempts 0) false).1.error =
      (attempts 0).dispatchError false := by
    cases hdispatch : (attempts 0).dispatchError false with
    | none => simp [executeRequest, hstream, hdispatch, hnew]
    | some failure => simp [executeRequest, hstream, hdispatch]
  rw [handleRequestAsync, if_neg (by simp [hnew])]
  dsimp only
  rw [hfirst, hnot, if_neg Bool.false_ne_true]
  dsimp only
  rw [hfirst]
  cases hdispatch : (attempts 0).dispatchError false with
  | some failure => exact .inl ⟨by simp, by simp⟩
  | none =>
    have hregistered : (executeRequest lib basket (attempts 0) false).2 = true := by
      simp [executeRequest, hstream, hdispatch]
    exact .inr ⟨rfl, by simp [hregistered]⟩

/-- Whatever a poll collects has an error. -/
theorem collected_nonBlocking {attempts : Nat → ServedAttempt} {endsAt : Nat} {error : Error}
    (hnew : basket.error = none) (hnonBlocking : basket.nonBlocking = true)
    (hstream : (attempts 0).session = none) (hhttp2 : (attempts 0).overHttp2)
    (hends : EndsWith (attempts 0) endsAt error) (startTime : Int) (now : Nat)
    {answered : AnswerBasket}
    (hanswered : collected lib basket attempts startTime now = some answered) :
    answered.error ≠ none := by
  obtain ⟨published, hpublished, hcases⟩ :=
    @handleRequestAsync_eq lib basket attempts hnew hstream hhttp2
  rw [collected, if_pos hnonBlocking] at hanswered
  simp only [publishedHandle, hpublished] at hanswered
  obtain ⟨⟨failed, basket'⟩, hverdict, rfl⟩ := Option.map_eq_some_iff.mp hanswered
  rcases hcases with ⟨hfailed, hnone⟩ | ⟨hsent, hsome⟩
  · rw [hnone] at hverdict ⊢
    exact pollVerdict_error hverdict rfl
  · rw [hsome] at hverdict ⊢
    simp only [pollVerdict, Option.map_some] at hverdict
    split at hverdict
    · rename_i hended
      cases hverdict
      have herror := hends.error now ((hends.ended now).mp hended)
      simp [finalizeHandle, hsent, finalizeStreamIntoBasket, herror]
    · split at hverdict
      · cases hverdict
        simp [finalizeHandle]
      · cases hverdict

/-- A request whose first stream ends with a retryable error comes to the
response of its second attempt exactly when it is blocking, the first attempt
was sent without an error, and its stream has ended before the wait for it is
given up. -/
theorem collected_second_iff (lib : AnswerLib) (basket : AnswerBasket)
    (attempts : Nat → ServedAttempt) (endsAt : Nat) (error : Error) (startTime : Int) (now : Nat)
    (answered : AnswerBasket) (hnew : basket.error = none) (hstream : (attempts 0).session = none)
    (hhttp2 : (attempts 0).overHttp2) (hends : EndsWith (attempts 0) endsAt error)
    (hretryable : isRetryableError (some error) = true)
    (hsecond : (executeRequest lib basket (attempts 1) true).1.error = none)
    (hanswered : collected lib basket attempts startTime now = some answered) :
    answered = (executeRequest lib basket (attempts 1) true).1 ↔
      basket.nonBlocking = false ∧ (attempts 0).dispatchError true = none ∧
        endsAt ≤ max (attempts 0).sent (attempts 0).deadline := by
  cases hmode : basket.nonBlocking with
  | false =>
    rw [collected, hmode, if_neg Bool.false_ne_true] at hanswered
    cases hanswered
    rw [handleRequestSync_eq hnew hstream hhttp2 hends hretryable hsecond]
    simp
  | true =>
    have herror := collected_nonBlocking hnew hmode hstream hhttp2 hends startTime now hanswered
    refine iff_of_false ?_ (by simp)
    rintro rfl
    exact herror hsecond

/-- The answer of a poll is the JSON of the collected basket. -/
theorem resultAt_collected (lib : AnswerLib) (attempts : Nat → ServedAttempt) (startTime : Int)
    (now : Nat) (hnonBlocking : basket.nonBlocking = true) :
    resultAt lib (publishedHandle lib basket attempts startTime now) now =
      (collected lib basket attempts startTime now).map fun answered =>
        lib.json_dumps (basketToString lib.json answered).1 := by
  rw [collected, if_pos hnonBlocking, resultAt, Option.map_map]
  rfl

end Retry

/-! ## A server that goes away -/

/-- A stream that waits until the time 1, and has ended from then on. -/
def endsAtOne (before after : Stream) : Nat → PolledStream :=
  fun t => ⟨if 1 ≤ t then after else before, 0⟩

/-- A request on a stream that a GOAWAY ends, with a wait of two. -/
def goneAttempt : ServedAttempt where
  session := none
  established := ⟨0, 60000⟩
  streamId := 1
  dispatch := .http2 (fun _ => true) [] ⟨[], none, false⟩
  stream := endsAtOne ((streamAt waitingSession 0).getD .scratch)
    ((streamAt (readerDispatch noDecoders waitingSession goAway) 0).getD .scratch)
  sent := 0
  deadline := 2

/-- The same with a response. -/
def answeredAttempt : ServedAttempt :=
  { goneAttempt with
    stream := endsAtOne ((streamAt waitingSession 0).getD .scratch)
      { collectedStream [⟨ascii ":status", ascii "200"⟩] (ascii "ok") with isEnded := true } }

def goneThenAnswered : Nat → ServedAttempt
  | 0 => goneAttempt
  | _ => answeredAttempt

theorem goneAttempt_ends : EndsWith goneAttempt 1 ERR_SESSION_GO_AWAY where
  ended t := by
    by_cases hle : 1 ≤ t
    · have hafter : goneAttempt.stream t = goneAttempt.stream 1 := by
        simp only [goneAttempt, endsAtOne, hle, Nat.le_refl, if_true]
      rw [hafter]
      exact iff_of_true (by decide +kernel) hle
    · have hbefore : goneAttempt.stream t = goneAttempt.stream 0 := by
        rw [show t = 0 by omega]
      rw [hbefore]
      exact iff_of_false (by decide +kernel) hle
  error t hle := by
    have hafter : goneAttempt.stream t = goneAttempt.stream 1 := by
      simp only [goneAttempt, endsAtOne, hle, Nat.le_refl, if_true]
    rw [hafter]
    decide +kernel

/-- A blocking request has the response of its second attempt. -/
theorem collected_second_iff_blocking :
    handleRequestSync plainAnswerLib plainRequest goneThenAnswered =
      (executeRequest plainAnswerLib plainRequest answeredAttempt true).1 :=
  (collected_second_iff plainAnswerLib plainRequest goneThenAnswered 1 ERR_SESSION_GO_AWAY 0 2 _
    rfl rfl ⟨_, _, _, rfl⟩ goneAttempt_ends (by decide) (by decide +kernel) rfl).mpr
      ⟨rfl, by decide +kernel, by decide⟩

/-- A non-blocking one reports the GOAWAY. -/
theorem collected_goAway :
    let request := { plainRequest with nonBlocking := true }
    (executeRequest plainAnswerLib request answeredAttempt true).1.error = none ∧
    ∃ answered, collected plainAnswerLib request goneThenAnswered 0 2 = some answered ∧
      answered.error = some ERR_SESSION_GO_AWAY ∧ answered.payload = none := by
  refine ⟨by decide +kernel, ?_⟩
  have hanswered : (collected plainAnswerLib { plainRequest with nonBlocking := true }
      goneThenAnswered 0 2).map (fun answered => (answered.error, answered.payload)) =
        some (some ERR_SESSION_GO_AWAY, none) := by decide +kernel
  obtain ⟨answered, hsome, hfields⟩ := Option.map_eq_some_iff.mp hanswered
  exact ⟨answered, hsome, congrArg Prod.fst hfields, congrArg Prod.snd hfields⟩

end HttpRequestClient.Client.Modes
