import HttpRequestClient.Http2.Connection

/-!
# Retries

`handleRequestSync` of `HttpClient.c` makes a second attempt when the first
one leaves a retryable error.  A GOAWAY gives such an error to every stream
that has no response yet, whatever the last stream id it names: the client
takes the missing headers as the sign that the server did not process the
request.  `readerDispatch_goAway` says what a GOAWAY does to each stream, and
`sentAgain_iff` which of them make a second attempt.
-/

namespace HttpRequestClient.Client

open Http2

def isRetryableError : Option Error → Bool
  | none => false
  | some error =>
    error.code = ERR_SESSION_SETTINGS_TIMEOUT.code ∨ error.code = ERR_SESSION_GO_AWAY.code ∨
      error.code = ERR_SESSION_HTTP_1_1_REQUIRED.code

/-- The attempts of a blocking request, each with the error that it leaves in
the basket. -/
def handleRequestSync (executeRequest : Nat → Option Error) : List (Option Error) :=
  let error := executeRequest 0
  if isRetryableError error then [error, executeRequest 1] else [error]

/-- A blocking request that waits for a stream goes on with it, because the
stream has ended, and is sent a second time. -/
def sentAgain (stream : Stream) : Bool :=
  stream.isEnded ∧ (handleRequestSync fun _ => stream.error).length = 2

theorem sentAgain_iff (stream : Stream) :
    sentAgain stream = true ↔ stream.isEnded = true ∧ isRetryableError stream.error = true := by
  rw [sentAgain, decide_eq_true_iff, handleRequestSync]
  by_cases hretry : isRetryableError stream.error = true
  · simp [hretry]
  · simp [hretry]

/-- The Last-Stream-ID of a GOAWAY. -/
def lastStreamId (frame : Frame) : Nat := uint32At frame.payload 0 % 0x80000000

/-- The stream ended between two states. -/
def Ended (before after : Stream) : Prop := before.isEnded = false ∧ after.isEnded = true

instance (before after : Stream) : Decidable (Ended before after) :=
  inferInstanceAs (Decidable (_ ∧ _))

/-! ## GOAWAY -/

/-- The state of the connection after a GOAWAY, before it fails streams. -/
def goneAway (session : Session) (frame : Frame) : Session :=
  acknowledgeFrame (handleSessionFrame session frame) frame

theorem goneAway_streams (session : Session) (frame : Frame) :
    (goneAway session frame).streams = session.streams :=
  (acknowledged_keeps session frame).1

theorem readerDispatch_goAway_eq (lib : DecoderLib) (session : Session) {frame : Frame}
    (hgoaway : frame.type = 0x7) :
    readerDispatch lib session frame = failAllStreams (goneAway session frame) true := by
  have hscoped : ¬frame.isStreamScoped = true := by
    rw [Frame.isStreamScoped, hgoaway]
    decide
  rw [readerDispatch, if_neg hscoped]
  simp only [hgoaway, if_true]
  rfl

theorem failStream_answered (session : Session) {stream : Stream} (h : stream.numHeaders ≠ 0) :
    failStream session true stream = stream := by
  rw [failStream, if_neg]
  simp [h]

theorem failStream_isEnded (session : Session) (stream : Stream) :
    (failStream session true stream).isEnded = true ↔
      stream.isEnded = true ∨ stream.numHeaders = 0 := by
  unfold failStream
  split
  · rename_i hpending
    have hpending' : stream.numHeaders = 0 := by simpa using hpending.2
    rw [(completeResponseSink_keeps _).1.isEnded]
    simp [hpending']
  · rename_i hspared
    simp only [Bool.not_eq_true, not_true_eq_false, false_or, not_and] at hspared
    constructor
    · exact .inl
    · rintro (hended | hheaders)
      · exact hended
      · by_contra hopen
        exact hspared (Bool.eq_false_iff.mpr hopen) hheaders

/-- A GOAWAY ends exactly the streams that have no response headers.  A
stream with headers stays as it is, and its request is not sent again for
this GOAWAY. -/
theorem readerDispatch_goAway (lib : DecoderLib) (session : Session) {frame : Frame}
    (hgoaway : frame.type = 0x7) {slot : Nat} {before : Stream}
    (hslot : streamAt session slot = some before) :
    ∃ after, streamAt (readerDispatch lib session frame) slot = some after ∧
      (Ended before after ↔ before.isEnded = false ∧ before.numHeaders = 0) ∧
      (before.numHeaders ≠ 0 → after = before ∧ sentAgain after = sentAgain before) := by
  have hslot' : streamAt (goneAway session frame) slot = some before := by
    rw [streamAt_of_streams (goneAway_streams session frame)]
    exact hslot
  refine ⟨failStream (goneAway session frame) true before, ?_, ?_, ?_⟩
  · rw [readerDispatch_goAway_eq lib session hgoaway, streamAt_failAllStreams, hslot']
    rfl
  · rw [Ended, failStream_isEnded]
    constructor
    · rintro ⟨hopen, hended | hheaders⟩
      · rw [hopen] at hended
        cases hended
      · exact ⟨hopen, hheaders⟩
    · rintro ⟨hopen, hheaders⟩
      exact ⟨hopen, .inr hheaders⟩
  · intro hheaders
    rw [failStream_answered _ hheaders]
    exact ⟨rfl, rfl⟩

/-- A session with a stream that waits for its response. -/
def waitingSession : Session := registerStream (initSession 4096) (some (buildResponseSink 0 none))

/-- The same after `:status: 200`. -/
def answeredSession : Session := readerDispatch noDecoders waitingSession ⟨0x1, 0x4, 1, [0x88]⟩

/-- The server goes away and will still answer stream 1. -/
def goAway : Frame := ⟨0x7, 0, 0, [0, 0, 0, 1, 0, 0, 0, 0]⟩

theorem readerDispatch_goAway_answered :
    ∃ before after, streamAt answeredSession 0 = some before ∧ before.numHeaders ≠ 0 ∧
      before.streamId ≤ lastStreamId goAway ∧
      streamAt (readerDispatch noDecoders answeredSession goAway) 0 = some after ∧
      ¬Ended before after ∧ sentAgain after = false := by
  have hsome : (streamAt answeredSession 0).isSome = true := by decide +kernel
  have hfacts : (streamAt answeredSession 0).all (fun stream =>
      stream.numHeaders ≠ 0 ∧ stream.streamId ≤ lastStreamId goAway ∧
        sentAgain stream = false) = true := by decide +kernel
  obtain ⟨before, hslot⟩ := Option.isSome_iff_exists.mp hsome
  rw [hslot, Option.all_some, decide_eq_true_iff] at hfacts
  obtain ⟨hheaders, hid, hagain⟩ := hfacts
  obtain ⟨after, hafter, hended, hspared⟩ :=
    readerDispatch_goAway noDecoders answeredSession (show goAway.type = 0x7 from rfl) hslot
  refine ⟨before, after, hslot, hheaders, hid, hafter, ?_, ?_⟩
  · rw [hended]
    exact fun hpending => hheaders hpending.2
  · rw [(hspared hheaders).2]
    exact hagain

/-- A stream that the GOAWAY counts among those that the server may have
processed is ended with a retryable error, and its request is sent again. -/
theorem readerDispatch_goAway_waiting :
    ∃ before after, streamAt waitingSession 0 = some before ∧
      before.streamId ≤ lastStreamId goAway ∧
      streamAt (readerDispatch noDecoders waitingSession goAway) 0 = some after ∧
      Ended before after ∧ isRetryableError after.error = true ∧ sentAgain after = true := by
  have hbefore : (streamAt waitingSession 0).all (fun stream =>
      stream.streamId ≤ lastStreamId goAway ∧ stream.isEnded = false) = true := by decide +kernel
  have hafter : (streamAt (readerDispatch noDecoders waitingSession goAway) 0).all (fun stream =>
      stream.isEnded = true ∧ isRetryableError stream.error = true ∧ sentAgain stream = true) =
        true := by decide +kernel
  have hsome : (streamAt waitingSession 0).isSome = true := by decide +kernel
  have hsome' : (streamAt (readerDispatch noDecoders waitingSession goAway) 0).isSome = true := by
    decide +kernel
  obtain ⟨before, hslot⟩ := Option.isSome_iff_exists.mp hsome
  obtain ⟨after, hslot'⟩ := Option.isSome_iff_exists.mp hsome'
  rw [hslot, Option.all_some, decide_eq_true_iff] at hbefore
  rw [hslot', Option.all_some, decide_eq_true_iff] at hafter
  exact ⟨before, after, hslot, hbefore.1, hslot', ⟨hbefore.2, hafter.1⟩, hafter.2.1, hafter.2.2⟩

end HttpRequestClient.Client
