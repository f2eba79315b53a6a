import HttpRequestClient.Http2.Connection

/-!
# The callbacks of the reader

The calls that one stream gets in a run of a connection.  The reader gives
the body of a DATA frame to the consumer whatever came before it, and it
completes a stream that may get more frames.  So the calls are in order as
long as the frames are (`orderly`): `runConnection_inOrder`.  The run of
`runConnection_data_after_goaway` has the frames of a correct server, and
its calls are not in order.
-/

namespace HttpRequestClient.Http2

open Runs

/-- The calls that a frame makes may come now: a chunk of the body after the
headers and before the completion, unless the consumer stopped the body;
and headers that are not delivered yet before the completion. -/
def frameOrderly (session : Session) (stream : Stream) (frame : Frame) : Bool :=
  (contractSink stream).all fun sink =>
    if frame.type = 0x0 then
      frame.payload.isEmpty || sink.aborted || (sink.headersDelivered && !sink.completed)
    else if (frame.type = 0x1 ∨ frame.type = 0x9) ∧ frame.endHeaders ∧
        (headersStream session stream frame).error = none then
      sink.headersDelivered || !sink.completed
    else true

/-- An event that keeps the calls of every stream in order.  A request
thread completes a sink without the lock of the stream, and so possibly
after the reader did. -/
def orderly (connection : Connection) : ConnectionEvent → Bool
  | .reader (.dispatch frame) =>
    (findStream connection.session frame.streamId).all fun stream =>
      frameOrderly connection.session stream frame
  | .finishCompletion slot =>
    !(connection.completing.contains slot) ||
      (streamAt connection.session slot).all fun stream =>
        (contractSink stream).all fun sink => !sink.completed
  | _ => true

variable {lib : DecoderLib} {session : Session} {stream : Stream} {frame : Frame}

theorem frameOrderly_data (h : frameOrderly session stream frame = true)
    (hdata : frame.type = 0x0) {sink : ResponseSink} (hsink : stream.sink = some sink)
    (hcontract : sink.contract ≠ none) (hpayload : frame.payload ≠ [])
    (haborted : sink.aborted = false) : sink.phase = .body := by
  rw [frameOrderly, contractSink_of hsink hcontract, Option.all_some, if_pos hdata] at h
  simp only [List.isEmpty_eq_false_iff.mpr hpayload, haborted, Bool.or_self, Bool.false_or,
    Bool.and_eq_true, Bool.not_eq_true'] at h
  simp only [ResponseSink.phase, h.1, h.2, Bool.false_eq_true, if_false, if_true]

theorem frameOrderly_headers (h : frameOrderly session stream frame = true)
    (hheaders : frame.type = 0x1 ∨ frame.type = 0x9) (hends : frame.endHeaders = true)
    (herror : (headersStream session stream frame).error = none) {sink : ResponseSink}
    (hsink : stream.sink = some sink) (hcontract : sink.contract ≠ none)
    (hdelivered : sink.headersDelivered = false) : sink.completed = false := by
  have hzero : ¬frame.type = 0x0 := by
    intro hzero
    rw [hzero] at hheaders
    exact absurd hheaders (by decide)
  rw [frameOrderly, contractSink_of hsink hcontract, Option.all_some, if_neg hzero,
    if_pos ⟨hheaders, hends, herror⟩, hdelivered, Bool.false_or] at h
  simpa using h

theorem streamAfter_tracked (h : OnSink ResponseSink.Tracked stream)
    (horderly : frameOrderly session stream frame = true) :
    OnSink ResponseSink.Tracked (streamAfter lib session stream frame) := by
  refine streamAfter_keeps (P := OnSink ResponseSink.Tracked) lib session
    (fun before after _ hsink hbefore => hbefore.of_sink hsink) (fun hdata => ?_)
    (fun hheaders hends herror hafter => ?_) (fun after hafter => ?_) (fun after hafter => ?_) h
  · refine h.rel (appendStreamPayload_sink lib stream frame.payload)
      fun sink sink' hsink hrel htracked => hrel.tracked htracked ?_
    exact fun hcontract hpayload haborted =>
      frameOrderly_data horderly hdata hsink hcontract hpayload haborted
  · refine hafter.rel (deliverResponseHeaders_sink lib _)
      fun sink sink' hsink hrel htracked => hrel.tracked htracked ?_
    rw [(headersStream_sink session stream frame).sink] at hsink
    exact fun hcontract hdelivered =>
      frameOrderly_headers horderly hheaders hends herror hsink hcontract hdelivered
  · exact hafter.rel (completeResponseSink_sink after) fun _ _ _ hrel => hrel.tracked
  · exact hafter.rel (takeResponseCancellation_sink after) fun _ _ _ hrel => hrel.tracked

theorem stepConnection_tracked {connection : Connection} {event : ConnectionEvent}
    (h : EveryStream (OnSink ResponseSink.Tracked) connection.session)
    (horderly : orderly connection event = true) :
    EveryStream (OnSink ResponseSink.Tracked) (stepConnection lib connection event).session := by
  refine stepConnection_every lib h (fun frame hevent stream hfind hstream => ?_)
    (fun session onlyPending stream => failStream_onSink session onlyPending
      fun _ _ hstep => hstep.tracked)
    (fun decompress contract _ sink hsink => ?_)
    (fun slot hevent hmem stream hslot hstream => ?_)
  · subst hevent
    rw [orderly, hfind, Option.all_some] at horderly
    exact streamAfter_tracked hstream horderly
  · cases hsink
    exact buildResponseSink_tracked decompress contract
  · subst hevent
    rw [orderly, List.contains_iff_mem.mpr hmem, hslot, Bool.not_true, Bool.false_or,
      Option.all_some] at horderly
    refine hstream.rel (finishCompletion_sink stream) fun sink sink' hsink hrel htracked =>
      hrel.tracked htracked fun hcontract => ?_
    rw [contractSink_of hsink hcontract, Option.all_some] at horderly
    simpa using horderly

/-- The calls of a stream with a contract are in order. -/
def CallsInOrder (stream : Stream) : Prop :=
  ∀ sink, stream.sink = some sink → sink.contract ≠ none → InOrder sink.calls

/-- As long as the frames of a stream come in their order, its calls do: in
every state of the run, and for every contract. -/
theorem runConnection_inOrder (lib : DecoderLib) (headerTableSize : Nat)
    {events : List ConnectionEvent}
    (h : Meets (stepConnection lib) (fun connection event => orderly connection event = true)
      (connect headerTableSize) events) (n : Nat) :
    EveryStream CallsInOrder (runConnection lib headerTableSize (events.take n)).session := by
  rw [← List.take_append_drop n events, meets_append] at h
  have htracked : EveryStream (OnSink ResponseSink.Tracked)
      (runConnection lib headerTableSize (events.take n)).session :=
    run_keeps (P := fun connection : Connection => EveryStream (OnSink ResponseSink.Tracked) connection.session)
      (fun connection event => stepConnection_tracked) h.1 (connect_every headerTableSize)
  intro stream hstream sink hsink hcontract
  exact (htracked stream hstream sink hsink).inOrder hcontract

/-- `:status: 200` as a whole header block. -/
def okFrame : Frame := ⟨0x1, 0x4, 1, [0x88]⟩

def helloFrame : Frame := ⟨0x0, 0x1, 1, ascii "hello"⟩

theorem runConnection_inOrder_response :
    let events : List ConnectionEvent :=
      [.register 0 (some takeAll), .reader (.dispatch okFrame), .reader (.dispatch helloFrame)]
    contractCalls (runConnection noDecoders 4096 events).session 0 =
        some [.onHeaders [⟨ascii ":status", ascii "200"⟩], .onData (ascii "hello"),
          .onComplete none] ∧
      EveryStream CallsInOrder (runConnection noDecoders 4096 events).session := by
  intro events
  have hmeets : Meets (stepConnection noDecoders)
      (fun connection event => orderly connection event = true) (connect 4096) events :=
    ⟨rfl, by decide +kernel, by decide +kernel, trivial⟩
  exact ⟨by decide +kernel, runConnection_inOrder noDecoders 4096 hmeets 3⟩

/-- A GOAWAY that counts stream 1 among those that the server answers. -/
def goAwayFrame : Frame := ⟨0x7, 0, 0, [0, 0, 0, 1, 0, 0, 0, 0]⟩

/-- The server announces that it goes away and then answers stream 1.  The
stream was completed with the announcement, and gets the body after that. -/
theorem runConnection_data_after_goaway :
    let events : List ConnectionEvent :=
      [.register 0 (some takeAll), .reader (.dispatch goAwayFrame), .reader (.dispatch okFrame),
        .reader (.dispatch helloFrame)]
    let calls : List Callback :=
      [.onComplete (some ERR_SESSION_GO_AWAY), .onData (ascii "hello")]
    contractCalls (runConnection noDecoders 4096 events).session 0 = some calls ∧
      ¬InOrder calls := by
  intro events calls
  exact ⟨by decide +kernel, by decide⟩

end HttpRequestClient.Http2
