import HttpRequestClient.Http2.Reader
import HttpRequestClient.Hpack.Blocks

/-!
# Header blocks reach the decoder

A header block arrives as a HEADERS frame and the CONTINUATION frames after
it.  `scanFrame` is what the peer means: it cuts the frames into blocks
without looking at the registry.  The reader instead buffers a split block
in the stream it belongs to.

* `BlockInv` ties the two together: the stream of the open block, if it
  still waits for the rest, holds what has arrived.
* `readerDispatch_block`: one frame keeps the invariant and passes on
  exactly the block it completes, when the frame is `Routed`.
* `runEvents_decodedBlocks`: so does every run of frames, registrations and
  removals.

`Routed` is the condition on the state before a frame.  It fails for the
parts of a split block whose stream is not registered, or has an error when
the block ends; `runEvents_drops_block` is such a run.
-/

namespace HttpRequestClient.Http2

open Hpack

/-! ## Runs -/

/-- What happens on a session, in the order of the locks. -/
inductive Event where
  | frame (frame : Frame)
  | register (sink : Option ResponseSink)
  | unregister (slot : Nat)

def stepEvent (lib : DecoderLib) (session : Session) : Event → Session
  | .frame frame => readerDispatch lib session frame
  | .register sink => registerStream session sink
  | .unregister slot => unregisterStream session slot

def runEvents (lib : DecoderLib) (session : Session) (events : List Event) : Session :=
  events.foldl (stepEvent lib) session

/-! ## The blocks in the frames -/

/-- A block whose end has not arrived.  There are no octets when its HEADERS
frame is not correctly padded. -/
structure OpenBlock where
  streamId : Nat
  block : Option Bytes
  deriving Repr, DecidableEq

/-- The open block after a frame and the block that the frame completes.
`none` when a CONTINUATION frame does not directly follow its block. -/
def scanFrame (pending : Option OpenBlock) (frame : Frame) :
    Option (Option OpenBlock × Option Bytes) :=
  match pending with
  | none =>
    if frame.type = 0x9 then none
    else if frame.type = 0x1 then
      if frame.endHeaders then some (none, headerFragment frame)
      else some (some ⟨frame.streamId, headerFragment frame⟩, none)
    else some (none, none)
  | some pending =>
    if frame.type = 0x9 ∧ frame.streamId = pending.streamId then
      let block := pending.block.map (· ++ frame.payload)
      if frame.endHeaders then some (none, block)
      else some (some { pending with block := block }, none)
    else none

/-- The blocks that a run completes. -/
def expectedBlocks : Option OpenBlock → List Event → Option (List Bytes)
  | _, [] => some []
  | pending, .frame frame :: events =>
    match scanFrame pending frame with
    | none => none
    | some (pending, block) => (expectedBlocks pending events).map (block.toList ++ ·)
  | pending, _ :: events => expectedBlocks pending events

/-- A padded HEADERS frame holds the pad length, the priority, the fragment
and the padding. -/
def WellPadded (frame : Frame) (fragment : Bytes) : Prop :=
  ∃ padLength priority padding : Bytes,
    frame.payload = padLength ++ priority ++ fragment ++ padding ∧
    (if frame.padded then ∃ n : UInt8, padLength = [n] ∧ padding.length = n.toNat
      else padLength = [] ∧ padding = []) ∧
    priority.length = if frame.priority then 5 else 0

theorem removePadding_eq_some_iff (priority : Bool) (padLength : Nat) (payload fragment : Bytes) :
    removePadding priority padLength payload = some fragment ↔
      ∃ front padding : Bytes, payload = front ++ fragment ++ padding ∧
        padding.length = padLength ∧ front.length = if priority then 5 else 0 := by
  rw [removePadding]
  generalize hsize : (if priority then 5 else 0) = size
  have hdrop : (if priority then payload.drop 5 else payload) = payload.drop size := by
    cases priority <;> simp [← hsize]
  have hshort : (priority = true ∧ payload.length < 5) ↔ payload.length < size := by
    cases priority <;> simp [← hsize]
  rw [hdrop]
  simp only [hshort]
  constructor
  · intro h
    split at h
    · cases h
    · split at h
      · cases h
      · rename_i hlen hpad
        rw [List.length_drop] at hpad
        rw [Option.some.injEq, List.length_drop] at h
        refine ⟨payload.take size, (payload.drop size).drop (payload.length - size - padLength), ?_,
          ?_, ?_⟩
        · rw [← h, List.append_assoc, List.take_append_drop, List.take_append_drop]
        · rw [List.length_drop, List.length_drop]
          omega
        · rw [List.length_take]
          omega
  · rintro ⟨front, padding, rfl, hpad, hfront⟩
    have hrest : (front ++ fragment ++ padding).drop size = fragment ++ padding := by
      rw [List.append_assoc, ← hfront, List.drop_left]
    rw [hrest]
    simp only [List.length_append]
    rw [if_neg (by omega), if_neg (by omega)]
    have hlen : fragment.length + padding.length - padLength = fragment.length := by omega
    rw [hlen, List.take_left]

theorem headerFragment_eq_some_iff (frame : Frame) (fragment : Bytes) :
    headerFragment frame = some fragment ↔ WellPadded frame fragment := by
  rw [headerFragment, WellPadded]
  cases hpadded : frame.padded with
  | true =>
    simp only [if_true]
    split
    · rename_i hnil
      simp only [hnil, reduceCtorEq, false_iff]
      rintro ⟨padLength, priority, padding, hpayload, ⟨n, rfl, _⟩, _⟩
      cases hpayload
    · rename_i n payload hcons
      rw [removePadding_eq_some_iff, hcons]
      constructor
      · rintro ⟨front, padding, rfl, hpad, hfront⟩
        exact ⟨[n], front, padding, by simp, ⟨n, rfl, hpad⟩, hfront⟩
      · rintro ⟨_, front, padding, hpayload, ⟨m, rfl, hpad⟩, hfront⟩
        simp only [List.cons_append, List.nil_append, List.cons.injEq] at hpayload
        obtain ⟨rfl, rfl⟩ := hpayload
        exact ⟨front, padding, rfl, hpad, hfront⟩
  | false =>
    simp only [Bool.false_eq_true, if_false]
    rw [removePadding_eq_some_iff]
    constructor
    · rintro ⟨front, padding, hpayload, hpad, hfront⟩
      rw [List.length_eq_zero_iff] at hpad
      exact ⟨[], front, padding, hpayload, ⟨rfl, hpad⟩, hfront⟩
    · rintro ⟨padLength, front, padding, hpayload, ⟨rfl, rfl⟩, hfront⟩
      exact ⟨front, [], by simpa using hpayload, rfl, hfront⟩

/-! ## What a frame leaves alone -/

/-- The registry and the blocks passed on stay as they are. -/
def SameBlocks (before after : Session) : Prop :=
  after.streams = before.streams ∧ after.decodedBlocks = before.decodedBlocks

theorem SameBlocks.trans {first second third : Session} (h : SameBlocks first second)
    (h' : SameBlocks second third) : SameBlocks first third :=
  ⟨h'.1.trans h.1, h'.2.trans h.2⟩

theorem tuneConnectionWindow_same (session : Session) (consumed : Nat) :
    SameBlocks session (tuneConnectionWindow session consumed) := by
  unfold tuneConnectionWindow
  split
  · exact ⟨rfl, rfl⟩
  · simp only
    split <;> exact ⟨rfl, rfl⟩

theorem addStreamWindowCredit_same (session : Session) (streamId credit : Nat) :
    SameBlocks session (addStreamWindowCredit session streamId credit) := by
  unfold addStreamWindowCredit
  simp only
  split
  · exact ⟨rfl, rfl⟩
  · split <;> exact ⟨rfl, rfl⟩

theorem discardPendingStreamWindow_same (session : Session) (streamId : Nat) :
    SameBlocks session (discardPendingStreamWindow session streamId) := by
  unfold discardPendingStreamWindow
  split <;> exact ⟨rfl, rfl⟩

theorem replenishStreamWindow_same (session : Session) (streamId : Nat) (reading : StreamReading) :
    SameBlocks session (replenishStreamWindow session streamId reading) := by
  have hconnection : SameBlocks session (addConnectionCredit session reading.consumedBytes) := by
    unfold addConnectionCredit
    split
    · exact SameBlocks.trans ⟨rfl, rfl⟩ (tuneConnectionWindow_same _ _)
    · exact ⟨rfl, rfl⟩
  have hstream : ∀ session, SameBlocks session (settleStreamWindow session streamId reading) := by
    intro session
    unfold settleStreamWindow
    simp only
    split
    · exact discardPendingStreamWindow_same _ _
    · split
      · exact addStreamWindowCredit_same _ _ _
      · exact ⟨rfl, rfl⟩
  unfold replenishStreamWindow
  simp only
  split
  · exact (hconnection.trans (hstream _)).trans ⟨rfl, rfl⟩
  · exact hconnection.trans (hstream _)

/-- The end of a frame does not touch the block of a stream. -/
structure SameStream (before after : Stream) : Prop where
  streamId : after.streamId = before.streamId
  headerBlock : after.headerBlock = before.headerBlock
  awaitingContinuation : after.awaitingContinuation = before.awaitingContinuation
  error : after.error = before.error

theorem SameStream.of_funnel {before after : Stream} (h : FunnelKeeps before after)
    (herror : after.error = before.error) : SameStream before after :=
  ⟨h.streamId, h.headerBlock, h.awaitingContinuation, herror⟩

theorem SameStream.trans {first second third : Stream} (h : SameStream first second)
    (h' : SameStream second third) : SameStream first third :=
  ⟨h'.streamId.trans h.streamId, h'.headerBlock.trans h.headerBlock,
    h'.awaitingContinuation.trans h.awaitingContinuation, h'.error.trans h.error⟩

theorem completeResponseSink_same (stream : Stream) :
    SameStream stream (completeResponseSink stream) :=
  .of_funnel (completeResponseSink_keeps stream).1 (completeResponseSink_keeps stream).2

theorem endStreamReading_same (stream : Stream) (type : UInt8) (length : Nat) :
    SameStream stream (endStreamReading stream type length).2 := by
  have hended : SameStream stream
      (if stream.isEnded then completeResponseSink stream else stream) := by
    split
    · exact completeResponseSink_same stream
    · exact ⟨rfl, rfl, rfl, rfl⟩
  unfold endStreamReading
  simp only
  generalize (if stream.isEnded = true then completeResponseSink stream else stream) = ended
    at hended ⊢
  have htaken := hended.trans (.of_funnel (takeResponseCancellation_keeps ended).1
    (takeResponseCancellation_keeps ended).2)
  split
  · exact hended
  · split
    · exact htaken
    · show SameStream stream (if stream.isEnded = true then _ else _)
      split
      · exact htaken
      · have hmarked := completeResponseSink_same
          { (takeResponseCancellation ended).2 with isEnded := true }
        exact htaken.trans ⟨hmarked.streamId, hmarked.headerBlock, hmarked.awaitingContinuation,
          hmarked.error⟩

theorem finishFrame_streamId (lib : DecoderLib) (stream : Stream) (frame : Frame) :
    (finishFrame lib stream frame).streamId = stream.streamId := by
  have hdeliver : (deliverHeaders lib stream frame).streamId = stream.streamId := by
    unfold deliverHeaders
    split
    · exact (deliverResponseHeaders_keeps lib stream).streamId
    · rfl
  unfold finishFrame
  simp only
  split
  · exact hdeliver
  · exact hdeliver

/-- Only a frame that ends the headers delivers them. -/
theorem finishFrame_same (lib : DecoderLib) (stream : Stream) {frame : Frame}
    (h : frame.endHeaders = false) : SameStream stream (finishFrame lib stream frame) := by
  have hdeliver : deliverHeaders lib stream frame = stream := by
    rw [deliverHeaders, if_neg (by simp [h])]
  unfold finishFrame
  rw [hdeliver]
  simp only
  split <;> exact ⟨rfl, rfl, rfl, rfl⟩

/-! ## One frame on a stream -/

/-- Decoding a block records it and changes nothing else that matters here. -/
theorem decodeBlock_spec (session : Session) (stream : Stream) (block : Bytes) :
    (decodeBlock session stream block).1.streams = session.streams ∧
      (decodeBlock session stream block).1.decodedBlocks = session.decodedBlocks ++ [block] ∧
      (decodeBlock session stream block).2.streamId = stream.streamId := by
  obtain ⟨headers, error, hstream⟩ := decodeHeadersFrame_stream stream block session.hpackCtx
  refine ⟨rfl, rfl, ?_⟩
  simp only [decodeBlock, hstream]

/-- A HEADERS frame that ends its block. -/
theorem handleHeadersFrame_end (session : Session) (stream : Stream) {frame : Frame}
    (h : frame.endHeaders = true) :
    (handleHeadersFrame session stream frame).1.streams = session.streams ∧
      (handleHeadersFrame session stream frame).1.decodedBlocks =
        session.decodedBlocks ++ (headerFragment frame).toList ∧
      (handleHeadersFrame session stream frame).2.streamId = stream.streamId := by
  unfold handleHeadersFrame
  split
  · rename_i hnone
    rw [hnone]
    exact ⟨rfl, by simp, rfl⟩
  · rename_i fragment hsome
    rw [if_neg (by simp [h]), hsome]
    exact decodeBlock_spec session stream fragment

/-- A HEADERS frame that leaves its block open. -/
theorem handleHeadersFrame_open (session : Session) (stream : Stream) {frame : Frame}
    (h : frame.endHeaders = false) :
    handleHeadersFrame session stream frame = (session,
      match headerFragment frame with
      | none => { stream with error := some ERR_RESPONSE_DECODING_HEADERS_FRAME_FAILED }
      | some fragment => { stream with headerBlock := fragment, awaitingContinuation := true }) := by
  unfold handleHeadersFrame
  cases headerFragment frame with
  | none => rfl
  | some fragment => simp [h]

/-- The end of a block in a CONTINUATION frame. -/
theorem handleContinuationFrame_end (session : Session) {stream : Stream} {frame : Frame}
    (h : frame.endHeaders = true) (hwaits : stream.awaitingContinuation = true) :
    (handleContinuationFrame session stream frame).1.streams = session.streams ∧
      (handleContinuationFrame session stream frame).1.decodedBlocks =
        session.decodedBlocks ++
          (if stream.error = none then [stream.headerBlock ++ frame.payload] else []) ∧
      (handleContinuationFrame session stream frame).2.streamId = stream.streamId := by
  unfold handleContinuationFrame
  rw [if_neg (by simp [hwaits]), if_pos h]
  simp only
  split
  · exact decodeBlock_spec session _ _
  · exact ⟨rfl, by simp, rfl⟩

theorem handleContinuationFrame_open (session : Session) {stream : Stream} {frame : Frame}
    (h : frame.endHeaders = false) (hwaits : stream.awaitingContinuation = true) :
    handleContinuationFrame session stream frame =
      (session, { stream with headerBlock := stream.headerBlock ++ frame.payload }) := by
  unfold handleContinuationFrame
  rw [if_neg (by simp [hwaits]), if_neg (by simp [h])]

/-- The other frames of a stream pass no block on. -/
theorem handleStreamFrame_other (lib : DecoderLib) (session : Session) (stream : Stream)
    {frame : Frame} (h1 : frame.type ≠ 0x1) (h9 : frame.type ≠ 0x9) :
    SameBlocks session (handleStreamFrame lib session stream frame).1 ∧
      (handleStreamFrame lib session stream frame).2.streamId = stream.streamId := by
  unfold handleStreamFrame
  simp only [if_neg h1, if_neg h9, finishFrame_streamId]
  split
  · exact ⟨⟨rfl, rfl⟩, (appendStreamPayload_keeps lib stream frame.payload).streamId⟩
  · split
    · unfold handleRST_STREAMFrame
      split
      · simp only
        split <;> exact ⟨⟨rfl, rfl⟩, rfl⟩
      · exact ⟨⟨rfl, rfl⟩, rfl⟩
    · exact ⟨⟨rfl, rfl⟩, rfl⟩

/-- A frame on a registered stream: the handler's session with the stream
put back, up to flow control. -/
theorem readerDispatch_found (lib : DecoderLib) {session : Session} {frame : Frame} {stream : Stream}
    (hscoped : frame.isStreamScoped = true)
    (hfind : findStream session frame.streamId = some stream) :
    ∃ after, SameStream (handleStreamFrame lib session stream frame).2 after ∧
      SameBlocks (updateStream (handleStreamFrame lib session stream frame).1 frame.streamId after)
        (readerDispatch lib session frame) := by
  refine ⟨_, endStreamReading_same _ frame.type frame.payload.length, ?_⟩
  rw [readerDispatch, if_pos hscoped, hfind]
  simp only
  split
  · exact (replenishStreamWindow_same _ _ _).trans ⟨rfl, rfl⟩
  · exact replenishStreamWindow_same _ _ _

theorem readerDispatch_unknown (lib : DecoderLib) {session : Session} {frame : Frame}
    (hscoped : frame.isStreamScoped = true) (hfind : findStream session frame.streamId = none) :
    readerDispatch lib session frame = handleSessionFrame session frame := by
  rw [readerDispatch, if_pos hscoped, hfind]

/-! ## The invariant -/

/-- What the stream of an open block holds while it waits for the rest. -/
def holdsBlock (pending : OpenBlock) (stream : Stream) : Prop :=
  match pending.block with
  | some block => stream.headerBlock = block
  | none => stream.error ≠ none

structure BlockInv (pending : Option OpenBlock) (session : Session) : Prop where
  distinct : Slots.Distinct Stream.streamId session.streams
  holds : ∀ block ∈ pending, ∀ stream ∈ Slots.entries session.streams,
    stream.streamId = block.streamId → stream.awaitingContinuation = true → holdsBlock block stream

/-- The condition on the state before an event.  The frames of a split block
find its stream, which still waits for them and has no error at the end; a
new stream takes an id that is not in use. -/
def Routed (pending : Option OpenBlock) (session : Session) : Event → Prop
  | .frame frame =>
    (frame.type = 0x1 → frame.endHeaders = false → headerFragment frame ≠ none →
      findStream session frame.streamId ≠ none) ∧
    (frame.type = 0x9 → (∃ block ∈ pending, block.block ≠ none) →
      ∃ stream, findStream session frame.streamId = some stream ∧
        stream.awaitingContinuation = true ∧ (frame.endHeaders = true → stream.error = none))
  | .register _ => ∀ stream ∈ Slots.entries session.streams, stream.streamId ≠ session.streamId
  | .unregister _ => True

/-- After a frame on a registered stream, ids are still distinct and the
stream of the frame is the one the handler left. -/
theorem readerDispatch_registry (lib : DecoderLib) {session : Session} {frame : Frame}
    {stream : Stream} (hdistinct : Slots.Distinct Stream.streamId session.streams)
    (hscoped : frame.isStreamScoped = true)
    (hfind : findStream session frame.streamId = some stream)
    (hstreams : (handleStreamFrame lib session stream frame).1.streams = session.streams)
    (hid : (handleStreamFrame lib session stream frame).2.streamId = stream.streamId) :
    ∃ after, SameStream (handleStreamFrame lib session stream frame).2 after ∧
      (readerDispatch lib session frame).decodedBlocks =
        (handleStreamFrame lib session stream frame).1.decodedBlocks ∧
      Slots.Distinct Stream.streamId (readerDispatch lib session frame).streams ∧
      ∀ other ∈ Slots.entries (readerDispatch lib session frame).streams,
        other.streamId = frame.streamId → other = after := by
  obtain ⟨after, hsame, hslots, hblocks⟩ := readerDispatch_found lib hscoped hfind
  have hkey : after.streamId = frame.streamId := by
    rw [hsame.streamId, hid]
    exact (Slots.mem_of_find hfind).2
  rw [updateStream, hstreams] at hslots
  refine ⟨after, hsame, hblocks, ?_, ?_⟩
  · rw [hslots]
    exact hdistinct.replace hkey
  · rw [hslots]
    intro other hother hotherKey
    have hfound : Slots.find Stream.streamId frame.streamId session.streams ≠ none := by
      intro hnone
      rw [findStream, hnone] at hfind
      cases hfind
    exact Slots.eq_of_mem_replace hkey hdistinct hfound hother hotherKey

theorem blockInv_none {session : Session}
    (hdistinct : Slots.Distinct Stream.streamId session.streams) : BlockInv none session :=
  ⟨hdistinct, fun _ hmem => by cases hmem⟩

/-- A frame that neither opens nor continues a block. -/
theorem readerDispatch_other (lib : DecoderLib) {session : Session} {frame : Frame}
    (hdistinct : Slots.Distinct Stream.streamId session.streams) (h1 : frame.type ≠ 0x1)
    (h9 : frame.type ≠ 0x9) :
    BlockInv none (readerDispatch lib session frame) ∧
      (readerDispatch lib session frame).decodedBlocks = session.decodedBlocks := by
  by_cases hscoped : frame.isStreamScoped = true
  · cases hfind : findStream session frame.streamId with
    | some stream =>
      obtain ⟨⟨hstreams, hblocks⟩, hid⟩ := handleStreamFrame_other lib session stream h1 h9
      obtain ⟨_, _, hdecoded, hdistinct', _⟩ :=
        readerDispatch_registry lib hdistinct hscoped hfind hstreams hid
      exact ⟨blockInv_none hdistinct', by rw [hdecoded, hblocks]⟩
    | none =>
      have h7 : frame.type ≠ 0x7 := by
        intro h7
        simp [Frame.isStreamScoped, h7] at hscoped
      rw [readerDispatch_unknown lib hscoped hfind, handleSessionFrame, if_neg h1, if_neg h7]
      exact ⟨blockInv_none hdistinct, rfl⟩
  · have hsession : SameBlocks session
        (acknowledgeFrame (handleSessionFrame session frame) frame) := by
      have hgoaway : SameBlocks session (handleSessionFrame session frame) := by
        unfold handleSessionFrame handleGoAwayFrame
        rw [if_neg h1]
        split
        · split <;> exact ⟨rfl, rfl⟩
        · exact ⟨rfl, rfl⟩
      obtain ⟨wire, heq⟩ := acknowledgeFrame_eq (handleSessionFrame session frame) frame
      rw [heq]
      exact hgoaway
    have hids : ∀ failing stream, (failStream failing true stream).streamId = stream.streamId := by
      intro failing stream
      unfold failStream
      split
      · exact (completeResponseSink_keeps _).1.streamId
      · rfl
    rw [readerDispatch, if_neg hscoped]
    simp only
    split
    · refine ⟨blockInv_none ?_, hsession.2⟩
      rw [Slots.Distinct, failAllStreams, Slots.entries_map, List.map_map, hsession.1]
      have hcomp : Stream.streamId ∘ failStream
          (acknowledgeFrame (handleSessionFrame session frame) frame) true = Stream.streamId :=
        funext (hids _)
      rw [hcomp]
      exact hdistinct
    · refine ⟨blockInv_none ?_, hsession.2⟩
      rw [hsession.1]
      exact hdistinct

theorem isStreamScoped_of_type {frame : Frame} (h : frame.type = 0x1 ∨ frame.type = 0x9) :
    frame.isStreamScoped = true := by
  rcases h with h | h <;> simp [Frame.isStreamScoped, h]

theorem handleStreamFrame_headers (lib : DecoderLib) (session : Session) (stream : Stream)
    {frame : Frame} (h : frame.type = 0x1) :
    handleStreamFrame lib session stream frame =
      ((handleHeadersFrame session stream frame).1,
        finishFrame lib (handleHeadersFrame session stream frame).2 frame) := by
  simp [handleStreamFrame, h]

theorem handleStreamFrame_continuation (lib : DecoderLib) (session : Session) (stream : Stream)
    {frame : Frame} (h : frame.type = 0x9) :
    handleStreamFrame lib session stream frame =
      ((handleContinuationFrame session stream frame).1,
        finishFrame lib (handleContinuationFrame session stream frame).2 frame) := by
  simp [handleStreamFrame, h]

/-- A HEADERS frame with the whole block: registered or not, it is decoded. -/
theorem readerDispatch_whole (lib : DecoderLib) {session : Session} {frame : Frame}
    (hdistinct : Slots.Distinct Stream.streamId session.streams) (h1 : frame.type = 0x1)
    (hend : frame.endHeaders = true) :
    BlockInv none (readerDispatch lib session frame) ∧
      (readerDispatch lib session frame).decodedBlocks =
        session.decodedBlocks ++ (headerFragment frame).toList := by
  have hscoped := isStreamScoped_of_type (Or.inl h1)
  cases hfind : findStream session frame.streamId with
  | some stream =>
    obtain ⟨hstreams, hblocks, hid⟩ := handleHeadersFrame_end session stream hend
    have hframe := handleStreamFrame_headers lib session stream h1
    obtain ⟨_, _, hdecoded, hdistinct', _⟩ := readerDispatch_registry lib hdistinct hscoped hfind
      (by rw [hframe]; exact hstreams) (by rw [hframe, finishFrame_streamId]; exact hid)
    refine ⟨blockInv_none hdistinct', ?_⟩
    rw [hdecoded, hframe]
    exact hblocks
  | none =>
    obtain ⟨hstreams, hblocks, _⟩ := handleHeadersFrame_end session Stream.scratch hend
    rw [readerDispatch_unknown lib hscoped hfind, handleSessionFrame, if_pos h1]
    refine ⟨blockInv_none ?_, hblocks⟩
    rw [hstreams]
    exact hdistinct

/-- A HEADERS frame that opens a block.  The scratch stream of an unknown id
is gone afterwards, so the frame has to find its stream if it is correctly
padded. -/
theorem readerDispatch_opens (lib : DecoderLib) {session : Session} {frame : Frame}
    (hdistinct : Slots.Distinct Stream.streamId session.streams) (h1 : frame.type = 0x1)
    (hopen : frame.endHeaders = false)
    (hrouted : headerFragment frame ≠ none → findStream session frame.streamId ≠ none) :
    BlockInv (some ⟨frame.streamId, headerFragment frame⟩) (readerDispatch lib session frame) ∧
      (readerDispatch lib session frame).decodedBlocks = session.decodedBlocks := by
  have hscoped := isStreamScoped_of_type (Or.inl h1)
  cases hfind : findStream session frame.streamId with
  | some stream =>
    have hheaders := handleHeadersFrame_open session stream hopen
    have hframe := handleStreamFrame_headers lib session stream h1
    have hfinish := finishFrame_same lib (handleHeadersFrame session stream frame).2 hopen
    have hid : (handleHeadersFrame session stream frame).2.streamId = stream.streamId := by
      rw [hheaders]
      cases headerFragment frame <;> rfl
    obtain ⟨after, hsame, hdecoded, hdistinct', honly⟩ :=
      readerDispatch_registry lib hdistinct hscoped hfind
        (by rw [hframe, hheaders]) (by rw [hframe, finishFrame_streamId]; exact hid)
    refine ⟨⟨hdistinct', ?_⟩, by rw [hdecoded, hframe, hheaders]⟩
    intro block hblock other hother hkey _
    rw [Option.mem_some_iff] at hblock
    subst hblock
    rw [honly other hother hkey, holdsBlock]
    rw [hframe] at hsame
    have hafter := hfinish.trans hsame
    rw [hheaders] at hafter
    cases hfragment : headerFragment frame with
    | none =>
      rw [hfragment] at hafter
      simp only
      rw [hafter.error]
      simp
    | some fragment =>
      rw [hfragment] at hafter
      exact hafter.headerBlock
  | none =>
    have hnone : headerFragment frame = none := by
      by_contra hsome
      exact hrouted hsome hfind
    rw [readerDispatch_unknown lib hscoped hfind, handleSessionFrame, if_pos h1,
      handleHeadersFrame_open session Stream.scratch hopen]
    refine ⟨⟨hdistinct, ?_⟩, rfl⟩
    intro block hblock other hother hkey
    rw [Option.mem_some_iff] at hblock
    subst hblock
    exact absurd hkey (Slots.ne_of_find_eq_none hfind hother)

/-- A CONTINUATION frame that no stream waits for. -/
theorem readerDispatch_dropped (lib : DecoderLib) {session : Session} {frame : Frame}
    {pending : OpenBlock} (hinv : BlockInv (some pending) session) (h9 : frame.type = 0x9)
    (hid : frame.streamId = pending.streamId)
    (hdrops : ∀ stream, findStream session frame.streamId = some stream →
      stream.awaitingContinuation ≠ true) :
    BlockInv (if frame.endHeaders then none else some pending) (readerDispatch lib session frame) ∧
      (readerDispatch lib session frame).decodedBlocks = session.decodedBlocks := by
  have hscoped := isStreamScoped_of_type (Or.inr h9)
  cases hfind : findStream session frame.streamId with
  | none =>
    have h1 : frame.type ≠ 0x1 := by rw [h9]; decide
    have h7 : frame.type ≠ 0x7 := by rw [h9]; decide
    rw [readerDispatch_unknown lib hscoped hfind, handleSessionFrame, if_neg h1, if_neg h7]
    split
    · exact ⟨blockInv_none hinv.distinct, rfl⟩
    · exact ⟨hinv, rfl⟩
  | some stream =>
    have hwaits := hdrops stream hfind
    have hframe := handleStreamFrame_continuation lib session stream h9
    have hdrop : handleContinuationFrame session stream frame = (session, stream) := by
      unfold handleContinuationFrame
      rw [if_pos hwaits]
    rw [hdrop] at hframe
    obtain ⟨after, hsame, hdecoded, hdistinct, honly⟩ :=
      readerDispatch_registry lib hinv.distinct hscoped hfind
        (by rw [hframe]) (by rw [hframe, finishFrame_streamId])
    rw [hframe] at hsame hdecoded
    refine ⟨?_, hdecoded⟩
    split
    · exact blockInv_none hdistinct
    · rename_i hend
      have hafter := (finishFrame_same lib stream (by simpa using hend)).trans hsame
      refine ⟨hdistinct, ?_⟩
      intro block hblock other hother hotherKey hotherWaits
      rw [Option.mem_some_iff] at hblock
      subst hblock
      rw [honly other hother (hotherKey.trans hid.symm), hafter.awaitingContinuation] at hotherWaits
      exact absurd hotherWaits hwaits

/-- The last frame of a block, on the stream that holds the others. -/
theorem readerDispatch_ends (lib : DecoderLib) {session : Session} {frame : Frame}
    {stream : Stream} (hdistinct : Slots.Distinct Stream.streamId session.streams)
    (h9 : frame.type = 0x9) (hfind : findStream session frame.streamId = some stream)
    (hwaits : stream.awaitingContinuation = true) (hend : frame.endHeaders = true) :
    BlockInv none (readerDispatch lib session frame) ∧
      (readerDispatch lib session frame).decodedBlocks = session.decodedBlocks ++
        (if stream.error = none then [stream.headerBlock ++ frame.payload] else []) := by
  have hframe := handleStreamFrame_continuation lib session stream h9
  obtain ⟨hstreams, hblocks, hsameId⟩ := handleContinuationFrame_end session hend hwaits
  obtain ⟨_, _, hdecoded, hdistinct', _⟩ :=
    readerDispatch_registry lib hdistinct (isStreamScoped_of_type (Or.inr h9)) hfind
      (by rw [hframe]; exact hstreams) (by rw [hframe, finishFrame_streamId]; exact hsameId)
  refine ⟨blockInv_none hdistinct', ?_⟩
  rw [hdecoded, hframe]
  exact hblocks

/-- A frame in the middle of a block, on the stream that holds the others. -/
theorem readerDispatch_extends (lib : DecoderLib) {session : Session} {frame : Frame}
    {stream : Stream} {pending : OpenBlock}
    (hdistinct : Slots.Distinct Stream.streamId session.streams) (h9 : frame.type = 0x9)
    (hid : frame.streamId = pending.streamId)
    (hfind : findStream session frame.streamId = some stream)
    (hwaits : stream.awaitingContinuation = true) (hholds : holdsBlock pending stream)
    (hopen : frame.endHeaders = false) :
    BlockInv (some { pending with block := pending.block.map (· ++ frame.payload) })
        (readerDispatch lib session frame) ∧
      (readerDispatch lib session frame).decodedBlocks = session.decodedBlocks := by
  have hframe := handleStreamFrame_continuation lib session stream h9
  rw [handleContinuationFrame_open session hopen hwaits] at hframe
  obtain ⟨after, hsame, hdecoded, hdistinct', honly⟩ :=
    readerDispatch_registry lib hdistinct (isStreamScoped_of_type (Or.inr h9)) hfind
      (by rw [hframe]) (by rw [hframe, finishFrame_streamId])
  rw [hframe] at hsame hdecoded
  have hafter := (finishFrame_same lib _ hopen).trans hsame
  refine ⟨⟨hdistinct', ?_⟩, hdecoded⟩
  intro block hblock other hother hotherKey _
  rw [Option.mem_some_iff] at hblock
  subst hblock
  rw [honly other hother (hotherKey.trans hid.symm), holdsBlock]
  rw [holdsBlock] at hholds
  cases hblock : pending.block with
  | none =>
    rw [hblock] at hholds
    simp only [Option.map_none]
    rw [hafter.error]
    exact hholds
  | some block =>
    rw [hblock] at hholds
    simp only [Option.map_some]
    rw [hafter.headerBlock, hholds]

/-- A CONTINUATION frame of the open block. -/
theorem readerDispatch_continues (lib : DecoderLib) {session : Session} {frame : Frame}
    {pending : OpenBlock} (hinv : BlockInv (some pending) session) (h9 : frame.type = 0x9)
    (hid : frame.streamId = pending.streamId)
    (hrouted : Routed (some pending) session (.frame frame)) :
    BlockInv (if frame.endHeaders then none
        else some { pending with block := pending.block.map (· ++ frame.payload) })
        (readerDispatch lib session frame) ∧
      (readerDispatch lib session frame).decodedBlocks = session.decodedBlocks ++
        (if frame.endHeaders then (pending.block.map (· ++ frame.payload)).toList else []) := by
  by_cases hdrops : ∀ stream, findStream session frame.streamId = some stream →
      stream.awaitingContinuation ≠ true
  · -- only a badly padded block may lose its stream
    have hbad : pending.block = none := by
      by_contra hgood
      obtain ⟨stream, hfound, hwaits, _⟩ := hrouted.2 h9 ⟨pending, rfl, hgood⟩
      exact hdrops stream hfound hwaits
    obtain ⟨hnext, hdecoded⟩ := readerDispatch_dropped lib hinv h9 hid hdrops
    have hsame : { pending with block := none } = pending := by rw [← hbad]
    rw [hbad, Option.map_none, hsame, hdecoded]
    exact ⟨hnext, by simp⟩
  · simp only [not_forall, not_not] at hdrops
    obtain ⟨stream, hfind, hwaits⟩ := hdrops
    obtain ⟨hmem, hkey⟩ := Slots.mem_of_find hfind
    have hholds := hinv.holds pending rfl stream hmem (hkey.trans hid) hwaits
    by_cases hend : frame.endHeaders = true
    · obtain ⟨hnext, hdecoded⟩ := readerDispatch_ends lib hinv.distinct h9 hfind hwaits hend
      rw [if_pos hend, if_pos hend, hdecoded]
      refine ⟨hnext, congrArg _ ?_⟩
      rw [holdsBlock] at hholds
      cases hblock : pending.block with
      | none =>
        rw [hblock] at hholds
        rw [if_neg hholds]
        rfl
      | some block =>
        obtain ⟨found, hfound, _, herror⟩ := hrouted.2 h9 ⟨pending, rfl, by rw [hblock]; simp⟩
        rw [hfind, Option.some.injEq] at hfound
        rw [hblock] at hholds
        rw [if_pos (by rw [hfound]; exact herror hend), hholds]
        rfl
    · obtain ⟨hnext, hdecoded⟩ := readerDispatch_extends lib hinv.distinct h9 hid hfind hwaits
        hholds (by simpa using hend)
      rw [if_neg hend, if_neg hend, List.append_nil]
      exact ⟨hnext, hdecoded⟩

/-- One frame: the block it completes is passed on, and nothing else. -/
theorem readerDispatch_block (lib : DecoderLib) {pending next : Option OpenBlock}
    {session : Session} {frame : Frame} {block : Option Bytes} (hinv : BlockInv pending session)
    (hscan : scanFrame pending frame = some (next, block))
    (hrouted : Routed pending session (.frame frame)) :
    BlockInv next (readerDispatch lib session frame) ∧
      (readerDispatch lib session frame).decodedBlocks =
        session.decodedBlocks ++ block.toList := by
  unfold scanFrame at hscan
  split at hscan
  · split at hscan
    · cases hscan
    · rename_i h9
      split at hscan
      · rename_i h1
        split at hscan
        · rename_i hend
          cases hscan
          exact readerDispatch_whole lib hinv.distinct h1 hend
        · rename_i hend
          cases hscan
          have hopen : frame.endHeaders = false := by simpa using hend
          obtain ⟨hnext, hblocks⟩ :=
            readerDispatch_opens lib hinv.distinct h1 hopen (hrouted.1 h1 hopen)
          exact ⟨hnext, by rw [hblocks]; simp⟩
      · rename_i h1
        cases hscan
        obtain ⟨hnext, hblocks⟩ := readerDispatch_other lib hinv.distinct h1 h9
        exact ⟨hnext, by rw [hblocks]; simp⟩
  · rename_i pending
    split at hscan
    · rename_i hframe
      have hstep := readerDispatch_continues lib hinv hframe.1 hframe.2 hrouted
      simp only at hscan
      split at hscan
      · rename_i hend
        cases hscan
        rw [if_pos hend, if_pos hend] at hstep
        exact hstep
      · rename_i hend
        cases hscan
        rw [if_neg hend, if_neg hend] at hstep
        exact hstep
    · cases hscan

/-! ## Registrations and removals -/

theorem registerStream_block {pending : Option OpenBlock} {session : Session}
    (hinv : BlockInv pending session) (sink : Option ResponseSink)
    (hrouted : Routed pending session (.register sink)) :
    BlockInv pending (registerStream session sink) ∧
      (registerStream session sink).decodedBlocks = session.decodedBlocks := by
  unfold registerStream
  simp only
  split
  · exact ⟨⟨hinv.distinct, hinv.holds⟩, rfl⟩
  · rename_i slot hslot
    have hfree : session.streams[slot]? = some none := by
      obtain ⟨hlt, hnone, _⟩ := List.findIdx?_eq_some_iff_getElem.mp hslot
      rw [List.getElem?_eq_getElem hlt, Option.isNone_iff_eq_none.mp hnone]
    refine ⟨⟨hinv.distinct.set_some hfree hrouted, ?_⟩, rfl⟩
    intro block hblock stream hstream hkey hwaits
    rcases List.mem_cons.mp ((Slots.perm_entries_set_some hfree _).mem_iff.mp hstream) with
      rfl | hold
    · -- a new stream waits for nothing
      cases hwaits
    · exact hinv.holds block hblock stream hold hkey hwaits

theorem unregisterStream_block {pending : Option OpenBlock} {session : Session}
    (hinv : BlockInv pending session) (slot : Nat) :
    BlockInv pending (unregisterStream session slot) ∧
      (unregisterStream session slot).decodedBlocks = session.decodedBlocks := by
  refine ⟨⟨hinv.distinct.set_none slot, ?_⟩, rfl⟩
  intro block hblock stream hstream
  exact hinv.holds block hblock stream ((Slots.entries_set_none _ slot).subset hstream)

/-! ## Whole runs -/

/-- Every event of a run meets `Routed` in the state it finds. -/
def AllRouted (lib : DecoderLib) : Option OpenBlock → Session → List Event → Prop
  | _, _, [] => True
  | pending, session, .frame frame :: events =>
    Routed pending session (.frame frame) ∧
      ∀ next block, scanFrame pending frame = some (next, block) →
        AllRouted lib next (readerDispatch lib session frame) events
  | pending, session, event :: events =>
    Routed pending session event ∧ AllRouted lib pending (stepEvent lib session event) events

theorem runEvents_blocks (lib : DecoderLib) (events : List Event) :
    ∀ (pending : Option OpenBlock) (session : Session) (blocks : List Bytes),
      BlockInv pending session → expectedBlocks pending events = some blocks →
      AllRouted lib pending session events →
      (runEvents lib session events).decodedBlocks = session.decodedBlocks ++ blocks := by
  induction events with
  | nil =>
    intro pending session blocks _ hblocks _
    cases hblocks
    exact (List.append_nil _).symm
  | cons event events ih =>
    intro pending session blocks hinv hblocks hrouted
    rw [runEvents, List.foldl_cons]
    cases event with
    | frame frame =>
      rw [expectedBlocks] at hblocks
      split at hblocks
      · cases hblocks
      · rename_i next block hscan
        rw [Option.map_eq_some_iff] at hblocks
        obtain ⟨rest, hrest, rfl⟩ := hblocks
        obtain ⟨hnext, hstep⟩ := readerDispatch_block lib hinv hscan hrouted.1
        have hrun := ih next _ rest hnext hrest (hrouted.2 next block hscan)
        exact hrun.trans (by rw [hstep, List.append_assoc])
    | register sink =>
      obtain ⟨hnext, hstep⟩ := registerStream_block hinv sink hrouted.1
      have hrun := ih pending _ blocks hnext hblocks hrouted.2
      exact hrun.trans (by rw [hstep])
    | unregister slot =>
      obtain ⟨hnext, hstep⟩ := unregisterStream_block hinv slot
      have hrun := ih pending _ blocks hnext hblocks hrouted.2
      exact hrun.trans (by rw [hstep])

/-- In every run whose events are all `Routed`, the blocks passed to the
decoder are exactly those of the frames, in order. -/
theorem runEvents_decodedBlocks (lib : DecoderLib) (session : Session) (events : List Event)
    (blocks : List Bytes) (hdistinct : Slots.Distinct Stream.streamId session.streams)
    (hblocks : expectedBlocks none events = some blocks)
    (hrouted : AllRouted lib none session events) :
    (runEvents lib session events).decodedBlocks = session.decodedBlocks ++ blocks :=
  runEvents_blocks lib events none session blocks (blockInv_none hdistinct) hblocks hrouted

/-- A block of two indexed fields in two frames. -/
def splitBlock : List Event :=
  [.frame ⟨0x1, 0, 1, [0x82]⟩, .frame ⟨0x9, 0x4, 1, [0x84]⟩]

/-- On a registered stream the split block is put together. -/
theorem runEvents_decodedBlocks_split :
    (runEvents noDecoders (initSession 4096) (.register none :: splitBlock)).decodedBlocks =
      [] ++ [[0x82, 0x84]] := by
  have hempty : Slots.entries (initSession 4096).streams = [] := by decide +kernel
  apply runEvents_decodedBlocks noDecoders (initSession 4096) (.register none :: splitBlock)
    [[0x82, 0x84]]
  · rw [Slots.Distinct, hempty]
    exact List.nodup_nil
  · decide
  · have hfound : (findStream (registerStream (initSession 4096) none) 1).isSome = true := by
      decide +kernel
    have hwaits : (findStream (readerDispatch noDecoders (registerStream (initSession 4096) none)
        ⟨0x1, 0, 1, [0x82]⟩) 1).any (fun stream =>
          stream.awaitingContinuation && (stream.error = none)) = true := by decide +kernel
    refine ⟨fun stream hstream => ?_, ⟨fun _ _ _ hnone => ?_, fun h9 => ?_⟩,
      fun next block hnext => ⟨⟨fun h1 => ?_, fun _ _ => ?_⟩, fun _ _ _ => trivial⟩⟩
    · rw [hempty] at hstream
      cases hstream
    · have hregistered : findStream (registerStream (initSession 4096) none) 1 = none := hnone
      rw [hregistered] at hfound
      cases hfound
    · cases h9
    · cases h1
    · obtain ⟨stream, hstream, hstate⟩ := (Option.any_eq_true _ _).mp hwaits
      rw [Bool.and_eq_true, decide_eq_true_eq] at hstate
      exact ⟨stream, hstream, hstate.1, fun _ => hstate.2⟩

/-- Without a registered stream both parts of the block are dropped. -/
theorem runEvents_drops_block :
    expectedBlocks none splitBlock = some [[0x82, 0x84]] ∧
      (runEvents noDecoders (initSession 4096) splitBlock).decodedBlocks = [] := by
  exact ⟨by decide, by decide +kernel⟩

end HttpRequestClient.Http2
