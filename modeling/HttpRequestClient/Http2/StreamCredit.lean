import HttpRequestClient.Http2.Answers
import HttpRequestClient.Http2.Requests

/-!
# Credit of the streams

What the reader owes to a single stream, over runs in which streams come and
go.

* `readingAfter_dead` says when a frame leaves its stream dead: it ends or
  resets the stream, or the consumer stops in it.
* An update is queued when it is earned and written at the end of the batch,
  so a stream may die in between.  `runConnection_noTrailingUpdate`: if no
  stream dies while an update for it is queued, no dead stream gets one.
  `runConnection_trailingUpdate` is a run in which one does.
* `Ledger.account` is what the ledger has granted to a stream and holds for
  it.  The ledger has 256 entries, and only a frame of a stream clears its
  entry.  `runConnection_streamCredit`: if every DATA frame finds its entry
  or room for one, the account of an open stream is what it received.
  `runConnection_losesStreamCredit` is a run in which the entries of streams
  that were removed fill the ledger.
-/

namespace HttpRequestClient.Http2

open Runs

/-! ## The end of a stream -/

/-- A frame that ends or resets its stream. -/
def Frame.closes (frame : Frame) : Bool :=
  frame.type = 0x3 ∨
    (frame.type = 0x0 ∨ frame.type = 0x1 ∨ frame.type = 0x9) ∧ frame.endStream

/-- The consumer of a stream stops in the handler of a frame. -/
def stops (lib : DecoderLib) (session : Session) (stream : Stream) (frame : Frame) : Bool :=
  (takeResponseCancellation (handleStreamFrame lib session stream frame).2).1

theorem takeResponseCancellation_fst (stream : Stream) :
    (takeResponseCancellation stream).1 = (stream.cancelled && !stream.cancellationTaken) := by
  unfold takeResponseCancellation Stream.cancelled Stream.cancellationTaken
  cases stream.sink with
  | none => rfl
  | some sink =>
    by_cases hasks : ¬sink.cancelled = true ∨ sink.cancellationTaken = true
    · simp only [if_pos hasks]
      rcases hasks with hnone | htaken
      · simp [hnone]
      · simp [htaken]
    · simp only [if_neg hasks]
      rw [not_or, Decidable.not_not, Bool.not_eq_true] at hasks
      simp [hasks]

theorem finishFrame_isEnded (lib : DecoderLib) (stream : Stream) (frame : Frame) :
    (finishFrame lib stream frame).isEnded =
      (stream.isEnded || decide ((frame.type = 0x0 ∨ frame.type = 0x1 ∨ frame.type = 0x9) ∧
        frame.endStream = true)) := by
  have hdeliver : (deliverHeaders lib stream frame).isEnded = stream.isEnded := by
    unfold deliverHeaders
    split
    · exact (deliverResponseHeaders_keeps lib stream).isEnded
    · rfl
  unfold finishFrame
  dsimp only
  split
  · rename_i hends
    simp [hends]
  · rename_i hends
    rw [hdeliver, decide_eq_false hends, Bool.or_false]

theorem handleStreamFrame_isEnded (lib : DecoderLib) (session : Session) (stream : Stream)
    (frame : Frame) :
    (handleStreamFrame lib session stream frame).2.isEnded =
      (stream.isEnded || frame.closes) := by
  unfold handleStreamFrame Frame.closes
  dsimp only
  rw [finishFrame_isEnded]
  split
  · rename_i hdata
    rw [(appendStreamPayload_keeps lib stream frame.payload).isEnded]
    simp [hdata]
  · split
    · rename_i hheaders
      rw [(handleHeadersFrame_sink session stream frame).isEnded]
      simp [hheaders]
    · split
      · rename_i hcontinuation
        rw [(handleContinuationFrame_sink session stream frame).isEnded]
        simp [hcontinuation]
      · split
        · rename_i hreset
          simp [hreset]
        · rename_i hdata hheaders hcontinuation hreset
          simp [hdata, hheaders, hcontinuation, hreset]

theorem endStreamReading_isEnded (stream : Stream) (type : UInt8) (length : Nat) :
    (endStreamReading stream type length).1.ended = stream.isEnded ∧
      (endStreamReading stream type length).1.reset = decide (type = 0x3) ∧
      (endStreamReading stream type length).2.isEnded =
        (stream.isEnded || (takeResponseCancellation stream).1) := by
  have hsame : SameRequest stream
      (if stream.isEnded = true then completeResponseSink stream else stream) := by
    split
    · exact completeResponseSink_sameRequest stream
    · exact ⟨rfl, rfl, rfl⟩
  have hkept : (if stream.isEnded = true then completeResponseSink stream else stream).isEnded =
      stream.isEnded := by
    split
    · exact (completeResponseSink_keeps stream).1.isEnded
    · rfl
  have htake : (takeResponseCancellation stream).1 = (takeResponseCancellation
      (if stream.isEnded = true then completeResponseSink stream else stream)).1 := by
    rw [takeResponseCancellation_fst, takeResponseCancellation_fst, hsame.cancelled, hsame.taken]
  rw [htake]
  unfold endStreamReading
  dsimp only
  generalize (if stream.isEnded = true then completeResponseSink stream else stream) = ended
    at hkept ⊢
  cases hsink : ended.sink with
  | none => simp [isResponseStreaming, hsink, takeResponseCancellation, hkept]
  | some sink =>
    have hstreaming : ¬¬isResponseStreaming ended = true := by simp [isResponseStreaming, hsink]
    rw [if_neg hstreaming]
    cases hcancelled : (takeResponseCancellation ended).1 with
    | false =>
      simp [(takeResponseCancellation_keeps ended).1.isEnded, hkept]
    | true =>
      simp only [not_true_eq_false, if_false, Bool.or_true, true_and]
      split
      · rename_i hended
        rw [(takeResponseCancellation_keeps ended).1.isEnded, hkept]
        exact hended
      · exact (completeResponseSink_keeps _).1.isEnded

/-- What ends a stream. -/
theorem streamAfter_isEnded (lib : DecoderLib) (session : Session) (stream : Stream)
    (frame : Frame) :
    (streamAfter lib session stream frame).isEnded =
      (stream.isEnded || frame.closes || stops lib session stream frame) := by
  rw [← handleStreamFrame_isEnded lib session]
  exact (endStreamReading_isEnded _ frame.type frame.payload.length).2.2

/-- The reader counts a stream as dead when it has ended. -/
theorem readingAfter_dead (lib : DecoderLib) (session : Session) {stream : Stream} {frame : Frame}
    (hid : stream.streamId ≠ 0) :
    ((readingAfter lib session stream frame).ended = true ∨
        (readingAfter lib session stream frame).reset = true ∨
        (readingAfter lib session stream frame).cancelStreamId ≠ 0) ↔
      (streamAfter lib session stream frame).isEnded = true := by
  obtain ⟨hended, hreset, -⟩ := endStreamReading_isEnded
    (handleStreamFrame lib session stream frame).2 frame.type frame.payload.length
  have hended' : (readingAfter lib session stream frame).ended = _ := hended
  have hreset' : (readingAfter lib session stream frame).reset = _ := hreset
  have hcancel : (readingAfter lib session stream frame).cancelStreamId = _ :=
    (endStreamReading_request (handleStreamFrame lib session stream frame).2 frame.type
      frame.payload.length).2.2
  rw [handleStreamFrame_streamId, ← takeResponseCancellation_fst] at hcancel
  rw [handleStreamFrame_isEnded] at hended'
  rw [streamAfter_isEnded, hended', hreset', hcancel, stops]
  have hcloses : frame.type = 0x3 → frame.closes = true := by
    intro htype
    simp [Frame.closes, htype]
  cases (takeResponseCancellation (handleStreamFrame lib session stream frame).2).1 with
  | true => simp [hid]
  | false =>
    simp only [Bool.or_false, Bool.or_eq_true, decide_eq_true_eq, Bool.false_eq_true, if_false,
      ne_eq, not_true_eq_false, or_false]
    exact ⟨fun h => h.elim id fun htype => .inr (hcloses htype), .inl⟩

/-! ## Ids that are not used up -/

section Ids

variable {lib : DecoderLib} {headerTableSize : Nat} {events : List ConnectionEvent}

theorem runConnection_snoc (event : ConnectionEvent) :
    runConnection lib headerTableSize (events ++ [event]) =
      stepConnection lib (runConnection lib headerTableSize events) event := by
  rw [runConnection, run_append]
  rfl

/-- When every registration finds an id that a frame can carry, the ids do
not repeat. -/
theorem registrations_le {ok : Connection → ConnectionEvent → Prop}
    (hok : ∀ connection decompress contract, ok connection (.register decompress contract) →
      connection.session.streamId < 2 ^ 31)
    (hmeets : Meets (stepConnection lib) ok (connect headerTableSize) events) :
    registrations events ≤ 2 ^ 30 := by
  induction events using List.reverseRecOn with
  | nil => exact Nat.zero_le _
  | append_singleton events event ih =>
    obtain ⟨hbefore, hlast⟩ := meets_snoc.mp hmeets
    have hle := ih hbefore
    rw [registrations_snoc]
    cases event with
    | register decompress contract =>
      have hid := hok _ decompress contract hlast
      have hnext := (runAnswering_ids lib 0 headerTableSize events).next
      rw [runAnswering_connection] at hnext
      have hid' : (runConnection lib headerTableSize events).session.streamId < 2 ^ 31 := hid
      rw [hnext] at hid'
      show registrations events + 1 ≤ 2 ^ 30
      omega
    | reader action => exact hle
    | lost error => exact hle
    | checkCompletion slot => exact hle
    | finishCompletion slot => exact hle
    | unregister slot => exact hle

/-- The registered streams have different ids, all of them below the next
one. -/
structure Numbered (session : Session) : Prop where
  distinct : Slots.Distinct Stream.streamId session.streams
  below : ∀ stream ∈ Slots.entries session.streams, stream.streamId < session.streamId

theorem runConnection_numbered (hle : registrations events ≤ 2 ^ 30) :
    Numbered (runConnection lib headerTableSize events).session := by
  have hids := runAnswering_ids lib 0 headerTableSize events
  have hnext := hids.next
  have hnodup := hids.nodup (by omega)
  have hbelow := hids.below
  unfold Answering.known at hnodup hbelow
  rw [runAnswering_connection] at hnext hnodup hbelow
  constructor
  · rw [List.map_append] at hnodup
    exact hnodup.of_append_right
  · intro stream hstream
    have hlt := hbelow stream (List.mem_append_right _ hstream)
    omega

end Ids

/-! ## Updates for dead streams -/

/-- No update for a stream is queued. -/
def Quiet (session : Session) (streamId : Nat) : Prop :=
  ∀ update ∈ windowUpdates session.pendingWire, update.1 ≠ streamId

/-- No update is queued for a stream that a frame ends: its own stream, or one
without a response when the frame is a GOAWAY.  A registration finds an id
that a frame can carry. -/
def EndsQuietly (lib : DecoderLib) (connection : Connection) : ConnectionEvent → Prop
  | .reader (.dispatch frame) =>
    (∀ stream, findStream connection.session frame.streamId = some stream →
      stream.isEnded = false →
      frame.closes = true ∨ stops lib connection.session stream frame = true →
      Quiet connection.session stream.streamId) ∧
    (frame.type = 0x7 → ∀ stream ∈ Slots.entries connection.session.streams,
      stream.isEnded = false → stream.numHeaders = 0 → Quiet connection.session stream.streamId)
  | .register _ _ => connection.session.streamId < 2 ^ 31
  | _ => True

/-- How a frame can end a stream. -/
theorem readerDispatch_ends_stream {lib : DecoderLib} {session : Session} {frame : Frame} {slot : Nat}
    {stream after : Stream} (hslot : streamAt session slot = some stream)
    (hafter : streamAt (readerDispatch lib session frame) slot = some after)
    (hopen : stream.isEnded = false) (hended : after.isEnded = true) :
    (frame.isStreamScoped = true ∧ findStream session frame.streamId = some stream ∧
      after = streamAfter lib session stream frame ∧
      (frame.closes = true ∨ stops lib session stream frame = true)) ∨
    (frame.type = 0x7 ∧ stream.numHeaders = 0) := by
  have hsame : ∀ other : Session, other.streams = session.streams →
      streamAt other slot ≠ some after := by
    intro other hstreams hother
    rw [streamAt_of_streams hstreams, hslot] at hother
    cases hother
    rw [hopen] at hended
    cases hended
  by_cases hscoped : frame.isStreamScoped = true
  · cases hfind : findStream session frame.streamId with
    | none =>
      rw [readerDispatch_unknown lib hscoped hfind] at hafter
      exact absurd hafter (hsame _ (handleSessionFrame_handlerKeeps session frame).streams)
    | some found =>
      left
      rw [streamAt, readerDispatch_streams_found lib hscoped hfind] at hafter
      rcases Slots.getElem?_replace (a := streamAfter lib session found frame) hfind slot with
        hkept | ⟨hbefore, hreplaced⟩
      · rw [hkept] at hafter
        exact absurd hafter (hsame session rfl)
      · rw [hreplaced] at hafter
        have hfound : found = stream := by
          rw [streamAt, hbefore] at hslot
          exact Option.some.inj hslot
        subst hfound
        have heq : after = streamAfter lib session found frame := (Option.some.inj hafter).symm
        refine ⟨hscoped, rfl, heq, ?_⟩
        rw [heq, streamAfter_isEnded, hopen, Bool.false_or, Bool.or_eq_true] at hended
        exact hended
  · have hacknowledged :
        (acknowledgeFrame (handleSessionFrame session frame) frame).streams = session.streams :=
      (acknowledged_keeps session frame).1
    rw [readerDispatch, if_neg hscoped] at hafter
    dsimp only at hafter
    split at hafter
    · rename_i hgoaway
      right
      rw [streamAt_failAllStreams, streamAt_of_streams hacknowledged, hslot] at hafter
      have heq : failStream _ true stream = after := Option.some.inj hafter
      refine ⟨hgoaway, ?_⟩
      by_contra hanswered
      rw [failStream, if_neg (by simp [hanswered])] at heq
      rw [← heq, hopen] at hended
      cases hended
    · exact absurd hafter (hsame _ hacknowledged)

/-- A frame earns an update for its own stream, and only when this stays
open. -/
theorem earned_update {lib : DecoderLib} {session : Session} (hrequests : RequestsOnly session)
    {frame : Frame} {streamId increment : Nat}
    (h : .windowUpdate streamId increment ∈ earned lib session frame) :
    ∃ stream, frame.isStreamScoped = true ∧ findStream session frame.streamId = some stream ∧
      stream.streamId = streamId ∧ (streamAfter lib session stream frame).isEnded = false := by
  unfold earned at h
  split at h
  · rename_i hscoped
    cases hfind : findStream session frame.streamId with
    | none =>
      rw [hfind] at h
      cases h
    | some stream =>
      rw [hfind] at h
      have hid : stream.streamId = frame.streamId := (Slots.mem_of_find hfind).2
      rcases List.mem_append.mp h with hupdate | hreset
      · have hsome := Option.mem_toList.mp hupdate
        obtain ⟨increment', heq⟩ := streamUpdate_eq hsome
        refine ⟨stream, hscoped, rfl, ?_, ?_⟩
        · cases heq
          exact hid
        · have hne := streamId_ne_zero hrequests hfind
          unfold streamUpdate at hsome
          split at hsome
          · cases hsome
          · rename_i halive
            rw [readingAfter_dead lib session (hid ▸ hne), Bool.not_eq_true] at halive
            exact halive
      · have heq := resetReply_eq (Option.mem_toList.mp hreset)
        cases heq
  · have hack := isAck_acknowledgement (Option.mem_toList.mp h)
    cases hack

/-- A stream that is dead for good: none with its id is open, no update for
it is queued, and its id is not given out again. -/
structure Buried (streamId : Nat) (state : Answering) : Prop where
  ended : ∀ stream ∈ Slots.entries state.connection.session.streams,
    stream.streamId = streamId → stream.isEnded = true
  queue : ∀ increment, .windowUpdate streamId increment ∉ state.replies.queued
  used : streamId < state.connection.session.streamId

theorem finishCompletion_isEnded (stream : Stream) :
    (finishCompletion stream).isEnded = stream.isEnded := by
  unfold finishCompletion
  split
  · rfl
  · dsimp only
    split <;> rfl

theorem stepAnswering_buried {lib : DecoderLib} {filler : UInt8} {streamId : Nat}
    {state : Answering} (h : Buried streamId state)
    (hrequests : RequestsOnly state.connection.session) {event : ConnectionEvent}
    (hids : ∀ decompress contract, event = .register decompress contract →
      state.connection.session.streamId < 2 ^ 31) :
    Buried streamId (stepAnswering lib filler state event) where
  ended := by
    refine stepConnection_every (P := fun stream => stream.streamId = streamId →
        stream.isEnded = true) lib h.ended (fun frame _ stream _ hstream hid => ?_)
      (fun session onlyPending stream hstream hid => ?_) (fun decompress contract _ hid => ?_)
      (fun slot _ _ stream _ hstream hid => ?_)
    · rw [streamAfter_streamId] at hid
      rw [streamAfter_isEnded, hstream hid]
      rfl
    · rw [(failStream_sameRequest session onlyPending stream).streamId] at hid
      rw [failStream_ended session onlyPending (hstream hid)]
      exact hstream hid
    · exact absurd (hid : state.connection.session.streamId = streamId) (Nat.ne_of_gt h.used)
    · rw [(finishCompletion_sameRequest stream).streamId] at hid
      rw [finishCompletion_isEnded]
      exact hstream hid
  queue := by
    intro increment
    cases event with
    | reader action =>
      cases action with
      | dispatch frame =>
        intro hmem
        rcases List.mem_append.mp hmem with hold | hnew
        · exact h.queue increment hold
        · obtain ⟨stream, -, hfind, hid, hopen⟩ := earned_update hrequests hnew
          rw [streamAfter_isEnded, h.ended stream (Slots.mem_of_find hfind).1 hid] at hopen
          cases hopen
      | flush => exact List.not_mem_nil
    | lost error => exact h.queue increment
    | register decompress contract => exact h.queue increment
    | checkCompletion slot => exact h.queue increment
    | finishCompletion slot => exact h.queue increment
    | unregister slot => exact h.queue increment
  used := by
    rw [stepAnswering, stepConnection_streamId]
    cases event with
    | register decompress contract =>
      have hlt := hids decompress contract rfl
      have hused := h.used
      show streamId < (state.connection.session.streamId + 2) % 0x100000000
      omega
    | reader action => exact h.used
    | lost error => exact h.used
    | checkCompletion slot => exact h.used
    | finishCompletion slot => exact h.used
    | unregister slot => exact h.used

/-- A frame that ends a stream buries it, if no update for it was queued. -/
theorem stepAnswering_buries {lib : DecoderLib} {filler : UInt8} {state : Answering}
    (hwire : OnWire state) (hfits : ∀ reply ∈ state.replies.queued, reply.Fits)
    (hrequests : RequestsOnly state.connection.session) {frame : Frame}
    (hquiet : EndsQuietly lib state.connection (.reader (.dispatch frame)))
    (hnumbered : Numbered (readerDispatch lib state.connection.session frame)) {slot : Nat}
    {stream after : Stream} (hslot : streamAt state.connection.session slot = some stream)
    (hafter : streamAt (readerDispatch lib state.connection.session frame) slot = some after)
    (hopen : stream.isEnded = false) (hended : after.isEnded = true) :
    Buried stream.streamId (stepAnswering lib filler state (.reader (.dispatch frame))) := by
  have hmem : stream ∈ Slots.entries state.connection.session.streams :=
    Slots.mem_entries.mpr (List.mem_of_getElem? (Option.join_eq_some_iff.mp hslot))
  have hmem' : after ∈ Slots.entries
      (readerDispatch lib state.connection.session frame).streams :=
    Slots.mem_entries.mpr (List.mem_of_getElem? (Option.join_eq_some_iff.mp hafter))
  have hchange := readerDispatch_streamAt lib state.connection.session frame slot
  have hid : after.streamId = stream.streamId := by
    rw [hslot, hafter] at hchange
    cases hchange with
    | some hchange =>
      cases hchange with
      | same => rfl
      | handled _ => exact streamAfter_streamId lib _ stream frame
      | failed session => exact (failStream_sameRequest session true stream).streamId
  have hways := readerDispatch_ends_stream hslot hafter hopen hended
  have hqueue : Quiet state.connection.session stream.streamId := by
    rcases hways with ⟨-, hfind, -, hends⟩ | ⟨hgoaway, hpending⟩
    · exact hquiet.1 stream hfind hopen hends
    · exact hquiet.2 hgoaway stream hmem hopen hpending
  constructor
  · intro other hother hsame
    have heq : other = after := hnumbered.distinct.eq_of_key hother hmem' (hsame.trans hid.symm)
    rw [heq]
    exact hended
  · intro increment hqueued
    rcases List.mem_append.mp hqueued with hold | hnew
    · rw [Quiet, hwire.queued, windowUpdates_wireOctets hfits] at hqueue
      exact hqueue (stream.streamId, increment) (List.mem_filterMap.mpr ⟨_, hold, rfl⟩) rfl
    · obtain ⟨found, hscoped, hfind, hfound, hstays⟩ := earned_update hrequests hnew
      rcases hways with ⟨-, hfind', heq, -⟩ | ⟨hgoaway, -⟩
      · rw [hfind] at hfind'
        cases hfind'
        rw [← heq, hended] at hstays
        cases hstays
      · simp [Frame.isStreamScoped, hgoaway] at hscoped
  · rw [← hid]
    exact hnumbered.below after hmem'

/-- The octets that a write behind a run hands over. -/
def lastWrite (lib : DecoderLib) (headerTableSize : Nat) (events : List ConnectionEvent) : Bytes :=
  (flushReaderWrites (runConnection lib headerTableSize events)).sent.drop
    (runConnection lib headerTableSize events).sent.length

/-- A write behind a run hands over an update for a stream that a frame of the
run has ended, reset or cancelled. -/
def TrailingUpdate (lib : DecoderLib) (headerTableSize : Nat) (events : List ConnectionEvent) :
    Prop :=
  ∃ before frame after slot stream dead, events = before ++ .reader (.dispatch frame) :: after ∧
    streamAt (runConnection lib headerTableSize before).session slot = some stream ∧
    stream.isEnded = false ∧
    streamAt (readerDispatch lib (runConnection lib headerTableSize before).session frame) slot =
      some dead ∧
    dead.isEnded = true ∧
    ∃ update ∈ windowUpdates (lastWrite lib headerTableSize events),
      update.1 = stream.streamId

section Trailing

variable {lib : DecoderLib} {headerTableSize : Nat} {pieces : List Piece}
  {events : List ConnectionEvent}

theorem windowUpdates_lastWrite (hreads : Reads pieces (events ++ [.reader .flush])) :
    windowUpdates (lastWrite lib headerTableSize events) =
      ((runAnswering lib 0 headerTableSize events).replies.queued ++
        (dueUpdate (runConnection lib headerTableSize events).session).toList).filterMap
          Reply.update? := by
  have hwire := runAnswering_onWire lib 0 headerTableSize events
  have hqueued := hwire.queued
  rw [runAnswering_connection] at hqueued
  have hfits : ∀ reply ∈ (runAnswering lib 0 headerTableSize events).replies.all, reply.Fits :=
    runAnswering_fits hreads.of_append
  have hsent := (flushReaderWrites_sent (runConnection lib headerTableSize events)).1
  rw [lastWrite, hsent, List.append_assoc, List.drop_left, hqueued, ← wireOctets_append]
  refine windowUpdates_wireOctets fun reply hreply => ?_
  rcases List.mem_append.mp hreply with hold | hdue
  · exact hfits reply (List.mem_append_right _ hold)
  · exact eventReplies_fits hreads hdue

/-- From the frame that ends a stream to the end of a run, the stream stays
buried. -/
theorem runAnswering_buried (hreads : Reads pieces events)
    (hmeets : Meets (stepConnection lib) (EndsQuietly lib) (connect headerTableSize) events)
    {before after : List ConnectionEvent} {frame : Frame}
    (hevents : events = before ++ .reader (.dispatch frame) :: after) {slot : Nat}
    {stream dead : Stream}
    (hslot : streamAt (runConnection lib headerTableSize before).session slot = some stream)
    (hopen : stream.isEnded = false)
    (hdead : streamAt (readerDispatch lib (runConnection lib headerTableSize before).session frame)
      slot = some dead) (hended : dead.isEnded = true) :
    Buried stream.streamId (runAnswering lib 0 headerTableSize events) := by
  subst hevents
  induction after using List.reverseRecOn with
  | nil =>
    obtain ⟨hbefore, hquiet⟩ := meets_snoc.mp hmeets
    have hnumbered : Numbered (runConnection lib headerTableSize
        (before ++ [.reader (.dispatch frame)])).session :=
      runConnection_numbered (registrations_le (fun _ _ _ => id) hmeets)
    have hstate : (runAnswering lib 0 headerTableSize before).connection =
        runConnection lib headerTableSize before := runAnswering_connection before
    rw [runConnection_snoc] at hnumbered
    rw [← hstate] at hslot hdead
    rw [runAnswering_snoc]
    have hfits : ∀ reply ∈ (runAnswering lib 0 headerTableSize before).replies.all, reply.Fits :=
      runAnswering_fits hreads.of_append
    refine stepAnswering_buries (runAnswering_onWire lib 0 headerTableSize before)
      (fun reply hreply => hfits reply (List.mem_append_right _ hreply))
      (runAnswering_batches lib 0 headerTableSize before).requests ?_ ?_ hslot hdead hopen hended
    · rw [hstate]
      exact hquiet
    · rw [hstate]
      exact hnumbered
  | append_singleton after event ih =>
    have hsnoc : before ++ .reader (.dispatch frame) :: (after ++ [event]) =
        (before ++ .reader (.dispatch frame) :: after) ++ [event] := by simp
    rw [hsnoc] at hreads hmeets ⊢
    obtain ⟨hbefore, hlast⟩ := meets_snoc.mp hmeets
    rw [runAnswering_snoc]
    refine stepAnswering_buried (ih hreads.of_append hbefore)
      (runAnswering_batches lib 0 headerTableSize _).requests fun decompress contract hevent => ?_
    rw [runAnswering_connection]
    rw [hevent] at hlast
    exact hlast

/-- When no stream is ended while an update for it is queued, no write of the
run hands over an update for a dead stream. -/
theorem runConnection_noTrailingUpdate (lib : DecoderLib) (headerTableSize : Nat)
    {pieces : List Piece} {events : List ConnectionEvent} (hreads : Reads pieces events)
    (hmeets : Meets (stepConnection lib) (EndsQuietly lib) (connect headerTableSize) events)
    {earlier later : List ConnectionEvent} (hwrite : events = earlier ++ .reader .flush :: later) :
    ¬TrailingUpdate lib headerTableSize earlier := by
  rintro ⟨before, frame, after, slot, stream, dead, hevents, hslot, hopen, hdead, hended, update,
    hupdate, hid⟩
  have hsplit : events = (earlier ++ [.reader .flush]) ++ later := by simp [hwrite]
  rw [hsplit] at hreads hmeets
  have hflush := hreads.of_append
  have hearlier := (meets_append.mp (meets_append.mp hmeets).1).1
  have hburied := runAnswering_buried hflush.of_append hearlier hevents hslot hopen hdead hended
  rw [windowUpdates_lastWrite hflush] at hupdate
  obtain ⟨reply, hreply, hsome⟩ := List.mem_filterMap.mp hupdate
  have heq : reply = .windowUpdate stream.streamId update.2 := by
    cases reply with
    | windowUpdate streamId increment =>
      cases hsome
      rw [← hid]
    | settingsAck => cases hsome
    | pingAck data => cases hsome
    | rstStream streamId => cases hsome
  rcases List.mem_append.mp hreply with hold | hdue
  · exact hburied.queue update.2 (heq ▸ hold)
  · have hmem : stream ∈ Slots.entries (runConnection lib headerTableSize before).session.streams :=
      Slots.mem_entries.mpr (List.mem_of_getElem? (Option.join_eq_some_iff.mp hslot))
    have hrequests := (runAnswering_batches lib 0 headerTableSize before).requests
    rw [runAnswering_connection] at hrequests
    have hodd := (hrequests.streams stream hmem).1
    have hsome := Option.mem_toList.mp hdue
    unfold dueUpdate at hsome
    split at hsome
    · rw [heq] at hsome
      have hzero : 0 = stream.streamId := by
        injection hsome with hsome
        injection hsome
      omega
    · cases hsome

end Trailing

theorem quiet_of_nil {session : Session} (h : session.pendingWire = []) (streamId : Nat) :
    Quiet session streamId := by
  intro update hupdate
  rw [h, windowUpdates, frameCutter.all_nil] at hupdate
  cases hupdate

theorem endsQuietly_of_nil {connection : Connection} (h : connection.session.pendingWire = [])
    (lib : DecoderLib) (frame : Frame) :
    EndsQuietly lib connection (.reader (.dispatch frame)) :=
  ⟨fun stream _ _ _ => quiet_of_nil h stream.streamId,
    fun _ stream _ _ _ => quiet_of_nil h stream.streamId⟩

/-- As much DATA as one read can hold, a little more of it, and the end of the
stream. -/
def creditFrame : Frame := ⟨0x0, 0, 1, List.replicate 16375 0⟩
def earningFrame : Frame := ⟨0x0, 0, 1, List.replicate 10 0⟩
def endingFrame : Frame := ⟨0x0, 0x1, 1, []⟩

theorem creditFrame_fits : creditFrame.Fits := by
  refine ⟨?_, by decide⟩
  rw [creditFrame, List.length_replicate]
  decide

theorem creditFrame_encoded : ([creditFrame].flatMap Frame.encode).length = 16384 := by
  rw [List.flatMap_singleton, length_encode, creditFrame, List.length_replicate]

def creditBatch : FrameBatch :=
  ⟨[creditFrame], List.forall_mem_singleton.mpr creditFrame_fits,
    creditFrame_encoded ▸ Nat.succ_pos _, Nat.le_of_eq creditFrame_encoded⟩

def earningBatch : FrameBatch :=
  ⟨[earningFrame], by decide +kernel, by decide +kernel, by decide +kernel⟩

def endingBatch : FrameBatch :=
  ⟨[endingFrame], by decide +kernel, by decide +kernel, by decide +kernel⟩

def lastBatch : FrameBatch :=
  ⟨[earningFrame, endingFrame], by decide +kernel, by decide +kernel, by decide +kernel⟩

/-- The update is written before the end of the stream comes. -/
theorem runConnection_noTrailingUpdate_separate :
    let events : List ConnectionEvent :=
      [.register 0 none, .reader (.dispatch creditFrame), .reader .flush,
        .reader (.dispatch earningFrame), .reader .flush, .reader (.dispatch endingFrame)]
    (runConnection noDecoders 4096 events).sent = wireOctets [.windowUpdate 1 16385] ∧
      ¬TrailingUpdate noDecoders 4096 events := by
  intro events
  have hreads : Reads ([creditBatch, earningBatch, endingBatch].map FrameBatch.piece)
      (events ++ [.reader .flush]) := by
    rw [Reads, (readerTrace_batches _).2]
    exact List.prefix_refl _
  have hmeets : Meets (stepConnection noDecoders) (EndsQuietly noDecoders) (connect 4096)
      (events ++ [.reader .flush]) := by
    refine ⟨?_, endsQuietly_of_nil ?_ _ _, trivial, endsQuietly_of_nil ?_ _ _, trivial,
      endsQuietly_of_nil ?_ _ _, trivial, trivial⟩
    · show (connect 4096).session.streamId < 2 ^ 31
      decide +kernel
    · decide +kernel
    · exact (flushReaderWrites_sent _).2
    · exact (flushReaderWrites_sent _).2
  exact ⟨by decide +kernel, runConnection_noTrailingUpdate noDecoders 4096 hreads hmeets rfl⟩

/-- The update is queued when the end of the stream comes in the same read. -/
theorem runConnection_trailingUpdate :
    let events : List ConnectionEvent :=
      [.register 0 none, .reader (.dispatch creditFrame), .reader .flush,
        .reader (.dispatch earningFrame), .reader (.dispatch endingFrame)]
    Reads ([creditBatch, lastBatch].map FrameBatch.piece) (events ++ [.reader .flush]) ∧
      TrailingUpdate noDecoders 4096 events := by
  intro events
  have hreads : Reads ([creditBatch, lastBatch].map FrameBatch.piece)
      (events ++ [.reader .flush]) := by
    rw [Reads, (readerTrace_batches _).2]
    exact List.prefix_refl _
  refine ⟨hreads, ?_⟩
  have hopen : (streamAt (runConnection noDecoders 4096 (events.take 4)).session 0).map
      (fun stream => (stream.streamId, stream.isEnded)) = some (1, false) := by decide +kernel
  have hended : (streamAt (readerDispatch noDecoders
      (runConnection noDecoders 4096 (events.take 4)).session endingFrame) 0).map
        Stream.isEnded = some true := by decide +kernel
  obtain ⟨stream, hslot, hstream⟩ := Option.map_eq_some_iff.mp hopen
  obtain ⟨dead, hdead, hdeadEnded⟩ := Option.map_eq_some_iff.mp hended
  rw [Prod.mk.injEq] at hstream
  refine ⟨events.take 4, endingFrame, [], 0, stream, dead, rfl, hslot, hstream.2, hdead,
    hdeadEnded, (1, 16385), ?_, hstream.1.symm⟩
  rw [windowUpdates_lastWrite hreads]
  decide +kernel

/-! ## Credit of open streams -/

/-- The sum of the increments for a stream among some octets. -/
def streamCredit (streamId : Nat) (octets : Bytes) : Nat :=
  Ledger.grantedTo streamId (windowUpdates octets)

/-- The credit that the ledger of a session holds for a stream. -/
def pendingCredit (streamId : Nat) (session : Session) : Nat :=
  Ledger.heldFor streamId session.pendingStreamWindows

/-- The bytes of a DATA frame of a registered stream. -/
def eventBytesOn (streamId : Nat) (connection : Connection) : ConnectionEvent → Nat
  | .reader (.dispatch frame) =>
    if frame.streamId = streamId ∧ (findStream connection.session streamId).isSome then
      dataBytes frame
    else 0
  | _ => 0

/-- The bytes of all DATA frames received on a stream. -/
def dataReceivedOn (lib : DecoderLib) (streamId : Nat) :
    Connection → List ConnectionEvent → Nat
  | _, [] => 0
  | connection, event :: events =>
    eventBytesOn streamId connection event +
      dataReceivedOn lib streamId (stepConnection lib connection event) events

theorem dataReceivedOn_snoc (lib : DecoderLib) (streamId : Nat) (connection : Connection)
    (events : List ConnectionEvent) (event : ConnectionEvent) :
    dataReceivedOn lib streamId connection (events ++ [event]) =
      dataReceivedOn lib streamId connection events +
        eventBytesOn streamId (run (stepConnection lib) connection events) event := by
  induction events generalizing connection with
  | nil => exact Nat.add_comm _ _
  | cons first events ih =>
    rw [List.cons_append, dataReceivedOn, ih, dataReceivedOn, run_cons, Nat.add_assoc]

/-- A DATA frame that leaves its stream open finds an entry of the stream in
the ledger, or room for one.  A registration finds an id that a frame can
carry. -/
def Roomy (lib : DecoderLib) (connection : Connection) : ConnectionEvent → Prop
  | .reader (.dispatch frame) =>
    ∀ stream, findStream connection.session frame.streamId = some stream →
      stream.isEnded = false → frame.closes = false →
      stops lib connection.session stream frame = false → dataBytes frame > 0 →
      findPendingWindow connection.session frame.streamId ≠ none ∨
        connection.session.pendingStreamWindows.length < MAX_CONCURRENT_STREAMS_PER_SESSION
  | .register _ _ => connection.session.streamId < 2 ^ 31
  | _ => True

/-- The account of every open stream is what was received on it, and ids that
are not given out yet have nothing. -/
structure CreditInv (ledger : Ledger) (received : Nat → Nat) (session : Session) : Prop where
  accounts : EveryStream (fun stream => stream.isEnded = false →
    ledger.account stream.streamId = received stream.streamId) session
  fresh : ∀ streamId, session.streamId ≤ streamId →
    ledger.account streamId = 0 ∧ received streamId = 0

section Credit

variable {lib : DecoderLib} {headerTableSize : Nat} {pieces : List Piece}
  {events : List ConnectionEvent} {connection : Connection} {ledger : Ledger}
  {received : Nat → Nat}

theorem place_of_roomy {session : Session} (hstreams : session.pendingStreamWindows = ledger.streams)
    {streamId : Nat}
    (h : findPendingWindow session streamId ≠ none ∨
      session.pendingStreamWindows.length < MAX_CONCURRENT_STREAMS_PER_SESSION) :
    ledger.place streamId ≠ none := by
  rw [findPendingWindow, hstreams] at h
  unfold Ledger.place
  split
  · exact Option.some_ne_none _
  · rename_i hnone
    have hroom := h.resolve_left (not_not.mpr hnone)
    rw [if_neg (by omega)]
    exact Option.some_ne_none _

/-- A frame of a registered stream. -/
theorem CreditInv.dispatch (h : CreditInv ledger received connection.session)
    (hnumbered : Numbered connection.session) (hrequests : RequestsOnly connection.session)
    (hstreams : connection.session.pendingStreamWindows = ledger.streams) {frame : Frame}
    {stream : Stream} (hscoped : frame.isStreamScoped = true)
    (hfind : findStream connection.session frame.streamId = some stream)
    (hroomy : Roomy lib connection (.reader (.dispatch frame))) :
    CreditInv (ledger.replenish frame.streamId (readingAfter lib connection.session stream frame))
      (fun streamId => received streamId +
        eventBytesOn streamId connection (.reader (.dispatch frame)))
      (readerDispatch lib connection.session frame) := by
  obtain ⟨hmem, hid⟩ := Slots.mem_of_find hfind
  have hafter : (streamAfter lib connection.session stream frame).streamId = frame.streamId :=
    (streamAfter_streamId lib _ stream frame).trans hid
  have hconsumed := (readingAfter_spec lib (hrequests.streams stream hmem) hfind).1
  -- the other streams see nothing of the frame
  have hother : ∀ streamId, frame.streamId ≠ streamId →
      (ledger.replenish frame.streamId
        (readingAfter lib connection.session stream frame)).account streamId =
          ledger.account streamId ∧
      eventBytesOn streamId connection (.reader (.dispatch frame)) = 0 := by
    intro streamId hne
    exact ⟨Ledger.replenish_account_other ledger hne _, if_neg fun h => hne h.1⟩
  constructor
  · intro other hentry hopen
    rw [readerDispatch_streams_found lib hscoped hfind] at hentry
    by_cases hsame : other.streamId = frame.streamId
    · have heq : other = streamAfter lib connection.session stream frame :=
        Slots.eq_of_mem_replace hafter hnumbered.distinct (fun hnone => by
          rw [findStream] at hfind
          rw [hnone] at hfind
          cases hfind) hentry hsame
      rw [heq] at hopen
      have halive := hopen
      rw [streamAfter_isEnded, Bool.or_eq_false_iff, Bool.or_eq_false_iff] at halive
      obtain ⟨⟨hbefore, hcloses⟩, hstops⟩ := halive
      have hdead : ¬((readingAfter lib connection.session stream frame).ended = true ∨
          (readingAfter lib connection.session stream frame).reset = true ∨
          (readingAfter lib connection.session stream frame).cancelStreamId ≠ 0) := by
        rw [readingAfter_dead lib _ (hid ▸ streamId_ne_zero hrequests hfind), hopen]
        exact Bool.false_ne_true
      have hevent : eventBytesOn frame.streamId connection (.reader (.dispatch frame)) =
          dataBytes frame := if_pos ⟨rfl, by rw [hfind]; rfl⟩
      rw [hsame, Ledger.replenish_account hdead, hconsumed, hevent, ← hid,
        h.accounts stream hmem hbefore]
      intro hpositive
      rw [hconsumed] at hpositive
      exact place_of_roomy hstreams (hroomy stream hfind hbefore hcloses hstops hpositive)
    · obtain ⟨haccount, hevent⟩ := hother other.streamId (Ne.symm hsame)
      have hbefore : other ∈ Slots.entries connection.session.streams := by
        refine (Slots.mem_replace hentry).resolve_left fun heq => hsame ?_
        rw [heq]
        exact hafter
      rw [haccount, hevent]
      exact h.accounts other hbefore hopen
  · intro streamId hfresh
    rw [readerDispatch_streamId] at hfresh
    have hne : frame.streamId ≠ streamId := by
      have hbelow := hnumbered.below stream hmem
      omega
    obtain ⟨haccount, hevent⟩ := hother streamId hne
    rw [haccount, hevent]
    exact h.fresh streamId hfresh

/-- An event that changes no account of a stream and brings no bytes. -/
theorem CreditInv.quiet (h : CreditInv ledger received connection.session)
    (hrequests : RequestsOnly connection.session) {event : ConnectionEvent}
    (hids : Roomy lib connection event) {after : Ledger}
    (haccount : ∀ streamId, streamId ≠ 0 → after.account streamId = ledger.account streamId)
    (hbytes : ∀ streamId, eventBytesOn streamId connection event = 0) :
    CreditInv after (fun streamId => received streamId + eventBytesOn streamId connection event)
      (stepConnection lib connection event).session := by
  have hnext := (stepConnection_requestsOnly lib hrequests event).streams
  have hopen : EveryStream (fun stream => stream.isEnded = false →
      ledger.account stream.streamId = received stream.streamId)
      (stepConnection lib connection event).session := by
    refine stepConnection_every lib h.accounts (fun frame _ stream _ hstream hopen => ?_)
      (fun session onlyPending stream hstream hopen => ?_) (fun decompress contract _ _ => ?_)
      (fun slot _ _ stream _ hstream hopen => ?_)
    · rw [streamAfter_isEnded, Bool.or_eq_false_iff, Bool.or_eq_false_iff] at hopen
      rw [streamAfter_streamId]
      exact hstream hopen.1.1
    · rw [(failStream_sameRequest session onlyPending stream).streamId]
      refine hstream (Bool.eq_false_iff.mpr fun hended => ?_)
      rw [failStream_ended session onlyPending hended, hended] at hopen
      cases hopen
    · obtain ⟨hnone, hzero⟩ := h.fresh connection.session.streamId (Nat.le_refl _)
      exact hnone.trans hzero.symm
    · rw [finishCompletion_isEnded] at hopen
      rw [(finishCompletion_sameRequest stream).streamId]
      exact hstream hopen
  constructor
  · intro stream hentry hstays
    have hodd := (hnext stream hentry).1
    rw [haccount stream.streamId (by omega), hbytes, Nat.add_zero]
    exact hopen stream hentry hstays
  · intro streamId hfresh
    have hle : connection.session.streamId ≤ streamId := by
      rw [stepConnection_streamId] at hfresh
      cases event with
      | register decompress contract =>
        have hlt : connection.session.streamId < 2 ^ 31 := hids
        have hfresh' : (connection.session.streamId + 2) % 0x100000000 ≤ streamId := hfresh
        omega
      | reader action => exact hfresh
      | lost error => exact hfresh
      | checkCompletion slot => exact hfresh
      | finishCompletion slot => exact hfresh
      | unregister slot => exact hfresh
    have hodd := hrequests.next
    rw [haccount streamId (by omega), hbytes, Nat.add_zero]
    exact h.fresh streamId hle

theorem stepConnection_creditInv (h : CreditInv ledger received connection.session)
    (hnumbered : Numbered connection.session) (hrequests : RequestsOnly connection.session)
    (hstreams : connection.session.pendingStreamWindows = ledger.streams) {event : ConnectionEvent}
    (hroomy : Roomy lib connection event) :
    CreditInv (stepLedger lib connection ledger event)
      (fun streamId => received streamId + eventBytesOn streamId connection event)
      (stepConnection lib connection event).session := by
  cases event with
  | reader action =>
    cases action with
    | dispatch frame =>
      rw [stepLedger]
      by_cases hscoped : frame.isStreamScoped = true
      · rw [if_pos hscoped]
        cases hfind : findStream connection.session frame.streamId with
        | some stream => exact h.dispatch hnumbered hrequests hstreams hscoped hfind hroomy
        | none =>
          refine h.quiet hrequests hroomy (fun _ _ => rfl) (fun streamId => if_neg ?_)
          rintro ⟨rfl, hsome⟩
          rw [hfind] at hsome
          cases hsome
      · rw [if_neg hscoped]
        refine h.quiet hrequests hroomy (fun _ _ => rfl) (fun streamId => ?_)
        rw [eventBytesOn, dataBytes_of_not_scoped hscoped, ite_self]
    | flush =>
      exact h.quiet hrequests hroomy (fun _ hid => Ledger.flush_account ledger hid)
        (fun _ => rfl)
  | lost error =>
    exact h.quiet hrequests hroomy (fun _ _ => rfl) (fun _ => rfl)
  | register decompress contract =>
    exact h.quiet hrequests hroomy (fun _ _ => rfl) (fun _ => rfl)
  | checkCompletion slot =>
    exact h.quiet hrequests hroomy (fun _ _ => rfl) (fun _ => rfl)
  | finishCompletion slot =>
    exact h.quiet hrequests hroomy (fun _ _ => rfl) (fun _ => rfl)
  | unregister slot =>
    exact h.quiet hrequests hroomy (fun _ _ => rfl) (fun _ => rfl)

theorem runConnection_creditInv (hreads : Reads pieces events)
    (hmeets : Meets (stepConnection lib) (Roomy lib) (connect headerTableSize) events) :
    CreditInv (runLedger lib headerTableSize events)
      (fun streamId => dataReceivedOn lib streamId (connect headerTableSize) events)
      (runConnection lib headerTableSize events).session := by
  induction events using List.reverseRecOn with
  | nil =>
    constructor
    · exact connect_every headerTableSize
    · exact fun streamId _ => ⟨rfl, rfl⟩
  | append_singleton events event ih =>
    obtain ⟨hbefore, hroomy⟩ := meets_snoc.mp hmeets
    have hflow := runBoth_flowInv lib headerTableSize hreads.of_append
    have hnumbered : Numbered (runConnection lib headerTableSize events).session :=
      runConnection_numbered (registrations_le (fun _ _ _ => id) hbefore)
    have hrequests := hflow.requests
    have hstreams := hflow.refines.streams
    rw [runBoth_fst] at hrequests hstreams
    have hstep := stepConnection_creditInv (ih hreads.of_append hbefore) hnumbered hrequests
      hstreams hroomy
    rw [runConnection_snoc, runLedger, runBoth_snoc]
    simp only [dataReceivedOn_snoc]
    rw [stepBoth, runBoth_fst]
    exact hstep

end Credit

/-- When every DATA frame finds an entry for its credit, or room for one, the
updates queued for an open stream and the credit held for it are the bytes it
received. -/
theorem runConnection_streamCredit (lib : DecoderLib) (headerTableSize : Nat) {pieces : List Piece}
    {events : List ConnectionEvent} (hreads : Reads pieces events)
    (hmeets : Meets (stepConnection lib) (Roomy lib) (connect headerTableSize) events) :
    let connection := runConnection lib headerTableSize events
    ∀ stream ∈ Slots.entries connection.session.streams, stream.isEnded = false →
      streamCredit stream.streamId (queuedOctets connection) +
          pendingCredit stream.streamId connection.session =
        dataReceivedOn lib stream.streamId (connect headerTableSize) events := by
  intro connection stream hstream hopen
  have hrefines := (runBoth_flowInv lib headerTableSize hreads).refines
  rw [runBoth_fst] at hrefines
  have haccount := (runConnection_creditInv hreads hmeets).accounts stream hstream hopen
  rw [streamCredit, pendingCredit, queuedOctets, hrefines.wire.updates, hrefines.streams]
  exact haccount

theorem runConnection_streamCredit_data :
    let events : List ConnectionEvent :=
      [.register 0 none, .reader (.dispatch dataFrame), .reader .flush]
    let connection := runConnection noDecoders 4096 events
    ∀ stream ∈ Slots.entries connection.session.streams, stream.isEnded = false →
      streamCredit stream.streamId (queuedOctets connection) +
          pendingCredit stream.streamId connection.session =
        dataReceivedOn noDecoders stream.streamId (connect 4096) events := by
  intro events
  have hreads : Reads [dataPiece] events := by
    rw [Reads, readerTrace_dataPiece]
    exact List.prefix_refl _
  refine runConnection_streamCredit noDecoders 4096 hreads ⟨?_, ?_, trivial, trivial⟩
  · show (connect 4096).session.streamId < 2 ^ 31
    decide
  · intro stream _ _ _ _ _
    right
    decide

/-- One byte of DATA for a request, in a read of its own. -/
def byteFrame (request : Nat) : Frame := ⟨0x0, 0, 2 * request + 1, [0]⟩

/-- A request that is given up after the first byte of its response. -/
def givenUp (request : Nat) : List ConnectionEvent :=
  [.register 0 none, .reader (.dispatch (byteFrame request)), .reader .flush, .unregister 0]

/-- The connection and the ledger behind requests that were given up: no
stream is left, but each one has its entry. -/
structure Stale (requests : Nat) (both : Connection × Ledger) : Prop where
  streams : both.1.session.streams = List.replicate MAX_CONCURRENT_STREAMS_PER_SESSION none
  next : both.1.session.streamId = 2 * requests + 1
  entries : both.2.streams.length = requests
  below : ∀ entry ∈ both.2.streams, entry.streamId < 2 * requests + 1
  grants : ∀ grant ∈ both.2.grants, grant.1 < 2 * requests + 1

/-- The stream of a request for which the library collects. -/
def collector (streamId : Nat) : Stream := newStream streamId (some (buildResponseSink 0 none))

/-- The first byte leaves the stream of a collector open. -/
theorem streamAfter_collector (session : Session) (request : Nat) :
    (streamAfter noDecoders session (collector (2 * request + 1))
      (byteFrame request)).isEnded = false := by
  have hcloses : (byteFrame request).closes = false := by
    simp [Frame.closes, byteFrame, Frame.endStream]
  have hstops : stops noDecoders session (collector (2 * request + 1)) (byteFrame request) =
      false := by
    simp [stops, handleStreamFrame, finishFrame, deliverHeaders, byteFrame, appendStreamPayload,
      collector, newStream, buildResponseSink, deliverStreamPayload, feedStreamDecompressor,
      consumeResponseBody, bufferStreamPayload, takeResponseCancellation, Frame.endStream]
  rw [streamAfter_isEnded, hcloses, hstops]
  rfl

section GivenUp

variable {both : Connection × Ledger} {requests : Nat}

/-- A stream is registered on a connection without streams. -/
theorem Stale.register (h : Stale requests both) (hrequests : requests ≤ 256) :
    let opened := stepBoth noDecoders both (.register 0 none)
    opened.1.session.streams = some (collector (2 * requests + 1)) :: List.replicate 255 none ∧
      opened.1.session.streamId = 2 * requests + 3 ∧ opened.2 = both.2 := by
  have hslot : both.1.session.streams.findIdx? Option.isNone = some 0 := by
    rw [h.streams]
    rfl
  refine ⟨?_, ?_, rfl⟩
  · show (registerStream both.1.session _).streams = _
    rw [registerStream, hslot, h.streams, h.next]
    rfl
  · show (stepConnection noDecoders both.1 _).session.streamId = _
    rw [stepConnection_streamId, nextStreamId, h.next]
    omega

theorem findStream_collector {session : Session} {streamId : Nat} {rest : List (Option Stream)}
    (h : session.streams = some (collector streamId) :: rest) :
    findStream session streamId = some (collector streamId) := by
  rw [findStream, Slots.find, h, Slots.entries_some_cons]
  exact List.find?_cons_of_pos (p := fun stream : Stream => stream.streamId = streamId)
    (decide_eq_true rfl)

theorem isRequest_collector (request : Nat) : IsRequest (collector (2 * request + 1)) :=
  ⟨by show (2 * request + 1) % 2 = 1; omega, rfl⟩

/-- The byte of a collector is credited where there is a place. -/
theorem reading_collector {session : Session} {request : Nat}
    (hfind : findStream session (2 * request + 1) = some (collector (2 * request + 1))) :
    let reading := readingAfter noDecoders session (collector (2 * request + 1)) (byteFrame request)
    ¬(reading.ended = true ∨ reading.reset = true ∨ reading.cancelStreamId ≠ 0) ∧
      reading.consumedBytes = 1 := by
  intro reading
  have hid : (collector (2 * request + 1)).streamId ≠ 0 := Nat.succ_ne_zero _
  constructor
  · rw [readingAfter_dead noDecoders session hid, streamAfter_collector]
    exact Bool.false_ne_true
  · exact (readingAfter_spec noDecoders (isRequest_collector request) hfind).1

/-- What the first byte of a collector does to the ledger. -/
theorem stepBoth_byte {streams : List (Option Stream)}
    (hstreams : both.1.session.streams = some (collector (2 * requests + 1)) :: streams) :
    let credited := stepBoth noDecoders both (.reader (.dispatch (byteFrame requests)))
    (∃ stream, credited.1.session.streams = some stream :: streams ∧
      stream.streamId = 2 * requests + 1 ∧ stream.isEnded = false) ∧
      credited.1.session.streamId = both.1.session.streamId ∧
      credited.2.streams = (both.2.credit (2 * requests + 1) 1).streams ∧
      credited.2.grants = (both.2.credit (2 * requests + 1) 1).grants := by
  intro credited
  have hfind : findStream both.1.session (2 * requests + 1) =
      some (collector (2 * requests + 1)) := findStream_collector hstreams
  obtain ⟨halive, hconsumed⟩ := reading_collector hfind
  have hledger : credited.2 = both.2.replenish (2 * requests + 1)
      (readingAfter noDecoders both.1.session (collector (2 * requests + 1))
        (byteFrame requests)) := by
    show stepLedger noDecoders both.1 both.2 (.reader (.dispatch (byteFrame requests))) = _
    have hscoped : (byteFrame requests).isStreamScoped = true := rfl
    have hid : (byteFrame requests).streamId = 2 * requests + 1 := rfl
    rw [stepLedger, if_pos hscoped, hid, hfind]
  have hspec := Ledger.replenish_alive both.2 (2 * requests + 1) halive (by omega)
  rw [← hledger, hconsumed] at hspec
  refine ⟨⟨_, ?_, streamAfter_streamId noDecoders both.1.session _ (byteFrame requests),
    streamAfter_collector both.1.session requests⟩, ?_, hspec⟩
  · show (readerDispatch noDecoders both.1.session (byteFrame requests)).streams = _
    rw [readerDispatch_streams_found noDecoders rfl hfind, hstreams]
    exact if_pos rfl
  · exact readerDispatch_streamId noDecoders both.1.session (byteFrame requests)

/-- One more request is given up. -/
theorem Stale.givenUp (h : Stale requests both) (hrequests : requests < 256) :
    Stale (requests + 1) (run (stepBoth noDecoders) both (givenUp requests)) := by
  obtain ⟨hopened, hnext, hledger⟩ := h.register (Nat.le_of_lt hrequests)
  obtain ⟨⟨stream, hcredited, -, -⟩, hid, hstreams, hgrants⟩ := stepBoth_byte hopened
  have hnew : both.2.credit (2 * requests + 1) 1 =
      { both.2 with streams := both.2.streams ++ [⟨2 * requests + 1, 1⟩] } :=
    Ledger.credit_new (fun entry hentry => Nat.ne_of_lt (h.below entry hentry))
      (by rw [h.entries]; exact hrequests) (by decide)
  rw [hledger, hnew] at hstreams hgrants
  rw [Http2.givenUp, run_cons, run_cons, run_cons, run_cons, run_nil]
  generalize stepBoth noDecoders (stepBoth noDecoders both (.register 0 none))
    (.reader (.dispatch (byteFrame requests))) = credited at *
  constructor
  · show (flushReaderWrites credited.1).session.streams.set 0 none = _
    rw [flushReaderWrites_streams, hcredited]
    rfl
  · show (stepConnection noDecoders _ (.unregister 0)).session.streamId = _
    rw [stepConnection_streamId]
    show (stepConnection noDecoders _ (.reader .flush)).session.streamId = _
    rw [stepConnection_streamId]
    show credited.1.session.streamId = _
    omega
  · show credited.2.flush.streams.length = _
    rw [Ledger.flush_streams, hstreams, List.length_append, h.entries]
    rfl
  · intro entry hentry
    have hentry' : entry ∈ credited.2.flush.streams := hentry
    rw [Ledger.flush_streams, hstreams] at hentry'
    rcases List.mem_append.mp hentry' with hold | hlast
    · have hlt := h.below entry hold
      omega
    · rw [List.mem_singleton.mp hlast]
      show 2 * requests + 1 < 2 * (requests + 1) + 1
      omega
  · intro grant hgrant
    rcases Ledger.mem_flush_grants hgrant with hold | hzero
    · rw [hgrants] at hold
      have hlt := h.grants grant hold
      omega
    · omega

theorem runBoth_givenUp {requests : Nat} (hrequests : requests ≤ 256) :
    Stale requests (runBoth noDecoders 4096 ((List.range requests).flatMap givenUp)) := by
  induction requests with
  | zero =>
    exact ⟨rfl, rfl, rfl, (fun entry hentry => nomatch hentry), fun grant hgrant => nomatch hgrant⟩
  | succ requests ih =>
    rw [List.range_succ, List.flatMap_append, List.flatMap_singleton, runBoth, run_append]
    exact (ih (Nat.le_of_succ_le hrequests)).givenUp hrequests

end GivenUp

theorem dataReceivedOn_byte {before : List ConnectionEvent} {request : Nat} {stream : Stream}
    (hfind : findStream (runConnection noDecoders 4096 before).session (2 * request + 1) =
      some stream) :
    dataReceivedOn noDecoders (2 * request + 1) (connect 4096)
        (before ++ [.reader (.dispatch (byteFrame request))]) =
      dataReceivedOn noDecoders (2 * request + 1) (connect 4096) before + 1 := by
  rw [dataReceivedOn_snoc]
  refine congrArg _ (if_pos ⟨rfl, ?_⟩)
  exact Option.isSome_iff_exists.mpr ⟨stream, hfind⟩

def byteBatch (request : Fin 257) : FrameBatch where
  frames := [byteFrame request]
  fit := by
    intro frame hframe
    rw [List.mem_singleton.mp hframe]
    have hlt := request.isLt
    refine ⟨?_, ?_⟩
    · show [(0 : UInt8)].length < 2 ^ 24
      decide
    · show 2 * request.val + 1 < 2 ^ 31
      omega
  nonempty := by
    show 0 < 10
    decide
  small := by
    show 10 ≤ 16384
    decide

/-- The 256 entries of the ledger belong to requests that were given up, so the
first byte of the next request is not credited to its stream. -/
theorem runConnection_losesStreamCredit :
    let events : List ConnectionEvent := (List.range 256).flatMap givenUp ++
      [.register 0 none, .reader (.dispatch (byteFrame 256))]
    let connection := runConnection noDecoders 4096 events
    Reads (((List.finRange 257).map byteBatch).map FrameBatch.piece) events ∧
      ∃ stream ∈ Slots.entries connection.session.streams, stream.isEnded = false ∧
        streamCredit stream.streamId (queuedOctets connection) +
            pendingCredit stream.streamId connection.session ≠
          dataReceivedOn noDecoders stream.streamId (connect 4096) events := by
  intro events connection
  have hreads : Reads (((List.finRange 257).map byteBatch).map FrameBatch.piece) events := by
    have hactions : readerActions (events ++ [.reader .flush]) =
        ((List.finRange 257).map byteBatch).flatMap FrameBatch.actions := by decide +kernel
    have hall : Reads (((List.finRange 257).map byteBatch).map FrameBatch.piece)
        (events ++ [.reader .flush]) := by
      rewrite [Reads, (readerTrace_batches _).2, hactions]
      exact List.prefix_refl _
    exact hall.of_append
  refine ⟨hreads, ?_⟩
  have hstale := runBoth_givenUp (Nat.le_refl 256)
  obtain ⟨hopened, -, hledger⟩ := hstale.register (Nat.le_refl 256)
  obtain ⟨⟨stream, hstreams, hid, hopen⟩, -, hcredit, hgrants⟩ := stepBoth_byte hopened
  have hfull := Ledger.credit_full (fun entry hentry => Nat.ne_of_lt (hstale.below entry hentry))
    (Nat.le_of_eq hstale.entries.symm) 1
  rw [hledger, hfull] at hcredit hgrants
  have hrun : runBoth noDecoders 4096 events = stepBoth noDecoders (stepBoth noDecoders
      (runBoth noDecoders 4096 ((List.range 256).flatMap givenUp)) (.register 0 none))
        (.reader (.dispatch (byteFrame 256))) := run_append _ _ _ _
  rw [← hrun] at hstreams hcredit hgrants
  have hrefines := (runBoth_flowInv noDecoders 4096 hreads).refines
  rw [runBoth_fst] at hstreams hrefines
  refine ⟨stream, ?_, hopen, ?_⟩
  · rw [hstreams]
    exact List.mem_cons_self
  · have hgranted : Ledger.grantedTo (2 * 256 + 1)
        (runBoth noDecoders 4096 events).2.grants = 0 := by
      rw [hgrants]
      exact Ledger.grantedTo_eq_zero fun grant hgrant => Nat.ne_of_lt (hstale.grants grant hgrant)
    have hheld : Ledger.heldFor (2 * 256 + 1) (runBoth noDecoders 4096 events).2.streams = 0 := by
      rw [hcredit]
      exact Ledger.heldFor_eq_zero fun entry hentry => Nat.ne_of_lt (hstale.below entry hentry)
    have hfind : findStream (runConnection noDecoders 4096
        ((List.range 256).flatMap givenUp ++ [.register 0 none])).session (2 * 256 + 1) =
          some (collector (2 * 256 + 1)) := by
      rw [runConnection_snoc, ← runBoth_fst]
      exact findStream_collector hopened
    have hreceived := dataReceivedOn_byte hfind
    have hsplit : events = ((List.range 256).flatMap givenUp ++ [.register 0 none]) ++
        [.reader (.dispatch (byteFrame 256))] := by
      rw [List.append_assoc]
      rfl
    rw [hid, streamCredit, pendingCredit, queuedOctets, hrefines.wire.updates, hrefines.streams,
      hgranted, hheld, hsplit, hreceived]
    omega

end HttpRequestClient.Http2
