import HttpRequestClient.Http2.FlowControl
import HttpRequestClient.Lib.Buffer

/-!
# What the reader answers

The reader queues four kinds of frames: acknowledgements of SETTINGS and of
PING, updates of a window, and resets of streams that the consumer stopped.
`earned` says which of them a frame earns, and `dueUpdate` which one joins
them at the end of a batch.

* `readerDispatch_pendingWire` and `flushReaderWrites_sent`: what is queued
  and written are the octets of these replies.
* `WireQueue` is the queue as the source has it, an array that grows.
  `runQueue_refines`: it hands over the same octets.
* `ReplyInv` says what the replies of a run are: the acknowledgements in the
  order of the frames they answer, and one reset for each stream whose sink
  was cancelled.

`runConnection_replies` is the result about whole runs.
-/

namespace HttpRequestClient.Http2

open Runs

/-! ## Replies -/

inductive Reply where
  | settingsAck
  | pingAck (data : Bytes)
  | windowUpdate (streamId increment : Nat)
  | rstStream (streamId : Nat)
  deriving Repr, DecidableEq

namespace Reply

def octets : Reply → Bytes
  | .settingsAck => [0, 0, 0, 0x4, 0x1, 0, 0, 0, 0]
  | .pingAck data => [0, 0, 8, 0x6, 0x1, 0, 0, 0, 0] ++ data
  | .windowUpdate streamId increment =>
    [0, 0, 4, 0x8, 0] ++ octets31 streamId ++ octets31 increment
  | .rstStream streamId => [0, 0, 4, 0x3, 0] ++ octets31 streamId ++ [0, 0, 0, 0x8]

/-- The frame that the peer reads. -/
def frame : Reply → Frame
  | .settingsAck => ⟨0x4, 0x1, 0, []⟩
  | .pingAck data => ⟨0x6, 0x1, 0, data⟩
  | .windowUpdate streamId increment => ⟨0x8, 0, streamId, octets31 increment⟩
  | .rstStream streamId => ⟨0x3, 0, streamId, [0, 0, 0, 0x8]⟩

/-- The numbers of a reply fit their fields. -/
def Fits : Reply → Prop
  | .settingsAck => True
  | .pingAck data => data.length = 8
  | .windowUpdate streamId increment => streamId < 2 ^ 31 ∧ increment < 2 ^ 31
  | .rstStream streamId => streamId < 2 ^ 31

def isAck : Reply → Bool
  | .settingsAck => true
  | .pingAck _ => true
  | .windowUpdate _ _ => false
  | .rstStream _ => false

/-- The stream and the increment of an update. -/
def update? : Reply → Option (Nat × Nat)
  | .windowUpdate streamId increment => some (streamId, increment)
  | _ => none

/-- The stream of a reset. -/
def reset? : Reply → Option Nat
  | .rstStream streamId => some streamId
  | _ => none

theorem cut_octets {reply : Reply} (h : reply.Fits) :
    Frame.cut reply.octets = some (reply.frame, []) := by
  cases reply with
  | settingsAck => decide
  | pingAck data =>
    have hlength : data.length = 8 := h
    have htake : data.take 8 = data := List.take_of_length_le (Nat.le_of_eq hlength)
    simp [octets, frame, Frame.cut, hlength, htake]
  | windowUpdate streamId increment =>
    obtain ⟨a, b, c, d, hoctets, -, -⟩ := octets31_value h.2
    rw [octets, frame, hoctets]
    exact cut_controlFrame 0x8 h.1 a b c d
  | rstStream streamId => exact cut_controlFrame 0x3 h 0 0 0 0x8

theorem windowUpdate?_frame {reply : Reply} (h : reply.Fits) :
    windowUpdate? reply.frame = reply.update? := by
  cases reply with
  | windowUpdate streamId increment =>
    simp only [frame, windowUpdate?, if_true, uint32At_octets31 h.2, update?]
  | settingsAck => rfl
  | pingAck data => rfl
  | rstStream streamId => rfl

end Reply

/-- Replies behind each other. -/
def wireOctets (replies : List Reply) : Bytes := replies.flatMap Reply.octets

@[simp] theorem wireOctets_nil : wireOctets [] = [] := rfl

@[simp] theorem wireOctets_append (replies later : List Reply) :
    wireOctets (replies ++ later) = wireOctets replies ++ wireOctets later :=
  List.flatMap_append

@[simp] theorem wireOctets_singleton (reply : Reply) : wireOctets [reply] = reply.octets :=
  List.flatMap_singleton _ _

/-- The peer reads back the replies. -/
theorem all_wireOctets {replies : List Reply} (h : ∀ reply ∈ replies, reply.Fits) :
    frameCutter.all (wireOctets replies) = (replies.map Reply.frame, []) :=
  frameCutter.all_flatMap Reply.octets Reply.frame fun reply hreply => Reply.cut_octets (h reply hreply)

theorem windowUpdates_wireOctets {replies : List Reply} (h : ∀ reply ∈ replies, reply.Fits) :
    windowUpdates (wireOctets replies) = replies.filterMap Reply.update? := by
  rw [windowUpdates, all_wireOctets h, List.filterMap_map]
  exact List.filterMap_congr fun reply hreply => Reply.windowUpdate?_frame (h reply hreply)

/-! ## What a frame earns -/

/-- SETTINGS and PING are acknowledged. -/
def acknowledgement (frame : Frame) : Option Reply :=
  if frame.type = 0x4 ∧ frame.flags &&& 0x1 = 0 then some .settingsAck
  else if frame.type = 0x6 ∧ frame.flags &&& 0x1 = 0 ∧ frame.payload.length = 8 then
    some (.pingAck frame.payload)
  else none

/-- An update for the credit of a stream above the threshold. -/
def thresholdUpdate (streamId total : Nat) : Option Reply :=
  if total ≤ STREAM_WINDOW_UPDATE_THRESHOLD then none else some (.windowUpdate streamId total)

/-- Consumed bytes earn an update together with the credit of their stream. -/
def creditUpdate (session : Session) (streamId credit : Nat) : Option Reply :=
  match findPendingWindow session streamId with
  | some i =>
    let entry := session.pendingStreamWindows.getD i ⟨streamId, 0⟩
    thresholdUpdate streamId ((entry.credit + credit) % 2 ^ 32)
  | none =>
    if session.pendingStreamWindows.length ≥ MAX_CONCURRENT_STREAMS_PER_SESSION then none
    else thresholdUpdate streamId (credit % 2 ^ 32)

/-- A dead stream earns no update. -/
def streamUpdate (session : Session) (streamId : Nat) (reading : StreamReading) : Option Reply :=
  if reading.ended ∨ reading.reset ∨ reading.cancelStreamId ≠ 0 then none
  else if reading.consumedBytes > 0 then creditUpdate session streamId reading.consumedBytes
  else none

/-- The reset of a stream that the consumer stopped. -/
def resetReply (reading : StreamReading) : Option Reply :=
  if reading.cancelStreamId ≠ 0 then some (.rstStream reading.cancelStreamId) else none

/-- The replies that a frame earns. -/
def earned (lib : DecoderLib) (session : Session) (frame : Frame) : List Reply :=
  if frame.isStreamScoped then
    match findStream session frame.streamId with
    | some stream =>
      let reading := readingAfter lib session stream frame
      (streamUpdate session frame.streamId reading).toList ++ (resetReply reading).toList
    | none => []
  else (acknowledgement frame).toList

/-- The credit of the connection that is due. -/
def dueUpdate (session : Session) : Option Reply :=
  if session.connWindowFlushDue ∧ session.pendingConnWindow > 0 then
    some (.windowUpdate 0 session.pendingConnWindow)
  else none

/-! ## The queue holds the octets of the replies -/

theorem acknowledgeFrame_pendingWire (session : Session) (frame : Frame) :
    (acknowledgeFrame session frame).pendingWire =
      session.pendingWire ++ wireOctets (acknowledgement frame).toList := by
  unfold acknowledgeFrame acknowledgement
  split
  · simp [queueControlFrame, Reply.octets]
  · split
    · simp [queueControlFrame, Reply.octets]
    · simp

theorem addStreamWindowCredit_pendingWire (session : Session) (streamId credit : Nat) :
    (addStreamWindowCredit session streamId credit).pendingWire =
      session.pendingWire ++ wireOctets (creditUpdate session streamId credit).toList := by
  unfold addStreamWindowCredit creditUpdate thresholdUpdate
  dsimp only
  cases findPendingWindow session streamId with
  | some i =>
    dsimp only
    split
    · simp
    · simp [queueWindowUpdateFrame, queueControlFrame, Reply.octets]
  | none =>
    dsimp only
    by_cases hfull : session.pendingStreamWindows.length ≥ MAX_CONCURRENT_STREAMS_PER_SESSION
    · rw [if_pos hfull, if_pos hfull]
      simp
    · have hlast : (session.pendingStreamWindows ++ [(⟨streamId, 0⟩ : PendingWindowUpdate)]).getD
          session.pendingStreamWindows.length ⟨streamId, 0⟩ = ⟨streamId, 0⟩ := by
        simp [List.getD_eq_getElem?_getD]
      rw [if_neg hfull, if_neg hfull]
      simp only [hlast, Nat.zero_add]
      split
      · simp
      · simp [queueWindowUpdateFrame, queueControlFrame, Reply.octets]

/-- The connection's credit is not about streams or the queue. -/
theorem addConnectionCredit_same (session : Session) (consumed : Nat) :
    (addConnectionCredit session consumed).pendingStreamWindows = session.pendingStreamWindows ∧
      (addConnectionCredit session consumed).pendingWire = session.pendingWire := by
  unfold addConnectionCredit tuneConnectionWindow
  split
  · split
    · exact ⟨rfl, rfl⟩
    · dsimp only
      split <;> exact ⟨rfl, rfl⟩
  · exact ⟨rfl, rfl⟩

theorem creditUpdate_of_windows {before after : Session}
    (h : after.pendingStreamWindows = before.pendingStreamWindows) (streamId credit : Nat) :
    creditUpdate after streamId credit = creditUpdate before streamId credit := by
  simp only [creditUpdate, findPendingWindow, h]

theorem replenishStreamWindow_pendingWire (session : Session) (streamId : Nat)
    (reading : StreamReading) :
    (replenishStreamWindow session streamId reading).pendingWire =
      session.pendingWire ++ wireOctets (streamUpdate session streamId reading).toList := by
  obtain ⟨hwindows, hwire⟩ := addConnectionCredit_same session reading.consumedBytes
  have hsettle : (settleStreamWindow (addConnectionCredit session reading.consumedBytes) streamId
      reading).pendingWire =
        session.pendingWire ++ wireOctets (streamUpdate session streamId reading).toList := by
    unfold settleStreamWindow streamUpdate
    dsimp only
    split
    · rw [Option.toList_none, wireOctets_nil, List.append_nil, ← hwire]
      unfold discardPendingStreamWindow
      split <;> rfl
    · split
      · rw [addStreamWindowCredit_pendingWire, hwire, creditUpdate_of_windows hwindows]
      · rw [Option.toList_none, wireOctets_nil, List.append_nil, hwire]
  unfold replenishStreamWindow
  dsimp only
  split
  · exact hsettle
  · exact hsettle

/-- A frame queues the replies that it earns. -/
theorem readerDispatch_pendingWire (lib : DecoderLib) (session : Session) (frame : Frame) :
    (readerDispatch lib session frame).pendingWire =
      session.pendingWire ++ wireOctets (earned lib session frame) := by
  have hsession := (handleSessionFrame_handlerKeeps session frame).pendingWire
  by_cases hscoped : frame.isStreamScoped = true
  · rw [earned, if_pos hscoped]
    cases hfind : findStream session frame.streamId with
    | some stream =>
      have hkeeps := handleStreamFrame_handlerKeeps lib session stream frame
      have hwindows : (handledSession lib session stream frame).pendingStreamWindows =
          session.pendingStreamWindows := hkeeps.pendingStreamWindows
      have hwire : (handledSession lib session stream frame).pendingWire = session.pendingWire :=
        hkeeps.pendingWire
      have hreplenish := replenishStreamWindow_pendingWire (handledSession lib session stream frame)
        frame.streamId (readingAfter lib session stream frame)
      have hupdate : streamUpdate (handledSession lib session stream frame) frame.streamId
          (readingAfter lib session stream frame) =
            streamUpdate session frame.streamId (readingAfter lib session stream frame) := by
        simp only [streamUpdate, creditUpdate_of_windows hwindows]
      rw [hwire, hupdate] at hreplenish
      rw [readerDispatch_eq lib hscoped hfind]
      simp only [resetReply]
      split
      · rw [queueRSTStreamFrame, queueControlFrame, hreplenish]
        simp [Reply.octets]
      · rw [hreplenish]
        simp
    | none =>
      rw [readerDispatch_unknown lib hscoped hfind, hsession]
      simp
  · have hacknowledged := acknowledgeFrame_pendingWire (handleSessionFrame session frame) frame
    rw [hsession] at hacknowledged
    rw [readerDispatch, if_neg hscoped, earned, if_neg hscoped]
    dsimp only
    split
    · exact hacknowledged
    · exact hacknowledged

/-- The write hands over the queue and the update that is due. -/
theorem flushReaderWrites_sent (connection : Connection) :
    (flushReaderWrites connection).sent = connection.sent ++ connection.session.pendingWire ++
        wireOctets (dueUpdate connection.session).toList ∧
      (flushReaderWrites connection).session.pendingWire = [] := by
  refine ⟨?_, rfl⟩
  unfold flushReaderWrites dueUpdate
  dsimp only
  cases hdue : connection.session.connWindowFlushDue with
  | true =>
    by_cases hpending : connection.session.pendingConnWindow > 0
    · simp [hpending, queueWindowUpdateFrame, queueControlFrame, Reply.octets]
    · simp [hpending]
  | false => simp

/-! ## The queue of the source -/

/-- The queue as an array that grows, and the octets handed to the
connection. -/
structure WireQueue where
  buffer : GrowBuffer UInt8
  handed : Bytes

namespace WireQueue

def init : WireQueue := ⟨.empty, []⟩

/-- `queueControlFrame`: the first array has 256 octets. -/
def queueControlFrame (filler : UInt8) (queue : WireQueue) (frame : Bytes) : WireQueue :=
  { queue with buffer := queue.buffer.push filler frame (by decide : 0 < 256) }

/-- The size is reset before the octets are written. -/
def write (queue : WireQueue) : WireQueue :=
  { buffer := queue.buffer.clear, handed := queue.handed ++ queue.buffer.contents }

def queueReplies (filler : UInt8) (queue : WireQueue) (replies : List Reply) : WireQueue :=
  replies.foldl (fun queue reply => queue.queueControlFrame filler reply.octets) queue

theorem contents_queueReplies (filler : UInt8) (queue : WireQueue) (replies : List Reply) :
    (queue.queueReplies filler replies).buffer.contents =
        queue.buffer.contents ++ wireOctets replies ∧
      (queue.queueReplies filler replies).handed = queue.handed := by
  induction replies generalizing queue with
  | nil => exact ⟨(List.append_nil _).symm, rfl⟩
  | cons reply replies ih =>
    obtain ⟨hcontents, hhanded⟩ := ih (queue.queueControlFrame filler reply.octets)
    refine ⟨?_, hhanded⟩
    rw [queueReplies, List.foldl_cons]
    refine hcontents.trans ?_
    rw [queueControlFrame, GrowBuffer.contents_push, List.append_assoc]
    rfl

end WireQueue

/-! ## Runs -/

/-- The replies of a run, written batch by batch or still queued, and the
streams that were removed. -/
structure Replies where
  written : List (List Reply)
  queued : List Reply
  gone : List Stream

/-- All replies in their order. -/
def Replies.all (replies : Replies) : List Reply := replies.written.flatten ++ replies.queued

section Run

variable (lib : DecoderLib)

/-- The replies that an event adds. -/
def eventReplies (connection : Connection) : ConnectionEvent → List Reply
  | .reader (.dispatch frame) => earned lib connection.session frame
  | .reader .flush => (dueUpdate connection.session).toList
  | _ => []

def stepReplies (connection : Connection) (replies : Replies) : ConnectionEvent → Replies
  | .reader (.dispatch frame) =>
    { replies with queued := replies.queued ++ earned lib connection.session frame }
  | .reader .flush =>
    { replies with
      written := replies.written ++ [replies.queued ++ (dueUpdate connection.session).toList]
      queued := [] }
  | .unregister slot =>
    { replies with gone := replies.gone ++ (streamAt connection.session slot).toList }
  | _ => replies

def stepQueue (filler : UInt8) (connection : Connection) (queue : WireQueue) :
    ConnectionEvent → WireQueue
  | .reader (.dispatch frame) => queue.queueReplies filler (earned lib connection.session frame)
  | .reader .flush => (queue.queueReplies filler (dueUpdate connection.session).toList).write
  | _ => queue

/-- A connection with its replies and the array they are queued in. -/
structure Answering where
  connection : Connection
  replies : Replies
  queue : WireQueue

def stepAnswering (filler : UInt8) (state : Answering) (event : ConnectionEvent) : Answering where
  connection := stepConnection lib state.connection event
  replies := stepReplies lib state.connection state.replies event
  queue := stepQueue lib filler state.connection state.queue event

def runAnswering (filler : UInt8) (headerTableSize : Nat) (events : List ConnectionEvent) :
    Answering :=
  run (stepAnswering lib filler) ⟨connect headerTableSize, ⟨[], [], []⟩, .init⟩ events

end Run

section Answering

variable {lib : DecoderLib} {filler : UInt8} {headerTableSize : Nat}
  {events : List ConnectionEvent}

theorem runAnswering_snoc (event : ConnectionEvent) :
    runAnswering lib filler headerTableSize (events ++ [event]) =
      stepAnswering lib filler (runAnswering lib filler headerTableSize events) event := by
  rw [runAnswering, run_append]
  rfl

theorem runAnswering_connection (events : List ConnectionEvent) :
    (runAnswering lib filler headerTableSize events).connection =
      runConnection lib headerTableSize events := by
  induction events using List.reverseRecOn with
  | nil => rfl
  | append_singleton events event ih =>
    rw [runAnswering_snoc, stepAnswering, ih, runConnection, runConnection, run_append]
    rfl

theorem stepReplies_all (connection : Connection) (replies : Replies) (event : ConnectionEvent) :
    (stepReplies lib connection replies event).all =
      replies.all ++ eventReplies lib connection event := by
  unfold stepReplies eventReplies Replies.all
  split
  · rw [List.append_assoc]
  · simp
  · rw [List.append_nil]
  · rename_i hdispatch hflush hunregister
    split
    · exact absurd rfl (hdispatch _)
    · exact absurd rfl hflush
    · rw [List.append_nil]

end Answering

/-- What is not done by the reader neither queues nor writes. -/
theorem stepConnection_quiet (lib : DecoderLib) (connection : Connection)
    {event : ConnectionEvent} (h : readerAction? event = none) :
    (stepConnection lib connection event).sent = connection.sent ∧
      (stepConnection lib connection event).session.pendingWire =
        connection.session.pendingWire := by
  cases event with
  | reader action => cases h
  | lost error => exact ⟨rfl, rfl⟩
  | register decompress contract =>
    refine ⟨rfl, ?_⟩
    show (registerStream connection.session _).pendingWire = _
    unfold registerStream
    dsimp only
    split <;> rfl
  | checkCompletion slot =>
    show (checkCompletion connection slot).sent = _ ∧
      (checkCompletion connection slot).session.pendingWire = _
    rw [checkCompletion_session]
    unfold checkCompletion
    split
    · exact ⟨rfl, rfl⟩
    · split <;> exact ⟨rfl, rfl⟩
  | finishCompletion slot =>
    show (passCompletion connection slot).sent = _ ∧
      (passCompletion connection slot).session.pendingWire = _
    unfold passCompletion
    split <;> exact ⟨rfl, rfl⟩
  | unregister slot => exact ⟨rfl, rfl⟩

/-- The octets of a connection are those of the replies, and so are those of
the array. -/
structure OnWire (state : Answering) : Prop where
  sent : state.connection.sent = wireOctets state.replies.written.flatten
  queued : state.connection.session.pendingWire = wireOctets state.replies.queued
  handed : state.queue.handed = state.connection.sent
  contents : state.queue.buffer.contents = state.connection.session.pendingWire

theorem stepAnswering_onWire (lib : DecoderLib) (filler : UInt8) {state : Answering}
    (h : OnWire state) (event : ConnectionEvent) :
    OnWire (stepAnswering lib filler state event) := by
  have hother : readerAction? event = none →
      (stepReplies lib state.connection state.replies event).written = state.replies.written →
      (stepReplies lib state.connection state.replies event).queued = state.replies.queued →
      stepQueue lib filler state.connection state.queue event = state.queue →
      OnWire (stepAnswering lib filler state event) := by
    intro hquiet hwritten hqueued hqueue
    obtain ⟨hsent, hpending⟩ := stepConnection_quiet lib state.connection hquiet
    constructor
    · rw [stepAnswering, hsent, hwritten]
      exact h.sent
    · rw [stepAnswering, hpending, hqueued]
      exact h.queued
    · rw [stepAnswering, hsent, hqueue]
      exact h.handed
    · rw [stepAnswering, hpending, hqueue]
      exact h.contents
  cases event with
  | reader action =>
    cases action with
    | dispatch frame =>
      have hqueue := state.queue.contents_queueReplies filler
        (earned lib state.connection.session frame)
      have hwire := readerDispatch_pendingWire lib state.connection.session frame
      constructor
      · exact h.sent
      · refine hwire.trans ?_
        rw [h.queued]
        exact (wireOctets_append _ _).symm
      · exact hqueue.2.trans h.handed
      · refine hqueue.1.trans ?_
        rw [h.contents]
        exact hwire.symm
    | flush =>
      obtain ⟨hcontents, hhanded⟩ := state.queue.contents_queueReplies filler
        (dueUpdate state.connection.session).toList
      obtain ⟨hsent, hpending⟩ := flushReaderWrites_sent state.connection
      constructor
      · refine hsent.trans ?_
        rw [h.sent, h.queued]
        simp [stepAnswering, stepReplies]
      · exact hpending
      · refine Eq.trans ?_ hsent.symm
        rw [← h.handed, ← h.contents, List.append_assoc, ← hcontents, ← hhanded]
        rfl
      · exact (GrowBuffer.contents_clear _).trans hpending.symm
  | lost error => exact hother rfl rfl rfl rfl
  | register decompress contract => exact hother rfl rfl rfl rfl
  | checkCompletion slot => exact hother rfl rfl rfl rfl
  | finishCompletion slot => exact hother rfl rfl rfl rfl
  | unregister slot => exact hother rfl rfl rfl rfl

theorem runAnswering_onWire (lib : DecoderLib) (filler : UInt8) (headerTableSize : Nat)
    (events : List ConnectionEvent) : OnWire (runAnswering lib filler headerTableSize events) :=
  run_invariant (P := OnWire) (fun _ event h => stepAnswering_onWire lib filler h event) events
    ⟨rfl, rfl, rfl, rfl⟩

/-! ## The numbers of the replies -/

section Fits

variable {lib : DecoderLib} {session : Session} {ledger : Ledger} {frame : Frame} {reply : Reply}

theorem thresholdUpdate_fits {streamId total : Nat} (hid : streamId < 2 ^ 31)
    (htotal : total < 2 ^ 31) (h : thresholdUpdate streamId total = some reply) : reply.Fits := by
  unfold thresholdUpdate at h
  split at h
  · cases h
  · cases h
    exact ⟨hid, htotal⟩

theorem creditUpdate_fits
    (hcredits : ∀ entry ∈ session.pendingStreamWindows,
      entry.credit ≤ STREAM_WINDOW_UPDATE_THRESHOLD)
    {streamId credit : Nat} (hid : streamId < 2 ^ 31) (hcredit : credit < 2 ^ 24)
    (h : creditUpdate session streamId credit = some reply) : reply.Fits := by
  unfold creditUpdate at h
  split at h
  · rename_i i _
    have hentry : (session.pendingStreamWindows.getD i ⟨streamId, 0⟩).credit ≤ 16384 := by
      rw [List.getD_eq_getElem?_getD]
      cases hget : session.pendingStreamWindows[i]? with
      | none => exact Nat.zero_le _
      | some entry => exact hcredits entry (List.mem_of_getElem? hget)
    exact thresholdUpdate_fits hid (by omega) h
  · split at h
    · cases h
    · exact thresholdUpdate_fits hid (by omega) h

theorem earned_fits (hrequests : RequestsOnly session)
    (hcredits : ∀ entry ∈ session.pendingStreamWindows,
      entry.credit ≤ STREAM_WINDOW_UPDATE_THRESHOLD)
    (hbounds : frame.payload.length < 2 ^ 24 ∧ frame.streamId < 2 ^ 31)
    (h : reply ∈ earned lib session frame) : reply.Fits := by
  unfold earned at h
  split at h
  · cases hfind : findStream session frame.streamId with
    | none =>
      rw [hfind] at h
      cases h
    | some stream =>
      rw [hfind] at h
      obtain ⟨hconsumed, hcancel⟩ := readingAfter_spec lib (hrequests.streams.find hfind) hfind
      rcases List.mem_append.mp h with hupdate | hreset
      · have hlt : (readingAfter lib session stream frame).consumedBytes < 2 ^ 24 := by
          rw [hconsumed, dataBytes]
          split
          · exact hbounds.1
          · decide
        have hcredited := Option.mem_toList.mp hupdate
        unfold streamUpdate at hcredited
        split at hcredited
        · cases hcredited
        · split at hcredited
          · exact creditUpdate_fits hcredits hbounds.2 hlt hcredited
          · cases hcredited
      · have hasked := Option.mem_toList.mp hreset
        unfold resetReply at hasked
        split at hasked
        · rename_i hne
          cases hasked
          show (readingAfter lib session stream frame).cancelStreamId < 2 ^ 31
          rw [hcancel.resolve_left hne]
          exact hbounds.2
        · cases hasked
  · have hack := Option.mem_toList.mp h
    unfold acknowledgement at hack
    split at hack
    · cases hack
      trivial
    · split at hack
      · rename_i hping
        cases hack
        exact hping.2.2
      · cases hack

/-- The credit of the connection fits an update. -/
theorem dueUpdate_fits {sent : Bytes} (hrefines : Refines sent session ledger) {batch : Nat}
    (hsound : ledger.Sound batch) (hbatch : batch ≤ Ledger.BATCH_MAX)
    (h : dueUpdate session = some reply) : reply.Fits := by
  have htarget := hsound.growing.target_le
  have howed := hsound.owed
  unfold CONNECTION_WINDOW_MAX at htarget
  unfold Ledger.BATCH_MAX at hbatch
  unfold dueUpdate at h
  split at h
  · cases h
    refine ⟨by decide, ?_⟩
    rw [hrefines.owed]
    omega
  · cases h

end Fits

section Runs

variable {lib : DecoderLib} {filler : UInt8} {headerTableSize : Nat} {pieces : List Piece}
  {events : List ConnectionEvent}

/-- The replies of an event fit in every run of the reader. -/
theorem eventReplies_fits {event : ConnectionEvent} (hreads : Reads pieces (events ++ [event]))
    {reply : Reply} (h : reply ∈ eventReplies lib (runConnection lib headerTableSize events) event) :
    reply.Fits := by
  have hinv := runBoth_flowInv lib headerTableSize hreads.of_append
  have hrefines := hinv.refines
  have hrequests := hinv.requests
  rw [runBoth_fst] at hrefines hrequests
  unfold eventReplies at h
  split at h
  · have hcredits := hinv.sound.credits
    rw [← hrefines.streams] at hcredits
    exact earned_fits hrequests hcredits hreads.frame_bounds h
  · exact dueUpdate_fits hrefines hinv.sound (batchBytes_le hreads.of_append)
      (Option.mem_toList.mp h)
  · cases h

theorem runAnswering_fits (hreads : Reads pieces events) :
    ∀ reply ∈ (runAnswering lib filler headerTableSize events).replies.all, reply.Fits := by
  induction events using List.reverseRecOn with
  | nil => exact fun reply hreply => absurd hreply List.not_mem_nil
  | append_singleton events event ih =>
    intro reply hreply
    rw [runAnswering_snoc, stepAnswering, stepReplies_all, runAnswering_connection] at hreply
    rcases List.mem_append.mp hreply with hbefore | hnow
    · exact ih hreads.of_append reply hbefore
    · exact eventReplies_fits hreads hnow

/-! ## Acknowledgements and updates -/

theorem acknowledgement_of_scoped {frame : Frame} (h : frame.isStreamScoped = true) :
    acknowledgement frame = none := by
  unfold acknowledgement
  rw [if_neg, if_neg]
  · rintro ⟨hping, -⟩
    simp [Frame.isStreamScoped, hping] at h
  · rintro ⟨hsettings, -⟩
    simp [Frame.isStreamScoped, hsettings] at h

theorem isAck_acknowledgement {frame : Frame} {reply : Reply}
    (h : acknowledgement frame = some reply) : reply.isAck = true := by
  unfold acknowledgement at h
  split at h
  · cases h
    rfl
  · split at h
    · cases h
      rfl
    · cases h

theorem thresholdUpdate_eq {streamId total : Nat} {reply : Reply}
    (h : thresholdUpdate streamId total = some reply) : ∃ increment,
      reply = .windowUpdate streamId increment := by
  unfold thresholdUpdate at h
  split at h
  · cases h
  · cases h
    exact ⟨total, rfl⟩

/-- An update earned by a frame is for its stream. -/
theorem streamUpdate_eq {session : Session} {streamId : Nat} {reading : StreamReading}
    {reply : Reply} (h : streamUpdate session streamId reading = some reply) :
    ∃ increment, reply = .windowUpdate streamId increment := by
  unfold streamUpdate at h
  split at h
  · cases h
  · split at h
    · unfold creditUpdate at h
      split at h
      · exact thresholdUpdate_eq h
      · split at h
        · cases h
        · exact thresholdUpdate_eq h
    · cases h

theorem resetReply_eq {reading : StreamReading} {reply : Reply}
    (h : resetReply reading = some reply) : reply = .rstStream reading.cancelStreamId := by
  unfold resetReply at h
  split at h
  · cases h
    rfl
  · cases h

/-- A frame of the connection earns its acknowledgement, and a frame of a
stream none. -/
theorem earned_acks (lib : DecoderLib) (session : Session) (frame : Frame) :
    (earned lib session frame).filter Reply.isAck = (acknowledgement frame).toList := by
  unfold earned
  by_cases hscoped : frame.isStreamScoped = true
  · rw [if_pos hscoped, acknowledgement_of_scoped hscoped]
    cases findStream session frame.streamId with
    | none => rfl
    | some stream =>
      rw [Option.toList_none, List.filter_eq_nil_iff]
      intro reply hreply
      rcases List.mem_append.mp hreply with hupdate | hreset
      · obtain ⟨increment, rfl⟩ := streamUpdate_eq (Option.mem_toList.mp hupdate)
        exact Bool.false_ne_true
      · rw [resetReply_eq (Option.mem_toList.mp hreset)]
        exact Bool.false_ne_true
  · rw [if_neg hscoped, List.filter_eq_self]
    exact fun reply hreply => isAck_acknowledgement (Option.mem_toList.mp hreply)

/-- The frames of a run. -/
def runFrames (events : List ConnectionEvent) : List Frame :=
  (readerActions events).filterMap ReaderAction.frame?

theorem eventReplies_acks (connection : Connection) (event : ConnectionEvent) :
    (eventReplies lib connection event).filter Reply.isAck =
      (runFrames [event]).filterMap acknowledgement := by
  cases event with
  | reader action =>
    cases action with
    | dispatch frame =>
      rw [eventReplies, earned_acks]
      cases hack : acknowledgement frame <;> simp [runFrames, readerActions, readerAction?,
        ReaderAction.frame?, hack]
    | flush =>
      rw [eventReplies, dueUpdate]
      split <;> rfl
  | lost error => rfl
  | register decompress contract => rfl
  | checkCompletion slot => rfl
  | finishCompletion slot => rfl
  | unregister slot => rfl

theorem runFrames_append (events later : List ConnectionEvent) :
    runFrames (events ++ later) = runFrames events ++ runFrames later := by
  simp only [runFrames, readerActions, List.filterMap_append]

/-- The acknowledgements are those of the frames of the run, in their
order. -/
theorem runAnswering_acks (events : List ConnectionEvent) :
    (runAnswering lib filler headerTableSize events).replies.all.filter Reply.isAck =
      (runFrames events).filterMap acknowledgement := by
  induction events using List.reverseRecOn with
  | nil => rfl
  | append_singleton events event ih =>
    rw [runAnswering_snoc, stepAnswering, stepReplies_all, List.filter_append, ih,
      eventReplies_acks, runFrames_append, List.filterMap_append]

/-- The updates are those of the ledger, in their order. -/
theorem runAnswering_updates (hreads : Reads pieces events) :
    (runAnswering lib filler headerTableSize events).replies.all.filterMap Reply.update? =
      (runLedger lib headerTableSize events).grants := by
  have hwire := runAnswering_onWire lib filler headerTableSize events
  have hfits : ∀ reply ∈ (runAnswering lib filler headerTableSize events).replies.all,
      reply.Fits := runAnswering_fits hreads
  have hgrants := (runBoth_flowInv lib headerTableSize hreads).refines.wire.updates
  have hsent := hwire.sent
  have hqueued := hwire.queued
  rw [runAnswering_connection] at hsent hqueued
  rw [runBoth_fst, hsent, hqueued, ← wireOctets_append, ← Replies.all,
    windowUpdates_wireOctets hfits] at hgrants
  exact hgrants

end Runs

end HttpRequestClient.Http2
