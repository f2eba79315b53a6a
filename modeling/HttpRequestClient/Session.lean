import HttpRequestClient.Lib.Slots
import HttpRequestClient.ResponseStream

/-!
# Sessions and their streams

The part of `Session.c` that makes a session and keeps its streams: a stream
is registered in a free slot and found by its id.  Both protocols use it.
The lemmas say which stream a slot holds after each operation.

Left out: the connection itself and the wait for a stream.
-/

namespace HttpRequestClient

/-! ## The registry -/

/-- The stream in the first slot with the id. -/
def findStream (session : Session) (streamId : Nat) : Option Stream :=
  Slots.find Stream.streamId streamId session.streams

/-- Write back the stream that `findStream` found. -/
def updateStream (session : Session) (streamId : Nat) (stream : Stream) : Session :=
  { session with streams := Slots.replace Stream.streamId streamId stream session.streams }

/-- The stream in a slot. -/
def streamAt (session : Session) (slot : Nat) : Option Stream := (session.streams[slot]?).join

/-- Change the stream in a slot. -/
def modifyStream (session : Session) (slot : Nat) (f : Stream → Stream) : Session :=
  { session with streams := session.streams.modify slot (Option.map f) }

/-- A session as `initSession` leaves it, with the header table size the
client advertises. -/
def initSession (headerTableSize : Nat) : Session where
  streamId := 1
  streams := List.replicate MAX_CONCURRENT_STREAMS_PER_SESSION none
  inflightCount := 0
  hpackCtx := ⟨[], 0, if headerTableSize > 0 then headerTableSize else 4096⟩
  goingAway := false
  connError := none
  pendingConnWindow := 0
  pendingStreamWindows := []
  connWindowFlushDue := false
  connWindowTarget := 65535
  connWindowSinceGrowth := 0
  pendingWire := []
  decodedBlocks := []

/-- A stream as `registerStream` makes it: a header buffer and no error. -/
def newStream (streamId : Nat) (sink : Option ResponseSink) : Stream :=
  { Stream.scratch with
    streamId := streamId
    sink := sink
    headers := some [] }

/-- A stream takes the next odd id and the first free slot.  The id is
taken also when no slot is free. -/
def registerStream (session : Session) (sink : Option ResponseSink) : Session :=
  let stream := newStream session.streamId sink
  let session := { session with streamId := (session.streamId + 2) % 0x100000000 }
  match session.streams.findIdx? Option.isNone with
  | none => session
  | some slot =>
    { session with
      streams := session.streams.set slot (some stream)
      inflightCount := session.inflightCount + 1 }

/-- Clear the slot of a stream. -/
def unregisterStream (session : Session) (slot : Nat) : Session :=
  { session with
    streams := session.streams.set slot none
    inflightCount := session.inflightCount - 1 }

theorem newStream_fresh (streamId decompress : Nat) (contract : Option ResponseStream) :
    Fresh (newStream streamId (some (buildResponseSink decompress contract))) :=
  ⟨rfl, rfl, rfl, fun sink hsink => by cases hsink; exact ⟨rfl, rfl, rfl, rfl, rfl⟩⟩

/-! ## The slots of the registry -/

theorem streamAt_of_streams {session after : Session} (h : after.streams = session.streams)
    (slot : Nat) : streamAt after slot = streamAt session slot := by
  rw [streamAt, streamAt, h]

theorem streamAt_initSession (headerTableSize slot : Nat) :
    streamAt (initSession headerTableSize) slot = none := by
  rw [streamAt, initSession, List.getElem?_replicate]
  split
  · rfl
  · rfl

/-- The slot that `registerStream` takes. -/
def freeSlot (session : Session) : Option Nat := session.streams.findIdx? Option.isNone

theorem streamAt_freeSlot {session : Session} {slot : Nat} (h : freeSlot session = some slot) :
    session.streams[slot]? = some none ∧ streamAt session slot = none := by
  obtain ⟨hlt, hnone, _⟩ := List.findIdx?_eq_some_iff_getElem.mp h
  have hslot : session.streams[slot]? = some none := by
    rw [List.getElem?_eq_getElem hlt, Option.isNone_iff_eq_none.mp hnone]
  exact ⟨hslot, by rw [streamAt, hslot]; rfl⟩

theorem registerStream_full {session : Session} (h : freeSlot session = none)
    (sink : Option ResponseSink) :
    registerStream session sink =
      { session with streamId := (session.streamId + 2) % 0x100000000 } := by
  have hnone : session.streams.findIdx? Option.isNone = none := h
  simp only [registerStream, hnone]

theorem registerStream_free {session : Session} {slot : Nat} (h : freeSlot session = some slot)
    (sink : Option ResponseSink) :
    registerStream session sink =
      { session with
        streamId := (session.streamId + 2) % 0x100000000
        streams := session.streams.set slot (some (newStream session.streamId sink))
        inflightCount := session.inflightCount + 1 } := by
  have hsome : session.streams.findIdx? Option.isNone = some slot := h
  simp only [registerStream, hsome]

theorem streamAt_registerStream {session : Session} {slot : Nat} (h : freeSlot session = some slot)
    (sink : Option ResponseSink) (other : Nat) :
    streamAt (registerStream session sink) other =
      if slot = other then some (newStream session.streamId sink)
      else streamAt session other := by
  have hlt : slot < session.streams.length :=
    (List.getElem?_eq_some_iff.mp (streamAt_freeSlot h).1).1
  rw [registerStream_free h, streamAt, List.getElem?_set, if_pos hlt]
  split
  · rfl
  · rfl

theorem streamAt_unregisterStream (session : Session) (slot other : Nat) :
    streamAt (unregisterStream session slot) other =
      if slot = other then none else streamAt session other := by
  rw [unregisterStream, streamAt, List.getElem?_set]
  split
  · split
    · rfl
    · rfl
  · rfl

theorem streamAt_modifyStream (session : Session) (slot : Nat) (f : Stream → Stream)
    (other : Nat) :
    streamAt (modifyStream session slot f) other =
      if slot = other then (streamAt session other).map f else streamAt session other := by
  rw [modifyStream, streamAt, List.getElem?_modify, streamAt]
  split
  · cases session.streams[other]? with
    | none => rfl
    | some found => cases found <;> rfl
  · cases session.streams[other]? <;> rfl

end HttpRequestClient
