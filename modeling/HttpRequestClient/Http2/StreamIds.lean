import HttpRequestClient.Http2.Connection
import HttpRequestClient.Http2.Requests

/-!
# Stream ids on the wire

The requests that share a connection.  A request takes its id when it
registers its stream, and it writes its frames when it holds the write lock.
Nothing makes the requests write in the order of their ids.

`runSharing_increasing`: when every request writes its HEADERS frame before
those with a greater id do, and the ids have not run out, then the ids on
the wire are strictly increasing odd numbers below `2 ^ 31`.
`runSharing_overtaken` is a run in which the second request is faster.
-/

namespace HttpRequestClient.Http2

open Hpack Runs

/-- A connection, the ids of the requests that have a stream and did not
hold the write lock yet, and the buffers that requests wrote. -/
structure Sharing where
  connection : Connection
  waiting : List Nat
  wire : List Bytes

inductive SharingEvent where
  | connection (event : ConnectionEvent)
  /-- A request thread in `handleHttp2Request`, under the write lock. -/
  | send (streamId : Nat) (write : Bytes → Bool) (stack : Bytes) (request : Http2Request)

/-- The id of a registration that finds a free slot. -/
def registeredId (session : Session) : ConnectionEvent → List Nat
  | .register _ _ =>
    if (freeSlot session).isSome then [session.streamId] else []
  | _ => []

def stepSharing (lib : DecoderLib) (sharing : Sharing) : SharingEvent → Sharing
  | .connection event =>
    { sharing with
      connection := stepConnection lib sharing.connection event
      waiting := sharing.waiting ++ registeredId sharing.connection.session event }
  | .send streamId write stack request =>
    if streamId ∈ sharing.waiting then
      { sharing with
        waiting := sharing.waiting.erase streamId
        wire := sharing.wire ++ (handleHttp2Request write stack streamId request).1 }
    else sharing

def share (headerTableSize : Nat) : Sharing := ⟨connect headerTableSize, [], []⟩

def runSharing (lib : DecoderLib) (headerTableSize : Nat) (events : List SharingEvent) : Sharing :=
  run (stepSharing lib) (share headerTableSize) events

/-- A registration finds ids left, and the writer of a HEADERS frame has the
smallest id of those that still have to write. -/
def InTurn (sharing : Sharing) : SharingEvent → Prop
  | .connection (.register _ _) => sharing.connection.session.streamId < 2 ^ 31
  | .connection _ => True
  | .send streamId write stack request =>
    headersIds (handleHttp2Request write stack streamId request).1 ≠ [] →
      ∀ other ∈ sharing.waiting, streamId ≤ other

/-- The ids given out: those on the wire below those that wait, and these
below the next one. -/
structure IdsInv (sharing : Sharing) : Prop where
  written : (headersIds sharing.wire).Pairwise (· < ·)
  waiting : sharing.waiting.Pairwise (· < ·)
  order : ∀ id ∈ headersIds sharing.wire, ∀ other ∈ sharing.waiting, id < other
  taken : ∀ id ∈ headersIds sharing.wire ++ sharing.waiting,
    id % 2 = 1 ∧ id < 2 ^ 31 ∧ id < sharing.connection.session.streamId
  next : sharing.connection.session.streamId % 2 = 1

variable {lib : DecoderLib} {sharing : Sharing}

theorem share_ids (headerTableSize : Nat) : IdsInv (share headerTableSize) :=
  ⟨.nil, .nil, fun _ hid => absurd hid List.not_mem_nil, fun _ hid => absurd hid List.not_mem_nil,
    rfl⟩

/-- A registration takes the next id, and every other event takes none. -/
theorem registeredId_cases (session : Session) (event : ConnectionEvent) :
    (registeredId session event = [] ∧
      (nextStreamId session.streamId event = session.streamId ∨
        ∃ decompress contract, event = .register decompress contract)) ∨
    (registeredId session event = [session.streamId] ∧
      ∃ decompress contract, event = .register decompress contract) := by
  cases event with
  | register decompress contract =>
    by_cases hfree : (freeSlot session).isSome = true
    · exact .inr ⟨if_pos hfree, decompress, contract, rfl⟩
    · exact .inl ⟨if_neg hfree, .inr ⟨decompress, contract, rfl⟩⟩
  | reader action => exact .inl ⟨rfl, .inl rfl⟩
  | lost error => exact .inl ⟨rfl, .inl rfl⟩
  | checkCompletion slot => exact .inl ⟨rfl, .inl rfl⟩
  | finishCompletion slot => exact .inl ⟨rfl, .inl rfl⟩
  | unregister slot => exact .inl ⟨rfl, .inl rfl⟩

/-- The ids do not run out. -/
theorem le_nextStreamId {event : ConnectionEvent}
    (hturn : InTurn sharing (.connection event)) :
    sharing.connection.session.streamId ≤
        nextStreamId sharing.connection.session.streamId event ∧
      ∀ id ∈ registeredId sharing.connection.session event,
        id = sharing.connection.session.streamId ∧ id < 2 ^ 31 ∧
        id < nextStreamId sharing.connection.session.streamId event := by
  rcases registeredId_cases sharing.connection.session event with
    ⟨hnone, hkept | ⟨decompress, contract, rfl⟩⟩ | ⟨hone, decompress, contract, rfl⟩
  · rw [hnone, hkept]
    exact ⟨Nat.le_refl _, fun id hid => absurd hid List.not_mem_nil⟩
  · rw [hnone]
    have hsmall : sharing.connection.session.streamId < 2 ^ 31 := hturn
    refine ⟨?_, fun id hid => absurd hid List.not_mem_nil⟩
    rw [nextStreamId]
    omega
  · have hsmall : sharing.connection.session.streamId < 2 ^ 31 := hturn
    rw [hone, nextStreamId]
    refine ⟨by omega, fun id hid => ?_⟩
    rw [List.mem_singleton.mp hid]
    exact ⟨rfl, hsmall, by omega⟩

theorem stepSharing_connection {event : ConnectionEvent} (h : IdsInv sharing)
    (hturn : InTurn sharing (.connection event)) :
    IdsInv (stepSharing lib sharing (.connection event)) := by
  obtain ⟨hle, hnew⟩ := le_nextStreamId hturn
  have hnext : (stepSharing lib sharing (.connection event)).connection.session.streamId =
      nextStreamId sharing.connection.session.streamId event :=
    stepConnection_streamId lib sharing.connection event
  constructor
  · exact h.written
  · refine List.pairwise_append.mpr ⟨h.waiting, ?_, fun id hid other hother => ?_⟩
    · rcases registeredId_cases sharing.connection.session event with ⟨hnone, -⟩ | ⟨hone, -⟩
      · rw [hnone]
        exact .nil
      · rw [hone]
        exact List.pairwise_singleton _ _
    · rw [(hnew other hother).1]
      exact (h.taken id (List.mem_append_right _ hid)).2.2
  · intro id hid other hother
    rcases List.mem_append.mp hother with hold | hadded
    · exact h.order id hid other hold
    · rw [(hnew other hadded).1]
      exact (h.taken id (List.mem_append_left _ hid)).2.2
  · intro id hid
    rw [hnext]
    rcases List.mem_append.mp hid with hwritten | hwaiting
    · obtain ⟨hodd, hsmall, hlt⟩ := h.taken id (List.mem_append_left _ hwritten)
      exact ⟨hodd, hsmall, Nat.lt_of_lt_of_le hlt hle⟩
    · rcases List.mem_append.mp hwaiting with hold | hadded
      · obtain ⟨hodd, hsmall, hlt⟩ := h.taken id (List.mem_append_right _ hold)
        exact ⟨hodd, hsmall, Nat.lt_of_lt_of_le hlt hle⟩
      · obtain ⟨rfl, hsmall, hlt⟩ := hnew id hadded
        exact ⟨h.next, hsmall, hlt⟩
  · rw [hnext]
    exact nextStreamId_odd h.next event

theorem stepSharing_send {streamId : Nat} {write : Bytes → Bool} {stack : Bytes}
    {request : Http2Request} (h : IdsInv sharing)
    (hturn : InTurn sharing (.send streamId write stack request)) :
    IdsInv (stepSharing lib sharing (.send streamId write stack request)) := by
  unfold stepSharing
  dsimp only
  split
  · rename_i hmem
    have hid := h.taken streamId (List.mem_append_right _ hmem)
    have hwaiting : ∀ other ∈ sharing.waiting.erase streamId, other ∈ sharing.waiting :=
      fun other hother => List.mem_of_mem_erase hother
    have happend : headersIds (sharing.wire ++
        (handleHttp2Request write stack streamId request).1) =
          headersIds sharing.wire ++
            headersIds (handleHttp2Request write stack streamId request).1 :=
      List.filterMap_append
    rcases headersIds_handleHttp2Request write stack hid.2.1 request with hnone | hone
    · rw [hnone, List.append_nil] at happend
      constructor
      · rw [happend]
        exact h.written
      · exact h.waiting.erase streamId
      · rw [happend]
        exact fun id hwritten other hother => h.order id hwritten other (hwaiting other hother)
      · rw [happend]
        refine fun id hmember => h.taken id ?_
        rcases List.mem_append.mp hmember with hwritten | hother
        · exact List.mem_append_left _ hwritten
        · exact List.mem_append_right _ (hwaiting id hother)
      · exact h.next
    · have hsmallest : ∀ other ∈ sharing.waiting, streamId ≤ other :=
        hturn (by rw [hone]; exact List.cons_ne_nil _ _)
      have hnodup : sharing.waiting.Nodup := h.waiting.imp Nat.ne_of_lt
      rw [hone] at happend
      constructor
      · rw [happend]
        refine List.pairwise_append.mpr ⟨h.written, List.pairwise_singleton _ _, ?_⟩
        intro id hwritten other hother
        rw [List.mem_singleton.mp hother]
        exact h.order id hwritten streamId hmem
      · exact h.waiting.erase streamId
      · rw [happend]
        intro id hwritten other hother
        have hother' := hnodup.mem_erase_iff.mp hother
        rcases List.mem_append.mp hwritten with hbefore | hnow
        · exact h.order id hbefore other hother'.2
        · rw [List.mem_singleton.mp hnow]
          exact Nat.lt_of_le_of_ne (hsmallest other hother'.2) (Ne.symm hother'.1)
      · rw [happend]
        intro id hmember
        rcases List.mem_append.mp hmember with hwritten | hother
        · rcases List.mem_append.mp hwritten with hbefore | hnow
          · exact h.taken id (List.mem_append_left _ hbefore)
          · rw [List.mem_singleton.mp hnow]
            exact hid
        · exact h.taken id (List.mem_append_right _ (hwaiting id hother))
      · exact h.next
  · exact h

/-- As long as the requests write in the order of their ids, and ids are
left, the HEADERS frames on the wire have strictly increasing odd ids below
`2 ^ 31`: in every state of the run. -/
theorem runSharing_increasing (lib : DecoderLib) (headerTableSize : Nat)
    {events : List SharingEvent}
    (h : Meets (stepSharing lib) InTurn (share headerTableSize) events) (n : Nat) :
    let ids := headersIds (runSharing lib headerTableSize (events.take n)).wire
    ids.Pairwise (· < ·) ∧ ∀ id ∈ ids, id % 2 = 1 ∧ id < 2 ^ 31 := by
  rw [← List.take_append_drop n events, meets_append] at h
  have hstep : ∀ sharing event, IdsInv sharing → InTurn sharing event →
      IdsInv (stepSharing lib sharing event) := by
    intro sharing event hinv hturn
    cases event with
    | connection event => exact stepSharing_connection hinv hturn
    | send streamId write stack request => exact stepSharing_send hinv hturn
  have hinv : IdsInv (runSharing lib headerTableSize (events.take n)) :=
    run_keeps hstep h.1 (share_ids headerTableSize)
  refine ⟨hinv.written, fun id hid => ?_⟩
  obtain ⟨hodd, hsmall, -⟩ := hinv.taken id (List.mem_append_left _ hid)
  exact ⟨hodd, hsmall⟩

/-- `GET` without a payload, on a connection that takes every buffer. -/
def sendGet (streamId : Nat) : SharingEvent :=
  .send streamId (fun _ => true) [] ⟨[⟨ascii ":method", ascii "GET", true⟩], none, true⟩

theorem runSharing_increasing_two :
    let events : List SharingEvent :=
      [.connection (.register 0 none), .connection (.register 0 none), sendGet 1, sendGet 3]
    headersIds (runSharing noDecoders 4096 events).wire = [1, 3] ∧
      (headersIds (runSharing noDecoders 4096 events).wire).Pairwise (· < ·) := by
  intro events
  have hmeets : Meets (stepSharing noDecoders) InTurn (share 4096) events := by
    refine ⟨?_, ?_, fun _ => by decide +kernel, fun _ => by decide +kernel, trivial⟩
    · show (share 4096).connection.session.streamId < 2 ^ 31
      decide
    · show (stepSharing noDecoders (share 4096)
        (.connection (.register 0 none))).connection.session.streamId < 2 ^ 31
      decide +kernel
  exact ⟨by decide +kernel, (runSharing_increasing noDecoders 4096 hmeets 4).1⟩

/-- The first of two requests takes id 1 and is overtaken on its way to the
write lock. -/
theorem runSharing_overtaken :
    let events : List SharingEvent :=
      [.connection (.register 0 none), .connection (.register 0 none), sendGet 3, sendGet 1]
    headersIds (runSharing noDecoders 4096 events).wire = [3, 1] ∧
      ¬(headersIds (runSharing noDecoders 4096 events).wire).Pairwise (· < ·) := by
  intro events
  have hids : headersIds (runSharing noDecoders 4096 events).wire = [3, 1] := by decide +kernel
  refine ⟨hids, ?_⟩
  rw [hids]
  decide

end HttpRequestClient.Http2
