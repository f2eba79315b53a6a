import HttpRequestClient.Http2.Replies

/-!
# The answers of a whole run

Every stream that was registered is still in the registry or among those
that were removed.  `known_step` says what an event does to all of them:
a frame changes its own stream, a registration adds one, and everything else
keeps what the callers of `known_step` look at.

From that follow the two facts about resets.  `runAnswering_resets`: there
is one for each stream whose sink was cancelled.  `known_nodup`: as long as
the ids are not used up, no two streams have the same one.

`runConnection_replies` puts these together with the order of the replies
and with the batches.  `runConnection_replies_wrapped` is a run in which the
ids are used up.
-/

namespace HttpRequestClient.Http2

open Runs

/-! ## The request of a sink to stop -/

/-- The request of a cancelled sink was taken. -/
def Settled (stream : Stream) : Prop :=
  stream.cancellationTaken = stream.cancelled

/-- The flags of a sink about stopping are the same. -/
structure SameRequest (before after : Stream) : Prop where
  streamId : after.streamId = before.streamId
  cancelled : after.cancelled = before.cancelled
  taken : after.cancellationTaken = before.cancellationTaken

theorem finishCompletion_sameRequest (stream : Stream) :
    SameRequest stream (finishCompletion stream) := by
  unfold finishCompletion
  cases hsink : stream.sink with
  | none => exact ⟨rfl, rfl, rfl⟩
  | some sink =>
    cases hcontract : sink.contract with
    | none =>
      simp only [hcontract]
      exact ⟨rfl, by simp [Stream.cancelled, hsink], by simp [Stream.cancellationTaken, hsink]⟩
    | some contract =>
      simp only [hcontract]
      exact ⟨rfl, by simp [Stream.cancelled, hsink], by simp [Stream.cancellationTaken, hsink]⟩

theorem completeResponseSink_sameRequest (stream : Stream) :
    SameRequest stream (completeResponseSink stream) := by
  rw [completeResponseSink_eq]
  split
  · exact ⟨rfl, rfl, rfl⟩
  · exact finishCompletion_sameRequest stream

theorem failStream_sameRequest (session : Session) (onlyPending : Bool) (stream : Stream) :
    SameRequest stream (failStream session onlyPending stream) := by
  unfold failStream
  split
  · have hcomplete := completeResponseSink_sameRequest { stream with
      error := if session.connError ≠ none then session.connError
        else some ERR_RESPONSE_READING_CONNECTION_ERROR
      isEnded := true }
    exact ⟨hcomplete.streamId, hcomplete.cancelled, hcomplete.taken⟩
  · exact ⟨rfl, rfl, rfl⟩

theorem SameRequest.cancelledId? {before after : Stream} (h : SameRequest before after) :
    after.cancelledId? = before.cancelledId? := by
  rw [Stream.cancelledId?, Stream.cancelledId?, h.cancelled, h.streamId]

theorem SameRequest.settled {before after : Stream} (h : SameRequest before after)
    (hsettled : Settled before) : Settled after := by
  rw [Settled, h.cancelled, h.taken]
  exact hsettled

/-- The handler of a frame may cancel the sink of its stream, and does not
take the request. -/
theorem handleStreamFrame_request (lib : DecoderLib) (session : Session) (stream : Stream)
    (frame : Frame) :
    (stream.cancelled = true →
        (handleStreamFrame lib session stream frame).2.cancelled = true) ∧
      (handleStreamFrame lib session stream frame).2.cancellationTaken =
        stream.cancellationTaken := by
  have hrel : SinkRel Stops stream (handleStreamFrame lib session stream frame).2 := by
    refine handleStreamFrame_keeps (P := SinkRel Stops stream) lib session
      (fun before after _ hsink hbefore => ?_)
      (fun _ => appendStreamPayload_stops lib stream frame.payload)
      (fun _ _ _ hheaders =>
        SinkRel.trans (R := Stops) .trans hheaders (deliverResponseHeaders_stops lib _))
      (SinkRel.refl .refl stream)
    rw [SinkRel, hsink]
    exact hbefore
  rw [SinkRel] at hrel
  unfold Stream.cancelled Stream.cancellationTaken
  generalize (handleStreamFrame lib session stream frame).2.sink = after at hrel ⊢
  generalize stream.sink = before at hrel ⊢
  cases hrel with
  | none => exact ⟨id, rfl⟩
  | some hstops => exact ⟨hstops.cancelled, hstops.taken⟩

/-- The end of a frame takes the request of the sink, if there is one that
was not taken, and asks for a reset. -/
theorem endStreamReading_request (stream : Stream) (type : UInt8) (length : Nat) :
    let answer := endStreamReading stream type length
    answer.2.cancelled = stream.cancelled ∧
      answer.2.cancellationTaken =
        (stream.cancellationTaken || stream.cancelled) ∧
      answer.1.cancelStreamId =
        if stream.cancelled && !stream.cancellationTaken then stream.streamId
        else 0 := by
  have hended : SameRequest stream
      (if stream.isEnded = true then completeResponseSink stream else stream) := by
    split
    · exact completeResponseSink_sameRequest stream
    · exact ⟨rfl, rfl, rfl⟩
  unfold endStreamReading
  dsimp only
  rw [← hended.streamId, ← hended.cancelled, ← hended.taken]
  generalize (if stream.isEnded = true then completeResponseSink stream else stream) = ended
  cases hsink : ended.sink with
  | none => simp [isResponseStreaming, hsink, Stream.cancelled, Stream.cancellationTaken]
  | some sink =>
    by_cases hasks : ¬sink.cancelled = true ∨ sink.cancellationTaken = true
    · have htake : takeResponseCancellation ended = (false, ended) := by
        rw [takeResponseCancellation, hsink]
        exact if_pos hasks
      rw [htake]
      rcases hasks with hnone | htaken
      · simp [isResponseStreaming, hsink, Stream.cancelled, Stream.cancellationTaken, hnone]
      · simp [isResponseStreaming, hsink, Stream.cancelled, Stream.cancellationTaken, htaken]
    · have htake : takeResponseCancellation ended =
          (true, { ended with sink := some { sink with cancellationTaken := true } }) := by
        rw [takeResponseCancellation, hsink]
        exact if_neg hasks
      rw [not_or, Decidable.not_not, Bool.not_eq_true] at hasks
      rw [htake]
      simp only [isResponseStreaming, hsink, Option.isSome_some, not_true_eq_false, if_false]
      have hcomplete := completeResponseSink_sameRequest
        { ended with sink := some { sink with cancellationTaken := true }, isEnded := true }
      split
      · simp [Stream.cancelled, Stream.cancellationTaken, hasks, hsink]
      · rw [hcomplete.cancelled, hcomplete.taken, hcomplete.streamId]
        simp [Stream.cancelled, Stream.cancellationTaken, hasks, hsink]

theorem handleStreamFrame_streamId (lib : DecoderLib) (session : Session) (stream : Stream)
    (frame : Frame) :
    (handleStreamFrame lib session stream frame).2.streamId = stream.streamId := by
  refine handleStreamFrame_keeps (P := fun after => after.streamId = stream.streamId) lib
    session (fun before after hkept _ hbefore => hkept.trans hbefore)
    (fun _ => (appendStreamPayload_keeps lib stream frame.payload).streamId)
    (fun _ _ _ hafter => (deliverResponseHeaders_keeps lib _).streamId.trans hafter) rfl

/-- A frame settles the request of its stream, and asks for a reset when its
handler made the request. -/
theorem streamAfter_request (lib : DecoderLib) (session : Session) {stream : Stream}
    (frame : Frame) (hid : stream.streamId ≠ 0) (hsettled : Settled stream) :
    Settled (streamAfter lib session stream frame) ∧
      (streamAfter lib session stream frame).cancelledId?.toList =
        stream.cancelledId?.toList ++
          (if (readingAfter lib session stream frame).cancelStreamId ≠ 0 then
            [(readingAfter lib session stream frame).cancelStreamId] else []) := by
  have hsame := streamAfter_streamId lib session stream frame
  obtain ⟨hmono, htaken⟩ := handleStreamFrame_request lib session stream frame
  obtain ⟨hcancelled, htaken', hcancel⟩ := endStreamReading_request
    (handleStreamFrame lib session stream frame).2 frame.type frame.payload.length
  rw [handleStreamFrame_streamId, htaken, hsettled] at hcancel
  rw [htaken, hsettled] at htaken'
  have hafter : (streamAfter lib session stream frame).cancelled =
      (handleStreamFrame lib session stream frame).2.cancelled := hcancelled
  have hread : (readingAfter lib session stream frame).cancelStreamId = _ := hcancel
  refine ⟨?_, ?_⟩
  · rw [Settled, hafter]
    refine htaken'.trans ?_
    cases hbefore : stream.cancelled with
    | true => rw [hmono hbefore, Bool.or_true]
    | false => rw [Bool.false_or]
  · rw [Stream.cancelledId?, Stream.cancelledId?, hafter, hread, hsame]
    cases hbefore : stream.cancelled with
    | true => simp [hmono hbefore]
    | false =>
      cases hnow : (handleStreamFrame lib session stream frame).2.cancelled with
      | true => simp [hid]
      | false => simp

/-! ## All streams of a run -/

/-- The streams that were removed, and those that are registered. -/
def Answering.known (state : Answering) : List Stream :=
  state.replies.gone ++ Slots.entries state.connection.session.streams

/-- What only looks at the id and the request to stop does not see a
difference. -/
def Alike (before after : List Stream) : Prop :=
  ∀ (β : Type) (f : Stream → β), (∀ stream stream', SameRequest stream stream' →
    f stream' = f stream) → (after.map f).Perm (before.map f)

theorem Alike.of_perm {before after : List Stream} (h : after.Perm before) : Alike before after :=
  fun _ f _ => h.map f

theorem Alike.append_left {before after : List Stream} (gone : List Stream)
    (h : Alike before after) : Alike (gone ++ before) (gone ++ after) := by
  intro β f hf
  rw [List.map_append, List.map_append]
  exact (h β f hf).append_left _

theorem alike_map {g : Stream → Stream} (hg : ∀ stream, SameRequest stream (g stream))
    (streams : List Stream) : Alike streams (streams.map g) := by
  intro β f hf
  rw [List.map_map]
  refine List.Perm.of_eq (List.map_congr_left fun stream _ => ?_)
  exact hf stream (g stream) (hg stream)

theorem alike_modify {g : Stream → Stream} (hg : ∀ stream, SameRequest stream (g stream))
    (slots : List (Option Stream)) (slot : Nat) :
    Alike (Slots.entries slots) (Slots.entries (slots.modify slot (Option.map g))) := by
  intro β f hf
  cases hslot : slots[slot]? with
  | none =>
    rw [List.modify_eq_self (List.getElem?_eq_none_iff.mp hslot)]
  | some found =>
    have hset : slots.modify slot (Option.map g) = slots.set slot (found.map g) := by
      rw [List.modify_eq_set_getElem?, hslot]
      rfl
    rw [hset]
    cases found with
    | none =>
      rw [Option.map_none, Slots.set_eq_self hslot]
    | some stream =>
      have hlt := (List.getElem?_eq_some_iff.mp hslot).1
      have hafter := (Slots.perm_entries_set hlt (g stream)).map f
      have hbefore := (Slots.perm_entries_set_none hslot).map f
      rw [List.map_cons, hf stream (g stream) (hg stream)] at hafter
      rw [List.map_cons] at hbefore
      exact hafter.trans hbefore.symm

section Known

variable (lib : DecoderLib) (filler : UInt8) (state : Answering)

/-- A frame that is not one of a registered stream. -/
theorem readerDispatch_alike {frame : Frame}
    (h : frame.isStreamScoped = true → findStream state.connection.session frame.streamId = none) :
    Alike (Slots.entries state.connection.session.streams)
      (Slots.entries (readerDispatch lib state.connection.session frame).streams) := by
  have hsession :=
    (handleSessionFrame_handlerKeeps state.connection.session frame).streams
  by_cases hscoped : frame.isStreamScoped = true
  · rw [readerDispatch_unknown lib hscoped (h hscoped), hsession]
    exact .of_perm (.refl _)
  · have hacknowledged : (acknowledgeFrame
        (handleSessionFrame state.connection.session frame) frame).streams =
          state.connection.session.streams :=
      (acknowledged_keeps state.connection.session frame).1
    rw [readerDispatch, if_neg hscoped]
    dsimp only
    split
    · rw [failAllStreams, hacknowledged, Slots.entries_map]
      exact alike_map (failStream_sameRequest _ true) _
    · rw [hacknowledged]
      exact .of_perm (.refl _)

/-- A frame that is not one of a registered stream earns no reset. -/
theorem earned_reset_of_unknown {session : Session} {frame : Frame}
    (h : frame.isStreamScoped = true → findStream session frame.streamId = none) :
    (earned lib session frame).filterMap Reply.reset? = [] := by
  unfold earned
  split
  · rename_i hscoped
    rw [h hscoped]
    rfl
  · unfold acknowledgement
    split
    · rfl
    · split <;> rfl

/-- A frame of a registered stream is handled by it, and the others stay. -/
theorem known_dispatch {frame : Frame} {stream : Stream} (hscoped : frame.isStreamScoped = true)
    (hfind : findStream state.connection.session frame.streamId = some stream) :
    ∃ rest, state.known.Perm (stream :: rest) ∧
      (stepAnswering lib filler state (.reader (.dispatch frame))).known.Perm
        (streamAfter lib state.connection.session stream frame :: rest) := by
  obtain ⟨slot, hslot, hreplace⟩ := Slots.replace_eq_set hfind
    (streamAfter lib state.connection.session stream frame)
  refine ⟨state.replies.gone ++
    Slots.entries (state.connection.session.streams.set slot none), ?_, ?_⟩
  · exact ((Slots.perm_entries_set_none hslot).append_left _).trans List.perm_middle
  · have hstreams := readerDispatch_streams_found lib hscoped hfind
    have hknown : (stepAnswering lib filler state (.reader (.dispatch frame))).known =
        state.replies.gone ++ Slots.entries
          (readerDispatch lib state.connection.session frame).streams := rfl
    rw [hknown, hstreams, hreplace]
    have hlt := (List.getElem?_eq_some_iff.mp hslot).1
    exact ((Slots.perm_entries_set hlt _).append_left _).trans List.perm_middle

/-- What an event does to the streams of a run: a frame handles its stream, a
registration adds one, and everything else leaves them alike. -/
theorem known_step (event : ConnectionEvent) :
    (∃ frame stream rest, event = .reader (.dispatch frame) ∧ frame.isStreamScoped = true ∧
      findStream state.connection.session frame.streamId = some stream ∧
      state.known.Perm (stream :: rest) ∧
      (stepAnswering lib filler state event).known.Perm
        (streamAfter lib state.connection.session stream frame :: rest)) ∨
    (∃ decompress contract, event = .register decompress contract ∧
      (stepAnswering lib filler state event).known.Perm
        (newStream state.connection.session.streamId
          (some (buildResponseSink decompress contract)) :: state.known)) ∨
    ((eventReplies lib state.connection event).filterMap Reply.reset? = [] ∧
      Alike state.known (stepAnswering lib filler state event).known) := by
  cases event with
  | reader action =>
    cases action with
    | dispatch frame =>
      by_cases hfound : frame.isStreamScoped = true ∧
          findStream state.connection.session frame.streamId ≠ none
      · left
        obtain ⟨stream, hfind⟩ := Option.ne_none_iff_exists'.mp hfound.2
        obtain ⟨rest, hbefore, hafter⟩ := known_dispatch lib filler state hfound.1 hfind
        exact ⟨frame, stream, rest, rfl, hfound.1, hfind, hbefore, hafter⟩
      · right
        right
        have hnone : frame.isStreamScoped = true →
            findStream state.connection.session frame.streamId = none :=
          fun hscoped => by_contra fun hne => hfound ⟨hscoped, hne⟩
        exact ⟨earned_reset_of_unknown lib hnone,
          (readerDispatch_alike lib state hnone).append_left _⟩
    | flush =>
      refine .inr (.inr ⟨?_, .of_perm ?_⟩)
      · rw [eventReplies, dueUpdate]
        split <;> rfl
      · refine List.Perm.of_eq (congrArg (state.replies.gone ++ ·) ?_)
        show Slots.entries (flushReaderWrites state.connection).session.streams = _
        unfold flushReaderWrites
        dsimp only
        split
        · split <;> rfl
        · rfl
  | lost error =>
    refine .inr (.inr ⟨rfl, Alike.append_left _ ?_⟩)
    show Alike _ (Slots.entries (loseConnection state.connection.session error).streams)
    rw [loseConnection, failAllStreams, Slots.entries_map]
    exact alike_map (failStream_sameRequest _ false) _
  | register decompress contract =>
    cases hfree : freeSlot state.connection.session with
    | none =>
      refine .inr (.inr ⟨rfl, .of_perm (List.Perm.of_eq (congrArg (state.replies.gone ++ ·) ?_))⟩)
      show Slots.entries (registerStream state.connection.session _).streams = _
      rw [registerStream_full hfree]
    | some slot =>
      refine .inr (.inl ⟨decompress, contract, rfl, ?_⟩)
      have hknown : (stepAnswering lib filler state (.register decompress contract)).known =
          state.replies.gone ++ Slots.entries (registerStream state.connection.session
            (some (buildResponseSink decompress contract))).streams := rfl
      rw [hknown, registerStream_free hfree]
      exact ((Slots.perm_entries_set_some (streamAt_freeSlot hfree).1 _).append_left _).trans
        List.perm_middle
  | checkCompletion slot =>
    refine .inr (.inr ⟨rfl, .of_perm (List.Perm.of_eq (congrArg (state.replies.gone ++ ·) ?_))⟩)
    exact congrArg (fun session : Session => Slots.entries session.streams)
      (checkCompletion_session state.connection slot)
  | finishCompletion slot =>
    refine .inr (.inr ⟨rfl, Alike.append_left _ ?_⟩)
    show Alike _ (Slots.entries (passCompletion state.connection slot).session.streams)
    unfold passCompletion
    split
    · exact alike_modify finishCompletion_sameRequest _ slot
    · exact .of_perm (.refl _)
  | unregister slot =>
    refine .inr (.inr ⟨rfl, .of_perm ?_⟩)
    have hknown : (stepAnswering lib filler state (.unregister slot)).known =
        state.replies.gone ++ (streamAt state.connection.session slot).toList ++
          Slots.entries (state.connection.session.streams.set slot none) := rfl
    rw [hknown, List.append_assoc]
    exact (Slots.perm_entries_join _ slot).append_left _

end Known

/-! ## Resets -/

theorem filterMap_cons_toList {α β : Type} (f : α → Option β) (a : α) (l : List α) :
    (a :: l).filterMap f = (f a).toList ++ l.filterMap f := by
  cases h : f a <;> simp [h]

theorem Alike.filterMap {before after : List Stream} (h : Alike before after) :
    (after.filterMap Stream.cancelledId?).Perm (before.filterMap Stream.cancelledId?) := by
  have hperm := (h _ Stream.cancelledId? fun _ _ hsame => hsame.cancelledId?).filterMap id
  rw [List.filterMap_map, List.filterMap_map] at hperm
  exact hperm

/-- The reset that a frame of a registered stream earns. -/
theorem earned_reset_of_found {lib : DecoderLib} {session : Session} {frame : Frame}
    {stream : Stream} (hscoped : frame.isStreamScoped = true)
    (hfind : findStream session frame.streamId = some stream) :
    (earned lib session frame).filterMap Reply.reset? =
      if (readingAfter lib session stream frame).cancelStreamId ≠ 0 then
        [(readingAfter lib session stream frame).cancelStreamId] else [] := by
  have hupdate : (streamUpdate session frame.streamId
      (readingAfter lib session stream frame)).toList.filterMap Reply.reset? = [] := by
    cases h : streamUpdate session frame.streamId (readingAfter lib session stream frame) with
    | none => rfl
    | some reply =>
      obtain ⟨increment, rfl⟩ := streamUpdate_eq h
      rfl
  rw [earned, if_pos hscoped, hfind]
  dsimp only
  rw [List.filterMap_append, hupdate, List.nil_append, resetReply]
  split <;> rfl

/-- There is one reset for each stream of the run whose sink was cancelled. -/
structure ResetInv (state : Answering) : Prop where
  requests : RequestsOnly state.connection.session
  settled : EveryStream Settled state.connection.session
  resets : (state.replies.all.filterMap Reply.reset?).Perm
    (state.known.filterMap Stream.cancelledId?)

theorem stepAnswering_resets (lib : DecoderLib) (filler : UInt8) {state : Answering}
    (h : ResetInv state) (event : ConnectionEvent) :
    ResetInv (stepAnswering lib filler state event) where
  requests := stepConnection_requestsOnly lib h.requests event
  settled := by
    refine stepConnection_every lib h.settled (fun frame _ stream hfind hstream => ?_)
      (fun session onlyPending stream => (failStream_sameRequest session onlyPending stream).settled)
      (fun _ _ _ => rfl) (fun _ _ _ stream _ => (finishCompletion_sameRequest stream).settled)
    have hodd := (h.requests.streams.find hfind).1
    exact (streamAfter_request lib _ frame (by omega) hstream).1
  resets := by
    rw [stepAnswering, stepReplies_all, List.filterMap_append]
    rcases known_step lib filler state event with
      ⟨frame, stream, rest, rfl, hscoped, hfind, hbefore, hafter⟩ |
      ⟨decompress, contract, rfl, hafter⟩ | ⟨hnone, halike⟩
    · have hodd := (h.requests.streams.find hfind).1
      have hrequest := (streamAfter_request lib state.connection.session frame
        (by omega : stream.streamId ≠ 0) (h.settled.find hfind)).2
      have hknown := h.resets.trans (hbefore.filterMap _)
      rw [filterMap_cons_toList] at hknown
      refine List.Perm.trans ?_ (hafter.filterMap _).symm
      rw [eventReplies, earned_reset_of_found hscoped hfind, filterMap_cons_toList, hrequest,
        List.append_assoc]
      refine (hknown.append_right _).trans ?_
      rw [List.append_assoc]
      exact List.Perm.append_left _ List.perm_append_comm
    · have hnone : eventReplies lib state.connection (.register decompress contract) = [] := rfl
      refine List.Perm.trans ?_ (hafter.filterMap _).symm
      rw [hnone, List.filterMap_nil, List.append_nil]
      exact h.resets
    · rw [hnone, List.append_nil]
      exact h.resets.trans halike.filterMap.symm

theorem runAnswering_resets (lib : DecoderLib) (filler : UInt8) (headerTableSize : Nat)
    (events : List ConnectionEvent) :
    ResetInv (runAnswering lib filler headerTableSize events) := by
  refine run_invariant (P := ResetInv) (fun _ event h => stepAnswering_resets lib filler h event)
    events ⟨(connect_flowInv headerTableSize).requests, connect_every headerTableSize, ?_⟩
  · show List.Perm [] (([] ++ Slots.entries (connect headerTableSize).session.streams).filterMap _)
    rw [entries_connect]
    exact .refl _

/-! ## Ids -/

def isRegister : ConnectionEvent → Bool
  | .register _ _ => true
  | _ => false

/-- The registrations of a run, also those that find no slot. -/
def registrations (events : List ConnectionEvent) : Nat := events.countP isRegister

/-- The ids are the odd numbers in their order, until they are used up. -/
structure IdInv (events : List ConnectionEvent) (state : Answering) : Prop where
  next : state.connection.session.streamId = (1 + 2 * registrations events) % 2 ^ 32
  below : ∀ stream ∈ state.known, stream.streamId < 1 + 2 * registrations events
  nodup : registrations events ≤ 2 ^ 31 → (state.known.map Stream.streamId).Nodup

theorem registrations_snoc (events : List ConnectionEvent) (event : ConnectionEvent) :
    registrations (events ++ [event]) =
      registrations events + if isRegister event then 1 else 0 := by
  rw [registrations, List.countP_append, List.countP_singleton, registrations]

theorem IdInv.next_snoc {events : List ConnectionEvent} {state : Answering} (h : IdInv events state)
    (lib : DecoderLib) (filler : UInt8) (event : ConnectionEvent) :
    (stepAnswering lib filler state event).connection.session.streamId =
      (1 + 2 * registrations (events ++ [event])) % 2 ^ 32 := by
  have hnext := stepConnection_streamId lib state.connection event
  rw [stepAnswering, hnext, registrations_snoc, h.next]
  cases event with
  | register decompress contract =>
    show ((1 + 2 * registrations events) % 2 ^ 32 + 2) % 0x100000000 =
      (1 + 2 * (registrations events + 1)) % 2 ^ 32
    omega
  | reader action => rfl
  | lost error => rfl
  | checkCompletion slot => rfl
  | finishCompletion slot => rfl
  | unregister slot => rfl

/-- Streams with different ids have different ids when they are cancelled. -/
theorem nodup_cancelledIds {streams : List Stream} (h : (streams.map Stream.streamId).Nodup) :
    (streams.filterMap Stream.cancelledId?).Nodup := by
  refine h.sublist ?_
  induction streams with
  | nil => exact .slnil
  | cons stream streams ih =>
    have hrest := ih (List.nodup_cons.mp h).2
    rw [filterMap_cons_toList, List.map_cons, Stream.cancelledId?]
    split
    · exact hrest.cons_cons stream.streamId
    · exact hrest.cons stream.streamId

/-- Events that leave the streams alike keep the ids. -/
theorem IdInv.of_ids {events : List ConnectionEvent} {state : Answering} (h : IdInv events state)
    (lib : DecoderLib) (filler : UInt8) (event : ConnectionEvent)
    (hids : ((stepAnswering lib filler state event).known.map Stream.streamId).Perm
      (state.known.map Stream.streamId)) :
    IdInv (events ++ [event]) (stepAnswering lib filler state event) := by
  have hmore := registrations_snoc events event
  refine ⟨h.next_snoc lib filler event, ?_, ?_⟩
  · intro stream hstream
    obtain ⟨other, hother, hid⟩ := List.mem_map.mp
      (hids.mem_iff.mp (List.mem_map_of_mem hstream))
    have hlt := h.below other hother
    omega
  · intro hle
    exact (hids.nodup_iff).mpr (h.nodup (by omega))

theorem stepAnswering_ids (lib : DecoderLib) (filler : UInt8) {events : List ConnectionEvent}
    {state : Answering} (h : IdInv events state) (event : ConnectionEvent) :
    IdInv (events ++ [event]) (stepAnswering lib filler state event) := by
  rcases known_step lib filler state event with
    ⟨frame, stream, rest, rfl, -, -, hbefore, hafter⟩ | ⟨decompress, contract, rfl, hafter⟩ |
    ⟨-, halike⟩
  · refine h.of_ids lib filler _ ?_
    have hids := hafter.map Stream.streamId
    rw [List.map_cons, streamAfter_streamId, ← List.map_cons] at hids
    exact hids.trans (hbefore.map Stream.streamId).symm
  · have hmore : registrations (events ++ [.register decompress contract]) =
        registrations events + 1 := registrations_snoc events _
    have hids := hafter.map Stream.streamId
    rw [List.map_cons] at hids
    have hnew : (newStream state.connection.session.streamId
        (some (buildResponseSink decompress contract))).streamId =
          (1 + 2 * registrations events) % 2 ^ 32 := h.next
    rw [hnew] at hids
    refine ⟨h.next_snoc lib filler _, ?_, ?_⟩
    · intro other hother
      have hmem := hids.mem_iff.mp (List.mem_map_of_mem hother)
      rcases List.mem_cons.mp hmem with hid | hold
      · rw [hid, hmore]
        omega
      · obtain ⟨known, hknown, hid⟩ := List.mem_map.mp hold
        have hlt := h.below known hknown
        omega
    · intro hle
      rw [hids.nodup_iff, List.nodup_cons]
      refine ⟨fun hmem => ?_, h.nodup (by omega)⟩
      obtain ⟨known, hknown, hid⟩ := List.mem_map.mp hmem
      have hlt := h.below known hknown
      omega
  · exact h.of_ids lib filler event (halike _ Stream.streamId fun _ _ hsame => hsame.streamId)

theorem runAnswering_ids (lib : DecoderLib) (filler : UInt8) (headerTableSize : Nat)
    (events : List ConnectionEvent) :
    IdInv events (runAnswering lib filler headerTableSize events) := by
  induction events using List.reverseRecOn with
  | nil =>
    have hempty : (runAnswering lib filler headerTableSize []).known = [] := by
      show [] ++ Slots.entries (connect headerTableSize).session.streams = []
      rw [entries_connect, List.nil_append]
    refine ⟨rfl, ?_, ?_⟩
    · rw [hempty]
      exact fun stream hstream => absurd hstream List.not_mem_nil
    · rw [hempty]
      exact fun _ => .nil
  | append_singleton events event ih =>
    rw [runAnswering_snoc]
    exact stepAnswering_ids lib filler ih event

/-! ## Batches -/

def Reply.isConnectionUpdate : Reply → Bool
  | .windowUpdate streamId _ => streamId = 0
  | _ => false

/-- At most one update of the connection, and nothing behind it. -/
def InBatch (batch : List Reply) : Prop :=
  ∃ (front : List Reply) (last : Option Reply), batch = front ++ last.toList ∧
    (∀ reply ∈ front, reply.isConnectionUpdate = false) ∧
    ∀ reply ∈ last, reply.isConnectionUpdate = true

structure BatchInv (state : Answering) : Prop where
  requests : RequestsOnly state.connection.session
  queued : ∀ reply ∈ state.replies.queued, reply.isConnectionUpdate = false
  written : ∀ batch ∈ state.replies.written, InBatch batch

theorem earned_stream {lib : DecoderLib} {session : Session} (hrequests : RequestsOnly session)
    {frame : Frame} {reply : Reply} (h : reply ∈ earned lib session frame) :
    reply.isConnectionUpdate = false := by
  unfold earned at h
  split at h
  · cases hfind : findStream session frame.streamId with
    | none =>
      rw [hfind] at h
      cases h
    | some stream =>
      rw [hfind] at h
      rcases List.mem_append.mp h with hupdate | hreset
      · obtain ⟨increment, rfl⟩ := streamUpdate_eq (Option.mem_toList.mp hupdate)
        exact decide_eq_false (streamId_ne_zero hrequests hfind)
      · rw [resetReply_eq (Option.mem_toList.mp hreset)]
        rfl
  · have hack := isAck_acknowledgement (Option.mem_toList.mp h)
    cases reply with
    | windowUpdate streamId increment => cases hack
    | settingsAck => rfl
    | pingAck data => rfl
    | rstStream streamId => rfl

theorem stepAnswering_batches (lib : DecoderLib) (filler : UInt8) {state : Answering}
    (h : BatchInv state) (event : ConnectionEvent) :
    BatchInv (stepAnswering lib filler state event) := by
  have hrequests := stepConnection_requestsOnly lib h.requests event
  cases event with
  | reader action =>
    cases action with
    | dispatch frame =>
      refine ⟨hrequests, fun reply hreply => ?_, h.written⟩
      rcases List.mem_append.mp hreply with hold | hnew
      · exact h.queued reply hold
      · exact earned_stream h.requests hnew
    | flush =>
      refine ⟨hrequests, fun reply hreply => (by cases hreply), fun batch hbatch => ?_⟩
      rcases List.mem_append.mp hbatch with hold | hnew
      · exact h.written batch hold
      · refine ⟨state.replies.queued, dueUpdate state.connection.session,
          List.mem_singleton.mp hnew, h.queued, fun reply hreply => ?_⟩
        unfold dueUpdate at hreply
        split at hreply
        · cases hreply
          rfl
        · cases hreply
  | lost error => exact ⟨hrequests, h.queued, h.written⟩
  | register decompress contract => exact ⟨hrequests, h.queued, h.written⟩
  | checkCompletion slot => exact ⟨hrequests, h.queued, h.written⟩
  | finishCompletion slot => exact ⟨hrequests, h.queued, h.written⟩
  | unregister slot => exact ⟨hrequests, h.queued, h.written⟩

theorem runAnswering_batches (lib : DecoderLib) (filler : UInt8) (headerTableSize : Nat)
    (events : List ConnectionEvent) :
    BatchInv (runAnswering lib filler headerTableSize events) :=
  run_invariant (P := BatchInv) (fun _ event h => stepAnswering_batches lib filler h event) events
    ⟨(connect_flowInv headerTableSize).requests, fun _ hreply => (by cases hreply),
      fun _ hbatch => (by cases hbatch)⟩

/-! ## Whole runs -/

/-- What the reader hands to the connection, with an array that grows, are
the replies that the frames earn: whole frames; the acknowledgements of the
SETTINGS and PING frames in their order; the updates of the ledger in their
order, that of the connection at the end of a batch; and one reset for each
stream whose sink was cancelled, so that an id that was used once is reset
at most once. -/
theorem runConnection_replies (lib : DecoderLib) (filler : UInt8) (headerTableSize : Nat)
    {pieces : List Piece} {events : List ConnectionEvent} (hreads : Reads pieces events) :
    let state := runAnswering lib filler headerTableSize events
    let replies := state.replies
    (state.connection = runConnection lib headerTableSize events ∧
      state.queue.handed = state.connection.sent ∧
      state.connection.sent = wireOctets replies.written.flatten ∧
      frameCutter.all state.connection.sent = (replies.written.flatten.map Reply.frame, []) ∧
      state.connection.session.pendingWire = wireOctets replies.queued) ∧
    replies.all.filter Reply.isAck = (runFrames events).filterMap acknowledgement ∧
    replies.all.filterMap Reply.update? = (runLedger lib headerTableSize events).grants ∧
    (∀ batch ∈ replies.written, InBatch batch) ∧
    (replies.all.filterMap Reply.reset?).Perm (state.known.filterMap Stream.cancelledId?) ∧
    (registrations events ≤ 2 ^ 31 → (replies.all.filterMap Reply.reset?).Nodup) := by
  intro state replies
  have hwire := runAnswering_onWire lib filler headerTableSize events
  have hfits : ∀ reply ∈ replies.all, reply.Fits := runAnswering_fits hreads
  have hresets := (runAnswering_resets lib filler headerTableSize events).resets
  have hids := (runAnswering_ids lib filler headerTableSize events).nodup
  refine ⟨⟨runAnswering_connection events, hwire.handed, hwire.sent, ?_, hwire.queued⟩,
    runAnswering_acks events, runAnswering_updates hreads,
    (runAnswering_batches lib filler headerTableSize events).written, hresets, fun hle => ?_⟩
  · rw [hwire.sent]
    exact all_wireOctets fun reply hreply => hfits reply (List.mem_append_left _ hreply)
  · rw [hresets.nodup_iff]
    exact nodup_cancelledIds (hids hle)

/-- The consumer stops at the first chunk, and its stream is reset. -/
theorem runConnection_replies_stopped :
    let events : List ConnectionEvent :=
      [.register 0 (some ⟨fun _ _ => 1⟩), .reader (.dispatch dataFrame), .reader .flush]
    (runAnswering noDecoders 0 4096 events).queue.handed = (Reply.rstStream 1).octets := by
  intro events
  have hreads : Reads [dataPiece] events := by
    rw [Reads, readerTrace_dataPiece]
    exact List.prefix_refl _
  have hreplies := (runConnection_replies noDecoders 0 4096 hreads).1
  rw [hreplies.2.1, hreplies.2.2.1]
  decide +kernel

/-! ## Ids that are used up -/

/-- The replies that events add, one after the other. -/
def answers (lib : DecoderLib) : Connection → List ConnectionEvent → List Reply
  | _, [] => []
  | connection, event :: events =>
    eventReplies lib connection event ++ answers lib (stepConnection lib connection event) events

theorem answers_append (lib : DecoderLib) (connection : Connection)
    (events later : List ConnectionEvent) :
    answers lib connection (events ++ later) =
      answers lib connection events ++
        answers lib (run (stepConnection lib) connection events) later := by
  induction events generalizing connection with
  | nil => rfl
  | cons event events ih =>
    rw [List.cons_append, answers, answers, ih, run_cons, List.append_assoc]

theorem answers_quiet (lib : DecoderLib) (connection : Connection)
    {events : List ConnectionEvent} (h : readerActions events = []) :
    answers lib connection events = [] := by
  induction events generalizing connection with
  | nil => rfl
  | cons event events ih =>
    cases event with
    | reader action => cases h
    | lost error => exact ih _ h
    | register decompress contract => exact ih _ h
    | checkCompletion slot => exact ih _ h
    | finishCompletion slot => exact ih _ h
    | unregister slot => exact ih _ h

theorem runAnswering_answers (lib : DecoderLib) (filler : UInt8) (headerTableSize : Nat)
    (events : List ConnectionEvent) :
    (runAnswering lib filler headerTableSize events).replies.all =
      answers lib (connect headerTableSize) events := by
  induction events using List.reverseRecOn with
  | nil => rfl
  | append_singleton events event ih =>
    rw [runAnswering_snoc, stepAnswering, stepReplies_all, runAnswering_connection, ih,
      answers_append, answers, answers, List.append_nil]
    rfl

/-- Requests that take an id each and are given up before they send
anything. -/
def unsentRequests (n : Nat) : List ConnectionEvent :=
  (List.replicate n [.register 0 none, .unregister 0]).flatten

theorem unsentRequests_succ (n : Nat) :
    unsentRequests (n + 1) = .register 0 none :: .unregister 0 :: unsentRequests n := rfl

theorem readerActions_unsentRequests (n : Nat) : readerActions (unsentRequests n) = [] := by
  induction n with
  | zero => rfl
  | succ n ih =>
    rw [unsentRequests_succ]
    exact ih

/-- The same connection with another next id. -/
def Connection.withNextId (connection : Connection) (streamId : Nat) : Connection :=
  { connection with session := { connection.session with streamId := streamId } }

/-- A request that sends nothing leaves only its id behind. -/
theorem stepConnection_unsent (lib : DecoderLib) {connection : Connection}
    {streams : List (Option Stream)} (hfree : connection.session.streams = none :: streams) :
    stepConnection lib (stepConnection lib connection (.register 0 none)) (.unregister 0) =
      connection.withNextId ((connection.session.streamId + 2) % 2 ^ 32) := by
  have hslot : connection.session.streams.findIdx? Option.isNone = some 0 := by
    rw [hfree]
    rfl
  have hset : (connection.session.streams.set 0 (some (newStream connection.session.streamId
      (some (buildResponseSink 0 none))))).set 0 none = connection.session.streams := by
    rw [hfree]
    rfl
  show ({ connection with session := unregisterStream (registerStream connection.session _) 0 } :
    Connection) = _
  rw [registerStream]
  dsimp only
  rw [hslot, unregisterStream]
  dsimp only
  rw [hset]
  rfl

theorem run_unsentRequests (lib : DecoderLib) {connection : Connection}
    {streams : List (Option Stream)} (hfree : connection.session.streams = none :: streams)
    (hid : connection.session.streamId < 2 ^ 32) (n : Nat) :
    run (stepConnection lib) connection (unsentRequests n) =
      connection.withNextId ((connection.session.streamId + 2 * n) % 2 ^ 32) := by
  induction n generalizing connection with
  | zero =>
    rw [Nat.mul_zero, Nat.add_zero, Nat.mod_eq_of_lt hid]
    rfl
  | succ n ih =>
    have hnext : ((connection.session.streamId + 2) % 2 ^ 32 + 2 * n) % 2 ^ 32 =
        (connection.session.streamId + 2 * (n + 1)) % 2 ^ 32 := by
      omega
    rw [unsentRequests_succ, run_cons, run_cons, stepConnection_unsent lib hfree]
    have hlt : (connection.session.streamId + 2) % 2 ^ 32 < 2 ^ 32 := Nat.mod_lt _ (by decide)
    have hrest := @ih (connection.withNextId ((connection.session.streamId + 2) % 2 ^ 32))
      hfree hlt
    rw [hrest, ← hnext]
    rfl

/-- A request whose consumer stops at the first chunk of its response. -/
def stoppedRequest : List ConnectionEvent :=
  [.register 0 (some ⟨fun _ _ => 1⟩), .reader (.dispatch dataFrame), .reader .flush,
    .unregister 0]

/-- Behind 2^31 registrations id 1 is given out again, and its second stream
is reset as well. -/
theorem runConnection_replies_wrapped :
    let events := stoppedRequest ++ unsentRequests (2 ^ 31 - 1) ++ stoppedRequest
    Reads [dataPiece, dataPiece] events ∧
      ¬((runAnswering noDecoders 0 4096 events).replies.all.filterMap Reply.reset?).Nodup := by
  intro events
  have hactions : readerActions events =
      [.dispatch dataFrame, .flush, .dispatch dataFrame, .flush] := by
    rw [readerActions, List.filterMap_append, List.filterMap_append]
    rw [show (unsentRequests (2 ^ 31 - 1)).filterMap readerAction? = [] from
      readerActions_unsentRequests _]
    rfl
  have htrace : readerTrace [dataPiece, dataPiece] =
      [.dispatch dataFrame, .flush, .dispatch dataFrame, .flush] := by
    have hcut : frameCutter.cut dataPiece.bytes = some (dataFrame, []) := by decide
    have htrace := readerTrace_append [dataPiece] dataPiece
    have hacc : (recordReading [dataPiece]).acc ++ dataPiece.bytes = dataPiece.bytes := by
      have hempty : (recordReading []).acc ++ dataPiece.bytes = dataPiece.bytes := rfl
      have happend := congrArg Reading.acc (recordReading_append [] dataPiece)
      rw [hempty, frameCutter.all_of_some hcut, frameCutter.all_nil] at happend
      rw [show (recordReading [dataPiece]).acc = [] from happend, List.nil_append]
    rw [readerTrace_dataPiece, hacc, frameCutter.all_of_some hcut, frameCutter.all_nil] at htrace
    exact htrace
  refine ⟨?_, ?_⟩
  · rewrite [Reads, hactions, htrace]
    exact List.prefix_refl _
  · generalize hbusy : run (stepConnection noDecoders) (connect 4096) stoppedRequest = busy
    have hfree : busy.session.streams = none :: List.replicate 255 none := by
      rw [← hbusy]
      rfl
    have hnext : busy.session.streamId = 3 := by
      rw [← hbusy]
      rfl
    have hwrapped : run (stepConnection noDecoders) busy (unsentRequests (2 ^ 31 - 1)) =
        busy.withNextId 1 := by
      rw [run_unsentRequests noDecoders hfree (by rw [hnext]; decide), hnext]
      exact congrArg busy.withNextId (by decide)
    have hfirst : (answers noDecoders (connect 4096) stoppedRequest).filterMap Reply.reset? =
        [1] := by
      decide +kernel
    have hsecond : (answers noDecoders (busy.withNextId 1) stoppedRequest).filterMap
        Reply.reset? = [1] := by
      rw [← hbusy]
      decide +kernel
    rw [runAnswering_answers, answers_append, answers_append, run_append, hbusy, hwrapped,
      answers_quiet noDecoders busy (readerActions_unsentRequests _), List.append_nil,
      List.filterMap_append, hfirst, hsecond]
    decide

end HttpRequestClient.Http2
