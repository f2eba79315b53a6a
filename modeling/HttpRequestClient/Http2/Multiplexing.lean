import HttpRequestClient.Http2.SplitBlocks
import HttpRequestClient.Http2.ResponseBlocks

/-!
# Many responses on one connection

The requests of a session share one connection and one HPACK decoder.  A
server answers them in any order: the frames of their responses are mixed,
only the frames of a header block stand together.

`Conversation` is the connection as the requests should see it: every request
has an inbox, and what the server sends to its stream is put into it, header
blocks as the list of fields that the encoder meant.  A stream is then a
function of its inbox (`Conversation.view`).

* `Allowed` is what the server and the request threads have to keep to.
* `stepConversation_reflects`: one event keeps the registry of the session a
  view of the inboxes, and the decoder the mirror of the encoder.
* `runConversation_streams`: so does every run.

Left out: GOAWAY and the loss of the connection, which end the streams, and
requests that could not be sent.
-/

namespace HttpRequestClient.Http2

open Hpack Rfc7541 Runs

/-! ## What arrives for a stream -/

inductive Arrival where
  | headers (fields : List ResponseHeader) (endStream : Bool)
  | data (chunk : Bytes) (endStream : Bool)
  /-- RST_STREAM with this payload. -/
  | reset (payload : Bytes)

/-- The error that `handleRST_STREAMFrame` notes for a stream. -/
def resetError (payload : Bytes) : Error :=
  if payload.length = 4 then
    if uint32At payload 0 = 0xd then ERR_SESSION_HTTP_1_1_REQUIRED
    else { ERR_RESPONSE_RST_STREAM_ERROR with msg := getErrorName (uint32At payload 0) }
  else { ERR_RESPONSE_RST_STREAM_ERROR with msg := "Invalid RST_STREAM frame length" }

/-- The stream behind an arrival. -/
def afterArrival (lib : DecoderLib) (stream : Stream) : Arrival → Stream
  | .headers fields endStream =>
    settle (ending (delivered lib { stream with headers := some fields }) endStream)
  | .data chunk endStream => settle (ending (appendStreamPayload lib stream chunk).2 endStream)
  | .reset payload =>
    settle { stream with error := some (resetError payload), isEnded := true }

/-- What the response of a request is made of. -/
structure Inbox where
  streamId : Nat
  decompress : Nat
  contract : Option ResponseStream
  arrivals : List Arrival

def Inbox.new (inbox : Inbox) : Stream :=
  newStream inbox.streamId (some (buildResponseSink inbox.decompress inbox.contract))

/-- The stream of an inbox. -/
def Inbox.stream (lib : DecoderLib) (inbox : Inbox) : Stream :=
  run (afterArrival lib) inbox.new inbox.arrivals

def Inbox.add (inbox : Inbox) (arrival : Arrival) : Inbox :=
  { inbox with arrivals := inbox.arrivals ++ [arrival] }

/-! ## The conversation -/

/-- A header block whose last frame was not sent yet. -/
structure OpenSending where
  streamId : Nat
  reps : List Representation
  sent : Bytes
  next : Bytes
  later : List Bytes

def OpenSending.block (sending : OpenSending) : Bytes :=
  sending.sent ++ sending.next ++ sending.later.flatten

/-- The next CONTINUATION frame. -/
def OpenSending.frame (sending : OpenSending) : Frame :=
  ⟨0x9, if sending.later.isEmpty then 0x4 else 0, sending.streamId, sending.next⟩

/-- Behind a frame that is not the last one. -/
def OpenSending.advance (sending : OpenSending) (next : Bytes) (later : List Bytes) :
    OpenSending :=
  { sending with
    sent := sending.sent ++ sending.next
    next := next
    later := later }

/-- The requests in their slots, the id of the next one, and the encoder of
the server. -/
structure Conversation where
  inboxes : List (Option Inbox)
  nextId : Nat
  table : Table
  sending : Option OpenSending

inductive Exchange where
  | register (decompress : Nat) (contract : Option ResponseStream)
  | unregister (slot : Nat)
  /-- The HEADERS frame of a block, which the encoder made of `reps`. -/
  | headers (streamId : Nat) (cut : HeadersCut) (reps : List Representation)
  /-- The next frame of the open block. -/
  | continuation
  | data (streamId : Nat) (chunk : Bytes) (endStream : Bool)
  | reset (streamId : Nat) (payload : Bytes)
  /-- A frame of the connection. -/
  | connection (frame : Frame)
  /-- The reader ends a batch. -/
  | flush

namespace Conversation

variable (conversation : Conversation)

def find (streamId : Nat) : Option Inbox :=
  Slots.find Inbox.streamId streamId conversation.inboxes

/-- Put an arrival into the inbox of a stream, if there is one. -/
def give (streamId : Nat) (arrival : Arrival) : Conversation :=
  match conversation.find streamId with
  | none => conversation
  | some inbox =>
    { conversation with
      inboxes := Slots.replace Inbox.streamId streamId (inbox.add arrival) conversation.inboxes }

/-- The end of a block: its fields are known, and the encoder goes on. -/
def giveBlock (streamId : Nat) (reps : List Representation) (endStream : Bool) : Conversation :=
  match conversation.table.run reps with
  | none => conversation
  | some (table, fields) =>
    { conversation.give streamId (.headers fields endStream) with table := table }

def register (decompress : Nat) (contract : Option ResponseStream) : Conversation :=
  let inbox : Inbox := ⟨conversation.nextId, decompress, contract, []⟩
  let nextId := (conversation.nextId + 2) % 0x100000000
  match conversation.inboxes.findIdx? Option.isNone with
  | none => { conversation with nextId := nextId }
  | some slot =>
    { conversation with
      nextId := nextId
      inboxes := conversation.inboxes.set slot (some inbox) }

def sendHeaders (streamId : Nat) (cut : HeadersCut) (reps : List Representation) :
    Conversation :=
  match cut.continuations with
  | [] => conversation.giveBlock streamId reps cut.endStream
  | next :: later => { conversation with sending := some ⟨streamId, reps, cut.first, next, later⟩ }

def sendContinuation : Conversation :=
  match conversation.sending with
  | none => conversation
  | some sending =>
    match sending.later with
    | [] =>
      { conversation.giveBlock sending.streamId sending.reps false with sending := none }
    | next :: later => { conversation with sending := some (sending.advance next later) }

/-- The event of the client for an exchange. -/
def event : Exchange → ConnectionEvent
  | .register decompress contract => .register decompress contract
  | .unregister slot => .unregister slot
  | .headers streamId cut _ => .reader (.dispatch (cut.headersFrame streamId))
  | .continuation =>
    match conversation.sending with
    | none => .reader .flush
    | some sending => .reader (.dispatch sending.frame)
  | .data streamId chunk endStream =>
    .reader (.dispatch (DataFrame.frame streamId ⟨chunk, none, endStream⟩))
  | .reset streamId payload => .reader (.dispatch ⟨0x3, 0, streamId, payload⟩)
  | .connection frame => .reader (.dispatch frame)
  | .flush => .reader .flush

end Conversation

def stepConversation (conversation : Conversation) : Exchange → Conversation
  | .register decompress contract => conversation.register decompress contract
  | .unregister slot => { conversation with inboxes := conversation.inboxes.set slot none }
  | .headers streamId cut reps => conversation.sendHeaders streamId cut reps
  | .continuation => conversation.sendContinuation
  | .data streamId chunk endStream => conversation.give streamId (.data chunk endStream)
  | .reset streamId payload => conversation.give streamId (.reset payload)
  | .connection _ => conversation
  | .flush => conversation

/-- The events of the client in a run. -/
def Conversation.events : Conversation → List Exchange → List ConnectionEvent
  | _, [] => []
  | conversation, exchange :: exchanges =>
    conversation.event exchange :: (stepConversation conversation exchange).events exchanges

/-- A new connection, and an encoder that has the table size the client
advertised. -/
def converse (headerTableSize : Nat) : Conversation where
  inboxes := List.replicate MAX_CONCURRENT_STREAMS_PER_SESSION none
  nextId := 1
  table := ⟨[], if headerTableSize > 0 then headerTableSize else 4096⟩
  sending := none

/-- The octets are a block that a conforming encoder may send. -/
def Sends (limit : Nat) (table : Table) (reps : List Representation) (octets : Bytes) : Prop :=
  ∃ next fields,
    ConformingBlock minimalShortForm limit table next ⟨freshStream, reps, octets, fields⟩

/-- What the server and the request threads keep to.  Nothing else is sent
before a block is complete, and its stream is not removed.  A block in several
frames is the first that is sent to a registered stream, and does not end it. -/
def Allowed (limit : Nat) (conversation : Conversation) : Exchange → Prop
  | .register _ _ => ∀ inbox ∈ Slots.entries conversation.inboxes,
      inbox.streamId ≠ conversation.nextId
  | .unregister slot => ∀ sending ∈ conversation.sending, ∀ inbox,
      conversation.inboxes[slot]? = some (some inbox) → inbox.streamId ≠ sending.streamId
  | .headers streamId cut reps =>
    conversation.sending = none ∧ Sends limit conversation.table reps cut.block ∧
      match conversation.find streamId with
      | none => cut.continuations = []
      | some inbox =>
        (cut.block = [] → inbox.arrivals = []) ∧
          (cut.continuations ≠ [] → inbox.arrivals = [] ∧ cut.endStream = false)
  | .continuation => conversation.sending ≠ none
  | .data _ _ _ => conversation.sending = none
  | .reset _ _ => conversation.sending = none
  | .connection frame =>
    conversation.sending = none ∧ frame.isStreamScoped = false ∧ frame.type ≠ 0x7
  | .flush => True

/-! ## The view of an inbox -/

/-- The stream of an inbox buffers what was sent of an open block. -/
def Conversation.view (conversation : Conversation) (lib : DecoderLib) (inbox : Inbox) : Stream :=
  match conversation.sending with
  | none => inbox.stream lib
  | some sending =>
    if inbox.streamId = sending.streamId then buffering (inbox.stream lib) sending.sent true
    else inbox.stream lib

/-- The session behind the same run. -/
structure Reflects (lib : DecoderLib) (limit : Nat) (session : Session)
    (conversation : Conversation) : Prop where
  streams : session.streams = conversation.inboxes.map (Option.map (conversation.view lib))
  nextId : session.streamId = conversation.nextId
  table : tableOf session.hpackCtx = conversation.table
  distinct : Slots.Distinct Inbox.streamId conversation.inboxes
  sending : ∀ sending ∈ conversation.sending,
    (∃ inbox, conversation.find sending.streamId = some inbox ∧ inbox.arrivals = []) ∧
      Sends limit conversation.table sending.reps sending.block

/-! ## The stream of an inbox -/

/-- Nothing of a block is buffered, and there is a header buffer. -/
structure Idle (streamId : Nat) (stream : Stream) : Prop where
  streamId : stream.streamId = streamId
  headerBlock : stream.headerBlock = []
  awaitingContinuation : stream.awaitingContinuation = false
  headers : ∃ stored, stream.headers = some stored

section Streams

variable {streamId : Nat} {stream after : Stream}

theorem Idle.of_keeps (h : Idle streamId stream) (hkeeps : FunnelKeeps stream after) :
    Idle streamId after where
  streamId := hkeeps.streamId.trans h.streamId
  headerBlock := hkeeps.headerBlock.trans h.headerBlock
  awaitingContinuation := hkeeps.awaitingContinuation.trans h.awaitingContinuation
  headers := hkeeps.headers ▸ h.headers

theorem Idle.settle (h : Idle streamId stream) : Idle streamId (settle stream) := by
  have hsame := endStreamReading_same stream 0 0
  rw [endStreamReading_settle] at hsame
  exact ⟨hsame.streamId.trans h.streamId, hsame.headerBlock.trans h.headerBlock,
    hsame.awaitingContinuation.trans h.awaitingContinuation, (settle_keeps stream).1 ▸ h.headers⟩

theorem Idle.afterArrival (h : Idle streamId stream) (lib : DecoderLib) (arrival : Arrival) :
    Idle streamId (afterArrival lib stream arrival) := by
  cases arrival with
  | headers fields endStream =>
    have hdecoded : Idle streamId { stream with headers := some fields } :=
      ⟨h.streamId, h.headerBlock, h.awaitingContinuation, fields, rfl⟩
    have hdelivered := hdecoded.of_keeps (delivered_keeps lib _).1
    exact Idle.settle ⟨hdelivered.streamId, hdelivered.headerBlock,
      hdelivered.awaitingContinuation, hdelivered.headers⟩
  | data chunk endStream =>
    have hfed := h.of_keeps (appendStreamPayload_keeps lib stream chunk)
    exact Idle.settle ⟨hfed.streamId, hfed.headerBlock, hfed.awaitingContinuation, hfed.headers⟩
  | reset payload =>
    exact Idle.settle ⟨h.streamId, h.headerBlock, h.awaitingContinuation, h.headers⟩

theorem Inbox.stream_idle (lib : DecoderLib) (inbox : Inbox) :
    Idle inbox.streamId (inbox.stream lib) := by
  have hnew : Idle inbox.streamId inbox.new := ⟨rfl, rfl, rfl, [], rfl⟩
  exact run_invariant (fun stream arrival h => h.afterArrival lib arrival) inbox.arrivals hnew

theorem Inbox.stream_add (lib : DecoderLib) (inbox : Inbox) (arrival : Arrival) :
    (inbox.add arrival).stream lib = afterArrival lib (inbox.stream lib) arrival :=
  run_append (afterArrival lib) inbox.new inbox.arrivals [arrival]

/-- Before the first arrival the stream is a new one. -/
theorem Inbox.stream_new {inbox : Inbox} (lib : DecoderLib) (h : inbox.arrivals = []) :
    inbox.stream lib = inbox.new := by
  rw [Inbox.stream, h]
  rfl

theorem Inbox.settle_new (inbox : Inbox) : settle inbox.new = inbox.new :=
  settle_open rfl rfl

theorem Idle.buffering (h : Idle streamId stream) : buffering stream [] false = stream := by
  rw [Http2.buffering, ← h.headerBlock, ← h.awaitingContinuation]

end Streams

section Views

variable {lib : DecoderLib} {conversation : Conversation} {sending : OpenSending} {inbox : Inbox}

theorem view_of_none (h : conversation.sending = none) :
    conversation.view lib inbox = inbox.stream lib := by
  rw [Conversation.view, h]

theorem view_of_sending (h : conversation.sending = some sending)
    (hid : inbox.streamId = sending.streamId) :
    conversation.view lib inbox = buffering (inbox.stream lib) sending.sent true := by
  simp only [Conversation.view, h, if_pos hid]

theorem view_of_other (h : ∀ sending ∈ conversation.sending, inbox.streamId ≠ sending.streamId) :
    conversation.view lib inbox = inbox.stream lib := by
  unfold Conversation.view
  split
  · rfl
  · rename_i sending hsending
    exact if_neg (h sending hsending)

theorem view_streamId (lib : DecoderLib) (conversation : Conversation) (inbox : Inbox) :
    (conversation.view lib inbox).streamId = inbox.streamId := by
  unfold Conversation.view
  split
  · exact (inbox.stream_idle lib).streamId
  · split
    · exact (inbox.stream_idle lib).streamId
    · exact (inbox.stream_idle lib).streamId

end Views

/-! ## The decoder -/

theorem replenishStreamWindow_hpackCtx (session : Session) (streamId : Nat)
    (reading : StreamReading) :
    (replenishStreamWindow session streamId reading).hpackCtx = session.hpackCtx := by
  have hconnection :
      (addConnectionCredit session reading.consumedBytes).hpackCtx = session.hpackCtx := by
    unfold addConnectionCredit tuneConnectionWindow
    split
    · split
      · rfl
      · dsimp only
        split <;> rfl
    · rfl
  have hstream : ∀ session : Session,
      (settleStreamWindow session streamId reading).hpackCtx = session.hpackCtx := by
    intro session
    unfold settleStreamWindow
    dsimp only
    split
    · unfold discardPendingStreamWindow
      split <;> rfl
    · split
      · unfold addStreamWindowCredit
        dsimp only
        split
        · rfl
        · split <;> rfl
      · rfl
  unfold replenishStreamWindow
  dsimp only
  split
  · exact (hstream _).trans hconnection
  · exact (hstream _).trans hconnection

theorem readerDispatch_hpackCtx (lib : DecoderLib) {session : Session} {frame : Frame}
    {stream : Stream} (hscoped : frame.isStreamScoped = true)
    (hfind : findStream session frame.streamId = some stream) :
    (readerDispatch lib session frame).hpackCtx =
      (processFrame lib (session, stream) frame).1.hpackCtx := by
  have hreplenish := replenishStreamWindow_hpackCtx (handledSession lib session stream frame)
    frame.streamId (readingAfter lib session stream frame)
  rw [readerDispatch_eq lib hscoped hfind]
  dsimp only
  split
  · exact hreplenish
  · exact hreplenish

/-- A block on a stream without a header buffer goes into the table. -/
theorem decodeHeadersFrame_unstored {stream : Stream} {ctx : HpackContext}
    {reps : List Representation} {octets : Bytes} {fields : List HeaderField} {table : Table}
    (hoctets : BlockOctets shortForm reps octets)
    (hrun : (tableOf ctx).run reps = some (table, fields))
    (hclean : ∀ rep ∈ reps, fieldReadable rep) (hstream : stream.headers = none) :
    tableOf (decodeHeadersFrame stream octets ctx).2 = table := by
  have hafter : (tableOf ctx).after reps = some table := by rw [Table.after, hrun]; rfl
  rw [decodeHeadersFrame]
  split
  · rename_i hlen
    rw [List.length_eq_zero_iff.mp hlen] at hoctets
    rw [reps_of_nil hoctets] at hafter
    exact Option.some.inj hafter
  · have hloop := decodeFields_table hoctets octets.length
      { stream := { stream with headers := stream.headers.map (fun _ => []) }
        ctx := ctx
        pos := 0 }
      fields table rfl (Nat.le_refl _) (by rw [hstream]; intro _ h; cases h) hrun
      (fun rep hrep _ => hclean rep hrep)
    rw [hstream] at hloop ⊢
    exact (Option.some.inj (hafter.symm.trans hloop)).symm

/-- What the decoder makes of a block that the encoder may send. -/
structure DecodesTo (session : Session) (octets : Bytes) (table : Table)
    (fields : List HeaderField) : Prop where
  stored : ∀ {stream : Stream} {stored : List ResponseHeader}, stream.headers = some stored →
    (octets = [] → stored = []) →
    (decodeBlock session stream octets).2 = { stream with headers := some fields } ∧
      tableOf (decodeBlock session stream octets).1.hpackCtx = table
  unstored : ∀ {stream : Stream}, stream.headers = none →
    tableOf (decodeBlock session stream octets).1.hpackCtx = table

theorem decodesTo_of_sends {limit : Nat} {session : Session} {table : Table}
    {reps : List Representation} {octets : Bytes} (h : Sends limit table reps octets)
    (htable : tableOf session.hpackCtx = table) :
    ∃ next fields, table.run reps = some (next, fields) ∧ DecodesTo session octets next fields := by
  obtain ⟨next, fields, hblock⟩ := h
  have hoctets : BlockOctets shortForm reps octets :=
    hblock.octets.mono fun _ _ _ _ => shortForm_of_minimal
  have hclean : ∀ rep ∈ reps, fieldReadable rep := fun rep hrep =>
    fieldReadable_of_ascii (hblock.ascii rep hrep)
  have hrun : (tableOf session.hpackCtx).run reps = some (next, fields) := htable ▸ hblock.run
  refine ⟨next, fields, hblock.run, ?_, ?_⟩
  · intro stream stored hstored hempty
    exact decodeHeadersFrame_fields hoctets hrun hclean hblock.few hstored hempty
  · intro stream hstream
    exact decodeHeadersFrame_unstored hoctets hrun hclean hstream

/-! ## One frame -/

section Frames

variable {lib : DecoderLib} {limit : Nat} {session after : Session} {conversation : Conversation}
  {frame : Frame} {inbox : Inbox}

theorem Reflects.found (h : Reflects lib limit session conversation) (streamId : Nat) :
    findStream session streamId = (conversation.find streamId).map (conversation.view lib) := by
  rw [findStream, h.streams]
  exact Slots.find_map (view_streamId lib conversation) streamId conversation.inboxes

theorem Reflects.of_same (h : Reflects lib limit session conversation)
    (hstreams : after.streams = session.streams) (hid : after.streamId = session.streamId)
    (hctx : after.hpackCtx = session.hpackCtx) : Reflects lib limit after conversation where
  streams := hstreams.trans h.streams
  nextId := hid.trans h.nextId
  table := hctx ▸ h.table
  distinct := h.distinct
  sending := h.sending

/-- A frame on a registered stream is a step of its inbox. -/
theorem Reflects.dispatch (h : Reflects lib limit session conversation)
    (hscoped : frame.isStreamScoped = true) (hfind : conversation.find frame.streamId = some inbox)
    {next : Conversation} (inbox' : Inbox) (hid : inbox'.streamId = inbox.streamId)
    (hinboxes : next.inboxes =
      Slots.replace Inbox.streamId frame.streamId inbox' conversation.inboxes)
    (hnextId : next.nextId = conversation.nextId)
    (hothers : ∀ other : Inbox, other.streamId ≠ frame.streamId →
      conversation.view lib other = next.view lib other)
    (hstream : (processFrame lib (session, conversation.view lib inbox) frame).2 =
      next.view lib inbox')
    (htable : tableOf (processFrame lib (session, conversation.view lib inbox) frame).1.hpackCtx =
      next.table)
    (hsending : ∀ sending ∈ next.sending,
      (∃ inbox, next.find sending.streamId = some inbox ∧ inbox.arrivals = []) ∧
        Sends limit next.table sending.reps sending.block) :
    Reflects lib limit (readerDispatch lib session frame) next := by
  have hfound := h.found frame.streamId
  rw [hfind, Option.map_some] at hfound
  have hkey : inbox'.streamId = frame.streamId := hid.trans (Slots.mem_of_find hfind).2
  have hpresent : Slots.find Inbox.streamId frame.streamId conversation.inboxes ≠ none := by
    rw [Conversation.find] at hfind
    rw [hfind]
    exact Option.some_ne_none inbox
  refine ⟨?_, ?_, ?_, ?_, hsending⟩
  · have hchanged : streamAfter lib session (conversation.view lib inbox) frame =
        next.view lib inbox' := hstream
    rw [readerDispatch_streams_found lib hscoped hfound, hchanged, hinboxes, h.streams]
    exact h.distinct.replace_map hpresent (view_streamId lib conversation) hothers
  · rw [readerDispatch_streamId, hnextId]
    exact h.nextId
  · rw [readerDispatch_hpackCtx lib hscoped hfound]
    exact htable
  · rw [hinboxes]
    exact h.distinct.replace hkey

theorem Conversation.give_some {streamId : Nat} (hfind : conversation.find streamId = some inbox)
    (arrival : Arrival) :
    conversation.give streamId arrival =
      { conversation with
        inboxes := Slots.replace Inbox.streamId streamId (inbox.add arrival)
          conversation.inboxes } := by
  simp only [Conversation.give, hfind]

theorem Conversation.give_none {streamId : Nat} (hfind : conversation.find streamId = none)
    (arrival : Arrival) : conversation.give streamId arrival = conversation := by
  simp only [Conversation.give, hfind]

theorem Conversation.give_table (conversation : Conversation) (streamId : Nat)
    (arrival : Arrival) : (conversation.give streamId arrival).table = conversation.table := by
  unfold Conversation.give
  split
  · rfl
  · rfl

theorem Conversation.giveBlock_of_run {streamId : Nat} {reps : List Representation} {next : Table}
    {fields : List HeaderField} (hrun : conversation.table.run reps = some (next, fields))
    (endStream : Bool) :
    conversation.giveBlock streamId reps endStream =
      { conversation.give streamId (.headers fields endStream) with table := next } := by
  simp only [Conversation.giveBlock, hrun]

/-- Outside of a block, what arrives is put into the inbox. -/
theorem Reflects.arrive (h : Reflects lib limit session conversation)
    (hidle : conversation.sending = none) (hscoped : frame.isStreamScoped = true)
    (hfind : conversation.find frame.streamId = some inbox) {arrival : Arrival} {table : Table}
    (hstream : (processFrame lib (session, inbox.stream lib) frame).2 =
      afterArrival lib (inbox.stream lib) arrival)
    (htable : tableOf (processFrame lib (session, inbox.stream lib) frame).1.hpackCtx = table) :
    Reflects lib limit (readerDispatch lib session frame)
      { conversation.give frame.streamId arrival with table := table } := by
  have hview : conversation.view lib inbox = inbox.stream lib := view_of_none hidle
  rw [← hview] at hstream htable
  rw [Conversation.give_some hfind]
  refine h.dispatch hscoped hfind (inbox.add arrival) rfl rfl rfl ?_ ?_ htable ?_
  · exact fun other _ => (view_of_none hidle).trans (view_of_none hidle).symm
  · rw [hstream, hview, ← inbox.stream_add]
    exact (view_of_none hidle).symm
  · intro sending hsending
    rw [hidle] at hsending
    cases hsending

/-! ### Header blocks -/

theorem HeadersCut.isStreamScoped_headersFrame (cut : HeadersCut) (streamId : Nat) :
    (cut.headersFrame streamId).isStreamScoped = true := isStreamScoped_of_type (.inl rfl)

theorem OpenSending.isStreamScoped_frame (sending : OpenSending) :
    sending.frame.isStreamScoped = true := isStreamScoped_of_type (.inr rfl)

/-- An empty block comes to a stream that has no headers yet. -/
theorem Inbox.stored_nil {inbox : Inbox} {octets : Bytes} {stored : List ResponseHeader}
    (hstored : (inbox.stream lib).headers = some stored)
    (hempty : octets = [] → inbox.arrivals = []) (hoctets : octets = []) : stored = [] := by
  rw [inbox.stream_new lib (hempty hoctets)] at hstored
  exact (Option.some.inj hstored).symm

/-- A HEADERS frame with its whole block. -/
theorem Reflects.wholeBlock (h : Reflects lib limit session conversation) {streamId : Nat}
    {cut : HeadersCut} {reps : List Representation} (hidle : conversation.sending = none)
    (hsends : Sends limit conversation.table reps cut.block) (hone : cut.continuations = [])
    (hempty : ∀ inbox, conversation.find streamId = some inbox → cut.block = [] →
      inbox.arrivals = []) :
    Reflects lib limit (readerDispatch lib session (cut.headersFrame streamId))
      (conversation.giveBlock streamId reps cut.endStream) := by
  obtain ⟨next, fields, hrun, hdecodes⟩ := decodesTo_of_sends hsends h.table
  have hblock : cut.first = cut.block := by
    rw [HeadersCut.block, hone, List.flatten_nil, List.append_nil]
  have hframe (stream : Stream) :
      processFrame lib (session, stream) (cut.headersFrame streamId) = _ :=
    processFrame_headers_end hone
  rw [Conversation.giveBlock_of_run hrun]
  cases hfind : conversation.find streamId with
  | some inbox =>
    obtain ⟨stored, hstored⟩ := (inbox.stream_idle lib).headers
    obtain ⟨hdecoded, htable⟩ := hdecodes.stored hstored
      (Inbox.stored_nil hstored (hempty inbox hfind))
    refine h.arrive hidle (cut.isStreamScoped_headersFrame streamId) hfind ?_ ?_
    · rw [hframe, hblock, hdecoded]
      rfl
    · rw [hframe, hblock]
      exact htable
  | none =>
    have hunknown : findStream session streamId = none := by
      rw [h.found, hfind]
      rfl
    have hscratch : handleSessionFrame session (cut.headersFrame streamId) =
        (decodeBlock session Stream.scratch cut.block).1 := by
      have hsession := congrArg Prod.fst (hframe Stream.scratch)
      rw [hblock] at hsession
      exact hsession
    rw [Conversation.give_none hfind,
      readerDispatch_unknown lib (cut.isStreamScoped_headersFrame streamId) hunknown, hscratch]
    exact ⟨h.streams, h.nextId, hdecodes.unstored rfl, h.distinct, fun sending hsending => by
      rw [show _ = none from hidle] at hsending
      cases hsending⟩

/-- The first frame of a block that comes in several. -/
theorem Reflects.openBlock (h : Reflects lib limit session conversation) {streamId : Nat}
    {cut : HeadersCut} {reps : List Representation} (hidle : conversation.sending = none)
    (hsends : Sends limit conversation.table reps cut.block) {fragment : Bytes}
    {later : List Bytes} (hmore : cut.continuations = fragment :: later)
    (hfind : conversation.find streamId = some inbox) (hnew : inbox.arrivals = [])
    (hopen : cut.endStream = false) :
    Reflects lib limit (readerDispatch lib session (cut.headersFrame streamId))
      { conversation with sending := some ⟨streamId, reps, cut.first, fragment, later⟩ } := by
  have hid : inbox.streamId = streamId := (Slots.mem_of_find hfind).2
  have hsplit : cut.continuations ≠ [] := by
    rw [hmore]
    exact List.cons_ne_nil fragment later
  have hframe : processFrame lib (session, inbox.stream lib) (cut.headersFrame streamId) = _ :=
    processFrame_headers_open hsplit
  rw [hopen, ending_false, inbox.stream_new lib hnew, inbox.settle_new] at hframe
  have hview : conversation.view lib inbox = inbox.new :=
    (view_of_none hidle).trans (inbox.stream_new lib hnew)
  refine h.dispatch (cut.isStreamScoped_headersFrame streamId) hfind inbox rfl ?_ rfl ?_ ?_ ?_ ?_
  · obtain ⟨slot, hslot, hset⟩ := Slots.replace_eq_set (a := inbox) hfind
    exact ((Slots.set_eq_self hslot).symm.trans hset.symm)
  · intro other hother
    rw [view_of_none hidle, view_of_other]
    intro sending hsending
    cases hsending
    exact hother
  · rw [hview, hframe, view_of_sending rfl hid, inbox.stream_new lib hnew]
  · rw [hview, hframe]
    exact h.table
  · intro sending hsending
    cases hsending
    refine ⟨⟨inbox, hfind, hnew⟩, ?_⟩
    rw [OpenSending.block, List.append_assoc, ← List.flatten_cons, ← hmore]
    exact hsends

/-- The block stays the same. -/
theorem OpenSending.block_advance (sending : OpenSending) {next : Bytes} {later : List Bytes}
    (h : sending.later = next :: later) : (sending.advance next later).block = sending.block := by
  rw [OpenSending.block, OpenSending.block, h, OpenSending.advance, List.flatten_cons,
    List.append_assoc, List.append_assoc]

/-- The next frame of an open block. -/
theorem Reflects.continuation (h : Reflects lib limit session conversation)
    {sending : OpenSending} (hsome : conversation.sending = some sending) :
    Reflects lib limit (readerDispatch lib session sending.frame)
      conversation.sendContinuation := by
  obtain ⟨⟨inbox, hfind, hnew⟩, hsends⟩ := h.sending sending hsome
  have hid : inbox.streamId = sending.streamId := (Slots.mem_of_find hfind).2
  have hview : conversation.view lib inbox = buffering inbox.new sending.sent true := by
    rw [view_of_sending hsome hid, inbox.stream_new lib hnew]
  have hothers : ∀ other : Inbox, other.streamId ≠ sending.streamId →
      conversation.view lib other = other.stream lib := by
    intro other hother
    refine view_of_other fun sending' hsending' => ?_
    cases hsome.symm.trans hsending'
    exact hother
  cases hlater : sending.later with
  | nil =>
    have hlast : sending.frame = ⟨0x9, 0x4, sending.streamId, sending.next⟩ := by
      rw [OpenSending.frame, hlater]
      rfl
    have hblock : sending.block = sending.sent ++ sending.next := by
      rw [OpenSending.block, hlater, List.flatten_nil, List.append_nil]
    obtain ⟨next, fields, hrun, hdecodes⟩ := decodesTo_of_sends hsends h.table
    rw [hblock] at hdecodes
    obtain ⟨hdecoded, htable⟩ := hdecodes.stored (show inbox.new.headers = some [] from rfl)
      fun _ => rfl
    have hframe : processFrame lib (session, buffering inbox.new sending.sent true)
        sending.frame = _ := hlast ▸ processFrame_continuation_end sending.next sending.sent
    rw [if_pos (show inbox.new.error = none from rfl), hdecoded] at hframe
    have hsent : conversation.sendContinuation =
        { conversation.give sending.streamId (.headers fields false) with
          table := next
          sending := none } := by
      simp only [Conversation.sendContinuation, hsome, hlater, Conversation.giveBlock_of_run hrun]
    rw [hsent, Conversation.give_some hfind]
    refine h.dispatch sending.isStreamScoped_frame hfind (inbox.add (.headers fields false))
      rfl rfl rfl ?_ ?_ ?_ nofun
    · exact fun other hother => (hothers other hother).trans (view_of_none rfl).symm
    · have hdone := (inbox.add (.headers fields false)).stream_idle lib
      rw [inbox.stream_add, inbox.stream_new lib hnew, afterArrival, ending_false] at hdone
      rw [hview, hframe, view_of_none rfl, inbox.stream_add, inbox.stream_new lib hnew,
        afterArrival, ending_false]
      exact hdone.buffering
    · rw [hview, hframe]
      exact htable
  | cons fragment later =>
    have hmiddle : sending.frame = ⟨0x9, 0, sending.streamId, sending.next⟩ := by
      rw [OpenSending.frame, hlater]
      rfl
    have hframe : processFrame lib (session, buffering inbox.new sending.sent true)
        sending.frame = _ := hmiddle ▸ processFrame_continuation_open sending.next sending.sent
    rw [inbox.settle_new] at hframe
    have hsent : conversation.sendContinuation =
        { conversation with sending := some (sending.advance fragment later) } := by
      simp only [Conversation.sendContinuation, hsome, hlater]
    rw [hsent]
    refine h.dispatch sending.isStreamScoped_frame hfind inbox rfl ?_ rfl ?_ ?_ ?_ ?_
    · obtain ⟨slot, hslot, hset⟩ := Slots.replace_eq_set (a := inbox) hfind
      exact ((Slots.set_eq_self hslot).symm.trans hset.symm)
    · intro other hother
      rw [hothers other hother, view_of_other]
      intro sending' hsending'
      cases hsending'
      exact hother
    · have hid' : inbox.streamId = (sending.advance fragment later).streamId := hid
      rw [hview, hframe, view_of_sending rfl hid', inbox.stream_new lib hnew]
      rfl
    · rw [hview, hframe]
      exact h.table
    · intro sending' hsending'
      cases hsending'
      refine ⟨⟨inbox, hfind, hnew⟩, ?_⟩
      rw [sending.block_advance hlater]
      exact hsends

/-! ### Other frames -/

/-- A frame without headers, for a stream that is not registered. -/
theorem Reflects.ignored (h : Reflects lib limit session conversation)
    (hscoped : frame.isStreamScoped = true) (hfind : conversation.find frame.streamId = none)
    (hheaders : frame.type ≠ 0x1) :
    Reflects lib limit (readerDispatch lib session frame) conversation := by
  have hunknown : findStream session frame.streamId = none := by
    rw [h.found, hfind]
    rfl
  have hgoaway : frame.type ≠ 0x7 := by
    intro hseven
    rw [Frame.isStreamScoped, hseven] at hscoped
    revert hscoped
    decide
  rw [readerDispatch_unknown lib hscoped hunknown, handleSessionFrame, if_neg hheaders,
    if_neg hgoaway]
  exact h

/-- A frame that leaves the decoder alone is put into the inbox of its stream. -/
theorem Reflects.give (h : Reflects lib limit session conversation) (frame : Frame)
    (hidle : conversation.sending = none) (hscoped : frame.isStreamScoped = true)
    (hheaders : frame.type ≠ 0x1) {arrival : Arrival}
    (hstream : ∀ stream : Stream,
      (processFrame lib (session, stream) frame).2 = afterArrival lib stream arrival)
    (hctx : ∀ stream : Stream,
      (processFrame lib (session, stream) frame).1.hpackCtx = session.hpackCtx) :
    Reflects lib limit (readerDispatch lib session frame)
      (conversation.give frame.streamId arrival) := by
  cases hfind : conversation.find frame.streamId with
  | none =>
    rw [Conversation.give_none hfind]
    exact h.ignored hscoped hfind hheaders
  | some inbox =>
    have harrived := h.arrive hidle hscoped hfind (hstream _)
      ((congrArg tableOf (hctx _)).trans h.table)
    rw [← conversation.give_table frame.streamId arrival] at harrived
    exact harrived

theorem Reflects.data (h : Reflects lib limit session conversation)
    (hidle : conversation.sending = none) (streamId : Nat) (chunk : Bytes) (endStream : Bool) :
    Reflects lib limit
      (readerDispatch lib session (DataFrame.frame streamId ⟨chunk, none, endStream⟩))
      (conversation.give streamId (.data chunk endStream)) := by
  refine h.give (DataFrame.frame streamId ⟨chunk, none, endStream⟩) hidle
    (by simp [Frame.isStreamScoped, DataFrame.frame])
    (by decide : (0x0 : UInt8) ≠ 0x1) (fun stream => ?_) fun stream => ?_
  · exact processFrame_dataFrame lib streamId session stream ⟨chunk, none, endStream⟩
  · simp [processFrame, handleStreamFrame, DataFrame.frame]

theorem handleRST_STREAMFrame_eq (session : Session) (stream : Stream) (payload : Bytes) :
    (handleRST_STREAMFrame session stream payload).2 =
        { stream with error := some (resetError payload) } ∧
      (handleRST_STREAMFrame session stream payload).1.hpackCtx = session.hpackCtx := by
  unfold handleRST_STREAMFrame resetError
  split
  · dsimp only
    split
    · exact ⟨rfl, rfl⟩
    · exact ⟨rfl, rfl⟩
  · exact ⟨rfl, rfl⟩

/-- A reset ends the stream with its error. -/
theorem processFrame_reset (lib : DecoderLib) (session : Session) (stream : Stream)
    (streamId : Nat) (payload : Bytes) :
    (processFrame lib (session, stream) ⟨0x3, 0, streamId, payload⟩).2 =
        afterArrival lib stream (.reset payload) ∧
      (processFrame lib (session, stream) ⟨0x3, 0, streamId, payload⟩).1.hpackCtx =
        session.hpackCtx := by
  obtain ⟨hstream, hctx⟩ := handleRST_STREAMFrame_eq session stream payload
  have hhandled : handleStreamFrame lib session stream ⟨0x3, 0, streamId, payload⟩ =
      ((handleRST_STREAMFrame session stream payload).1,
        { stream with error := some (resetError payload), isEnded := true }) := by
    simp [handleStreamFrame, finishFrame, deliverHeaders, hstream]
  refine ⟨?_, ?_⟩
  · rw [processFrame, streamAfter, endStreamReading_settle, hhandled]
    rfl
  · rw [processFrame, hhandled]
    exact hctx

theorem Reflects.reset (h : Reflects lib limit session conversation)
    (hidle : conversation.sending = none) (streamId : Nat) (payload : Bytes) :
    Reflects lib limit (readerDispatch lib session ⟨0x3, 0, streamId, payload⟩)
      (conversation.give streamId (.reset payload)) :=
  h.give ⟨0x3, 0, streamId, payload⟩ hidle (by simp [Frame.isStreamScoped])
    (by decide : (0x3 : UInt8) ≠ 0x1)
    (fun stream => (processFrame_reset lib session stream streamId payload).1)
    fun stream => (processFrame_reset lib session stream streamId payload).2

/-- A frame of the connection is answered, and nothing else happens. -/
theorem Reflects.connection (h : Reflects lib limit session conversation)
    (hscoped : frame.isStreamScoped = false) (hgoaway : frame.type ≠ 0x7) :
    Reflects lib limit (readerDispatch lib session frame) conversation := by
  have hheaders : frame.type ≠ 0x1 := by
    intro hone
    rw [isStreamScoped_of_type (.inl hone)] at hscoped
    cases hscoped
  obtain ⟨wire, heq⟩ := acknowledgeFrame_eq session frame
  rw [readerDispatch, hscoped, if_neg Bool.false_ne_true, handleSessionFrame, if_neg hheaders,
    if_neg hgoaway, if_neg hgoaway, heq]
  exact h.of_same rfl rfl rfl

end Frames

/-! ## One event -/

section Steps

variable {lib : DecoderLib} {limit : Nat} {session : Session} {connection : Connection}
  {conversation : Conversation}

/-- A new request gets an empty inbox in the slot of its stream. -/
theorem Reflects.register (h : Reflects lib limit session conversation) {decompress : Nat}
    {contract : Option ResponseStream}
    (hunused : ∀ inbox ∈ Slots.entries conversation.inboxes,
      inbox.streamId ≠ conversation.nextId) :
    Reflects lib limit (registerStream session (some (buildResponseSink decompress contract)))
      (conversation.register decompress contract) := by
  have hslots : freeSlot session = conversation.inboxes.findIdx? Option.isNone := by
    rw [freeSlot, h.streams, List.findIdx?_map]
    congr 1
    funext slot
    cases slot with
    | none => rfl
    | some inbox => rfl
  cases hfree : freeSlot session with
  | none =>
    rw [registerStream_full hfree]
    rw [hslots] at hfree
    simp only [Conversation.register, hfree]
    exact ⟨h.streams, by rw [h.nextId], h.table, h.distinct, h.sending⟩
  | some slot =>
    rw [registerStream_free hfree]
    rw [hslots] at hfree
    simp only [Conversation.register, hfree]
    obtain ⟨hlt, hnone, -⟩ := List.findIdx?_eq_some_iff_getElem.mp hfree
    have hslot : conversation.inboxes[slot]? = some none := by
      rw [List.getElem?_eq_getElem hlt, Option.isNone_iff_eq_none.mp hnone]
    have hdistinct := h.distinct.set_some (a := ⟨conversation.nextId, decompress, contract, []⟩)
      hslot hunused
    refine ⟨?_, by rw [h.nextId], h.table, hdistinct, ?_⟩
    · have hothers : ∀ sending ∈ conversation.sending,
          (⟨conversation.nextId, decompress, contract, []⟩ : Inbox).streamId ≠
            sending.streamId := by
        intro sending hsending hsame
        obtain ⟨⟨inbox, hfind, -⟩, -⟩ := h.sending sending hsending
        obtain ⟨hmem, hid⟩ := Slots.mem_of_find hfind
        exact hunused inbox hmem (hid.trans hsame.symm)
      dsimp only
      rw [List.map_set, h.streams, h.nextId, Option.map_some]
      refine congrArg (List.set _ slot) (congrArg some ?_)
      exact ((view_of_other hothers).trans (Inbox.stream_new lib rfl)).symm
    · intro sending hsending
      obtain ⟨⟨inbox, hfind, hnew⟩, hsends⟩ := h.sending sending hsending
      refine ⟨⟨inbox, ?_, hnew⟩, hsends⟩
      rw [Conversation.find, h.distinct.find_eq_some_iff] at hfind
      rw [Conversation.find, hdistinct.find_eq_some_iff,
        (Slots.perm_entries_set_some hslot _).mem_iff]
      exact ⟨List.mem_cons_of_mem _ hfind.1, hfind.2⟩

/-- A request that is removed takes its inbox with it. -/
theorem Reflects.unregister (h : Reflects lib limit session conversation) {slot : Nat}
    (hopen : ∀ sending ∈ conversation.sending, ∀ inbox,
      conversation.inboxes[slot]? = some (some inbox) → inbox.streamId ≠ sending.streamId) :
    Reflects lib limit (unregisterStream session slot)
      { conversation with inboxes := conversation.inboxes.set slot none } := by
  have hdistinct := h.distinct.set_none slot
  refine ⟨?_, h.nextId, h.table, hdistinct, ?_⟩
  · show session.streams.set slot none =
      (conversation.inboxes.set slot none).map (Option.map (conversation.view lib))
    rw [h.streams, List.map_set]
    rfl
  · intro sending hsending
    obtain ⟨⟨inbox, hfind, hnew⟩, hsends⟩ := h.sending sending hsending
    refine ⟨⟨inbox, ?_, hnew⟩, hsends⟩
    rw [Conversation.find, h.distinct.find_eq_some_iff] at hfind
    rw [Conversation.find, hdistinct.find_eq_some_iff]
    obtain ⟨other, hother⟩ := Slots.mem_entries_iff_getElem?.mp hfind.1
    have hkept : other ≠ slot := by
      intro hsame
      rw [hsame] at hother
      exact hopen sending hsending inbox hother hfind.2
    exact ⟨Slots.mem_entries_set_none.mpr ⟨other, hkept, hother⟩, hfind.2⟩

theorem Reflects.flush (h : Reflects lib limit connection.session conversation) :
    Reflects lib limit (flushReaderWrites connection).session conversation := by
  refine h.of_same (flushReaderWrites_streams connection) ?_ ?_
  · exact stepConnection_streamId lib connection (.reader .flush)
  · unfold flushReaderWrites
    dsimp only
    split
    · split <;> rfl
    · rfl

/-- One event on the connection is one exchange of the conversation. -/
theorem stepConversation_reflects {exchange : Exchange}
    (h : Reflects lib limit connection.session conversation)
    (hallowed : Allowed limit conversation exchange) :
    Reflects lib limit (stepConnection lib connection (conversation.event exchange)).session
      (stepConversation conversation exchange) := by
  cases exchange with
  | register decompress contract => exact h.register hallowed
  | unregister slot => exact h.unregister hallowed
  | headers streamId cut reps =>
    obtain ⟨hidle, hsends, hplace⟩ := hallowed
    show Reflects lib limit (readerDispatch lib connection.session (cut.headersFrame streamId))
      (conversation.sendHeaders streamId cut reps)
    unfold Conversation.sendHeaders
    split
    · rename_i hone
      refine h.wholeBlock hidle hsends hone fun inbox hfind => ?_
      rw [hfind] at hplace
      exact hplace.1
    · rename_i fragment later hmore
      have hsplit : cut.continuations ≠ [] := by
        rw [hmore]
        exact List.cons_ne_nil fragment later
      cases hfind : conversation.find streamId with
      | none =>
        rw [hfind] at hplace
        exact absurd hplace hsplit
      | some inbox =>
        rw [hfind] at hplace
        obtain ⟨hnew, hopen⟩ := hplace.2 hsplit
        exact h.openBlock hidle hsends hmore hfind hnew hopen
  | continuation =>
    cases hsome : conversation.sending with
    | none => exact absurd hsome hallowed
    | some sending =>
      have hevent : conversation.event .continuation = .reader (.dispatch sending.frame) := by
        simp only [Conversation.event, hsome]
      rw [hevent]
      exact h.continuation hsome
  | data streamId chunk endStream => exact h.data hallowed streamId chunk endStream
  | reset streamId payload => exact h.reset hallowed streamId payload
  | connection frame => exact h.connection hallowed.2.1 hallowed.2.2
  | flush => exact h.flush

end Steps

/-! ## Every run -/

section Runs

variable {lib : DecoderLib} {limit : Nat} {conversation : Conversation} {exchanges : List Exchange}

theorem converse_reflects (lib : DecoderLib) (limit headerTableSize : Nat) :
    Reflects lib limit (connect headerTableSize).session (converse headerTableSize) where
  streams := by
    show List.replicate MAX_CONCURRENT_STREAMS_PER_SESSION none =
      (List.replicate MAX_CONCURRENT_STREAMS_PER_SESSION none).map
        (Option.map ((converse headerTableSize).view lib))
    rw [List.map_replicate, Option.map_none]
  nextId := rfl
  table := rfl
  distinct := by
    rw [Slots.Distinct, converse, Slots.entries_replicate_none]
    exact List.nodup_nil
  sending := nofun

theorem events_reflects {connection : Connection}
    (hallowed : Meets stepConversation (Allowed limit) conversation exchanges)
    (h : Reflects lib limit connection.session conversation) :
    Reflects lib limit
      (run (stepConnection lib) connection (conversation.events exchanges)).session
      (run stepConversation conversation exchanges) := by
  induction exchanges generalizing conversation connection with
  | nil => exact h
  | cons exchange exchanges ih =>
    exact ih hallowed.2 (stepConversation_reflects h hallowed.1)

/-- Whatever happens on the connection, a request finds in its stream what was
sent to it, in the order of its own frames, and the decoder has the table of
the encoder. -/
theorem runConversation_streams (lib : DecoderLib) (limit headerTableSize : Nat)
    (exchanges : List Exchange)
    (hallowed : Meets stepConversation (Allowed limit) (converse headerTableSize) exchanges) :
    let conversation := run stepConversation (converse headerTableSize) exchanges
    let session :=
      (runConnection lib headerTableSize ((converse headerTableSize).events exchanges)).session
    (∀ streamId, findStream session streamId =
        (conversation.find streamId).map (conversation.view lib)) ∧
      tableOf session.hpackCtx = conversation.table := by
  have h := events_reflects hallowed (converse_reflects lib limit headerTableSize)
  exact ⟨h.found, h.table⟩

/-! ### Two responses -/

/-- The table with the field `a: b`. -/
def oneEntry : Table := ⟨[⟨[97], [98]⟩], 4096⟩

theorem sends_insertAB : Sends 4096 ⟨[], 4096⟩ [insertAB] [0x40, 1, 97, 1, 98] := by
  have hone : ∀ c : UInt8, StringOctets minimalShortForm ⟨[c], false⟩ [1, c] := fun c =>
    ⟨[1], ⟨rfl, by simp⟩, rfl⟩
  have hinsert : RepOctets minimalShortForm insertAB [0x40, 1, 97, 1, 98] :=
    ⟨[0x40, 1, 97], [1, 98], ⟨[0x40], [1, 97], ⟨rfl, by simp⟩, hone 97, rfl⟩, hone 98, rfl⟩
  have hname : asciiLiteral ⟨[97], false⟩ := by decide
  have hvalue : asciiLiteral ⟨[98], false⟩ := by decide
  exact ⟨oneEntry, [⟨[97], [98]⟩], .cons hinsert .nil, rfl, by simp [insertAB],
    fun rep hrep => by rw [List.mem_singleton.mp hrep]; exact ⟨hname, hvalue⟩, by decide⟩

theorem sends_indexed : Sends 4096 oneEntry [.indexed 62] [0xBE] := by
  have hindexed : RepOctets minimalShortForm (.indexed 62) [0xBE] := ⟨rfl, by simp⟩
  exact ⟨oneEntry, [⟨[97], [98]⟩], .cons hindexed .nil, rfl, by simp,
    fun rep hrep => by rw [List.mem_singleton.mp hrep]; trivial, by decide⟩

def twoRequests : List Exchange := [.register 0 none, .register 0 none]

theorem no_padding : ∀ padding ∈ (none : Option Bytes), padding.length < 256 := by simp

theorem no_priority : ∀ priority ∈ (none : Option Bytes), priority.length = 5 := by simp

/-- The response to the second request begins first, and the header block of
the other one comes in two frames and refers to it. -/
def mixedResponses : List Exchange := [
    .headers 3 ⟨false, none, none, [0x40, 1, 97, 1, 98], [], no_padding, no_priority⟩ [insertAB],
    .headers 1 ⟨false, none, none, [], [[0xBE]], no_padding, no_priority⟩ [.indexed 62],
    .continuation,
    .data 1 [1, 2] false,
    .data 3 [7] true,
    .data 1 [3] true
  ]

def afterTwoRequests : Conversation where
  inboxes := some ⟨1, 0, none, []⟩ :: some ⟨3, 0, none, []⟩ ::
    List.replicate (MAX_CONCURRENT_STREAMS_PER_SESSION - 2) none
  nextId := 5
  table := ⟨[], 4096⟩
  sending := none

theorem run_twoRequests :
    run stepConversation (converse 4096) twoRequests = afterTwoRequests := rfl

theorem mixedResponses_allowed :
    Meets stepConversation (Allowed 4096) (converse 4096) (twoRequests ++ mixedResponses) := by
  refine meets_append.mpr ⟨⟨?_, ?_, trivial⟩, ?_⟩
  · exact (by decide : ∀ inbox ∈ Slots.entries (converse 4096).inboxes,
      inbox.streamId ≠ (converse 4096).nextId)
  · exact (by decide : ∀ inbox ∈ Slots.entries ((converse 4096).register 0 none).inboxes,
      inbox.streamId ≠ ((converse 4096).register 0 none).nextId)
  · rw [run_twoRequests]
    refine ⟨⟨rfl, sends_insertAB, fun _ => rfl, fun h => absurd rfl h⟩,
      ⟨rfl, sends_indexed, fun _ => rfl, fun _ => ⟨rfl, rfl⟩⟩, nofun, rfl, rfl, rfl, trivial⟩

/-- The decoder has the table of the encoder at the end. -/
theorem runConversation_streams_mixed :
    tableOf (runConnection noDecoders 4096
        ((converse 4096).events (twoRequests ++ mixedResponses))).session.hpackCtx = oneEntry := by
  have hlast : (run stepConversation (converse 4096) (twoRequests ++ mixedResponses)).table =
      oneEntry := by
    rw [run_append, run_twoRequests]
    rfl
  rw [← hlast]
  exact (runConversation_streams noDecoders 4096 4096 _ mixedResponses_allowed).2

/-! ### Reading octets -/

/-- The server sends a frame. -/
def Exchange.isSending : Exchange → Bool
  | .headers _ _ _ => true
  | .continuation => true
  | .data _ _ _ => true
  | .reset _ _ => true
  | .connection _ => true
  | .register _ _ => false
  | .unregister _ => false
  | .flush => false

def dispatchedFrame : ConnectionEvent → Option Frame
  | .reader action => action.frame?
  | _ => none

/-- The frames that the server sends in a run. -/
def Conversation.frames (conversation : Conversation) (exchanges : List Exchange) : List Frame :=
  (conversation.events exchanges).filterMap dispatchedFrame

theorem exists_frame {exchange : Exchange} (hsending : exchange.isSending = true)
    (hallowed : Allowed limit conversation exchange) :
    ∃ frame, conversation.event exchange = .reader (.dispatch frame) := by
  cases exchange with
  | headers streamId cut reps => exact ⟨_, rfl⟩
  | continuation =>
    cases hsome : conversation.sending with
    | none => exact absurd hsome hallowed
    | some sending => exact ⟨sending.frame, by simp only [Conversation.event, hsome]⟩
  | data streamId chunk endStream => exact ⟨_, rfl⟩
  | reset streamId payload => exact ⟨_, rfl⟩
  | connection frame => exact ⟨_, rfl⟩
  | register decompress contract => cases hsending
  | unregister slot => cases hsending
  | flush => cases hsending

/-- A reader that dispatches what the server sends, and ends its batches where
it likes. -/
theorem Reflects.trace {connection : Connection} {trace : List ReaderAction}
    (h : Reflects lib limit connection.session conversation)
    (hallowed : Meets stepConversation (Allowed limit) conversation exchanges)
    (hsending : ∀ exchange ∈ exchanges, exchange.isSending = true)
    (htrace : trace.filterMap ReaderAction.frame? = conversation.frames exchanges) :
    Reflects lib limit
      (trace.foldl (applyAction (dispatchFrame lib) flushReaderWrites) connection).session
      (run stepConversation conversation exchanges) := by
  induction trace generalizing connection conversation exchanges with
  | nil =>
    cases exchanges with
    | nil => exact h
    | cons exchange exchanges =>
      obtain ⟨frame, hevent⟩ := exists_frame (hsending exchange List.mem_cons_self) hallowed.1
      rw [Conversation.frames, Conversation.events, hevent] at htrace
      cases htrace
  | cons action trace ih =>
    cases action with
    | flush => exact ih h.flush hallowed hsending htrace
    | dispatch frame =>
      cases exchanges with
      | nil => cases htrace
      | cons exchange exchanges =>
        obtain ⟨frame', hevent⟩ := exists_frame (hsending exchange List.mem_cons_self) hallowed.1
        have hstep := stepConversation_reflects h hallowed.1
        rw [hevent] at hstep
        rw [Conversation.frames, Conversation.events, hevent] at htrace
        obtain ⟨hframe, hrest⟩ := List.cons.inj htrace
        cases hframe
        have hrun := ih hstep hallowed.2
          (fun later hlater => hsending later (List.mem_cons_of_mem _ hlater)) hrest
        exact hrun

end Runs

end HttpRequestClient.Http2
