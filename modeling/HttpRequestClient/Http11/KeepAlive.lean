import HttpRequestClient.Client.Attempts
import HttpRequestClient.Http11.RequestBuffers
import HttpRequestClient.Http11.Responses
import HttpRequestClient.Http2.SharedWrites

/-!
# Exchanges on one connection

`handleHttp11RequestSync` runs one exchange with `writeMutex` held: it builds
the request, writes it with as many calls of `send` as it takes, and reads the
response with a reader of its own, whose buffer is thrown away.  Other threads
wait for the mutex; a thread that gets it does not look at `goingAway`.

* `runExchanges_own`: on a connection that is not going away every exchange
  gets the answer to its own request.
* `runExchanges_late`: behind a timeout every exchange may get the answer to
  the request before.
-/

namespace HttpRequestClient.Http11

open Parts Runs

/-! ## The end of a connection -/

/-- A reader that met the end of its transport has read it all. -/
def Drained (reader : Http11Reader) : Prop := reader.eof = true → reader.transport.reads = []

/-- A loop that answers 0 has read the transport to its end. -/
structure Drains (rc : Int) (reader : Http11Reader) : Prop where
  drained : Drained reader
  ended : rc = 0 → reader.transport.reads = []

theorem readerFill_drained {reader : Http11Reader} (h : Drained reader) :
    Drained (readerFill reader) := by
  unfold readerFill
  split
  · exact h
  · rename_i hopen
    have heof : reader.eof = false := Bool.eq_false_iff.mpr fun heof => hopen (Or.inl heof)
    obtain ⟨⟨reads, ending⟩, buf, pos, eof, err⟩ := reader
    cases reads with
    | nil =>
      intro _
      cases ending <;> rfl
    | cons read reads =>
      have hpos : (read.val.length : Int) > 0 := by
        have := read.property.1
        omega
      dsimp only [sessionReadTimed]
      rw [if_pos hpos]
      intro hend
      cases heof.symm.trans hend

theorem readerEndCode_drains {reader : Http11Reader} (h : Drained reader)
    (hstopped : reader.eof = true ∨ reader.err ≠ 0) : Drains (readerEndCode reader) reader := by
  refine ⟨h, fun hzero => h ?_⟩
  rcases hstopped with heof | herr
  · exact heof
  · rw [readerEndCode, if_pos herr] at hzero
    exact absurd hzero herr

theorem Drains.passed {reader : Http11Reader} (h : Drained reader) : Drains 1 reader :=
  ⟨h, fun hzero => absurd hzero (by decide)⟩

theorem Drains.refused {reader : Http11Reader} (h : Drained reader) : Drains (-1) reader :=
  ⟨h, fun hzero => absurd hzero (by decide)⟩

theorem readerReadLineLoop_drains (fuel : Nat) :
    ∀ reader : Http11Reader, Drained reader →
      Drains (readerReadLineLoop fuel reader).1 (readerReadLineLoop fuel reader).2.2 := by
  induction fuel with
  | zero => exact fun reader h => .refused h
  | succ fuel ih =>
    intro reader h
    rw [readerReadLineLoop]
    split
    · exact .passed h
    · split
      · rename_i hstopped
        exact readerEndCode_drains h hstopped
      · split
        · exact .refused h
        · exact ih _ (readerFill_drained h)

theorem readerReadLine_drains {reader : Http11Reader} (h : Drained reader) :
    Drains (readerReadLine reader).1 (readerReadLine reader).2.2 :=
  readerReadLineLoop_drains _ reader h

theorem readerReadBodyLoop_drains (lib : DecoderLib) (fuel : Nat) :
    ∀ (stream : Stream) (reader : Http11Reader) (remaining : Nat), Drained reader →
      Drains (readerReadBodyLoop lib fuel stream reader remaining).1
        (readerReadBodyLoop lib fuel stream reader remaining).2.2 := by
  induction fuel with
  | zero => exact fun stream reader remaining h => .refused h
  | succ fuel ih =>
    intro stream reader remaining h
    rw [readerReadBodyLoop]
    dsimp only
    generalize (if remaining < (reader.buf.drop reader.pos).length then remaining
      else (reader.buf.drop reader.pos).length) = take
    split
    · exact .passed h
    · split
      · split
        · exact .refused h
        · exact ih _ _ _ h
      · split
        · rename_i hstopped
          exact readerEndCode_drains h hstopped
        · exact ih _ _ _ (readerFill_drained h)

theorem readerReadBody_drains (lib : DecoderLib) (stream : Stream) {reader : Http11Reader} (n : Nat)
    (h : Drained reader) :
    Drains (readerReadBody lib stream reader n).1 (readerReadBody lib stream reader n).2.2 :=
  readerReadBodyLoop_drains lib _ stream reader n h

theorem readTrailersLoop_drains (fuel : Nat) :
    ∀ reader : Http11Reader, Drained reader →
      Drains (readTrailersLoop fuel reader).1 (readTrailersLoop fuel reader).2 := by
  induction fuel with
  | zero => exact fun reader h => .refused h
  | succ fuel ih =>
    intro reader h
    have hline := readerReadLine_drains h
    rw [readTrailersLoop]
    dsimp only
    split
    · exact hline
    · split
      · exact .passed hline.drained
      · exact ih _ hline.drained

theorem readChunkedBodyLoop_drains {lib : DecoderLib} (fuel : Nat) :
    ∀ (stream : Stream) (reader : Http11Reader), Drained reader →
      Drains (readChunkedBodyLoop lib fuel stream reader).1
        (readChunkedBodyLoop lib fuel stream reader).2.2 := by
  induction fuel with
  | zero => exact fun stream reader h => .refused h
  | succ fuel ih =>
    intro stream reader h
    have hline := readerReadLine_drains h
    rw [readChunkedBodyLoop]
    dsimp only
    split
    · exact hline
    · split
      · exact .refused hline.drained
      · split
        · exact readTrailersLoop_drains _ _ hline.drained
        · have hdata := readerReadBody_drains lib stream
            (chunkSizeOf (readerReadLine reader).2.1).toNat hline.drained
          split
          · exact hdata
          · have hcrlf := readerReadLine_drains hdata.drained
            split
            · exact hcrlf
            · exact ih _ _ hcrlf.drained

/-- A body that is cut off by an orderly end has been read to that end. -/
theorem readFramedBody_drains {lib : DecoderLib} {framing : Framing} {stream : Stream}
    {reader : Http11Reader} (h : Drained reader) (hclose : framing ≠ .untilClose) :
    Drains (readFramedBody lib framing stream reader).1
      (readFramedBody lib framing stream reader).2.2 := by
  unfold readFramedBody
  cases framing with
  | chunked => exact readChunkedBodyLoop_drains _ _ _ h
  | length bodyLen =>
    dsimp only
    split
    · exact .refused h
    · unfold readContentLengthBody
      split
      · exact .passed h
      · exact readerReadBody_drains lib stream _ h
  | untilClose => exact absurd rfl hclose

/-! ## One response -/

/-- A head that is not whole fails. -/
theorem headOf_cut {head : ResponseHead} {u : Unread UInt8} {missing : Bytes}
    (hmissing : missing ≠ []) (h : u.all ++ missing = head.wire) :
    ∃ why, headOf u = .failed why := by
  unfold headOf
  cases hnext : nextLine u with
  | ended => exact ⟨.ended, rfl⟩
  | tooLong => exact ⟨.tooLong, rfl⟩
  | line raw u' =>
    have hsome : cut 10 u.all = some (raw, u'.all) := line_eq_line hnext
    rcases cut_line head.statusLine_ok.1 h with hnone | ⟨later, hlater, hsection⟩
    · rw [hsome] at hnone
      cases hnone
    · rw [hlater, cut_crlf head.statusLine_ok.1, Option.some.injEq, Prod.mk.injEq] at hsome
      obtain ⟨rfl, rfl⟩ := hsome
      simp only [lineText_rawLine head.statusLine_ok.2, statusCodeOf_statusLine]
      by_cases hlong : (sectionOf u').2 = .tooLong
      · rcases hsec : sectionOf u' with ⟨lines, outcome⟩
        rw [hsec] at hlong
        obtain rfl : outcome = .tooLong := hlong
        exact ⟨.tooLong, rfl⟩
      · have hresult := (sectionOf_scan u' hlong).2
        rw [scanSection_cut _ hmissing hsection] at hresult
        rcases hsec : sectionOf u' with ⟨lines, outcome⟩
        rw [hsec] at hresult
        cases outcome with
        | done rest => cases hresult
        | ended => exact ⟨.ended, rfl⟩
        | refused => exact ⟨.refused, rfl⟩
        | tooLong => exact ⟨.tooLong, rfl⟩

/-- A part of a body does not end it. -/
theorem scanBody_cut {headers : List ResponseHeader} {body : Body}
    (hframed : body.FramedBy headers) (hends : ¬body.endsWithConnection)
    (hsize : body.data.length ≤ LLONG_MAX) {sent missing : Bytes} (hmissing : missing ≠ [])
    (hbody : sent ++ missing = body.wire) (hshort : sent.length ≤ LLONG_MAX) :
    (scanBody (framingOf headers) sent).result = .ended := by
  cases body with
  | chunked chunks last trailers =>
    have hframing : framingOf headers = .chunked := if_pos hframed
    rw [hframing]
    exact scanChunks_cut chunks last trailers hmissing hshort hbody
  | length data =>
    have hmin : min data.length LLONG_MAX = data.length := Nat.min_eq_left hsize
    have hlength := congrArg List.length hbody
    have hpos := List.length_pos_iff.mpr hmissing
    rw [List.length_append] at hlength
    change sent.length + missing.length = data.length at hlength
    rw [framingOf_length hframed, hmin, scanBody, if_neg (by omega), Int.toNat_natCast,
      if_pos (by omega)]
  | untilClose data => exact absurd trivial hends

theorem chunksData_length_le (chunks : List Chunk) (last : LastChunk) (trailers : List TextLine) :
    (chunksData chunks).length ≤ (chunksWire chunks last trailers).length := by
  induction chunks with
  | nil => exact Nat.zero_le _
  | cons chunk chunks ih =>
    have hdata : chunksData (chunk :: chunks) = chunk.data ++ chunksData chunks := by
      simp [chunksData]
    rw [hdata, chunksWire_cons]
    simp only [List.length_append]
    omega

theorem FinalResponse.data_length_le (response : FinalResponse) :
    response.data.length ≤ response.wire.length := by
  obtain ⟨head, body, -, -⟩ := response
  rw [FinalResponse.data, FinalResponse.wire, List.length_append]
  cases body with
  | none => exact Nat.zero_le _
  | some body =>
    refine Nat.le_trans ?_ (Nat.le_add_left _ _)
    cases body with
    | chunked chunks last trailers => exact chunksData_length_le chunks last trailers
    | length data => exact Nat.le_refl _
    | untilClose data => exact Nat.le_refl _

theorem reads_nil_of_unread {reader : Http11Reader} (h : reader.unread.all = []) :
    reader.transport.reads = [] := by
  have hreads : reader.transport.parts.flatten = [] := (List.append_eq_nil_iff.mp h).2
  rw [List.flatten_eq_nil_iff] at hreads
  cases hread : reader.transport.reads with
  | nil => rfl
  | cons read reads =>
    have hnil := hreads read.val (by simp [Transport.parts, hread])
    have hpos := read.property.1
    rw [hnil] at hpos
    exact absurd hpos (Nat.lt_irrefl 0)

/-- A body that the client takes for complete was read up to its end, or up
to the end of the connection. -/
theorem receiveHttp11Response_ended (lib : DecoderLib) (basket : Basket) {stream : Stream}
    {transport : Transport} {head : ResponseHead} {u : Unread UInt8}
    (hfresh : Fresh stream) (hhead : headOf ⟨0, [], transport.parts⟩ =
      .read head.code (head.lines.map HeaderLine.text) u)
    (hbody : isBodylessStatus head.status = false)
    (hclose : framingOf head.stored ≠ .untilClose)
    (hended : (bodyOf (framingOf head.stored) u).2 = .ended) (hclosed : transport.ending = .closed)
    (hpasses : ¬funnelStops lib stream head.stored (bodyOf (framingOf head.stored) u).1) :
    (receiveHttp11Response lib basket stream transport).2.2.transport.reads = [] := by
  obtain ⟨reader, hshows, heq⟩ := receiveHttp11Response_read lib basket hfresh hhead
  have hnoBody : ¬(strcasecmp basket.method.name (ascii "HEAD") = 0 ∨
      isBodylessStatus (atoi head.code) = true) := by
    refine not_or.mpr ⟨name_ne_head basket.method, ?_⟩
    rw [show atoi head.code = head.status from rfl, hbody]
    exact Bool.false_ne_true
  rw [storedHeaders_texts] at heq
  rw [heq, readBody]
  simp only [if_neg hnoBody, withHeaders_headers, Option.getD_some]
  have hanswer : BodyAnswer lib transport.ending (withHeaders lib stream head.stored) _
      (readFramedBody lib (framingOf head.stored) (withHeaders lib stream head.stored) reader) :=
    readFramedBody_spec hshows (framingOf head.stored) _
  have hopen : Drained reader := fun heof => by
    rw [hshows.eof] at heof
    cases heof
  refine (readFramedBody_drains hopen hclose).ended ?_
  have htaken := Bool.of_not_eq_false fun hno => hpasses (Or.inr hno)
  rw [hanswer.code, if_pos htaken, hended, hclosed]
  rfl

/-- Behind a whole body that came alone nothing is left. -/
theorem bodyOf_whole {headers : List ResponseHeader} {body : Body} {u : Unread UInt8}
    (hframed : body.FramedBy headers) (hends : ¬body.endsWithConnection)
    (hsize : body.data.length ≤ LLONG_MAX) (hall : u.all = body.wire)
    (hshort : (bodyOf (framingOf headers) u).2 ≠ .tooLong) :
    ∃ rest, (bodyOf (framingOf headers) u).2 = .done rest ∧ rest.all = [] := by
  have hresult := (bodyOf_scan hshort).2
  rw [hall, ← List.append_nil body.wire, scanBody_wire hframed hends hsize []] at hresult
  cases hout : (bodyOf (framingOf headers) u).2 with
  | done rest =>
    rw [hout] at hresult
    exact ⟨rest, rfl, by simpa [Outcome.result] using hresult⟩
  | ended => rw [hout] at hresult; cases hresult
  | refused => rw [hout] at hresult; cases hresult
  | tooLong => exact absurd hout hshort

section Kept

variable {lib : DecoderLib} {basket : Basket} {stream : Stream} {transport : Transport}

/-- The end of a body on a connection that is kept. -/
theorem receiveHttp11Response_kept_body {head : ResponseHead} {body : Body} {sent missing : Bytes}
    (hfresh : Fresh stream) (hstatus : isBodylessStatus head.status = false)
    (hframed : body.FramedBy head.stored) (hsize : body.data.length ≤ LLONG_MAX)
    (hshort : sent.length ≤ LLONG_MAX) (hbytes : transport.bytes = head.wire ++ sent)
    (hbody : sent ++ missing = body.wire)
    (hkept : (receiveHttp11Response lib basket stream transport).1.goingAway ≠ true) :
    (receiveHttp11Response lib basket stream transport).2.2.transport.reads = [] ∧
      (missing = [] ∨ transport.ending = .closed) := by
  rcases exchangeOf_body hbytes hstatus with hlong | ⟨u, hread, hall, hexchange⟩
  · exact absurd (receiveHttp11Response_headFailed lib basket stream hlong).2.1 hkept
  have hreport := receiveHttp11Response_body lib basket hfresh hexchange
  have herror := Decidable.not_not.mp fun herror => hkept (hreport.goingAway (Or.inl herror))
  have hclose : framingOf head.stored ≠ .untilClose :=
    fun hclose => hkept (hreport.goingAway (Or.inr hclose))
  have hends : ¬body.endsWithConnection := by
    cases body with
    | chunked chunks last trailers => exact id
    | length data => exact id
    | untilClose data => exact fun _ => hclose (framingOf_untilClose hframed)
  obtain ⟨hpasses, hcode⟩ := hreport.error.mp herror
  cases hout : (bodyOf (framingOf head.stored) u).2 with
  | done rest =>
    -- the body was found to be whole, so it is
    have hresult := (bodyOf_scan (by rw [hout]; exact fun h => by cases h)).2
    rw [hout, hall] at hresult
    have hmissing : missing = [] := by
      by_contra hne
      rw [scanBody_cut hframed hends hsize hne hbody hshort] at hresult
      cases hresult
    have hwhole : u.all = body.wire := by rw [hall, ← hbody, hmissing, List.append_nil]
    obtain ⟨rest', hdone, hnil⟩ := bodyOf_whole hframed hends hsize hwhole
      (by rw [hout]; exact fun h => by cases h)
    refine ⟨reads_nil_of_unread ?_, Or.inl hmissing⟩
    rw [hreport.rest herror rest' hdone]
    exact hnil
  | ended =>
    rw [hout] at hcode
    have hclosed : transport.ending = .closed := by
      cases hending : transport.ending with
      | closed => rfl
      | failed => rw [hending] at hcode; exact absurd hcode (by decide)
      | timedOut => rw [hending] at hcode; exact absurd hcode (by decide)
    exact ⟨receiveHttp11Response_ended lib basket hfresh hread hstatus hclose hout hclosed hpasses,
      Or.inr hclosed⟩
  | refused => rw [hout] at hcode; exact absurd hcode (by cases transport.ending <;> decide)
  | tooLong => rw [hout] at hcode; exact absurd hcode (by cases transport.ending <;> decide)

/-- When the client keeps the connection after a response, or a part of it,
that came alone, nothing of it is left, and all of it has come unless the
connection ended. -/
theorem receiveHttp11Response_kept {response : FinalResponse} {missing : Bytes}
    (hfresh : Fresh stream) (hsize : response.wire.length ≤ LLONG_MAX)
    (hbytes : transport.bytes ++ missing = response.wire)
    (hkept : (receiveHttp11Response lib basket stream transport).1.goingAway ≠ true) :
    (receiveHttp11Response lib basket stream transport).2.2.transport.reads = [] ∧
      (missing = [] ∨ transport.ending = .closed) := by
  have hdata := response.data_length_le.trans hsize
  have hshort : transport.bytes.length ≤ LLONG_MAX := by
    rw [← hbytes, List.length_append] at hsize
    omega
  obtain ⟨head, body, hfinal, hframed⟩ := response
  have hhead : ∃ sent, transport.bytes = head.wire ++ sent ∧
      sent ++ missing = (body.map Body.wire).getD [] := by
    rcases List.append_eq_append_iff.mp hbytes with ⟨more, hmore, hmissing⟩ | ⟨sent, hsplit, hrest⟩
    · by_cases hnil : more = []
      · rw [hnil, List.append_nil] at hmore
        rw [hnil, List.nil_append] at hmissing
        exact ⟨[], by rw [List.append_nil]; exact hmore.symm, hmissing⟩
      · have hcut : (⟨0, [], transport.parts⟩ : Unread UInt8).all ++ more = head.wire := hmore.symm
        obtain ⟨why, hfailed⟩ := headOf_cut hnil hcut
        have hexchange : exchangeOf transport.parts = .headFailed why := by
          rw [exchangeOf, hfailed]
        exact absurd (receiveHttp11Response_headFailed lib basket stream hexchange).2.1 hkept
    · exact ⟨sent, hsplit, hrest.symm⟩
  obtain ⟨sent, hsplit, hrest⟩ := hhead
  have hsent : sent.length ≤ LLONG_MAX := by
    rw [hsplit, List.length_append] at hshort
    omega
  cases body with
  | none =>
    obtain ⟨rfl, rfl⟩ := List.append_eq_nil_iff.mp hrest
    rcases exchangeOf_noBody hsplit hframed with hlong | ⟨u, hall, hexchange⟩
    · exact absurd (receiveHttp11Response_headFailed lib basket stream hlong).2.1 hkept
    · have hunread := (receiveHttp11Response_noBody lib basket hfresh hexchange).2.2.2
      exact ⟨reads_nil_of_unread (by rw [hunread]; exact hall), Or.inl rfl⟩
  | some body =>
    exact receiveHttp11Response_kept_body hfresh hframed.1 hframed.2 hdata hsent hsplit hrest hkept

end Kept

/-! ## Sending -/

/-- The errors of `send` that the loop tells apart. -/
inductive SocketError where
  | interrupted
  | again
  | wouldBlock
  | other
  deriving Repr, DecidableEq

def isRetryableSocketError : SocketError → Bool
  | .interrupted => true
  | .again => true
  | .wouldBlock => true
  | .other => false

/-- What one round of the loop gets: `send` took some octets, or failed, and
`select` says whether the socket became ready in time. -/
inductive SendAnswer where
  | sent (count : Nat)
  | refused (lastError : SocketError) (ready : Bool)
  deriving Repr, DecidableEq

/-- How many octets a round sends; `none` when the loop gives up. -/
def sendRound (nonBlocking : Bool) : SendAnswer → Option Nat
  | .sent count => some count
  | .refused lastError ready =>
    if ¬nonBlocking ∨ ¬isRetryableSocketError lastError then none
    else if ready then some 0 else none

/-- The result and what was written; `none` while the loop waits for an
answer. -/
def plainWriteAll (nonBlocking : Bool) (buf : Bytes) : List SendAnswer → Option (Int × Bytes)
  | [] => if buf = [] then some (1, []) else none
  | answer :: answers =>
    if buf = [] then some (1, [])
    else
      match sendRound nonBlocking answer with
      | none => some (-1, [])
      | some count =>
        (plainWriteAll nonBlocking (buf.drop count) answers).map fun r =>
          (r.1, buf.take count ++ r.2)

/-- The answers that a session without or with TLS gets. -/
inductive SessionWrites where
  | plain (answers : List SendAnswer)
  | tls (answers : List Http2.WriteAnswer)
  deriving Repr, DecidableEq

def sessionWriteAll (nonBlocking : Bool) (buf : Bytes) : SessionWrites → Option (Int × Bytes)
  | .tls answers => (Http2.sslWriteAllEx nonBlocking buf answers).map fun r => (r.1, r.2.1)
  | .plain answers => plainWriteAll nonBlocking buf answers

/-- As the writer with TLS takes the answer. -/
def SendAnswer.write : SendAnswer → Http2.WriteAnswer
  | .sent count => .wrote count
  | .refused lastError ready => if isRetryableSocketError lastError then .wants ready else .failed

theorem sendRound_write (nonBlocking : Bool) (answer : SendAnswer) :
    sendRound nonBlocking answer = Http2.writeRound nonBlocking answer.write := by
  cases answer with
  | sent count => rfl
  | refused lastError ready => cases lastError <;> cases nonBlocking <;> cases ready <;> rfl

/-- Both writers are one loop. -/
theorem plainWriteAll_eq (nonBlocking : Bool) (buf : Bytes) (answers : List SendAnswer) :
    plainWriteAll nonBlocking buf answers =
      sessionWriteAll nonBlocking buf (.tls (answers.map SendAnswer.write)) := by
  induction answers generalizing buf with
  | nil =>
    rw [plainWriteAll, sessionWriteAll, List.map_nil, Http2.sslWriteAllEx]
    split <;> rfl
  | cons answer answers ih =>
    rw [plainWriteAll, sessionWriteAll, List.map_cons, Http2.sslWriteAllEx, sendRound_write]
    split
    · rfl
    · cases Http2.writeRound nonBlocking answer.write with
      | none => rfl
      | some count =>
        simp only [ih, sessionWriteAll, Option.map_map]
        rfl

/-- The result says whether everything was written; what was written is the
beginning of the buffer in any case. -/
theorem sessionWriteAll_spec {nonBlocking : Bool} {buf written : Bytes} {writes : SessionWrites}
    {rc : Int} (h : sessionWriteAll nonBlocking buf writes = some (rc, written)) :
    written <+: buf ∧ (rc = 1 ∧ written = buf ∨ rc = -1 ∧ written ≠ buf) := by
  have htls (answers : List Http2.WriteAnswer)
      (h : sessionWriteAll nonBlocking buf (.tls answers) = some (rc, written)) :
      written <+: buf ∧ (rc = 1 ∧ written = buf ∨ rc = -1 ∧ written ≠ buf) := by
    obtain ⟨result, hresult, heq⟩ := Option.map_eq_some_iff.mp h
    cases heq
    exact Http2.sslWriteAllEx_spec hresult
  cases writes with
  | tls answers => exact htls answers h
  | plain answers =>
    rw [sessionWriteAll, plainWriteAll_eq] at h
    exact htls _ h

/-! ## Exchanges -/

/-- The client's side of a connection, and what the peer has seen of it: the
requests that were written whole, all that has arrived, and whether the peer
is done. -/
structure Connection where
  session : Session
  wire : Bytes
  requests : List Bytes
  unread : List Read
  received : Bytes
  finished : Bool

def Connection.init (session : Session) : Connection := ⟨session, [], [], [], [], false⟩

/-- What one exchange meets while its thread has the mutex: the answers of the
allocator and of the socket, and what arrives until it is over.  The loop that
writes the request comes to its end. -/
structure Turn (addresses : AddressLib) where
  request : Http11Basket
  nonBlocking : Bool
  stream : Stream
  heap : Heap
  writes : SessionWrites
  arrivals : List Read
  ending : Ending
  fresh : Fresh stream
  written : ∀ request', (Memory.buildHttp11Request addresses request heap).1 = some request' →
    (sessionWriteAll nonBlocking request' writes).isSome

section Exchange

variable (lib : DecoderLib) {addresses : AddressLib} (connection : Connection)
  (turn : Turn addresses)

/-- The bytes of the request, or null. -/
def Turn.bytes : Option Bytes := (Memory.buildHttp11Request addresses turn.request turn.heap).1

def sendHttp11Request : Connection × Stream :=
  match turn.bytes with
  | none => (connection, { turn.stream with error := some ERR_SYSTEM_MEMORY_ALLOCATION_FAILED })
  | some request =>
    let (writeRc, written) :=
      (sessionWriteAll turn.nonBlocking request turn.writes).getD (-1, [])
    let connection := { connection with wire := connection.wire ++ written }
    if writeRc ≠ 1 then
      ({ connection with session := { connection.session with goingAway := true } },
        { turn.stream with error := some ERR_REQUEST_SENDING_HTTP11_REQUEST_FAILED })
    else ({ connection with requests := connection.requests ++ [request] }, turn.stream)

/-- What the peer sends meanwhile comes to what was not read before. -/
def Connection.transport : Transport := ⟨connection.unread ++ turn.arrivals, turn.ending⟩

def Connection.arrive : Connection :=
  { connection with
    unread := connection.unread ++ turn.arrivals
    received := connection.received ++ (turn.arrivals.map Subtype.val).flatten
    finished := connection.finished || turn.ending ≠ .timedOut }

/-- One exchange with the mutex held.  The buffer of the reader is freed with
what it holds. -/
def handleHttp11RequestSync : Connection × Stream :=
  let (connection, stream) := sendHttp11Request connection turn
  let arrived := connection.arrive turn
  if stream.error ≠ none then (arrived, Client.endStream stream)
  else
    let (session, stream, reader) := receiveHttp11Response lib
      ⟨turn.request.method, connection.session⟩ stream (connection.transport turn)
    ({ arrived with session := session, unread := reader.transport.reads },
      Client.endStream stream)

def stepConnection : Connection := (handleHttp11RequestSync lib connection turn).1

end Exchange

/-! ## A peer -/

/-- What a server answers to the last one of the requests that it has got.
Each answer is one message. -/
structure Server where
  reply : List Bytes → FinalResponse
  size : ∀ requests, (reply requests).wire.length ≤ LLONG_MAX

/-- The answers to requests, in their order. -/
def Server.answers (server : Server) (requests : List Bytes) : Bytes :=
  (List.range requests.length).flatMap fun n => (server.reply (requests.take (n + 1))).wire

theorem Server.answers_snoc (server : Server) (requests : List Bytes) (request : Bytes) :
    server.answers (requests ++ [request]) =
      server.answers requests ++ (server.reply (requests ++ [request])).wire := by
  rw [Server.answers, List.length_append, List.length_singleton, List.range_succ,
    List.flatMap_append]
  congr 1
  · refine List.flatMap_congr fun n hn => ?_
    rw [List.take_append_of_le_length (List.mem_range.mp hn)]
  · have hall : (requests ++ [request]).take (requests.length + 1) = requests ++ [request] :=
      List.take_of_length_le (by simp)
    simp [hall]

/-- The server sends nothing but answers to what it has read, and nothing when
it is done. -/
structure Conforms (server : Server) {addresses : AddressLib} (connection : Connection)
    (turn : Turn addresses) : Prop where
  answers : connection.received ++ (turn.arrivals.map Subtype.val).flatten <+:
    server.answers (sendHttp11Request connection turn).1.requests
  finished : connection.finished = true → turn.arrivals = []

/-- A connection that is not going away has whole requests on it and nothing
to read, and the answers to all of them have come unless the peer is done. -/
structure Clean (server : Server) (connection : Connection) : Prop where
  wire : connection.session.goingAway = false → connection.wire = connection.requests.flatten
  unread : connection.session.goingAway = false → connection.unread = []
  received : connection.session.goingAway = false → connection.finished = false →
    connection.received = server.answers connection.requests

theorem clean_init (server : Server) (session : Session) : Clean server (.init session) :=
  ⟨fun _ => rfl, fun _ => rfl, fun _ _ => rfl⟩

section Step

variable {lib : DecoderLib} {server : Server} {addresses : AddressLib} {connection : Connection}
  {turn : Turn addresses}

/-- The request is written whole, it is not even built, or the connection goes
away. -/
theorem sendHttp11Request_cases (connection : Connection) (turn : Turn addresses) :
    (∃ request, turn.bytes = some request ∧ sendHttp11Request connection turn =
        ({ connection with
            wire := connection.wire ++ request
            requests := connection.requests ++ [request] }, turn.stream)) ∨
      sendHttp11Request connection turn =
        (connection, { turn.stream with error := some ERR_SYSTEM_MEMORY_ALLOCATION_FAILED }) ∨
      ∃ written, sendHttp11Request connection turn =
        ({ connection with
            wire := connection.wire ++ written
            session := { connection.session with goingAway := true } },
          { turn.stream with error := some ERR_REQUEST_SENDING_HTTP11_REQUEST_FAILED }) := by
  unfold sendHttp11Request
  cases hbytes : turn.bytes with
  | none => exact Or.inr (Or.inl rfl)
  | some request =>
    obtain ⟨⟨rc, written⟩, hwritten⟩ := Option.isSome_iff_exists.mp (turn.written request hbytes)
    dsimp only
    rw [hwritten, Option.getD_some]
    obtain ⟨-, ⟨rfl, rfl⟩ | ⟨rfl, -⟩⟩ := sessionWriteAll_spec hwritten
    · exact Or.inl ⟨written, rfl, rfl⟩
    · exact Or.inr (Or.inr ⟨written, rfl⟩)

/-- What has arrived by an exchange that is alone on the connection belongs to
its answer. -/
theorem Conforms.missing (hclean : Clean server connection)
    (hconforms : Conforms server connection turn) (hopen : connection.session.goingAway = false)
    {request : Bytes} (hsent : (sendHttp11Request connection turn).1.requests =
      connection.requests ++ [request]) :
    ∃ missing, (turn.arrivals.map Subtype.val).flatten ++ missing =
        (server.reply (connection.requests ++ [request])).wire ∧
      (connection.finished = false → missing = [] →
        connection.received ++ (turn.arrivals.map Subtype.val).flatten =
          server.answers (connection.requests ++ [request])) := by
  cases hfinished : connection.finished with
  | true =>
    rw [hconforms.finished hfinished]
    exact ⟨_, rfl, fun h => (by cases h)⟩
  | false =>
    obtain ⟨missing, hmissing⟩ := hconforms.answers
    rw [hsent, Server.answers_snoc, hclean.received hopen hfinished, List.append_assoc] at hmissing
    have hmissing := List.append_cancel_left hmissing
    refine ⟨missing, hmissing, fun _ hnil => ?_⟩
    rw [hnil, List.append_nil] at hmissing
    rw [Server.answers_snoc, hclean.received hopen hfinished, hmissing]

/-- Nothing comes for a request that was not sent. -/
theorem Conforms.arrivals_nil (hclean : Clean server connection)
    (hconforms : Conforms server connection turn) (hopen : connection.session.goingAway = false)
    (hsent : (sendHttp11Request connection turn).1.requests = connection.requests) :
    turn.arrivals = [] := by
  cases hfinished : connection.finished with
  | true => exact hconforms.finished hfinished
  | false =>
    have hle := hconforms.answers
    rw [hsent, hclean.received hopen hfinished] at hle
    have hlength := hle.length_le
    rw [List.length_append] at hlength
    have hnil : (turn.arrivals.map Subtype.val).flatten = [] :=
      List.length_eq_zero_iff.mp (by omega)
    rw [List.flatten_eq_nil_iff] at hnil
    cases harrivals : turn.arrivals with
    | nil => rfl
    | cons read reads =>
      have hread := hnil read.val (by simp [harrivals])
      have hpos := read.property.1
      rw [hread] at hpos
      exact absurd hpos (Nat.lt_irrefl 0)

theorem closeSessionIfSingleUse_session (session : Session) (stream : Stream) (untilClose : Bool)
    (bodyRc : Int) :
    (closeSessionIfSingleUse session stream untilClose bodyRc).1 = session ∨
      (closeSessionIfSingleUse session stream untilClose bodyRc).1.goingAway = true := by
  unfold closeSessionIfSingleUse
  dsimp only
  split
  · exact Or.inr rfl
  · exact Or.inl rfl

theorem receiveHttp11Response_session (lib : DecoderLib) (basket : Basket) (stream : Stream)
    (transport : Transport) :
    (receiveHttp11Response lib basket stream transport).1 = basket.session ∨
      (receiveHttp11Response lib basket stream transport).1.goingAway = true := by
  unfold receiveHttp11Response
  dsimp only
  split
  · exact Or.inr rfl
  · exact closeSessionIfSingleUse_session _ _ _ _

/-- The exchange of a request that was written whole. -/
theorem handleHttp11RequestSync_sent {request : Bytes}
    (hsend : sendHttp11Request connection turn =
      ({ connection with
          wire := connection.wire ++ request
          requests := connection.requests ++ [request] }, turn.stream)) :
    let result := receiveHttp11Response lib ⟨turn.request.method, connection.session⟩ turn.stream
      (connection.transport turn)
    handleHttp11RequestSync lib connection turn =
      ({ connection.arrive turn with
          session := result.1
          wire := connection.wire ++ request
          requests := connection.requests ++ [request]
          unread := result.2.2.transport.reads }, Client.endStream result.2.1) := by
  have hnone : ¬turn.stream.error ≠ none := fun h => h turn.fresh.error
  unfold handleHttp11RequestSync
  rw [hsend]
  dsimp only
  rw [if_neg hnone]
  rfl

/-- On a clean connection the reader finds what arrives meanwhile. -/
theorem Clean.transport (hclean : Clean server connection)
    (hopen : connection.session.goingAway = false) (turn : Turn addresses) :
    connection.transport turn = ⟨turn.arrivals, turn.ending⟩ := by
  rw [Connection.transport, hclean.unread hopen, List.nil_append]

/-- The response that leaves the connection to others was read whole. -/
theorem Clean.kept (hclean : Clean server connection) (lib : DecoderLib)
    (hconforms : Conforms server connection turn) (request : Bytes)
    (hopen : connection.session.goingAway = false)
    (hsent : (sendHttp11Request connection turn).1.requests = connection.requests ++ [request])
    (hkept : (receiveHttp11Response lib ⟨turn.request.method, connection.session⟩ turn.stream
      (connection.transport turn)).1.goingAway ≠ true) :
    (receiveHttp11Response lib ⟨turn.request.method, connection.session⟩ turn.stream
        (connection.transport turn)).2.2.transport.reads = [] ∧
      (connection.finished = false → turn.ending = .timedOut →
        connection.received ++ (turn.arrivals.map Subtype.val).flatten =
          server.answers (connection.requests ++ [request])) := by
  obtain ⟨missing, hmissing, hreceived⟩ := hconforms.missing hclean hopen hsent
  rw [hclean.transport hopen turn] at hkept ⊢
  obtain ⟨hreads, hend⟩ := receiveHttp11Response_kept turn.fresh (server.size _) hmissing hkept
  refine ⟨hreads, fun hfinished htimed => hreceived hfinished (hend.resolve_right ?_)⟩
  rw [htimed]
  exact fun h => by cases h

/-- An exchange keeps a connection clean. -/
theorem stepConnection_clean (hclean : Clean server connection)
    (hconforms : Conforms server connection turn) :
    Clean server (stepConnection lib connection turn) := by
  unfold stepConnection
  rcases sendHttp11Request_cases connection turn with ⟨request, -, hsend⟩ | hsend | ⟨written, hsend⟩
  · rw [handleHttp11RequestSync_sent hsend]
    have hsession := receiveHttp11Response_session lib
      ⟨turn.request.method, connection.session⟩ turn.stream (connection.transport turn)
    have hkept := hclean.kept lib hconforms request
    rw [hsend] at hkept
    dsimp only at hkept hsession ⊢
    generalize receiveHttp11Response lib ⟨turn.request.method, connection.session⟩ turn.stream
      (connection.transport turn) = result at hsession hkept
    -- the connection was open when it is open now
    have hopen (h : result.1.goingAway = false) : connection.session.goingAway = false := by
      rcases hsession with hsame | haway
      · rw [← hsame]
        exact h
      · rw [haway] at h
        cases h
    refine ⟨fun h => ?_, fun h => (hkept (hopen h) rfl (Bool.eq_false_iff.mp h)).1,
      fun h hfinished => ?_⟩
    · show connection.wire ++ request = (connection.requests ++ [request]).flatten
      rw [hclean.wire (hopen h), List.flatten_append, List.flatten_singleton]
    · obtain ⟨hbefore, hending⟩ := Bool.or_eq_false_iff.mp hfinished
      exact (hkept (hopen h) rfl (Bool.eq_false_iff.mp h)).2 hbefore
        (Decidable.not_not.mp (of_decide_eq_false hending))
  · have hsync : (handleHttp11RequestSync lib connection turn).1 = connection.arrive turn := by
      unfold handleHttp11RequestSync
      rw [hsend]
      dsimp only
      rw [if_pos (fun h => by cases h)]
    rw [hsync]
    have harrivals (hopen : connection.session.goingAway = false) : turn.arrivals = [] :=
      hconforms.arrivals_nil hclean hopen (by rw [hsend])
    refine ⟨hclean.wire, fun hopen => ?_, fun hopen hfinished => ?_⟩
    · show connection.unread ++ turn.arrivals = []
      rw [hclean.unread hopen, harrivals hopen]
      rfl
    · show connection.received ++ (turn.arrivals.map Subtype.val).flatten = _
      rw [harrivals hopen, List.map_nil, List.flatten_nil, List.append_nil]
      exact hclean.received hopen (Bool.or_eq_false_iff.mp hfinished).1
  · have haway : (handleHttp11RequestSync lib connection turn).1.session.goingAway = true := by
      unfold handleHttp11RequestSync
      rw [hsend]
      dsimp only
      rw [if_pos (fun h => by cases h)]
      rfl
    refine ⟨fun h => ?_, fun h => ?_, fun h => ?_⟩ <;>
      · rw [haway] at h
        cases h

end Step

/-! ## Runs -/

theorem completeResponseSink_received (stream : Stream) :
    (completeResponseSink stream).received = stream.received := by
  rw [completeResponseSink_eq, finishCompletion]
  split
  · rfl
  · cases hsink : stream.sink with
    | none => rfl
    | some sink =>
      cases hcontract : sink.contract with
      | none => simp [Stream.received, hsink, hcontract]
      | some contract => simp [Stream.received, hsink, hcontract, Callback.data]

/-- A stream has the response, and nothing else. -/
structure Reported (before : Stream) (response : FinalResponse) (after : Stream) : Prop where
  headers : after.headers = some response.head.stored
  body : after.received = before.received ++ response.data
  error : after.error = none

theorem Reports.ended {stream : Stream} {response : FinalResponse} {rest : Bytes}
    {result : Session × Stream × Http11Reader} (h : Reports stream response rest result) :
    Reported stream response (Client.endStream result.2.1) := by
  obtain ⟨hkeeps, herror⟩ := completeResponseSink_keeps { result.2.1 with isEnded := true }
  refine ⟨hkeeps.headers.trans h.headers, ?_, herror.trans h.error⟩
  rw [Client.endStream, completeResponseSink_received]
  exact h.body

/-- Nothing keeps the stream from taking the response, and its lines do not
reach the limit of the reader.  A body up to the end of the connection comes
behind a read that ends with the header section. -/
structure Takes (stream : Stream) (response : FinalResponse) (transport : Transport) : Prop where
  passes : Passes response.head.stored stream
  limit : ¬(exchangeOf transport.parts).limitReached
  closed : response.endsWithConnection → transport.ending = .closed
  apart : response.endsWithConnection →
    ∃ k, (transport.parts.take k).flatten = response.head.wire

/-- Whoever finds the connection open and writes its request gets the answer to
it: the exchange does what it would do alone on a connection.  Without the
request on the wire it reports an error. -/
structure OwnAnswer (lib : DecoderLib) (server : Server) {addresses : AddressLib}
    (connection : Connection) (turn : Turn addresses) : Prop where
  sent : connection.session.goingAway = false → ∀ request,
    (sendHttp11Request connection turn).1.requests = connection.requests ++ [request] →
      let alone : Transport := ⟨turn.arrivals, turn.ending⟩
      let response := server.reply (connection.requests ++ [request])
      turn.bytes = some request ∧ alone.bytes <+: response.wire ∧
        (handleHttp11RequestSync lib connection turn).2 = Client.endStream
          (receiveHttp11Response lib ⟨turn.request.method, connection.session⟩ turn.stream
            alone).2.1 ∧
        (alone.bytes = response.wire → Takes turn.stream response alone →
          Reported turn.stream response (handleHttp11RequestSync lib connection turn).2)
  unsent : (sendHttp11Request connection turn).1.requests = connection.requests →
    (handleHttp11RequestSync lib connection turn).2.error ≠ none

theorem sendHttp11Request_sent {addresses : AddressLib} {connection : Connection}
    {turn : Turn addresses} {request : Bytes}
    (hsent : (sendHttp11Request connection turn).1.requests = connection.requests ++ [request]) :
    turn.bytes = some request ∧ sendHttp11Request connection turn =
      ({ connection with
          wire := connection.wire ++ request
          requests := connection.requests ++ [request] }, turn.stream) := by
  rcases sendHttp11Request_cases connection turn with ⟨other, hbytes, hsend⟩ | hsend | ⟨_, hsend⟩
  · rw [hsend] at hsent
    obtain rfl : other = request := by simpa using List.append_cancel_left hsent
    exact ⟨hbytes, hsend⟩
  · rw [hsend] at hsent
    exact absurd hsent (by simp)
  · rw [hsend] at hsent
    exact absurd hsent (by simp)

/-- A request that was not written leaves an error. -/
theorem handleHttp11RequestSync_unsent {lib : DecoderLib} {addresses : AddressLib}
    {connection : Connection} {turn : Turn addresses}
    (hunsent : (sendHttp11Request connection turn).1.requests = connection.requests) :
    (handleHttp11RequestSync lib connection turn).2.error ≠ none := by
  have hended (stream : Stream) : (Client.endStream stream).error = stream.error :=
    (completeResponseSink_keeps { stream with isEnded := true }).2
  have herror : (sendHttp11Request connection turn).2.error ≠ none := by
    rcases sendHttp11Request_cases connection turn with ⟨_, -, hsend⟩ | hsend | ⟨_, hsend⟩
    · rw [hsend] at hunsent
      exact absurd hunsent (by simp)
    · rw [hsend]
      exact fun h => by cases h
    · rw [hsend]
      exact fun h => by cases h
  unfold handleHttp11RequestSync
  dsimp only
  rw [if_pos herror, hended]
  exact herror

theorem Clean.own {lib : DecoderLib} {server : Server} {addresses : AddressLib}
    {connection : Connection} {turn : Turn addresses} (hclean : Clean server connection)
    (hconforms : Conforms server connection turn) : OwnAnswer lib server connection turn := by
  refine ⟨fun hopen request hsent => ?_, handleHttp11RequestSync_unsent⟩
  intro alone response
  obtain ⟨hbytes, hsend⟩ := sendHttp11Request_sent hsent
  obtain ⟨missing, hmissing, -⟩ := hconforms.missing hclean hopen hsent
  have hsame : (handleHttp11RequestSync lib connection turn).2 = Client.endStream
      (receiveHttp11Response lib ⟨turn.request.method, connection.session⟩ turn.stream
        alone).2.1 := by
    rw [handleHttp11RequestSync_sent hsend, hclean.transport hopen turn]
  refine ⟨hbytes, ⟨missing, hmissing⟩, hsame, fun hwhole htakes => ?_⟩
  rw [hsame]
  have hwhole' : alone.bytes = response.wire ++ [] := by rw [hwhole, List.append_nil]
  have hreports := receiveHttp11Response_final lib ⟨turn.request.method, connection.session⟩
    turn.fresh htakes.passes (response.data_length_le.trans (server.size _))
    (fun hends => ⟨rfl, htakes.closed hends⟩) hwhole' htakes.limit
  exact (hreports.mpr htakes.apart).ended

/-- Nothing arrives before the deadline. -/
theorem receiveHttp11Response_silent (lib : DecoderLib) (basket : Basket) {stream : Stream}
    (hfresh : Fresh stream) :
    let result := receiveHttp11Response lib basket stream ⟨[], .timedOut⟩
    result.1.goingAway = true ∧
      result.2.1.error = some ERR_RESPONSE_NO_CONTENT_AFTER_READING_TIMEOUT ∧
      result.2.2.transport.reads = [] := by
  have hline : readerReadLine (Http11Reader.init ⟨[], .timedOut⟩) =
      (-2, [], { Http11Reader.init ⟨[], .timedOut⟩ with err := -2 }) := rfl
  have hpartial : hasPartialResponse stream = false := by
    simp [hasPartialResponse, Stream.numHeaders, hfresh.headers, hfresh.payload]
  have hhead : readResponseHead stream (Http11Reader.init ⟨[], .timedOut⟩) =
      (-1, { stream with error := some ERR_RESPONSE_NO_CONTENT_AFTER_READING_TIMEOUT },
        { Http11Reader.init ⟨[], .timedOut⟩ with err := -2 }) := by
    rw [readResponseHead, hline]
    simp [classifyHeadError, classifyTimeoutError, hpartial]
  rw [receiveHttp11Response]
  simp only [hhead]
  rw [if_pos (Option.some_ne_none _)]
  exact ⟨rfl, rfl, rfl⟩

/-- Whoever takes a whole response takes all of it. -/
theorem receiveHttp11Response_consumes {lib : DecoderLib} {basket : Basket} {stream : Stream}
    {transport : Transport} {response : FinalResponse} (hfresh : Fresh stream)
    (hends : ¬response.endsWithConnection) (hsize : response.wire.length ≤ LLONG_MAX)
    (hbytes : transport.bytes = response.wire)
    (herror : (receiveHttp11Response lib basket stream transport).2.1.error = none) :
    (receiveHttp11Response lib basket stream transport).2.2.transport.reads = [] := by
  have hdata := response.data_length_le.trans hsize
  obtain ⟨head, body, hfinal, hframed⟩ := response
  cases body with
  | none =>
    have hhead : transport.bytes = head.wire ++ [] := hbytes
    rcases exchangeOf_noBody hhead hframed with hlong | ⟨u, hall, hexchange⟩
    · exact absurd herror (receiveHttp11Response_headFailed lib basket stream hlong).1
    · have hunread := (receiveHttp11Response_noBody lib basket hfresh hexchange).2.2.2
      exact reads_nil_of_unread (by rw [hunread]; exact hall)
  | some body =>
    have hopen : ¬body.endsWithConnection := by
      cases body with
      | chunked chunks last trailers => exact id
      | length data => exact id
      | untilClose data => exact fun _ => hends ⟨data, rfl⟩
    have hhead : transport.bytes = head.wire ++ body.wire := hbytes
    rcases exchangeOf_body hhead hframed.1 with hlong | ⟨u, hread, hall, hexchange⟩
    · exact absurd herror (receiveHttp11Response_headFailed lib basket stream hlong).1
    have hreport := receiveHttp11Response_body lib basket hfresh hexchange
    obtain ⟨-, hcode⟩ := hreport.error.mp herror
    have hshort : (bodyOf (framingOf head.stored) u).2 ≠ .tooLong := fun h => by
      rw [h] at hcode
      exact absurd hcode (by cases transport.ending <;> decide)
    obtain ⟨rest, hout, hnil⟩ := bodyOf_whole hframed.2 hopen hdata hall hshort
    refine reads_nil_of_unread ?_
    rw [hreport.rest herror rest hout]
    exact hnil

/-- A request is written, and what comes is the answer to the one before it. -/
structure Lags (server : Server) {addresses : AddressLib} (connection : Connection)
    (turn : Turn addresses) : Prop where
  sent : ∃ request,
    (sendHttp11Request connection turn).1.requests = connection.requests ++ [request]
  late : (turn.arrivals.map Subtype.val).flatten = (server.reply connection.requests).wire
  waits : turn.ending = .timedOut
  takes : Takes turn.stream (server.reply connection.requests) ⟨turn.arrivals, turn.ending⟩

/-- Nobody looks at `goingAway`: the exchange takes the answer for its own. -/
theorem Lags.handleHttp11RequestSync {lib : DecoderLib} {server : Server}
    {addresses : AddressLib} {connection : Connection} {turn : Turn addresses}
    (hlags : Lags server connection turn) (hunread : connection.unread = []) :
    (handleHttp11RequestSync lib connection turn).1.unread = [] ∧
      Reported turn.stream (server.reply connection.requests)
        (handleHttp11RequestSync lib connection turn).2 := by
  obtain ⟨request, hrequest⟩ := hlags.sent
  obtain ⟨-, hsend⟩ := sendHttp11Request_sent hrequest
  have htransport : connection.transport turn = ⟨turn.arrivals, turn.ending⟩ := by
    rw [Connection.transport, hunread, List.nil_append]
  have hends : ¬(server.reply connection.requests).endsWithConnection := fun hends => by
    have hclosed := hlags.takes.closed hends
    rw [hlags.waits] at hclosed
    cases hclosed
  have hsize := server.size connection.requests
  have hbytes : (⟨turn.arrivals, turn.ending⟩ : Transport).bytes =
      (server.reply connection.requests).wire ++ [] := by
    rw [List.append_nil]
    exact hlags.late
  have hreports := (receiveHttp11Response_final lib ⟨turn.request.method, connection.session⟩
    turn.fresh hlags.takes.passes ((FinalResponse.data_length_le _).trans hsize)
    (fun h => absurd h hends) hbytes hlags.takes.limit).mpr hlags.takes.apart
  rw [handleHttp11RequestSync_sent hsend, htransport]
  exact ⟨receiveHttp11Response_consumes turn.fresh hends hsize hlags.late hreports.error,
    hreports.ended⟩

/-- An exchange whose deadline passes in silence marks the connection, but the
threads that wait for the mutex write their requests all the same.  When the
answers come after all, each of them gets the answer to the request before. -/
theorem runExchanges_late (lib : DecoderLib) (server : Server) {addresses : AddressLib}
    {session : Session} {turns : List (Turn addresses)} {first : Turn addresses}
    {later : List (Turn addresses)}
    (hpeer : Meets (stepConnection lib) (Conforms server) (.init session) turns)
    (hopen : (run (stepConnection lib) (.init session) turns).session.goingAway = false)
    (hsent : ∃ request,
      (sendHttp11Request (run (stepConnection lib) (.init session) turns) first).1.requests =
        (run (stepConnection lib) (.init session) turns).requests ++ [request])
    (hsilent : first.arrivals = []) (htimed : first.ending = .timedOut)
    (hlags : Meets (stepConnection lib) (Lags server)
      (run (stepConnection lib) (.init session) (turns ++ [first])) later) :
    let exchange := handleHttp11RequestSync lib
      (run (stepConnection lib) (.init session) turns) first
    exchange.2.error = some ERR_RESPONSE_NO_CONTENT_AFTER_READING_TIMEOUT ∧
      exchange.1.session.goingAway = true ∧
      Meets (stepConnection lib) (fun connection turn =>
        Reported turn.stream (server.reply connection.requests)
          (handleHttp11RequestSync lib connection turn).2) exchange.1 later := by
  have hstep (connection : Connection) (turn : Turn addresses) (hclean : Clean server connection)
      (hconforms : Conforms server connection turn) :
      Clean server (stepConnection lib connection turn) := stepConnection_clean hclean hconforms
  have hclean := run_keeps hstep hpeer (clean_init server session)
  rw [run_append, run_cons, run_nil] at hlags
  generalize run (stepConnection lib) (.init session) turns = connection at hopen hsent hlags hclean
  obtain ⟨request, hrequest⟩ := hsent
  obtain ⟨-, hsend⟩ := sendHttp11Request_sent hrequest
  have htransport : connection.transport first = ⟨[], .timedOut⟩ := by
    rw [hclean.transport hopen, hsilent, htimed]
  obtain ⟨haway, herror, hreads⟩ := receiveHttp11Response_silent lib
    ⟨first.request.method, connection.session⟩ first.fresh
  have hexchange := @handleHttp11RequestSync_sent lib _ _ _ _ hsend
  rw [htransport] at hexchange
  have hunread : (stepConnection lib connection first).unread = [] := by
    rw [stepConnection, hexchange]
    exact hreads
  refine ⟨?_, ?_, ?_⟩
  · rw [hexchange]
    exact (completeResponseSink_keeps _).2.trans herror
  · rw [hexchange]
    exact haway
  · exact meets_of_keeps (P := fun connection => connection.unread = [])
      (fun _ _ hunread hlags => (hlags.handleHttp11RequestSync hunread).1)
      (fun _ _ hunread hlags => (hlags.handleHttp11RequestSync hunread).2) hlags hunread

/-! ### Some exchanges -/

/-- A request for `/` of `a.example`. -/
def slashRequest : Http11Basket :=
  { noteBasket with request := { noteBasket.request with headers := [] } }

def slashBytes : Bytes := ascii "GET / HTTP/1.1\r\nHost: a.example\r\n\r\n"

theorem slashRequest_bytes :
    (Memory.buildHttp11Request AddressLib.names slashRequest []).1 = some slashBytes := by
  decide +kernel

def slashWrites : SessionWrites := .plain [.sent 10, .refused .again true, .sent 25]

theorem slashBytes_written :
    sessionWriteAll true slashBytes slashWrites = some (1, slashBytes) := by
  decide

/-- The request is written in two calls, with a wait between them. -/
def slashTurn (arrivals : List Read) : Turn AddressLib.names where
  request := slashRequest
  nonBlocking := true
  stream := collector
  heap := []
  writes := slashWrites
  arrivals := arrivals
  ending := .timedOut
  fresh := newStream_fresh 1 0 none
  written request hrequest := by
    rw [slashRequest_bytes, Option.some.injEq] at hrequest
    rw [← hrequest, slashBytes_written]
    rfl

theorem slashTurn_sent (connection : Connection) (arrivals : List Read) :
    sendHttp11Request connection (slashTurn arrivals) =
      ({ connection with
          wire := connection.wire ++ slashBytes
          requests := connection.requests ++ [slashBytes] }, collector) := by
  have hbytes : (slashTurn arrivals).bytes = some slashBytes := slashRequest_bytes
  have hwritten : sessionWriteAll (slashTurn arrivals).nonBlocking slashBytes
    (slashTurn arrivals).writes = some (1, slashBytes) := slashBytes_written
  rw [sendHttp11Request, hbytes]
  dsimp only
  rw [hwritten]
  rfl

/-- The connection behind one exchange. -/
def greeted (arrivals : List Read) : Connection :=
  stepConnection noDecoders (.init (initSession 4096)) (slashTurn arrivals)

theorem greeted_requests (arrivals : List Read) : (greeted arrivals).requests = [slashBytes] := by
  rw [greeted, stepConnection, handleHttp11RequestSync_sent (slashTurn_sent _ arrivals)]
  rfl

theorem greeted_received (arrivals : List Read) :
    (greeted arrivals).received = (arrivals.map Subtype.val).flatten := by
  rw [greeted, stepConnection, handleHttp11RequestSync_sent (slashTurn_sent _ arrivals)]
  rfl

theorem greeted_finished (arrivals : List Read) : (greeted arrivals).finished = false := by
  rw [greeted, stepConnection, handleHttp11RequestSync_sent (slashTurn_sent _ arrivals)]
  rfl

theorem world_framed : isBodylessStatus (okHead [contentLengthFive]).status = false ∧
    (Body.length (ascii "world")).FramedBy (okHead [contentLengthFive]).stored :=
  ⟨helloResponse.framed.1, hello_framed⟩

def worldResponse : FinalResponse where
  head := okHead [contentLengthFive]
  body := some (.length (ascii "world"))
  final := helloResponse.final
  framed := world_framed

def greeting (requests : List Bytes) : FinalResponse :=
  if requests.length = 1 then helloResponse else worldResponse

theorem greeting_size (requests : List Bytes) : (greeting requests).wire.length ≤ LLONG_MAX := by
  unfold greeting
  split <;> decide

/-- The server says hello to the first request and world to the others. -/
def greeter : Server := ⟨greeting, greeting_size⟩

theorem not_endsWithConnection_greeting (requests : List Bytes) :
    ¬(greeting requests).endsWithConnection := by
  unfold greeting
  split <;>
    · rintro ⟨data, hdata⟩
      cases hdata

/-- A greeting in two reads. -/
def helloReads : List Read :=
  (twoReads helloResponse.wire 20 .timedOut (by decide) (by decide)).reads

def worldReads : List Read :=
  (twoReads worldResponse.wire 20 .timedOut (by decide) (by decide)).reads

theorem helloReads_bytes : (helloReads.map Subtype.val).flatten = helloResponse.wire := by
  simp [helloReads, twoReads, readOf]

theorem worldReads_bytes : (worldReads.map Subtype.val).flatten = worldResponse.wire := by
  simp [worldReads, twoReads, readOf]

theorem greeter_answers : greeter.answers [slashBytes, slashBytes] =
    helloResponse.wire ++ worldResponse.wire := by
  rw [show [slashBytes, slashBytes] = [slashBytes] ++ [slashBytes] from rfl, Server.answers_snoc]
  congr 1

theorem greetings_conform : Meets (stepConnection noDecoders) (Conforms greeter)
    (.init (initSession 4096)) [slashTurn helloReads, slashTurn worldReads] := by
  have hfirst : Conforms greeter (.init (initSession 4096)) (slashTurn helloReads) := by
    refine ⟨?_, fun h => (by cases h)⟩
    rw [slashTurn_sent]
    exact ⟨[], congrArg (· ++ []) helloReads_bytes⟩
  have hsecond : Conforms greeter (greeted helloReads) (slashTurn worldReads) := by
    refine ⟨?_, fun h => ?_⟩
    · rw [slashTurn_sent, greeted_received, greeted_requests, List.singleton_append,
        greeter_answers, helloReads_bytes]
      exact worldReads_bytes ▸ List.prefix_refl _
    · rw [greeted_finished] at h
      cases h
  exact ⟨hfirst, hsecond, trivial⟩

theorem helloReads_taken : Takes collector helloResponse ⟨helloReads, .timedOut⟩ where
  passes := passes_of_collecting rfl (by decide)
  limit := not_limitReached (by decide) (helloReads_bytes.trans rfl)
    (by unfold Fits; decide) (by unfold Fits; decide)
  closed h := absurd h (not_endsWithConnection_greeting [[]])
  apart h := absurd h (not_endsWithConnection_greeting [[]])

theorem worldReads_taken : Takes collector worldResponse ⟨worldReads, .timedOut⟩ where
  passes := passes_of_collecting rfl (by decide)
  limit := not_limitReached (by decide) (worldReads_bytes.trans rfl)
    (by unfold Fits; decide) (by unfold Fits; decide)
  closed h := absurd h (not_endsWithConnection_greeting [])
  apart h := absurd h (not_endsWithConnection_greeting [])

theorem greeted_late : greeter.reply (greeted []).requests = helloResponse := by
  rw [greeted_requests]
  rfl

theorem hello_lags : Lags greeter (greeted []) (slashTurn helloReads) where
  sent := ⟨slashBytes, by rw [slashTurn_sent]⟩
  late := helloReads_bytes.trans (congrArg FinalResponse.wire greeted_late).symm
  waits := rfl
  takes := greeted_late ▸ helloReads_taken

/-- The first exchange gets nothing, and the second one what the first was to
get. -/
theorem runExchanges_late_hello :
    Reported collector helloResponse
      (handleHttp11RequestSync noDecoders (greeted []) (slashTurn helloReads)).2 := by
  have hlate := (@runExchanges_late noDecoders greeter _ (initSession 4096) [] (slashTurn [])
    [slashTurn helloReads] trivial rfl ⟨slashBytes, by rw [slashTurn_sent]⟩ rfl rfl
    ⟨hello_lags, trivial⟩).2.2.1
  change Reported _ (greeter.reply (greeted []).requests) _ at hlate
  rw [greeted_late] at hlate
  exact hlate

end HttpRequestClient.Http11
