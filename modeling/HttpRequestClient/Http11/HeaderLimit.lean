import HttpRequestClient.Http11.Responses

/-!
# The header limit and the framing

A stream stores 64 header entries, one of them the status, and the rest of a
header section is discarded.  `readBody` and `closeSessionIfSingleUse` look
for their headers among the stored ones: `readBody_framing` and
`connectionClosedByPeer_headers` say what they take from them.

`receiveHttp11Response_allHeaders_iff` says when they decide as they would
with every header line of the section.
-/

namespace HttpRequestClient.Http11

open Parts

/-- The header entries of a section, without the limit. -/
def receivedHeaders (statusCode : Bytes) (lines : List Bytes) : List ResponseHeader :=
  ⟨ascii ":status", statusCode⟩ :: lines.filterMap headerOfLine

/-- The framing that `readBody` chooses, if there is a body. -/
def bodyFraming (method : Bytes) (statusCode : Int) (headers : List ResponseHeader) :
    Option Framing :=
  if strcasecmp method (ascii "HEAD") = 0 ∨ isBodylessStatus statusCode then none
  else some (framingOf headers)

/-- A connection header that says close. -/
def closesConnection (headers : List ResponseHeader) : Bool :=
  match headerValue (ascii "connection") headers with
  | none => false
  | some connection => containsCI connection (ascii "close")

/-- `readBody` is driven by `bodyFraming` of the stored headers. -/
theorem readBody_framing (lib : DecoderLib) (method : Bytes) (stream : Stream)
    (reader : Http11Reader) (statusCode : Int) :
    readBody lib method stream reader statusCode =
      match bodyFraming method statusCode (stream.headers.getD []) with
      | none => (1, false, stream, reader)
      | some framing =>
        let (rc, stream, reader) := readFramedBody lib framing stream reader
        let (rc, stream) := classifyBodyError stream rc
        (rc, framing = .untilClose, stream, reader) := by
  rw [readBody, bodyFraming]
  dsimp only
  split <;> rfl

theorem connectionClosedByPeer_headers (stream : Stream) :
    connectionClosedByPeer stream = closesConnection (stream.headers.getD []) := rfl

/-! ## A limit on the headers -/

theorem headerValue_append (name : Bytes) (first later : List ResponseHeader) :
    headerValue name (first ++ later) = (headerValue name first).or (headerValue name later) := by
  induction first with
  | nil => rfl
  | cons header first ih =>
    rw [List.cons_append, headerValue, headerValue]
    split
    · rfl
    · exact ih

/-- What decides the framing is stored: a later transfer encoding does not
name the first chunked one, and a later length is not the first one of a
section that is not chunked. -/
def FramingStored (stored later : List ResponseHeader) : Prop :=
  (headerValue (ascii "transfer-encoding") stored ≠ none ∨ isChunked later = false) ∧
    (isChunked stored = true ∨ headerValue (ascii "content-length") stored ≠ none ∨
      headerValue (ascii "content-length") later = none)

/-- A later connection header is not the first one with a close. -/
def CloseStored (stored later : List ResponseHeader) : Prop :=
  headerValue (ascii "connection") stored ≠ none ∨ closesConnection later = false

instance (stored later : List ResponseHeader) : Decidable (FramingStored stored later) :=
  inferInstanceAs (Decidable ((_ ∨ _) ∧ (_ ∨ _ ∨ _)))

instance (stored later : List ResponseHeader) : Decidable (CloseStored stored later) :=
  inferInstanceAs (Decidable (_ ∨ _))

theorem isChunked_append (stored later : List ResponseHeader) :
    isChunked (stored ++ later) =
      if headerValue (ascii "transfer-encoding") stored = none then isChunked later
      else isChunked stored := by
  unfold isChunked
  rw [headerValue_append]
  cases headerValue (ascii "transfer-encoding") stored <;> rfl

theorem closesConnection_append (stored later : List ResponseHeader) :
    closesConnection (stored ++ later) =
      if headerValue (ascii "connection") stored = none then closesConnection later
      else closesConnection stored := by
  unfold closesConnection
  rw [headerValue_append]
  cases headerValue (ascii "connection") stored <;> rfl

theorem isChunked_of_none {headers : List ResponseHeader}
    (h : headerValue (ascii "transfer-encoding") headers = none) : isChunked headers = false := by
  rw [isChunked, h]

theorem framingOf_stored_iff (stored later : List ResponseHeader) :
    framingOf stored = framingOf (stored ++ later) ↔ FramingStored stored later := by
  have hnone := @isChunked_of_none stored
  rw [framingOf, framingOf, isChunked_append, headerValue_append, FramingStored]
  generalize headerValue (ascii "transfer-encoding") stored = transferEncoding at hnone ⊢
  generalize headerValue (ascii "content-length") stored = contentLength
  generalize headerValue (ascii "content-length") later = laterLength
  generalize isChunked stored = chunked at hnone ⊢
  generalize isChunked later = laterChunked
  cases transferEncoding with
  | none =>
    rw [hnone rfl]
    cases laterChunked <;> cases contentLength <;> cases laterLength <;> simp
  | some encoding => cases chunked <;> cases contentLength <;> cases laterLength <;> simp

theorem closesConnection_stored_iff (stored later : List ResponseHeader) :
    closesConnection stored = closesConnection (stored ++ later) ↔ CloseStored stored later := by
  rw [closesConnection_append, CloseStored]
  cases hconnection : headerValue (ascii "connection") stored with
  | none =>
    have hnone : closesConnection stored = false := by rw [closesConnection, hconnection]
    rw [hnone]
    cases closesConnection later <;> simp
  | some connection => simp

/-! ## An exchange -/

section Exchange

variable {stream : Stream} {transport : Transport} {statusCode : Bytes} {lines : List Bytes}
  {rest : Unread UInt8}

/-- The stored headers are on the stream to the end of the exchange. -/
theorem receiveHttp11Response_headers (lib : DecoderLib) (basket : Basket) (hfresh : Fresh stream)
    (hhead : headOf ⟨0, [], transport.parts⟩ = .read statusCode lines rest) :
    (receiveHttp11Response lib basket stream transport).2.1.headers =
      some (storedHeaders statusCode lines) := by
  by_cases hbody : isBodylessStatus (atoi statusCode) = true
  · have hexchange : exchangeOf transport.parts = .noBody (storedHeaders statusCode lines) rest := by
      rw [exchangeOf, hhead]
      simp only [hbody, if_true]
    exact (receiveHttp11Response_noBody lib basket hfresh hexchange).1
  · have hexchange : exchangeOf transport.parts = .body (storedHeaders statusCode lines)
        (bodyOf (framingOf (storedHeaders statusCode lines)) rest).1
        (bodyOf (framingOf (storedHeaders statusCode lines)) rest).2 := by
      rw [exchangeOf, hhead]
      simp only [hbody, Bool.false_eq_true, if_false]
    exact (receiveHttp11Response_body lib basket hfresh hexchange).stored

/-- The framing and the close decision of an exchange are those of all header
lines exactly when no discarded line decides them. -/
theorem receiveHttp11Response_allHeaders_iff (lib : DecoderLib) (basket : Basket)
    (stream : Stream) (transport : Transport) (statusCode : Bytes) (lines : List Bytes)
    (rest : Unread UInt8) (hfresh : Fresh stream)
    (hhead : headOf ⟨0, [], transport.parts⟩ = .read statusCode lines rest) :
    let head := readResponseHead stream (Http11Reader.init transport)
    let received := receivedHeaders statusCode lines
    let stored := received.take RESPONSE_HEADERS_MAX_SIZE
    let later := received.drop RESPONSE_HEADERS_MAX_SIZE
    (bodyFraming basket.method.name head.1
          ((deliverResponseHeaders lib head.2.1).headers.getD []) =
        bodyFraming basket.method.name (atoi statusCode) received ∧
      connectionClosedByPeer (receiveHttp11Response lib basket stream transport).2.1 =
        closesConnection received) ↔
      (isBodylessStatus (atoi statusCode) = true ∨ FramingStored stored later) ∧
        CloseStored stored later := by
  intro head received stored later
  obtain ⟨reader, hread, -⟩ := readResponseHead_read (shows_init transport) hfresh.headers hhead
  have hstatus : head.1 = atoi statusCode := congrArg Prod.fst hread
  have hstream : head.2.1 = { stream with headers := some (storedHeaders statusCode lines) } :=
    congrArg (fun answer => answer.2.1) hread
  have hdelivered : (deliverResponseHeaders lib head.2.1).headers.getD [] = stored := by
    rw [(deliverResponseHeaders_keeps lib head.2.1).headers, hstream]
    rfl
  have hall : received = stored ++ later := (List.take_append_drop _ _).symm
  rw [hstatus, hdelivered, connectionClosedByPeer_headers,
    receiveHttp11Response_headers lib basket hfresh hhead, Option.getD_some]
  have hclose : closesConnection (storedHeaders statusCode lines) = closesConnection received ↔
      CloseStored stored later := by
    rw [hall]
    exact closesConnection_stored_iff stored later
  have hframing : bodyFraming basket.method.name (atoi statusCode) stored =
      bodyFraming basket.method.name (atoi statusCode) received ↔
      isBodylessStatus (atoi statusCode) = true ∨ FramingStored stored later := by
    rw [bodyFraming, bodyFraming, hall]
    by_cases hbody : isBodylessStatus (atoi statusCode) = true
    · simp [hbody]
    · simp [hbody, name_ne_head, framingOf_stored_iff]
  rw [hclose, hframing]

/-- A length in the first header line. -/
theorem receiveHttp11Response_allHeaders_iff_five :
    let transport := twoReads ((okHead [contentLengthFive]).wire ++ ascii "hello") 20 .closed
      (by decide) (by decide)
    let stream := newStream 1 (some (buildResponseSink 0 none))
    let head := readResponseHead stream (Http11Reader.init transport)
    let received := receivedHeaders (ascii "200") [contentLengthFive.text]
    bodyFraming (ascii "GET") head.1
          ((deliverResponseHeaders noDecoders head.2.1).headers.getD []) =
        bodyFraming (ascii "GET") 200 received ∧
      connectionClosedByPeer
          (receiveHttp11Response noDecoders getBasket stream transport).2.1 =
        closesConnection received := by
  intro transport stream head received
  have hwire : transport.bytes = (okHead [contentLengthFive]).wire ++ ascii "hello" := by decide
  obtain ⟨rest, hhead, -⟩ := headOf_roomy (roomy_start transport)
    (List.all_iff_forall_prop.mp (by decide)) hwire
  exact (receiveHttp11Response_allHeaders_iff noDecoders getBasket stream transport _ _ rest
    (newStream_fresh 1 0 none) hhead).mpr (by decide +kernel)

/-- A head with the length behind 63 other lines. -/
def lateLength : ResponseHead := okHead (List.replicate 63 (longLine 1) ++ [contentLengthFive])

/-- The body of five bytes is read to the end of the connection. -/
theorem bodyFraming_lateLength :
    let transport := twoReads (lateLength.wire ++ ascii "hello") 200 .closed
      (by decide +kernel) (by decide +kernel)
    let stream := newStream 1 (some (buildResponseSink 0 none))
    let head := readResponseHead stream (Http11Reader.init transport)
    (∃ rest, headOf ⟨0, [], transport.parts⟩ =
      .read lateLength.code (lateLength.lines.map HeaderLine.text) rest) ∧
    ¬ (bodyFraming (ascii "GET") head.1
          ((deliverResponseHeaders noDecoders head.2.1).headers.getD []) =
        bodyFraming (ascii "GET") 200
          (receivedHeaders lateLength.code (lateLength.lines.map HeaderLine.text))) := by
  intro transport stream head
  have hwire : transport.bytes = lateLength.wire ++ ascii "hello" := by decide +kernel
  refine ⟨?_, by decide +kernel⟩
  obtain ⟨rest, hhead, -⟩ := headOf_roomy (roomy_start transport)
    (List.all_iff_forall_prop.mp (by decide +kernel)) hwire
  exact ⟨rest, hhead⟩

end Exchange

end HttpRequestClient.Http11
