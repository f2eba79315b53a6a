import HttpRequestClient.Lib.Parts
import HttpRequestClient.ResponseStream

/-!
# The HTTP/1.1 response reader

`Http11ResponseHandler.c`: the buffered transport reader, the parser of the
status line and the header section, and the three body framings.

The transport is a list of what its reads return, followed by how it ends.
A read that waits for the socket, is retried or meets the deadline is inside
`sessionReadTimed`, so the clock and the TLS object are not part of the
model; a deadline that passes is the ending `timedOut`.

A loop of the source takes fuel that its input bounds.  `readerReadLine_spec`
and the theorems after it show that the fuel is never used up.

`receiveHttp11Response_keeps` says what an exchange does to the sink of its
stream: nothing but calls of the funnel.
-/

namespace HttpRequestClient.Http11

open Parts

def HTTP11_MAX_HEADER_SECTION : Nat := 64 * 1024
def HTTP11_READ_CHUNK : Nat := 16384

/-! ## The transport -/

/-- How a connection ends: the peer closed it, a read failed, or the deadline
passed. -/
inductive Ending where
  | closed
  | failed
  | timedOut
  deriving Repr, DecidableEq

/-- What `sessionReadTimed` returns at the end. -/
def Ending.code : Ending → Int
  | .closed => 0
  | .failed => -1
  | .timedOut => -2

/-- The bytes of one read.  Every caller asks for `HTTP11_READ_CHUNK`. -/
abbrev Read := { bytes : Bytes // 0 < bytes.length ∧ bytes.length ≤ HTTP11_READ_CHUNK }

/-- A connection as its reads return it. -/
structure Transport where
  reads : List Read
  ending : Ending

/-- The parts in which the bytes arrive. -/
def Transport.parts (transport : Transport) : List Bytes := transport.reads.map Subtype.val

/-- All bytes that arrive. -/
def Transport.bytes (transport : Transport) : Bytes := transport.parts.flatten

/-- The count of bytes read, or the code of the ending. -/
def sessionReadTimed (transport : Transport) : Int × Bytes × Transport :=
  match transport.reads with
  | [] => (transport.ending.code, [], transport)
  | read :: reads => (read.val.length, read.val, { transport with reads := reads })

/-! ## The buffered reader -/

/-- `buf` holds `len` bytes.  The session of the source is only read from. -/
structure Http11Reader where
  transport : Transport
  buf : Bytes
  pos : Nat
  eof : Bool
  err : Int

/-- The reader of a new exchange. -/
def Http11Reader.init (transport : Transport) : Http11Reader :=
  { transport := transport, buf := [], pos := 0, eof := false, err := 0 }

/-- What the reader has left, part by part. -/
def Http11Reader.unread (reader : Http11Reader) : Unread UInt8 :=
  ⟨reader.buf.length, reader.buf.drop reader.pos, reader.transport.parts⟩

/-- Forget what was read and append one read. -/
def readerFill (reader : Http11Reader) : Http11Reader :=
  if reader.eof ∨ reader.err ≠ 0 then reader
  else
    let compacted := { reader with buf := reader.buf.drop reader.pos, pos := 0 }
    let (readRc, bytes, transport) := sessionReadTimed compacted.transport
    if readRc > 0 then { compacted with transport := transport, buf := compacted.buf ++ bytes }
    else if readRc = 0 then { compacted with transport := transport, eof := true }
    else { compacted with transport := transport, err := readRc }

def readerEndCode (reader : Http11Reader) : Int := if reader.err ≠ 0 then reader.err else 0

/-- A line without the carriage return at its end. -/
def dropCr (line : Bytes) : Bytes :=
  if line.length > 0 ∧ line.getLast? = some 13 then line.dropLast else line

/-- 1 with the line, 0 at the end, -1 on an error, -2 on a timeout. -/
def readerReadLineLoop : Nat → Http11Reader → Int × Bytes × Http11Reader
  | 0, reader => (-1, [], reader)
  | fuel + 1, reader =>
    match cut 10 (reader.buf.drop reader.pos) with
    | some (line, _) => (1, cstr (dropCr line), { reader with pos := reader.pos + line.length + 1 })
    | none =>
      if reader.eof ∨ reader.err ≠ 0 then (readerEndCode reader, [], reader)
      else if reader.buf.length ≥ HTTP11_MAX_HEADER_SECTION then (-1, [], reader)
      else readerReadLineLoop fuel (readerFill reader)

/-- Every turn but the last one makes a read. -/
def readerReadLine (reader : Http11Reader) : Int × Bytes × Http11Reader :=
  readerReadLineLoop (reader.transport.reads.length + 2) reader

/-- Exactly `remaining` body bytes, handed to the stream from the buffer. -/
def readerReadBodyLoop (lib : DecoderLib) :
    Nat → Stream → Http11Reader → Nat → Int × Stream × Http11Reader
  | 0, stream, reader, _ => (-1, stream, reader)
  | fuel + 1, stream, reader, remaining =>
    if remaining = 0 then (1, stream, reader)
    else
      let avail := (reader.buf.drop reader.pos).length
      if avail > 0 then
        let take := if remaining < avail then remaining else avail
        let (appendRc, stream) :=
          appendStreamPayload lib stream ((reader.buf.drop reader.pos).take take)
        let reader := { reader with pos := reader.pos + take }
        if appendRc ≠ 1 then (-1, stream, reader)
        else readerReadBodyLoop lib fuel stream reader (remaining - take)
      else if reader.eof ∨ reader.err ≠ 0 then (readerEndCode reader, stream, reader)
      else readerReadBodyLoop lib fuel stream (readerFill reader) remaining

/-- A turn empties the buffer or fills it. -/
def readerReadBody (lib : DecoderLib) (stream : Stream) (reader : Http11Reader) (n : Nat) :
    Int × Stream × Http11Reader :=
  readerReadBodyLoop lib (2 * reader.transport.reads.length + 4) stream reader n

/-! ## Headers -/

def addStreamHeader (stream : Stream) (name value : Bytes) : Stream :=
  if stream.numHeaders ≥ RESPONSE_HEADERS_MAX_SIZE then stream
  else { stream with headers := stream.headers.map (· ++ [⟨name, value⟩]) }

/-- The value of the first header with the name. -/
def headerValue (name : Bytes) : List ResponseHeader → Option Bytes
  | [] => none
  | header :: headers =>
    if strcasecmp header.name name = 0 then some header.value else headerValue name headers

def streamHeaderValue (stream : Stream) (name : Bytes) : Option Bytes :=
  headerValue name (stream.headers.getD [])

def hasPartialResponse (stream : Stream) : Bool :=
  stream.numHeaders > 0 ∨ stream.combinedPayload.length > 0

def connectionClosedByPeer (stream : Stream) : Bool :=
  match streamHeaderValue stream (ascii "connection") with
  | none => false
  | some connection => containsCI connection (ascii "close")

/-! ## Response parsing -/

def isHttp11StatusLine (line : Bytes) : Bool := line.take 7 = ascii "HTTP/1."

/-- Up to three digits. -/
def copyStatusCode (digits : Bytes) : Bytes := (digits.take 3).takeWhile isdigit

/-- The three digits of a status line, or null when it is malformed. -/
def statusCodeOf (line : Bytes) : Option Bytes :=
  if ¬isHttp11StatusLine line then none
  else
    -- behind the minor version and the blanks after it
    let digits := ((line.drop 7).dropWhile (fun c => ¬isSpaceChar c)).dropWhile isSpaceChar
    let statusCode := copyStatusCode digits
    if statusCode.length ≠ 3 then none else some statusCode

def atoi (s : Bytes) : Int := strtol s 10

/-- The status, or -1; a status is also the first header. -/
def parseStatusLine (stream : Stream) (line : Bytes) : Int × Stream :=
  match statusCodeOf line with
  | none => (-1, stream)
  | some statusCode => (atoi statusCode, addStreamHeader stream (ascii ":status") statusCode)

/-- The name and the value of a header line; null without a colon. -/
def headerOfLine (line : Bytes) : Option ResponseHeader :=
  match cut 58 line with
  | none => none
  | some (name, value) => some ⟨trim name, trim value⟩

/-- A malformed line is skipped. -/
def parseHeaderLine (stream : Stream) (line : Bytes) : Stream :=
  match headerOfLine line with
  | none => stream
  | some header => addStreamHeader stream header.name header.value

def readHeaderSectionLoop : Nat → Stream → Http11Reader → Int × Stream × Http11Reader
  | 0, stream, reader => (-1, stream, reader)
  | fuel + 1, stream, reader =>
    let (lineRc, line, reader) := readerReadLine reader
    if lineRc ≠ 1 then (lineRc, stream, reader)
    else if line = [] then (1, stream, reader)
    else readHeaderSectionLoop fuel (parseHeaderLine stream line) reader

/-- Header lines up to the empty one.  Every line takes a byte. -/
def readHeaderSection (stream : Stream) (reader : Http11Reader) : Int × Stream × Http11Reader :=
  readHeaderSectionLoop (reader.unread.all.length + 1) stream reader

/-! ## Error classification -/

def classifyTimeoutError (stream : Stream) : Error :=
  if hasPartialResponse stream then ERR_RESPONSE_PARTIAL_CONTENT_AFTER_READING_TIMEOUT
  else ERR_RESPONSE_NO_CONTENT_AFTER_READING_TIMEOUT

def classifyHeadError (stream : Stream) (reader : Http11Reader) (statusLineRc : Int) : Error :=
  if reader.err = -2 then classifyTimeoutError stream
  else
    let cleanEofOnStatusLine := statusLineRc = 0 ∧ stream.numHeaders = 0
    if reader.err = -1 ∨ cleanEofOnStatusLine then ERR_RESPONSE_READING_CONNECTION_ERROR
    else ERR_RESPONSE_READING_HTTP11_FAILED

/-- 0 and 1 pass; an error is reported unless the stream has one. -/
def classifyBodyError (stream : Stream) (rc : Int) : Int × Stream :=
  if rc = 1 ∨ rc = 0 then (rc, stream)
  else if stream.error = none then
    (-1, { stream with
      error := some (if rc = -2 then classifyTimeoutError stream
        else ERR_RESPONSE_READING_HTTP11_FAILED) })
  else (-1, stream)

/-! ## Response reading -/

/-- The status and the headers are read, or the stream has an error. -/
def readResponseHead (stream : Stream) (reader : Http11Reader) : Int × Stream × Http11Reader :=
  let fail := fun (stream : Stream) (reader : Http11Reader) (statusLineRc : Int) =>
    ((-1 : Int), { stream with error := some (classifyHeadError stream reader statusLineRc) },
      reader)
  let (statusLineRc, statusLine, reader) := readerReadLine reader
  if statusLineRc ≠ 1 then fail stream reader statusLineRc
  else
    let (status, stream) := parseStatusLine stream statusLine
    if status < 0 then fail stream reader statusLineRc
    else
      let (headerRc, stream, reader) := readHeaderSection stream reader
      if headerRc ≠ 1 then fail stream reader statusLineRc else (status, stream, reader)

def isBodylessStatus (statusCode : Int) : Bool :=
  statusCode = 204 ∨ statusCode = 304 ∨ (statusCode ≥ 100 ∧ statusCode < 200)

/-- The number on a chunk size line; extensions are ignored. -/
def chunkSizeOf (sizeLine : Bytes) : Int :=
  match cut 59 sizeLine with
  | some (size, _) => strtol (trim size) 16
  | none => strtol (trim sizeLine) 16

def isTrailerEnd (line : Bytes) : Bool := line = []

def readTrailersLoop : Nat → Http11Reader → Int × Http11Reader
  | 0, reader => (-1, reader)
  | fuel + 1, reader =>
    let (trailerRc, trailer, reader) := readerReadLine reader
    if trailerRc ≠ 1 then (trailerRc, reader)
    else if isTrailerEnd trailer then (1, reader)
    else readTrailersLoop fuel reader

/-- Trailer lines up to the empty one. -/
def readTrailers (reader : Http11Reader) : Int × Http11Reader :=
  readTrailersLoop (reader.unread.all.length + 1) reader

def readChunkedBodyLoop (lib : DecoderLib) :
    Nat → Stream → Http11Reader → Int × Stream × Http11Reader
  | 0, stream, reader => (-1, stream, reader)
  | fuel + 1, stream, reader =>
    let (lineRc, sizeLine, reader) := readerReadLine reader
    if lineRc ≠ 1 then (lineRc, stream, reader)
    else
      let chunkSize := chunkSizeOf sizeLine
      if chunkSize < 0 then (-1, stream, reader)
      else if chunkSize = 0 then
        let (trailerRc, reader) := readTrailers reader
        (trailerRc, stream, reader)
      else
        let (dataRc, stream, reader) := readerReadBody lib stream reader chunkSize.toNat
        if dataRc ≠ 1 then (dataRc, stream, reader)
        else
          let (crlfRc, _, reader) := readerReadLine reader
          if crlfRc ≠ 1 then (crlfRc, stream, reader)
          else readChunkedBodyLoop lib fuel stream reader

def readChunkedBody (lib : DecoderLib) (stream : Stream) (reader : Http11Reader) :
    Int × Stream × Http11Reader :=
  readChunkedBodyLoop lib (reader.unread.all.length + 1) stream reader

def readContentLengthBody (lib : DecoderLib) (stream : Stream) (reader : Http11Reader)
    (bodyLen : Nat) : Int × Stream × Http11Reader :=
  if bodyLen = 0 then (1, stream, reader) else readerReadBody lib stream reader bodyLen

/-- Reads of the transport up to its end; the buffer is not looked at. -/
def readUntilCloseLoop (lib : DecoderLib) :
    Nat → Stream → Http11Reader → Int × Stream × Http11Reader
  | 0, stream, reader => (-1, stream, reader)
  | fuel + 1, stream, reader =>
    let (readRc, chunk, transport) := sessionReadTimed reader.transport
    let reader := { reader with transport := transport }
    if readRc > 0 then
      let (appendRc, stream) := appendStreamPayload lib stream chunk
      if appendRc ≠ 1 then (-1, stream, reader) else readUntilCloseLoop lib fuel stream reader
    else (readRc, stream, reader)

def readUntilCloseBody (lib : DecoderLib) (stream : Stream) (reader : Http11Reader) :
    Int × Stream × Http11Reader :=
  readUntilCloseLoop lib (reader.transport.reads.length + 1) stream reader

/-- The framing that the headers name: chunked, then a length, then the end
of the connection. -/
inductive Framing where
  | chunked
  | length (bodyLen : Int)
  | untilClose
  deriving Repr, DecidableEq

def isChunked (headers : List ResponseHeader) : Bool :=
  match headerValue (ascii "transfer-encoding") headers with
  | none => false
  | some transferEncoding => containsCI transferEncoding (ascii "chunked")

def framingOf (headers : List ResponseHeader) : Framing :=
  if isChunked headers then .chunked
  else
    match headerValue (ascii "content-length") headers with
    | some contentLength => .length (strtoll 10 contentLength)
    | none => .untilClose

/-- The part of `readBody` behind the decision for a framing. -/
def readFramedBody (lib : DecoderLib) (framing : Framing) (stream : Stream)
    (reader : Http11Reader) : Int × Stream × Http11Reader :=
  match framing with
  | .chunked => readChunkedBody lib stream reader
  | .length bodyLen =>
    if bodyLen < 0 then (-1, stream, reader)
    else readContentLengthBody lib stream reader bodyLen.toNat
  | .untilClose => readUntilCloseBody lib stream reader

/-- The code, whether the body ends with the connection, and the stream. -/
def readBody (lib : DecoderLib) (method : Bytes) (stream : Stream) (reader : Http11Reader)
    (statusCode : Int) : Int × Bool × Stream × Http11Reader :=
  let noBody := strcasecmp method (ascii "HEAD") = 0 ∨ isBodylessStatus statusCode
  if noBody then (1, false, stream, reader)
  else
    let framing := framingOf (stream.headers.getD [])
    let (rc, stream, reader) := readFramedBody lib framing stream reader
    let (rc, stream) := classifyBodyError stream rc
    (rc, framing = .untilClose, stream, reader)

/-- Only a connection that the whole body left is used again. -/
def closeSessionIfSingleUse (session : Session) (stream : Stream) (untilClose : Bool)
    (bodyRc : Int) : Session × Stream :=
  let (cancelled, stream) := takeResponseCancellation stream
  let bodyComplete := bodyRc = 1 ∨ bodyRc = 0
  if untilClose ∨ cancelled ∨ ¬bodyComplete ∨ connectionClosedByPeer stream then
    ({ session with goingAway := true }, stream)
  else (session, stream)

/-- What a response is received for. -/
structure Basket where
  method : Method
  session : Session

/-- One exchange: the session, the stream, and what the reader had left. -/
def receiveHttp11Response (lib : DecoderLib) (basket : Basket) (stream : Stream)
    (transport : Transport) : Session × Stream × Http11Reader :=
  let session := basket.session
  let (status, stream, reader) := readResponseHead stream (Http11Reader.init transport)
  if stream.error ≠ none then ({ session with goingAway := true }, stream, reader)
  else
    let stream := deliverResponseHeaders lib stream
    let (bodyRc, untilClose, stream, reader) := readBody lib basket.method.name stream reader status
    let (session, stream) := closeSessionIfSingleUse session stream untilClose bodyRc
    (session, stream, reader)

/-! ## The sink of a stream -/

/-- Only headers and the error differ. -/
structure Marked (before after : Stream) : Prop where
  isEnded : after.isEnded = before.isEnded
  sink : after.sink = before.sink

theorem Marked.refl (stream : Stream) : Marked stream stream := ⟨rfl, rfl⟩

theorem Marked.trans {first second third : Stream} (h : Marked first second)
    (h' : Marked second third) : Marked first third :=
  ⟨h'.isEnded.trans h.isEnded, h'.sink.trans h.sink⟩

theorem addStreamHeader_marked (stream : Stream) (name value : Bytes) :
    Marked stream (addStreamHeader stream name value) := by
  unfold addStreamHeader
  split
  · exact .refl stream
  · exact ⟨rfl, rfl⟩

theorem parseStatusLine_marked (stream : Stream) (line : Bytes) :
    Marked stream (parseStatusLine stream line).2 := by
  unfold parseStatusLine
  split
  · exact .refl stream
  · exact addStreamHeader_marked stream _ _

theorem parseHeaderLine_marked (stream : Stream) (line : Bytes) :
    Marked stream (parseHeaderLine stream line) := by
  unfold parseHeaderLine
  split
  · exact .refl stream
  · exact addStreamHeader_marked stream _ _

theorem readHeaderSectionLoop_marked (fuel : Nat) :
    ∀ (stream : Stream) (reader : Http11Reader),
      Marked stream (readHeaderSectionLoop fuel stream reader).2.1 := by
  induction fuel with
  | zero => exact fun stream reader => .refl stream
  | succ fuel ih =>
    intro stream reader
    rw [readHeaderSectionLoop]
    dsimp only
    split
    · exact .refl stream
    · split
      · exact .refl stream
      · exact (parseHeaderLine_marked stream _).trans (ih _ _)

theorem readResponseHead_marked (stream : Stream) (reader : Http11Reader) :
    Marked stream (readResponseHead stream reader).2.1 := by
  have hstatus := parseStatusLine_marked stream (readerReadLine reader).2.1
  have hsection := readHeaderSectionLoop_marked
    ((readerReadLine reader).2.2.unread.all.length + 1)
    (parseStatusLine stream (readerReadLine reader).2.1).2 (readerReadLine reader).2.2
  unfold readResponseHead
  dsimp only
  split
  · exact ⟨rfl, rfl⟩
  · split
    · exact hstatus.trans ⟨rfl, rfl⟩
    · split
      · exact hstatus.trans (hsection.trans ⟨rfl, rfl⟩)
      · exact hstatus.trans hsection

section Keeps

variable {P : Stream → Prop} {lib : DecoderLib}
  (happend : ∀ stream data, P stream → P (appendStreamPayload lib stream data).2)

include happend

theorem readerReadBodyLoop_keeps (fuel : Nat) :
    ∀ (stream : Stream) (reader : Http11Reader) (remaining : Nat), P stream →
      P (readerReadBodyLoop lib fuel stream reader remaining).2.1 := by
  induction fuel with
  | zero => exact fun stream reader remaining h => h
  | succ fuel ih =>
    intro stream reader remaining h
    rw [readerReadBodyLoop]
    dsimp only
    generalize (if remaining < (reader.buf.drop reader.pos).length then remaining
      else (reader.buf.drop reader.pos).length) = take
    split
    · exact h
    · split
      · split
        · exact happend _ _ h
        · exact ih _ _ _ (happend _ _ h)
      · split
        · exact h
        · exact ih _ _ _ h

theorem readChunkedBodyLoop_keeps (fuel : Nat) :
    ∀ (stream : Stream) (reader : Http11Reader), P stream →
      P (readChunkedBodyLoop lib fuel stream reader).2.1 := by
  induction fuel with
  | zero => exact fun stream reader h => h
  | succ fuel ih =>
    intro stream reader h
    rw [readChunkedBodyLoop]
    dsimp only
    split
    · exact h
    · split
      · exact h
      · split
        · exact h
        · have hdata := readerReadBodyLoop_keeps happend
            (2 * (readerReadLine reader).2.2.transport.reads.length + 4) stream
            (readerReadLine reader).2.2 (chunkSizeOf (readerReadLine reader).2.1).toNat h
          split
          · exact hdata
          · split
            · exact hdata
            · exact ih _ _ hdata

theorem readUntilCloseLoop_keeps (fuel : Nat) :
    ∀ (stream : Stream) (reader : Http11Reader), P stream →
      P (readUntilCloseLoop lib fuel stream reader).2.1 := by
  induction fuel with
  | zero => exact fun stream reader h => h
  | succ fuel ih =>
    intro stream reader h
    rw [readUntilCloseLoop]
    dsimp only
    split
    · split
      · exact happend _ _ h
      · exact ih _ _ (happend _ _ h)
    · exact h

theorem readFramedBody_keeps (framing : Framing) {stream : Stream} (reader : Http11Reader)
    (h : P stream) : P (readFramedBody lib framing stream reader).2.1 := by
  unfold readFramedBody
  split
  · exact readChunkedBodyLoop_keeps happend _ _ _ h
  · split
    · exact h
    · unfold readContentLengthBody
      split
      · exact h
      · exact readerReadBodyLoop_keeps happend _ _ _ _ h
  · exact readUntilCloseLoop_keeps happend _ _ _ h

/-- What the functions of the funnel keep, an exchange keeps. -/
theorem receiveHttp11Response_keeps
    (hmarked : ∀ before after : Stream, Marked before after → P before → P after)
    (hheaders : ∀ stream, P stream → P (deliverResponseHeaders lib stream))
    (htake : ∀ stream, P stream → P (takeResponseCancellation stream).2) (basket : Basket)
    {stream : Stream} (transport : Transport) (h : P stream) :
    P (receiveHttp11Response lib basket stream transport).2.1 := by
  have hhead := hmarked _ _ (readResponseHead_marked stream (Http11Reader.init transport)) h
  have hclassify : ∀ (stream : Stream) (rc : Int), P stream →
      P (classifyBodyError stream rc).2 := by
    intro stream rc hstream
    unfold classifyBodyError
    split
    · exact hstream
    · split
      · exact hmarked stream _ ⟨rfl, rfl⟩ hstream
      · exact hstream
  have hbody : ∀ (stream : Stream) (reader : Http11Reader) (status : Int), P stream →
      P (readBody lib basket.method.name stream reader status).2.2.1 := by
    intro stream reader status hstream
    unfold readBody
    dsimp only
    split
    · exact hstream
    · exact hclassify _ _ (readFramedBody_keeps happend _ reader hstream)
  have hclose : ∀ (session : Session) (stream : Stream) (untilClose : Bool) (bodyRc : Int),
      P stream → P (closeSessionIfSingleUse session stream untilClose bodyRc).2 := by
    intro session stream untilClose bodyRc hstream
    unfold closeSessionIfSingleUse
    dsimp only
    split
    · exact htake stream hstream
    · exact htake stream hstream
  unfold receiveHttp11Response
  dsimp only
  split
  · exact hhead
  · exact hclose _ _ _ _ (hbody _ _ _ (hheaders _ hhead))

end Keeps

end HttpRequestClient.Http11
