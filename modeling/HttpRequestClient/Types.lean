import HttpRequestClient.CString

/-!
# The data of the client

The records of `Basket.h`, `Error.h` and `ResponseStream.h`, with the fields
that the modelled functions read or write.  A pointer that may be null is an
`Option`, an array with its count is a list, and an `Error` whose code is
null (`ERR_NONE`) is `none`.

Left out: locks and condition variables, memory ownership flags, and the
activity clock of a stream.
-/

namespace HttpRequestClient

/-! ## Errors -/

structure Error where
  code : String
  msg : String
  deriving Repr, DecidableEq

def ERR_SYSTEM_MEMORY_ALLOCATION_FAILED : Error :=
  ⟨"0-0000", "System memory allocation failed."⟩
def ERR_SESSION_SETTINGS_TIMEOUT : Error :=
  ⟨"1-0018", "Session settings timeout."⟩
def ERR_SESSION_GO_AWAY : Error :=
  ⟨"1-0019", "Session goes away without error."⟩
def ERR_SESSION_HTTP_1_1_REQUIRED : Error :=
  ⟨"1-0021", "Server requires HTTP/1.1 (HTTP_1_1_REQUIRED); downgrade and retry."⟩
def ERR_REQUEST_SENDING_HTTP2_HEADERS_FRAME_FAILED : Error :=
  ⟨"2-0010", "Sending http/2 headers frame failed."⟩
def ERR_REQUEST_SENDING_HTTP2_DATA_FRAME_FAILED : Error :=
  ⟨"2-0011", "Sending http/2 data frame failed."⟩
def ERR_REQUEST_UNKNOWN_PSEUDO_HEADER : Error :=
  ⟨"2-0015", "Unknown pseudo header name."⟩
def ERR_REQUEST_SENDING_HTTP11_REQUEST_FAILED : Error :=
  ⟨"2-0019", "Sending http/1.1 request failed."⟩
def ERR_RESPONSE_READING_CONNECTION_ERROR : Error :=
  ⟨"3-0001", "Response reading connection error."⟩
def ERR_RESPONSE_NO_CONTENT_AFTER_READING_TIMEOUT : Error :=
  ⟨"3-0003", "Response reading timeout, no content received."⟩
def ERR_RESPONSE_PARTIAL_CONTENT_AFTER_READING_TIMEOUT : Error :=
  ⟨"3-0004", "Response reading timeout, partial content received."⟩
def ERR_RESPONSE_DECODING_HEADERS_FRAME_FAILED : Error :=
  ⟨"3-0005", "Decoding response HEADERS frame failed."⟩
def ERR_RESPONSE_GZIP_INFLATE_FAILED : Error :=
  ⟨"3-0007", "Response (gzip) Inflate failed."⟩
def ERR_RESPONSE_BROTLI_INFLATE_FAILED : Error :=
  ⟨"3-0008", "Response (brotli) Inflate failed."⟩
def ERR_RESPONSE_DEFLATE_INFLATE_FAILED : Error :=
  ⟨"3-0009", "Response (deflate) Inflate failed."⟩
def ERR_RESPONSE_ZSTD_INFLATE_FAILED : Error :=
  ⟨"3-0010", "Response (zstd) Inflate failed."⟩
def ERR_RESPONSE_INFLATE_UNKNOWN_ERROR : Error :=
  ⟨"3-0011", "Response inflate unknown error."⟩
def ERR_RESPONSE_RST_STREAM_ERROR : Error :=
  ⟨"3-0012", "Response RST_STREAM unknown error."⟩
def ERR_RESPONSE_READING_HTTP11_FAILED : Error :=
  ⟨"3-0013", "Reading/parsing http/1.1 response failed."⟩
def ERR_RESPONSE_STREAM_ABORTED_BY_CONSUMER : Error :=
  ⟨"3-0014", "Response streaming aborted by the consumer."⟩

/-! ## Requests -/

/-- The methods that `parseMethod` admits. -/
inductive Method where
  | post
  | get
  | put
  | patch
  | delete
  deriving Repr, DecidableEq

/-- The value of `Basket.method`. -/
def Method.name : Method → Bytes
  | .post => ascii "POST"
  | .get => ascii "GET"
  | .put => ascii "PUT"
  | .patch => ascii "PATCH"
  | .delete => ascii "DELETE"

/-! ## Headers -/

/-- A name and a value. -/
structure HeaderField where
  name : Bytes
  value : Bytes
  deriving Repr, DecidableEq, Inhabited

abbrev ResponseHeader := HeaderField
abbrev HpackTableEntry := HeaderField

/-- The number of headers a stream stores. -/
def RESPONSE_HEADERS_MAX_SIZE : Nat := 64

/-- The decoder side of HPACK.  `dynamicTable` holds the live entries, newest
first; `dynamicTableSize` of the source is its length. -/
structure HpackContext where
  dynamicTable : List HpackTableEntry
  dynamicTableCapacity : Nat
  dynamicTableMaxSize : Nat
  deriving Repr, DecidableEq

/-! ## The response sink -/

inductive ContentEncoding where
  | identity
  | gzip
  | deflate
  | brotli
  | zstd
  deriving Repr, DecidableEq

/-- The value of the enumerator, a bit of `Basket.decompress`. -/
def ContentEncoding.toNat : ContentEncoding → Nat
  | .identity => 0
  | .gzip => 1
  | .deflate => 2
  | .brotli => 4
  | .zstd => 8

/-- A call of the caller's contract. -/
inductive Callback where
  | onHeaders (headers : List ResponseHeader)
  | onData (data : Bytes)
  | onComplete (error : Option Error)
  deriving Repr, DecidableEq

/-- The caller's contract.  Only `onData` answers; its answer may depend on
every call made before. -/
structure ResponseStream where
  onData : List Callback → Bytes → Int

/-- A decoder and the chunks it was fed so far. -/
structure StreamDecompressor where
  encoding : ContentEncoding
  fed : List Bytes

/-- The library state behind a contract.  A sink without a contract is the
library's own collector.  `calls` records the callbacks made. -/
structure ResponseSink where
  contract : Option ResponseStream
  decompressMask : Nat
  encoding : ContentEncoding
  decompressor : Option StreamDecompressor
  delivered : Nat
  error : Option Error
  headersDelivered : Bool
  completed : Bool
  aborted : Bool
  cancelled : Bool
  cancellationTaken : Bool
  calls : List Callback

/-! ## Streams -/

/-- One request on a session.  `headers` is null for a scratch stream. -/
structure Stream where
  streamId : Nat
  isEnded : Bool
  sink : Option ResponseSink
  headers : Option (List ResponseHeader)
  combinedPayload : Bytes
  headerBlock : Bytes
  awaitingContinuation : Bool
  payloadDecoded : Bool
  error : Option Error

/-- The number of stored headers. -/
def Stream.numHeaders (stream : Stream) : Nat := (stream.headers.getD []).length

/-- A stream as `memset` to zero leaves it: no sink, no header buffer. -/
def Stream.scratch : Stream where
  streamId := 0
  isEnded := false
  sink := none
  headers := none
  combinedPayload := []
  headerBlock := []
  awaitingContinuation := false
  payloadDecoded := false
  error := none

/-! ## Sessions -/

def MAX_CONCURRENT_STREAMS_PER_SESSION : Nat := 256

/-- Flow-control credit of a stream that is not returned yet. -/
structure PendingWindowUpdate where
  streamId : Nat
  credit : Nat
  deriving Repr, DecidableEq

/-- A connection.  `streams` are the slots of the registry, `pendingWire`
the control frames queued for the peer.  The counters are `uint32_t`.

`decodedBlocks` is not in the source: it records the header blocks that
were passed to `decodeHeadersFrame`. -/
structure Session where
  streamId : Nat
  streams : List (Option Stream)
  inflightCount : Nat
  hpackCtx : HpackContext
  goingAway : Bool
  connError : Option Error
  pendingConnWindow : Nat
  pendingStreamWindows : List PendingWindowUpdate
  connWindowFlushDue : Bool
  connWindowTarget : Nat
  connWindowSinceGrowth : Nat
  pendingWire : Bytes
  decodedBlocks : List Bytes

end HttpRequestClient
