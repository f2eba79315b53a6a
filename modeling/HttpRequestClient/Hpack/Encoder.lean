import HttpRequestClient.Hpack.Huffman
import HttpRequestClient.Types

/-!
# The HPACK encoder of requests

`hpackEncodeInteger` and `writeHuffmanValue` of `CompressHandler.c`, and the
functions of `Http2RequestHandler.c` that turn the headers of a request into
a header block.  A function of the source that writes at a pointer returns
here the bytes it writes.

`encodeHeaders` is the loop of `buildHttp2HeadersFrame`.
-/

namespace HttpRequestClient.Hpack

/-! ## Integers and strings -/

/-- The groups of seven bits after a full prefix.  Every round takes seven
bits, so `value` rounds are enough. -/
def encodeGroups : Nat → Nat → Bytes
  | 0, value => [UInt8.ofNat (value &&& 0x7F)]
  | fuel + 1, value =>
    if value ≥ 128 then UInt8.ofNat ((value &&& 0x7F) ||| 0x80) :: encodeGroups fuel (value >>> 7)
    else [UInt8.ofNat (value &&& 0x7F)]

def hpackEncodeInteger (value prefixBits flags : Nat) : Bytes :=
  let maxPrefix := 2 ^ prefixBits - 1
  if value < maxPrefix then [UInt8.ofNat (flags ||| value)]
  else UInt8.ofNat (flags ||| maxPrefix) :: encodeGroups (value - maxPrefix) (value - maxPrefix)

/-- A Huffman-coded string with its length. -/
def writeHuffmanValue (value : Bytes) : Bytes :=
  if value.length = 0 then [0x80]
  else
    let huffBuffer := hpackHuffmanEncode value
    hpackEncodeInteger huffBuffer.length 7 0x80 ++ huffBuffer

/-! ## Headers -/

structure RequestHeader where
  name : Bytes
  value : Bytes
  isPseudo : Bool
  deriving Repr, DecidableEq

/-- The names of the static table with their indices, sorted by name. -/
def requestHeaderHpackStaticTable : List (String × Nat) := [
    ("accept", 19), ("accept-charset", 15), ("accept-encoding", 16), ("accept-language", 17),
    ("accept-ranges", 18), ("access-control-allow-origin", 20), ("age", 21), ("allow", 22),
    ("authorization", 23), ("cache-control", 24), ("content-disposition", 25),
    ("content-encoding", 26), ("content-language", 27), ("content-length", 28),
    ("content-location", 29), ("content-range", 30), ("content-type", 31), ("cookie", 32),
    ("date", 33), ("etag", 34), ("expect", 35), ("expires", 36), ("from", 37), ("host", 38),
    ("if-match", 39), ("if-modified-since", 40), ("if-none-match", 41), ("if-range", 42),
    ("if-unmodified-since", 43), ("last-modified", 44), ("link", 45), ("location", 46),
    ("max-forwards", 47), ("proxy-authenticate", 48), ("proxy-authorization", 49),
    ("range", 50), ("referer", 51), ("refresh", 52), ("retry-after", 53), ("server", 54),
    ("set-cookie", 55), ("strict-transport-security", 56), ("transfer-encoding", 57),
    ("user-agent", 58), ("vary", 59), ("via", 60), ("www-authenticate", 61)
  ]

def compareHpackEntry (name : Bytes) (entry : String × Nat) : Int :=
  strcasecmp name (ascii entry.1)

/-- `bsearch` of the C library over a table: the range `lo` to `hi` shrinks
in every round, so its length is enough fuel. -/
def bsearch (compare : String × Nat → Int) (table : List (String × Nat)) :
    Nat → Nat → Nat → Option (String × Nat)
  | 0, _, _ => none
  | fuel + 1, lo, hi =>
    if lo < hi then
      let mid := (lo + hi) / 2
      match table[mid]? with
      | none => none
      | some entry =>
        if compare entry < 0 then bsearch compare table fuel lo mid
        else if compare entry > 0 then bsearch compare table fuel (mid + 1) hi
        else some entry
    else none

/-- A literal field without indexing, with a raw name. -/
def literalRawName (name value : Bytes) : Bytes :=
  [0x00] ++ hpackEncodeInteger name.length 7 0x00 ++ name ++ writeHuffmanValue value

/-- The comparison with `https` and `http` is of the name, as in the source,
so the two short forms of `:scheme` are never used. -/
def hpackPseudoHeaders (header : RequestHeader) : Except Error Bytes :=
  let name := header.name
  let value := header.value
  if strcasecmp name (ascii ":method") = 0 then
    if strcasecmp value (ascii "GET") = 0 then .ok [0x82]
    else if strcasecmp value (ascii "POST") = 0 then .ok [0x83]
    else .ok (literalRawName name value)
  else if strcasecmp name (ascii ":scheme") = 0 then
    if strcasecmp name (ascii "https") = 0 then .ok [0x87]
    else if strcasecmp name (ascii "http") = 0 then .ok [0x86]
    else .ok (literalRawName name value)
  else if strcasecmp name (ascii ":authority") = 0 then .ok ([0x41] ++ writeHuffmanValue value)
  else if strcasecmp name (ascii ":path") = 0 then .ok ([0x44] ++ writeHuffmanValue value)
  else .error ERR_REQUEST_UNKNOWN_PSEUDO_HEADER

/-- The length of a literal name is one octet, or two above 127. -/
def hpackHeaders (header : RequestHeader) : Bytes :=
  let found := bsearch (compareHpackEntry header.name) requestHeaderHpackStaticTable
    requestHeaderHpackStaticTable.length 0 requestHeaderHpackStaticTable.length
  let head : Bytes :=
    match found with
    | some entry => [UInt8.ofNat (0x40 ||| entry.2)]
    | none =>
      let huffName := hpackHuffmanEncode header.name
      let length : Bytes :=
        if huffName.length < 128 then [UInt8.ofNat (0x80 ||| huffName.length)]
        else [UInt8.ofNat (0x80 ||| 0x7F), UInt8.ofNat (huffName.length - 127)]
      [0x00] ++ length ++ huffName
  let huffValueBuffer := hpackHuffmanEncode header.value
  head ++ hpackEncodeInteger huffValueBuffer.length 7 0x80 ++ huffValueBuffer

/-- A real header named `connection` is not sent. -/
def isEmitted (header : RequestHeader) : Bool :=
  ¬(header.isPseudo = false ∧ strcasecmp header.name (ascii "connection") = 0)

/-- The bytes of one header. -/
def encodeHeader (header : RequestHeader) : Except Error Bytes :=
  if header.isPseudo then hpackPseudoHeaders header else .ok (hpackHeaders header)

/-- The loop of `buildHttp2HeadersFrame` over the headers.  An unknown
pseudo header ends it. -/
def encodeHeaders : List RequestHeader → Except Error Bytes
  | [] => .ok []
  | header :: headers =>
    if isEmitted header then
      match encodeHeader header with
      | .error error => .error error
      | .ok head =>
        match encodeHeaders headers with
        | .error error => .error error
        | .ok tail => .ok (head ++ tail)
    else encodeHeaders headers

end HttpRequestClient.Hpack
