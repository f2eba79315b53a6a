import HttpRequestClient.Hpack.Huffman
import HttpRequestClient.Types

/-!
# The HPACK decoder

`hpackDecodeInteger` and `hpackDecodeString` of `CompressHandler.c`, and
`decodeHeadersFrame` of `Http2ResponseHandler.c` with the tables it uses.

A position in the payload is a `Nat`, and the functions that move it return
the new one.  `decodeField` is one round of the loop of `decodeHeadersFrame`;
`decodeFields` repeats it while the position is inside the payload.  A round
that goes on moves the position, so the length of the payload is enough fuel.
-/

namespace HttpRequestClient.Hpack

/-! ## Integers and strings -/

/-- The continuation octets of an integer.  The loop leaves at the end of
the buffer, after an octet without its high bit, and when `shift` exceeds
28, that is after five octets. -/
def decodeContinuation (buf : Bytes) : Nat → Nat → Nat → Nat → Nat × Nat
  | 0, value, _, pos => (value, pos)
  | fuel + 1, value, shift, pos =>
    if pos ≥ buf.length then (value, pos)
    else
      let b := (buf.getD pos 0).toNat
      let value := value + (b &&& 0x7F) <<< shift
      if shift + 7 > 28 then (value, pos + 1)
      else if b &&& 0x80 ≠ 0 then decodeContinuation buf fuel value (shift + 7) (pos + 1)
      else (value, pos + 1)

/-- The integer at `pos` and the position after it. -/
def hpackDecodeInteger (buf : Bytes) (pos prefixSize : Nat) : Nat × Nat :=
  if pos ≥ buf.length then (0, pos)
  else
    let mask := 2 ^ prefixSize - 1
    let value := (buf.getD pos 0).toNat &&& mask
    if value = mask then decodeContinuation buf 5 value 0 (pos + 1) else (value, pos + 1)

/-- The string at `pos`, null when it does not fit the payload, and the
position after it. -/
def hpackDecodeString (payload : Bytes) (pos : Nat) : Option Bytes × Nat :=
  if pos ≥ payload.length then (none, pos)
  else
    let (strLen, next) := hpackDecodeInteger payload pos 7
    let isHuffman := payload.getD pos 0 &&& 0x80 ≠ 0
    if next + strLen > payload.length then (none, next)
    else
      let text := (payload.drop next).take strLen
      (some (if isHuffman then hpackHuffmanDecode text else cstr text), next + strLen)

/-! ## The tables -/

/-- The static table; index 0 is not used. -/
def responseHeaderStaticTable : List (String × String) := [
    ("", ""), (":authority", ""), (":method", "GET"), (":method", "POST"), (":path", "/"),
    (":path", "/index.html"), (":scheme", "http"), (":scheme", "https"), (":status", "200"),
    (":status", "204"), (":status", "206"), (":status", "304"), (":status", "400"),
    (":status", "404"), (":status", "500"), ("accept-charset", ""),
    ("accept-encoding", "gzip, deflate"), ("accept-language", ""), ("accept-ranges", ""),
    ("accept", ""), ("access-control-allow-origin", ""), ("age", ""), ("allow", ""),
    ("authorization", ""), ("cache-control", ""), ("content-disposition", ""),
    ("content-encoding", ""), ("content-language", ""), ("content-length", ""),
    ("content-location", ""), ("content-range", ""), ("content-type", ""), ("cookie", ""),
    ("date", ""), ("etag", ""), ("expect", ""), ("expires", ""), ("from", ""), ("host", ""),
    ("if-match", ""), ("if-modified-since", ""), ("if-none-match", ""), ("if-range", ""),
    ("if-unmodified-since", ""), ("last-modified", ""), ("link", ""), ("location", ""),
    ("max-forwards", ""), ("proxy-authenticate", ""), ("proxy-authorization", ""),
    ("range", ""), ("referer", ""), ("refresh", ""), ("retry-after", ""), ("server", ""),
    ("set-cookie", ""), ("strict-transport-security", ""), ("transfer-encoding", ""),
    ("user-agent", ""), ("vary", ""), ("via", ""), ("www-authenticate", "")
  ]

def staticEntry (index : Nat) : HpackTableEntry :=
  let entry := responseHeaderStaticTable.getD index ("", "")
  ⟨ascii entry.1, ascii entry.2⟩

/-- The entry at an index; a made-up one where the tables have none. -/
def getHeaderFromTable (index : Nat) (ctx : HpackContext) : ResponseHeader :=
  if index = 0 then ⟨[], []⟩
  else if index ≤ responseHeaderStaticTable.length - 1 then staticEntry index
  else
    let dynamicIndex := index - (responseHeaderStaticTable.length - 1) - 1
    if dynamicIndex < ctx.dynamicTable.length then ctx.dynamicTable.getD dynamicIndex default
    else ⟨ascii "error", ascii "invalid index"⟩

def hpackEntrySize (entry : HpackTableEntry) : Nat := entry.name.length + entry.value.length + 32

def hpackDynamicTableUsedSize (ctx : HpackContext) : Nat :=
  (ctx.dynamicTable.map hpackEntrySize).sum

def hpackEvictFromTail (ctx : HpackContext) : HpackContext :=
  { ctx with dynamicTable := ctx.dynamicTable.dropLast }

/-- The loop of a size update; a table of `fuel` entries is empty after
`fuel` rounds. -/
def evictToMaxSize : Nat → HpackContext → HpackContext
  | 0, ctx => ctx
  | fuel + 1, ctx =>
    if ctx.dynamicTable.length > 0 ∧ hpackDynamicTableUsedSize ctx > ctx.dynamicTableMaxSize then
      evictToMaxSize fuel (hpackEvictFromTail ctx)
    else ctx

/-- A dynamic table size update. -/
def updateTableSize (ctx : HpackContext) (maxSize : Nat) : HpackContext :=
  evictToMaxSize ctx.dynamicTable.length { ctx with dynamicTableMaxSize := maxSize }

/-- The loop that makes room for an entry.  `used` is kept along instead of
being summed up again. -/
def evictForEntry (entrySize : Nat) : Nat → HpackContext → Nat → HpackContext
  | 0, ctx, _ => ctx
  | fuel + 1, ctx, used =>
    if ctx.dynamicTable.length > 0 ∧ used + entrySize > ctx.dynamicTableMaxSize then
      let last := ctx.dynamicTable.getD (ctx.dynamicTable.length - 1) default
      evictForEntry entrySize fuel (hpackEvictFromTail ctx) (used - hpackEntrySize last)
    else ctx

/-- An entry larger than the whole table empties it. -/
def addToDynamicTable (ctx : HpackContext) (entry : HpackTableEntry) : HpackContext :=
  let entrySize := hpackEntrySize entry
  if entrySize > ctx.dynamicTableMaxSize then { ctx with dynamicTable := [] }
  else
    let ctx := evictForEntry entrySize ctx.dynamicTable.length ctx (hpackDynamicTableUsedSize ctx)
    let capacity := ctx.dynamicTableCapacity
    let grown := if capacity = 0 then 8 else 2 * capacity
    { ctx with
      dynamicTable := entry :: ctx.dynamicTable
      dynamicTableCapacity := if ctx.dynamicTable.length ≥ capacity then grown else capacity }

/-! ## Header blocks -/

/-- The variables of the loop over a header block. -/
structure Decoding where
  stream : Stream
  ctx : HpackContext
  pos : Nat

def Decoding.failed (d : Decoding) : Decoding :=
  { d with stream := { d.stream with error := some ERR_RESPONSE_DECODING_HEADERS_FRAME_FAILED } }

/-- The end of a round: insert the field if its representation says so, and
store it.  A stream without a header buffer discards it; a full one leaves
the loop. -/
def storeHeader (d : Decoding) (shouldAddToDynamicTable : Bool) (header : ResponseHeader) :
    Bool × Decoding :=
  let ctx := if shouldAddToDynamicTable then addToDynamicTable d.ctx header else d.ctx
  match d.stream.headers with
  | none => (true, { d with ctx := ctx })
  | some headers =>
    if headers.length < RESPONSE_HEADERS_MAX_SIZE then
      (true, { d with ctx := ctx, stream := { d.stream with headers := some (headers ++ [header]) } })
    else (false, { d with ctx := ctx })

/-- An indexed field.  An index that is not in the tables is skipped. -/
def decodeIndexed (payload : Bytes) (d : Decoding) : Bool × Decoding :=
  let (index, pos) := hpackDecodeInteger payload d.pos 7
  let d := { d with pos := pos }
  let staticTableCount := responseHeaderStaticTable.length
  if index = 0 then (true, d.failed)
  else if index ≥ staticTableCount ∧
      index - (staticTableCount - 1) - 1 ≥ d.ctx.dynamicTable.length then (true, d.failed)
  else storeHeader d false (getHeaderFromTable index d.ctx)

/-- The name of a literal field: by index, or a string. -/
def decodeName (payload : Bytes) (ctx : HpackContext) (pos prefixSize : Nat) :
    Option Bytes × Nat :=
  let (index, pos) := hpackDecodeInteger payload pos prefixSize
  if index > 0 then (some (getHeaderFromTable index ctx).name, pos)
  else hpackDecodeString payload pos

/-- A literal field.  The two branches of the source differ in the width of
the index and in whether the field is inserted. -/
def decodeLiteral (payload : Bytes) (d : Decoding) (prefixSize : Nat)
    (shouldAddToDynamicTable : Bool) : Bool × Decoding :=
  match decodeName payload d.ctx d.pos prefixSize with
  | (none, pos) => (false, { d with pos := pos }.failed)
  | (some name, pos) =>
    match hpackDecodeString payload pos with
    | (none, pos) => (false, { d with pos := pos }.failed)
    | (some value, pos) => storeHeader { d with pos := pos } shouldAddToDynamicTable ⟨name, value⟩

/-- One round of the loop; the flag says whether it goes on. -/
def decodeField (payload : Bytes) (d : Decoding) : Bool × Decoding :=
  let firstByte := payload.getD d.pos 0
  if firstByte &&& 0xE0 = 0x20 then
    let (maxSize, pos) := hpackDecodeInteger payload d.pos 5
    (true, { d with ctx := updateTableSize d.ctx maxSize, pos := pos })
  else if firstByte &&& 0x80 ≠ 0 then decodeIndexed payload d
  else if firstByte &&& 0x40 ≠ 0 then decodeLiteral payload d 6 true
  else decodeLiteral payload d 4 false

def decodeFields (payload : Bytes) : Nat → Decoding → Decoding
  | 0, d => d
  | fuel + 1, d =>
    if d.pos < payload.length then
      match decodeField payload d with
      | (true, d) => decodeFields payload fuel d
      | (false, d) => d
    else d

/-- Decode a header block into the stream.  An empty block leaves the stream
and the table alone. -/
def decodeHeadersFrame (stream : Stream) (payload : Bytes) (ctx : HpackContext) :
    Stream × HpackContext :=
  if payload.length = 0 then (stream, ctx)
  else
    let stream := { stream with headers := stream.headers.map (fun _ => []) }
    let d := decodeFields payload payload.length { stream := stream, ctx := ctx, pos := 0 }
    (d.stream, d.ctx)

end HttpRequestClient.Hpack
