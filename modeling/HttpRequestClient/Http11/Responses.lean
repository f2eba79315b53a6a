import HttpRequestClient.Http11.Malformed
import HttpRequestClient.Session

/-!
# What the client reports for a response

`receiveHttp11Response` on the messages of `Message.lean`, for every way the
transport divides them into reads.

* `receiveHttp11Response_wire`: a whole response whose lines fit is reported
  with its headers and its body, and nothing behind it is read.
* `receiveHttp11Response_truncated_iff`: a response that stops inside its body
  is a failure exactly when the connection does not end in order, apart from
  the reader's limit and a funnel that stops the response.
* `receiveHttp11Response_untilClose_iff`: a body up to the end of the
  connection is whole exactly when a read ends with the header section.
* `receiveHttp11Response_interim_iff`: the final response is reported exactly
  when no interim response stands before it.
* `receiveHttp11Response_framing_iff`: which bytes behind a head are a
  failure, for every framing.
-/

namespace HttpRequestClient.Http11

open Parts

/-! ## Heads and exchanges -/

/-- Behind a head the exchange is that of the body, unless the reader meets
its limit in the head. -/
theorem exchangeOf_body {head : ResponseHead} {transport : Transport} {rest : Bytes}
    (hbytes : transport.bytes = head.wire ++ rest)
    (hstatus : isBodylessStatus head.status = false) :
    exchangeOf transport.parts = .headFailed .tooLong ∨
      ∃ u, headOf ⟨0, [], transport.parts⟩ =
          .read head.code (head.lines.map HeaderLine.text) u ∧ u.all = rest ∧
        exchangeOf transport.parts = .body head.stored (bodyOf (framingOf head.stored) u).1
          (bodyOf (framingOf head.stored) u).2 := by
  rcases headOf_wire (u := ⟨0, [], transport.parts⟩) hbytes with hlong | ⟨u, hread, hrest⟩
  · left
    rw [exchangeOf, hlong]
  · right
    refine ⟨u, hread, hrest, ?_⟩
    have hbody : ¬isBodylessStatus (atoi head.code) = true := by
      rw [show atoi head.code = head.status from rfl, hstatus]
      exact Bool.false_ne_true
    rw [exchangeOf, hread]
    simp only [if_neg hbody, storedHeaders_texts]

/-- The funnel stops the response. -/
def Exchange.stopped (lib : DecoderLib) (stream : Stream) : Exchange → Prop
  | .body headers pieces _ => funnelStops lib stream headers pieces
  | _ => False

/-- A stream that takes everything is not stopped. -/
theorem withHeaders_passes (lib : DecoderLib) {stream : Stream} {headers : List ResponseHeader}
    (hfresh : Fresh stream) (hpasses : Passes headers stream) :
    (withHeaders lib stream headers).error = none ∧
      TakesBody (withHeaders lib stream headers) ∧
      (withHeaders lib stream headers).received = stream.received ∧
      (withHeaders lib stream headers).collecting = stream.collecting := by
  have hsink : ∀ sink, ({ stream with headers := some headers } : Stream).sink = some sink →
      sink.headersDelivered = false ∧ sink.decompressor = none ∧ sink.aborted = false ∧
      sink.cancelled = false ∧ sink.cancellationTaken = false := hfresh.sink
  have hdeliver := deliverResponseHeaders_passes lib hsink ⟨hpasses.sink⟩
  exact ⟨hdeliver.1.trans hfresh.error, hdeliver.2⟩

theorem not_funnelStops (lib : DecoderLib) {stream : Stream} {headers : List ResponseHeader}
    (hfresh : Fresh stream) (hpasses : Passes headers stream) (pieces : List Bytes) :
    ¬funnelStops lib stream headers pieces := by
  obtain ⟨herror, htakes, -⟩ := withHeaders_passes lib hfresh hpasses
  rintro (h | h)
  · exact h herror
  · rw [(appendPieces_takesBody lib pieces _ htakes).1] at h
    cases h

/-! ## Whole responses -/

/-- A response whose body does not end with the connection is reported whole,
unless the reader meets its limit. -/
theorem receiveHttp11Response_whole (lib : DecoderLib) (basket : Basket) {stream : Stream}
    {transport : Transport} {head : ResponseHead} {body : Body} {rest : Bytes}
    (hfresh : Fresh stream) (hpasses : Passes head.stored stream)
    (hstatus : isBodylessStatus head.status = false) (hframed : body.FramedBy head.stored)
    (hends : ¬body.endsWithConnection) (hsize : body.data.length ≤ LLONG_MAX)
    (hbytes : transport.bytes = head.wire ++ (body.wire ++ rest))
    (hlimit : ¬(exchangeOf transport.parts).limitReached) :
    let result := receiveHttp11Response lib basket stream transport
    result.2.1.error = none ∧ result.2.1.headers = some head.stored ∧
      result.2.1.received = stream.received ++ body.data ∧
      result.2.1.collecting = stream.collecting ∧ result.2.2.unread.all = rest := by
  intro result
  rcases exchangeOf_body hbytes hstatus with hlong | ⟨u, -, hall, hexchange⟩
  · rw [hlong] at hlimit
    exact absurd trivial hlimit
  · have hreport := receiveHttp11Response_body lib basket hfresh hexchange
    have hscan := scanBody_wire hframed hends hsize rest
    rw [← hall] at hscan
    have hlong : (bodyOf (framingOf head.stored) u).2 ≠ .tooLong := by
      intro hlong
      rw [hexchange, hlong] at hlimit
      exact hlimit trivial
    have hclose : framingOf head.stored ≠ .untilClose := by
      intro hclose
      rw [hclose] at hscan
      cases congrArg Scan.result hscan
    obtain ⟨hpieces, hresult⟩ := bodyOf_scan hlong
    rw [hscan] at hpieces hresult
    obtain ⟨u', hdone, hrest⟩ : ∃ u', (bodyOf (framingOf head.stored) u).2 = .done u' ∧
        u'.all = rest := by
      cases hout : (bodyOf (framingOf head.stored) u).2 with
      | done u' =>
        rw [hout] at hresult
        exact ⟨u', rfl, by simpa [Outcome.result] using hresult⟩
      | ended => rw [hout] at hresult; cases hresult
      | refused => rw [hout] at hresult; cases hresult
      | tooLong => exact absurd hout hlong
    have herror : result.2.1.error = none := by
      rw [hreport.error, hdone]
      exact ⟨not_funnelStops lib hfresh hpasses _, Or.inl rfl⟩
    obtain ⟨-, htakes, hreceived, hcollecting⟩ := withHeaders_passes lib hfresh hpasses
    obtain ⟨-, hfed, hfed'⟩ := appendPieces_takesBody lib
      (bodyOf (framingOf head.stored) u).1 _ htakes
    refine ⟨herror, hreport.stored, ?_, ?_, ?_⟩
    · rw [(hreport.received herror).1, hfed, hreceived, hpieces hclose]
    · rw [(hreport.received herror).2, hfed', hcollecting]
    · rw [hreport.rest herror u' hdone]
      exact hrest

/-- Lines of at most 48 KiB with their line ends do not reach the limit. -/
theorem not_limitReached {transport : Transport} {head : ResponseHead} {rest : Bytes}
    (hstatus : isBodylessStatus head.status = false)
    (hbytes : transport.bytes = head.wire ++ rest) (hhead : Fits head.rawLines)
    (hbody : Fits (scanBody (framingOf head.stored) rest).lines) :
    ¬(exchangeOf transport.parts).limitReached := by
  obtain ⟨u, hread, hall, hroom⟩ := headOf_roomy (roomy_start transport) hhead hbytes
  rcases exchangeOf_body hbytes hstatus with hlong | ⟨u', hread', -, hexchange⟩
  · rw [exchangeOf, hread] at hlong
    simp only at hlong
    split at hlong <;> cases hlong
  · rw [hread] at hread'
    cases hread'
    rw [hexchange]
    intro hlimit
    have hleaves : (bodyOf (framingOf head.stored) u).2.LeavesRoom := by
      apply bodyOf_within hroom
      rw [hall]
      exact hbody
    revert hlimit hleaves
    cases (bodyOf (framingOf head.stored) u).2 <;> simp [Exchange.limitReached, Outcome.LeavesRoom]

theorem isBodylessStatus_of_final {status : Int}
    (h : 200 ≤ status ∧ status ≠ 204 ∧ status ≠ 304) : isBodylessStatus status = false := by
  rw [isBodylessStatus, decide_eq_false_iff_not]
  omega

/-- A collector takes a body that has no content encoding. -/
theorem passes_of_collecting {stream : Stream} {headers : List ResponseHeader}
    (hcollecting : stream.collecting = true)
    (hidentity : detectContentEncoding headers = .identity) : Passes headers stream := by
  refine ⟨fun sink hsink => ⟨by rw [hidentity]; exact Nat.and_zero _, fun contract hcontract => ?_⟩⟩
  rw [Stream.collecting, hsink] at hcollecting
  simp only [hcontract] at hcollecting
  cases hcollecting

/-- Every response of at most 63 header lines, with a chunked body or one of a
given length, is read back by a collecting stream however its bytes are
divided into reads, and exactly what follows it is left.  Every line, with
its line end, has at most 48 KiB. -/
theorem receiveHttp11Response_wire (lib : DecoderLib) (basket : Basket) (stream : Stream)
    (transport : Transport) (head : ResponseHead) (body : Body) (rest : Bytes)
    (hfresh : Fresh stream) (hcollecting : stream.collecting = true)
    (hidentity : detectContentEncoding head.fields = .identity)
    (hstatus : 200 ≤ head.status ∧ head.status ≠ 204 ∧ head.status ≠ 304)
    (hlines : head.lines.length ≤ 63) (hframed : body.FramedBy head.fields)
    (hends : ¬body.endsWithConnection) (hsize : body.data.length ≤ LLONG_MAX)
    (hfits : ∀ raw ∈ head.rawLines ++ body.rawLines, raw.length + 1 ≤ 48 * 1024)
    (hbytes : transport.bytes = head.wire ++ (body.wire ++ rest)) :
    (receiveHttp11Response lib basket stream transport).2.1.error = none ∧
      (receiveHttp11Response lib basket stream transport).2.1.headers = some head.fields ∧
      (receiveHttp11Response lib basket stream transport).2.1.combinedPayload = body.data ∧
      (receiveHttp11Response lib basket stream transport).2.2.unread.all = rest := by
  have hstored : head.stored = head.fields := by
    apply List.take_of_length_le
    rw [ResponseHead.fields, List.length_cons, List.length_map]
    exact Nat.succ_le_succ hlines
  have hbodyless := isBodylessStatus_of_final hstatus
  have hraw : ∀ raw ∈ head.rawLines ++ body.rawLines,
      raw.length + HTTP11_READ_CHUNK < HTTP11_MAX_HEADER_SECTION := by
    intro raw hmem
    have := hfits raw hmem
    unfold HTTP11_READ_CHUNK HTTP11_MAX_HEADER_SECTION
    omega
  have hlimit : ¬(exchangeOf transport.parts).limitReached := by
    apply not_limitReached hbodyless hbytes
    · exact fun raw hmem => hraw raw (List.mem_append_left _ hmem)
    · rw [hstored, scanBody_wire hframed hends hsize rest]
      exact fun raw hmem => hraw raw (List.mem_append_right _ hmem)
  have hpasses : Passes head.stored stream :=
    passes_of_collecting hcollecting (by rw [hstored]; exact hidentity)
  obtain ⟨herror, hheaders, hreceived, hsame, hrest⟩ := receiveHttp11Response_whole lib basket
    hfresh hpasses hbodyless (by rw [hstored]; exact hframed) hends hsize hbytes hlimit
  refine ⟨herror, by rw [hheaders, hstored], ?_, hrest⟩
  rw [← Stream.received_of_collecting (hsame.trans hcollecting), hreceived,
    Stream.received_of_collecting hcollecting, hfresh.payload, List.nil_append]

/-! ### Some messages -/

/-- `HTTP/1.1 200 OK` and header lines. -/
def okHead (lines : List HeaderLine) : ResponseHead where
  minor := ascii "1"
  code := ascii "200"
  reason := ascii " OK"
  lines := lines
  minor_ok := List.all_iff_forall_prop.mp (by decide)
  code_ok := ⟨by decide, List.all_iff_forall_prop.mp (by decide)⟩
  reason_ok := by decide

def transferEncodingChunked : HeaderLine where
  name := ascii "Transfer-Encoding"
  value := ascii " chunked"
  name_ok := by decide
  value_ok := by decide

def contentLengthFive : HeaderLine where
  name := ascii "Content-Length"
  value := ascii " 5"
  name_ok := by decide
  value_ok := by decide

/-- The chunk size line `5` or `0`. -/
def digitLine (digit : UInt8) (h : isDigitOf 16 digit = true) : SizeLine where
  digits := [digit]
  blanks := []
  extension := []
  digits_ne := by simp
  digits_hex := by simpa using h
  blanks_ok := by simp
  extension_ok := Or.inl rfl
  extension_text := by simp

/-- `hello` in one chunk. -/
def helloChunks : Body :=
  .chunked [⟨digitLine 53 (by decide), ascii "hello", by decide, by decide⟩]
    ⟨digitLine 48 (by decide), by decide⟩ []

/-- A request on a new session, and its stream with a collector. -/
def getBasket : Basket := ⟨.get, initSession 4096⟩
def collector : Stream := newStream 1 (some (buildResponseSink 0 none))

/-- One read. -/
def readOf (bytes : Bytes) (h : 0 < bytes.length ∧ bytes.length ≤ HTTP11_READ_CHUNK) : Read :=
  ⟨bytes, h⟩

/-- A connection that delivers `bytes` in two reads. -/
def twoReads (bytes : Bytes) (n : Nat) (ending : Ending)
    (h : 0 < (bytes.take n).length ∧ (bytes.take n).length ≤ HTTP11_READ_CHUNK)
    (h' : 0 < (bytes.drop n).length ∧ (bytes.drop n).length ≤ HTTP11_READ_CHUNK) : Transport :=
  ⟨[readOf (bytes.take n) h, readOf (bytes.drop n) h'], ending⟩

def helloWire : Bytes :=
  (okHead [transferEncodingChunked]).wire ++ (helloChunks.wire ++ [90])

/-- A chunked response cut inside its header section. -/
theorem receiveHttp11Response_wire_hello :
    let result := receiveHttp11Response noDecoders getBasket collector
      (twoReads helloWire 20 .closed (by decide) (by decide))
    result.2.1.error = none ∧
      result.2.1.headers = some (okHead [transferEncodingChunked]).fields ∧
      result.2.1.combinedPayload = ascii "hello" ∧ result.2.2.unread.all = [90] :=
  receiveHttp11Response_wire noDecoders getBasket collector
    (twoReads helloWire 20 .closed (by decide) (by decide)) (okHead [transferEncodingChunked])
    helloChunks [90] (newStream_fresh 1 0 none) rfl (by decide) (by decide) (by decide)
    (show isChunked _ = true by decide) (fun h => h) (by decide) (by decide) (by decide)

/-! ### A line of 48 KiB less one byte -/

/-- Letters to fill a line with. -/
def letters (n : Nat) : Bytes := List.replicate n 97

theorem letters_length (n : Nat) : (letters n).length = n := List.length_replicate

theorem letters_add (m n : Nat) : letters (m + n) = letters m ++ letters n :=
  List.replicate_add ..

theorem not_mem_letters {c : UInt8} (h : c ≠ 97) (n : Nat) : c ∉ letters n :=
  fun hmem => h (List.eq_of_mem_replicate hmem)

/-- A header line of `n + 2` bytes, all but one of them in its value. -/
def longLine (n : Nat) : HeaderLine where
  name := [97]
  value := letters n
  name_ok := by decide
  value_ok := ⟨not_mem_letters (by decide) n, not_mem_letters (by decide) n⟩

def contentLengthZero : HeaderLine where
  name := ascii "Content-Length"
  value := ascii " 0"
  name_ok := by decide
  value_ok := by decide

/-- A response with two such lines. -/
def longHead (n m : Nat) : ResponseHead := okHead [contentLengthZero, longLine n, longLine m]

/-- A line that three reads bring without its line feed, and a read that fills
the buffer with the line feed and a part of the next line: the reader meets
its limit on the next line. -/
theorem headOf_full (head : ResponseHead) (line : TextLine) (reads : List Bytes)
    {long : TextLine} {r₁ r₂ r₃ next : Bytes} (hlong : r₁ ++ (r₂ ++ r₃) = rawLine long.val)
    (hnext : 10 ∉ next)
    (hroom : (crlf head.statusLine ++ crlf line.val).length < HTTP11_MAX_HEADER_SECTION)
    (hroom' : r₁.length + (r₂.length + r₃.length) < HTTP11_MAX_HEADER_SECTION)
    (hfull : HTTP11_MAX_HEADER_SECTION ≤ r₁.length + (r₂.length + r₃.length) + (next.length + 1)) :
    headOf ⟨0, [], (crlf head.statusLine ++ crlf line.val) :: r₁ :: r₂ :: r₃ :: (10 :: next) ::
      reads⟩ = .failed .tooLong := by
  have hstatus := head.statusLine_ok
  have hline := line.property
  have hlf : (10 : UInt8) ∉ r₁ ++ (r₂ ++ r₃) := by
    rw [hlong, rawLine, List.mem_append, List.mem_singleton]
    rintro (h | h)
    · exact long.property.2.1 h
    · cases h
  simp only [List.mem_append, not_or] at hlf
  obtain ⟨h₁, h₂, h₃⟩ := hlf
  obtain ⟨held, hheld⟩ : ∃ n, n = (crlf head.statusLine ++ crlf line.val).length := ⟨_, rfl⟩
  rw [← hheld] at hroom
  have hnone : cut 10 ([] : Bytes) = none := rfl
  have hfirst : nextLine ⟨0, [], (crlf head.statusLine ++ crlf line.val) :: r₁ :: r₂ :: r₃ ::
      (10 :: next) :: reads⟩ = .line (rawLine head.statusLine)
        ⟨held, crlf line.val, r₁ :: r₂ :: r₃ :: (10 :: next) :: reads⟩ := by
    show lineFrom _ _ 0 [] _ = _
    rw [lineFrom_cons hnone (by decide), List.nil_append, lineFrom_of_cut (cut_crlf hstatus.1 _),
      List.length_nil, Nat.zero_add, hheld]
  have hsecond : nextLine ⟨held, crlf line.val, r₁ :: r₂ :: r₃ :: (10 :: next) :: reads⟩ =
      .line (rawLine line.val) ⟨held, [], r₁ :: r₂ :: r₃ :: (10 :: next) :: reads⟩ := by
    have hcut := cut_crlf hline.2.1 []
    rw [List.append_nil] at hcut
    exact lineFrom_of_cut hcut _ _ _
  have hthird : nextLine ⟨held, [], r₁ :: r₂ :: r₃ :: (10 :: next) :: reads⟩ =
      .line (rawLine long.val)
        ⟨r₁.length + (r₂.length + r₃.length) + (next.length + 1), next, reads⟩ := by
    have hcut : cut 10 (r₁ ++ (r₂ ++ r₃) ++ 10 :: next) = some (rawLine long.val, next) := by
      rw [hlong]
      refine cut_append (fun h => ?_) next
      rw [← hlong] at h
      simp only [List.mem_append, h₁, h₂, h₃, or_self] at h
    show lineFrom _ _ held [] _ = _
    rw [lineFrom_cons hnone hroom, List.nil_append, List.length_nil, Nat.zero_add,
      lineFrom_cons (cut_eq_none_iff.mpr h₁) (by omega),
      lineFrom_cons (cut_eq_none_iff.mpr (by simp [h₁, h₂])) (by omega), List.append_assoc,
      lineFrom_cons (cut_eq_none_iff.mpr (by simp [h₁, h₂, h₃]))
        (by rw [List.length_append]; omega),
      lineFrom_of_cut hcut, List.length_append, List.length_append, List.length_cons]
  have hfourth : nextLine ⟨r₁.length + (r₂.length + r₃.length) + (next.length + 1), next, reads⟩ =
      .tooLong :=
    lineFrom_of_full (cut_eq_none_iff.mpr hnext) hfull _
  rw [headOf, hfirst]
  simp only [lineText_rawLine hstatus.2, statusCodeOf_statusLine]
  rw [sectionOf_line hsecond, lineText_rawLine hline.2.2, if_neg hline.1,
    sectionOf_line hthird, lineText_rawLine long.property.2.2, if_neg long.property.1,
    sectionOf_tooLong hfourth]

theorem longHead_ok (n m : Nat) :
    (longHead n m).lines.length ≤ 63 ∧ (longHead n m).status = 200 ∧
      (Body.length []).FramedBy (longHead n m).fields ∧
      detectContentEncoding (longHead n m).fields = .identity :=
  ⟨by simp [longHead, okHead], rfl, ⟨rfl, ascii "0", rfl, by decide,
    List.all_iff_forall_prop.mp (by decide), rfl⟩, rfl⟩

theorem longHead_text {n m k : Nat} (hn : n + 2 < k) (hm : m + 2 < k) (hk : 17 < k) :
    ∀ line ∈ (longHead n m).lines, line.text.length < k := by
  have hlines : (longHead n m).lines = [contentLengthZero, longLine n, longLine m] := rfl
  have hlength : contentLengthZero.text.length = 17 := by decide
  intro line hline
  rw [hlines] at hline
  simp only [List.mem_cons, List.not_mem_nil, or_false] at hline
  rcases hline with rfl | rfl | rfl
  · omega
  · simp only [HeaderLine.text, longLine, List.length_append, List.length_cons, List.length_nil,
      letters_length]
    omega
  · simp only [HeaderLine.text, longLine, List.length_append, List.length_cons, List.length_nil,
      letters_length]
    omega

theorem longHead_wire (n m : Nat) :
    (longHead n m).wire =
      crlf (longHead n m).statusLine ++ crlf contentLengthZero.text ++
        (97 :: 58 :: letters n ++ [13, 10] ++ (97 :: 58 :: letters m ++ [13, 10, 13, 10])) := by
  have hlines : (longHead n m).lines = [contentLengthZero, longLine n, longLine m] := rfl
  rw [ResponseHead.wire, hlines]
  simp only [sectionWire, List.map_cons, List.map_nil, List.flatten_cons, List.flatten_nil,
    HeaderLine.textLine, HeaderLine.text, longLine, crlf, List.append_assoc, List.cons_append,
    List.nil_append, List.append_nil]

/-- The first two lines, three reads that hold the long line and its carriage
return, its line feed with a part of the next line, the rest. -/
def longReads (n₁ n₂ n₃ m : Nat) (h : n₁ + 2 ≤ HTTP11_READ_CHUNK ∧ 0 < n₂ ∧
    n₂ ≤ HTTP11_READ_CHUNK ∧ n₃ + 1 ≤ HTTP11_READ_CHUNK ∧ m + 3 ≤ HTTP11_READ_CHUNK) :
    List Read :=
  [readOf (crlf (longHead (n₁ + (n₂ + n₃)) m).statusLine ++ crlf contentLengthZero.text)
      (show 0 < 36 ∧ 36 ≤ HTTP11_READ_CHUNK by decide),
    readOf (97 :: 58 :: letters n₁) (by simp [letters_length]; omega),
    readOf (letters n₂) (by rw [letters_length]; omega),
    readOf (letters n₃ ++ [13]) (by simp [letters_length]; omega),
    readOf (10 :: 97 :: 58 :: letters m) (by simp [letters_length]; omega),
    readOf [13, 10, 13, 10] (by decide)]

theorem longReads_bytes (n₁ n₂ n₃ m : Nat) (h) (ending : Ending) :
    Transport.bytes ⟨longReads n₁ n₂ n₃ m h, ending⟩ = (longHead (n₁ + (n₂ + n₃)) m).wire := by
  rw [longHead_wire, letters_add, letters_add]
  simp only [Transport.bytes, Transport.parts, longReads, readOf, List.map_cons, List.map_nil,
    List.flatten_cons, List.flatten_nil, List.append_assoc, List.cons_append, List.nil_append,
    List.append_nil]

theorem exchangeOf_longReads {n₁ n₂ n₃ m : Nat} (h) (ending : Ending)
    (hroom : n₁ + 2 + (n₂ + (n₃ + 1)) < HTTP11_MAX_HEADER_SECTION)
    (hfull : HTTP11_MAX_HEADER_SECTION ≤ n₁ + 2 + (n₂ + (n₃ + 1)) + (m + 3)) :
    exchangeOf (Transport.parts ⟨longReads n₁ n₂ n₃ m h, ending⟩) = .headFailed .tooLong := by
  have hlong : 97 :: 58 :: letters n₁ ++ (letters n₂ ++ (letters n₃ ++ [13])) =
      rawLine (longLine (n₁ + (n₂ + n₃))).textLine.val := by
    simp only [HeaderLine.textLine, HeaderLine.text, longLine, rawLine, letters_add,
      List.append_assoc, List.cons_append, List.nil_append]
  have hnext : (10 : UInt8) ∉ 97 :: 58 :: letters m := by
    simp [not_mem_letters (show (10 : UInt8) ≠ 97 by decide)]
  have hfailed := headOf_full (longHead (n₁ + (n₂ + n₃)) m) contentLengthZero.textLine
    [[13, 10, 13, 10]] hlong hnext
    (show 36 < HTTP11_MAX_HEADER_SECTION by decide)
    (by simpa [letters_length] using hroom) (by simpa [letters_length] using hfull)
  rw [exchangeOf]
  rw [show Transport.parts ⟨longReads n₁ n₂ n₃ m h, ending⟩ =
    (crlf (longHead (n₁ + (n₂ + n₃)) m).statusLine ++ crlf contentLengthZero.textLine.val) ::
      (97 :: 58 :: letters n₁) :: letters n₂ :: (letters n₃ ++ [13]) ::
      (10 :: 97 :: 58 :: letters m) :: [[13, 10, 13, 10]] from rfl, hfailed]

/-- A header line of 48 KiB less one byte, and a response that is not read:
the line feed comes in a read of 16 KiB that holds only a part of the next
line. -/
theorem receiveHttp11Response_long_line :
    (longHead 49149 16381).lines.length ≤ 63 ∧
      (∀ line ∈ (longHead 49149 16381).lines, line.text.length < 48 * 1024) ∧
      (longHead 49149 16381).status = 200 ∧
      (Body.length []).FramedBy (longHead 49149 16381).fields ∧
      detectContentEncoding (longHead 49149 16381).fields = .identity ∧
      Fresh collector ∧ collector.collecting = true ∧
      Transport.bytes ⟨longReads 16382 16384 16383 16381 (by decide), .closed⟩ =
        (longHead 49149 16381).wire ++ ((Body.length []).wire ++ []) ∧
      (receiveHttp11Response noDecoders getBasket collector
        ⟨longReads 16382 16384 16383 16381 (by decide), .closed⟩).2.1.error ≠ none := by
  obtain ⟨hlines, hstatus, hframed, hidentity⟩ := longHead_ok 49149 16381
  have hbytes := longReads_bytes 16382 16384 16383 16381 (by decide) .closed
  have hexchange := exchangeOf_longReads (by decide) .closed
    (show 16382 + 2 + (16384 + (16383 + 1)) < HTTP11_MAX_HEADER_SECTION by decide)
    (show HTTP11_MAX_HEADER_SECTION ≤ 16382 + 2 + (16384 + (16383 + 1)) + (16381 + 3) by decide)
  refine ⟨hlines, longHead_text (by decide) (by decide) (by decide), hstatus, hframed, hidentity,
    newStream_fresh 1 0 none, rfl, ?_,
    (receiveHttp11Response_headFailed noDecoders getBasket collector hexchange).1⟩
  rw [hbytes, Body.wire, List.append_nil, List.append_nil]

/-! ## Failures -/

/-- A response with a body fails, and its connection is not used again,
exactly when the reader meets its limit, the funnel stops the response, or
the bytes behind the head do not hold a body. -/
theorem receiveHttp11Response_failure (lib : DecoderLib) (basket : Basket) {stream : Stream}
    {transport : Transport} {head : ResponseHead} {rest : Bytes} (hfresh : Fresh stream)
    (hstatus : isBodylessStatus head.status = false)
    (hbytes : transport.bytes = head.wire ++ rest) :
    ((receiveHttp11Response lib basket stream transport).2.1.error ≠ none ∧
        (receiveHttp11Response lib basket stream transport).1.goingAway = true) ↔
      (exchangeOf transport.parts).limitReached ∨
        (exchangeOf transport.parts).stopped lib stream ∨
        bodyFails transport.ending (scanBody (framingOf head.stored) rest).result := by
  rcases exchangeOf_body hbytes hstatus with hlong | ⟨u, hread, hall, hexchange⟩
  · obtain ⟨herror, haway, -⟩ := receiveHttp11Response_headFailed lib basket stream hlong
    rw [hlong]
    exact ⟨fun _ => Or.inl trivial, fun _ => ⟨herror, haway⟩⟩
  · have hiff := receiveHttp11Response_fails_iff lib basket hfresh hread hstatus
    simp only [storedHeaders_texts, hall] at hiff
    rw [hiff, hexchange]
    have hlimit : (bodyOf (framingOf head.stored) u).2 = .tooLong ↔
        (Exchange.body head.stored (bodyOf (framingOf head.stored) u).1
          (bodyOf (framingOf head.stored) u).2).limitReached := by
      cases (bodyOf (framingOf head.stored) u).2 <;> simp [Exchange.limitReached]
    rw [hlimit]
    rfl

/-- A response that stops inside its body, at whatever byte, is a failure
exactly when the connection does not end in order, apart from the limit of
the reader, a funnel that stops the response, and a length among the headers
that are stored while the transfer encoding is not among them. -/
theorem receiveHttp11Response_truncated_iff (lib : DecoderLib) (basket : Basket) (stream : Stream)
    (transport : Transport) (head : ResponseHead) (body : Body) (sent missing : Bytes)
    (hfresh : Fresh stream)
    (hstatus : 200 ≤ head.status ∧ head.status ≠ 204 ∧ head.status ≠ 304)
    (hframed : body.FramedBy head.fields) (hbody : sent ++ missing = body.wire)
    (hmissing : missing ≠ [])
    (hbytes : transport.bytes = head.wire ++ sent) (hsize : transport.bytes.length ≤ LLONG_MAX) :
    ((receiveHttp11Response lib basket stream transport).2.1.error ≠ none ∧
        (receiveHttp11Response lib basket stream transport).1.goingAway = true) ↔
      (exchangeOf transport.parts).limitReached ∨
        (exchangeOf transport.parts).stopped lib stream ∨
        match framingOf head.stored with
        | .length bodyLen =>
          bodyLen < 0 ∨ ((sent.length : Int) < bodyLen ∧ transport.ending ≠ .closed)
        | _ => transport.ending ≠ .closed := by
  have hshort : sent.length ≤ LLONG_MAX := by
    rw [hbytes, List.length_append] at hsize
    omega
  rw [receiveHttp11Response_failure lib basket hfresh (isBodylessStatus_of_final hstatus) hbytes]
  exact or_congr_right (or_congr_right (bodyFails_cut hframed hmissing hbody hshort _))

theorem hello_framed :
    (Body.length (ascii "hello")).FramedBy (okHead [contentLengthFive]).fields :=
  ⟨by decide, ascii "5", by decide, by decide, List.all_iff_forall_prop.mp (by decide), by decide⟩

/-- Five bytes were announced and two came. -/
def shortWire : Bytes := (okHead [contentLengthFive]).wire ++ ascii "he"

theorem receiveHttp11Response_truncated_iff_failed :
    let transport := twoReads shortWire 20 .failed (by decide) (by decide)
    let result := receiveHttp11Response noDecoders getBasket collector transport
    (result.2.1.error ≠ none ∧ result.1.goingAway = true) ↔
      (exchangeOf transport.parts).limitReached ∨
        (exchangeOf transport.parts).stopped noDecoders collector ∨
        match framingOf (okHead [contentLengthFive]).stored with
        | .length bodyLen =>
          bodyLen < 0 ∨ (((ascii "he").length : Int) < bodyLen ∧ transport.ending ≠ .closed)
        | _ => transport.ending ≠ .closed :=
  receiveHttp11Response_truncated_iff noDecoders getBasket collector
    (twoReads shortWire 20 .failed (by decide) (by decide)) (okHead [contentLengthFive])
    (.length (ascii "hello")) (ascii "he") (ascii "llo") (newStream_fresh 1 0 none) (by decide)
    hello_framed (by decide) (by decide) (by decide) (by decide)

/-- The peer closes the connection in order: two of five bytes are a success
on a connection that is used again. -/
theorem receiveHttp11Response_truncated_success :
    let transport := twoReads shortWire 20 .closed (by decide) (by decide)
    let result := receiveHttp11Response noDecoders getBasket collector transport
    transport.bytes = (okHead [contentLengthFive]).wire ++ ascii "he" ∧
      ascii "he" ++ ascii "llo" = (Body.length (ascii "hello")).wire ∧
      (Body.length (ascii "hello")).FramedBy (okHead [contentLengthFive]).fields ∧
      result.2.1.error = none ∧ result.2.1.combinedPayload = ascii "he" ∧
      result.1.goingAway = false := by
  refine ⟨by decide, by decide, hello_framed, ?_, ?_, ?_⟩
  · decide +kernel
  · decide +kernel
  · decide +kernel

/-! ## Bodies up to the end of the connection -/

/-- What the consumer gets of a body that ends with the connection. -/
theorem receiveHttp11Response_untilClose (lib : DecoderLib) (basket : Basket) {stream : Stream}
    {transport : Transport} {head : ResponseHead} {data : Bytes} (hfresh : Fresh stream)
    (hpasses : Passes head.stored stream) (hstatus : isBodylessStatus head.status = false)
    (hframed : (Body.untilClose data).FramedBy head.stored) (hclosed : transport.ending = .closed)
    (hbytes : transport.bytes = head.wire ++ data)
    (hlimit : ¬(exchangeOf transport.parts).limitReached) :
    let result := receiveHttp11Response lib basket stream transport
    result.2.1.error = none ∧ result.2.1.headers = some head.stored ∧
      result.1.goingAway = true ∧
      (result.2.1.received = stream.received ++ data ↔
        ∃ k, (transport.parts.take k).flatten = head.wire) := by
  intro result
  rcases exchangeOf_body hbytes hstatus with hlong | ⟨u, hread, hall, hexchange⟩
  · rw [hlong] at hlimit
    exact absurd trivial hlimit
  · have hframing := framingOf_untilClose hframed
    rw [hframing] at hexchange
    have hreport := receiveHttp11Response_body lib basket hfresh hexchange
    have herror : result.2.1.error = none := by
      rw [hreport.error]
      refine ⟨not_funnelStops lib hfresh hpasses _, Or.inr ?_⟩
      rw [hclosed]
      rfl
    obtain ⟨-, htakes, hreceived, -⟩ := withHeaders_passes lib hfresh hpasses
    have hfed := (appendPieces_takesBody lib (bodyOf .untilClose u).1 _ htakes).2.1
    have hfollows := headOf_follows hbytes hread hall
    refine ⟨herror, hreport.stored, hreport.goingAway (Or.inr hframing), ?_⟩
    rw [(hreport.received herror).1, hfed, hreceived, ← hfollows.head_eq_nil_iff, ← hall]
    -- the part of the body that came with the head is not looked at
    show stream.received ++ u.reads.flatten = stream.received ++ (u.head ++ u.reads.flatten) ↔ _
    rw [List.append_cancel_left_eq]
    constructor
    · intro h
      have hlength := congrArg List.length h
      rw [List.length_append] at hlength
      exact List.eq_nil_of_length_eq_zero (by omega)
    · intro h
      rw [h, List.nil_append]

/-- A body that ends with the connection is delivered whole exactly when it is
empty, or a read ends with the header section and no line reaches the limit
of the reader. -/
theorem receiveHttp11Response_untilClose_iff (lib : DecoderLib) (basket : Basket)
    (stream : Stream) (transport : Transport) (head : ResponseHead) (data : Bytes)
    (hfresh : Fresh stream) (hpasses : Passes head.stored stream)
    (hstatus : isBodylessStatus head.status = false)
    (hframed : (Body.untilClose data).FramedBy head.stored) (hclosed : transport.ending = .closed)
    (hbytes : transport.bytes = head.wire ++ data) :
    (receiveHttp11Response lib basket stream transport).2.1.received = stream.received ++ data ↔
      data = [] ∨ (¬(exchangeOf transport.parts).limitReached ∧
        ∃ k, (transport.parts.take k).flatten = head.wire) := by
  by_cases hlimit : (exchangeOf transport.parts).limitReached
  · -- a body up to the end has no lines, so the limit is met in the head
    have hlong : exchangeOf transport.parts = .headFailed .tooLong := by
      rcases exchangeOf_body hbytes hstatus with hlong | ⟨u, -, -, hexchange⟩
      · exact hlong
      · rw [hexchange, framingOf_untilClose hframed] at hlimit
        exact absurd hlimit id
    obtain ⟨-, -, hreceived⟩ := receiveHttp11Response_headFailed lib basket stream hlong
    rw [hreceived]
    constructor
    · intro h
      exact Or.inl (List.append_cancel_left (h.symm.trans (List.append_nil _).symm))
    · rintro (h | h)
      · rw [h, List.append_nil]
      · exact absurd hlimit h.1
  · have hreported := (receiveHttp11Response_untilClose lib basket hfresh hpasses hstatus hframed
      hclosed hbytes hlimit).2.2.2
    rw [hreported]
    constructor
    · intro h
      exact Or.inr ⟨hlimit, h⟩
    · rintro (h | h)
      · refine ⟨transport.parts.length, ?_⟩
        rw [List.take_length]
        rw [h, List.append_nil] at hbytes
        exact hbytes
      · exact h.2

def closeWire : Bytes := (okHead []).wire ++ ascii "hello"

/-- The header section and the body in a read each. -/
theorem receiveHttp11Response_untilClose_iff_hello :
    let transport := twoReads closeWire 19 .closed (by decide) (by decide)
    let result := receiveHttp11Response noDecoders getBasket collector transport
    result.2.1.received = collector.received ++ ascii "hello" ↔
      ascii "hello" = [] ∨ (¬(exchangeOf transport.parts).limitReached ∧
        ∃ k, (transport.parts.take k).flatten = (okHead []).wire) :=
  receiveHttp11Response_untilClose_iff noDecoders getBasket collector
    (twoReads closeWire 19 .closed (by decide) (by decide)) (okHead []) (ascii "hello")
    (newStream_fresh 1 0 none) (passes_of_collecting rfl (by decide)) (by decide)
    ⟨by decide, by decide⟩ rfl (by decide)

/-- Two bytes of the body come with the header section, and are lost. -/
theorem receiveHttp11Response_untilClose_lost :
    let transport := twoReads closeWire 21 .closed (by decide) (by decide)
    let result := receiveHttp11Response noDecoders getBasket collector transport
    transport.bytes = (okHead []).wire ++ ascii "hello" ∧
      (Body.untilClose (ascii "hello")).FramedBy (okHead []).stored ∧
      result.2.1.error = none ∧ result.2.1.received = ascii "llo" := by
  refine ⟨by decide, ⟨by decide, by decide⟩, ?_, ?_⟩
  · decide +kernel
  · decide +kernel

/-! ## Interim responses -/

/-- A response that is not an interim one. -/
structure FinalResponse where
  head : ResponseHead
  body : Option Body
  final : 200 ≤ head.status
  framed : match body with
    | none => isBodylessStatus head.status = true
    | some body => isBodylessStatus head.status = false ∧ body.FramedBy head.stored

def FinalResponse.wire (response : FinalResponse) : Bytes :=
  response.head.wire ++ (response.body.map Body.wire).getD []

def FinalResponse.data (response : FinalResponse) : Bytes :=
  (response.body.map Body.data).getD []

def FinalResponse.endsWithConnection (response : FinalResponse) : Prop :=
  ∃ data, response.body = some (.untilClose data)

/-- The client reports the response, and does not leave a connection to be
used again with anything but `rest` on it. -/
structure Reports (stream : Stream) (response : FinalResponse) (rest : Bytes)
    (result : Session × Stream × Http11Reader) : Prop where
  headers : result.2.1.headers = some response.head.stored
  body : result.2.1.received = stream.received ++ response.data
  error : result.2.1.error = none
  reusable : result.1.goingAway = true ∨ result.2.2.unread.all = rest

theorem exchangeOf_noBody {head : ResponseHead} {transport : Transport} {rest : Bytes}
    (hbytes : transport.bytes = head.wire ++ rest)
    (hstatus : isBodylessStatus head.status = true) :
    exchangeOf transport.parts = .headFailed .tooLong ∨
      ∃ u, u.all = rest ∧ exchangeOf transport.parts = .noBody head.stored u := by
  rcases headOf_wire (u := ⟨0, [], transport.parts⟩) hbytes with hlong | ⟨u, hread, hrest⟩
  · left
    rw [exchangeOf, hlong]
  · right
    have hbody : isBodylessStatus (atoi head.code) = true := hstatus
    refine ⟨u, hrest, ?_⟩
    rw [exchangeOf, hread]
    simp only [if_pos hbody, storedHeaders_texts]

/-- A response without a body is reported, unless the reader meets its
limit. -/
theorem receiveHttp11Response_bodyless (lib : DecoderLib) (basket : Basket) {stream : Stream}
    {transport : Transport} {head : ResponseHead} {rest : Bytes} (hfresh : Fresh stream)
    (hpasses : Passes head.stored stream) (hstatus : isBodylessStatus head.status = true)
    (hbytes : transport.bytes = head.wire ++ rest)
    (hlimit : ¬(exchangeOf transport.parts).limitReached) :
    let result := receiveHttp11Response lib basket stream transport
    result.2.1.headers = some head.stored ∧ result.2.1.received = stream.received ∧
      result.2.1.error = none ∧ result.2.2.unread.all = rest := by
  intro result
  rcases exchangeOf_noBody hbytes hstatus with hlong | ⟨u, hall, hexchange⟩
  · rw [hlong] at hlimit
    exact absurd trivial hlimit
  · obtain ⟨hheaders, herror, hreceived, hunread⟩ :=
      receiveHttp11Response_noBody lib basket hfresh hexchange
    obtain ⟨hnone, -, hsame, -⟩ := withHeaders_passes lib hfresh hpasses
    exact ⟨hheaders, hreceived.trans hsame, herror.trans hnone, by rw [hunread]; exact hall⟩

theorem isBodylessStatus_of_interim {status : Int} (h : 100 ≤ status ∧ status < 200) :
    isBodylessStatus status = true := by
  rw [isBodylessStatus, decide_eq_true_eq]
  exact Or.inr (Or.inr h)

/-- The limit of the reader is an error. -/
theorem error_of_limitReached (lib : DecoderLib) (basket : Basket) {stream : Stream}
    {transport : Transport} (hfresh : Fresh stream)
    (hlimit : (exchangeOf transport.parts).limitReached) :
    (receiveHttp11Response lib basket stream transport).2.1.error ≠ none := by
  cases hexchange : exchangeOf transport.parts with
  | headFailed why => exact (receiveHttp11Response_headFailed lib basket stream hexchange).1
  | noBody headers rest => rw [hexchange] at hlimit; exact absurd hlimit id
  | body headers pieces outcome =>
    rw [hexchange] at hlimit
    cases outcome with
    | tooLong =>
      intro hnone
      have hok := ((receiveHttp11Response_body lib basket hfresh hexchange).error.mp hnone).2
      rcases hok with hok | hok <;> cases hok
    | done rest => exact absurd hlimit id
    | ended => exact absurd hlimit id
    | refused => exact absurd hlimit id

/-- An interim response is taken for the final one. -/
theorem not_reports_of_interim (lib : DecoderLib) (basket : Basket) (response : FinalResponse)
    (rest : Bytes) {stream : Stream} {transport : Transport} {interim : ResponseHead}
    {after : Bytes} (hfresh : Fresh stream)
    (hinterim : 100 ≤ interim.status ∧ interim.status < 200)
    (hbytes : transport.bytes = interim.wire ++ after) :
    ¬Reports stream response rest (receiveHttp11Response lib basket stream transport) := by
  intro hreports
  rcases exchangeOf_noBody hbytes (isBodylessStatus_of_interim hinterim) with
    hlong | ⟨u, -, hexchange⟩
  · exact (receiveHttp11Response_headFailed lib basket stream hlong).1 hreports.error
  · have hheaders := (receiveHttp11Response_noBody lib basket hfresh hexchange).1
    rw [hreports.headers, Option.some.injEq] at hheaders
    have hcode : response.head.code = interim.code := by
      have hfirst := congrArg List.head? hheaders
      simpa [ResponseHead.stored, ResponseHead.fields, RESPONSE_HEADERS_MAX_SIZE] using hfirst
    have hstatus : response.head.status = interim.status := congrArg atoi hcode
    have hfinal := response.final
    omega

/-- A final response alone on the connection is reported, unless the reader
meets its limit or loses a part of a body that ends with the connection. -/
theorem receiveHttp11Response_final (lib : DecoderLib) (basket : Basket) {stream : Stream}
    {transport : Transport} {response : FinalResponse} {rest : Bytes} (hfresh : Fresh stream)
    (hpasses : Passes response.head.stored stream) (hsize : response.data.length ≤ LLONG_MAX)
    (hends : response.endsWithConnection → rest = [] ∧ transport.ending = .closed)
    (hbytes : transport.bytes = response.wire ++ rest)
    (hlimit : ¬(exchangeOf transport.parts).limitReached) :
    Reports stream response rest (receiveHttp11Response lib basket stream transport) ↔
      (response.endsWithConnection →
        ∃ k, (transport.parts.take k).flatten = response.head.wire) := by
  obtain ⟨head, body, hfinal, hframed⟩ := response
  cases body with
  | none =>
    have hall : transport.bytes = head.wire ++ rest := by
      simpa [FinalResponse.wire] using hbytes
    obtain ⟨hheaders, hreceived, herror, hrest⟩ :=
      receiveHttp11Response_bodyless lib basket hfresh hpasses hframed hall hlimit
    refine ⟨fun _ => ?_, fun _ => ⟨hheaders, ?_, herror, Or.inr hrest⟩⟩
    · rintro ⟨data, hdata⟩
      cases hdata
    · rw [hreceived]
      exact (List.append_nil _).symm
  | some body =>
    have hall : transport.bytes = head.wire ++ (body.wire ++ rest) := by
      rw [hbytes, FinalResponse.wire, List.append_assoc]
      rfl
    by_cases hclose : body.endsWithConnection
    · cases body with
      | chunked chunks last trailers => exact absurd hclose id
      | length data => exact absurd hclose id
      | untilClose data =>
        obtain ⟨rfl, hclosed⟩ := hends ⟨data, rfl⟩
        rw [List.append_nil] at hall
        obtain ⟨herror, hheaders, haway, hreceived⟩ := receiveHttp11Response_untilClose lib basket
          hfresh hpasses hframed.1 hframed.2 hclosed hall hlimit
        constructor
        · intro hreports _
          exact hreceived.mp hreports.body
        · intro hread
          exact ⟨hheaders, hreceived.mpr (hread ⟨data, rfl⟩), herror, Or.inl haway⟩
    · obtain ⟨herror, hheaders, hreceived, -, hrest⟩ := receiveHttp11Response_whole lib basket
        hfresh hpasses hframed.1 hframed.2 hclose hsize hall hlimit
      refine ⟨fun _ => ?_, fun _ => ⟨hheaders, hreceived, herror, Or.inr hrest⟩⟩
      rintro ⟨data, hdata⟩
      cases hdata
      exact absurd trivial hclose

/-- The final response is reported exactly when no interim response stands
before it, the reader does not meet its limit, and no part of a body that
ends with the connection comes in a read with the header section. -/
theorem receiveHttp11Response_interim_iff (lib : DecoderLib) (basket : Basket) (stream : Stream)
    (transport : Transport) (interims : List ResponseHead) (response : FinalResponse)
    (rest : Bytes) (hfresh : Fresh stream) (hpasses : Passes response.head.stored stream)
    (hinterims : ∀ interim ∈ interims, 100 ≤ interim.status ∧ interim.status < 200)
    (hsize : response.data.length ≤ LLONG_MAX)
    (hends : response.endsWithConnection → rest = [] ∧ transport.ending = .closed)
    (hbytes : transport.bytes =
      (interims.map ResponseHead.wire).flatten ++ (response.wire ++ rest)) :
    Reports stream response rest (receiveHttp11Response lib basket stream transport) ↔
      interims = [] ∧ ¬(exchangeOf transport.parts).limitReached ∧
        (response.endsWithConnection →
          ∃ k, (transport.parts.take k).flatten = response.head.wire) := by
  cases interims with
  | cons interim interims =>
    rw [List.map_cons, List.flatten_cons, List.append_assoc] at hbytes
    have hnot := not_reports_of_interim lib basket response rest hfresh
      (hinterims interim List.mem_cons_self) hbytes
    exact ⟨fun h => absurd h hnot, fun h => by cases h.1⟩
  | nil =>
    rw [List.map_nil, List.flatten_nil, List.nil_append] at hbytes
    by_cases hlimit : (exchangeOf transport.parts).limitReached
    · exact ⟨fun h => absurd h.error (error_of_limitReached lib basket hfresh hlimit),
        fun h => absurd hlimit h.2.1⟩
    · rw [receiveHttp11Response_final lib basket hfresh hpasses hsize hends hbytes hlimit]
      exact ⟨fun h => ⟨rfl, hlimit, h⟩, fun h => h.2.2⟩

/-- `HTTP/1.1 103` without header lines. -/
def earlyHints : ResponseHead where
  minor := ascii "1"
  code := ascii "103"
  reason := []
  lines := []
  minor_ok := List.all_iff_forall_prop.mp (by decide)
  code_ok := ⟨by decide, List.all_iff_forall_prop.mp (by decide)⟩
  reason_ok := by decide

def helloResponse : FinalResponse where
  head := okHead [contentLengthFive]
  body := some (.length (ascii "hello"))
  final := by decide
  framed := ⟨by decide, hello_framed⟩

theorem receiveHttp11Response_interim_iff_hello :
    let transport := twoReads helloResponse.wire 20 .closed (by decide) (by decide)
    Reports collector helloResponse []
        (receiveHttp11Response noDecoders getBasket collector transport) ↔
      ([] : List ResponseHead) = [] ∧ ¬(exchangeOf transport.parts).limitReached ∧
        (helloResponse.endsWithConnection →
          ∃ k, (transport.parts.take k).flatten = helloResponse.head.wire) :=
  receiveHttp11Response_interim_iff noDecoders getBasket collector
    (twoReads helloResponse.wire 20 .closed (by decide) (by decide)) [] helloResponse []
    (newStream_fresh 1 0 none) (passes_of_collecting rfl (by decide))
    (fun interim h => by cases h) (by decide)
    (fun h => by obtain ⟨data, hdata⟩ := h; cases hdata) (by decide)

/-- The interim response is reported, and the connection can be used again
with the final response on it. -/
theorem receiveHttp11Response_interim_reported :
    let transport := twoReads (earlyHints.wire ++ helloResponse.wire) 16 .closed (by decide)
      (by decide)
    let result := receiveHttp11Response noDecoders getBasket collector transport
    transport.bytes = ([earlyHints].map ResponseHead.wire).flatten ++ (helloResponse.wire ++ []) ∧
      100 ≤ earlyHints.status ∧ earlyHints.status < 200 ∧
      result.2.1.error = none ∧ result.2.1.headers = some [⟨ascii ":status", ascii "103"⟩] ∧
      result.1.goingAway = false ∧ result.2.2.unread.all = helloResponse.wire := by
  refine ⟨by decide, by decide, by decide, ?_, ?_, ?_, ?_⟩
  · decide +kernel
  · decide +kernel
  · decide +kernel
  · decide +kernel

/-! ## Malformed framing -/

/-- Which bytes behind a head are a failure, malformed or not.  A chunked body
is what `strtol` makes of it: the client reads on from a number that is no
size line, and over whatever stands behind the data of a chunk, and fails at
a negative size. -/
theorem receiveHttp11Response_framing_iff (lib : DecoderLib) (basket : Basket) (stream : Stream)
    (transport : Transport) (head : ResponseHead) (rest : Bytes) (hfresh : Fresh stream)
    (hstatus : 200 ≤ head.status ∧ head.status ≠ 204 ∧ head.status ≠ 304)
    (hbytes : transport.bytes = head.wire ++ rest) :
    ((receiveHttp11Response lib basket stream transport).2.1.error ≠ none ∧
        (receiveHttp11Response lib basket stream transport).1.goingAway = true) ↔
      (exchangeOf transport.parts).limitReached ∨
        (exchangeOf transport.parts).stopped lib stream ∨
        match framingOf head.stored with
        | .chunked => NegativeSize rest ∨ (¬LaxBody rest ∧ transport.ending ≠ .closed)
        | .length bodyLen =>
          bodyLen < 0 ∨ ((rest.length : Int) < bodyLen ∧ transport.ending ≠ .closed)
        | .untilClose => transport.ending ≠ .closed := by
  rw [receiveHttp11Response_failure lib basket hfresh (isBodylessStatus_of_final hstatus) hbytes]
  have hfails : bodyFails transport.ending (scanBody (framingOf head.stored) rest).result ↔
      match framingOf head.stored with
      | .chunked => NegativeSize rest ∨ (¬LaxBody rest ∧ transport.ending ≠ .closed)
      | .length bodyLen =>
        bodyLen < 0 ∨ ((rest.length : Int) < bodyLen ∧ transport.ending ≠ .closed)
      | .untilClose => transport.ending ≠ .closed := by
    cases framingOf head.stored with
    | chunked =>
      show bodyFails _ (scanChunks rest).result ↔ _
      rw [← scanChunks_refused_iff, ← scanChunks_complete_iff]
      cases (scanChunks rest).result <;> simp [bodyFails]
    | length bodyLen => exact bodyFails_length transport.ending bodyLen rest
    | untilClose => rfl
  rw [hfails]

/-- A size line with a sign. -/
def negativeWire : Bytes := (okHead [transferEncodingChunked]).wire ++ crlf (ascii "-5")

theorem receiveHttp11Response_framing_iff_negative :
    let transport := twoReads negativeWire 20 .closed (by decide) (by decide)
    let result := receiveHttp11Response noDecoders getBasket collector transport
    (result.2.1.error ≠ none ∧ result.1.goingAway = true) ↔
      (exchangeOf transport.parts).limitReached ∨
        (exchangeOf transport.parts).stopped noDecoders collector ∨
        match framingOf (okHead [transferEncodingChunked]).stored with
        | .chunked => NegativeSize (crlf (ascii "-5")) ∨
            (¬LaxBody (crlf (ascii "-5")) ∧ transport.ending ≠ .closed)
        | .length bodyLen =>
          bodyLen < 0 ∨ (((crlf (ascii "-5")).length : Int) < bodyLen ∧ transport.ending ≠ .closed)
        | .untilClose => transport.ending ≠ .closed :=
  receiveHttp11Response_framing_iff noDecoders getBasket collector
    (twoReads negativeWire 20 .closed (by decide) (by decide)) (okHead [transferEncodingChunked])
    (crlf (ascii "-5")) (newStream_fresh 1 0 none) (by decide) (by decide)

/-- A line without digits in the place of a size line, and an empty line. -/
def wordWire : Bytes := crlf (ascii "zz") ++ crlf []

/-- The word is taken for the last chunk: an empty body, and a connection that
is used again. -/
theorem receiveHttp11Response_malformed_success :
    let head := okHead [transferEncodingChunked]
    let transport := twoReads (head.wire ++ wordWire) 20 .closed (by decide) (by decide)
    let result := receiveHttp11Response noDecoders getBasket collector transport
    transport.bytes = head.wire ++ wordWire ∧ MalformedFraming head.fields wordWire ∧
      200 ≤ head.status ∧ result.2.1.error = none ∧ result.1.goingAway = false := by
  refine ⟨by decide, ?_, by decide, ?_, ?_⟩
  · rw [MalformedFraming, if_pos (by decide)]
    refine ⟨[], wordWire, rfl, Or.inl ⟨ascii "zz", crlf [], by decide, rfl, ?_⟩⟩
    -- a size line starts with a digit
    rintro ⟨line, -, htext⟩
    cases hdigits : line.digits with
    | nil => exact line.digits_ne hdigits
    | cons digit digits =>
      have hhex := line.digits_hex digit (by rw [hdigits]; exact List.mem_cons_self)
      rw [SizeLine.text, hdigits] at htext
      have hfirst : digit = 122 := (List.cons.inj htext).1
      rw [hfirst] at hhex
      exact absurd hhex (by decide)
  · decide +kernel
  · decide +kernel

end HttpRequestClient.Http11
