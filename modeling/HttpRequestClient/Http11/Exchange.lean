import HttpRequestClient.Http11.Scan

/-!
# One exchange

`exchangeOf` is what the reader makes of the parts of a connection: a head
that fails, a response without a body, or the pieces of a body and its
outcome.  `receiveHttp11Response_headFailed`, `receiveHttp11Response_noBody`
and `receiveHttp11Response_body` say what the client reports for each.

From these, `receiveHttp11Response_fails_iff` says when a response with a
body is reported as a failure, for every funnel and every transport.
-/

namespace HttpRequestClient.Http11

open Parts

/-! ## The head -/

/-- A head as the reader meets it. -/
inductive HeadOutcome where
  | read (statusCode : Bytes) (lines : List Bytes) (rest : Unread UInt8)
  | failed (why : Outcome)

def headOf (u : Unread UInt8) : HeadOutcome :=
  match nextLine u with
  | .line raw rest =>
    match statusCodeOf (lineText raw) with
    | none => .failed .refused
    | some statusCode =>
      match sectionOf rest with
      | (lines, .done rest) => .read statusCode lines rest
      | (_, why) => .failed why
  | .ended => .failed .ended
  | .tooLong => .failed .tooLong

/-- The headers that a stream stores. -/
def storedHeaders (statusCode : Bytes) (lines : List Bytes) : List ResponseHeader :=
  (⟨ascii ":status", statusCode⟩ :: lines.filterMap headerOfLine).take RESPONSE_HEADERS_MAX_SIZE

theorem addStreamHeader_store {stream : Stream} {headers : List ResponseHeader}
    (h : stream.headers = some (headers.take RESPONSE_HEADERS_MAX_SIZE)) (name value : Bytes) :
    addStreamHeader stream name value =
      { stream with
        headers := some ((headers ++ [(⟨name, value⟩ : ResponseHeader)]).take
          RESPONSE_HEADERS_MAX_SIZE) } := by
  have hnum : stream.numHeaders = min RESPONSE_HEADERS_MAX_SIZE headers.length := by
    rw [Stream.numHeaders, h, Option.getD_some, List.length_take]
  rw [addStreamHeader]
  split
  · rename_i hfull
    rw [List.take_append_of_le_length (by omega), ← h]
  · rename_i hroom
    have htake : headers.take RESPONSE_HEADERS_MAX_SIZE = headers :=
      List.take_of_length_le (by omega)
    rw [h, Option.map_some, htake, List.take_of_length_le (by simp; omega)]

theorem parseHeaderLines_store (lines : List Bytes) :
    ∀ (stream : Stream) (headers : List ResponseHeader),
      stream.headers = some (headers.take RESPONSE_HEADERS_MAX_SIZE) →
      lines.foldl parseHeaderLine stream =
        { stream with
          headers := some ((headers ++ lines.filterMap headerOfLine).take
            RESPONSE_HEADERS_MAX_SIZE) } := by
  induction lines with
  | nil =>
    intro stream headers h
    rw [List.foldl_nil, List.filterMap_nil, List.append_nil, ← h]
  | cons line lines ih =>
    intro stream headers h
    rw [List.foldl_cons, parseHeaderLine]
    cases hline : headerOfLine line with
    | none =>
      rw [List.filterMap_cons_none hline]
      exact ih stream headers h
    | some header =>
      simp only [List.filterMap_cons_some hline]
      rw [addStreamHeader_store h, ih _ (headers ++ [header]) rfl, List.append_assoc]
      rfl

theorem statusCodeOf_digits {line statusCode : Bytes} (h : statusCodeOf line = some statusCode) :
    statusCode.length = 3 ∧ ∀ c ∈ statusCode, isdigit c = true := by
  unfold statusCodeOf at h
  split at h
  · cases h
  · simp only at h
    split at h
    · cases h
    · rename_i hthree
      cases h
      exact ⟨Decidable.not_not.mp hthree, fun c hc => List.mem_takeWhile_imp hc⟩

/-- A status is not negative. -/
theorem atoi_nonneg {statusCode : Bytes} (hlength : statusCode.length = 3)
    (hdigits : ∀ c ∈ statusCode, isdigit c = true) : 0 ≤ atoi statusCode := by
  have hne : statusCode ≠ [] := fun h => by rw [h] at hlength; cases hlength
  rw [atoi, strtol, strtoll_digits (by decide) hne
    (fun c hc => isDigitOf_of_isdigit (hdigits c hc))]
  omega

/-- Behind a status line the answer is that of the header section. -/
theorem readResponseHead_section {ending : Ending} {u rest : Unread UInt8} {reader : Http11Reader}
    {raw statusCode : Bytes} (h : Shows ending u reader) (stream : Stream)
    (hnext : nextLine u = .line raw rest) (hstatus : statusCodeOf (lineText raw) = some statusCode) :
    ∃ reader', Shows ending rest reader' ∧
      let answer := readHeaderSection (addStreamHeader stream (ascii ":status") statusCode) reader'
      readResponseHead stream reader =
        if answer.1 ≠ 1 then
          (-1, { answer.2.1 with error := some (classifyHeadError answer.2.1 answer.2.2 1) },
            answer.2.2)
        else (atoi statusCode, answer.2.1, answer.2.2) := by
  obtain ⟨reader', hread, hrest⟩ := readerReadLine_line h hnext
  obtain ⟨hlength, hdigits⟩ := statusCodeOf_digits hstatus
  have hnonneg := atoi_nonneg hlength hdigits
  refine ⟨reader', hrest, ?_⟩
  rw [readResponseHead, hread]
  simp only [parseStatusLine, hstatus, ne_eq, not_true_eq_false, if_false,
    if_neg (show ¬ atoi statusCode < 0 by omega)]

theorem readResponseHead_read {ending : Ending} {u rest : Unread UInt8} {reader : Http11Reader}
    {stream : Stream} {statusCode : Bytes} {lines : List Bytes} (h : Shows ending u reader)
    (hheaders : stream.headers = some []) (hhead : headOf u = .read statusCode lines rest) :
    ∃ reader', readResponseHead stream reader =
        (atoi statusCode, { stream with headers := some (storedHeaders statusCode lines) },
          reader') ∧ Shows ending rest reader' := by
  unfold headOf at hhead
  cases hnext : nextLine u with
  | ended => simp only [hnext] at hhead; cases hhead
  | tooLong => simp only [hnext] at hhead; cases hhead
  | line raw rest' =>
    simp only [hnext] at hhead
    cases hstatus : statusCodeOf (lineText raw) with
    | none => simp only [hstatus] at hhead; cases hhead
    | some code =>
      simp only [hstatus] at hhead
      rcases hsection : sectionOf rest' with ⟨texts, outcome⟩
      cases outcome with
      | ended => simp only [hsection] at hhead; cases hhead
      | refused => simp only [hsection] at hhead; cases hhead
      | tooLong => simp only [hsection] at hhead; cases hhead
      | done rest'' =>
        simp only [hsection] at hhead
        cases hhead
        obtain ⟨reader', hrest, hread⟩ := readResponseHead_section h stream hnext hstatus
        obtain ⟨hrc, hstream, hshows⟩ := readHeaderSection_spec hrest
          (addStreamHeader stream (ascii ":status") statusCode)
        rw [hsection] at hrc hstream hshows
        have hempty : stream.headers =
            some (([] : List ResponseHeader).take RESPONSE_HEADERS_MAX_SIZE) := hheaders
        refine ⟨_, ?_, hshows _ rfl⟩
        rw [hread, if_neg (fun hne => hne hrc), hstream, addStreamHeader_store hempty,
          List.nil_append, parseHeaderLines_store lines _ [⟨ascii ":status", statusCode⟩] rfl]
        rfl

theorem addStreamHeader_received (stream : Stream) (name value : Bytes) :
    (addStreamHeader stream name value).received = stream.received := by
  unfold addStreamHeader
  split <;> rfl

theorem parseHeaderLines_received (lines : List Bytes) :
    ∀ stream : Stream, (lines.foldl parseHeaderLine stream).received = stream.received := by
  induction lines with
  | nil => exact fun stream => rfl
  | cons line lines ih =>
    intro stream
    rw [List.foldl_cons, ih, parseHeaderLine]
    split
    · rfl
    · exact addStreamHeader_received _ _ _

theorem readResponseHead_failed {ending : Ending} {u : Unread UInt8} {reader : Http11Reader}
    {why : Outcome} (h : Shows ending u reader) (stream : Stream)
    (hhead : headOf u = .failed why) :
    (readResponseHead stream reader).2.1.error ≠ none ∧
      (readResponseHead stream reader).2.1.received = stream.received := by
  unfold headOf at hhead
  cases hnext : nextLine u with
  | ended =>
    obtain ⟨text, reader', hread⟩ := readerReadLine_ended h hnext
    rw [readResponseHead, hread]
    simp only [if_pos ending.code_ne_one]
    exact ⟨fun hnone => (by cases hnone), rfl⟩
  | tooLong =>
    obtain ⟨text, reader', hread⟩ := readerReadLine_tooLong h hnext
    rw [readResponseHead, hread]
    exact ⟨fun hnone => (by cases hnone), rfl⟩
  | line raw rest' =>
    simp only [hnext] at hhead
    cases hstatus : statusCodeOf (lineText raw) with
    | none =>
      obtain ⟨reader', hread, -⟩ := readerReadLine_line h hnext
      rw [readResponseHead, hread]
      simp only [parseStatusLine, hstatus]
      exact ⟨fun hnone => (by cases hnone), rfl⟩
    | some code =>
      simp only [hstatus] at hhead
      obtain ⟨reader', hrest, hread⟩ := readResponseHead_section h stream hnext hstatus
      obtain ⟨hrc, hstream, -⟩ := readHeaderSection_spec hrest
        (addStreamHeader stream (ascii ":status") code)
      have hfail : (sectionOf rest').2.code ending ≠ 1 := by
        rcases hsection : sectionOf rest' with ⟨texts, outcome⟩
        rw [hsection] at hhead
        cases outcome with
        | done rest => cases hhead
        | ended => exact ending.code_ne_one
        | refused => exact (by decide : (-1 : Int) ≠ 1)
        | tooLong => exact (by decide : (-1 : Int) ≠ 1)
      rw [← hrc] at hfail
      rw [hread, if_pos hfail]
      refine ⟨fun hnone => (by cases hnone), ?_⟩
      show (readHeaderSection _ _).2.1.received = stream.received
      rw [hstream, parseHeaderLines_received, addStreamHeader_received]

/-! ## The exchange -/

/-- The client sends no HEAD request. -/
theorem name_ne_head (method : Method) : strcasecmp method.name (ascii "HEAD") ≠ 0 := by
  cases method <;> decide

/-- A response as the reader meets it. -/
inductive Exchange where
  | headFailed (why : Outcome)
  | noBody (headers : List ResponseHeader) (rest : Unread UInt8)
  | body (headers : List ResponseHeader) (pieces : List Bytes) (outcome : Outcome)

def exchangeOf (parts : List Bytes) : Exchange :=
  match headOf ⟨0, [], parts⟩ with
  | .failed why => .headFailed why
  | .read statusCode lines rest =>
    let headers := storedHeaders statusCode lines
    if isBodylessStatus (atoi statusCode) then .noBody headers rest
    else .body headers (bodyOf (framingOf headers) rest).1 (bodyOf (framingOf headers) rest).2

/-- Looking for the end of a line, the reader came to hold 64 KiB. -/
def Exchange.limitReached : Exchange → Prop
  | .headFailed .tooLong => True
  | .body _ _ .tooLong => True
  | _ => False

/-- The stream with its headers, when they are handed to the consumer. -/
def withHeaders (lib : DecoderLib) (stream : Stream) (headers : List ResponseHeader) : Stream :=
  deliverResponseHeaders lib { stream with headers := some headers }

/-- The funnel refuses the headers or one of the pieces: a decoder cannot be
created or fails, or the consumer stops the response. -/
def funnelStops (lib : DecoderLib) (stream : Stream) (headers : List ResponseHeader)
    (pieces : List Bytes) : Prop :=
  (withHeaders lib stream headers).error ≠ none ∨
    (appendPieces lib (withHeaders lib stream headers) pieces).1 = false

theorem withHeaders_headers (lib : DecoderLib) (stream : Stream) (headers : List ResponseHeader) :
    (withHeaders lib stream headers).headers = some headers :=
  (deliverResponseHeaders_keeps lib _).headers

theorem takeResponseCancellation_received (stream : Stream) :
    (takeResponseCancellation stream).2.received = stream.received ∧
      (takeResponseCancellation stream).2.collecting = stream.collecting := by
  unfold takeResponseCancellation
  cases hsink : stream.sink with
  | none => exact ⟨rfl, rfl⟩
  | some sink =>
    simp only
    split
    · exact ⟨rfl, rfl⟩
    · simp only [Stream.received, Stream.collecting, hsink, and_self]

theorem receiveHttp11Response_headFailed (lib : DecoderLib) (basket : Basket) (stream : Stream)
    {transport : Transport} {why : Outcome}
    (h : exchangeOf transport.parts = .headFailed why) :
    (receiveHttp11Response lib basket stream transport).2.1.error ≠ none ∧
      (receiveHttp11Response lib basket stream transport).1.goingAway = true ∧
      (receiveHttp11Response lib basket stream transport).2.1.received = stream.received := by
  have hhead : headOf ⟨0, [], transport.parts⟩ = .failed why := by
    unfold exchangeOf at h
    split at h
    · rename_i hfailed
      cases h
      exact hfailed
    · simp only at h
      split at h <;> cases h
  obtain ⟨herror, hreceived⟩ := readResponseHead_failed (shows_init transport) stream hhead
  unfold receiveHttp11Response
  simp only [if_pos herror]
  exact ⟨herror, trivial, hreceived⟩

theorem receiveHttp11Response_read (lib : DecoderLib) (basket : Basket) {stream : Stream}
    {transport : Transport} {statusCode : Bytes} {lines : List Bytes} {rest : Unread UInt8}
    (hfresh : Fresh stream) (hhead : headOf ⟨0, [], transport.parts⟩ = .read statusCode lines rest) :
    ∃ reader, Shows transport.ending rest reader ∧
      receiveHttp11Response lib basket stream transport =
        let (bodyRc, untilClose, stream, reader) := readBody lib basket.method.name
          (withHeaders lib stream (storedHeaders statusCode lines)) reader (atoi statusCode)
        let (session, stream) := closeSessionIfSingleUse basket.session stream untilClose bodyRc
        (session, stream, reader) := by
  obtain ⟨reader, hread, hshows⟩ :=
    readResponseHead_read (shows_init transport) hfresh.headers hhead
  refine ⟨reader, hshows, ?_⟩
  have hnone : ¬ stream.error ≠ none := fun h => h hfresh.error
  unfold receiveHttp11Response
  simp only [hread, if_neg hnone]
  rfl

theorem closeSessionIfSingleUse_stream (session : Session) (stream : Stream) (untilClose : Bool)
    (bodyRc : Int) :
    (closeSessionIfSingleUse session stream untilClose bodyRc).2 =
      (takeResponseCancellation stream).2 := by
  unfold closeSessionIfSingleUse
  simp only
  split <;> rfl

/-- What makes a connection single use. -/
theorem closeSessionIfSingleUse_goingAway (session : Session) (stream : Stream) (untilClose : Bool)
    (bodyRc : Int)
    (h : untilClose = true ∨ (takeResponseCancellation stream).1 = true ∨
      ¬(bodyRc = 1 ∨ bodyRc = 0)) :
    (closeSessionIfSingleUse session stream untilClose bodyRc).1.goingAway = true := by
  unfold closeSessionIfSingleUse
  simp only
  rw [if_pos]
  rcases h with h | h | h
  · exact Or.inl h
  · exact Or.inr (Or.inl h)
  · exact Or.inr (Or.inr (Or.inl h))

theorem classifyBodyError_failed (stream : Stream) {rc : Int} (h : ¬(rc = 1 ∨ rc = 0)) :
    (classifyBodyError stream rc).1 = -1 ∧ (classifyBodyError stream rc).2.error ≠ none ∧
      (classifyBodyError stream rc).2.headers = stream.headers := by
  unfold classifyBodyError
  rw [if_neg h]
  split
  · exact ⟨rfl, fun hnone => (by cases hnone), rfl⟩
  · rename_i herror
    exact ⟨rfl, herror, rfl⟩

/-- What the client reports for a response with a body. -/
structure BodyReport (lib : DecoderLib) (ending : Ending) (stream : Stream)
    (headers : List ResponseHeader) (pieces : List Bytes) (outcome : Outcome)
    (result : Session × Stream × Http11Reader) : Prop where
  stored : result.2.1.headers = some headers
  error : result.2.1.error = none ↔ ¬funnelStops lib stream headers pieces ∧
    (outcome.code ending = 1 ∨ outcome.code ending = 0)
  goingAway : result.2.1.error ≠ none ∨ framingOf headers = .untilClose → result.1.goingAway = true
  received : result.2.1.error = none →
    result.2.1.received = (appendPieces lib (withHeaders lib stream headers) pieces).2.received ∧
    result.2.1.collecting = (appendPieces lib (withHeaders lib stream headers) pieces).2.collecting
  rest : result.2.1.error = none → ∀ rest, outcome = .done rest → result.2.2.unread = rest

/-- The end of an exchange, behind the code of a body. -/
def finishBody (session : Session) (headers : List ResponseHeader)
    (answer : Int × Stream × Http11Reader) : Session × Stream × Http11Reader :=
  let (rc, stream, reader) := answer
  let (bodyRc, stream) := classifyBodyError stream rc
  let (session, stream) :=
    closeSessionIfSingleUse session stream (framingOf headers = .untilClose) bodyRc
  (session, stream, reader)

/-- The loops came to an end that the source takes for a whole body. -/
theorem bodyReport_complete {lib : DecoderLib} {ending : Ending} {stream : Stream}
    {headers : List ResponseHeader} {pieces : List Bytes} {outcome : Outcome}
    {answer : Int × Stream × Http11Reader} (session : Session) (hfresh : Fresh stream)
    (hanswer : BodyAnswer lib ending (withHeaders lib stream headers) (pieces, outcome) answer)
    (hok : answer.1 = 1 ∨ answer.1 = 0) :
    BodyReport lib ending stream headers pieces outcome (finishBody session headers answer) := by
  obtain ⟨rc, fed, reader⟩ := answer
  obtain ⟨hfed, hcode, hrest⟩ := hanswer
  simp only at hfed hcode hrest hok
  -- the funnel took the pieces, so it left the error and the teardown request
  have htaken : (appendPieces lib (withHeaders lib stream headers) pieces).1 = true := by
    cases htaken : (appendPieces lib (withHeaders lib stream headers) pieces).1 with
    | true => rfl
    | false =>
      rw [htaken] at hcode
      rcases hok with hok | hok <;> rw [hok] at hcode <;> cases hcode
  have hunstopped := appendPieces_unstopped lib pieces _ htaken
  rw [← hfed] at hunstopped
  rw [htaken, if_pos rfl] at hcode
  have hstops : funnelStops lib stream headers pieces ↔ fed.error ≠ none := by
    rw [funnelStops, htaken, hunstopped.error]
    simp
  have herror : ((takeResponseCancellation fed).2).error = fed.error :=
    (takeResponseCancellation_keeps fed).2
  unfold finishBody classifyBodyError
  simp only [if_pos hok, closeSessionIfSingleUse_stream]
  refine ⟨?_, ?_, fun h => ?_, fun _ => ?_, fun _ rest hdone => (hrest htaken rest hdone).unread⟩
  · rw [(takeResponseCancellation_keeps fed).1.headers, hfed,
      (appendPieces_keeps lib pieces _).headers]
    exact withHeaders_headers lib stream headers
  · rw [herror, hstops, ← hcode]
    exact ⟨fun h => ⟨fun hne => hne h, hok⟩, fun h => Decidable.not_not.mp h.1⟩
  · apply closeSessionIfSingleUse_goingAway
    rcases h with h | h
    · right; left
      rw [herror, hunstopped.error] at h
      rw [hunstopped.cancellation]
      exact deliverResponseHeaders_cancels lib hfresh.error
        (fun sink hsink => (hfresh.sink sink hsink).2.2.2.2) h
    · exact Or.inl (decide_eq_true h)
  · rw [← hfed]
    exact takeResponseCancellation_received fed

/-- The loops failed. -/
theorem bodyReport_failed {lib : DecoderLib} {ending : Ending} {stream : Stream}
    {headers : List ResponseHeader} {pieces : List Bytes} {outcome : Outcome}
    {answer : Int × Stream × Http11Reader} (session : Session)
    (hanswer : BodyAnswer lib ending (withHeaders lib stream headers) (pieces, outcome) answer)
    (hfail : ¬(answer.1 = 1 ∨ answer.1 = 0)) :
    BodyReport lib ending stream headers pieces outcome (finishBody session headers answer) := by
  obtain ⟨rc, fed, reader⟩ := answer
  obtain ⟨hfed, hcode, -⟩ := hanswer
  simp only at hfed hcode hfail
  obtain ⟨hrc, herror, hsame⟩ := classifyBodyError_failed fed hfail
  have herror' : ((takeResponseCancellation (classifyBodyError fed rc).2).2).error ≠ none := by
    rw [(takeResponseCancellation_keeps _).2]
    exact herror
  unfold finishBody
  simp only [closeSessionIfSingleUse_stream]
  refine ⟨?_, ⟨fun h => absurd h herror', fun h => ?_⟩, fun _ => ?_, fun h => absurd h herror',
    fun h => absurd h herror'⟩
  · rw [(takeResponseCancellation_keeps _).1.headers, hsame, hfed,
      (appendPieces_keeps lib pieces _).headers]
    exact withHeaders_headers lib stream headers
  · exfalso
    apply hfail
    have htaken : (appendPieces lib (withHeaders lib stream headers) pieces).1 = true := by
      by_contra hne
      exact h.1 (Or.inr (Bool.eq_false_iff.mpr hne))
    rw [hcode, htaken, if_pos rfl]
    exact h.2
  · apply closeSessionIfSingleUse_goingAway
    right; right
    rw [hrc]
    decide

theorem bodyReport_of_answer {lib : DecoderLib} {ending : Ending} {stream : Stream}
    {headers : List ResponseHeader} {pieces : List Bytes} {outcome : Outcome}
    {answer : Int × Stream × Http11Reader} (session : Session) (hfresh : Fresh stream)
    (hanswer : BodyAnswer lib ending (withHeaders lib stream headers) (pieces, outcome) answer) :
    BodyReport lib ending stream headers pieces outcome (finishBody session headers answer) := by
  by_cases hok : answer.1 = 1 ∨ answer.1 = 0
  · exact bodyReport_complete session hfresh hanswer hok
  · exact bodyReport_failed session hanswer hok

theorem receiveHttp11Response_body (lib : DecoderLib) (basket : Basket) {stream : Stream}
    {transport : Transport} {headers : List ResponseHeader} {pieces : List Bytes}
    {outcome : Outcome} (hfresh : Fresh stream)
    (h : exchangeOf transport.parts = .body headers pieces outcome) :
    BodyReport lib transport.ending stream headers pieces outcome
      (receiveHttp11Response lib basket stream transport) := by
  unfold exchangeOf at h
  cases hhead : headOf ⟨0, [], transport.parts⟩ with
  | failed why => simp only [hhead] at h; cases h
  | read statusCode lines rest =>
    simp only [hhead] at h
    split at h
    · cases h
    · rename_i hbody
      cases h
      obtain ⟨reader, hshows, heq⟩ := receiveHttp11Response_read lib basket hfresh hhead
      have hnoBody : ¬(strcasecmp basket.method.name (ascii "HEAD") = 0 ∨
          isBodylessStatus (atoi statusCode) = true) :=
        not_or.mpr ⟨name_ne_head basket.method, hbody⟩
      rw [heq, readBody]
      simp only [if_neg hnoBody, withHeaders_headers, Option.getD_some]
      generalize storedHeaders statusCode lines = headers
      exact bodyReport_of_answer basket.session hfresh
        (readFramedBody_spec hshows (framingOf headers) (withHeaders lib stream headers))

theorem receiveHttp11Response_noBody (lib : DecoderLib) (basket : Basket) {stream : Stream}
    {transport : Transport} {headers : List ResponseHeader} {rest : Unread UInt8}
    (hfresh : Fresh stream)
    (h : exchangeOf transport.parts = .noBody headers rest) :
    (receiveHttp11Response lib basket stream transport).2.1.headers = some headers ∧
      (receiveHttp11Response lib basket stream transport).2.1.error =
        (withHeaders lib stream headers).error ∧
      (receiveHttp11Response lib basket stream transport).2.1.received =
        (withHeaders lib stream headers).received ∧
      (receiveHttp11Response lib basket stream transport).2.2.unread = rest := by
  unfold exchangeOf at h
  cases hhead : headOf ⟨0, [], transport.parts⟩ with
  | failed why => simp only [hhead] at h; cases h
  | read statusCode lines rest' =>
    simp only [hhead] at h
    split at h
    · rename_i hbody
      cases h
      obtain ⟨reader, hshows, heq⟩ := receiveHttp11Response_read lib basket hfresh hhead
      have hnoBody : strcasecmp basket.method.name (ascii "HEAD") = 0 ∨
          isBodylessStatus (atoi statusCode) = true := Or.inr hbody
      rw [heq, readBody]
      simp only [if_pos hnoBody, closeSessionIfSingleUse_stream]
      refine ⟨?_, (takeResponseCancellation_keeps _).2,
        (takeResponseCancellation_received _).1, hshows.unread⟩
      rw [(takeResponseCancellation_keeps _).1.headers]
      exact withHeaders_headers lib stream _
    · cases h

/-! ## Failures -/

/-- The bytes of a body are refused, or end before it while the connection
does not end in order. -/
def bodyFails (ending : Ending) : ScanEnd → Prop
  | .complete _ => False
  | .ended => ending ≠ .closed
  | .refused => True

theorem Outcome.code_ok_iff {outcome : Outcome} {result : ScanEnd} (ending : Ending)
    (h : outcome.result = some result) :
    (outcome.code ending = 1 ∨ outcome.code ending = 0) ↔ ¬bodyFails ending result := by
  cases outcome with
  | done rest => cases h; simp [Outcome.code, bodyFails]
  | ended => cases h; cases ending <;> simp [Outcome.code, Ending.code, bodyFails]
  | refused => cases h; simp [Outcome.code, bodyFails]
  | tooLong => cases h

/-- A response with a body fails, and its connection is not used again,
exactly when the reader meets its limit, the funnel stops the response, or
the bytes behind the head do not hold a body. -/
theorem receiveHttp11Response_fails_iff (lib : DecoderLib) (basket : Basket) {stream : Stream}
    {transport : Transport} {statusCode : Bytes} {lines : List Bytes} {rest : Unread UInt8}
    (hfresh : Fresh stream) (hhead : headOf ⟨0, [], transport.parts⟩ = .read statusCode lines rest)
    (hbody : isBodylessStatus (atoi statusCode) = false) :
    let headers := storedHeaders statusCode lines
    let body := bodyOf (framingOf headers) rest
    ((receiveHttp11Response lib basket stream transport).2.1.error ≠ none ∧
        (receiveHttp11Response lib basket stream transport).1.goingAway = true) ↔
      body.2 = .tooLong ∨ funnelStops lib stream headers body.1 ∨
        bodyFails transport.ending (scanBody (framingOf headers) rest.all).result := by
  intro headers body
  have hexchange : exchangeOf transport.parts = .body headers body.1 body.2 := by
    rw [exchangeOf, hhead]
    simp only [hbody, Bool.false_eq_true, if_false]
    rfl
  have hreport := receiveHttp11Response_body lib basket hfresh hexchange
  have herror : (receiveHttp11Response lib basket stream transport).2.1.error ≠ none ↔
      funnelStops lib stream headers body.1 ∨
        ¬(body.2.code transport.ending = 1 ∨ body.2.code transport.ending = 0) := by
    rw [ne_eq, hreport.error, not_and_or, not_not]
  have hboth : ((receiveHttp11Response lib basket stream transport).2.1.error ≠ none ∧
        (receiveHttp11Response lib basket stream transport).1.goingAway = true) ↔
      (receiveHttp11Response lib basket stream transport).2.1.error ≠ none :=
    ⟨fun h => h.1, fun h => ⟨h, hreport.goingAway (Or.inl h)⟩⟩
  rw [hboth, herror]
  by_cases hlong : body.2 = .tooLong
  · rw [hlong]
    simp [Outcome.code]
  · rw [Outcome.code_ok_iff transport.ending (bodyOf_scan hlong).2, not_not]
    exact ⟨fun h => Or.inr h, fun h => h.resolve_left hlong⟩

end HttpRequestClient.Http11
