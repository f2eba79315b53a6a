import HttpRequestClient.Callbacks
import HttpRequestClient.Lib.Runs

/-!
# The library's own collector

A request without a contract gets its body collected in the stream.  The
funnel treats it like a request with a contract: `Twin` relates the stream of
a collector to that of a contract that takes everything, and every step of
the funnel keeps it.

* `runFunnel_twin`: the two streams stay twins over any sequence of headers
  and chunks.
* `runFunnel_collects`: at the end of the attempt the collector has the bytes
  that the contract was given, the same count of delivered bytes, and the same
  error.
-/

namespace HttpRequestClient

open Runs

/-! ## Attempts -/

/-- What the transports pass to the funnel: response headers, or a chunk of
the body. -/
inductive FunnelStep where
  | headers (headers : List ResponseHeader)
  | body (data : Bytes)

def stepFunnel (lib : DecoderLib) (stream : Stream) : FunnelStep → Stream
  | .headers headers => deliverResponseHeaders lib { stream with headers := some headers }
  | .body data => (appendStreamPayload lib stream data).2

def runFunnel (lib : DecoderLib) (stream : Stream) (steps : List FunnelStep) : Stream :=
  run (stepFunnel lib) stream steps

/-- The error that completes the callbacks. -/
def Stream.endError (stream : Stream) : Option Error :=
  match stream.sink with
  | none => stream.error
  | some sink => if sink.error ≠ none then sink.error else stream.error

/-- The bytes that the consumer of a stream took. -/
def Stream.delivered (stream : Stream) : Nat :=
  match stream.sink with
  | none => 0
  | some sink => sink.delivered

/-- The bytes of the calls of `onData`, in their order. -/
def Stream.handed (stream : Stream) : Bytes :=
  match stream.sink with
  | none => []
  | some sink => (sink.calls.map Callback.data).flatten

/-! ## Twins -/

/-- The contract never asks to stop. -/
def NeverAborts (contract : ResponseStream) : Prop :=
  ∀ calls data, contract.onData calls data = 0

/-- What two streams have in common besides their sinks. -/
structure SameResponse (before after : Stream) : Prop where
  headers : after.headers = before.headers
  error : after.error = before.error
  payloadDecoded : after.payloadDecoded = before.payloadDecoded

/-- The streams of a collector and of a contract, with the same sink but for
the contract and its calls.  What the one has collected, the other was
given. -/
structure Twin (contract : ResponseStream) (collected streamed : Stream) : Prop where
  sinks : ∃ sink calls, collected.sink = some sink ∧ sink.contract = none ∧
    sink.aborted = false ∧
    streamed.sink = some { sink with contract := some contract, calls := calls } ∧
    collected.combinedPayload = (calls.map Callback.data).flatten
  same : SameResponse collected streamed

variable {contract : ResponseStream} {collected streamed : Stream}

theorem newStream_twin (streamId decompress : Nat) (contract : ResponseStream) :
    Twin contract (newStream streamId (some (buildResponseSink decompress none)))
      (newStream streamId (some (buildResponseSink decompress (some contract)))) where
  sinks := ⟨_, [], rfl, rfl, rfl, rfl, rfl⟩
  same := ⟨rfl, rfl, rfl⟩

/-! ## The body -/

/-- Two delivery passes side by side. -/
structure TwinDelivery (contract : ResponseStream) (collected streamed : BodyDelivery) : Prop where
  stream : Twin contract collected.stream streamed.stream
  delivered : streamed.delivered = collected.delivered

/-- One decoded piece. -/
theorem consumeResponseBody_twin (hnever : NeverAborts contract) {collected streamed : BodyDelivery}
    (h : TwinDelivery contract collected streamed) (data : Bytes) :
    (consumeResponseBody collected data).1 = 0 ∧ (consumeResponseBody streamed data).1 = 0 ∧
      TwinDelivery contract (consumeResponseBody collected data).2
        (consumeResponseBody streamed data).2 := by
  obtain ⟨⟨⟨sink, calls, hcollected, hnone, haborted, hstreamed, hpayload⟩, hsame⟩,
    hdelivered⟩ := h
  unfold consumeResponseBody
  simp only [hcollected, hnone, hstreamed, hnever calls data, if_true, true_and]
  refine ⟨⟨⟨sink, calls ++ [.onData data], hcollected, hnone, haborted, rfl, ?_⟩, hsame.headers,
    hsame.error, hsame.payloadDecoded⟩, ?_⟩
  · show collected.stream.combinedPayload ++ data = _
    rw [hpayload, List.map_append, List.flatten_append]
    simp [Callback.data]
  · show streamed.delivered + data.length = collected.delivered + data.length
    rw [hdelivered]

theorem consumePieces_twin (hnever : NeverAborts contract) (pieces : List Bytes) :
    ∀ {collected streamed : BodyDelivery}, TwinDelivery contract collected streamed →
      (consumePieces collected pieces).1 = false ∧ (consumePieces streamed pieces).1 = false ∧
        TwinDelivery contract (consumePieces collected pieces).2
          (consumePieces streamed pieces).2 := by
  induction pieces with
  | nil => exact fun h => ⟨rfl, rfl, h⟩
  | cons piece pieces ih =>
    intro collected streamed h
    obtain ⟨hcollected, hstreamed, hpiece⟩ := consumeResponseBody_twin hnever h piece
    rw [consumePieces, consumePieces]
    simp only [hcollected, hstreamed, ne_eq, not_true_eq_false, if_false]
    exact ih hpiece

/-- The decoder sees the same chunks, and no piece is refused. -/
theorem feedStreamDecompressor_twin (hnever : NeverAborts contract) (lib : DecoderLib)
    (decompressor : Option StreamDecompressor) (data : Bytes) {collected streamed : BodyDelivery}
    (h : TwinDelivery contract collected streamed) :
    (feedStreamDecompressor lib decompressor data streamed).1 =
        (feedStreamDecompressor lib decompressor data collected).1 ∧
      (feedStreamDecompressor lib decompressor data streamed).2.1 =
        (feedStreamDecompressor lib decompressor data collected).2.1 ∧
      TwinDelivery contract (feedStreamDecompressor lib decompressor data collected).2.2
        (feedStreamDecompressor lib decompressor data streamed).2.2 := by
  unfold feedStreamDecompressor
  cases decompressor with
  | none =>
    obtain ⟨hcollected, hstreamed, hpiece⟩ := consumeResponseBody_twin hnever h data
    simp only [hcollected, hstreamed, true_and]
    exact hpiece
  | some decompressor =>
    obtain ⟨hcollected, hstreamed, hpieces⟩ := consumePieces_twin hnever
      (lib.feed decompressor.encoding decompressor.fed data).1 h
    simp only [hcollected, hstreamed, true_and]
    exact hpieces

/-- One chunk. -/
theorem appendStreamPayload_twin (hnever : NeverAborts contract) (lib : DecoderLib)
    (h : Twin contract collected streamed) (data : Bytes) :
    Twin contract (appendStreamPayload lib collected data).2
      (appendStreamPayload lib streamed data).2 := by
  unfold appendStreamPayload
  by_cases hempty : data.length = 0
  · simp only [if_pos hempty]
    exact h
  · simp only [if_neg hempty]
    obtain ⟨sink, calls, hcollected, hnone, haborted, hstreamed, -⟩ := h.sinks
    have hstart : TwinDelivery contract ⟨collected, 0⟩ ⟨streamed, 0⟩ := ⟨h, rfl⟩
    obtain ⟨hconsumed, hdecompressor, hfed⟩ :=
      feedStreamDecompressor_twin hnever lib sink.decompressor data hstart
    obtain ⟨⟨⟨sink', calls', hcollected', hnone', haborted', hstreamed', hpayload'⟩, hsame⟩,
      hdelivered⟩ := hfed
    simp only [hcollected, hstreamed, deliverStreamPayload, haborted, Bool.false_eq_true, if_false,
      hconsumed, hdecompressor, hcollected', hstreamed', Option.getD_some, hdelivered]
    split
    · exact ⟨⟨_, calls', rfl, hnone', haborted', rfl, hpayload'⟩, hsame.headers, rfl,
        hsame.payloadDecoded⟩
    · exact ⟨⟨_, calls', rfl, hnone', haborted', rfl, hpayload'⟩, hsame.headers, hsame.error,
        hsame.payloadDecoded⟩

/-! ## Headers and the end -/

/-- The decoder of a response does not depend on the contract. -/
theorem prepareStreamDecoder_twin (lib : DecoderLib) (h : SameResponse collected streamed)
    (sink : ResponseSink) (contract : Option ResponseStream) (calls : List Callback) :
    let prepared := prepareStreamDecoder lib collected sink
    let twin := prepareStreamDecoder lib streamed { sink with contract := contract, calls := calls }
    twin.2 = { prepared.2 with contract := contract, calls := calls } ∧
      SameResponse prepared.1 twin.1 ∧
      prepared.1.combinedPayload = collected.combinedPayload ∧
      prepared.2.contract = sink.contract ∧ prepared.2.aborted = sink.aborted := by
  unfold prepareStreamDecoder
  simp only [h.headers]
  split
  · exact ⟨rfl, h, rfl, rfl, rfl⟩
  · split
    · exact ⟨rfl, ⟨rfl, rfl, h.payloadDecoded⟩, rfl, rfl, rfl⟩
    · exact ⟨rfl, ⟨rfl, h.error, rfl⟩, rfl, rfl, rfl⟩

theorem deliverResponseHeaders_twin (lib : DecoderLib) (h : Twin contract collected streamed) :
    Twin contract (deliverResponseHeaders lib collected) (deliverResponseHeaders lib streamed) := by
  obtain ⟨sink, calls, hcollected, hnone, haborted, hstreamed, hpayload⟩ := h.sinks
  unfold deliverResponseHeaders
  simp only [hcollected, hstreamed]
  by_cases hdelivered : sink.headersDelivered = true
  · simp only [if_pos hdelivered]
    exact h
  · simp only [if_neg hdelivered]
    have hprepare := prepareStreamDecoder_twin lib h.same
      { sink with headersDelivered := true } (some contract) calls
    dsimp only at hprepare
    generalize prepareStreamDecoder lib collected { sink with headersDelivered := true } = prepared
      at hprepare ⊢
    generalize prepareStreamDecoder lib streamed _ = twin at hprepare ⊢
    obtain ⟨hsink, hsame, hkept, hcontract, haborted'⟩ := hprepare
    simp only [hsink, hcontract, hnone]
    refine ⟨⟨prepared.2, _, rfl, hcontract.trans hnone, haborted'.trans haborted, rfl, ?_⟩,
      hsame.headers, hsame.error, hsame.payloadDecoded⟩
    show prepared.1.combinedPayload = _
    rw [hkept, hpayload, List.map_append, List.flatten_append]
    simp [Callback.data]

theorem completeResponseSink_twin (h : Twin contract collected streamed) :
    Twin contract (completeResponseSink collected) (completeResponseSink streamed) := by
  obtain ⟨sink, calls, hcollected, hnone, haborted, hstreamed, hpayload⟩ := h.sinks
  unfold completeResponseSink
  simp only [hcollected, hstreamed, hnone]
  by_cases hcompleted : sink.completed = true
  · simp only [if_pos hcompleted]
    exact h
  · simp only [if_neg hcompleted]
    refine ⟨⟨_, _, rfl, rfl, haborted, rfl, ?_⟩, h.same.headers, h.same.error,
      h.same.payloadDecoded⟩
    rw [List.map_append, List.flatten_append, ← hpayload]
    simp [Callback.data]

/-! ## Whole attempts -/

theorem stepFunnel_twin (hnever : NeverAborts contract) (lib : DecoderLib)
    (h : Twin contract collected streamed) (step : FunnelStep) :
    Twin contract (stepFunnel lib collected step) (stepFunnel lib streamed step) := by
  cases step with
  | headers headers =>
    exact deliverResponseHeaders_twin lib ⟨h.sinks, rfl, h.same.error, h.same.payloadDecoded⟩
  | body data => exact appendStreamPayload_twin hnever lib h data

theorem runFunnel_twin (hnever : NeverAborts contract) (lib : DecoderLib)
    (h : Twin contract collected streamed) (steps : List FunnelStep) :
    Twin contract (runFunnel lib collected steps) (runFunnel lib streamed steps) := by
  induction steps generalizing collected streamed with
  | nil => exact h
  | cons step steps ih => exact ih (stepFunnel_twin hnever lib h step)

/-- At the end of an attempt the collector has what the contract was given. -/
theorem runFunnel_collects (lib : DecoderLib) (streamId decompress : Nat)
    {contract : ResponseStream} (hnever : NeverAborts contract) (steps : List FunnelStep) :
    let attempt := fun contract => completeResponseSink
      (runFunnel lib (newStream streamId (some (buildResponseSink decompress contract))) steps)
    (attempt none).combinedPayload = (attempt (some contract)).handed ∧
      (attempt none).delivered = (attempt (some contract)).delivered ∧
      (attempt none).endError = (attempt (some contract)).endError ∧
      (attempt none).error = (attempt (some contract)).error := by
  intro attempt
  have htwin : Twin contract (attempt none) (attempt (some contract)) :=
    completeResponseSink_twin
      (runFunnel_twin hnever lib (newStream_twin streamId decompress contract) steps)
  obtain ⟨sink, calls, hcollected, -, -, hstreamed, hpayload⟩ := htwin.sinks
  refine ⟨?_, ?_, ?_, htwin.same.error.symm⟩
  · rw [Stream.handed, hstreamed]
    exact hpayload
  · rw [Stream.delivered, Stream.delivered, hcollected, hstreamed]
  · rw [Stream.endError, Stream.endError, hcollected, hstreamed, htwin.same.error]

/-- A response in two chunks, for a contract that takes everything. -/
theorem runFunnel_collects_chunks :
    let steps : List FunnelStep :=
      [.headers [⟨ascii ":status", ascii "200"⟩], .body (ascii "hello "), .body (ascii "world")]
    let attempt := fun contract => completeResponseSink
      (runFunnel noDecoders (newStream 1 (some (buildResponseSink 0 contract))) steps)
    (attempt none).combinedPayload = ascii "hello world" ∧
      (attempt (some takeAll)).handed = ascii "hello world" := by
  intro steps attempt
  have hcollected : (attempt none).combinedPayload = ascii "hello world" := by decide
  have hnever : NeverAborts takeAll := fun _ _ => rfl
  exact ⟨hcollected, (runFunnel_collects noDecoders 1 0 hnever steps).1.symm.trans hcollected⟩

end HttpRequestClient
