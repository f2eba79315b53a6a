import HttpRequestClient.BasketJson
import HttpRequestClient.ResponseStream

/-!
# From the stream to the payload of the answer

`finalizeStreamIntoBasket` of `Http2ResponseHandler.c` moves the headers and
the collected body of a stream into the basket, and `basketToString` makes the
answer of it.  A body that still has its content coding is decoded at once, or
handed over in base64 where no decompression was asked for.

The one-shot decoders (`decompress_GZip` and the others) and `EVP_EncodeBlock`
of BoringSSL are parameters.  Allocation never fails.

`finalizeStreamIntoBasket_recovers_iff` says which bodies can be recovered from
the answer.
-/

namespace HttpRequestClient

open Utf8

/-- What a one-shot decoder makes of a body. -/
structure DecompressedObj where
  decompressedPayload : Bytes
  error : Option Error
  deriving Repr, DecidableEq

/-- The functions that `finalizeResponsePayload` calls. -/
structure PayloadLib where
  decompress : ContentEncoding → Bytes → DecompressedObj
  EVP_EncodeBlock : Bytes → Bytes

section Finalize

variable (lib : PayloadLib)

/-- Null for no data. -/
def base64Encode (data : Bytes) : Option Bytes :=
  if data.length = 0 then none else some (lib.EVP_EncodeBlock data)

/-- The bits of an `int`. -/
def decompressBits (decompress : Int) : Nat := (decompress % 4294967296).toNat

/-- The coding that is left on a body. -/
def remainingEncoding (headers : List ResponseHeader) (payloadDecoded : Bool) : ContentEncoding :=
  if payloadDecoded then .identity else detectContentEncoding headers

def finalizeResponsePayload (basket : AnswerBasket) (combinedPayload : Bytes)
    (payloadDecoded : Bool) : AnswerBasket :=
  if combinedPayload.length = 0 then { basket with payload := none }
  else
    let encoding := remainingEncoding (basket.responseHeaders.getD []) payloadDecoded
    if encoding = .identity then { basket with payload := some combinedPayload }
    else if decompressBits basket.decompress &&& encoding.toNat = 0 then
      { basket with payload := base64Encode lib combinedPayload }
    else
      let decompressedObj := lib.decompress encoding combinedPayload
      if decompressedObj.error ≠ none then
        { basket with error := some ERR_RESPONSE_INFLATE_UNKNOWN_ERROR }
      else { basket with payload := some decompressedObj.decompressedPayload }

/-- The basket and the stream behind the call. -/
def finalizeStreamIntoBasket (basket : AnswerBasket) (stream : Stream) : AnswerBasket × Stream :=
  if stream.error ≠ none then ({ basket with error := stream.error }, stream)
  else
    (finalizeResponsePayload lib { basket with responseHeaders := stream.headers }
      stream.combinedPayload stream.payloadDecoded,
      { stream with headers := none, combinedPayload := [] })

/-! ## What the answer has for the body -/

/-- The coding that is left on the body of a stream. -/
def Stream.remainingEncoding (stream : Stream) : ContentEncoding :=
  HttpRequestClient.remainingEncoding (stream.headers.getD []) stream.payloadDecoded

/-- The body is handed over in base64: it has a coding, and no decompression
was asked for. -/
def HandedInBase64 (basket : AnswerBasket) (stream : Stream) : Prop :=
  stream.remainingEncoding ≠ .identity ∧
    decompressBits basket.decompress &&& stream.remainingEncoding.toNat = 0

instance (basket : AnswerBasket) (stream : Stream) : Decidable (HandedInBase64 basket stream) :=
  inferInstanceAs (Decidable (_ ∧ _))

/-- The body as the caller asked for it: as it was collected, or decoded. -/
def responseBody (basket : AnswerBasket) (stream : Stream) : Bytes :=
  if stream.combinedPayload = [] ∨ stream.remainingEncoding = .identity ∨
      HandedInBase64 basket stream then stream.combinedPayload
  else (lib.decompress stream.remainingEncoding stream.combinedPayload).decompressedPayload

/-- The payload of an answer gives the body, as plain text or as base64. -/
def Recovers (answer : Json) (body : Bytes) : Prop :=
  ∃ text, answeredPayload answer = some text ∧ (text = body ∨ Base64.decode text = some body)

/-! ## The headers -/

theorem finalizeResponsePayload_headers (basket : AnswerBasket) (combinedPayload : Bytes)
    (payloadDecoded : Bool) :
    (finalizeResponsePayload lib basket combinedPayload payloadDecoded).responseHeaders =
      basket.responseHeaders := by
  unfold finalizeResponsePayload
  split
  · rfl
  · dsimp only
    split
    · rfl
    · split
      · rfl
      · split <;> rfl

/-- The basket gets the headers of a stream without error. -/
theorem finalizeStreamIntoBasket_headers (basket : AnswerBasket) {stream : Stream}
    (h : stream.error = none) :
    (finalizeStreamIntoBasket lib basket stream).1.responseHeaders = stream.headers := by
  rw [finalizeStreamIntoBasket, if_neg (not_not.mpr h)]
  exact finalizeResponsePayload_headers lib _ stream.combinedPayload stream.payloadDecoded

end Finalize

section Recovery

variable {json : Jansson} {lib : PayloadLib}

/-- A body that is handed over as it is. -/
theorem recovers_plain_iff (hjson : json.Documented) {basket : AnswerBasket} {body : Bytes}
    (hpayload : basket.payload.getD [] = body) :
    Recovers (basketToString json basket).1 body ↔ 0 ∉ body ∧ utf8Valid body = true := by
  rw [Recovers, basketToString_payload hjson, hpayload, hjson]
  constructor
  · rintro ⟨text, htext, hbody⟩
    split at htext
    · rename_i hvalid
      cases htext
      have hself : cstr body = body := by
        rcases hbody with hsame | hdecoded
        · exact hsame
        · -- base64 is longer than what it stands for
          have hshort := Base64.decode_length hdecoded
          have hcut := cstr_length_le body
          have hempty : body = [] := List.length_eq_zero_iff.mp (by omega)
          rw [hempty]
          rfl
      rw [hself] at hvalid
      refine ⟨?_, hvalid⟩
      rw [← hself]
      exact zero_notMem_cstr body
    · cases htext
  · rintro ⟨hzero, hvalid⟩
    have hself := cstr_eq_self hzero
    rw [hself, if_pos hvalid]
    exact ⟨body, rfl, .inl rfl⟩

/-- A body that is handed over in base64. -/
theorem recovers_base64 (hjson : json.Documented)
    (hencode : ∀ data, lib.EVP_EncodeBlock data = Base64.encode data) {basket : AnswerBasket}
    {body : Bytes} (hpayload : basket.payload = some (lib.EVP_EncodeBlock body)) :
    Recovers (basketToString json basket).1 body := by
  refine ⟨Base64.encode body, ?_, .inr (Base64.decode_encode body)⟩
  rw [basketToString_payload hjson, hpayload, hencode]
  exact hjson.plain (Base64.encode_ascii body)

/-- What the basket has for the body. -/
theorem finalizeStreamIntoBasket_payload {basket : AnswerBasket} {stream : Stream}
    (hreceived : (finalizeStreamIntoBasket lib basket stream).1.error = none) :
    (finalizeStreamIntoBasket lib basket stream).1.payload =
      if stream.combinedPayload = [] then none
      else if HandedInBase64 basket stream then some (lib.EVP_EncodeBlock stream.combinedPayload)
      else some (responseBody lib basket stream) := by
  unfold finalizeStreamIntoBasket at hreceived ⊢
  split at hreceived
  · rename_i herror
    exact absurd hreceived herror
  · rename_i herror
    rw [if_neg herror]
    unfold finalizeResponsePayload at hreceived ⊢
    dsimp only at hreceived ⊢
    rw [show remainingEncoding (stream.headers.getD []) stream.payloadDecoded =
      stream.remainingEncoding from rfl] at hreceived ⊢
    by_cases hempty : stream.combinedPayload = []
    · simp [hempty]
    · have hlen : stream.combinedPayload.length ≠ 0 := by simpa using hempty
      simp only [if_neg hlen, if_neg hempty, HandedInBase64, responseBody, base64Encode] at hreceived ⊢
      by_cases hidentity : stream.remainingEncoding = .identity
      · simp [hidentity, hempty]
      · by_cases hmask : decompressBits basket.decompress &&& stream.remainingEncoding.toNat = 0
        · simp [hidentity, hmask]
        · simp only [if_neg hidentity, if_neg hmask] at hreceived ⊢
          split at hreceived
          · cases hreceived
          · rename_i hdecoded
            simp [hidentity, hmask, hempty, hdecoded]

/-- A body received without an error can be recovered from the answer exactly
when it is in base64, or it is UTF-8 text without a NUL. -/
theorem finalizeStreamIntoBasket_recovers_iff (hjson : json.Documented)
    (hencode : ∀ data, lib.EVP_EncodeBlock data = Base64.encode data) (basket : AnswerBasket)
    (stream : Stream)
    (hreceived : (finalizeStreamIntoBasket lib basket stream).1.error = none) :
    Recovers (basketToString json (finalizeStreamIntoBasket lib basket stream).1).1
        (responseBody lib basket stream) ↔
      HandedInBase64 basket stream ∨
        (0 ∉ responseBody lib basket stream ∧
          utf8Valid (responseBody lib basket stream) = true) := by
  have hpayload := finalizeStreamIntoBasket_payload hreceived
  by_cases hempty : stream.combinedPayload = []
  · have hbody : responseBody lib basket stream = [] := by
      rw [responseBody, if_pos (.inl hempty), hempty]
    rw [if_pos hempty] at hpayload
    rw [hbody, recovers_plain_iff hjson (by rw [hpayload]; rfl)]
    simp [utf8Valid, Utf8.validFrom, Pending.none]
  · rw [if_neg hempty] at hpayload
    by_cases hbase64 : HandedInBase64 basket stream
    · have hbody : responseBody lib basket stream = stream.combinedPayload := by
        rw [responseBody, if_pos (.inr (.inr hbase64))]
      rw [if_pos hbase64] at hpayload
      rw [hbody]
      exact iff_of_true (recovers_base64 hjson hencode hpayload) (.inl hbase64)
    · rw [if_neg hbase64] at hpayload
      rw [recovers_plain_iff hjson (by rw [hpayload]; rfl)]
      exact (or_iff_right hbase64).symm

/-- BoringSSL's encoder, and decoders that refuse everything. -/
def plainPayloadLib : PayloadLib where
  decompress encoding _ := ⟨[], some (decodeError encoding)⟩
  EVP_EncodeBlock := Base64.encode

/-- A request that takes no coding, before its answer. -/
def plainRequest : AnswerBasket where
  url := some (ascii "https://example.com/")
  method := some (ascii "GET")
  connectTimeoutInMilliseconds := 3000
  responseReadingTimeoutInMilliseconds := 3000
  decompress := 0
  nonBlocking := false
  clientHelloId := ascii "chrome"
  session := none
  streamId := 1
  proxy := ⟨[], [], [], [], []⟩
  requestHeaders := none
  requestPayload := none
  responseHeaders := none
  payload := none
  collecting := true
  error := none

/-- A stream that has collected a body. -/
def collectedStream (headers : List ResponseHeader) (body : Bytes) : Stream :=
  { Stream.scratch with
    streamId := 1
    isEnded := true
    headers := some headers
    combinedPayload := body }

/-- A body in gzip, for a caller that takes no coding. -/
theorem finalizeStreamIntoBasket_recovers_iff_gzip :
    let stream := collectedStream [⟨ascii "content-encoding", ascii "gzip"⟩] [0x1f, 0x8b, 0x08, 0]
    Recovers
      (basketToString Jansson.manual
        (finalizeStreamIntoBasket plainPayloadLib plainRequest stream).1).1
      (responseBody plainPayloadLib plainRequest stream) :=
  (finalizeStreamIntoBasket_recovers_iff Jansson.manual_documented (fun _ => rfl) plainRequest _
    (by decide)).mpr (.inl (by decide))

/-- The first bytes of a PNG image arrive whole, and the answer has no
payload. -/
theorem finalizeStreamIntoBasket_losesBody :
    let stream := collectedStream [⟨ascii "content-type", ascii "image/png"⟩]
      [0x89, 0x50, 0x4e, 0x47, 0x0d, 0x0a, 0x1a, 0x0a, 0]
    let after := (finalizeStreamIntoBasket plainPayloadLib plainRequest stream).1
    after.error = none ∧ responseBody plainPayloadLib plainRequest stream = stream.combinedPayload ∧
      answeredPayload (basketToString Jansson.manual after).1 = none ∧
      ¬ Recovers (basketToString Jansson.manual after).1 stream.combinedPayload := by
  intro stream after
  have hnone : answeredPayload (basketToString Jansson.manual after).1 = none := by
    decide +kernel
  refine ⟨by decide, by decide, hnone, ?_⟩
  rintro ⟨text, htext, -⟩
  rw [hnone] at htext
  cases htext

end Recovery

end HttpRequestClient
