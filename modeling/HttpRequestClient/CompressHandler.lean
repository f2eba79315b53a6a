import HttpRequestClient.ResponseStream
import HttpRequestClient.Lib.Streaming
import Mathlib.Algebra.Ring.Nat

/-!
# The streaming decoders of `CompressHandler.c`

zlib, brotli and zstd are libraries outside the repository.  `Zlib`, `Brotli`
and `Zstd` say what their documentation promises of a call with any room for
output, when the memory that they ask for in the call is given.  The three
feed functions are loops around calls with an output buffer of
`STREAM_DECOMPRESS_CHUNK` bytes.

`feedStreamDecompressor_refines`: the funnel's view of the decoders,
`decoderLib`, is what the loops do.
-/

namespace HttpRequestClient.CompressHandler

open Streaming

def STREAM_DECOMPRESS_CHUNK : Nat := 32 * 1024

def MAX_WBITS : Int := 15

/-! ## Wrappers of deflate -/

/-- RFC 1950 header: CM = 8 and the 16-bit header divisible by 31. -/
def isZlibHeader (data : Bytes) : Bool :=
  let compressionMethod := (data.getD 0 0).toNat &&& 0x0f
  let headerCheck := (((data.getD 0 0).toNat <<< 8) ||| (data.getD 1 0).toNat) % 31
  compressionMethod = 8 ∧ headerCheck = 0

/-- The magic of RFC 1952, which inflate knows when it detects the wrapper. -/
def isGzipHeader (data : Bytes) : Bool := data.getD 0 0 = 0x1f ∧ data.getD 1 0 = 0x8b

/-- The window bits for a deflate body, from its first bytes. -/
def deflateWindow (data : Bytes) : Int :=
  let rawDeflate := data.length ≥ 2 ∧ ¬isZlibHeader data
  if rawDeflate then -MAX_WBITS else MAX_WBITS + 32

/-! ## Libraries -/

/-- `Z_OK`, `Z_STREAM_END`, or anything else. -/
inductive ZlibStatus where
  | ok
  | streamEnd
  | error
deriving DecidableEq, Repr

/-- zlib: `inflate` with `Z_NO_FLUSH`, for a stream of some window bits. -/
structure Zlib where
  stream : Decoder UInt8 UInt8 ZlibStatus
  windowBits : stream.State → Int
  format : Int → Format UInt8 UInt8
  inflateInit2 : Int → Option stream.State
  init : ∀ bits zs, inflateInit2 bits = some zs → windowBits zs = bits ∧ Initial (format bits) zs
  format_eq : ∀ zs, stream.format zs = format (windowBits zs)
  windowBits_call : ∀ zs room input, windowBits (stream.call zs room input).state = windowBits zs
  failed_eq : ∀ status, stream.failed status = decide (status = .error)
  streamed : ∀ bits, (format bits).Streamed
  /-- What follows the end of a stream is not looked at. -/
  valid : ∀ bits encoded more, (format bits).Finished encoded →
    (format bits).Valid (encoded ++ more)
  /-- `Z_OK`: some progress was made, up to the end of the input or the room. -/
  progress : ∀ zs room input, (stream.call zs room input).status = .ok →
    0 < (stream.call zs room input).used ∨ (stream.call zs room input).output ≠ []
  stops : ∀ zs room input, (stream.call zs room input).status = .ok →
    (stream.call zs room input).output.length < room → stream.left zs room input = []
  /-- `Z_STREAM_END`: the end of the stream was reached and all output returned. -/
  streamEnd : ∀ zs room input, (stream.call zs room input).status = .streamEnd ↔
    (stream.format zs).Finished (stream.taken (stream.call zs room input).state) ∧
      stream.Drained (stream.call zs room input).state
  /-- Any other status: the data is broken, or there was nothing to do. -/
  error : ∀ zs room input, 0 < room → (stream.call zs room input).status = .error →
    (∀ more, ¬(stream.format zs).Valid (stream.taken zs ++ input ++ more)) ∨
      input = [] ∧ stream.Drained (stream.call zs room input).state
  /-- Nothing of what follows the end of a stream is returned. -/
  within : ∀ zs room input encoded, (stream.format zs).Finished encoded →
    encoded <+: stream.taken zs ++ input → stream.given zs <+: (stream.format zs).decode encoded →
    stream.given (stream.call zs room input).state <+: (stream.format zs).decode encoded
  /-- Nothing behind the end of a stream is taken. -/
  finished : ∀ zs encoded, (stream.format zs).Finished encoded → encoded <+: stream.taken zs →
    stream.taken zs = encoded
  /-- Automatic detection knows the headers of zlib and gzip. -/
  detects : ∀ zs room input, windowBits zs = MAX_WBITS + 32 →
    (stream.call zs room input).status ≠ .error →
    let taken := stream.taken (stream.call zs room input).state
    taken.length < 2 ∨ isZlibHeader taken = true ∨ isGzipHeader taken = true
  /-- Raw deflate data does not begin with the reserved block type. -/
  reserved : ∀ body, (format (-MAX_WBITS)).Valid body → isGzipHeader body = false

inductive BrotliDecoderResult where
  | error
  | success
  | needsMoreInput
  | needsMoreOutput
deriving DecidableEq, Repr

/-- brotli: `BrotliDecoderDecompressStream`.  It may want more input while
output is pending. -/
structure Brotli where
  decoder : Decoder UInt8 UInt8 BrotliDecoderResult
  format : Format UInt8 UInt8
  createInstance : Option decoder.State
  create : ∀ state, createInstance = some state → Initial format state
  failed_eq : ∀ result, decoder.failed result = decide (result = .error)
  streamed : format.Streamed
  valid : ∀ encoded more, format.Finished encoded → format.Valid (encoded ++ more)
  success : ∀ state room input, (decoder.call state room input).status = .success ↔
    (decoder.format state).Finished (decoder.taken (decoder.call state room input).state) ∧
      decoder.Drained (decoder.call state room input).state
  needsMoreInput : ∀ state room input,
    (decoder.call state room input).status = .needsMoreInput →
    decoder.left state room input = [] ∧
      ¬(decoder.format state).Finished (decoder.taken (decoder.call state room input).state)
  /-- The output buffer is full. -/
  needsMoreOutput : ∀ state room input,
    (decoder.call state room input).status = .needsMoreOutput →
    (decoder.call state room input).output.length = room
  error : ∀ state room input, (decoder.call state room input).status = .error →
    ∀ more, ¬(decoder.format state).Valid (decoder.taken state ++ input ++ more)
  within : ∀ state room input encoded, (decoder.format state).Finished encoded →
    encoded <+: decoder.taken state ++ input →
    decoder.given state <+: (decoder.format state).decode encoded →
    decoder.given (decoder.call state room input).state <+: (decoder.format state).decode encoded
  finished : ∀ state encoded, (decoder.format state).Finished encoded →
    encoded <+: decoder.taken state → decoder.taken state = encoded

/-- What `ZSTD_decompressStream` returns: an error, or a hint that is zero
when a frame is complete. -/
inductive ZstdResult where
  | error
  | remaining (hint : Nat)
deriving DecidableEq, Repr

/-- What `ZSTD_getFrameContentSize` reads in the header of a frame. -/
inductive FrameContentSize where
  | unknown
  | error
  | known (size : Nat)
deriving DecidableEq, Repr

/-- A body that is made of complete frames, and what it decodes to. -/
def Frames (format : Format UInt8 UInt8) (body payload : Bytes) : Prop :=
  ∃ frames : List Bytes, (∀ frame ∈ frames, format.Finished frame) ∧
    body = frames.flatten ∧ payload = frames.flatMap format.decode

/-- zstd: `ZSTD_decompressStream`, which leaves the last byte of a frame until
the output of the frame is returned, and `ZSTD_decompress` for a whole body.
What a call says of the end of a frame is said of the first frame, which is
open before the call. -/
structure Zstd where
  dctx : Decoder UInt8 UInt8 ZstdResult
  format : Format UInt8 UInt8
  createDCtx : Option dctx.State
  create : ∀ state, createDCtx = some state → Initial format state
  failed_eq : ∀ result, dctx.failed result = decide (result = .error)
  streamed : format.Streamed
  /-- With input and room only broken data is an error. -/
  error : ∀ state room input, 0 < room → input ≠ [] →
    (dctx.call state room input).status = .error →
    ∀ more, ¬(dctx.format state).Valid (dctx.taken state ++ input ++ more)
  /-- How many calls without any progress are still tolerated. -/
  tolerated : dctx.State → Nat
  progress : ∀ state room input hint, 0 < room →
    (dctx.call state room input).status = .remaining (hint + 1) →
    0 < (dctx.call state room input).used ∨ (dctx.call state room input).output ≠ [] ∨
      tolerated (dctx.call state room input).state < tolerated state
  /-- A frame is complete and flushed. -/
  complete : ∀ state room input, dctx.Open state →
    ((dctx.call state room input).status = .remaining 0 ↔
      (dctx.format state).Finished (dctx.taken (dctx.call state room input).state) ∧
        dctx.Drained (dctx.call state room input).state)
  broken : ∀ state room input, dctx.Open state → 0 < room →
    (dctx.call state room input).status = .error →
    (∀ encoded, (dctx.format state).Finished encoded → ¬encoded <+: dctx.taken state ++ input) ∨
      input = [] ∧ dctx.Drained (dctx.call state room input).state
  within : ∀ state room input encoded, dctx.Open state → (dctx.format state).Finished encoded →
    encoded <+: dctx.taken state ++ input →
    dctx.given state <+: (dctx.format state).decode encoded →
    dctx.given (dctx.call state room input).state <+: (dctx.format state).decode encoded
  finished : ∀ state room input encoded, dctx.Open state → (dctx.format state).Finished encoded →
    encoded <+: dctx.taken (dctx.call state room input).state →
    dctx.taken (dctx.call state room input).state = encoded
  getFrameContentSize : Bytes → FrameContentSize
  /-- `ZSTD_decompress` with the capacity of its destination. -/
  decompress : Nat → Bytes → Option Bytes
  decompress_reads : ∀ capacity body payload, decompress capacity body = some payload ↔
    Frames format body payload ∧ payload.length ≤ capacity

structure Libraries where
  zlib : Zlib
  brotli : Brotli
  zstd : Zstd

/-! ## Loops -/

/-- The loop of `feedZlib`. -/
def zlibLoop (Z : Zlib) : Driver Z.stream where
  room := STREAM_DECOMPRESS_CHUNK
  room_pos := by decide
  checksFirst := true
  verdict status _ rest :=
    match status with
    | .streamEnd => some 1
    | .error => some (-1)
    | .ok => if rest = [] then some 1 else none
  accepts status output rest hone := by
    rw [Z.failed_eq, decide_eq_false_iff_not]
    rintro rfl
    cases hone
  stops _ status output := by cases status <;> simp
  progress zs input hgoes := by
    cases hstatus : (Z.stream.call zs STREAM_DECOMPRESS_CHUNK input).status with
    | streamEnd => rw [hstatus] at hgoes; cases hgoes
    | error => rw [hstatus] at hgoes; cases hgoes
    | ok => exact Z.progress zs _ input hstatus

/-- The loop of `feedBrotli`.  It also runs while output is pending. -/
def brotliLoop (B : Brotli) : Driver B.decoder where
  room := STREAM_DECOMPRESS_CHUNK
  room_pos := by decide
  checksFirst := false
  verdict status _ rest :=
    match status with
    | .error => some (-1)
    | .success => some 1
    | .needsMoreOutput => none
    | .needsMoreInput => if rest = [] then some 1 else none
  accepts status output rest hone := by
    rw [B.failed_eq, decide_eq_false_iff_not]
    rintro rfl
    cases hone
  stops := nofun
  progress state input hgoes := by
    cases hstatus : (B.decoder.call state STREAM_DECOMPRESS_CHUNK input).status with
    | error => rw [hstatus] at hgoes; cases hgoes
    | success => rw [hstatus] at hgoes; cases hgoes
    | needsMoreOutput =>
      have hfull := B.needsMoreOutput state _ input hstatus
      have hpos : 0 < STREAM_DECOMPRESS_CHUNK := by decide
      exact .inr (List.length_pos_iff.mp (by omega))
    | needsMoreInput =>
      rw [hstatus] at hgoes
      simp only [(B.needsMoreInput state _ input hstatus).1] at hgoes
      cases hgoes

/-- The loop of `feedZstd`.  A call without output ends it. -/
def zstdLoop (Z : Zstd) : Driver Z.dctx where
  room := STREAM_DECOMPRESS_CHUNK
  room_pos := by decide
  checksFirst := true
  verdict status output rest :=
    match status with
    | .error => some (-1)
    | .remaining _ =>
      let stalled := output = []
      if stalled then some 1
      else if rest = [] then some 1
      else none
  accepts status output rest hone := by
    rw [Z.failed_eq, decide_eq_false_iff_not]
    rintro rfl
    cases hone
  stops _ status output := by cases status <;> simp
  progress state input hgoes := by
    cases hstatus : (Z.dctx.call state STREAM_DECOMPRESS_CHUNK input).status with
    | error => rw [hstatus] at hgoes; cases hgoes
    | remaining hint =>
      rw [hstatus] at hgoes
      by_cases hstalled : (Z.dctx.call state STREAM_DECOMPRESS_CHUNK input).output = []
      · simp only [hstalled] at hgoes
        cases hgoes
      · exact .inr hstalled

/-! ## Decompressors -/

/-- The `z_stream` of a decompressor.  `windowPending`: a deflate stream that
waits for the first body bytes. -/
inductive ZStream (Z : Zlib) where
  | windowPending
  | notOpened
  | opened (zs : Z.stream.State)

inductive StreamDecompressor (L : Libraries) where
  | zlib (zs : ZStream L.zlib)
  | brotli (state : L.brotli.decoder.State)
  | zstd (dctx : L.zstd.dctx.State)

section Feed

variable (L : Libraries)

def initStreamDecompressor : ContentEncoding → Option (StreamDecompressor L)
  | .gzip => (L.zlib.inflateInit2 (16 + MAX_WBITS)).map fun zs => .zlib (.opened zs)
  | .deflate => some (.zlib .windowPending)
  | .brotli => L.brotli.createInstance.map .brotli
  | _ => L.zstd.createDCtx.map .zstd

/-- `none` for identity, and when the decoder could not be created. -/
def buildStreamDecompressor (encoding : ContentEncoding) : Option (StreamDecompressor L) :=
  if encoding = .identity then none else initStreamDecompressor L encoding

def openDeflateWindow (Z : Zlib) (data : Bytes) : Int × ZStream Z :=
  match Z.inflateInit2 (deflateWindow data) with
  | none => (0, .notOpened)
  | some zs => (1, .opened zs)

variable {δ : Type} (consume : δ → Bytes → Int × δ)

/-- The loop of `feedZlib` on a stream whose window is not pending.
`avail_in` has 32 bits; inflate refuses a stream that was not initialised. -/
def inflateChunk (Z : Zlib) (zs : ZStream Z) (data : Bytes) (ctx : δ) :
    Fed (ZStream Z) UInt8 δ :=
  let availIn := data.length % 2 ^ 32
  match zs with
  | .opened stream =>
    let fed := (zlibLoop Z).feed consume stream (data.take availIn) ctx
    ⟨fed.result, .opened fed.state, fed.rest ++ data.drop availIn, fed.ctx⟩
  | zs => ⟨if availIn = 0 then 1 else -1, zs, data, ctx⟩

def feedZlib (Z : Zlib) (zs : ZStream Z) (data : Bytes) (ctx : δ) : Fed (ZStream Z) UInt8 δ :=
  match zs with
  | .windowPending =>
    let (opened, zs) := openDeflateWindow Z data
    if opened = 0 then ⟨-1, zs, data, ctx⟩ else inflateChunk consume Z zs data ctx
  | zs => inflateChunk consume Z zs data ctx

def feedBrotli (B : Brotli) (state : B.decoder.State) (data : Bytes) (ctx : δ) :
    Fed B.decoder.State UInt8 δ :=
  (brotliLoop B).feed consume state data ctx

def feedZstd (Z : Zstd) (state : Z.dctx.State) (data : Bytes) (ctx : δ) :
    Fed Z.dctx.State UInt8 δ :=
  (zstdLoop Z).feed consume state data ctx

/-- 1 when the input was accepted, 0 when the consumer stopped, -1 on a
decoding error. -/
def feedDecoder (decompressor : StreamDecompressor L) (data : Bytes) (ctx : δ) :
    Fed (StreamDecompressor L) UInt8 δ :=
  match decompressor with
  | .brotli state => (feedBrotli consume L.brotli state data ctx).map .brotli
  | .zstd state => (feedZstd consume L.zstd state data ctx).map .zstd
  | .zlib zs => (feedZlib consume L.zlib zs data ctx).map .zlib

/-- A missing decompressor is a pass-through. -/
def feedStreamDecompressor (decompressor : Option (StreamDecompressor L)) (data : Bytes)
    (ctx : δ) : Fed (Option (StreamDecompressor L)) UInt8 δ :=
  match decompressor with
  | none =>
    let (aborted, ctx) := consume ctx data
    ⟨if aborted = 0 then 1 else 0, none, [], ctx⟩
  | some decompressor => (feedDecoder L consume decompressor data ctx).map some

end Feed

/-! ## The funnel's view -/

/-- The state behind some chunks. -/
def behind (L : Libraries) (decompressor : StreamDecompressor L) (fed : List Bytes) :
    StreamDecompressor L :=
  fed.foldl (fun decompressor data => (feedDecoder L record decompressor data []).state)
    decompressor

/-- What the funnel sees of the decoders. -/
def decoderLib (L : Libraries) : DecoderLib where
  init encoding := (buildStreamDecompressor L encoding).isSome
  feed encoding fed data :=
    match buildStreamDecompressor L encoding with
    | none => ([], false)
    | some decompressor =>
      let recorded := feedDecoder L record (behind L decompressor fed) data []
      (recorded.ctx, recorded.result = 1)

section Sees

variable {δ : Type} (consume : δ → Bytes → Int × δ) (start : δ)

theorem inflateChunk_sees (Z : Zlib) (zs : ZStream Z) (data : Bytes) :
    SeesRecord consume start (inflateChunk consume Z zs data start)
      (inflateChunk record Z zs data []) := by
  cases zs with
  | opened stream =>
    have hfed := (zlibLoop Z).feed_seesRecord consume start stream
      (data.take (data.length % 2 ^ 32))
    exact ⟨hfed.ctx, hfed.result, fun hnone => congrArg ZStream.opened (hfed.state hnone)⟩
  | windowPending => exact ⟨rfl, rfl, fun _ => rfl⟩
  | notOpened => exact ⟨rfl, rfl, fun _ => rfl⟩

theorem feedZlib_sees (Z : Zlib) (zs : ZStream Z) (data : Bytes) :
    SeesRecord consume start (feedZlib consume Z zs data start) (feedZlib record Z zs data []) := by
  cases zs with
  | opened stream => exact inflateChunk_sees consume start Z (.opened stream) data
  | notOpened => exact inflateChunk_sees consume start Z .notOpened data
  | windowPending =>
    simp only [feedZlib]
    split
    · exact ⟨rfl, rfl, fun _ => rfl⟩
    · exact inflateChunk_sees consume start Z _ data

theorem feedDecoder_sees (L : Libraries) (decompressor : StreamDecompressor L) (data : Bytes) :
    SeesRecord consume start (feedDecoder L consume decompressor data start)
      (feedDecoder L record decompressor data []) := by
  cases decompressor with
  | zlib zs => exact (feedZlib_sees consume start L.zlib zs data).map _
  | brotli state => exact ((brotliLoop L.brotli).feed_seesRecord consume start state data).map _
  | zstd dctx => exact ((zstdLoop L.zstd).feed_seesRecord consume start dctx data).map _

end Sees

/-- A loop that no consumer stops ends with 1 or with -1. -/
theorem feed_result {κ : Type} {D : Decoder UInt8 UInt8 κ} (driver : Driver D)
    (hverdict : ∀ s data result, driver.outcome s data = some result → result = 1 ∨ result = -1)
    (s : D.State) (data : Bytes) :
    (driver.feed record s data []).result = 1 ∨ (driver.feed record s data []).result = -1 := by
  unfold Driver.feed
  split
  · exact .inl rfl
  · obtain ⟨s', data', -, -, -, hlast⟩ := driver.calls_last s data []
    exact hverdict s' data' _ hlast

theorem zlibLoop_outcome {Z : Zlib} {zs : Z.stream.State} {data : Bytes} {result : Int}
    (h : (zlibLoop Z).outcome zs data = some result) :
    ((zlibLoop Z).call zs data).status = .error ∧ result = -1 ∨
      (((zlibLoop Z).call zs data).status = .streamEnd ∨ (zlibLoop Z).left zs data = []) ∧
        result = 1 := by
  unfold Driver.outcome at h
  cases hstatus : ((zlibLoop Z).call zs data).status with
  | error =>
    rw [hstatus] at h
    exact .inl ⟨rfl, (Option.some.inj h).symm⟩
  | streamEnd =>
    rw [hstatus] at h
    exact .inr ⟨.inl rfl, (Option.some.inj h).symm⟩
  | ok =>
    rw [hstatus] at h
    change (if (zlibLoop Z).left zs data = [] then some 1 else none) = some result at h
    split at h
    · rename_i hrest
      exact .inr ⟨.inr hrest, (Option.some.inj h).symm⟩
    · cases h

theorem brotliLoop_outcome {B : Brotli} {state : B.decoder.State} {data : Bytes} {result : Int}
    (h : (brotliLoop B).outcome state data = some result) :
    ((brotliLoop B).call state data).status = .error ∧ result = -1 ∨
      (((brotliLoop B).call state data).status = .success ∨
        ((brotliLoop B).call state data).status = .needsMoreInput) ∧ result = 1 := by
  unfold Driver.outcome at h
  cases hstatus : ((brotliLoop B).call state data).status with
  | error =>
    rw [hstatus] at h
    exact .inl ⟨rfl, (Option.some.inj h).symm⟩
  | success =>
    rw [hstatus] at h
    exact .inr ⟨.inl rfl, (Option.some.inj h).symm⟩
  | needsMoreOutput =>
    rw [hstatus] at h
    cases h
  | needsMoreInput =>
    have hleft : (brotliLoop B).left state data = [] := (B.needsMoreInput state _ data hstatus).1
    rw [hstatus, hleft] at h
    exact .inr ⟨.inr rfl, (Option.some.inj h).symm⟩

theorem zstdLoop_outcome {Z : Zstd} {dctx : Z.dctx.State} {data : Bytes} {result : Int}
    (h : (zstdLoop Z).outcome dctx data = some result) :
    ((zstdLoop Z).call dctx data).status = .error ∧ result = -1 ∨
      (((zstdLoop Z).call dctx data).output = [] ∨ (zstdLoop Z).left dctx data = []) ∧
        result = 1 := by
  unfold Driver.outcome at h
  cases hstatus : ((zstdLoop Z).call dctx data).status with
  | error =>
    rw [hstatus] at h
    exact .inl ⟨rfl, (Option.some.inj h).symm⟩
  | remaining hint =>
    rw [hstatus] at h
    change (if ((zstdLoop Z).call dctx data).output = [] then some 1
      else if (zstdLoop Z).left dctx data = [] then some 1 else none) = some result at h
    split at h
    · rename_i hstalled
      exact .inr ⟨.inl hstalled, (Option.some.inj h).symm⟩
    · split at h
      · rename_i hrest
        exact .inr ⟨.inr hrest, (Option.some.inj h).symm⟩
      · cases h

theorem feedZlib_result (Z : Zlib) (zs : ZStream Z) (data : Bytes) :
    (feedZlib record Z zs data ([] : List Bytes)).result = 1 ∨
      (feedZlib record Z zs data ([] : List Bytes)).result = -1 := by
  have hchunk (zs : ZStream Z) : (inflateChunk record Z zs data ([] : List Bytes)).result = 1 ∨
      (inflateChunk record Z zs data ([] : List Bytes)).result = -1 := by
    cases zs with
    | opened stream =>
      exact feed_result (zlibLoop Z) (fun _ _ _ h => (zlibLoop_outcome h).symm.imp And.right And.right)
        stream _
    | windowPending => exact ite_eq_or_eq _ _ _
    | notOpened => exact ite_eq_or_eq _ _ _
  unfold feedZlib
  split
  · dsimp only
    split
    · exact .inr rfl
    · exact hchunk _
  · exact hchunk _

theorem feedDecoder_result (L : Libraries) (decompressor : StreamDecompressor L) (data : Bytes) :
    (feedDecoder L record decompressor data []).result = 1 ∨
      (feedDecoder L record decompressor data []).result = -1 := by
  cases decompressor with
  | zlib zs => exact feedZlib_result L.zlib zs data
  | brotli state =>
    exact feed_result (brotliLoop L.brotli)
      (fun _ _ _ h => (brotliLoop_outcome h).symm.imp And.right And.right) state data
  | zstd dctx =>
    exact feed_result (zstdLoop L.zstd)
      (fun _ _ _ h => (zstdLoop_outcome h).symm.imp And.right And.right) dctx data

theorem handAll_consumeResponseBody (delivery : BodyDelivery) (pieces : List Bytes) :
    handAll consumeResponseBody delivery pieces = consumePieces delivery pieces := by
  induction pieces generalizing delivery with
  | nil => rfl
  | cons piece pieces ih =>
    rw [handAll, consumePieces, ih]

/-- The funnel's view gives the result and the delivery of the loops, and as
long as the consumer does not stop, it follows their state. -/
theorem feedStreamDecompressor_refines {L : Libraries} {encoding : ContentEncoding}
    {decompressor : StreamDecompressor L}
    (hbuilt : buildStreamDecompressor L encoding = some decompressor) (fed : List Bytes)
    (data : Bytes) (delivery : BodyDelivery) :
    let viewed := HttpRequestClient.feedStreamDecompressor (decoderLib L) (some ⟨encoding, fed⟩)
      data delivery
    let now := feedStreamDecompressor L consumeResponseBody (some (behind L decompressor fed)) data
      delivery
    viewed.1 = now.result ∧ viewed.2.1 = some ⟨encoding, fed ++ [data]⟩ ∧ viewed.2.2 = now.ctx ∧
      (now.result ≠ 0 → now.state = some (behind L decompressor (fed ++ [data]))) := by
  intro viewed now
  obtain ⟨hctx, hresult, hstate⟩ :=
    feedDecoder_sees consumeResponseBody delivery L (behind L decompressor fed) data
  have hone := feedDecoder_result L (behind L decompressor fed) data
  rw [handAll_consumeResponseBody] at hctx hresult hstate
  have hviewed : viewed =
      (if (consumePieces delivery (feedDecoder L record (behind L decompressor fed) data []).ctx).1
          then 0
        else if (feedDecoder L record (behind L decompressor fed) data []).result = 1 then 1
        else -1,
        some ⟨encoding, fed ++ [data]⟩,
        (consumePieces delivery
          (feedDecoder L record (behind L decompressor fed) data []).ctx).2) := by
    show HttpRequestClient.feedStreamDecompressor (decoderLib L) _ _ _ = _
    simp only [HttpRequestClient.feedStreamDecompressor, decoderLib, hbuilt, decide_eq_true_eq]
  rw [hviewed]
  refine ⟨?_, rfl, hctx.symm, fun hgoes => ?_⟩
  · refine Eq.trans ?_ hresult.symm
    dsimp only
    split
    · rfl
    · rcases hone with hone | hone
      · simp [hone]
      · simp [hone]
  · have hnone : (consumePieces delivery
        (feedDecoder L record (behind L decompressor fed) data []).ctx).1 = false := by
      cases hstop : (consumePieces delivery
          (feedDecoder L record (behind L decompressor fed) data []).ctx).1 with
      | false => rfl
      | true =>
        rw [hstop] at hresult
        exact absurd hresult hgoes
    refine congrArg some ((hstate hnone).trans ?_)
    rw [behind, behind, List.foldl_append]
    rfl

/-! ## The end of the data -/

/-- The status of the last call for some chunks. -/
def lastStatus {κ : Type} {D : Decoder UInt8 UInt8 κ} (driver : Driver D) (s : D.State)
    (chunks : List Bytes) : Option κ :=
  (driver.callsAll s chunks).getLast?.map fun last => (driver.call last.1 last.2).status

/-- The stream that the first chunk finds or opens. -/
def ZStream.open? {Z : Zlib} (zs : ZStream Z) (chunks : List Bytes) : Option Z.stream.State :=
  match zs with
  | .windowPending => chunks.head?.bind fun first => Z.inflateInit2 (deflateWindow first)
  | .notOpened => none
  | .opened stream => some stream

/-- The library reported the end of the data: `Z_STREAM_END`,
`BROTLI_DECODER_RESULT_SUCCESS`, or zero for a complete frame of zstd. -/
def StreamDecompressor.ReachesEnd (L : Libraries) (decompressor : StreamDecompressor L)
    (fed : List Bytes) : Prop :=
  match decompressor with
  | .zlib zs =>
    ∃ stream, zs.open? fed = some stream ∧
      lastStatus (zlibLoop L.zlib) stream (fed.map fun chunk => chunk.take (chunk.length % 2 ^ 32)) =
        some .streamEnd
  | .brotli state => lastStatus (brotliLoop L.brotli) state fed = some .success
  | .zstd dctx => lastStatus (zstdLoop L.zstd) dctx fed = some (.remaining 0)

/-- The decoder of a body reached the end of the data.  The funnel does not
feed it empty chunks. -/
def EndReached (L : Libraries) (encoding : ContentEncoding) (chunks : List Bytes) : Prop :=
  ∃ decompressor, buildStreamDecompressor L encoding = some decompressor ∧
    decompressor.ReachesEnd L (chunks.filter (· ≠ []))

end HttpRequestClient.CompressHandler
