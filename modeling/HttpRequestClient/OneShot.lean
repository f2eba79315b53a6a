import HttpRequestClient.StreamedBodies
import HttpRequestClient.Lib.Growing
import HttpRequestClient.ResponsePayload

/-!
# The one-shot decoders of `CompressHandler.c`

A body that was buffered whole is decoded by one of `decompress_GZip`,
`decompress_Deflate`, `decompress_Brotli` and `decompress_Zstd`: a loop around
the calls of a library, with an output buffer that is doubled while there is
more to come.  Sizes are in `size_t`, which no object in memory exceeds.

* `decompress_iff`: which bodies are decoded, to what, and with what memory.
* `decompress_buffer`: how long the buffer is, and when the terminating zero
  byte stands in it.
* `decompress_streams`: the chunks of the same body through the streaming
  decoder.
-/

namespace HttpRequestClient.CompressHandler

open Streaming

/-! ## Loops -/

/-- The loop of `decompress_GZip` and `decompress_Deflate`.  `avail_out` has 32
bits, and the buffer is doubled behind every call that does not end it. -/
def inflateLoop (Z : Zlib) : Growth Z.stream where
  offered room := room % 4294967296
  verdict
    | .streamEnd => .done
    | .ok => .more
    | .error => .failed
  growsAlways := true
  patience _ := 0
  offered_le _ := Nat.mod_le _ _
  accepts status hgoes := by
    rw [Z.failed_eq, decide_eq_false_iff_not]
    rintro rfl
    exact hgoes rfl
  progress zs room input _ hmore := by
    cases hstatus : (Z.stream.call zs (room % 4294967296) input).status with
    | ok =>
      rcases Z.progress zs _ input hstatus with hused | houtput
      · exact .inl hused
      · exact .inr (.inl houtput)
    | streamEnd => rw [hstatus] at hmore; cases hmore
    | error => rw [hstatus] at hmore; cases hmore

/-- The loop of `decompress_Brotli`. -/
def brotliGrowth (B : Brotli) : Growth B.decoder where
  offered room := room
  verdict
    | .success => .done
    | .needsMoreOutput => .more
    | .needsMoreInput => .failed
    | .error => .failed
  growsAlways := true
  patience _ := 0
  offered_le _ := Nat.le_refl _
  accepts status hgoes := by
    rw [B.failed_eq, decide_eq_false_iff_not]
    rintro rfl
    exact hgoes rfl
  progress state room input hroom hmore := by
    cases hstatus : (B.decoder.call state room input).status with
    | needsMoreOutput =>
      have hfull := B.needsMoreOutput state room input hstatus
      exact .inr (.inl (List.length_pos_iff.mp (by omega)))
    | success => rw [hstatus] at hmore; cases hmore
    | needsMoreInput => rw [hstatus] at hmore; cases hmore
    | error => rw [hstatus] at hmore; cases hmore

/-- The loop of `decompress_Zstd` for a frame of unknown size.  The buffer is
doubled only when it is full. -/
def zstdGrowth (Z : Zstd) : Growth Z.dctx where
  offered room := room
  verdict
    | .error => .failed
    | .remaining 0 => .done
    | .remaining (_ + 1) => .more
  growsAlways := false
  patience := Z.tolerated
  offered_le _ := Nat.le_refl _
  accepts status hgoes := by
    rw [Z.failed_eq, decide_eq_false_iff_not]
    rintro rfl
    exact hgoes rfl
  progress state room input hroom hmore := by
    cases hstatus : (Z.dctx.call state room input).status with
    | error => rw [hstatus] at hmore; cases hmore
    | remaining hint =>
      cases hint with
      | zero => rw [hstatus] at hmore; cases hmore
      | succ hint => exact Z.progress state room input hint hroom hstatus

/-! ## Decoders -/

/-- What a decoder hands back, and the length of the buffer of the payload. -/
structure OneShot where
  object : DecompressedObj
  buffer : Nat
deriving DecidableEq, Repr

def OneShot.refused (error : Error) : OneShot := ⟨⟨[], some error⟩, 0⟩

/-- The first buffer for a body. -/
def firstSize (factor : Nat) (payload : Bytes) : Nat :=
  let decompressedSize := payload.length * factor
  if decompressedSize < 4096 then 4096 else decompressedSize

theorem firstSize_pos (factor : Nat) (payload : Bytes) : 0 < firstSize factor payload := by
  unfold firstSize
  dsimp only
  split <;> omega

/-- `avail_in` has 32 bits. -/
def availIn (payload : Bytes) : Bytes := payload.take (payload.length % 4294967296)

section Decoders

variable (malloc : Nat → Bool)

/-- The end of a loop as the caller sees it. -/
def OneShot.ofGrown {α κ : Type} {D : Decoder α UInt8 κ} (error : Error) : Grown D → OneShot
  | .done _ decompressed size => ⟨⟨decompressed, none⟩, size⟩
  | .failed => .refused error
  | .noMemory => .refused ERR_SYSTEM_MEMORY_ALLOCATION_FAILED

/-- A zlib stream with some window bits on a whole body; `none` when it could
not be initialised. -/
def inflateBody (Z : Zlib) (windowBits : Int) (combinedPayload : Bytes) :
    Option (Grown Z.stream) :=
  (Z.inflateInit2 windowBits).map fun zs =>
    (inflateLoop Z).grow malloc
      (.start zs (availIn combinedPayload) _ (firstSize_pos 4 combinedPayload))

def OneShot.ofInflate {Z : Zlib} (error : Error) : Option (Grown Z.stream) → OneShot
  | none => .refused error
  | some grown => .ofGrown error grown

def decompress_GZip (Z : Zlib) (combinedPayload : Bytes) : OneShot :=
  .ofInflate ERR_RESPONSE_GZIP_INFLATE_FAILED
    (inflateBody malloc Z (16 + MAX_WBITS) combinedPayload)

def decompress_Brotli (B : Brotli) (payload : Bytes) : OneShot :=
  match B.createInstance with
  | none => .refused ERR_SYSTEM_MEMORY_ALLOCATION_FAILED
  | some state =>
    .ofGrown ERR_RESPONSE_BROTLI_INFLATE_FAILED
      ((brotliGrowth B).grow malloc (.start state payload _ (firstSize_pos 8 payload)))

/-- Raw deflate first; any status but `Z_OK` and `Z_STREAM_END` leads to a
second attempt, for a stream with the wrapper of zlib. -/
def decompress_Deflate (Z : Zlib) (combinedPayload : Bytes) : OneShot :=
  match inflateBody malloc Z (-MAX_WBITS) combinedPayload with
  | some .failed =>
    .ofInflate ERR_RESPONSE_DEFLATE_INFLATE_FAILED (inflateBody malloc Z MAX_WBITS combinedPayload)
  | attempt => .ofInflate ERR_RESPONSE_DEFLATE_INFLATE_FAILED attempt

/-- The streaming mode of `decompress_Zstd`. -/
def decompressZstdStream (Z : Zstd) (combinedPayload : Bytes) : OneShot :=
  match Z.createDCtx with
  | none => .refused ERR_SYSTEM_MEMORY_ALLOCATION_FAILED
  | some dctx =>
    .ofGrown ERR_RESPONSE_ZSTD_INFLATE_FAILED
      ((zstdGrowth Z).grow malloc
        (.start dctx combinedPayload _ (firstSize_pos 4 combinedPayload)))

/-- A frame with a known content size is decoded at once, up to 100 MiB. -/
def decompress_Zstd (Z : Zstd) (combinedPayload : Bytes) : OneShot :=
  match Z.getFrameContentSize combinedPayload with
  | .known decompressedSize =>
    if decompressedSize > 100 * 1024 * 1024 then .refused ERR_RESPONSE_ZSTD_INFLATE_FAILED
    else if malloc (decompressedSize + 1) = false then
      .refused ERR_SYSTEM_MEMORY_ALLOCATION_FAILED
    else
      match Z.decompress decompressedSize combinedPayload with
      | none => .refused ERR_RESPONSE_ZSTD_INFLATE_FAILED
      | some decompressed => ⟨⟨decompressed, none⟩, decompressedSize + 1⟩
  | _ => decompressZstdStream malloc Z combinedPayload

/-- The decoder that `finalizeResponsePayload` calls for a coding.  It calls
none for identity. -/
def decompress (L : Libraries) (encoding : ContentEncoding) (body : Bytes) : OneShot :=
  match encoding with
  | .gzip => decompress_GZip malloc L.zlib body
  | .brotli => decompress_Brotli malloc L.brotli body
  | .deflate => decompress_Deflate malloc L.zlib body
  | .zstd => decompress_Zstd malloc L.zstd body
  | .identity => .refused ERR_RESPONSE_INFLATE_UNKNOWN_ERROR

end Decoders

/-! ## Memory -/

/-- What a decoder asks for: the context of its library, or a buffer. -/
inductive Ask where
  | inflateInit2 (windowBits : Int)
  | createInstance
  | createDCtx
  | buffer (size : Nat)

def Ask.had (malloc : Nat → Bool) (L : Libraries) : Ask → Bool
  | .inflateInit2 windowBits => (L.zlib.inflateInit2 windowBits).isSome
  | .createInstance => L.brotli.createInstance.isSome
  | .createDCtx => L.zstd.createDCtx.isSome
  | .buffer size => malloc size

/-- The error when it is not had. -/
def Ask.missing (encoding : ContentEncoding) : Ask → Error
  | .inflateInit2 _ => decodeError encoding
  | _ => ERR_SYSTEM_MEMORY_ALLOCATION_FAILED

def inflateAsks (Z : Zlib) (windowBits : Int) (body : Bytes) : List Ask :=
  .inflateInit2 windowBits ::
    match Z.inflateInit2 windowBits with
    | none => []
    | some zs =>
      ((inflateLoop Z).sizes (.start zs (availIn body) _ (firstSize_pos 4 body))).map .buffer

def brotliAsks (B : Brotli) (body : Bytes) : List Ask :=
  .createInstance ::
    match B.createInstance with
    | none => []
    | some state =>
      ((brotliGrowth B).sizes (.start state body _ (firstSize_pos 8 body))).map .buffer

def zstdStreamAsks (Z : Zstd) (body : Bytes) : List Ask :=
  .createDCtx ::
    match Z.createDCtx with
    | none => []
    | some dctx => ((zstdGrowth Z).sizes (.start dctx body _ (firstSize_pos 4 body))).map .buffer

/-- What a decoder asks for, in order, until something is not had. -/
def asks (L : Libraries) (encoding : ContentEncoding) (body : Bytes) : List Ask :=
  match encoding with
  | .gzip => inflateAsks L.zlib (16 + MAX_WBITS) body
  | .deflate =>
    inflateAsks L.zlib (-MAX_WBITS) body ++
      match inflateBody (fun _ => true) L.zlib (-MAX_WBITS) body with
      | some .failed => inflateAsks L.zlib MAX_WBITS body
      | _ => []
  | .brotli => brotliAsks L.brotli body
  | .zstd =>
    match L.zstd.getFrameContentSize body with
    | .known size => if size > 100 * 1024 * 1024 then [] else [.buffer (size + 1)]
    | _ => zstdStreamAsks L.zstd body
  | .identity => []

def firstMissing (malloc : Nat → Bool) (L : Libraries) (asked : List Ask) : Option Ask :=
  asked.find? fun ask => !ask.had malloc L

section Asks

variable {malloc : Nat → Bool} {L : Libraries} {body : Bytes}

theorem firstMissing_cons_had {ask : Ask} (h : ask.had malloc L = true) (asked : List Ask) :
    firstMissing malloc L (ask :: asked) = firstMissing malloc L asked :=
  List.find?_cons_of_neg (by rw [h]; decide)

theorem firstMissing_cons_missing {ask : Ask} (h : ask.had malloc L = false) (asked : List Ask) :
    firstMissing malloc L (ask :: asked) = some ask :=
  List.find?_cons_of_pos (by rw [h]; decide)

theorem firstMissing_buffers (sizes : List Nat) :
    firstMissing malloc L (sizes.map .buffer) = (sizes.find? (!malloc ·)).map .buffer :=
  List.find?_map

/-- A loop with its buffers. -/
theorem grow_missing {κ : Type} {D : Decoder UInt8 UInt8 κ} (G : Growth D) (loop : Loop D) :
    G.grow malloc loop =
      match firstMissing malloc L ((G.sizes loop).map .buffer) with
      | none => G.grow (fun _ => true) loop
      | some _ => .noMemory := by
  rw [firstMissing_buffers, G.grow_malloc malloc]
  cases hmissing : (G.sizes loop).find? (!malloc ·) with
  | none =>
    have hall : (G.sizes loop).all malloc = true := by
      rw [List.all_eq_true]
      intro size hsize
      simpa using List.find?_eq_none.mp hmissing size hsize
    exact if_pos hall
  | some size =>
    have hsize := List.find?_some hmissing
    refine if_neg fun hall => ?_
    rw [List.all_eq_true.mp hall size (List.mem_of_find?_eq_some hmissing)] at hsize
    cases hsize

/-- A zlib stream with what it asks for. -/
theorem inflateBody_missing (windowBits : Int) :
    inflateBody malloc L.zlib windowBits body =
      match firstMissing malloc L (inflateAsks L.zlib windowBits body) with
      | none => inflateBody (fun _ => true) L.zlib windowBits body
      | some (.inflateInit2 _) => none
      | some _ => some .noMemory := by
  unfold inflateBody inflateAsks
  cases hinit : L.zlib.inflateInit2 windowBits with
  | none =>
    rw [firstMissing_cons_missing]
    · rfl
    · rw [Ask.had, hinit]
      rfl
  | some zs =>
    rw [firstMissing_cons_had (by rw [Ask.had, hinit]; rfl), Option.map_some,
      grow_missing (L := L)]
    rw [firstMissing_buffers]
    cases (Growth.sizes _ _).find? (!malloc ·) with
    | none => rfl
    | some size => rfl

theorem ofInflate_missing (encoding : ContentEncoding) (windowBits : Int) :
    OneShot.ofInflate (decodeError encoding) (inflateBody malloc L.zlib windowBits body) =
      match firstMissing malloc L (inflateAsks L.zlib windowBits body) with
      | none =>
        .ofInflate (decodeError encoding) (inflateBody (fun _ => true) L.zlib windowBits body)
      | some ask => .refused (ask.missing encoding) := by
  rw [inflateBody_missing]
  cases firstMissing malloc L (inflateAsks L.zlib windowBits body) with
  | none => rfl
  | some ask => cases ask <;> rfl

theorem decompress_Deflate_missing :
    decompress_Deflate malloc L.zlib body =
      match firstMissing malloc L (asks L .deflate body) with
      | none => decompress_Deflate (fun _ => true) L.zlib body
      | some ask => .refused (ask.missing .deflate) := by
  have hraw : inflateBody malloc L.zlib (-MAX_WBITS) body = _ := inflateBody_missing (-MAX_WBITS)
  have hasks : firstMissing malloc L (asks L .deflate body) =
      (firstMissing malloc L (inflateAsks L.zlib (-MAX_WBITS) body)).or
        (firstMissing malloc L
          (match inflateBody (fun _ => true) L.zlib (-MAX_WBITS) body with
          | some .failed => inflateAsks L.zlib MAX_WBITS body
          | _ => [])) := List.find?_append
  unfold decompress_Deflate
  rw [hasks, hraw]
  cases firstMissing malloc L (inflateAsks L.zlib (-MAX_WBITS) body) with
  | some ask => cases ask <;> rfl
  | none =>
    rw [Option.none_or]
    dsimp only
    cases inflateBody (fun _ => true) L.zlib (-MAX_WBITS) body with
    | none => rfl
    | some grown =>
      cases grown with
      | failed => exact ofInflate_missing .deflate MAX_WBITS
      | done state output size => rfl
      | noMemory => rfl

theorem decompress_Brotli_missing :
    decompress_Brotli malloc L.brotli body =
      match firstMissing malloc L (brotliAsks L.brotli body) with
      | none => decompress_Brotli (fun _ => true) L.brotli body
      | some ask => .refused (ask.missing .brotli) := by
  unfold decompress_Brotli brotliAsks
  cases hcreate : L.brotli.createInstance with
  | none =>
    rw [firstMissing_cons_missing (by rw [Ask.had, hcreate]; rfl)]
    rfl
  | some state =>
    rw [firstMissing_cons_had (by rw [Ask.had, hcreate]; rfl)]
    dsimp only
    rw [grow_missing (L := L), firstMissing_buffers]
    cases (Growth.sizes _ _).find? (!malloc ·) with
    | none => rfl
    | some size => rfl

theorem decompressZstdStream_missing :
    decompressZstdStream malloc L.zstd body =
      match firstMissing malloc L (zstdStreamAsks L.zstd body) with
      | none => decompressZstdStream (fun _ => true) L.zstd body
      | some ask => .refused (ask.missing .zstd) := by
  unfold decompressZstdStream zstdStreamAsks
  cases hcreate : L.zstd.createDCtx with
  | none =>
    rw [firstMissing_cons_missing (by rw [Ask.had, hcreate]; rfl)]
    rfl
  | some state =>
    rw [firstMissing_cons_had (by rw [Ask.had, hcreate]; rfl)]
    dsimp only
    rw [grow_missing (L := L), firstMissing_buffers]
    cases (Growth.sizes _ _).find? (!malloc ·) with
    | none => rfl
    | some size => rfl

theorem decompress_Zstd_missing :
    decompress_Zstd malloc L.zstd body =
      match firstMissing malloc L (asks L .zstd body) with
      | none => decompress_Zstd (fun _ => true) L.zstd body
      | some ask => .refused (ask.missing .zstd) := by
  unfold decompress_Zstd asks
  cases L.zstd.getFrameContentSize body with
  | unknown => exact decompressZstdStream_missing
  | error => exact decompressZstdStream_missing
  | known size =>
    dsimp only
    by_cases hlarge : size > 100 * 1024 * 1024
    · rw [if_pos hlarge, if_pos hlarge, if_pos hlarge]
      rfl
    · rw [if_neg hlarge, if_neg hlarge, if_neg hlarge]
      cases hmalloc : malloc (size + 1) with
      | true =>
        have hhad : (Ask.buffer (size + 1)).had malloc L = true := hmalloc
        rw [firstMissing_cons_had hhad]
        rfl
      | false =>
        have hnone : (Ask.buffer (size + 1)).had malloc L = false := hmalloc
        rw [firstMissing_cons_missing hnone]
        rfl

/-- A decoder does what it does with all memory, until something is not had. -/
theorem decompress_asks (malloc : Nat → Bool) (L : Libraries) (encoding : ContentEncoding)
    (body : Bytes) :
    decompress malloc L encoding body =
      match firstMissing malloc L (asks L encoding body) with
      | none => decompress (fun _ => true) L encoding body
      | some ask => .refused (ask.missing encoding) := by
  cases encoding with
  | identity => rfl
  | gzip => exact ofInflate_missing .gzip (16 + MAX_WBITS)
  | deflate => exact decompress_Deflate_missing
  | brotli => exact decompress_Brotli_missing
  | zstd => exact decompress_Zstd_missing

/-- Everything that a decoder asks for is had. -/
def MemoryHad (malloc : Nat → Bool) (L : Libraries) (encoding : ContentEncoding)
    (body : Bytes) : Prop :=
  ∀ ask ∈ asks L encoding body, ask.had malloc L = true

theorem firstMissing_none_iff (malloc : Nat → Bool) (L : Libraries) (encoding : ContentEncoding)
    (body : Bytes) :
    firstMissing malloc L (asks L encoding body) = none ↔ MemoryHad malloc L encoding body := by
  rw [firstMissing, List.find?_eq_none, MemoryHad]
  simp only [Bool.not_eq_true', Bool.not_eq_false]

end Asks

/-! ## What is decoded -/

/-- A body that begins with complete data, and what the data decodes to. -/
def BeginsWith (format : Format UInt8 UInt8) (body payload : Bytes) : Prop :=
  ∃ encoded, encoded <+: body ∧ format.Finished encoded ∧ payload = format.decode encoded

/-- What a body is for its coding.  What follows the data is ignored, but not
behind a zstd frame of known size.  A deflate body has the wrapper of zlib only
if it does not begin with raw deflate data. -/
def Decoded (L : Libraries) (encoding : ContentEncoding) (body payload : Bytes) : Prop :=
  match encoding with
  | .gzip => BeginsWith (L.zlib.format (16 + MAX_WBITS)) body payload
  | .brotli => BeginsWith L.brotli.format body payload
  | .deflate =>
    BeginsWith (L.zlib.format (-MAX_WBITS)) body payload ∨
      (∀ raw, ¬BeginsWith (L.zlib.format (-MAX_WBITS)) body raw) ∧
        BeginsWith (L.zlib.format MAX_WBITS) body payload
  | .zstd =>
    match L.zstd.getFrameContentSize body with
    | .known size =>
      size ≤ 100 * 1024 * 1024 ∧ Frames L.zstd.format body payload ∧ payload.length ≤ size
    | _ => BeginsWith L.zstd.format body payload
  | .identity => False

/-- The counters of zlib have 32 bits.  A body below 1 GiB whose output is
below 2 GiB is within them. -/
def WithinCounters (L : Libraries) (body : Bytes) : Prop :=
  body.length < 2 ^ 30 ∧
    ∀ windowBits payload, BeginsWith (L.zlib.format windowBits) body payload →
      payload.length < 2 ^ 31

section Loops

theorem inflateLoop_sound (Z : Zlib) (windowBits : Int) :
    (inflateLoop Z).Sound (Z.format windowBits) where
  streamed := Z.streamed windowBits
  done zs room input hformat _ := by
    rw [← hformat, ← Z.streamEnd zs room input]
    show (inflateLoop Z).verdict _ = .done ↔ _
    cases (Z.stream.call zs room input).status <;> simp [inflateLoop]
  stays zs room input encoded hformat _ hfinished := by
    rw [← hformat, ← Z.stream.format_call zs room input] at hfinished
    exact Z.finished _ encoded hfinished

theorem inflateLoop_complete (Z : Zlib) (windowBits : Int) {limit : Nat}
    (hlimit : limit < 2 ^ 32) : (inflateLoop Z).Complete (Z.format windowBits) limit where
  sound := inflateLoop_sound Z windowBits
  offered room hroom := Nat.mod_eq_of_lt (Nat.lt_of_le_of_lt hroom hlimit)
  within zs room input encoded hformat _ hfinished := by
    rw [← hformat] at hfinished ⊢
    exact Z.within zs room input encoded hfinished
  refused zs room input hformat _ hroom hfailed := by
    cases hstatus : (Z.stream.call zs room input).status with
    | ok => rw [hstatus] at hfailed; cases hfailed
    | streamEnd => rw [hstatus] at hfailed; cases hfailed
    | error =>
      rcases Z.error zs room input hroom hstatus with hbroken | ⟨hnil, hdrained⟩
      · refine .inl fun encoded hfinished hbefore => ?_
        obtain ⟨more, hmore⟩ := hbefore
        have hvalid := Z.valid windowBits encoded more hfinished
        rw [hmore, ← hformat] at hvalid
        exact hbroken [] (by rwa [List.append_nil])
      · refine .inr ⟨?_, hdrained⟩
        rw [Decoder.left, hnil, List.drop_nil]
  fills _ zs room input hmore hlt := by
    cases hstatus : (Z.stream.call zs room input).status with
    | ok => exact Z.stops zs room input hstatus hlt
    | error => rw [hstatus] at hmore; cases hmore
    | streamEnd => rw [hstatus] at hmore; cases hmore

theorem brotliGrowth_sound (B : Brotli) : (brotliGrowth B).Sound B.format where
  streamed := B.streamed
  done state room input hformat _ := by
    rw [← hformat, ← B.success state room input]
    show (brotliGrowth B).verdict _ = .done ↔ _
    cases (B.decoder.call state room input).status <;> simp [brotliGrowth]
  stays state room input encoded hformat _ hfinished := by
    rw [← hformat, ← B.decoder.format_call state room input] at hfinished
    exact B.finished _ encoded hfinished

theorem brotliGrowth_complete (B : Brotli) (limit : Nat) :
    (brotliGrowth B).Complete B.format limit where
  sound := brotliGrowth_sound B
  offered _ _ := rfl
  within state room input encoded hformat _ hfinished := by
    rw [← hformat] at hfinished ⊢
    exact B.within state room input encoded hfinished
  refused state room input hformat _ _ hfailed := by
    refine .inl fun encoded hfinished hbefore => ?_
    cases hstatus : (B.decoder.call state room input).status with
    | success => rw [hstatus] at hfailed; cases hfailed
    | needsMoreOutput => rw [hstatus] at hfailed; cases hfailed
    | error =>
      obtain ⟨more, hmore⟩ := hbefore
      have hvalid := B.valid encoded more hfinished
      rw [hmore, ← hformat] at hvalid
      exact B.error state room input hstatus [] (by rwa [List.append_nil])
    | needsMoreInput =>
      obtain ⟨hleft, hunfinished⟩ := B.needsMoreInput state room input hstatus
      have htaken := B.decoder.taken_of_left_nil hleft
      rw [← hformat, ← B.decoder.format_call state room input] at hfinished
      have hsame := B.finished _ encoded hfinished (by rw [htaken]; exact hbefore)
      rw [hsame, ← B.decoder.format_call state room input] at hunfinished
      exact hunfinished hfinished
  fills _ state room input hmore hlt := by
    cases hstatus : (B.decoder.call state room input).status with
    | needsMoreOutput =>
      have hfull := B.needsMoreOutput state room input hstatus
      omega
    | success => rw [hstatus] at hmore; cases hmore
    | error => rw [hstatus] at hmore; cases hmore
    | needsMoreInput => rw [hstatus] at hmore; cases hmore

theorem zstdGrowth_sound (Z : Zstd) : (zstdGrowth Z).Sound Z.format where
  streamed := Z.streamed
  done state room input hformat hopen := by
    rw [← hformat, ← Z.complete state room input hopen]
    show (zstdGrowth Z).verdict _ = .done ↔ _
    cases (Z.dctx.call state room input).status with
    | error => simp [zstdGrowth]
    | remaining hint => cases hint <;> simp [zstdGrowth]
  stays state room input encoded hformat hopen hfinished := by
    rw [← hformat] at hfinished
    exact Z.finished state room input encoded hopen hfinished

theorem zstdGrowth_complete (Z : Zstd) (limit : Nat) : (zstdGrowth Z).Complete Z.format limit where
  sound := zstdGrowth_sound Z
  offered _ _ := rfl
  within state room input encoded hformat hopen hfinished := by
    rw [← hformat] at hfinished ⊢
    exact Z.within state room input encoded hopen hfinished
  refused state room input hformat hopen hroom hfailed := by
    rw [← hformat]
    cases hstatus : (Z.dctx.call state room input).status with
    | error =>
      rcases Z.broken state room input hopen hroom hstatus with hbroken | ⟨hnil, hdrained⟩
      · exact .inl hbroken
      · refine .inr ⟨?_, hdrained⟩
        rw [Decoder.left, hnil, List.drop_nil]
    | remaining hint => cases hint <;> (rw [hstatus] at hfailed; cases hfailed)
  fills halways := nomatch halways

end Loops

section Ends

variable {κ : Type} {D : Decoder UInt8 UInt8 κ}

theorem ofGrown_iff (error : Error) (grown : Grown D) (payload : Bytes) :
    (OneShot.ofGrown error grown).object = ⟨payload, none⟩ ↔
      ∃ state size, grown = .done state payload size := by
  cases grown with
  | done state output size => simp [OneShot.ofGrown]
  | failed => simp [OneShot.ofGrown, OneShot.refused]
  | noMemory => simp [OneShot.ofGrown, OneShot.refused]

/-- A loop that gets its memory is done or has failed. -/
theorem grow_ne_noMemory (G : Growth D) (loop : Loop D) :
    G.grow (fun _ => true) loop ≠ .noMemory := by
  refine G.run_rule (fun _ => true) (fun _ => True) (fun grown => grown ≠ .noMemory)
    (fun _ _ _ _ => trivial) ?_ trivial
  intro loop grown _ hstep
  rcases G.step_end (fun _ => true) hstep with ⟨-, hend⟩ | ⟨-, hend⟩ | ⟨-, -, hnone, -⟩
  · rw [hend]
    exact nofun
  · rw [hend]
    exact nofun
  · cases hnone

/-- The loop of a decoder on a whole body. -/
theorem grow_iff {G : Growth D} {format : Format UInt8 UInt8} {limit : Nat}
    (hcomplete : G.Complete format limit) {state : D.State} (hinitial : Initial format state)
    {body : Bytes} {size : Nat} (hsize : 0 < size) (hlimit : size ≤ limit) {payload : Bytes}
    (hshort : BeginsWith format body payload → 2 * payload.length ≤ limit) :
    (∃ last buffer,
        G.grow (fun _ => true) (.start state body size hsize) = .done last payload buffer) ↔
      BeginsWith format body payload := by
  have htracks : (Loop.start state body size hsize).Tracks format body :=
    Loop.start_tracks hcomplete.sound.streamed hinitial body size hsize
  constructor
  · intro h
    obtain ⟨last, buffer, hrun⟩ := h
    obtain ⟨encoded, hencoded, hfinished, hpayload, -⟩ :=
      Growth.run_sound hcomplete.sound htracks hrun
    exact ⟨encoded, hencoded, hfinished, hpayload⟩
  · intro h
    have hdouble := hshort h
    obtain ⟨encoded, hencoded, hfinished, rfl⟩ := h
    have hgiven : D.given state <+: format.decode encoded := by
      rw [hinitial.given]
      exact List.nil_prefix
    have hwithin : (Loop.start state body size hsize).Within format body encoded size :=
      ⟨htracks, hgiven, .inl rfl⟩
    rcases Growth.run_complete hcomplete hwithin hencoded hfinished hlimit hdouble with
      ⟨last, buffer, hrun, -⟩ | ⟨_, _, _, hnone⟩
    · exact ⟨last, buffer, hrun⟩
    · cases hnone

end Ends

/-! ### Each decoder -/

/-- A decoder that gives exactly what `Decodes` says, and an error where it
says nothing. -/
structure Settles (Decodes : Bytes → Prop) (error : Error) (result : OneShot) : Prop where
  decodes : ∀ payload, result.object = ⟨payload, none⟩ ↔ Decodes payload
  refuses : (∀ payload, ¬Decodes payload) → result.object = ⟨[], some error⟩

theorem settles_ofGrown {κ : Type} {D : Decoder UInt8 UInt8 κ} {Decodes : Bytes → Prop}
    (error : Error) {grown : Grown D} (hgiven : grown ≠ .noMemory)
    (hdone : ∀ payload, (∃ last buffer, grown = .done last payload buffer) ↔ Decodes payload) :
    Settles Decodes error (.ofGrown error grown) where
  decodes payload := (ofGrown_iff error grown payload).trans (hdone payload)
  refuses hnone := by
    cases grown with
    | done last payload buffer => exact absurd ((hdone payload).mp ⟨last, buffer, rfl⟩) (hnone _)
    | failed => rfl
    | noMemory => exact absurd rfl hgiven

section Each

variable {malloc : Nat → Bool} {L : Libraries} {body : Bytes}

theorem availIn_short (h : body.length < 2 ^ 32) : availIn body = body := by
  rw [availIn, show 4294967296 = 2 ^ 32 from rfl, Nat.mod_eq_of_lt h, List.take_length]

theorem firstSize_le {factor limit : Nat} (hsmall : 4096 ≤ limit)
    (hbody : body.length * factor ≤ limit) : firstSize factor body ≤ limit := by
  unfold firstSize
  dsimp only
  split <;> omega

/-- The end of a zlib stream on a body. -/
theorem inflateBody_ends (hcounters : WithinCounters L body) {windowBits : Int}
    (hhad : ∀ ask ∈ inflateAsks L.zlib windowBits body, ask.had malloc L = true) :
    ∃ grown, inflateBody (fun _ => true) L.zlib windowBits body = some grown ∧
      grown ≠ .noMemory ∧
      ∀ payload, (∃ last buffer, grown = .done last payload buffer) ↔
        BeginsWith (L.zlib.format windowBits) body payload := by
  obtain ⟨hlength, hshort⟩ := hcounters
  obtain ⟨zs, hinit⟩ := Option.isSome_iff_exists.mp (hhad _ List.mem_cons_self)
  refine ⟨(inflateLoop L.zlib).grow (fun _ => true) (.start zs body _ (firstSize_pos 4 body)), ?_,
    grow_ne_noMemory _ _, fun payload => ?_⟩
  · rw [inflateBody, hinit, Option.map_some, availIn_short (by omega)]
  · have hcomplete : (inflateLoop L.zlib).Complete (L.zlib.format windowBits) (2 ^ 32 - 1) :=
      inflateLoop_complete L.zlib windowBits (by decide)
    refine grow_iff hcomplete (L.zlib.init windowBits zs hinit).2 (firstSize_pos 4 body)
      (firstSize_le (by decide) (by omega)) fun h => ?_
    have hless := hshort windowBits payload h
    omega

theorem decompress_GZip_settles (hcounters : WithinCounters L body)
    (hhad : MemoryHad malloc L .gzip body) :
    Settles (Decoded L .gzip body) ERR_RESPONSE_GZIP_INFLATE_FAILED
      (decompress_GZip (fun _ => true) L.zlib body) := by
  obtain ⟨grown, hgrown, hgiven, hdone⟩ := inflateBody_ends hcounters hhad
  rw [decompress_GZip, hgrown]
  exact settles_ofGrown _ hgiven hdone

/-- The second attempt sees what the first one does not decode. -/
theorem decompress_Deflate_settles (hcounters : WithinCounters L body)
    (hhad : MemoryHad malloc L .deflate body) :
    Settles (Decoded L .deflate body) ERR_RESPONSE_DEFLATE_INFLATE_FAILED
      (decompress_Deflate (fun _ => true) L.zlib body) := by
  obtain ⟨hrawHad, hwrappedHad⟩ := List.forall_mem_append.mp hhad
  obtain ⟨raw, hraw, hrawGiven, hrawDone⟩ := inflateBody_ends hcounters hrawHad
  rw [hraw] at hwrappedHad
  rw [decompress_Deflate, hraw]
  cases raw with
  | noMemory => exact absurd rfl hrawGiven
  | failed =>
    obtain ⟨wrapped, hwrapped, hgiven, hdone⟩ := inflateBody_ends hcounters hwrappedHad
    have hnone : ∀ payload, ¬BeginsWith (L.zlib.format (-MAX_WBITS)) body payload := by
      intro payload hbegins
      obtain ⟨last, buffer, hend⟩ := (hrawDone payload).mpr hbegins
      cases hend
    dsimp only
    rw [hwrapped]
    refine settles_ofGrown _ hgiven fun payload => (hdone payload).trans ?_
    exact ⟨fun h => .inr ⟨hnone, h⟩, fun h => (h.resolve_left (hnone payload)).2⟩
  | done last payload buffer =>
    have hbegins := (hrawDone payload).mp ⟨last, buffer, rfl⟩
    refine settles_ofGrown _ hrawGiven fun other => (hrawDone other).trans ?_
    exact ⟨.inl, fun h => h.resolve_right fun hwrapped => hwrapped.1 payload hbegins⟩

theorem decompress_Brotli_settles (hhad : MemoryHad malloc L .brotli body) :
    Settles (Decoded L .brotli body) ERR_RESPONSE_BROTLI_INFLATE_FAILED
      (decompress_Brotli (fun _ => true) L.brotli body) := by
  obtain ⟨state, hcreate⟩ := Option.isSome_iff_exists.mp (hhad _ List.mem_cons_self)
  rw [decompress_Brotli, hcreate]
  refine settles_ofGrown _ (grow_ne_noMemory _ _) fun payload => ?_
  exact grow_iff
    (brotliGrowth_complete L.brotli (max (firstSize 8 body) (2 * payload.length)))
    (L.brotli.create state hcreate) (firstSize_pos 8 body) (Nat.le_max_left _ _)
    fun _ => Nat.le_max_right _ _

theorem decompressZstdStream_settles
    (hhad : ∀ ask ∈ zstdStreamAsks L.zstd body, ask.had malloc L = true) :
    Settles (BeginsWith L.zstd.format body) ERR_RESPONSE_ZSTD_INFLATE_FAILED
      (decompressZstdStream (fun _ => true) L.zstd body) := by
  obtain ⟨state, hcreate⟩ := Option.isSome_iff_exists.mp (hhad _ List.mem_cons_self)
  rw [decompressZstdStream, hcreate]
  refine settles_ofGrown _ (grow_ne_noMemory _ _) fun payload => ?_
  exact grow_iff (zstdGrowth_complete L.zstd (max (firstSize 4 body) (2 * payload.length)))
    (L.zstd.create state hcreate) (firstSize_pos 4 body) (Nat.le_max_left _ _)
    fun _ => Nat.le_max_right _ _

/-- What a frame of known size decodes to. -/
theorem decoded_known {size : Nat} (hsize : L.zstd.getFrameContentSize body = .known size)
    (payload : Bytes) :
    Decoded L .zstd body payload ↔
      size ≤ 100 * 1024 * 1024 ∧ L.zstd.decompress size body = some payload := by
  rw [L.zstd.decompress_reads, Decoded, hsize]

theorem decoded_unknown (L : Libraries)
    (hsize : ∀ size, L.zstd.getFrameContentSize body ≠ .known size) (payload : Bytes) :
    Decoded L .zstd body payload ↔ BeginsWith L.zstd.format body payload := by
  unfold Decoded
  dsimp only
  split
  · rename_i size hknown
    exact absurd hknown (hsize size)
  · exact Iff.rfl

theorem decompress_Zstd_settles (hhad : MemoryHad malloc L .zstd body) :
    Settles (Decoded L .zstd body) ERR_RESPONSE_ZSTD_INFLATE_FAILED
      (decompress_Zstd (fun _ => true) L.zstd body) := by
  unfold MemoryHad asks at hhad
  unfold decompress_Zstd
  dsimp only at hhad
  split
  · rename_i size hsize
    have hdecoded := decoded_known hsize
    by_cases hlarge : size > 100 * 1024 * 1024
    · rw [if_pos hlarge]
      refine ⟨fun payload => iff_of_false nofun fun h => ?_, fun _ => rfl⟩
      exact absurd ((hdecoded payload).mp h).1 (Nat.not_le_of_lt hlarge)
    · rw [if_neg hlarge, if_neg nofun]
      have hsmall := Nat.le_of_not_lt hlarge
      cases hdecompress : L.zstd.decompress size body with
      | none =>
        refine ⟨fun payload => iff_of_false nofun fun h => ?_, fun _ => rfl⟩
        have hsome := ((hdecoded payload).mp h).2
        rw [hdecompress] at hsome
        cases hsome
      | some decompressed =>
        refine ⟨fun payload => ?_, fun hnone =>
          absurd ((hdecoded decompressed).mpr ⟨hsmall, hdecompress⟩) (hnone decompressed)⟩
        rw [hdecoded payload, and_iff_right hsmall, hdecompress]
        simp
  · rename_i hsize
    have hdecoded := decoded_unknown L hsize
    have hstream : ∀ ask ∈ zstdStreamAsks L.zstd body, ask.had malloc L = true := by
      revert hhad
      split
      · rename_i size hknown
        exact absurd hknown (hsize size)
      · exact id
    have hsettles := decompressZstdStream_settles hstream
    exact ⟨fun payload => (hsettles.decodes payload).trans (hdecoded payload).symm,
      fun hnone => hsettles.refuses fun payload h => hnone payload ((hdecoded payload).mpr h)⟩

end Each

theorem decompress_settles {malloc : Nat → Bool} {L : Libraries} (encoding : ContentEncoding)
    {body : Bytes} (hcounters : WithinCounters L body) (hhad : MemoryHad malloc L encoding body) :
    Settles (Decoded L encoding body) (decodeError encoding)
      (decompress malloc L encoding body) := by
  rw [decompress_asks, (firstMissing_none_iff malloc L encoding body).mpr hhad]
  cases encoding with
  | identity => exact ⟨fun _ => iff_of_false nofun id, fun _ => rfl⟩
  | gzip => exact decompress_GZip_settles hcounters hhad
  | deflate => exact decompress_Deflate_settles hcounters hhad
  | brotli => exact decompress_Brotli_settles hhad
  | zstd => exact decompress_Zstd_settles hhad

section Buffer

variable {malloc : Nat → Bool} {L : Libraries} {body : Bytes}

/-- The ratio that the first buffer is made for. -/
def assumedRatio : ContentEncoding → Nat
  | .brotli => 8
  | _ => 4

/-- A payload in its buffer: it fits, and where it fills the buffer its length
is that of the first one, doubled some times. -/
def InBuffer (first : Nat) (result : OneShot) : Prop :=
  result.object.decompressedPayload.length ≤ result.buffer ∧
    (result.object.decompressedPayload.length = result.buffer →
      ∃ doublings, result.object.decompressedPayload.length = first * 2 ^ doublings)

theorem inBuffer_ofGrown {κ : Type} {D : Decoder UInt8 UInt8 κ} {G : Growth D}
    {format : Format UInt8 UInt8} (hsound : G.Sound format) {state : D.State}
    (hinitial : Initial format state) (input : Bytes) {first : Nat} (hfirst : 0 < first)
    {error : Error}
    (h : (OneShot.ofGrown error (G.grow malloc (.start state input first hfirst))).object.error =
      none) :
    InBuffer first (OneShot.ofGrown error (G.grow malloc (.start state input first hfirst))) := by
  have htracks : (Loop.start state input first hfirst).Tracks format input :=
    Loop.start_tracks hsound.streamed hinitial input first hfirst
  unfold Growth.grow at h ⊢
  split at h
  · cases h
  · rename_i hgiven
    rw [if_neg hgiven]
    cases hrun : G.run malloc (.start state input first hfirst) with
    | failed => rw [hrun] at h; cases h
    | noMemory => rw [hrun] at h; cases h
    | done last payload size =>
      obtain ⟨-, -, -, -, hfits⟩ := Growth.run_sound hsound htracks hrun
      obtain ⟨doublings, hsize⟩ := Growth.run_size hrun
      exact ⟨hfits, fun hfull => ⟨doublings, hfull.trans hsize⟩⟩

theorem inBuffer_inflateBody {windowBits : Int} {error : Error}
    (h : (OneShot.ofInflate error
      (inflateBody malloc L.zlib windowBits body)).object.error = none) :
    InBuffer (firstSize 4 body)
      (OneShot.ofInflate error (inflateBody malloc L.zlib windowBits body)) := by
  unfold inflateBody at h ⊢
  cases hinit : L.zlib.inflateInit2 windowBits with
  | none => rw [hinit] at h; cases h
  | some zs =>
    rw [hinit] at h
    exact inBuffer_ofGrown (inflateLoop_sound L.zlib windowBits)
      (L.zlib.init windowBits zs hinit).2 (availIn body) (firstSize_pos 4 body) h

/-- The zero byte behind a payload stands in the buffer, except where the
payload fills a buffer that was the first one or was doubled. -/
theorem decompress_buffer {encoding : ContentEncoding}
    (h : (decompress malloc L encoding body).object.error = none) :
    InBuffer (firstSize (assumedRatio encoding) body) (decompress malloc L encoding body) := by
  cases encoding with
  | identity => cases h
  | gzip => exact inBuffer_inflateBody h
  | deflate =>
    unfold decompress decompress_Deflate at h ⊢
    dsimp only at h ⊢
    split at h
    · exact inBuffer_inflateBody h
    · exact inBuffer_inflateBody h
  | brotli =>
    unfold decompress decompress_Brotli at h ⊢
    dsimp only at h ⊢
    split at h
    · cases h
    · rename_i state hcreate
      exact inBuffer_ofGrown (brotliGrowth_sound L.brotli) (L.brotli.create state hcreate) body
        (firstSize_pos 8 body) h
  | zstd =>
    unfold decompress decompress_Zstd at h ⊢
    dsimp only at h ⊢
    split at h
    · rename_i size _
      split at h
      · cases h
      · rename_i hsmall
        split at h
        · cases h
        · rename_i hgiven
          rw [if_neg hsmall, if_neg hgiven]
          split at h
          · cases h
          · rename_i decompressed hdecompress
            have hlength := ((L.zstd.decompress_reads size body decompressed).mp hdecompress).2
            refine ⟨Nat.le_succ_of_le hlength, fun hfull => ?_⟩
            change decompressed.length = size + 1 at hfull
            omega
    · unfold decompressZstdStream at h ⊢
      split at h
      · cases h
      · rename_i dctx hcreate
        exact inBuffer_ofGrown (zstdGrowth_sound L.zstd) (L.zstd.create dctx hcreate) body
          (firstSize_pos 4 body) h

end Buffer

/-! ## Buffered and streamed -/

section Streamed

variable {malloc : Nat → Bool} {L : Libraries}

/-- The functions that `finalizeResponsePayload` calls, with these decoders. -/
def payloadLib (malloc : Nat → Bool) (L : Libraries) (encodeBlock : Bytes → Bytes) :
    PayloadLib where
  decompress encoding body := (decompress malloc L encoding body).object
  EVP_EncodeBlock := encodeBlock

/-- The one-shot decoder reads complete data as the streaming decoder does: a
deflate body in the wrapper of zlib is none in raw deflate, and a zstd frame of
known size says its true size, up to 100 MiB. -/
def ReadAlike (L : Libraries) (encoding : ContentEncoding) (body : Bytes) : Prop :=
  match encoding with
  | .deflate =>
    deflateWindow body = -MAX_WBITS ∨
      (∀ raw, ¬BeginsWith (L.zlib.format (-MAX_WBITS)) body raw) ∧
        (L.zlib.format MAX_WBITS).Finished body ∧
        (L.zlib.format MAX_WBITS).decode body =
          (L.zlib.format (deflateWindow body)).decode body
  | .zstd =>
    ∀ size, L.zstd.getFrameContentSize body = .known size →
      size ≤ 100 * 1024 * 1024 ∧ (L.zstd.format.decode body).length ≤ size
  | _ => True

theorem decoded_of_complete {encoding : ContentEncoding} {body : Bytes}
    (hcoded : encoding ≠ .identity) (halike : ReadAlike L encoding body)
    (hfinished : (bodyFormat L encoding body).Finished body) :
    Decoded L encoding body ((bodyFormat L encoding body).decode body) := by
  cases encoding with
  | identity => exact absurd rfl hcoded
  | gzip => exact ⟨body, List.prefix_refl _, hfinished, rfl⟩
  | brotli => exact ⟨body, List.prefix_refl _, hfinished, rfl⟩
  | deflate =>
    rcases halike with hraw | ⟨hnone, hwrapped, hsame⟩
    · simp only [bodyFormat, hraw] at hfinished ⊢
      exact .inl ⟨body, List.prefix_refl _, hfinished, rfl⟩
    · exact .inr ⟨hnone, body, List.prefix_refl _, hwrapped, hsame.symm⟩
  | zstd =>
    by_cases hknown : ∃ size, L.zstd.getFrameContentSize body = .known size
    · obtain ⟨size, hsize⟩ := hknown
      obtain ⟨hsmall, hfits⟩ := halike size hsize
      refine (decoded_known hsize _).mpr
        ⟨hsmall, (L.zstd.decompress_reads _ _ _).mpr ⟨?_, hfits⟩⟩
      have hframe : ∀ frame ∈ [body], L.zstd.format.Finished frame := by
        intro frame hframe
        rw [List.mem_singleton.mp hframe]
        exact hfinished
      exact ⟨[body], hframe, by simp, by simp [bodyFormat]⟩
    · refine (decoded_unknown L (fun size hsize => hknown ⟨size, hsize⟩) _).mpr ?_
      exact ⟨body, List.prefix_refl _, hfinished, rfl⟩

/-- A response in some coding, to a request that takes it decoded. -/
structure TakesDecoded (basket : AnswerBasket) (encoding : ContentEncoding) : Prop where
  coding : detectContentEncoding (basket.responseHeaders.getD []) = encoding
  coded : encoding ≠ .identity
  asked : decompressBits basket.decompress &&& encoding.toNat ≠ 0

/-- A body that the decoder of its coding gets. -/
theorem finalizeResponsePayload_decompress {encodeBlock : Bytes → Bytes} {basket : AnswerBasket}
    {encoding : ContentEncoding} {body : Bytes} (hne : body ≠ [])
    (htakes : TakesDecoded basket encoding) :
    finalizeResponsePayload (payloadLib malloc L encodeBlock) basket body false =
      if (decompress malloc L encoding body).object.error ≠ none then
        { basket with error := some ERR_RESPONSE_INFLATE_UNKNOWN_ERROR }
      else
        { basket with
          payload := some (decompress malloc L encoding body).object.decompressedPayload } := by
  have hlength : body.length ≠ 0 := fun hzero => hne (List.length_eq_zero_iff.mp hzero)
  have hremaining : remainingEncoding (basket.responseHeaders.getD []) false = encoding :=
    htakes.coding
  unfold finalizeResponsePayload
  dsimp only [payloadLib]
  rw [if_neg hlength, hremaining, if_neg htakes.coded, if_neg htakes.asked]

/-- The payload of a complete body is what the data decodes to, exactly when
the decoder gets its memory. -/
theorem finalizeResponsePayload_iff {encodeBlock : Bytes → Bytes} {basket : AnswerBasket}
    {encoding : ContentEncoding} {body payload : Bytes} (hne : body ≠ [])
    (hfresh : basket.payload = none) (hcounters : WithinCounters L body)
    (htakes : TakesDecoded basket encoding)
    (hdecoded : Decoded L encoding body payload) (handed : Bytes) :
    finalizeResponsePayload (payloadLib malloc L encodeBlock) basket body false =
        { basket with payload := some handed } ↔
      MemoryHad malloc L encoding body ∧ handed = payload := by
  rw [finalizeResponsePayload_decompress hne htakes]
  by_cases hhad : MemoryHad malloc L encoding body
  · have hobject := ((decompress_settles encoding hcounters hhad).decodes payload).mpr hdecoded
    rw [hobject, if_neg (not_not.mpr rfl), and_iff_right hhad]
    constructor
    · intro h
      exact (Option.some.inj (congrArg AnswerBasket.payload h)).symm
    · intro h
      rw [h]
  · refine iff_of_false (fun h => ?_) fun h => hhad h.1
    obtain ⟨ask, hask⟩ := Option.ne_none_iff_exists'.mp
      (mt (firstMissing_none_iff malloc L encoding body).mp hhad)
    have herror : (decompress malloc L encoding body).object.error ≠ none := by
      rw [decompress_asks, hask]
      exact Option.some_ne_none _
    rw [if_pos herror] at h
    have hpayload : basket.payload = some handed := congrArg AnswerBasket.payload h
    rw [hfresh] at hpayload
    cases hpayload

end Streamed

/-! ## Frames of one block -/

/-- The magic number, and a header without checksum and content size, for a
window of 64 KiB. -/
def rleHeader : Bytes := [0x28, 0xb5, 0x2f, 0xfd, 0x00, 0x30]

/-- A frame of zstd with one RLE block: behind the header of the frame three
bytes with the size, and the byte that is repeated. -/
def rleDecode (body : Bytes) : Bytes :=
  match body.drop rleHeader.length with
  | b0 :: b1 :: b2 :: byte :: _ =>
    List.replicate ((b0.toNat + b1.toNat <<< 8 + b2.toNat <<< 16) >>> 3) byte
  | _ => []

theorem rleDecode_grows (body more : Bytes) : rleDecode body <+: rleDecode (body ++ more) := by
  unfold rleDecode
  rw [List.drop_append]
  match body.drop rleHeader.length with
  | [] => exact List.nil_prefix
  | [_] => exact List.nil_prefix
  | [_, _] => exact List.nil_prefix
  | [_, _, _] => exact List.nil_prefix
  | _ :: _ :: _ :: _ :: _ => exact List.prefix_refl _

/-- The block is the last one of its frame and of the type RLE. -/
def rleFormat : Format UInt8 UInt8 where
  decode := rleDecode
  Valid body := ∃ b0 b1 b2 byte : UInt8, b0.toNat % 8 = 3 ∧
    body <+: rleHeader ++ [b0, b1, b2, byte]
  Finished body := ∃ b0 b1 b2 byte : UInt8, b0.toNat % 8 = 3 ∧
    body = rleHeader ++ [b0, b1, b2, byte]

/-- A frame of one RLE block. -/
def isRleFrame (body : Bytes) : Bool :=
  body.length = 10 ∧ body.take 6 = rleHeader ∧ (body.getD 6 0).toNat % 8 = 3

theorem rleFormat_finished_iff (body : Bytes) :
    rleFormat.Finished body ↔ isRleFrame body = true := by
  unfold isRleFrame
  rw [decide_eq_true_iff]
  constructor
  · intro h
    obtain ⟨b0, b1, b2, byte, htype, rfl⟩ := h
    exact ⟨rfl, rfl, htype⟩
  · intro h
    obtain ⟨hlength, hheader, htype⟩ := h
    match body, hlength with
    | [_, _, _, _, _, _, b0, b1, b2, byte], _ =>
      refine ⟨b0, b1, b2, byte, htype, ?_⟩
      rw [← hheader]
      rfl

theorem rleFormat_finished_length {body : Bytes} (h : rleFormat.Finished body) :
    body.length = 10 := by
  rw [rleFormat_finished_iff, isRleFrame, decide_eq_true_iff] at h
  exact h.1

theorem rleFormat_streamed : rleFormat.Streamed where
  nil := rfl
  grows := rleDecode_grows
  nonempty h := nomatch rleFormat_finished_length h
  delimited encoded longer hencoded hlonger hbefore := by
    refine hbefore.eq_of_length ?_
    rw [rleFormat_finished_length hencoded, rleFormat_finished_length hlonger]

/-- The output of frames of one RLE block. -/
def rleFrames : Bytes → Option Bytes
  | [] => some []
  | h0 :: h1 :: h2 :: h3 :: h4 :: h5 :: b0 :: b1 :: b2 :: byte :: rest =>
    if isRleFrame [h0, h1, h2, h3, h4, h5, b0, b1, b2, byte] = true then
      (rleFrames rest).map (rleDecode [h0, h1, h2, h3, h4, h5, b0, b1, b2, byte] ++ ·)
    else none
  | _ => none

theorem rleFrames_append {frame : Bytes} (h : rleFormat.Finished frame) (rest : Bytes) :
    rleFrames (frame ++ rest) = (rleFrames rest).map (rleDecode frame ++ ·) := by
  have hlength := rleFormat_finished_length h
  rw [rleFormat_finished_iff] at h
  match frame, hlength with
  | [_, _, _, _, _, _, _, _, _, _], _ => exact if_pos h

theorem rleFrames_iff (body payload : Bytes) :
    rleFrames body = some payload ↔ Frames rleFormat body payload := by
  constructor
  · intro h
    induction body using rleFrames.induct generalizing payload with
    | case1 =>
      cases h
      exact ⟨[], fun frame hmem => absurd hmem List.not_mem_nil, rfl, rfl⟩
    | case2 h0 h1 h2 h3 h4 h5 b0 b1 b2 byte rest hframe ih =>
      rw [rleFrames, if_pos hframe] at h
      obtain ⟨later, hlater, rfl⟩ := Option.map_eq_some_iff.mp h
      obtain ⟨frames, hframes, rfl, rfl⟩ := ih later hlater
      refine ⟨[h0, h1, h2, h3, h4, h5, b0, b1, b2, byte] :: frames, ?_, rfl, rfl⟩
      intro frame hmem
      rcases List.mem_cons.mp hmem with rfl | hmem
      · exact (rleFormat_finished_iff _).mpr hframe
      · exact hframes frame hmem
    | case3 h0 h1 h2 h3 h4 h5 b0 b1 b2 byte rest hframe =>
      rw [rleFrames, if_neg hframe] at h
      cases h
    | case4 body hnil hcons =>
      rw [rleFrames.eq_3 body hnil hcons] at h
      cases h
  · intro h
    obtain ⟨frames, hframes, rfl, rfl⟩ := h
    induction frames with
    | nil => rfl
    | cons frame frames ih =>
      rw [List.flatten_cons, rleFrames_append (hframes frame List.mem_cons_self),
        ih fun other hmem => hframes other (List.mem_cons_of_mem frame hmem)]
      rfl

/-- The status of a call on frames of one RLE block. -/
def rleStatus (moved : Bool) (taken : Bytes) (drained : Bool) : ZstdResult :=
  if isRleFrame taken = true ∧ drained = true then .remaining 0
  else if moved = true then .remaining 1
  else .error

/-- The decoder of one of these frames. -/
def rleDecoder : Decoder UInt8 UInt8 ZstdResult :=
  eager (fun _ : Unit => rleFormat) (fun _ => isRleFrame) (fun _ => rleDecode_grows)
    (fun result => decide (result = .error)) fun _ => rleStatus

/-- The cases of a call. -/
theorem rleDecoder_status (state : rleDecoder.State) (room : Nat) (input : Bytes) :
    rleFormat.Finished (rleDecoder.taken (rleDecoder.call state room input).state) ∧
        rleDecoder.Drained (rleDecoder.call state room input).state ∧
        (rleDecoder.call state room input).status = .remaining 0 ∨
      ¬(rleFormat.Finished (rleDecoder.taken (rleDecoder.call state room input).state) ∧
          rleDecoder.Drained (rleDecoder.call state room input).state) ∧
        ((0 < (rleDecoder.call state room input).used ∨
            (rleDecoder.call state room input).output ≠ []) ∧
            (rleDecoder.call state room input).status = .remaining 1 ∨
          (rleDecoder.call state room input).used = 0 ∧
            (rleDecoder.call state room input).output = [] ∧
            (rleDecoder.call state room input).status = .error) := by
  obtain ⟨drained, hdrained, hstatus⟩ : ∃ drained : Bool,
      (drained = true ↔ rleDecoder.Drained (rleDecoder.call state room input).state) ∧
        (rleDecoder.call state room input).status =
          rleStatus (decide (0 < (rleDecoder.call state room input).used ∨
              (rleDecoder.call state room input).output ≠ []))
            (rleDecoder.taken (rleDecoder.call state room input).state) drained := eager_status
  have hends : isRleFrame (rleDecoder.taken (rleDecoder.call state room input).state) = true ∧
        drained = true ↔
      rleFormat.Finished (rleDecoder.taken (rleDecoder.call state room input).state) ∧
        rleDecoder.Drained (rleDecoder.call state room input).state := by
    rw [rleFormat_finished_iff, hdrained]
  rw [hstatus, rleStatus]
  by_cases hover : rleFormat.Finished (rleDecoder.taken (rleDecoder.call state room input).state) ∧
      rleDecoder.Drained (rleDecoder.call state room input).state
  · exact .inl ⟨hover.1, hover.2, if_pos (hends.mpr hover)⟩
  · rw [if_neg (mt hends.mp hover)]
    refine .inr ⟨hover, ?_⟩
    by_cases hmoved : 0 < (rleDecoder.call state room input).used ∨
        (rleDecoder.call state room input).output ≠ []
    · exact .inl ⟨hmoved, if_pos (decide_eq_true hmoved)⟩
    · obtain ⟨hused, houtput⟩ := not_or.mp hmoved
      refine .inr ⟨Nat.eq_zero_of_not_pos hused, not_not.mp houtput, if_neg ?_⟩
      rw [decide_eq_true_iff]
      exact hmoved

/-- With room a call is an error only without input, when nothing is due. -/
theorem rleDecoder_error {state : rleDecoder.State} {room : Nat} {input : Bytes} (hroom : 0 < room)
    (h : (rleDecoder.call state room input).status = .error) :
    input = [] ∧ rleDecoder.Drained (rleDecoder.call state room input).state := by
  rcases rleDecoder_status state room input with
    ⟨-, -, hzero⟩ | ⟨hgoes, ⟨-, hone⟩ | ⟨hused, houtput, -⟩⟩
  · rw [h] at hzero
    cases hzero
  · rw [h] at hone
    cases hone
  · have hdrained : rleDecoder.Drained (rleDecoder.call state room input).state := by
      apply eager_drained_of_lt
      change (rleDecoder.call state room input).output.length < room
      rw [houtput]
      exact hroom
    refine ⟨?_, hdrained⟩
    by_contra hne
    exact hgoes ⟨(rleFormat_finished_iff _).mpr (eager_ended hne hused), hdrained⟩

/-- A zstd for frames of one RLE block without a content size. -/
def rleZstd : Zstd where
  dctx := rleDecoder
  format := rleFormat
  createDCtx := some (Eager.start ())
  create _ h := by
    cases h
    exact ⟨rfl, rfl, rfl⟩
  failed_eq _ := rfl
  streamed := rleFormat_streamed
  error state room input hroom hne h := absurd (rleDecoder_error hroom h).1 hne
  tolerated _ := 0
  progress state room input hint _ h := by
    rcases rleDecoder_status state room input with
      ⟨-, -, hzero⟩ | ⟨-, ⟨hmoved, -⟩ | ⟨-, -, herror⟩⟩
    · rw [h] at hzero
      cases hzero
    · rcases hmoved with hused | houtput
      · exact .inl hused
      · exact .inr (.inl houtput)
    · rw [h] at herror
      cases herror
  complete state room input _ := by
    show _ ↔ rleFormat.Finished _ ∧ _
    rcases rleDecoder_status state room input with
      ⟨hfinished, hdrained, hzero⟩ | ⟨hgoes, ⟨-, hone⟩ | ⟨-, -, herror⟩⟩
    · exact iff_of_true hzero ⟨hfinished, hdrained⟩
    · rw [hone]
      exact iff_of_false nofun hgoes
    · rw [herror]
      exact iff_of_false nofun hgoes
  broken state room input _ hroom h := .inr (rleDecoder_error hroom h)
  within state room input encoded _ hfinished hbefore _ :=
    eager_within ((rleFormat_finished_iff encoded).mp hfinished) hbefore
  finished state room input encoded _ hfinished hbefore :=
    Eager.taken_eq (rleDecoder.call state room input).state
      ((rleFormat_finished_iff encoded).mp hfinished) hbefore
  getFrameContentSize _ := .unknown
  decompress capacity body := (rleFrames body).filter fun payload => payload.length ≤ capacity
  decompress_reads capacity body payload := by
    rw [Option.filter_eq_some_iff, rleFrames_iff, decide_eq_true_iff]

def rleLibraries : Libraries := ⟨hello.zlib, noBrotli, rleZstd⟩

theorem rleLibraries_memory (encoding : ContentEncoding) (body : Bytes) :
    MemoryHad (fun _ => true) rleLibraries encoding body := by
  intro ask _
  cases ask <;> rfl

theorem rleLibraries_counters {body : Bytes} (h : body.length < 2 ^ 30) :
    WithinCounters rleLibraries body := by
  refine ⟨h, fun windowBits payload hbegins => ?_⟩
  obtain ⟨encoded, -, -, rfl⟩ := hbegins
  have hpayload : hello.payload.length < 2 ^ 31 := by decide
  exact Nat.lt_of_le_of_lt (hello.decode_le windowBits encoded) hpayload

/-- A frame with three bytes, in two chunks. -/
def shortFrame : List Bytes := [[0x28, 0xb5, 0x2f, 0xfd, 0x00], [0x30, 0x1b, 0x00, 0x00, 0x61]]

theorem shortFrame_finished : rleFormat.Finished shortFrame.flatten :=
  ⟨0x1b, 0x00, 0x00, 0x61, by decide, rfl⟩

theorem shortFrame_valid : rleFormat.Valid shortFrame.flatten :=
  ⟨0x1b, 0x00, 0x00, 0x61, by decide, List.prefix_refl _⟩

theorem shortFrame_decoded : Decoded rleLibraries .zstd shortFrame.flatten [0x61, 0x61, 0x61] :=
  ⟨shortFrame.flatten, List.prefix_refl _, shortFrame_finished, rfl⟩

theorem decompress_buffer_shortFrame :
    InBuffer 4096 (decompress (fun _ => true) rleLibraries .zstd shortFrame.flatten) := by
  have hcounters : WithinCounters rleLibraries shortFrame.flatten :=
    rleLibraries_counters (by decide)
  have hobject := ((decompress_settles .zstd hcounters (rleLibraries_memory .zstd _)).decodes _).mpr
    shortFrame_decoded
  have herror : (decompress (fun _ => true) rleLibraries .zstd shortFrame.flatten).object.error =
      none := by
    rw [hobject]
  exact decompress_buffer herror

def rleStart : rleZstd.dctx.State := Eager.start ()

/-- The state behind the first chunk. -/
def rleNext : rleZstd.dctx.State :=
  ((zstdLoop rleZstd).call rleStart [0x28, 0xb5, 0x2f, 0xfd, 0x00]).state

/-- Each chunk takes one call. -/
theorem shortFrame_calls :
    (zstdLoop rleZstd).callsAll rleStart shortFrame =
      [(rleStart, [0x28, 0xb5, 0x2f, 0xfd, 0x00]), (rleNext, [0x30, 0x1b, 0x00, 0x00, 0x61])] := by
  have hfirst : (zstdLoop rleZstd).outcome rleStart [0x28, 0xb5, 0x2f, 0xfd, 0x00] = some 1 := by
    decide
  have hsecond : (zstdLoop rleZstd).outcome rleNext [0x30, 0x1b, 0x00, 0x00, 0x61] = some 1 := by
    decide
  refine (Driver.callsAll_one (List.cons_ne_nil _ _) hfirst _).trans ?_
  exact congrArg (List.cons _) (Driver.callsAll_one (List.cons_ne_nil _ _) hsecond [])

theorem shortFrame_fits : ZstdFits rleZstd shortFrame := by
  intro dctx hcreate
  cases hcreate
  constructor
  · intro call hcall _
    change call ∈ (zstdLoop rleZstd).callsAll rleStart shortFrame at hcall
    rw [shortFrame_calls] at hcall
    rcases List.mem_cons.mp hcall with rfl | hcall
    · decide
    · rw [List.mem_singleton.mp hcall]
      decide
  · intro last hlast
    change last ∈ ((zstdLoop rleZstd).callsAll rleStart shortFrame).getLast? at hlast
    rw [shortFrame_calls] at hlast
    rw [← Option.some.inj hlast]
    decide

/-- A request that takes all codings decoded, and got a response in zstd. -/
def zstdRequest : AnswerBasket :=
  { plainRequest with
    decompress := 15
    responseHeaders := some [⟨ascii "content-encoding", ascii "zstd"⟩] }

end HttpRequestClient.CompressHandler
