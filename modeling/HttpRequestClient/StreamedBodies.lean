import HttpRequestClient.CompressHandler

/-!
# Bodies through the streaming decoders

A body comes in chunks, and every chunk is fed to the decoder of its coding.

* `feedStreamDecompressor_whole`: what the chunks need so that the whole
  decoded output is handed on.  `feedZlib` and `feedZstd` stop when no input is
  left, although the last call may have had no room for its output.
  `feedBrotli` does not (`brotliFits_of_finished`).
* `decodedAsWhole_iff`: when a deflate body is decoded as if it came in one
  chunk.  The window is chosen by the first chunk alone.

`Known` is a zlib that knows one stream of raw deflate, and `rleZstd` a zstd
for frames of one RLE block.
-/

namespace HttpRequestClient.CompressHandler

open Streaming

/-! ## Whole bodies -/

/-- The format of a body of a content encoding. -/
def bodyFormat (L : Libraries) (encoding : ContentEncoding) (body : Bytes) :
    Format UInt8 UInt8 :=
  match encoding with
  | .identity => ⟨id, fun _ => True, fun _ => True⟩
  | .gzip => L.zlib.format (16 + MAX_WBITS)
  | .deflate => L.zlib.format (deflateWindow body)
  | .brotli => L.brotli.format
  | .zstd => L.zstd.format

/-- The chunks of a body in order, with the pieces recorded. -/
def feedChunks (L : Libraries) (decompressor : StreamDecompressor L) (chunks : List Bytes) :
    Streaming.Fed (Option (StreamDecompressor L)) UInt8 (List Bytes) :=
  feedAll (fun decompressor chunk => feedStreamDecompressor L record decompressor chunk [])
    (some decompressor) chunks

/-- Every chunk is accepted, no input is skipped, and the whole decoded output
is handed on. -/
def Whole {σ : Type} (format : Format UInt8 UInt8) (chunks : List Bytes)
    (fed : Streaming.Fed σ UInt8 (List Bytes)) : Prop :=
  fed.Clean ∧ fed.ctx.flatten = format.decode chunks.flatten

section Fits

variable {κ : Type} {D : Decoder UInt8 UInt8 κ}

/-- The output that is due at the last call fits the buffer. -/
def RoomAtEnd (driver : Driver D) (s : D.State) (chunks : List Bytes) : Prop :=
  ∀ last ∈ (driver.callsAll s chunks).getLast?, (D.due last.1 last.2).length ≤ driver.room

/-- No call returns nothing while it leaves input. -/
def NeverStalls (driver : Driver D) (s : D.State) (chunks : List Bytes) : Prop :=
  ∀ call ∈ driver.callsAll s chunks,
    (driver.call call.1 call.2).output = [] → driver.left call.1 call.2 = []

theorem whole_iff {driver : Driver D} {format : Format UInt8 UInt8} {s : D.State}
    (hinitial : Initial format s) (hstreamed : format.Streamed) (chunks : List Bytes) :
    Whole format chunks (feedAll driver.chunk s chunks) ↔
      (feedAll driver.chunk s chunks).Clean ∧ RoomAtEnd driver s chunks :=
  and_congr_right fun hclean => driver.feedAll_whole hinitial hstreamed hclean

end Fits

def ZlibFits (Z : Zlib) (windowBits : Int) (chunks : List Bytes) : Prop :=
  (∀ chunk ∈ chunks, chunk.length < 2 ^ 32) ∧
    (Z.format windowBits).NothingFollows chunks.flatten ∧
    ∀ zs, Z.inflateInit2 windowBits = some zs → RoomAtEnd (zlibLoop Z) zs chunks

/-- The first chunk opens the window that the body needs. -/
def OpensWindow (Z : Zlib) (chunks : List Bytes) : Prop :=
  ∀ first ∈ chunks.head?, deflateWindow first = deflateWindow chunks.flatten ∧
    Z.inflateInit2 (deflateWindow first) ≠ none

def BrotliFits (B : Brotli) (chunks : List Bytes) : Prop :=
  B.format.NothingFollows chunks.flatten ∧
    ∀ state, B.createInstance = some state → RoomAtEnd (brotliLoop B) state chunks

def ZstdFits (Z : Zstd) (chunks : List Bytes) : Prop :=
  ∀ dctx, Z.createDCtx = some dctx →
    NeverStalls (zstdLoop Z) dctx chunks ∧ RoomAtEnd (zstdLoop Z) dctx chunks

/-- What the chunks of a body need. -/
def Fits (L : Libraries) : ContentEncoding → List Bytes → Prop
  | .identity, _ => True
  | .gzip, chunks => ZlibFits L.zlib (16 + MAX_WBITS) chunks
  | .deflate, chunks =>
    OpensWindow L.zlib chunks ∧ ZlibFits L.zlib (deflateWindow chunks.flatten) chunks
  | .brotli, chunks => BrotliFits L.brotli chunks
  | .zstd, chunks => ZstdFits L.zstd chunks

/-! ### zlib -/

/-- With input and room only broken data is an error. -/
theorem Zlib.not_valid_of_error {Z : Zlib} {zs : Z.stream.State} {data : Bytes} (hne : data ≠ [])
    (h : ((zlibLoop Z).call zs data).status = .error) (more : Bytes) :
    ¬(Z.stream.format zs).Valid (Z.stream.taken zs ++ data ++ more) :=
  (Z.error zs _ data (zlibLoop Z).room_pos h).resolve_right (fun hidle => hne hidle.1) more

theorem zlibLoop_refuses (Z : Zlib) : (zlibLoop Z).Refuses := by
  intro zs data result hgoes hresult hne
  rcases zlibLoop_outcome hresult with ⟨hstatus, -⟩ | ⟨-, hone⟩
  · exact Z.not_valid_of_error (hgoes rfl) hstatus
  · exact absurd hone hne

theorem zlibLoop_stopsAtEnd (Z : Zlib) : (zlibLoop Z).StopsAtEnd where
  ends zs data hone hleft := by
    rcases zlibLoop_outcome hone with ⟨-, hfailed⟩ | ⟨hend | hnil, -⟩
    · cases hfailed
    · exact ((Z.streamEnd zs _ data).mp hend).1
    · exact absurd hnil hleft
  stays := Z.finished

/-- The chunks for a stream that is open. -/
def inflateChunks (Z : Zlib) (zs : ZStream Z) (chunks : List Bytes) :
    Streaming.Fed (ZStream Z) UInt8 (List Bytes) :=
  feedAll (fun zs chunk => feedZlib record Z zs chunk []) zs chunks

/-- A chunk that fits the counter of zlib is handed to the loop whole. -/
theorem feedZlib_opened {Z : Zlib} (zs : Z.stream.State) {data : Bytes}
    (hshort : data.length < 2 ^ 32) :
    feedZlib record Z (.opened zs) data ([] : List Bytes) =
      ((zlibLoop Z).feed record zs data []).map .opened := by
  have hlength : data.length % 2 ^ 32 = data.length := Nat.mod_eq_of_lt hshort
  show inflateChunk record Z (.opened zs) data [] = _
  rw [inflateChunk, hlength, List.take_length, List.drop_length, List.append_nil]
  rfl

theorem inflateChunks_opened (Z : Zlib) (zs : Z.stream.State) {chunks : List Bytes}
    (hshort : ∀ chunk ∈ chunks, chunk.length < 2 ^ 32) :
    inflateChunks Z (.opened zs) chunks =
      (feedAll (zlibLoop Z).chunk zs chunks).map .opened :=
  feedAll_map ZStream.opened zs fun zs chunk hchunk => feedZlib_opened zs (hshort chunk hchunk)

theorem inflateChunk_short {Z : Zlib} {zs : ZStream Z} {data : Bytes}
    (h : (inflateChunk record Z zs data ([] : List Bytes)).Clean) : data.length < 2 ^ 32 := by
  have hmod : data.length % 2 ^ 32 < 2 ^ 32 := Nat.mod_lt _ (by decide)
  unfold inflateChunk at h
  cases zs with
  | opened stream =>
    have hdrop := List.drop_eq_nil_iff.mp (List.append_eq_nil_iff.mp h.2).2
    omega
  | windowPending =>
    have hnil : data = [] := h.2
    rw [hnil]
    decide
  | notOpened =>
    have hnil : data = [] := h.2
    rw [hnil]
    decide

/-- A chunk of 4 GiB is not taken whole. -/
theorem inflateChunks_short {Z : Zlib} {zs : ZStream Z} {chunks : List Bytes}
    (h : (inflateChunks Z zs chunks).Clean) : ∀ chunk ∈ chunks, chunk.length < 2 ^ 32 := by
  intro chunk hchunk
  obtain ⟨before, hclean⟩ := feedAll_each h chunk hchunk
  unfold feedZlib at hclean
  split at hclean
  · dsimp only at hclean
    split at hclean
    · cases hclean.1
    · exact inflateChunk_short hclean
  · exact inflateChunk_short hclean

theorem inflateChunks_whole {Z : Zlib} {windowBits : Int} {zs : Z.stream.State}
    (hinit : Z.inflateInit2 windowBits = some zs) {chunks : List Bytes}
    (hvalid : (Z.format windowBits).Valid chunks.flatten) :
    Whole (Z.format windowBits) chunks (inflateChunks Z (.opened zs) chunks) ↔
      ZlibFits Z windowBits chunks := by
  have hinitial := (Z.init windowBits zs hinit).2
  have hroom : (∀ zs', Z.inflateInit2 windowBits = some zs' →
      RoomAtEnd (zlibLoop Z) zs' chunks) ↔ RoomAtEnd (zlibLoop Z) zs chunks := by
    rw [hinit]
    simp
  rw [ZlibFits, hroom]
  by_cases hshort : ∀ chunk ∈ chunks, chunk.length < 2 ^ 32
  · rw [and_iff_right hshort, inflateChunks_opened Z zs hshort]
    have hwhole : Whole (Z.format windowBits) chunks (feedAll (zlibLoop Z).chunk zs chunks) ↔ _ :=
      whole_iff hinitial (Z.streamed windowBits) chunks
    rw [(zlibLoop Z).feedAll_clean_iff_end (zlibLoop_refuses Z) (zlibLoop_stopsAtEnd Z)
      (hinitial.valid hvalid), hinitial.taken, hinitial.format, List.nil_append] at hwhole
    exact hwhole
  · exact iff_of_false (fun hwhole => hshort (inflateChunks_short hwhole.1)) (fun h => hshort h.1)

/-! ### The window of deflate -/

/-- The first two bytes decide. -/
theorem isZlibHeader_append {data : Bytes} (h : 2 ≤ data.length) (more : Bytes) :
    isZlibHeader (data ++ more) = isZlibHeader data := by
  match data, h with
  | _ :: _ :: _, _ => rfl

theorem deflateWindow_append {data : Bytes} (h : 2 ≤ data.length) (more : Bytes) :
    deflateWindow (data ++ more) = deflateWindow data := by
  have hlength : 2 ≤ (data ++ more).length := by rw [List.length_append]; omega
  simp only [deflateWindow, isZlibHeader_append h, ge_iff_le, h, hlength]

theorem deflateWindow_short {data : Bytes} (h : data.length < 2) :
    deflateWindow data = MAX_WBITS + 32 := if_neg fun hlong => by omega

theorem deflateWindow_zlib {data : Bytes} (h : isZlibHeader data = true) :
    deflateWindow data = MAX_WBITS + 32 := if_neg fun hraw => hraw.2 h

theorem deflateWindow_raw {data : Bytes} (hlength : 2 ≤ data.length)
    (h : isZlibHeader data = false) : deflateWindow data = -MAX_WBITS :=
  if_pos ⟨hlength, by rw [h]; exact Bool.false_ne_true⟩

/-- What automatic detection accepted so far. -/
structure Detected (Z : Zlib) (zs : Z.stream.State) : Prop where
  windowBits : Z.windowBits zs = MAX_WBITS + 32
  header : (Z.stream.taken zs).length < 2 ∨ isZlibHeader (Z.stream.taken zs) = true ∨
    isGzipHeader (Z.stream.taken zs) = true

theorem detected_call {Z : Zlib} {zs : Z.stream.State} {input : Bytes} (h : Detected Z zs)
    (hgoes : (zlibLoop Z).outcome zs input ≠ some (-1)) :
    Detected Z ((zlibLoop Z).call zs input).state where
  windowBits := (Z.windowBits_call zs _ input).trans h.windowBits
  header := by
    refine Z.detects zs _ input h.windowBits fun hstatus => hgoes ?_
    change ((zlibLoop Z).call zs input).status = .error at hstatus
    rw [Driver.outcome, hstatus]
    rfl

/-- A raw body whose first chunk was too short to judge is refused. -/
theorem inflateChunks_window {Z : Zlib} {zs : Z.stream.State}
    (hinit : Z.inflateInit2 (MAX_WBITS + 32) = some zs) {chunks : List Bytes}
    (hclean : (inflateChunks Z (.opened zs) chunks).Clean)
    (hvalid : (Z.format (deflateWindow chunks.flatten)).Valid chunks.flatten) :
    deflateWindow chunks.flatten = MAX_WBITS + 32 := by
  obtain ⟨hwindow, hinitial⟩ := Z.init _ zs hinit
  rw [inflateChunks_opened Z zs (inflateChunks_short hclean)] at hclean
  have hdetected : Detected Z (feedAll (zlibLoop Z).chunk zs chunks).state :=
    (zlibLoop Z).feedAll_invariant (fun _ _ => detected_call)
      ⟨hwindow, .inl (by rw [hinitial.taken]; exact Nat.zero_lt_two)⟩ hclean
  obtain ⟨htaken, -, -⟩ := (zlibLoop Z).feedAll_spec hclean
  rw [hinitial.taken, List.nil_append] at htaken
  have hheader := hdetected.header
  rw [htaken] at hheader
  rcases hheader with hshort | hzlib | hgzip
  · exact deflateWindow_short hshort
  · exact deflateWindow_zlib hzlib
  · by_cases hlong : 2 ≤ chunks.flatten.length
    · cases hheader : isZlibHeader chunks.flatten with
      | true => exact deflateWindow_zlib hheader
      | false =>
        rw [deflateWindow_raw hlong hheader] at hvalid
        rw [Z.reserved _ hvalid] at hgzip
        cases hgzip
    · exact deflateWindow_short (by omega)

/-- The first chunk opens the stream. -/
theorem inflateChunks_windowPending {Z : Zlib} {first : Bytes} {zs : Z.stream.State}
    (h : Z.inflateInit2 (deflateWindow first) = some zs) (chunks : List Bytes) :
    inflateChunks Z .windowPending (first :: chunks) =
      inflateChunks Z (.opened zs) (first :: chunks) := by
  have hfirst : feedZlib record Z .windowPending first ([] : List Bytes) =
      feedZlib record Z (.opened zs) first [] := by
    simp only [feedZlib, openDeflateWindow, h]
    rfl
  rw [inflateChunks, inflateChunks, feedAll, feedAll, hfirst]

theorem inflateChunks_notOpened {Z : Zlib} {first : Bytes}
    (h : Z.inflateInit2 (deflateWindow first) = none) (chunks : List Bytes) :
    ¬(inflateChunks Z .windowPending (first :: chunks)).Clean := by
  intro hclean
  obtain ⟨hfirst, -⟩ := (feedAll_clean_cons ZStream.windowPending first chunks).mp hclean
  have hresult := hfirst.1
  simp only [feedZlib, openDeflateWindow, h, if_true] at hresult
  cases hresult

theorem inflateChunks_deflate {Z : Zlib} {chunks : List Bytes}
    (hvalid : (Z.format (deflateWindow chunks.flatten)).Valid chunks.flatten) :
    Whole (Z.format (deflateWindow chunks.flatten)) chunks
        (inflateChunks Z .windowPending chunks) ↔
      OpensWindow Z chunks ∧ ZlibFits Z (deflateWindow chunks.flatten) chunks := by
  cases chunks with
  | nil =>
    refine iff_of_true ⟨⟨rfl, rfl⟩, (Z.streamed _).nil.symm⟩ ⟨fun first hfirst => ?_, ?_⟩
    · cases hfirst
    · refine ⟨fun chunk hchunk => ?_, fun encoded hencoded _ => ?_, fun zs _ last hlast => ?_⟩
      · cases hchunk
      · exact List.prefix_nil.mp hencoded
      · cases hlast
  | cons first chunks =>
    cases hinit : Z.inflateInit2 (deflateWindow first) with
    | none =>
      refine iff_of_false (fun hwhole => inflateChunks_notOpened hinit chunks hwhole.1) ?_
      exact fun h => (h.1 first rfl).2 hinit
    | some zs =>
      rw [inflateChunks_windowPending hinit]
      by_cases hwindow : deflateWindow first = deflateWindow (first :: chunks).flatten
      · have hopens : OpensWindow Z (first :: chunks) := by
          intro other hother
          cases hother
          exact ⟨hwindow, by rw [hinit]; exact Option.some_ne_none zs⟩
        rw [hwindow] at hinit
        rw [and_iff_right hopens]
        exact inflateChunks_whole hinit hvalid
      · refine iff_of_false (fun hwhole => hwindow ?_) fun h => hwindow (h.1 first rfl).1
        have hshort : first.length < 2 := by
          by_contra hlong
          exact hwindow (deflateWindow_append (by omega) _).symm
        rw [deflateWindow_short hshort] at hinit ⊢
        exact (inflateChunks_window hinit hwhole.1 hvalid).symm

/-- The first chunk opens the window that the whole body would open, and what
is handed on is what the body in one chunk would give. -/
structure DecodedAsWhole (Z : Zlib) (first : Bytes) (chunks : List Bytes) : Prop where
  window : deflateWindow first = deflateWindow (first :: chunks).flatten
  result : (inflateChunks Z .windowPending (first :: chunks)).result =
    (inflateChunks Z .windowPending [(first :: chunks).flatten]).result
  decoded : (inflateChunks Z .windowPending (first :: chunks)).ctx.flatten =
    (inflateChunks Z .windowPending [(first :: chunks).flatten]).ctx.flatten

/-- The first chunk shows the two bytes that tell the wrapper, or they would
not tell anything else. -/
def Judged (first body : Bytes) : Prop :=
  2 ≤ first.length ∨ body.length < 2 ∨ isZlibHeader body = true

theorem deflateWindow_first_iff (first : Bytes) (chunks : List Bytes) :
    deflateWindow first = deflateWindow (first :: chunks).flatten ↔
      Judged first (first :: chunks).flatten := by
  rw [List.flatten_cons]
  by_cases hlong : 2 ≤ first.length
  · exact iff_of_true (deflateWindow_append hlong _).symm (.inl hlong)
  · rw [deflateWindow_short (by omega)]
    by_cases hbody : (first ++ chunks.flatten).length < 2
    · exact iff_of_true (deflateWindow_short hbody).symm (.inr (.inl hbody))
    · cases hheader : isZlibHeader (first ++ chunks.flatten) with
      | true => exact iff_of_true (deflateWindow_zlib hheader).symm (.inr (.inr hheader))
      | false =>
        rw [deflateWindow_raw (by omega) hheader]
        refine iff_of_false (by decide) ?_
        rintro (h | h | h)
        · exact hlong h
        · exact hbody h
        · rw [hheader] at h
          cases h

/-- A body of deflate data, complete or cut off, that one call can be given. -/
structure DeflateBody (Z : Zlib) (body : Bytes) : Prop where
  valid : (Z.format (deflateWindow body)).Valid body
  nothingFollows : (Z.format (deflateWindow body)).NothingFollows body
  short : body.length < 2 ^ 32

/-- At the last call as much has no room as when the body comes in one chunk. -/
def LosesAlike (Z : Zlib) (chunks : List Bytes) : Prop :=
  ∀ zs, Z.inflateInit2 (deflateWindow chunks.flatten) = some zs →
    (zlibLoop Z).lost zs chunks = (zlibLoop Z).lost zs [chunks.flatten]

/-- A deflate body in chunks behind a stream with its window. -/
theorem inflateChunks_deflateBody {Z : Zlib} {zs : Z.stream.State} {chunks : List Bytes}
    (hbody : DeflateBody Z chunks.flatten)
    (hinit : Z.inflateInit2 (deflateWindow chunks.flatten) = some zs) :
    inflateChunks Z (.opened zs) chunks = (feedAll (zlibLoop Z).chunk zs chunks).map .opened ∧
      (feedAll (zlibLoop Z).chunk zs chunks).Clean := by
  have hinitial := (Z.init _ zs hinit).2
  have hshort : ∀ chunk ∈ chunks, chunk.length < 2 ^ 32 := fun chunk hchunk =>
    Nat.lt_of_le_of_lt (List.sublist_flatten_of_mem hchunk).length_le hbody.short
  have hend := (zlibLoop Z).feedAll_clean_iff_end (zlibLoop_refuses Z) (zlibLoop_stopsAtEnd Z)
    (hinitial.valid hbody.valid)
  rw [hinitial.taken, hinitial.format, List.nil_append] at hend
  exact ⟨inflateChunks_opened Z zs hshort, hend.mpr hbody.nothingFollows⟩

theorem inflateChunks_fails {Z : Zlib} {first : Bytes}
    (h : Z.inflateInit2 (deflateWindow first) = none) (chunks : List Bytes) :
    (inflateChunks Z .windowPending (first :: chunks)).result = -1 ∧
      (inflateChunks Z .windowPending (first :: chunks)).ctx = [] := by
  have hfirst : feedZlib record Z .windowPending first ([] : List Bytes) =
      ⟨-1, .notOpened, first, []⟩ := by
    simp only [feedZlib, openDeflateWindow, h, if_true]
  have hfails : (feedZlib record Z .windowPending first ([] : List Bytes)).result ≠ 1 := by
    rw [hfirst]
    show (-1 : Int) ≠ 1
    decide
  rw [inflateChunks, feedAll_stop hfails, hfirst]
  exact ⟨rfl, rfl⟩

theorem decodedAsWhole_of_window {Z : Zlib} {first : Bytes} {chunks : List Bytes}
    (hbody : DeflateBody Z (first :: chunks).flatten)
    (hwindow : deflateWindow first = deflateWindow (first :: chunks).flatten) :
    DecodedAsWhole Z first chunks ↔ LosesAlike Z (first :: chunks) := by
  cases hinit : Z.inflateInit2 (deflateWindow (first :: chunks).flatten) with
  | none =>
    have hopens := hinit
    rw [← hwindow] at hopens
    obtain ⟨hresult, hctx⟩ := inflateChunks_fails hopens chunks
    obtain ⟨hresult', hctx'⟩ := inflateChunks_fails hinit []
    refine iff_of_true ⟨hwindow, hresult.trans hresult'.symm, by rw [hctx, hctx']⟩ ?_
    intro zs hopened
    rw [hinit] at hopened
    cases hopened
  | some zs =>
    have hopens := hinit
    rw [← hwindow] at hopens
    have hinitial := (Z.init _ zs hinit).2
    have hone : [(first :: chunks).flatten].flatten = (first :: chunks).flatten :=
      List.flatten_singleton
    have hwhole : DeflateBody Z [(first :: chunks).flatten].flatten := by
      rw [hone]
      exact hbody
    obtain ⟨hcut, hclean⟩ := inflateChunks_deflateBody hbody hinit
    obtain ⟨hall, hclean'⟩ := inflateChunks_deflateBody hwhole (by rw [hone]; exact hinit)
    rw [← inflateChunks_windowPending hopens] at hcut
    rw [← inflateChunks_windowPending hinit] at hall
    have hsame := Driver.feedAll_same hinitial (Z.streamed _) hone hclean hclean'
    have hloses : LosesAlike Z (first :: chunks) ↔ (zlibLoop Z).lost zs (first :: chunks) =
        (zlibLoop Z).lost zs [(first :: chunks).flatten] := by
      rw [LosesAlike, hinit]
      simp
    rw [hloses, ← hsame]
    constructor
    · intro h
      have hdecoded := h.decoded
      rw [hcut, hall] at hdecoded
      exact hdecoded
    · intro h
      refine ⟨hwindow, ?_, ?_⟩
      · rw [hcut, hall]
        exact hclean.1.trans hclean'.1.symm
      · rw [hcut, hall]
        exact h

/-- A deflate body opens the same window as when it comes in one chunk, if and
only if its first chunk is not a single byte of longer data without a zlib
header.  It is decoded the same, if and only if besides as much is lost. -/
theorem decodedAsWhole_iff (Z : Zlib) (first : Bytes) (chunks : List Bytes) :
    (deflateWindow first = deflateWindow (first :: chunks).flatten ↔
        Judged first (first :: chunks).flatten) ∧
      (DeflateBody Z (first :: chunks).flatten →
        (DecodedAsWhole Z first chunks ↔
          Judged first (first :: chunks).flatten ∧ LosesAlike Z (first :: chunks))) := by
  refine ⟨deflateWindow_first_iff first chunks, fun hbody => ?_⟩
  rw [← deflateWindow_first_iff]
  constructor
  · exact fun h => ⟨h.window, (decodedAsWhole_of_window hbody h.window).mp h⟩
  · exact fun h => (decodedAsWhole_of_window hbody h.1).mpr h.2

/-! ### brotli -/

theorem brotliLoop_refuses (B : Brotli) : (brotliLoop B).Refuses := by
  intro state data result _ hresult hne
  rcases brotliLoop_outcome hresult with ⟨hstatus, -⟩ | ⟨-, hone⟩
  · exact B.error state _ data hstatus
  · exact absurd hone hne

theorem brotliLoop_stopsAtEnd (B : Brotli) : (brotliLoop B).StopsAtEnd where
  ends state data hone hleft := by
    rcases brotliLoop_outcome hone with ⟨-, hfailed⟩ | ⟨hsuccess | hmore, -⟩
    · cases hfailed
    · exact ((B.success state _ data).mp hsuccess).1
    · exact absurd (B.needsMoreInput state _ data hmore).1 hleft
  stays := B.finished

theorem brotliLoop_clean_iff {B : Brotli} {state : B.decoder.State}
    (hcreate : B.createInstance = some state) {chunks : List Bytes}
    (hvalid : B.format.Valid chunks.flatten) :
    (feedAll (brotliLoop B).chunk state chunks).Clean ↔ B.format.NothingFollows chunks.flatten := by
  have hinitial := B.create state hcreate
  have hend := (brotliLoop B).feedAll_clean_iff_end (brotliLoop_refuses B)
    (brotliLoop_stopsAtEnd B) (hinitial.valid hvalid)
  rw [hinitial.taken, hinitial.format, List.nil_append] at hend
  exact hend

theorem brotliLoop_whole {B : Brotli} {state : B.decoder.State}
    (hcreate : B.createInstance = some state) {chunks : List Bytes}
    (hvalid : B.format.Valid chunks.flatten) :
    Whole B.format chunks (feedAll (brotliLoop B).chunk state chunks) ↔ BrotliFits B chunks := by
  rw [whole_iff (B.create state hcreate) B.streamed, brotliLoop_clean_iff hcreate hvalid,
    BrotliFits, hcreate]
  simp

/-- The loop does not end while output of complete data is pending. -/
theorem brotliFits_of_finished {B : Brotli} {chunks : List Bytes}
    (hfinished : B.format.Finished chunks.flatten) : BrotliFits B chunks := by
  have hnothing : B.format.NothingFollows chunks.flatten := fun encoded hencoded hends =>
    B.streamed.delimited encoded _ hends hfinished hencoded
  have hvalid : B.format.Valid chunks.flatten := by
    have hmore := B.valid _ [] hfinished
    rwa [List.append_nil] at hmore
  refine ⟨hnothing, fun state hcreate last hlast => ?_⟩
  have hinitial := B.create state hcreate
  have hclean := (brotliLoop_clean_iff hcreate hvalid).mpr hnothing
  obtain ⟨hone, hleft⟩ := (brotliLoop B).callsAll_last hclean last hlast
  have hagrees := (brotliLoop B).callsAll_agrees (by rw [hinitial.format]; exact B.streamed)
    (hinitial.agrees []) hclean last (List.mem_of_getLast? hlast)
  obtain ⟨htaken, -, hformat⟩ := (brotliLoop B).feedAll_spec hclean
  rw [(brotliLoop B).feedAll_state, Driver.endOf, hlast] at htaken hformat
  rw [hinitial.taken, List.nil_append] at htaken
  rw [hinitial.format] at hformat
  have haccepted := (brotliLoop B).accepts _ _ _ hone
  refine (Decoder.drained_call hagrees haccepted hleft).mp ?_
  rcases brotliLoop_outcome hone with ⟨-, hfailed⟩ | ⟨hsuccess | hmore, -⟩
  · cases hfailed
  · exact ((B.success last.1 _ last.2).mp hsuccess).2
  · refine absurd ?_ (B.needsMoreInput last.1 _ last.2 hmore).2
    change B.decoder.taken (B.decoder.call last.1 (brotliLoop B).room last.2).state = _ at htaken
    change B.decoder.format (B.decoder.call last.1 (brotliLoop B).room last.2).state = _ at hformat
    rw [htaken, ← B.decoder.format_call last.1 (brotliLoop B).room last.2, hformat]
    exact hfinished

/-! ### zstd -/

theorem zstdLoop_refuses (Z : Zstd) : (zstdLoop Z).Refuses := by
  intro dctx input result hgoes hresult hne
  rcases zstdLoop_outcome hresult with ⟨hstatus, -⟩ | ⟨-, hone⟩
  · exact Z.error dctx _ input (zstdLoop Z).room_pos (hgoes rfl) hstatus
  · exact absurd hone hne

/-- A call without output ends the loop. -/
theorem zstdLoop_stalled {Z : Zstd} {dctx : Z.dctx.State} {input : Bytes}
    (h : ((zstdLoop Z).call dctx input).output = []) : (zstdLoop Z).outcome dctx input ≠ none := by
  unfold Driver.outcome
  rw [h]
  cases hstatus : ((zstdLoop Z).call dctx input).status with
  | error => exact Option.some_ne_none _
  | remaining hint => exact Option.some_ne_none _

theorem zstdLoop_clean_iff {Z : Zstd} {dctx : Z.dctx.State} (hcreate : Z.createDCtx = some dctx)
    {chunks : List Bytes} (hvalid : Z.format.Valid chunks.flatten) :
    (feedAll (zstdLoop Z).chunk dctx chunks).Clean ↔ NeverStalls (zstdLoop Z) dctx chunks := by
  have hinitial := Z.create dctx hcreate
  have hiff := (zstdLoop Z).feedAll_clean_iff (zstdLoop_refuses Z) (hinitial.valid hvalid)
  constructor
  · intro hclean call hcall hstalled
    have hone := ((zstdLoop Z).callsAll_outcome hclean call hcall).resolve_left
      (zstdLoop_stalled hstalled)
    exact hiff.mp hclean call hcall hone
  · intro hnever
    refine hiff.mpr fun call hcall hone => ?_
    rcases zstdLoop_outcome hone with ⟨-, hfailed⟩ | ⟨hstalled | hrest, -⟩
    · cases hfailed
    · exact hnever call hcall hstalled
    · exact hrest

theorem zstdLoop_whole {Z : Zstd} {dctx : Z.dctx.State} (hcreate : Z.createDCtx = some dctx)
    {chunks : List Bytes} (hvalid : Z.format.Valid chunks.flatten) :
    Whole Z.format chunks (feedAll (zstdLoop Z).chunk dctx chunks) ↔ ZstdFits Z chunks := by
  rw [whole_iff (Z.create dctx hcreate) Z.streamed, zstdLoop_clean_iff hcreate hvalid,
    ZstdFits, hcreate]
  simp

/-! ### Every encoding -/

theorem feedChunks_zlib (L : Libraries) (zs : ZStream L.zlib) (chunks : List Bytes) :
    feedChunks L (.zlib zs) chunks = (inflateChunks L.zlib zs chunks).map (some ∘ .zlib) :=
  feedAll_map (some ∘ StreamDecompressor.zlib) zs fun _ _ _ => rfl

theorem feedChunks_brotli (L : Libraries) (state : L.brotli.decoder.State)
    (chunks : List Bytes) :
    feedChunks L (.brotli state) chunks =
      (feedAll (brotliLoop L.brotli).chunk state chunks).map (some ∘ .brotli) :=
  feedAll_map (some ∘ StreamDecompressor.brotli) state fun _ _ _ => rfl

theorem feedChunks_zstd (L : Libraries) (dctx : L.zstd.dctx.State) (chunks : List Bytes) :
    feedChunks L (.zstd dctx) chunks =
      (feedAll (zstdLoop L.zstd).chunk dctx chunks).map (some ∘ .zstd) :=
  feedAll_map (some ∘ StreamDecompressor.zstd) dctx fun _ _ _ => rfl

theorem feedChunks_whole_iff (L : Libraries) {encoding : ContentEncoding}
    {decompressor : StreamDecompressor L}
    (hbuilt : buildStreamDecompressor L encoding = some decompressor) {chunks : List Bytes}
    (hvalid : (bodyFormat L encoding chunks.flatten).Valid chunks.flatten) :
    Whole (bodyFormat L encoding chunks.flatten) chunks (feedChunks L decompressor chunks) ↔
      Fits L encoding chunks := by
  cases encoding with
  | identity => cases hbuilt
  | gzip =>
    obtain ⟨zs, hinit, rfl⟩ := Option.map_eq_some_iff.mp hbuilt
    rw [feedChunks_zlib]
    exact inflateChunks_whole hinit hvalid
  | deflate =>
    cases hbuilt
    rw [feedChunks_zlib]
    exact inflateChunks_deflate hvalid
  | brotli =>
    obtain ⟨state, hcreate, rfl⟩ := Option.map_eq_some_iff.mp hbuilt
    rw [feedChunks_brotli]
    exact brotliLoop_whole hcreate hvalid
  | zstd =>
    obtain ⟨dctx, hcreate, rfl⟩ := Option.map_eq_some_iff.mp hbuilt
    rw [feedChunks_zstd]
    exact zstdLoop_whole hcreate hvalid

/-- A valid body in chunks is decoded whole if and only if the chunks fit. -/
theorem feedStreamDecompressor_whole (L : Libraries) {encoding : ContentEncoding}
    {decompressor : StreamDecompressor L}
    (hbuilt : buildStreamDecompressor L encoding = some decompressor) {chunks : List Bytes}
    (hvalid : (bodyFormat L encoding chunks.flatten).Valid chunks.flatten) :
    Whole (bodyFormat L encoding chunks.flatten) chunks (feedChunks L decompressor chunks) ↔
      Fits L encoding chunks :=
  feedChunks_whole_iff L hbuilt hvalid

/-! ## A stream of raw deflate -/

/-- How long the common beginning of two bodies is. -/
def common : Bytes → Bytes → Nat
  | x :: xs, y :: ys => if x = y then common xs ys + 1 else 0
  | _, _ => 0

theorem common_nil (body : Bytes) : common body [] = 0 := by
  cases body <;> rfl

theorem common_append_le (body other more : Bytes) :
    common body other ≤ common body (other ++ more) := by
  induction body generalizing other with
  | nil => exact Nat.le_refl 0
  | cons x xs ih =>
    cases other with
    | nil => exact Nat.zero_le _
    | cons y ys =>
      rw [List.cons_append, common, common]
      split
      · exact Nat.succ_le_succ (ih ys)
      · exact Nat.le_refl 0

theorem common_eq_length {body other : Bytes} (h : other <+: body) :
    common body other = other.length := by
  obtain ⟨more, rfl⟩ := h
  induction other with
  | nil => exact common_nil _
  | cons x xs ih =>
    rw [List.cons_append, common, if_pos rfl, ih]
    rfl

/-- A stream of raw deflate with what it decodes to, and how much of that each
length of the stream gives. -/
structure Known where
  encoded : Bytes
  payload : Bytes
  size : Nat → Nat
  size_zero : size 0 = 0
  size_mono : ∀ m n, m ≤ n → size m ≤ size n
  nonempty : encoded ≠ []
  head : encoded.getD 0 0 ≠ 0x1f

/-- Nothing decodes to something. -/
def emptyFormat : Format UInt8 UInt8 := ⟨fun _ => [], fun _ => False, fun _ => False⟩

theorem emptyFormat_streamed : emptyFormat.Streamed :=
  ⟨rfl, fun _ _ => List.prefix_refl _, id, fun _ _ h => h.elim⟩

/-- The window bits allow what was taken of a header. -/
def headerAllowed (bits : Int) (taken : Bytes) : Bool :=
  bits = -MAX_WBITS ∨ taken.length < 2 ∨ (bits ≠ 16 + MAX_WBITS ∧ isZlibHeader taken = true) ∨
    (bits ≠ MAX_WBITS ∧ isGzipHeader taken = true)

namespace Known

variable (known : Known)

/-- What the stream and its beginnings decode to. -/
def raw : Format UInt8 UInt8 where
  decode body := known.payload.take (known.size (common known.encoded body))
  Valid body := body <+: known.encoded ∨ known.encoded <+: body
  Finished body := body = known.encoded

theorem raw_streamed : known.raw.Streamed where
  nil := by
    show known.payload.take (known.size (common known.encoded [])) = []
    rw [common_nil, known.size_zero, List.take_zero]
  grows input more :=
    List.take_prefix_take_left (known.size_mono _ _ (common_append_le _ _ _))
  nonempty h := known.nonempty h.symm
  delimited _ _ hencoded hlonger _ := hencoded.trans hlonger.symm

/-- Only raw deflate data is known. -/
def format (bits : Int) : Format UInt8 UInt8 := if bits = -MAX_WBITS then known.raw else emptyFormat

theorem format_raw : known.format (-MAX_WBITS) = known.raw := if_pos rfl

theorem format_streamed (bits : Int) : (known.format bits).Streamed := by
  unfold format
  split
  · exact known.raw_streamed
  · exact emptyFormat_streamed

theorem decode_le (bits : Int) (body : Bytes) :
    ((known.format bits).decode body).length ≤ known.payload.length := by
  unfold format
  split
  · exact List.length_take_le' _ _
  · exact Nat.zero_le _

def isEnd (bits : Int) (taken : Bytes) : Bool := bits = -MAX_WBITS ∧ taken = known.encoded

theorem isEnd_iff (bits : Int) (body : Bytes) :
    known.isEnd bits body = true ↔ (known.format bits).Finished body := by
  unfold isEnd format
  rw [decide_eq_true_iff]
  split
  · rename_i hraw
    exact and_iff_right hraw
  · rename_i hother
    exact iff_of_false (fun h => hother h.1) id

def status (bits : Int) (moved : Bool) (taken : Bytes) (drained : Bool) : ZlibStatus :=
  if known.isEnd bits taken = true ∧ drained = true then .streamEnd
  else if moved = true ∧ headerAllowed bits taken = true then .ok
  else .error

def stream : Decoder UInt8 UInt8 ZlibStatus :=
  eager known.format known.isEnd (fun bits => (known.format_streamed bits).grows)
    (fun status => decide (status = .error)) known.status

section Call

variable (zs : known.stream.State) (room : Nat) (input : Bytes)

/-- The end of the data was taken, and all output was returned. -/
def Over : Prop :=
  known.isEnd (Eager.index zs) (known.stream.taken (known.stream.call zs room input).state) = true ∧
    known.stream.Drained (known.stream.call zs room input).state

/-- A call took or returned something behind a header that is allowed. -/
def Moved : Prop :=
  (0 < (known.stream.call zs room input).used ∨ (known.stream.call zs room input).output ≠ []) ∧
    headerAllowed (Eager.index zs)
      (known.stream.taken (known.stream.call zs room input).state) = true

/-- The cases of a call. -/
theorem status_cases :
    known.Over zs room input ∧ (known.stream.call zs room input).status = .streamEnd ∨
      ¬known.Over zs room input ∧ known.Moved zs room input ∧
        (known.stream.call zs room input).status = .ok ∨
      ¬known.Over zs room input ∧ ¬known.Moved zs room input ∧
        (known.stream.call zs room input).status = .error := by
  obtain ⟨drained, hdrained, hstatus⟩ : ∃ drained : Bool,
      (drained = true ↔ known.stream.Drained (known.stream.call zs room input).state) ∧
        (known.stream.call zs room input).status = known.status (Eager.index zs)
          (decide (0 < (known.stream.call zs room input).used ∨
            (known.stream.call zs room input).output ≠ []))
          (known.stream.taken (known.stream.call zs room input).state) drained := eager_status
  rw [hstatus, status]
  have hends : known.isEnd (Eager.index zs)
        (known.stream.taken (known.stream.call zs room input).state) = true ∧ drained = true ↔
      known.Over zs room input := and_congr_right' hdrained
  have hmoves : decide (0 < (known.stream.call zs room input).used ∨
        (known.stream.call zs room input).output ≠ []) = true ∧ headerAllowed (Eager.index zs)
          (known.stream.taken (known.stream.call zs room input).state) = true ↔
      known.Moved zs room input := and_congr_left' decide_eq_true_iff
  by_cases hover : known.Over zs room input
  · exact .inl ⟨hover, if_pos (hends.mpr hover)⟩
  · rw [if_neg (mt hends.mp hover)]
    by_cases hmoved : known.Moved zs room input
    · exact .inr (.inl ⟨hover, hmoved, if_pos (hmoves.mpr hmoved)⟩)
    · exact .inr (.inr ⟨hover, hmoved, if_neg (mt hmoves.mp hmoved)⟩)

end Call

/-- A zlib that knows the stream. -/
def zlib : Zlib where
  stream := known.stream
  windowBits := Eager.index
  format := known.format
  inflateInit2 bits := some (Eager.start bits)
  init bits zs h := by
    cases h
    exact ⟨rfl, eager_initial bits⟩
  format_eq _ := rfl
  windowBits_call _ _ _ := rfl
  failed_eq _ := rfl
  streamed := known.format_streamed
  valid bits encoded more h := by
    unfold format at h ⊢
    split
    · rename_i hraw
      rw [if_pos hraw] at h
      rw [show encoded = known.encoded from h]
      exact .inr (List.prefix_append _ _)
    · rename_i hother
      rw [if_neg hother] at h
      exact h
  progress zs room input h := by
    rcases known.status_cases zs room input with ⟨-, hend⟩ | ⟨-, hmoved, -⟩ | ⟨-, -, herror⟩
    · rw [h] at hend
      cases hend
    · exact hmoved.1
    · rw [h] at herror
      cases herror
  stops zs room input h hlt := by
    by_contra hleft
    have hover : known.Over zs room input := ⟨eager_left hleft, eager_drained_of_lt hlt⟩
    rcases known.status_cases zs room input with ⟨-, hend⟩ | ⟨hgoes, -⟩ | ⟨hgoes, -⟩
    · rw [h] at hend
      cases hend
    · exact hgoes hover
    · exact hgoes hover
  streamEnd zs room input := by
    refine Iff.trans ?_ (and_congr_left' (known.isEnd_iff _ _))
    show _ ↔ known.Over zs room input
    rcases known.status_cases zs room input with
      ⟨hover, hend⟩ | ⟨hgoes, -, hok⟩ | ⟨hgoes, -, herror⟩
    · exact iff_of_true hend hover
    · rw [hok]
      exact iff_of_false nofun hgoes
    · rw [herror]
      exact iff_of_false nofun hgoes
  error zs room input hroom h := by
    rcases known.status_cases zs room input with ⟨-, hend⟩ | ⟨-, -, hok⟩ | ⟨hgoes, hidle, -⟩
    · rw [h] at hend
      cases hend
    · rw [h] at hok
      cases hok
    · by_cases hraw : Eager.index zs = -MAX_WBITS
      · -- raw deflate has no header, so the call did nothing
        have hnone : ¬(0 < (known.stream.call zs room input).used ∨
            (known.stream.call zs room input).output ≠ []) := by
          intro hmoved
          apply hidle
          exact ⟨hmoved, decide_eq_true (.inl hraw)⟩
        obtain ⟨hused, houtput⟩ := not_or.mp hnone
        rw [not_not] at houtput
        have hdrained : known.stream.Drained (known.stream.call zs room input).state := by
          apply eager_drained_of_lt
          change (known.stream.call zs room input).output.length < room
          rw [houtput]
          exact hroom
        refine .inr ⟨?_, hdrained⟩
        by_contra hne
        exact hgoes ⟨eager_ended hne (Nat.eq_zero_of_not_pos hused), hdrained⟩
      · refine .inl fun more hvalid => ?_
        change (known.format (Eager.index zs)).Valid _ at hvalid
        rw [format, if_neg hraw] at hvalid
        exact hvalid
  within zs room input encoded hfinished hbegins _ :=
    eager_within ((known.isEnd_iff _ _).mpr hfinished) hbegins
  finished zs encoded hfinished hbegins :=
    Eager.taken_eq zs ((known.isEnd_iff _ _).mpr hfinished) hbegins
  detects zs room input hbits h := by
    rcases known.status_cases zs room input with ⟨hover, -⟩ | ⟨-, hmoved, -⟩ | ⟨-, -, herror⟩
    · have hraw := (decide_eq_true_iff.mp hover.1).1
      rw [hbits] at hraw
      exact absurd hraw (by decide)
    · have hheader := hmoved.2
      rw [headerAllowed, decide_eq_true_iff, hbits] at hheader
      rcases hheader with hraw | hshort | ⟨-, hzlib⟩ | ⟨-, hgzip⟩
      · exact absurd hraw (by decide)
      · exact .inl hshort
      · exact .inr (.inl hzlib)
      · exact .inr (.inr hgzip)
    · exact absurd herror h
  reserved body hvalid := by
    rw [known.format_raw] at hvalid
    rw [isGzipHeader, decide_eq_false_iff_not]
    rintro ⟨hhead, -⟩
    have hencoded := known.head
    rcases hvalid with ⟨more, hmore⟩ | ⟨more, hmore⟩
    · cases body with
      | nil => cases hhead
      | cons b body =>
        rw [← hmore] at hencoded
        exact hencoded hhead
    · cases hknown : known.encoded with
      | nil => exact known.nonempty hknown
      | cons b encoded =>
        rw [hknown] at hmore hencoded
        rw [← hmore] at hhead
        exact hencoded hhead

section Feed

variable {known} (zs : known.zlib.stream.State)

/-- One call takes a chunk of the stream. -/
theorem chunk_left {chunk : Bytes}
    (hbegins : known.zlib.stream.taken zs ++ chunk <+: known.encoded) :
    (zlibLoop known.zlib).left zs chunk = [] := by
  by_contra hbehind
  have hend : known.isEnd (Eager.index zs) (known.stream.taken
      (known.stream.call zs STREAM_DECOMPRESS_CHUNK chunk).state) = true := eager_left hbehind
  have htaken : known.stream.taken (known.stream.call zs STREAM_DECOMPRESS_CHUNK chunk).state ++
      (zlibLoop known.zlib).left zs chunk = known.zlib.stream.taken zs ++ chunk :=
    known.stream.taken_append_left zs STREAM_DECOMPRESS_CHUNK chunk
  rw [(decide_eq_true_iff.mp hend).2] at htaken
  rw [← htaken] at hbegins
  have hlength := hbegins.length_le
  rw [List.length_append] at hlength
  exact hbehind (List.eq_nil_of_length_eq_zero (by omega))

theorem chunk_outcome (hraw : known.zlib.windowBits zs = -MAX_WBITS) {chunk : Bytes}
    (hne : chunk ≠ []) (hbegins : known.zlib.stream.taken zs ++ chunk <+: known.encoded) :
    (zlibLoop known.zlib).outcome zs chunk = some 1 := by
  have hleft := chunk_left zs hbegins
  have hused := List.drop_eq_nil_iff.mp hleft
  have hmoved : known.Moved zs STREAM_DECOMPRESS_CHUNK chunk :=
    ⟨.inl (Nat.lt_of_lt_of_le (List.length_pos_iff.mpr hne) hused), decide_eq_true (.inl hraw)⟩
  unfold Driver.outcome
  rw [hleft]
  rcases known.status_cases zs STREAM_DECOMPRESS_CHUNK chunk with
    ⟨-, hend⟩ | ⟨-, -, hok⟩ | ⟨-, hidle, -⟩
  · rw [show ((zlibLoop known.zlib).call zs chunk).status = .streamEnd from hend]
    rfl
  · rw [show ((zlibLoop known.zlib).call zs chunk).status = .ok from hok]
    rfl
  · exact absurd hmoved hidle

/-- No more is due than the payload. -/
theorem due_le (input : Bytes) :
    (known.zlib.stream.due zs input).length ≤ known.payload.length := by
  have hdecode := known.decode_le (Eager.index zs) (known.stream.taken zs ++ input)
  rw [Decoder.due, List.length_drop]
  exact Nat.le_trans (Nat.sub_le _ _) hdecode

end Feed

/-- The stream as the body of a response. -/
theorem deflateBody (hraw : deflateWindow known.encoded = -MAX_WBITS)
    (hshort : known.encoded.length < 2 ^ 32) : DeflateBody known.zlib known.encoded where
  valid := by
    rw [hraw]
    show (known.format (-MAX_WBITS)).Valid known.encoded
    rw [known.format_raw]
    exact .inl (List.prefix_refl _)
  nothingFollows := by
    intro encoded _ hfinished
    rw [hraw] at hfinished
    change (known.format (-MAX_WBITS)).Finished encoded at hfinished
    rw [known.format_raw] at hfinished
    exact hfinished
  short := hshort

end Known

/-- `hello` in a stored block. -/
def hello : Known where
  encoded := [0x01, 0x05, 0x00, 0xfa, 0xff, 0x68, 0x65, 0x6c, 0x6c, 0x6f]
  payload := ascii "hello"
  size n := n - 5
  size_zero := rfl
  size_mono _ _ hle := Nat.sub_le_sub_right hle 5
  nonempty := List.cons_ne_nil _ _
  head := by decide

theorem hello_deflateBody : DeflateBody hello.zlib hello.encoded :=
  hello.deflateBody (by decide) (by decide)

theorem hello_lost (zs : hello.zlib.stream.State) (chunks : List Bytes) :
    (zlibLoop hello.zlib).lost zs chunks = 0 := by
  unfold Driver.lost
  split
  · rfl
  · rename_i last _
    refine Nat.sub_eq_zero_of_le (Nat.le_trans (Known.due_le last.1 last.2) ?_)
    decide

/-- Cut behind its second byte, the stream is decoded as a whole. -/
theorem decodedAsWhole_iff_twoBytes :
    DecodedAsWhole hello.zlib [0x01, 0x05]
      [[0x00, 0xfa, 0xff, 0x68, 0x65, 0x6c, 0x6c, 0x6f]] := by
  have hiff := (decodedAsWhole_iff hello.zlib [0x01, 0x05]
    [[0x00, 0xfa, 0xff, 0x68, 0x65, 0x6c, 0x6c, 0x6f]]).2 hello_deflateBody
  refine hiff.mpr ⟨.inl (by decide), fun zs _ => ?_⟩
  rw [hello_lost, hello_lost]

/-- When the first byte comes alone, its window is the one that detects a
wrapper. -/
theorem decodedAsWhole_firstByte :
    DeflateBody hello.zlib hello.encoded ∧
      hello.encoded = [[0x01], [0x05, 0x00, 0xfa, 0xff, 0x68, 0x65, 0x6c, 0x6c, 0x6f]].flatten ∧
      ¬DecodedAsWhole hello.zlib [0x01]
        [[0x05, 0x00, 0xfa, 0xff, 0x68, 0x65, 0x6c, 0x6c, 0x6f]] := by
  refine ⟨hello_deflateBody, rfl, fun h => ?_⟩
  have hwindow := h.window
  revert hwindow
  decide

/-! ## A stream that fills the buffer -/

/-- 32769 times `a`: dynamic codes in 113 bits, and then two bits for each of
two literals, 127 matches of 258 bytes, a literal and the end of the block. -/
def manyAs : Known where
  encoded := [0xed, 0xc1, 0x81, 0x00, 0x00, 0x00, 0x00, 0x80, 0x20, 0xd6, 0xfd, 0x25, 0x16, 0xa9,
    0x0a, 0x00, 0x00, 0x00, 0x00, 0x00, 0x00, 0x00, 0x00, 0x00, 0x00, 0x00, 0x00, 0x00, 0x00, 0x00,
    0x00, 0x00, 0x00, 0x00, 0x00, 0x00, 0x00, 0x00, 0x00, 0x00, 0x00, 0x00, 0x00, 0x00, 0x00, 0x00,
    0x68]
  payload := List.replicate 32769 0x61
  size n :=
    let symbols := (8 * n - 113) / 2
    if symbols ≤ 2 then symbols
    else if symbols ≤ 129 then 2 + 258 * (symbols - 2)
    else 32769
  size_zero := rfl
  size_mono m n hle := by
    dsimp only
    split <;> split <;> (try split) <;> (try split) <;> omega
  nonempty := List.cons_ne_nil _ _
  head := by decide

/-- A brotli that refuses everything. -/
def noBrotli : Brotli where
  decoder := eager (fun _ : Unit => emptyFormat) (fun _ _ => false)
    (fun _ => emptyFormat_streamed.grows) (fun result => decide (result = .error))
    fun _ _ _ _ => .error
  format := emptyFormat
  createInstance := some (Eager.start ())
  create _ h := by
    cases h
    exact ⟨rfl, rfl, rfl⟩
  failed_eq _ := rfl
  streamed := emptyFormat_streamed
  valid _ _ h := h
  success _ _ _ := iff_of_false nofun fun h => h.1
  needsMoreInput _ _ _ h := nomatch h
  needsMoreOutput _ _ _ h := nomatch h
  error _ _ _ _ _ h := h
  within _ _ _ _ h := h.elim
  finished _ _ h := h.elim

/-- A zstd that refuses everything. -/
def noZstd : Zstd where
  dctx := eager (fun _ : Unit => emptyFormat) (fun _ _ => false)
    (fun _ => emptyFormat_streamed.grows) (fun result => decide (result = .error))
    fun _ _ _ _ => .error
  format := emptyFormat
  createDCtx := some (Eager.start ())
  create _ h := by
    cases h
    exact ⟨rfl, rfl, rfl⟩
  failed_eq _ := rfl
  streamed := emptyFormat_streamed
  error _ _ _ _ _ _ _ h := h
  tolerated _ := 0
  progress _ _ _ _ _ h := nomatch h
  complete _ _ _ _ := iff_of_false nofun fun h => h.1
  broken _ _ _ _ _ _ := .inl fun _ h => h.elim
  within _ _ _ _ _ h := h.elim
  finished _ _ _ _ _ h := h.elim
  getFrameContentSize _ := .error
  decompress _ body := if body = [] then some [] else none
  decompress_reads capacity body payload := by
    constructor
    · intro h
      split at h
      · rename_i hempty
        rw [hempty, ← Option.some.inj h]
        exact ⟨⟨[], nofun, rfl, rfl⟩, Nat.zero_le _⟩
      · cases h
    · rintro ⟨⟨frames, hframes, rfl, rfl⟩, -⟩
      cases frames with
      | nil => rfl
      | cons frame frames => exact (hframes frame List.mem_cons_self).elim

def Known.libraries (known : Known) : Libraries := ⟨known.zlib, noBrotli, noZstd⟩

section ManyAs

theorem manyAs_window : deflateWindow manyAs.encoded = -MAX_WBITS := by decide

theorem manyAs_deflateBody : DeflateBody manyAs.zlib manyAs.encoded :=
  manyAs.deflateBody manyAs_window (by decide)

theorem manyAs_format : manyAs.zlib.format (-MAX_WBITS) = manyAs.raw := manyAs.format_raw

theorem manyAs_decode {body : Bytes} (h : body <+: manyAs.encoded) :
    (manyAs.raw.decode body).length = min (manyAs.size body.length) 32769 := by
  show (manyAs.payload.take (manyAs.size (common manyAs.encoded body))).length = _
  rw [common_eq_length h, List.length_take]
  exact congrArg (min _) List.length_replicate

def manyAsStart : manyAs.zlib.stream.State := Eager.start (-MAX_WBITS)

theorem manyAs_initial : Initial manyAs.raw manyAsStart := by
  rw [← manyAs_format]
  exact (manyAs.zlib.init _ manyAsStart rfl).2

/-- What is due behind a beginning of the stream. -/
theorem manyAs_due {zs : manyAs.zlib.stream.State}
    (hformat : manyAs.zlib.stream.format zs = manyAs.raw) (chunk : Bytes)
    (h : manyAs.zlib.stream.taken zs ++ chunk <+: manyAs.encoded) :
    (manyAs.zlib.stream.due zs chunk).length =
      min (manyAs.size (manyAs.zlib.stream.taken zs ++ chunk).length) 32769 -
        (manyAs.zlib.stream.given zs).length := by
  rw [Decoder.due, hformat, List.length_drop, manyAs_decode h]

theorem manyAs_hasNoRoom :
    ¬RoomAtEnd (zlibLoop manyAs.zlib) manyAsStart [manyAs.encoded] := by
  intro hroom
  have hbegins : manyAs.zlib.stream.taken manyAsStart ++ manyAs.encoded <+: manyAs.encoded :=
    List.prefix_refl _
  have hcalls := Driver.callsAll_one manyAs.nonempty
    (Known.chunk_outcome manyAsStart rfl manyAs.nonempty hbegins) []
  have hdue := hroom (manyAsStart, manyAs.encoded) (by rw [hcalls]; rfl)
  rw [manyAs_due manyAs_initial.format _ hbegins, manyAs_initial.given] at hdue
  revert hdue
  decide

/-- The whole stream in one chunk is taken at once, and the loop hands on 32768
bytes of it. -/
theorem feedStreamDecompressor_losesOutput :
    buildStreamDecompressor manyAs.libraries .deflate = some (.zlib .windowPending) ∧
      (bodyFormat manyAs.libraries .deflate manyAs.encoded).Valid manyAs.encoded ∧
      (bodyFormat manyAs.libraries .deflate manyAs.encoded).Finished manyAs.encoded ∧
      ¬Whole (bodyFormat manyAs.libraries .deflate manyAs.encoded) [manyAs.encoded]
        (feedChunks manyAs.libraries (.zlib .windowPending) [manyAs.encoded]) := by
  have hformat : bodyFormat manyAs.libraries .deflate manyAs.encoded = manyAs.raw := by
    show manyAs.zlib.format (deflateWindow manyAs.encoded) = manyAs.raw
    rw [manyAs_window, manyAs_format]
  have hvalid := manyAs_deflateBody.valid
  refine ⟨rfl, hvalid, by rw [hformat]; rfl, fun hwhole => manyAs_hasNoRoom ?_⟩
  rw [feedChunks_zlib] at hwhole
  have hfits : OpensWindow manyAs.zlib [manyAs.encoded] ∧
      ZlibFits manyAs.zlib (deflateWindow [manyAs.encoded].flatten) [manyAs.encoded] :=
    (inflateChunks_deflate hvalid).mp hwhole
  obtain ⟨-, -, -, hroom⟩ := hfits
  exact hroom manyAsStart (by rw [List.flatten_singleton, manyAs_window]; rfl)

/-- The stream without its last byte. -/
def manyAsFirst : Bytes := manyAs.encoded.take 46

theorem manyAsFirst_begins : manyAsFirst <+: manyAs.encoded := List.take_prefix 46 _

theorem manyAsFirst_ne_nil : manyAsFirst ≠ [] := List.cons_ne_nil _ _

/-- The state behind it. -/
def manyAsNext : manyAs.zlib.stream.State :=
  ((zlibLoop manyAs.zlib).call manyAsStart manyAsFirst).state

theorem manyAsNext_outcome : (zlibLoop manyAs.zlib).outcome manyAsStart manyAsFirst = some 1 :=
  Known.chunk_outcome manyAsStart rfl manyAsFirst_ne_nil manyAsFirst_begins

theorem manyAsNext_left : (zlibLoop manyAs.zlib).left manyAsStart manyAsFirst = [] :=
  Known.chunk_left manyAsStart manyAsFirst_begins

theorem manyAsNext_taken : manyAs.zlib.stream.taken manyAsNext = manyAsFirst :=
  manyAs.zlib.stream.taken_of_left_nil manyAsNext_left

/-- It gives 32252 bytes. -/
theorem manyAsNext_given : (manyAs.zlib.stream.given manyAsNext).length = 32252 := by
  have hgiven : manyAs.zlib.stream.given manyAsNext = _ :=
    manyAs.zlib.stream.given_call manyAsStart (zlibLoop manyAs.zlib).room manyAsFirst
  have houtput := Decoder.output_eq (manyAs_initial.agrees manyAsFirst)
    ((zlibLoop manyAs.zlib).accepts _ _ _ manyAsNext_outcome) manyAsNext_left
  have hdue := manyAs_due manyAs_initial.format manyAsFirst manyAsFirst_begins
  have hsize : manyAs.size manyAsFirst.length = 32252 := by decide
  rw [manyAs_initial.given] at hgiven hdue
  rw [manyAs_initial.taken, List.nil_append, hsize] at hdue
  rw [hgiven, List.nil_append, houtput, List.length_take, hdue]
  rfl

def manyAsCut : List Bytes := [manyAsFirst, [0x68]]

theorem manyAsCut_flatten : manyAsCut.flatten = manyAs.encoded := rfl

/-- 517 bytes are left for the last chunk. -/
theorem manyAsCut_roomAtEnd : RoomAtEnd (zlibLoop manyAs.zlib) manyAsStart manyAsCut := by
  have hbegins : manyAs.zlib.stream.taken manyAsNext ++ [0x68] <+: manyAs.encoded := by
    rw [manyAsNext_taken]
    exact List.prefix_refl _
  have hlast := Known.chunk_outcome manyAsNext rfl (List.cons_ne_nil _ _) hbegins
  have hcalls : (zlibLoop manyAs.zlib).callsAll manyAsStart manyAsCut =
      [(manyAsStart, manyAsFirst), (manyAsNext, [0x68])] := by
    rw [manyAsCut, Driver.callsAll_one manyAsFirst_ne_nil manyAsNext_outcome]
    exact congrArg (List.cons _) (Driver.callsAll_one (List.cons_ne_nil _ _) hlast [])
  intro last hmem
  rw [hcalls] at hmem
  have hnext : last = (manyAsNext, [0x68]) := (Option.some.inj hmem).symm
  have hformat : manyAs.zlib.stream.format manyAsNext = manyAs.raw := manyAs_initial.format
  have hdue := manyAs_due hformat [0x68] hbegins
  have hsize : manyAs.size (manyAsFirst ++ [0x68]).length = 32769 := by decide
  rw [manyAsNext_given, manyAsNext_taken, hsize] at hdue
  rw [hnext]
  dsimp only
  rw [hdue]
  decide

/-- Cut before its last byte, the stream is handed on whole. -/
theorem feedStreamDecompressor_whole_manyAs :
    Whole (bodyFormat manyAs.libraries .deflate manyAs.encoded) manyAsCut
      (feedChunks manyAs.libraries (.zlib .windowPending) manyAsCut) := by
  have hvalid : (bodyFormat manyAs.libraries .deflate manyAsCut.flatten).Valid manyAsCut.flatten :=
    manyAs_deflateBody.valid
  refine (feedStreamDecompressor_whole manyAs.libraries rfl hvalid).mpr ⟨?_, ?_, ?_, ?_⟩
  · intro first hfirst
    cases hfirst
    exact ⟨by decide, nofun⟩
  · decide
  · exact manyAs_deflateBody.nothingFollows
  · intro zs hinit
    rw [manyAsCut_flatten, manyAs_window] at hinit
    cases hinit
    exact manyAsCut_roomAtEnd

end ManyAs

end HttpRequestClient.CompressHandler
