import HttpRequestClient.Hpack.Encoder
import HttpRequestClient.Hpack.HuffmanCorrect
import Mathlib.Algebra.BigOperators.Group.List.Basic
import Mathlib.Data.Nat.Log

/-!
# The buffers of the encoder

The encoder checks no buffer that it writes to.  `hpackHeaders` and
`writeHuffmanValue` make room for two octets for every character of a value,
`hpackHeaders` for 128 octets of a name, and `calculateHpackBufferSize`
guesses the size of the whole block from the lengths of its strings.  A code
word has between 5 and 30 bits.

* `length_hpackHuffmanEncode` and `length_encodeHeader`: the octets that are
  written, from the widths of the codes.
* `encodeHeaders_written`: a block that is sent has the octets of the headers
  before the first one without a form, as `writtenBlock` has them.
* `buffersHold_iff`: they fit the buffers if and only if the widths do.
* `buffersHold_of_narrow`: that is the case for names of at most 128
  characters when no code has more than 8 bits.
-/

namespace HttpRequestClient.Hpack

open BitString

/-! ## Sizes -/

/-- The width of the code of an octet. -/
def codeWidth (c : UInt8) : Nat := (huffmanEntry c.toNat).bits

def codeBits (s : Bytes) : Nat := (s.map codeWidth).sum

/-- The octets of a coded string. -/
def codedSize (s : Bytes) : Nat := (codeBits s + 7) / 8

/-- The octets of an integer behind a prefix of seven bits. -/
def integerSize (value : Nat) : Nat := if value < 127 then 1 else Nat.log 128 (value - 127) + 2

/-- What `writeHuffmanValue` writes. -/
def valueSize (value : Bytes) : Nat :=
  if value.length = 0 then 1 else integerSize (codedSize value) + codedSize value

def literalRawNameSize (name value : Bytes) : Nat :=
  1 + integerSize name.length + name.length + valueSize value

def pseudoHeaderSize (header : RequestHeader) : Nat :=
  if strcasecmp header.name (ascii ":method") = 0 then
    if strcasecmp header.value (ascii "GET") = 0 ∨ strcasecmp header.value (ascii "POST") = 0 then 1
    else literalRawNameSize header.name header.value
  else if strcasecmp header.name (ascii ":scheme") = 0 then
    if strcasecmp header.name (ascii "https") = 0 ∨ strcasecmp header.name (ascii "http") = 0 then 1
    else literalRawNameSize header.name header.value
  else 1 + valueSize header.value

/-- The entry of the static table for a name. -/
def nameEntry (name : Bytes) : Option (String × Nat) :=
  bsearch (compareHpackEntry name) requestHeaderHpackStaticTable
    requestHeaderHpackStaticTable.length 0 requestHeaderHpackStaticTable.length

def realHeaderSize (header : RequestHeader) : Nat :=
  (if (nameEntry header.name).isSome then 1
    else 1 + (if codedSize header.name < 128 then 1 else 2) + codedSize header.name) +
    integerSize (codedSize header.value) + codedSize header.value

def headerSize (header : RequestHeader) : Nat :=
  if header.isPseudo then pseudoHeaderSize header else realHeaderSize header

/-! ## Buffers -/

def estimatedSize (header : RequestHeader) : Nat :=
  let estimated := (header.name.length + header.value.length) * 6 / 5 + 10
  if strcasecmp header.name (ascii "cookies") = 0 then estimated * 2 else estimated

/-- The factor 1.2 of the source is six fifths. -/
def calculateHpackBufferSize (headers : List RequestHeader) : Nat :=
  (headers.map estimatedSize).sum + 512

/-- `writeHuffmanValue` is called for a pseudo header. -/
def writesHuffmanValue (header : RequestHeader) : Bool :=
  if strcasecmp header.name (ascii ":method") = 0 then
    ¬(strcasecmp header.value (ascii "GET") = 0 ∨ strcasecmp header.value (ascii "POST") = 0)
  else if strcasecmp header.name (ascii ":scheme") = 0 then
    ¬(strcasecmp header.name (ascii "https") = 0 ∨ strcasecmp header.name (ascii "http") = 0)
  else true

/-- The strings of a header that are coded, each with the size of the buffer
that `hpackHuffmanEncode` gets for it. -/
def codedStrings (header : RequestHeader) : List (Bytes × Nat) :=
  if header.isPseudo then
    if writesHuffmanValue header then [(header.value, header.value.length * 2 + 10)] else []
  else
    (if (nameEntry header.name).isSome then [] else [(header.name, 128)]) ++
      [(header.value, header.value.length * 2)]

/-- The names that `hpackPseudoHeaders` knows. -/
def pseudoHeaderNames : List Bytes :=
  [ascii ":method", ascii ":scheme", ascii ":authority", ascii ":path"]

/-- The encoder has a form for every header but the other pseudo headers. -/
def hasForm (header : RequestHeader) : Bool :=
  !header.isPseudo || pseudoHeaderNames.any fun name => strcasecmp header.name name = 0

/-- The headers before the first one that ends the loop of
`buildHttp2HeadersFrame`. -/
def writtenHeaders : List RequestHeader → List RequestHeader
  | [] => []
  | header :: headers =>
    if isEmitted header then
      if hasForm header then header :: writtenHeaders headers else []
    else writtenHeaders headers

/-- What is in the buffer of the block when the loop ends. -/
def writtenBlock (headers : List RequestHeader) : Bytes :=
  (writtenHeaders headers).flatMap fun header => (encodeHeader header).toOption.getD []

/-- No buffer is written beyond its end. -/
structure BuffersHold (headers : List RequestHeader) : Prop where
  strings : ∀ header ∈ writtenHeaders headers, ∀ coded ∈ codedStrings header,
    (hpackHuffmanEncode coded.1).length ≤ coded.2
  block : (writtenBlock headers).length ≤ calculateHpackBufferSize headers

/-- The codes of every string fit its buffer, and those of all of them the
buffer of the block. -/
structure WidthsFit (headers : List RequestHeader) : Prop where
  strings : ∀ header ∈ writtenHeaders headers, ∀ coded ∈ codedStrings header,
    codeBits coded.1 ≤ 8 * coded.2
  block : ((writtenHeaders headers).map headerSize).sum ≤ calculateHpackBufferSize headers

/-! ## What is written -/

theorem encodeLoop_length (s : Bytes) :
    ∀ {currentByte bitsUsed : Nat}, bitsUsed < 8 → currentByte < 2 ^ bitsUsed →
      (encodeLoop s currentByte bitsUsed).length = (bitsUsed + codeBits s + 7) / 8 := by
  induction s with
  | nil =>
    intro currentByte bitsUsed hbits _
    rw [encodeLoop, codeBits, List.map_nil, List.sum_nil]
    split
    · rw [List.length_singleton]
      omega
    · rw [List.length_nil]
      omega
  | cons c s ih =>
    intro currentByte bitsUsed _ hcur
    obtain ⟨out, currentByte', bitsUsed', hloop, hout, hbits', hcur'⟩ := encodeLoop_cons c s hcur
    have hlength := congrArg List.length hout
    simp only [List.length_append, ofBytes_length, ofNat_length, codeWord, HuffmanCode.word]
      at hlength
    have hcons : codeBits (c :: s) = (huffmanEntry c.toNat).bits + codeBits s := by
      rw [codeBits, List.map_cons, List.sum_cons]
      rfl
    rw [hloop, List.length_append, ih hbits' hcur', hcons]
    omega

/-- A coded string is as long as its codes. -/
theorem length_hpackHuffmanEncode (s : Bytes) : (hpackHuffmanEncode s).length = codedSize s := by
  rw [hpackHuffmanEncode, encodeLoop_length s (by decide) (by decide), Nat.zero_add]
  rfl

theorem encodeGroups_length (fuel : Nat) :
    ∀ value ≤ fuel, (encodeGroups fuel value).length = Nat.log 128 value + 1 := by
  induction fuel with
  | zero =>
    intro value hvalue
    rw [encodeGroups, Nat.log_of_lt (by omega)]
    rfl
  | succ fuel ih =>
    intro value hvalue
    rw [encodeGroups]
    split
    · rename_i hlong
      have hshift : value >>> 7 = value / 128 := Nat.shiftRight_eq_div_pow value 7
      rw [List.length_cons, hshift, ih _ (by omega), Nat.log_of_one_lt_of_le (by decide) hlong]
    · rw [Nat.log_of_lt (by omega)]
      rfl

theorem length_hpackEncodeInteger (value flags : Nat) :
    (hpackEncodeInteger value 7 flags).length = integerSize value := by
  have hprefix : 2 ^ 7 - 1 = 127 := rfl
  rw [hpackEncodeInteger, integerSize, hprefix]
  by_cases hshort : value < 127
  · rw [if_pos hshort, if_pos hshort]
    rfl
  · rw [if_neg hshort, if_neg hshort, List.length_cons]
    exact congrArg (· + 1) (encodeGroups_length _ _ (Nat.le_refl _))

theorem length_writeHuffmanValue (value : Bytes) :
    (writeHuffmanValue value).length = valueSize value := by
  rw [writeHuffmanValue, valueSize]
  split
  · rfl
  · rw [List.length_append, length_hpackEncodeInteger, length_hpackHuffmanEncode]

theorem length_literalRawName (name value : Bytes) :
    (literalRawName name value).length = literalRawNameSize name value := by
  simp only [literalRawName, literalRawNameSize, List.length_append, length_hpackEncodeInteger,
    length_writeHuffmanValue, List.length_singleton]

theorem length_hpackPseudoHeaders {header : RequestHeader} {octets : Bytes}
    (h : hpackPseudoHeaders header = .ok octets) : octets.length = pseudoHeaderSize header := by
  have hliteral := length_literalRawName header.name header.value
  have hvalue (first : UInt8) :
      ([first] ++ writeHuffmanValue header.value).length = 1 + valueSize header.value := by
    rw [List.length_append, length_writeHuffmanValue, List.length_singleton]
  unfold hpackPseudoHeaders at h
  unfold pseudoHeaderSize
  dsimp only at h
  split at h
  · rename_i hmethod
    rw [if_pos hmethod]
    split at h
    · rename_i hget
      cases h
      rw [if_pos (.inl hget)]
      rfl
    · rename_i hget
      split at h
      · rename_i hpost
        cases h
        rw [if_pos (.inr hpost)]
        rfl
      · rename_i hpost
        cases h
        rw [if_neg (not_or.mpr ⟨hget, hpost⟩), hliteral]
  · rename_i hmethod
    rw [if_neg hmethod]
    split at h
    · rename_i hscheme
      rw [if_pos hscheme]
      split at h
      · rename_i hhttps
        cases h
        rw [if_pos (.inl hhttps)]
        rfl
      · rename_i hhttps
        split at h
        · rename_i hhttp
          cases h
          rw [if_pos (.inr hhttp)]
          rfl
        · rename_i hhttp
          cases h
          rw [if_neg (not_or.mpr ⟨hhttps, hhttp⟩), hliteral]
    · rename_i hscheme
      rw [if_neg hscheme]
      split at h
      · cases h
        exact hvalue 0x41
      · split at h
        · cases h
          exact hvalue 0x44
        · cases h

theorem length_hpackHeaders (header : RequestHeader) :
    (hpackHeaders header).length = realHeaderSize header := by
  unfold hpackHeaders realHeaderSize
  have hfound : bsearch (compareHpackEntry header.name) requestHeaderHpackStaticTable
      requestHeaderHpackStaticTable.length 0 requestHeaderHpackStaticTable.length =
        nameEntry header.name := rfl
  dsimp only
  rw [hfound]
  cases nameEntry header.name with
  | some entry =>
    simp only [List.length_append, length_hpackEncodeInteger, length_hpackHuffmanEncode,
      List.length_singleton, Option.isSome_some, if_true]
  | none =>
    simp only [List.length_append, length_hpackEncodeInteger, length_hpackHuffmanEncode,
      List.length_singleton, Option.isSome_none, Bool.false_eq_true, if_false]
    split <;> rfl

theorem length_encodeHeader {header : RequestHeader} {octets : Bytes}
    (h : encodeHeader header = .ok octets) : octets.length = headerSize header := by
  unfold encodeHeader at h
  unfold headerSize
  split at h
  · rename_i hpseudo
    rw [if_pos hpseudo]
    exact length_hpackPseudoHeaders h
  · rename_i hpseudo
    cases h
    rw [if_neg hpseudo]
    exact length_hpackHeaders header

theorem hpackPseudoHeaders_hasForm {header : RequestHeader} (hpseudo : header.isPseudo = true) :
    (∃ octets, hpackPseudoHeaders header = .ok octets) ↔ hasForm header = true := by
  unfold hpackPseudoHeaders
  rw [hasForm, hpseudo]
  by_cases hmethod : strcasecmp header.name (ascii ":method") = 0
  · refine iff_of_true ?_ (by simp [pseudoHeaderNames, hmethod])
    dsimp only
    rw [if_pos hmethod]
    split
    · exact ⟨_, rfl⟩
    · split <;> exact ⟨_, rfl⟩
  by_cases hscheme : strcasecmp header.name (ascii ":scheme") = 0
  · refine iff_of_true ?_ (by simp [pseudoHeaderNames, hscheme])
    dsimp only
    rw [if_neg hmethod, if_pos hscheme]
    split
    · exact ⟨_, rfl⟩
    · split <;> exact ⟨_, rfl⟩
  by_cases hauthority : strcasecmp header.name (ascii ":authority") = 0
  · refine iff_of_true ?_ (by simp [pseudoHeaderNames, hauthority])
    dsimp only
    rw [if_neg hmethod, if_neg hscheme, if_pos hauthority]
    exact ⟨_, rfl⟩
  by_cases hpath : strcasecmp header.name (ascii ":path") = 0
  · refine iff_of_true ?_ (by simp [pseudoHeaderNames, hpath])
    dsimp only
    rw [if_neg hmethod, if_neg hscheme, if_neg hauthority, if_pos hpath]
    exact ⟨_, rfl⟩
  · refine iff_of_false ?_ (by simp [pseudoHeaderNames, hmethod, hscheme, hauthority, hpath])
    rintro ⟨octets, hok⟩
    dsimp only at hok
    rw [if_neg hmethod, if_neg hscheme, if_neg hauthority, if_neg hpath] at hok
    cases hok

theorem encodeHeader_hasForm (header : RequestHeader) :
    (∃ octets, encodeHeader header = .ok octets) ↔ hasForm header = true := by
  unfold encodeHeader
  cases hpseudo : header.isPseudo with
  | true => exact hpackPseudoHeaders_hasForm hpseudo
  | false =>
    refine iff_of_true ⟨_, rfl⟩ ?_
    rw [hasForm, hpseudo]
    rfl

/-- The block that is sent is all that was written. -/
theorem encodeHeaders_written {headers : List RequestHeader} {block : Bytes}
    (h : encodeHeaders headers = .ok block) : block = writtenBlock headers := by
  induction headers generalizing block with
  | nil =>
    cases h
    rfl
  | cons header headers ih =>
    rw [encodeHeaders] at h
    rw [writtenBlock, writtenHeaders]
    split at h
    · rename_i hemitted
      rw [if_pos hemitted]
      cases hencode : encodeHeader header with
      | error error =>
        rw [hencode] at h
        cases h
      | ok head =>
        have hform := (encodeHeader_hasForm header).mp ⟨head, hencode⟩
        rw [hencode] at h
        rw [if_pos hform]
        dsimp only at h
        split at h
        · cases h
        · rename_i tail htail
          cases h
          rw [List.flatMap_cons, hencode, ih htail]
          rfl
    · rename_i hemitted
      rw [if_neg hemitted]
      exact ih h

theorem encodeHeader_of_written {headers : List RequestHeader} {header : RequestHeader}
    (h : header ∈ writtenHeaders headers) :
    header ∈ headers ∧ ∃ octets, encodeHeader header = .ok octets := by
  induction headers with
  | nil => exact absurd h List.not_mem_nil
  | cons first headers ih =>
    rw [writtenHeaders] at h
    split at h
    · split at h
      · rename_i hform
        rcases List.mem_cons.mp h with rfl | hrest
        · exact ⟨List.mem_cons_self, (encodeHeader_hasForm header).mpr hform⟩
        · exact ⟨List.mem_cons_of_mem _ (ih hrest).1, (ih hrest).2⟩
      · exact absurd h List.not_mem_nil
    · exact ⟨List.mem_cons_of_mem _ (ih h).1, (ih h).2⟩

theorem length_writtenBlock (headers : List RequestHeader) :
    (writtenBlock headers).length = ((writtenHeaders headers).map headerSize).sum := by
  rw [writtenBlock, List.length_flatMap]
  congr 1
  refine List.map_congr_left fun header hheader => ?_
  obtain ⟨-, octets, hencode⟩ := encodeHeader_of_written hheader
  rw [hencode]
  exact length_encodeHeader hencode

/-- The buffers of the encoder are large enough exactly for the header lists
whose codes fit them. -/
theorem buffersHold_iff (headers : List RequestHeader) :
    BuffersHold headers ↔ WidthsFit headers := by
  have hstring : ∀ (s : Bytes) (room : Nat),
      (hpackHuffmanEncode s).length ≤ room ↔ codeBits s ≤ 8 * room := by
    intro s room
    rw [length_hpackHuffmanEncode, codedSize]
    omega
  constructor
  · rintro ⟨hstrings, hblock⟩
    rw [length_writtenBlock] at hblock
    exact ⟨fun header hheader coded hcoded =>
      (hstring coded.1 coded.2).mp (hstrings header hheader coded hcoded), hblock⟩
  · rintro ⟨hstrings, hblock⟩
    rw [← length_writtenBlock] at hblock
    exact ⟨fun header hheader coded hcoded =>
      (hstring coded.1 coded.2).mpr (hstrings header hheader coded hcoded), hblock⟩

/-- Eight backslashes have codes of 19 bits.  The buffer of the value has room
for 16 octets, and 19 are written. -/
theorem buffersHold_backslashes :
    ¬BuffersHold [⟨ascii "referer", List.replicate 8 0x5c, false⟩] := by
  intro h
  have hstring := h.strings ⟨ascii "referer", List.replicate 8 0x5c, false⟩ (by decide +kernel)
    (List.replicate 8 0x5c, 16) (by decide +kernel)
  revert hstring
  decide +kernel

/-! ## Headers with narrow codes -/

/-- No code of a string has more than eight bits. -/
def Narrow (s : Bytes) : Prop := ∀ c ∈ s, codeWidth c ≤ 8

theorem codeBits_narrow {s : Bytes} (h : Narrow s) : codeBits s ≤ 8 * s.length := by
  induction s with
  | nil => exact Nat.le_refl _
  | cons c s ih =>
    have hrest := ih fun other hother => h other (List.mem_cons_of_mem _ hother)
    have hfirst := h c List.mem_cons_self
    rw [codeBits] at hrest
    rw [codeBits, List.map_cons, List.sum_cons, List.length_cons]
    omega

theorem codedSize_narrow {s : Bytes} (h : Narrow s) : codedSize s ≤ s.length := by
  have hbits := codeBits_narrow h
  rw [codedSize]
  omega

theorem integerSize_le (value : Nat) : integerSize value ≤ value / 128 + 3 := by
  rw [integerSize]
  split
  · omega
  · by_cases hshort : value - 127 < 128
    · rw [Nat.log_of_lt hshort]
      omega
    · have hlog := Nat.log_le_self 128 ((value - 127) / 128)
      rw [Nat.log_of_one_lt_of_le (by decide) (Nat.le_of_not_lt hshort)]
      omega

theorem valueSize_narrow {value : Bytes} (h : Narrow value) :
    valueSize value ≤ value.length + value.length / 128 + 3 := by
  have hcoded := codedSize_narrow h
  have hinteger := integerSize_le (codedSize value)
  rw [valueSize]
  split
  · omega
  · omega

theorem headerSize_narrow {header : RequestHeader} (hname : Narrow header.name)
    (hvalue : Narrow header.value) : headerSize header ≤ estimatedSize header := by
  have hroom : (header.name.length + header.value.length) * 6 / 5 + 10 ≤ estimatedSize header := by
    rw [estimatedSize]
    split
    · omega
    · exact Nat.le_refl _
  have hsize := valueSize_narrow hvalue
  have hinteger := integerSize_le header.name.length
  have hliteral : literalRawNameSize header.name header.value ≤ estimatedSize header := by
    rw [literalRawNameSize]
    omega
  refine Nat.le_trans ?_ hroom
  have hnameSize := codedSize_narrow hname
  have hvalueSize := codedSize_narrow hvalue
  have hvalueInteger := integerSize_le (codedSize header.value)
  unfold headerSize pseudoHeaderSize realHeaderSize literalRawNameSize
  split
  · split
    · split
      · omega
      · omega
    · split
      · split
        · omega
        · omega
      · omega
  · split
    · omega
    · split
      · omega
      · omega

/-- Short names with codes of at most eight bits, and values with such codes,
never fill a buffer. -/
theorem buffersHold_of_narrow {headers : List RequestHeader}
    (h : ∀ header ∈ headers, Narrow header.name ∧ Narrow header.value ∧ header.name.length ≤ 128) :
    BuffersHold headers := by
  rw [buffersHold_iff]
  refine ⟨fun header hheader coded hcoded => ?_, ?_⟩
  · obtain ⟨hname, hvalue, hlength⟩ := h header (encodeHeader_of_written hheader).1
    have hnameBits := codeBits_narrow hname
    have hvalueBits := codeBits_narrow hvalue
    unfold codedStrings at hcoded
    split at hcoded
    · split at hcoded
      · rw [List.mem_singleton.mp hcoded]
        dsimp only
        omega
      · exact absurd hcoded List.not_mem_nil
    · rcases List.mem_append.mp hcoded with hcoded | hcoded
      · split at hcoded
        · exact absurd hcoded List.not_mem_nil
        · rw [List.mem_singleton.mp hcoded]
          dsimp only
          omega
      · rw [List.mem_singleton.mp hcoded]
        dsimp only
        omega
  · have hsizes : ((writtenHeaders headers).map headerSize).sum ≤ (headers.map estimatedSize).sum := by
      induction headers with
      | nil => exact Nat.le_refl _
      | cons header headers ih =>
        have hrest := ih fun other hother => h other (List.mem_cons_of_mem _ hother)
        obtain ⟨hname, hvalue, -⟩ := h header List.mem_cons_self
        have hfirst := headerSize_narrow hname hvalue
        rw [writtenHeaders, List.map_cons, List.sum_cons]
        split
        · split
          · rw [List.map_cons, List.sum_cons]
            omega
          · exact Nat.zero_le _
        · omega
    rw [calculateHpackBufferSize]
    omega

end HttpRequestClient.Hpack
