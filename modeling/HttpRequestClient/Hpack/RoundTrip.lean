import HttpRequestClient.Hpack.Blocks
import HttpRequestClient.Hpack.Encoder
import Mathlib.Data.List.Forall2

/-!
# What the encoder writes, the decoder reads

The encoder chooses among four representations.  `encodeHeader_spec` gives
for every header a representation whose octets it writes, so that the
decoder's side is already settled by `decodeHeadersFrame_fields`.

* `encodeHeader_spec`: the representation of one header and the field it
  means on every table.
* `encodeHeaders_decode`: a whole list, up to the case of names and of the
  two methods that have an index.
-/

namespace HttpRequestClient.Hpack

open BitString Rfc7541

/-! ## Integers and strings -/

theorem encodeGroups_eq (fuel : Nat) :
    ∀ value, encodeGroups fuel value = encodeContinuation fuel value := by
  have hlow : ∀ value, value &&& 0x7F = value % 128 := fun value =>
    Nat.and_two_pow_sub_one_eq_mod value 7
  have hhigh : ∀ value, (value % 128) ||| 0x80 = 128 + value % 128 := by
    intro value
    have hlt : value % 128 < 2 ^ 7 := Nat.mod_lt _ (by decide)
    rw [Nat.or_comm]
    exact (Nat.two_pow_add_eq_or_of_lt hlt 1).symm
  induction fuel with
  | zero => intro value; rw [encodeGroups, encodeContinuation, hlow]
  | succ fuel ih =>
    intro value
    rw [encodeGroups, encodeContinuation, hlow, hhigh, ih, Nat.shiftRight_eq_div_pow]

theorem hpackEncodeInteger_eq (p high value : Nat) :
    hpackEncodeInteger value p (high * 2 ^ p) = encodeInteger p high value := by
  have hpow := Nat.two_pow_pos p
  have hor : ∀ x, x < 2 ^ p → (high * 2 ^ p) ||| x = high * 2 ^ p + x := by
    intro x hx
    have := Nat.two_pow_add_eq_or_of_lt hx high
    rw [Nat.mul_comm high]
    exact this.symm
  rw [hpackEncodeInteger, encodeInteger]
  simp only [encodeGroups_eq]
  split
  · rw [hor value (by omega)]
  · rw [hor _ (by omega)]

theorem encodeContinuation_length (fuel : Nat) :
    ∀ (n value : Nat), value < 128 ^ (n + 1) → (encodeContinuation fuel value).length ≤ n + 1 := by
  induction fuel with
  | zero => intro n value _; rw [encodeContinuation]; simp
  | succ fuel ih =>
    intro n value h
    rw [encodeContinuation]
    split
    · cases n with
      | zero => omega
      | succ n =>
        have hdiv : value / 128 < 128 ^ (n + 1) := by
          rw [Nat.div_lt_iff_lt_mul (by decide)]
          rw [Nat.pow_succ] at h
          exact h
        have := ih n (value / 128) hdiv
        rw [List.length_cons]
        omega
    · simp

/-- Behind a prefix of `p` bits, five continuation octets are enough. -/
theorem shortForm_hpackEncodeInteger {p : Nat} (high : Nat) {value : Nat}
    (h : value < 2 ^ 35 + (2 ^ p - 1)) :
    shortForm p high value (hpackEncodeInteger value p (high * 2 ^ p)) := by
  rw [hpackEncodeInteger_eq]
  refine ⟨integerOctets_encode p high value, ?_⟩
  rw [encodeInteger]
  split
  · simp
  · have := encodeContinuation_length (value - (2 ^ p - 1)) 4 (value - (2 ^ p - 1)) (by omega)
    rw [List.length_cons]
    omega

/-- The lengths that the decoder's integers can hold. -/
def lengthLimit : Nat := 2 ^ 35 + 127

/-- The characters of a header value. -/
def isValueChar (c : UInt8) : Bool := c = 9 ∨ (0x20 ≤ c ∧ c ≤ 0x7E)

theorem isValueChar_spec {c : UInt8} (h : isValueChar c = true) :
    c ≠ 0 ∧ c ≤ 0x7F ∧ (huffmanEntry c.toNat).bits ≤ 25 := by
  have hall : ((List.range 256).all (fun i => !isValueChar (UInt8.ofNat i) ||
      (UInt8.ofNat i ≠ 0 && (UInt8.ofNat i ≤ 0x7F && (huffmanEntry i).bits ≤ 25)))) = true := by
    decide +kernel
  have hc := List.all_eq_true.mp hall c.toNat (List.mem_range.mpr (UInt8.toNat_lt c))
  rw [UInt8.ofNat_toNat, h] at hc
  simpa using hc

theorem readable_of_valueChars {s : Bytes} (h : ∀ c ∈ s, isValueChar c = true) (huffman : Bool) :
    readable ⟨s, huffman⟩ := by
  refine ⟨fun hzero => (isValueChar_spec (h 0 hzero)).1 rfl, fun _ c hc => ?_⟩
  exact not_misread_of_ascii (isValueChar_spec (h c hc)).2.1

theorem huffmanOctets_encode {s : Bytes} (h : ∀ c ∈ s, isValueChar c = true) :
    HuffmanOctets s (hpackHuffmanEncode s) := by
  obtain ⟨k, hk, hbits⟩ := hpackHuffmanEncode_bits (fun c hc => (isValueChar_spec (h c hc)).2.2)
  refine ⟨k, hk, ?_⟩
  rw [hbits, flatMap_codeWord_eq_rfc]
  exact fun c hc => (not_misread_of_ascii (isValueChar_spec (h c hc)).2.1).1

theorem stringOctets_encode {s : Bytes} (h : ∀ c ∈ s, isValueChar c = true)
    (hlen : (hpackHuffmanEncode s).length < lengthLimit) :
    StringOctets shortForm ⟨s, true⟩
      (hpackEncodeInteger (hpackHuffmanEncode s).length 7 0x80 ++ hpackHuffmanEncode s) :=
  ⟨_, _, huffmanOctets_encode h, shortForm_hpackEncodeInteger 1 hlen, rfl⟩

theorem stringOctets_writeHuffmanValue {s : Bytes} (h : ∀ c ∈ s, isValueChar c = true)
    (hlen : (hpackHuffmanEncode s).length < lengthLimit) :
    StringOctets shortForm ⟨s, true⟩ (writeHuffmanValue s) := by
  have henc := stringOctets_encode h hlen
  rw [writeHuffmanValue]
  split
  · rename_i hempty
    rw [List.length_eq_zero_iff.mp hempty] at henc ⊢
    exact henc
  · exact henc

/-! ## Names -/

/-- The characters of a token. -/
def isTokenChar (c : UInt8) : Bool :=
  isdigit c ∨ (65 ≤ c ∧ c ≤ 90) ∨ (97 ≤ c ∧ c ≤ 122) ∨ c ∈ ascii "!#$%&'*+-.^_|~" ∨ c = 96

theorem isValueChar_of_token {c : UInt8} (h : isTokenChar c = true) : isValueChar c = true := by
  have hall : ((List.range 256).all (fun i =>
      !isTokenChar (UInt8.ofNat i) || isValueChar (UInt8.ofNat i))) = true := by
    decide +kernel
  have hc := List.all_eq_true.mp hall c.toNat (List.mem_range.mpr (UInt8.toNat_lt c))
  rw [UInt8.ofNat_toNat, h] at hc
  simpa using hc

theorem bsearch_sound {compare : String × Nat → Int} {table : List (String × Nat)}
    {entry : String × Nat} (fuel : Nat) :
    ∀ lo hi, bsearch compare table fuel lo hi = some entry →
      entry ∈ table ∧ compare entry = 0 := by
  induction fuel with
  | zero => intro lo hi h; cases h
  | succ fuel ih =>
    intro lo hi h
    rw [bsearch] at h
    split at h
    · simp only at h
      split at h
      · cases h
      · rename_i found hget
        split at h
        · exact ih _ _ h
        · split at h
          · exact ih _ _ h
          · cases h
            exact ⟨List.mem_of_getElem? hget, by omega⟩
    · cases h

/-- The two static tables agree on the names. -/
theorem requestHeaderHpackStaticTable_names {entry : String × Nat}
    (h : entry ∈ requestHeaderHpackStaticTable) :
    0 < entry.2 ∧ entry.2 ≤ 61 ∧ 0 ∉ ascii entry.1 ∧
      ∃ value, staticTable[entry.2 - 1]? = some (entry.1, value) := by
  have hall : requestHeaderHpackStaticTable.all (fun entry =>
      0 < entry.2 && (entry.2 ≤ 61 && (0 ∉ ascii entry.1 &&
        (staticTable[entry.2 - 1]?).map Prod.fst = some entry.1))) = true := by
    decide +kernel
  have hentry := List.all_eq_true.mp hall entry h
  simp only [Bool.and_eq_true, decide_eq_true_eq] at hentry
  obtain ⟨hpos, hle, hzero, hname⟩ := hentry
  rw [Option.map_eq_some_iff] at hname
  obtain ⟨⟨name, value⟩, hget, heq⟩ := hname
  simp only at heq
  exact ⟨hpos, hle, hzero, value, by rw [hget, heq]⟩

theorem lookup_static {table : Table} {index : Nat} {entry : String × String} (hpos : 0 < index)
    (hle : index ≤ 61) (h : staticTable[index - 1]? = some entry) :
    table.lookup index = some (staticField entry) := by
  rw [Table.lookup, if_neg (by omega), if_pos hle, h]
  rfl

/-! ## One header -/

/-- The names that `hpackPseudoHeaders` knows, in lower case. -/
def pseudoNames : List Bytes := [ascii ":method", ascii ":scheme", ascii ":authority", ascii ":path"]

/-- The headers of a request: values of visible characters, spaces and tabs;
names that are known pseudo headers in any case, or tokens whose coded form
has a length of one octet. -/
structure ValidHeader (header : RequestHeader) : Prop where
  value : ∀ c ∈ header.value, isValueChar c = true
  pseudo : header.isPseudo = true → header.name.map tolower ∈ pseudoNames
  real : header.isPseudo = false → (∀ c ∈ header.name, isTokenChar c = true) ∧
    (hpackHuffmanEncode header.name).length < 127

/-- The two methods that are sent by index. -/
def isIndexedMethod (header : RequestHeader) : Prop :=
  header.isPseudo = true ∧ header.name.map tolower = ascii ":method" ∧
    header.value.map tolower ∈ [ascii "get", ascii "post"]

/-- What comes back for a header: its value, and its name up to case.  The
value of an indexed method comes back in upper case. -/
def sameHeader (sent : RequestHeader) (got : ResponseHeader) : Prop :=
  got.name.map tolower = sent.name.map tolower ∧
    (got.value = sent.value ∨
      isIndexedMethod sent ∧ got.value.map tolower = sent.value.map tolower)

/-- What the encoder writes for a header: the octets of a representation
that means the same header on every table. -/
def Represents (header : RequestHeader) (octets : Bytes) : Prop :=
  ∃ rep field, RepOctets shortForm rep octets ∧ fieldReadable rep ∧ sameHeader header field ∧
    ∀ table : Table, ∃ next, table.step rep = some (next, some field)

theorem represents_rawName {header : RequestHeader} (hvalue : ∀ c ∈ header.value, isValueChar c = true)
    (hlen : (hpackHuffmanEncode header.value).length < lengthLimit) (hzero : 0 ∉ header.name)
    (hname : header.name.length < 127) :
    Represents header (literalRawName header.name header.value) := by
  refine ⟨.literal .without (.literal ⟨header.name, false⟩) ⟨header.value, true⟩,
    ⟨header.name, header.value⟩, ?_, ⟨⟨hzero, by simp⟩, readable_of_valueChars hvalue true⟩,
    ⟨rfl, Or.inl rfl⟩, fun table => ⟨_, rfl⟩⟩
  have hlength := shortForm_hpackEncodeInteger (p := 7) 0
    (show header.name.length < 2 ^ 35 + (2 ^ 7 - 1) by omega)
  have hzeroIndex : shortForm 4 0 0 [0x00] := ⟨Or.inl ⟨by decide, rfl⟩, by simp⟩
  refine ⟨[0x00] ++ (hpackEncodeInteger header.name.length 7 0x00 ++ header.name), _,
    ⟨_, _, hzeroIndex, ⟨_, hlength, rfl⟩, rfl⟩, stringOctets_writeHuffmanValue hvalue hlen, ?_⟩
  simp only [literalRawName, List.append_assoc]

/-- A name by its index in the static table. -/
theorem represents_indexedName (index : Nat) {header : RequestHeader} {name value : String}
    {string : Bytes} (hvalue : ∀ c ∈ header.value, isValueChar c = true)
    (hstring : StringOctets shortForm ⟨header.value, true⟩ string) (hpos : 0 < index)
    (hle : index ≤ 61) (hstatic : staticTable[index - 1]? = some (name, value))
    (hname : (ascii name).map tolower = header.name.map tolower) :
    Represents header (UInt8.ofNat (0x40 + index) :: string) := by
  have hindex : shortForm 6 1 index [UInt8.ofNat (0x40 + index)] :=
    ⟨Or.inl ⟨by omega, rfl⟩, by simp⟩
  refine ⟨.literal .incremental (.indexed index) ⟨header.value, true⟩, ⟨ascii name, header.value⟩,
    ⟨_, _, ⟨hpos, hindex⟩, hstring, rfl⟩, ⟨trivial, readable_of_valueChars hvalue true⟩,
    ⟨hname, Or.inl rfl⟩, fun table => ?_⟩
  rw [Table.step, Table.fieldName, lookup_static hpos hle hstatic]
  exact ⟨_, rfl⟩

theorem represents_indexed (index : Nat) {header : RequestHeader} {name value : String}
    (hpos : 0 < index) (hle : index ≤ 61) (hstatic : staticTable[index - 1]? = some (name, value))
    (hname : (ascii name).map tolower = header.name.map tolower)
    (hmethod : isIndexedMethod header)
    (hvalue : (ascii value).map tolower = header.value.map tolower) :
    Represents header [UInt8.ofNat (0x80 + index)] := by
  refine ⟨.indexed index, ⟨ascii name, ascii value⟩, ⟨Or.inl ⟨by omega, rfl⟩, by simp⟩, trivial,
    ⟨hname, Or.inr ⟨hmethod, hvalue⟩⟩, fun table => ?_⟩
  rw [Table.step, lookup_static hpos hle hstatic]
  exact ⟨_, rfl⟩

theorem zero_not_mem_of_map {s t : Bytes} (h : s.map tolower = t) (ht : 0 ∉ t) : 0 ∉ s := by
  intro hs
  have hmem := List.mem_map_of_mem (f := tolower) hs
  rw [h] at hmem
  exact ht hmem

/-- A string whose lower case is known against a literal with that lower
case. -/
theorem strcasecmp_eq_zero_of_map {s t literal : Bytes} (h : s.map tolower = t)
    (hliteral : 0 ∉ t ∧ 0 ∉ literal ∧ literal.map tolower = t) : strcasecmp s literal = 0 := by
  rw [strcasecmp_eq_zero_iff (zero_not_mem_of_map h hliteral.1) hliteral.2.1, h, hliteral.2.2]

theorem strcasecmp_ne_zero_of_map {s t literal : Bytes} (h : s.map tolower = t)
    (hliteral : 0 ∉ t ∧ 0 ∉ literal ∧ literal.map tolower ≠ t) : ¬strcasecmp s literal = 0 := by
  rw [strcasecmp_eq_zero_iff (zero_not_mem_of_map h hliteral.1) hliteral.2.1, h]
  exact fun heq => hliteral.2.2 heq.symm

theorem hpackPseudoHeaders_spec {header : RequestHeader} (hvalid : ValidHeader header)
    (hlen : (hpackHuffmanEncode header.value).length < lengthLimit)
    (hpseudo : header.isPseudo = true) :
    ∃ octets, hpackPseudoHeaders header = .ok octets ∧ Represents header octets := by
  have hmem := hvalid.pseudo hpseudo
  have hvalue0 : 0 ∉ header.value := fun h0 => (isValueChar_spec (hvalid.value 0 h0)).1 rfl
  simp only [pseudoNames, List.mem_cons, List.not_mem_nil, or_false] at hmem
  rw [hpackPseudoHeaders]
  rcases hmem with hname | hname | hname | hname
  · -- `:method`
    have hraw := represents_rawName hvalid.value hlen
      (zero_not_mem_of_map hname (by decide)) (by
        have := congrArg List.length hname
        rw [List.length_map] at this
        rw [this]; decide)
    rw [if_pos (strcasecmp_eq_zero_of_map hname (by decide))]
    split
    · rename_i hget
      rw [strcasecmp_eq_zero_iff hvalue0 (by decide)] at hget
      exact ⟨_, rfl, represents_indexed 2 (by decide) (by decide) rfl
        (by rw [hname]; decide) ⟨hpseudo, hname, by rw [hget]; decide⟩ hget.symm⟩
    · split
      · rename_i hpost
        rw [strcasecmp_eq_zero_iff hvalue0 (by decide)] at hpost
        exact ⟨_, rfl, represents_indexed 3 (by decide) (by decide) rfl
          (by rw [hname]; decide) ⟨hpseudo, hname, by rw [hpost]; decide⟩ hpost.symm⟩
      · exact ⟨_, rfl, hraw⟩
  · -- `:scheme`
    have hraw := represents_rawName hvalid.value hlen
      (zero_not_mem_of_map hname (by decide)) (by
        have := congrArg List.length hname
        rw [List.length_map] at this
        rw [this]; decide)
    rw [if_neg (strcasecmp_ne_zero_of_map hname (by decide)),
      if_pos (strcasecmp_eq_zero_of_map hname (by decide)),
      if_neg (strcasecmp_ne_zero_of_map hname (by decide)),
      if_neg (strcasecmp_ne_zero_of_map hname (by decide))]
    exact ⟨_, rfl, hraw⟩
  · -- `:authority`
    rw [if_neg (strcasecmp_ne_zero_of_map hname (by decide)),
      if_neg (strcasecmp_ne_zero_of_map hname (by decide)),
      if_pos (strcasecmp_eq_zero_of_map hname (by decide))]
    exact ⟨_, rfl, represents_indexedName 1 hvalid.value
      (stringOctets_writeHuffmanValue hvalid.value hlen) (by decide) (by decide) rfl
      (by rw [hname]; decide)⟩
  · -- `:path`
    rw [if_neg (strcasecmp_ne_zero_of_map hname (by decide)),
      if_neg (strcasecmp_ne_zero_of_map hname (by decide)),
      if_neg (strcasecmp_ne_zero_of_map hname (by decide)),
      if_pos (strcasecmp_eq_zero_of_map hname (by decide))]
    exact ⟨_, rfl, represents_indexedName 4 hvalid.value
      (stringOctets_writeHuffmanValue hvalid.value hlen) (by decide) (by decide) rfl
      (by rw [hname]; decide)⟩

theorem hpackHeaders_spec {header : RequestHeader} (hvalid : ValidHeader header)
    (hlen : (hpackHuffmanEncode header.value).length < lengthLimit)
    (hreal : header.isPseudo = false) : Represents header (hpackHeaders header) := by
  obtain ⟨htoken, hname⟩ := hvalid.real hreal
  have hchars : ∀ c ∈ header.name, isValueChar c = true :=
    fun c hc => isValueChar_of_token (htoken c hc)
  have hstring := stringOctets_encode hvalid.value hlen
  rw [hpackHeaders]
  split
  · rename_i entry hfound
    obtain ⟨hmem, hcompare⟩ := bsearch_sound _ _ _ hfound
    obtain ⟨hpos, hle, hzero, value, hstatic⟩ := requestHeaderHpackStaticTable_names hmem
    have hname0 : 0 ∉ header.name := fun h0 => (isValueChar_spec (hchars 0 h0)).1 rfl
    rw [compareHpackEntry, strcasecmp_eq_zero_iff hname0 hzero] at hcompare
    have hor : 0x40 ||| entry.2 = 0x40 + entry.2 :=
      (Nat.two_pow_add_eq_or_of_lt (show entry.2 < 2 ^ 6 by omega) 1).symm
    have hrep := represents_indexedName entry.2 hvalid.value hstring hpos hle hstatic hcompare.symm
    rw [← hor] at hrep
    simpa using hrep
  · -- a literal name whose coded form is shorter than 127 octets
    have hor : 0x80 ||| (hpackHuffmanEncode header.name).length =
        1 * 2 ^ 7 + (hpackHuffmanEncode header.name).length :=
      (Nat.two_pow_add_eq_or_of_lt
        (show (hpackHuffmanEncode header.name).length < 2 ^ 7 by omega) 1).symm
    have hlength : shortForm 7 1 (hpackHuffmanEncode header.name).length
        [UInt8.ofNat (0x80 ||| (hpackHuffmanEncode header.name).length)] := by
      rw [hor]
      exact ⟨Or.inl ⟨by omega, rfl⟩, by simp⟩
    have hzeroIndex : shortForm 4 0 0 [0x00] := ⟨Or.inl ⟨by decide, rfl⟩, by simp⟩
    refine ⟨.literal .without (.literal ⟨header.name, true⟩) ⟨header.value, true⟩,
      ⟨header.name, header.value⟩, ?_,
      ⟨readable_of_valueChars hchars true, readable_of_valueChars hvalid.value true⟩,
      ⟨rfl, Or.inl rfl⟩, fun table => ⟨_, rfl⟩⟩
    refine ⟨_, _, ⟨_, _, hzeroIndex, ⟨_, _, huffmanOctets_encode hchars, hlength, rfl⟩, rfl⟩,
      hstring, ?_⟩
    simp only [if_pos (by omega : (hpackHuffmanEncode header.name).length < 128),
      List.append_assoc]

theorem encodeHeader_spec {header : RequestHeader} (hvalid : ValidHeader header)
    (hlen : (hpackHuffmanEncode header.value).length < lengthLimit) :
    ∃ octets, encodeHeader header = .ok octets ∧ Represents header octets := by
  rw [encodeHeader]
  cases hpseudo : header.isPseudo with
  | true => exact hpackPseudoHeaders_spec hvalid hlen hpseudo
  | false => exact ⟨_, rfl, hpackHeaders_spec hvalid hlen hpseudo⟩

/-! ## Header lists -/

/-- The whole list: the octets of representations that mean the emitted
headers on every table. -/
theorem encodeHeaders_spec (headers : List RequestHeader)
    (hvalid : ∀ header ∈ headers, isEmitted header = true → ValidHeader header ∧
      (hpackHuffmanEncode header.value).length < lengthLimit) :
    ∃ octets reps fields, encodeHeaders headers = .ok octets ∧ BlockOctets shortForm reps octets ∧
      (∀ rep ∈ reps, fieldReadable rep) ∧
      List.Forall₂ sameHeader (headers.filter isEmitted) fields ∧
      ∀ table : Table, ∃ next, table.run reps = some (next, fields) := by
  induction headers with
  | nil => exact ⟨[], [], [], rfl, .nil, by simp, .nil, fun table => ⟨table, rfl⟩⟩
  | cons header headers ih =>
    obtain ⟨tail, reps, fields, htail, hoctets, hclean, hsame, hrun⟩ :=
      ih (fun h hmem => hvalid h (List.mem_cons_of_mem _ hmem))
    rw [encodeHeaders]
    cases hemit : isEmitted header with
    | false =>
      refine ⟨tail, reps, fields, by simpa using htail, hoctets, hclean, ?_, hrun⟩
      rw [List.filter_cons_of_neg (by simp [hemit])]
      exact hsame
    | true =>
      obtain ⟨hheader, hlen⟩ := hvalid header List.mem_cons_self hemit
      obtain ⟨head, hhead, rep, field, hrep, hread, hfield, hstep⟩ := encodeHeader_spec hheader hlen
      refine ⟨head ++ tail, rep :: reps, field :: fields, ?_, .cons hrep hoctets, ?_, ?_, ?_⟩
      · simp only [if_true, hhead, htail]
      · intro r hr
        rcases List.mem_cons.mp hr with rfl | hr
        · exact hread
        · exact hclean r hr
      · rw [List.filter_cons_of_pos hemit]
        exact .cons hfield hsame
      · intro table
        obtain ⟨next, hnext⟩ := hstep table
        obtain ⟨last, hlast⟩ := hrun next
        refine ⟨last, ?_⟩
        rw [Table.run, hnext]
        simp only [hlast]
        rfl

/-- The block of a header list decodes, from any dynamic table, to the
emitted headers in order.  Values are shorter than the decoder's integers
can say. -/
theorem encodeHeaders_decode (headers : List RequestHeader) (stream : Stream) (ctx : HpackContext)
    (hvalid : ∀ header ∈ headers, isEmitted header = true → ValidHeader header)
    (hshort : ∀ header ∈ headers, isEmitted header = true →
      (hpackHuffmanEncode header.value).length < 2 ^ 35 + 127)
    (hfew : (headers.filter isEmitted).length ≤ 64) (hstored : stream.headers = some [])
    (herror : stream.error = none) :
    ∃ block fields, encodeHeaders headers = .ok block ∧
      (decodeHeadersFrame stream block ctx).1.headers = some fields ∧
      (decodeHeadersFrame stream block ctx).1.error = none ∧
      List.Forall₂ sameHeader (headers.filter isEmitted) fields := by
  obtain ⟨block, reps, fields, hblock, hoctets, hclean, hsame, hrun⟩ := encodeHeaders_spec headers
    (fun header hmem hemit => ⟨hvalid header hmem hemit, hshort header hmem hemit⟩)
  obtain ⟨table, htable⟩ := hrun (tableOf ctx)
  have hlen : fields.length ≤ RESPONSE_HEADERS_MAX_SIZE := by rw [← hsame.length_eq]; exact hfew
  obtain ⟨hstream, _⟩ :=
    decodeHeadersFrame_fields hoctets htable hclean hlen hstored (fun _ => rfl)
  exact ⟨block, fields, hblock, by rw [hstream], by rw [hstream]; exact herror, hsame⟩

/-- A pseudo header sent by index and a real one with a literal name. -/
theorem encodeHeaders_decode_two :
    ∃ block fields,
      encodeHeaders [⟨ascii ":method", ascii "get", true⟩, ⟨ascii "x", ascii "y z", false⟩] =
        .ok block ∧
      (decodeHeadersFrame freshStream block emptyContext).1.headers = some fields ∧
      (decodeHeadersFrame freshStream block emptyContext).1.error = none ∧
      List.Forall₂ sameHeader
        [⟨ascii ":method", ascii "get", true⟩, ⟨ascii "x", ascii "y z", false⟩] fields := by
  have hmethod : ValidHeader ⟨ascii ":method", ascii "get", true⟩ :=
    ⟨List.all_iff_forall_prop.mp (by decide), fun _ => by decide, by simp⟩
  have hreal : ValidHeader ⟨ascii "x", ascii "y z", false⟩ :=
    ⟨List.all_iff_forall_prop.mp (by decide), by simp, fun _ =>
      ⟨List.all_iff_forall_prop.mp (by decide), by decide +kernel⟩⟩
  refine encodeHeaders_decode [⟨ascii ":method", ascii "get", true⟩, ⟨ascii "x", ascii "y z", false⟩]
    freshStream emptyContext ?_ ?_ (by decide) rfl rfl
  · intro header hmem _
    rcases List.mem_cons.mp hmem with rfl | htail
    · exact hmethod
    · rw [List.mem_singleton.mp htail]; exact hreal
  · decide +kernel

/-- A path whose coded form has `2 ^ 35 + 127` octets. -/
def longPath : RequestHeader := ⟨ascii ":path", List.replicate (8 * 6871947699) 97, true⟩

theorem hpackHuffmanEncode_replicate (n : Nat) :
    (hpackHuffmanEncode (List.replicate (8 * n) 97)).length = 5 * n := by
  have hbits : ∀ c ∈ List.replicate (8 * n) (97 : UInt8), (huffmanEntry c.toNat).bits ≤ 25 := by
    intro c hc
    rw [List.eq_of_mem_replicate hc]
    decide
  have hword : (codeWord 97).length = 5 := by decide
  obtain ⟨k, hk, henc⟩ := hpackHuffmanEncode_bits hbits
  have hlen := congrArg List.length henc
  rw [ofBytes_length, List.length_append, List.length_flatMap, List.map_replicate, hword,
    List.sum_replicate_nat, List.length_replicate] at hlen
  omega

/-- With a longer value the decoder reads another one. -/
theorem encodeHeaders_long :
    ValidHeader longPath ∧ ∃ block, encodeHeaders [longPath] = .ok block ∧
      ¬∃ fields, (decodeHeadersFrame freshStream block emptyContext).1.headers = some fields ∧
        List.Forall₂ sameHeader [longPath] fields := by
  unfold longPath
  have hcoded := hpackHuffmanEncode_replicate 6871947699
  have hchars : ∀ c ∈ (List.replicate (8 * 6871947699) 97 : Bytes), isValueChar c = true := by
    intro c hc
    rw [List.eq_of_mem_replicate hc]
    decide
  have hvalue : (List.replicate (8 * 6871947699) 97 : Bytes).length = 8 * 6871947699 :=
    List.length_replicate
  generalize (List.replicate (8 * 6871947699) 97 : Bytes) = value at hcoded hchars hvalue ⊢
  have hpseudo : (ascii ":path").map tolower ∈ pseudoNames := by decide
  refine ⟨⟨hchars, fun _ => hpseudo, fun h => by cases h⟩, ?_⟩
  have hlength : hpackEncodeInteger (hpackHuffmanEncode value).length 7 0x80 =
      255 :: (List.replicate 5 128 ++ [1]) := by
    rw [hcoded]
    simp [hpackEncodeInteger, encodeGroups, List.replicate]
  have hencode : encodeHeaders [⟨ascii ":path", value, true⟩] =
      .ok ([0x44] ++ 255 :: (List.replicate 5 128 ++ (1 :: hpackHuffmanEncode value))) := by
    rw [encodeHeaders, if_pos (by simp [isEmitted]), encodeHeader, if_pos rfl, hpackPseudoHeaders]
    simp only
    rw [if_neg (by decide), if_neg (by decide), if_neg (by decide), if_pos (by decide),
      writeHuffmanValue, if_neg (by omega)]
    simp only [encodeHeaders, hlength, List.append_nil, List.cons_append, List.append_assoc,
      List.nil_append]
  have hname : NameOctets shortForm .incremental (.indexed 4) [0x44] :=
    ⟨by decide, Or.inl ⟨by decide, rfl⟩, by simp⟩
  obtain ⟨header, more, hmore, hbound⟩ := decodeHeadersFrame_long freshStream emptyContext
    (1 :: hpackHuffmanEncode value) (Or.inr rfl) hname rfl
    (by rw [List.length_cons]; omega) rfl
  refine ⟨_, hencode, ?_⟩
  rintro ⟨fields, hfields, hsame⟩
  rw [hmore, Option.some.injEq] at hfields
  subst hfields
  cases hsame with
  | cons hfirst _ =>
    have hlong : header.value.length = value.length := by
      rcases hfirst.2 with heq | ⟨⟨_, hmethod, _⟩, _⟩
      · exact congrArg List.length heq
      · have hother : (ascii ":path").map tolower ≠ ascii ":method" := by decide
        exact absurd hmethod hother
    omega

end HttpRequestClient.Hpack
