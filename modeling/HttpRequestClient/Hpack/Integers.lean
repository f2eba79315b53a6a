import HttpRequestClient.Hpack.Access
import HttpRequestClient.Hpack.BufferSizes
import HttpRequestClient.Hpack.RoundTrip

/-!
# Integers, and the lengths of names

`hpackEncodeInteger` writes an integer below the flags of its first octet.  The
length of a literal name is not written by it: `hpackHeaders` has one octet for
less than 128 and two for anything else.

* `hpackDecodeInteger_encode`: what `hpackEncodeInteger` writes is read back.
* `nameFound_iff`: the length that `hpackHeaders` writes is read back unless the
  coded name has 127 octets or more than 254.
-/

namespace HttpRequestClient.Hpack

open Rfc7541

/-! ## Integers -/

/-- Flags above a prefix leave room for all of it. -/
theorem flags_eq {n : Nat} (hwidth : n ≤ 8) {flags : UInt8}
    (hflags : flags.toNat &&& (2 ^ n - 1) = 0) :
    ∃ high, flags.toNat = high * 2 ^ n ∧ high * 2 ^ n + 2 ^ n ≤ 256 := by
  rw [Nat.and_two_pow_sub_one_eq_mod] at hflags
  obtain ⟨high, hhigh⟩ := Nat.dvd_of_mod_eq_zero hflags
  have hoctet : 2 ^ n * 2 ^ (8 - n) = 256 := by
    rw [← Nat.pow_add, Nat.add_sub_cancel' hwidth]
  have hlt : 2 ^ n * high < 2 ^ n * 2 ^ (8 - n) := by
    rw [← hhigh, hoctet]
    exact flags.toNat_lt
  have hnext : 2 ^ n * (high + 1) ≤ 2 ^ n * 2 ^ (8 - n) :=
    Nat.mul_le_mul_left _ (Nat.lt_of_mul_lt_mul_left hlt)
  refine ⟨high, by rw [hhigh, Nat.mul_comm], ?_⟩
  rw [hoctet, Nat.mul_add, Nat.mul_one] at hnext
  rwa [Nat.mul_comm]

/-- An integer is read back behind any prefix, between any octets. -/
theorem hpackDecodeInteger_encode {n : Nat} (hwidth : n ≤ 8) {flags : UInt8}
    (hflags : flags.toNat &&& (2 ^ n - 1) = 0) {value : Nat} (hvalue : value < 2 ^ 35)
    (before after : Bytes) :
    hpackDecodeInteger (before ++ hpackEncodeInteger value n flags.toNat ++ after)
        before.length n =
      (value, before.length + (hpackEncodeInteger value n flags.toNat).length) := by
  obtain ⟨high, heq, hfit⟩ := flags_eq hwidth hflags
  rw [heq]
  have hbuf : (before ++ hpackEncodeInteger value n (high * 2 ^ n) ++ after).drop before.length =
      hpackEncodeInteger value n (high * 2 ^ n) ++ after := by
    rw [List.append_assoc, List.drop_left]
  exact hpackDecodeInteger_spec hfit (shortForm_hpackEncodeInteger high (by omega)) hbuf

/-- The largest value behind four bits and flags: five continuation octets. -/
theorem hpackDecodeInteger_encode_largest :
    hpackDecodeInteger ([1, 2] ++ hpackEncodeInteger (2 ^ 35 - 1) 4 0x50 ++ [3]) 2 4 =
      (2 ^ 35 - 1, 2 + (hpackEncodeInteger (2 ^ 35 - 1) 4 0x50).length) := by
  have hflags : (0x50 : UInt8).toNat &&& (2 ^ 4 - 1) = 0 := by decide
  exact hpackDecodeInteger_encode (by decide) hflags (by decide) [1, 2] [3]

/-! ## The lengths of names -/

/-- The octets that `hpackHeaders` writes for the length of a coded name. -/
def nameLengthOctets (huffNameLen : Nat) : Bytes :=
  if huffNameLen < 128 then [UInt8.ofNat (0x80 ||| huffNameLen)]
  else [UInt8.ofNat (0x80 ||| 0x7F), UInt8.ofNat (huffNameLen - 127)]

/-- The value of a header with its length. -/
def valueOctets (header : RequestHeader) : Bytes :=
  hpackEncodeInteger (hpackHuffmanEncode header.value).length 7 0x80 ++
    hpackHuffmanEncode header.value

theorem hpackHeaders_literal {header : RequestHeader} (hname : nameEntry header.name = none) :
    hpackHeaders header =
      0x00 :: (nameLengthOctets (hpackHuffmanEncode header.name).length ++
        (hpackHuffmanEncode header.name ++ valueOctets header)) := by
  rw [nameEntry] at hname
  simp only [hpackHeaders, hname, nameLengthOctets, valueOctets, List.append_assoc,
    List.cons_append, List.nil_append]

/-- In a block with the header between other octets, the length behind the
first octet is that of the coded name, and behind as many octets stands the
value. -/
structure NameFound (header : RequestHeader) (before after : Bytes) : Prop where
  length : (hpackDecodeInteger (before ++ hpackHeaders header ++ after) (before.length + 1) 7).1 =
    (hpackHuffmanEncode header.name).length
  value : (before ++ hpackHeaders header ++ after).drop
      ((hpackDecodeInteger (before ++ hpackHeaders header ++ after) (before.length + 1) 7).2 +
        (hpackHuffmanEncode header.name).length) =
    valueOctets header ++ after

/-- The lengths that one or two octets can say. -/
theorem shortForm_nameLengthOctets {huffNameLen : Nat} (hne : huffNameLen ≠ 127)
    (hle : huffNameLen ≤ 254) : shortForm 7 1 huffNameLen (nameLengthOctets huffNameLen) := by
  rw [nameLengthOctets]
  split
  · have hor : 0x80 ||| huffNameLen = 128 + huffNameLen :=
      (Nat.two_pow_add_eq_or_of_lt (show huffNameLen < 2 ^ 7 by assumption) 1).symm
    rw [hor]
    exact ⟨Or.inl ⟨by omega, rfl⟩, by simp⟩
  · have hlast : ContinuationOctets (huffNameLen - 127) [UInt8.ofNat (huffNameLen - 127)] :=
      .last (by omega)
    exact ⟨Or.inr ⟨by omega, _, rfl, hlast⟩, by simp⟩

/-- Continuation octets take in the one at their position. -/
theorem lt_decodeContinuation {buf : Bytes} {pos : Nat} (h : pos < buf.length)
    (fuel value shift : Nat) :
    pos < (decodeContinuation buf (fuel + 1) value shift pos).2 := by
  rw [decodeContinuation, if_neg (by omega)]
  dsimp only
  split
  · exact Nat.lt_succ_self pos
  · split
    · have hrest := decodeContinuation_pos fuel
        (value + ((buf.getD pos 0).toNat &&& 0x7F) <<< shift) (shift + 7)
        (show pos + 1 ≤ buf.length by omega)
      exact hrest.1
    · exact Nat.lt_succ_self pos

/-- A full prefix leads to the octets behind it. -/
theorem hpackDecodeInteger_full {buf rest : Bytes} {pos : Nat} (h : buf.drop pos = 0xFF :: rest) :
    hpackDecodeInteger buf pos 7 = decodeContinuation buf 5 127 0 (pos + 1) := by
  obtain ⟨hlt, hget, -⟩ := drop_eq_cons h
  have hmask : (0xFF : UInt8).toNat &&& (2 ^ 7 - 1) = 2 ^ 7 - 1 := by decide
  rw [hpackDecodeInteger, if_neg (by omega)]
  dsimp only
  rw [hget, hmask, if_pos rfl]
  rfl

/-- A full prefix takes in the octet behind it. -/
theorem lt_hpackDecodeInteger_full {buf rest : Bytes} {pos : Nat} (hrest : rest ≠ [])
    (h : buf.drop pos = 0xFF :: rest) : pos + 1 < (hpackDecodeInteger buf pos 7).2 := by
  obtain ⟨first, more, rfl⟩ := List.exists_cons_of_ne_nil hrest
  obtain ⟨-, -, hdrop⟩ := drop_eq_cons h
  have hlt := (drop_eq_cons hdrop).1
  rw [hpackDecodeInteger_full h]
  exact lt_decodeContinuation hlt 4 127 0

/-- An octet with its high bit set takes in the next one. -/
theorem lt_hpackDecodeInteger_continued {buf rest : Bytes} {pos : Nat} {octet : UInt8}
    (hhigh : 128 ≤ octet.toNat) (hrest : rest ≠ []) (h : buf.drop pos = 0xFF :: octet :: rest) :
    pos + 2 < (hpackDecodeInteger buf pos 7).2 := by
  obtain ⟨first, more, rfl⟩ := List.exists_cons_of_ne_nil hrest
  obtain ⟨-, -, hdrop⟩ := drop_eq_cons h
  obtain ⟨hlt, hget, hnext⟩ := drop_eq_cons hdrop
  have hmore := (drop_eq_cons hnext).1
  have hbit : octet.toNat &&& 0x80 ≠ 0 := by
    have hoctet := octet.toNat_lt
    obtain ⟨-, -, hbit⟩ := continuation_byte (show octet.toNat - 128 < 128 by omega)
    rwa [Nat.add_sub_cancel' hhigh, UInt8.ofNat_toNat] at hbit
  rw [hpackDecodeInteger_full h, decodeContinuation, if_neg (by omega)]
  dsimp only
  rw [hget, if_neg (by omega), if_pos hbit]
  exact lt_decodeContinuation hmore 3 (127 + (octet.toNat &&& 0x7F) <<< 0) 7

/-- Any other length is read as another number, or to another position: one
octet cannot say 127, and two no more than 254. -/
theorem nameLengthOctets_misread {buf rest : Bytes} {pos huffNameLen : Nat}
    (hlong : huffNameLen = 127 ∨ 254 < huffNameLen) (hrest : rest ≠ [])
    (h : buf.drop pos = nameLengthOctets huffNameLen ++ rest) :
    hpackDecodeInteger buf pos 7 ≠
      (huffNameLen, pos + (nameLengthOctets huffNameLen).length) := by
  intro hread
  rcases hlong with rfl | hlong
  · have htaken := lt_hpackDecodeInteger_full hrest h
    rw [hread] at htaken
    exact Nat.lt_irrefl _ htaken
  · have hoctets : nameLengthOctets huffNameLen = [0xFF, UInt8.ofNat (huffNameLen - 127)] := by
      rw [nameLengthOctets, if_neg (by omega)]
      rfl
    rw [hoctets] at h hread
    generalize UInt8.ofNat (huffNameLen - 127) = octet at h hread
    rcases Nat.lt_or_ge octet.toNat 128 with hlast | hhigh
    · -- the octet ends the integer and has lost the high bits
      have htail : ContinuationOctets octet.toNat [UInt8.ofNat octet.toNat] := .last hlast
      rw [UInt8.ofNat_toNat] at htail
      have hshort : shortForm 7 1 (127 + octet.toNat) [0xFF, octet] :=
        ⟨Or.inr ⟨by omega, [octet], rfl, by simpa using htail⟩, by simp⟩
      have hspec := hpackDecodeInteger_spec (by decide) hshort h
      have hvalue := congrArg Prod.fst (hspec.symm.trans hread)
      simp only at hvalue
      omega
    · have htaken := lt_hpackDecodeInteger_continued hhigh hrest h
      rw [hread] at htaken
      exact Nat.lt_irrefl _ htaken

/-- What stands behind the first octet of a header with a literal name. -/
theorem drop_literalBlock {header : RequestHeader} (hname : nameEntry header.name = none)
    (before after : Bytes) :
    (before ++ hpackHeaders header ++ after).drop (before.length + 1) =
      nameLengthOctets (codedSize header.name) ++
        (hpackHuffmanEncode header.name ++ (valueOctets header ++ after)) := by
  have hblock : before ++ hpackHeaders header ++ after =
      (before ++ [0x00]) ++ (nameLengthOctets (codedSize header.name) ++
        (hpackHuffmanEncode header.name ++ (valueOctets header ++ after))) := by
    rw [hpackHeaders_literal hname, length_hpackHuffmanEncode]
    simp only [List.append_assoc, List.cons_append, List.nil_append]
  have hstart : (before ++ [0x00]).length = before.length + 1 := by simp
  rw [hblock, ← hstart, List.drop_left]

/-- The name is found, and the value behind it, unless the code of the name has
127 octets or more than 254. -/
theorem nameFound_iff {header : RequestHeader} (hname : nameEntry header.name = none)
    (before after : Bytes) :
    NameFound header before after ↔
      codedSize header.name ≠ 127 ∧ codedSize header.name ≤ 254 := by
  have hsize := length_hpackHuffmanEncode header.name
  have hoctets := drop_literalBlock hname before after
  have hvalue := drop_add_length (drop_add_length hoctets)
  rw [hsize] at hvalue
  constructor
  · intro hfound
    have hne : valueOctets header ++ after ≠ [] := by
      rw [valueOctets, hpackEncodeInteger]
      split <;> simp
    -- the value stands in one place only
    have hnext : (hpackDecodeInteger (before ++ hpackHeaders header ++ after)
        (before.length + 1) 7).2 =
          before.length + 1 + (nameLengthOctets (codedSize header.name)).length := by
      have hfirst := congrArg List.length hfound.value
      have hsecond := congrArg List.length hvalue
      have hpos := List.length_pos_iff.mpr hne
      rw [List.length_drop, hsize] at hfirst
      rw [List.length_drop] at hsecond
      omega
    by_contra hlong
    have hfull : hpackHuffmanEncode header.name ++ (valueOctets header ++ after) ≠ [] := by
      rw [Ne, List.append_eq_nil_iff]
      exact fun h => hne h.2
    refine nameLengthOctets_misread (by omega) hfull hoctets (Prod.ext ?_ hnext)
    rw [hfound.length, hsize]
  · rintro ⟨hne, hle⟩
    have hread := hpackDecodeInteger_spec (by decide) (shortForm_nameLengthOctets hne hle) hoctets
    constructor
    · rw [hread, hsize]
    · rw [hread, hsize]
      exact hvalue

/-- A short name between the fields of a block. -/
theorem nameFound_short :
    NameFound ⟨ascii "x-id", ascii "7", false⟩ [0x82] [0x86] :=
  (nameFound_iff (by decide +kernel) [0x82] [0x86]).mpr (by decide)

/-- A name of 127 letters, each with a code of eight bits. -/
def fullName : Bytes := List.replicate 127 88

/-- Its first octets are read as part of its length. -/
theorem nameFound_full_not :
    nameEntry fullName = none ∧ ¬NameFound ⟨fullName, ascii "7", false⟩ [] [] := by
  have hread : (hpackDecodeInteger ([] ++ hpackHeaders ⟨fullName, ascii "7", false⟩ ++ [])
      (([] : Bytes).length + 1) 7).1 ≠ (hpackHuffmanEncode fullName).length := by
    decide +kernel
  exact ⟨by decide +kernel, fun hfound => hread hfound.length⟩

end HttpRequestClient.Hpack
