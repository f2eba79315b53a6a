import HttpRequestClient.Hpack.Decoder
import HttpRequestClient.Hpack.HuffmanCorrect
import HttpRequestClient.Rfc7541

/-!
# The decoder against RFC 7541, one representation at a time

The octets of a representation stand somewhere in a payload: the results
below take `payload.drop pos = octets ++ post` and say what the decoder
reads at `pos` and where it stands afterwards.

* `hpackDecodeInteger_spec`: an integer with at most five continuation
  octets is read as its value.
* `hpackDecodeString_spec`: a literal is always read to its end.  What is
  read are its octets when the literal is `readable`.
* `addToDynamicTable_table` and `updateTableSize_table`: the two eviction
  loops compute `Rfc7541.fitting`.
* `decodeField_spec`: one round of the loop does what `Rfc7541.Table.step`
  says.
-/

namespace HttpRequestClient.Hpack

open BitString Rfc7541

/-! ## Positions in a buffer -/

theorem drop_eq_cons {buf rest : Bytes} {pos : Nat} {b : UInt8} (h : buf.drop pos = b :: rest) :
    pos < buf.length ∧ buf.getD pos 0 = b ∧ buf.drop (pos + 1) = rest := by
  have hlt : pos < buf.length := by
    by_contra hge
    rw [List.drop_eq_nil_of_le (by omega)] at h
    cases h
  rw [List.drop_eq_getElem_cons hlt] at h
  simp only [List.cons.injEq] at h
  refine ⟨hlt, ?_, h.2⟩
  rw [List.getD_eq_getElem?_getD, List.getElem?_eq_getElem hlt, Option.getD_some]
  exact h.1

theorem drop_add_length {buf octets post : Bytes} {pos : Nat}
    (h : buf.drop pos = octets ++ post) : buf.drop (pos + octets.length) = post := by
  rw [← List.drop_drop, h, List.drop_left]

theorem add_length_le {buf octets post : Bytes} {pos : Nat} (hne : octets ≠ [])
    (h : buf.drop pos = octets ++ post) : pos + octets.length ≤ buf.length := by
  have hlen := congrArg List.length h
  have hpos : 0 < octets.length := List.length_pos_iff.mpr hne
  rw [List.length_drop, List.length_append] at hlen
  omega

/-! ## Integers -/

theorem continuation_byte {g : Nat} (hg : g < 128) :
    ((UInt8.ofNat g).toNat &&& 0x7F = g ∧ (UInt8.ofNat g).toNat &&& 0x80 = 0) ∧
      (UInt8.ofNat (128 + g)).toNat &&& 0x7F = g ∧ (UInt8.ofNat (128 + g)).toNat &&& 0x80 ≠ 0 := by
  revert g
  decide

theorem continuationOctets_length_pos {v : Nat} {octets : Bytes}
    (h : ContinuationOctets v octets) : 0 < octets.length := by
  cases h <;> simp

/-- The loop over the continuation octets, with `fuel` rounds left before
`shift` exceeds 28. -/
theorem decodeContinuation_spec {buf post : Bytes} {v : Nat} {octets : Bytes}
    (h : ContinuationOctets v octets) :
    ∀ (fuel value shift pos : Nat), octets.length ≤ fuel → 7 * fuel + shift = 35 →
      buf.drop pos = octets ++ post →
      decodeContinuation buf fuel value shift pos = (value + v * 2 ^ shift, pos + octets.length) := by
  induction h with
  | @last g hg =>
    intro fuel value shift pos hfuel hshift hbuf
    obtain ⟨hlt, hget, _⟩ := drop_eq_cons hbuf
    obtain ⟨⟨hlow, hhigh⟩, _⟩ := continuation_byte hg
    cases fuel with
    | zero => simp at hfuel
    | succ fuel =>
      rw [decodeContinuation, if_neg (by omega)]
      simp only [hget, hlow, hhigh, Nat.shiftLeft_eq, ne_eq, not_true_eq_false, if_false, ite_self,
        List.length_singleton]
  | @more g v octets hg htail ih =>
    intro fuel value shift pos hfuel hshift hbuf
    obtain ⟨hlt, hget, hrest⟩ := drop_eq_cons hbuf
    obtain ⟨_, hlow, hhigh⟩ := continuation_byte hg
    have hpos := continuationOctets_length_pos htail
    cases fuel with
    | zero => simp at hfuel
    | succ fuel =>
      rw [List.length_cons] at hfuel
      rw [decodeContinuation, if_neg (by omega)]
      simp only [hget, hlow, Nat.shiftLeft_eq]
      -- another octet follows, so the guard on `shift` does not fire yet
      rw [if_neg (by omega), if_pos hhigh,
        ih fuel _ (shift + 7) (pos + 1) (by omega) (by omega) hrest]
      simp only [List.length_cons, Prod.mk.injEq]
      refine ⟨?_, by omega⟩
      rw [Nat.pow_add]
      ring

/-- An integer starts with an octet that holds its high bits. -/
theorem integerOctets_head {p high v : Nat} {octets : Bytes} (h : IntegerOctets p high v octets) :
    ∃ x rest, x < 2 ^ p ∧ octets = UInt8.ofNat (high * 2 ^ p + x) :: rest := by
  have hpow := Nat.two_pow_pos p
  rcases h with ⟨hv, heq⟩ | ⟨_, rest, heq, _⟩
  · exact ⟨v, [], by omega, heq⟩
  · exact ⟨2 ^ p - 1, rest, by omega, heq⟩

theorem prefix_byte {p high x : Nat} (hx : x < 2 ^ p) (hfit : high * 2 ^ p + 2 ^ p ≤ 256) :
    (UInt8.ofNat (high * 2 ^ p + x)).toNat &&& (2 ^ p - 1) = x := by
  rw [UInt8.toNat_ofNat', Nat.mod_eq_of_lt (by omega), Nat.and_two_pow_sub_one_eq_mod,
    Nat.add_comm, Nat.add_mul_mod_self_right, Nat.mod_eq_of_lt hx]

theorem hpackDecodeInteger_spec {buf post octets : Bytes} {p high v pos : Nat}
    (hfit : high * 2 ^ p + 2 ^ p ≤ 256) (h : shortForm p high v octets)
    (hbuf : buf.drop pos = octets ++ post) :
    hpackDecodeInteger buf pos p = (v, pos + octets.length) := by
  obtain ⟨hint, hlen⟩ := h
  have hpow := Nat.two_pow_pos p
  rcases hint with ⟨hv, rfl⟩ | ⟨hv, rest, rfl, hrest⟩
  · obtain ⟨hlt, hget, _⟩ := drop_eq_cons hbuf
    rw [hpackDecodeInteger, if_neg (by omega)]
    simp only [hget, prefix_byte (by omega : v < 2 ^ p) hfit]
    rw [if_neg (by omega), List.length_singleton]
  · obtain ⟨hlt, hget, hdrop⟩ := drop_eq_cons hbuf
    rw [hpackDecodeInteger, if_neg (by omega)]
    simp only [hget, prefix_byte (by omega : 2 ^ p - 1 < 2 ^ p) hfit, if_true]
    rw [List.length_cons] at hlen
    rw [decodeContinuation_spec hrest 5 _ 0 (pos + 1) (by omega) (by omega) hdrop]
    simp only [List.length_cons, Prod.mk.injEq]
    omega

/-! ## Strings -/

/-- The entries of one width against the code lengths: they have the width
and consecutive codes. -/
def consecutive (width : Nat) : Nat → List Nat → List HuffmanCode → Bool
  | code, length :: lengths, entry :: entries =>
    if length = width then
      entry.code = code && (entry.bits = width && consecutive width (code + 1) lengths entries)
    else consecutive width code lengths entries
  | _, _, _ => true

theorem entry_of_consecutive {width : Nat} {lengths : List Nat} :
    ∀ {entries : List HuffmanCode} {code i : Nat}, consecutive width code lengths entries = true →
      lengths[i]? = some width → i < entries.length →
      entries.getD i default = ⟨code + (lengths.take i).count width, width⟩ := by
  induction lengths with
  | nil =>
    intro entries code i _ hi
    simp at hi
  | cons length lengths ih =>
    intro entries code i hcons hi hlt
    cases entries with
    | nil => simp at hlt
    | cons entry entries =>
      rw [consecutive] at hcons
      cases i with
      | zero =>
        have hlen : length = width := by simpa using hi
        rw [if_pos hlen, Bool.and_eq_true, Bool.and_eq_true, decide_eq_true_eq,
          decide_eq_true_eq] at hcons
        cases entry
        simp_all
      | succ i =>
        have hi' : lengths[i]? = some width := by simpa using hi
        have hlt' : i < entries.length := by simpa using hlt
        rw [List.getD_cons_succ, List.take_succ_cons]
        by_cases hlen : length = width
        · rw [if_pos hlen, Bool.and_eq_true, Bool.and_eq_true] at hcons
          rw [ih hcons.2.2 hi' hlt', hlen, List.count_cons_self]
          congr 1
          omega
        · rw [if_neg hlen] at hcons
          rw [ih hcons hi' hlt', List.count_cons_of_ne hlen]

-- the only comparison of the two tables
theorem huffmanTable_consecutive :
    (List.range 31).all (fun width =>
      consecutive width (firstCode width) (codeLengths.take 246) huffmanTable) = true := by
  decide +kernel

/-- The table of the client has the code of the RFC up to octet 245. -/
theorem codeWord_eq_rfc {c : UInt8} (hc : c.toNat < 246) : codeWord c = Rfc7541.codeWord c := by
  have hlen : codeLengths.length = 257 := by decide +kernel
  have htable : huffmanTable.length = 290 := by decide +kernel
  have hwidths : ∀ w ∈ codeLengths, w < 31 := by decide +kernel
  have hget : codeLengths[c.toNat]? = some (codeLengths.getD c.toNat 0) := by
    rw [List.getD_eq_getElem?_getD, List.getElem?_eq_getElem (by omega), Option.getD_some]
  have hwidth : codeLengths.getD c.toNat 0 < 31 := hwidths _ (List.mem_of_getElem? hget)
  have hall := List.all_eq_true.mp huffmanTable_consecutive _ (List.mem_range.mpr hwidth)
  have hentry := entry_of_consecutive hall
    (by rw [List.getElem?_take_of_lt hc]; exact hget) (by omega)
  rw [List.take_take, Nat.min_eq_left (by omega)] at hentry
  rw [codeWord, huffmanEntry, hentry, HuffmanCode.word, Rfc7541.codeWord, canonicalCode]

theorem flatMap_codeWord_eq_rfc {s : Bytes} (h : ∀ c ∈ s, c.toNat < 246) :
    s.flatMap codeWord = s.flatMap Rfc7541.codeWord := by
  induction s with
  | nil => rfl
  | cons c s ih =>
    rw [List.flatMap_cons, List.flatMap_cons, codeWord_eq_rfc (h c List.mem_cons_self),
      ih (fun d hd => h d (List.mem_cons_of_mem _ hd))]

/-- The words that the RFC gives the octets from 246 on lead to another symbol
or to a missing branch. -/
def highWordsMisread (root : HuffmanNode) : Bool :=
  (List.range' 246 10).all (fun i =>
    match nextSymbol root (Rfc7541.codeWord (UInt8.ofNat i)) with
    | some (found, _) => found ≠ some (UInt8.ofNat i)
    | none => false)

theorem buildHuffmanTree_highWordsMisread : buildHuffmanTree.any highWordsMisread = true := by
  decide +kernel

theorem huffmanRoot_highWordsMisread : highWordsMisread huffmanRoot = true := by
  have h := buildHuffmanTree_highWordsMisread
  rw [Option.any_eq_true] at h
  obtain ⟨root, hroot, hmisread⟩ := h
  rwa [huffmanRoot, hroot, Option.getD_some]

theorem nextSymbol_rfc {c : UInt8} (h : c.toNat < 246 ∧ c ∉ misreadOctets) :
    nextSymbol huffmanRoot (Rfc7541.codeWord c) = some (some c, []) := by
  rw [← codeWord_eq_rfc h.1]
  exact nextSymbol_codeWord h.2

theorem nextSymbol_rfc_misread {c : UInt8} (h : ¬(c.toNat < 246 ∧ c ∉ misreadOctets)) :
    ∃ found left, nextSymbol huffmanRoot (Rfc7541.codeWord c) = some (found, left) ∧
      found ≠ some c := by
  by_cases hlow : c.toNat < 246
  · rw [← codeWord_eq_rfc hlow]
    exact nextSymbol_misread (not_not.mp (fun hnot => h ⟨hlow, hnot⟩))
  · have hmem : c.toNat ∈ List.range' 246 10 := by
      have hlt := UInt8.toNat_lt c
      rw [List.mem_range'_1]
      omega
    have hmisread := List.all_eq_true.mp huffmanRoot_highWordsMisread c.toNat hmem
    rw [UInt8.ofNat_toNat] at hmisread
    cases hnext : nextSymbol huffmanRoot (Rfc7541.codeWord c) with
    | none => simp [hnext] at hmisread
    | some pair =>
      obtain ⟨found, left⟩ := pair
      simp only [hnext] at hmisread
      exact ⟨found, left, rfl, of_decide_eq_true hmisread⟩

/-- The literals whose octets the decoder reads: a raw one ends at a null
octet, and a Huffman-coded one is read with the table of the client. -/
def readable (literal : StringLiteral) : Prop :=
  0 ∉ literal.octets ∧
    (literal.huffman = true → ∀ c ∈ literal.octets, c.toNat < 246 ∧ c ∉ misreadOctets)

instance (literal : StringLiteral) : Decidable (readable literal) :=
  letI : Decidable (∀ c ∈ literal.octets, c.toNat < 246 ∧ c ∉ misreadOctets) :=
    List.decidableBAll _ literal.octets
  inferInstanceAs (Decidable (_ ∧ (_ → _)))

theorem hpackHuffmanDecode_eq_iff {s coded : Bytes} (hcoded : HuffmanOctets s coded) :
    hpackHuffmanDecode coded = s ↔
      0 ∉ s ∧ ∀ c ∈ s, c.toNat < 246 ∧ c ∉ misreadOctets := by
  obtain ⟨k, hk, hbits⟩ := hcoded
  rw [hpackHuffmanDecode_eq_walk, hbits]
  by_cases hzero : 0 ∈ s
  · refine iff_of_false (fun heq => ?_) (fun h => h.1 hzero)
    rw [← heq] at hzero
    exact zero_notMem_cstr _ hzero
  · have hwalk := cstr_walk_iff (fun c => nextSymbol_rfc) (fun c => nextSymbol_rfc_misread) hk hzero
    rw [hwalk]
    exact (and_iff_right hzero).symm

theorem huffman_bit {x : Nat} (hx : x < 128) :
    UInt8.ofNat (1 * 2 ^ 7 + x) &&& 0x80 ≠ 0 ∧ UInt8.ofNat (0 * 2 ^ 7 + x) &&& 0x80 = 0 := by
  revert x
  decide

/-- The contents of a string after its length has been read. -/
theorem hpackDecodeString_of_length {buf post length contents : Bytes} {high pos : Nat}
    (hfit : high * 2 ^ 7 + 2 ^ 7 ≤ 256) (hlen : shortForm 7 high contents.length length)
    (hbuf : buf.drop pos = length ++ contents ++ post) :
    ∃ x, x < 128 ∧ hpackDecodeString buf pos =
      (some (if UInt8.ofNat (high * 2 ^ 7 + x) &&& 0x80 ≠ 0 then hpackHuffmanDecode contents
        else cstr contents), pos + (length ++ contents).length) := by
  obtain ⟨x, rest, hx, rfl⟩ := integerOctets_head hlen.1
  have hcontents := drop_add_length (by rw [List.append_assoc] at hbuf; exact hbuf)
  have hend := add_length_le (by simp) hbuf
  obtain ⟨hlt, hget, _⟩ :=
    drop_eq_cons (by rw [List.append_assoc, List.cons_append] at hbuf; exact hbuf)
  have hint := hpackDecodeInteger_spec hfit hlen (by rw [List.append_assoc] at hbuf; exact hbuf)
  refine ⟨x, hx, ?_⟩
  rw [List.length_append] at hend ⊢
  rw [hpackDecodeString, if_neg (by omega), hint]
  simp only [hget]
  rw [if_neg (by omega), hcontents, List.take_left, Nat.add_assoc]

/-- A literal is read to its end, and right if and only if it is readable. -/
theorem hpackDecodeString_spec {buf post octets : Bytes} {pos : Nat} {literal : StringLiteral}
    (h : StringOctets shortForm literal octets) (hbuf : buf.drop pos = octets ++ post) :
    ∃ text, hpackDecodeString buf pos = (some text, pos + octets.length) ∧
      (text = literal.octets ↔ readable literal) := by
  unfold StringOctets at h
  split at h
  · rename_i hhuff
    obtain ⟨length, coded, hcoded, hlen, rfl⟩ := h
    obtain ⟨x, hx, hread⟩ := hpackDecodeString_of_length (by decide) hlen hbuf
    rw [if_pos (huffman_bit hx).1] at hread
    refine ⟨_, hread, (hpackHuffmanDecode_eq_iff hcoded).trans ?_⟩
    exact and_congr_right' ⟨fun hcodes _ => hcodes, fun hcodes => hcodes hhuff⟩
  · rename_i hraw
    obtain ⟨length, hlen, rfl⟩ := h
    obtain ⟨x, hx, hread⟩ := hpackDecodeString_of_length (by decide) hlen hbuf
    rw [if_neg (by rw [(huffman_bit hx).2]; simp)] at hread
    refine ⟨_, hread, cstr_eq_self_iff.trans ?_⟩
    exact (and_iff_left (fun hhuff => absurd hhuff hraw)).symm

/-! ## The dynamic table -/

/-- The table of a context, as the RFC sees it. -/
def tableOf (ctx : HpackContext) : Table := ⟨ctx.dynamicTable, ctx.dynamicTableMaxSize⟩

def totalSize (entries : List HpackTableEntry) : Nat := (entries.map hpackEntrySize).sum

theorem fitting_of_totalSize_le {entries : List HpackTableEntry} :
    ∀ {room : Nat}, totalSize entries ≤ room → fitting room entries = entries := by
  induction entries with
  | nil => intro room _; rfl
  | cons entry entries ih =>
    intro room h
    have hsize : hpackEntrySize entry = entrySize entry := rfl
    rw [totalSize, List.map_cons, List.sum_cons, hsize] at h
    rw [fitting, if_pos (by omega), ih (by rw [totalSize]; omega)]

/-- Entries that do not fit a room fit it no better with the last one. -/
theorem fitting_dropLast {entries : List HpackTableEntry} :
    ∀ {room : Nat}, room < totalSize entries →
      fitting room entries = fitting room entries.dropLast := by
  induction entries with
  | nil => intro room h; simp [totalSize] at h
  | cons entry entries ih =>
    intro room h
    have hsize : hpackEntrySize entry = entrySize entry := rfl
    rw [totalSize, List.map_cons, List.sum_cons, hsize] at h
    cases entries with
    | nil =>
      simp only [List.map_nil, List.sum_nil] at h
      rw [fitting, if_neg (by omega), List.dropLast_singleton, fitting]
    | cons next entries =>
      rw [List.dropLast_cons_cons, fitting, fitting.eq_2 room entry]
      split
      · rw [ih (by rw [totalSize]; omega)]
      · rfl

theorem totalSize_dropLast {entries : List HpackTableEntry} (h : 0 < entries.length) :
    totalSize entries = totalSize entries.dropLast +
      hpackEntrySize (entries.getD (entries.length - 1) default) := by
  have hne : entries ≠ [] := List.length_pos_iff.mp h
  have hlast : entries.getD (entries.length - 1) default = entries.getLast hne := by
    rw [List.getD_eq_getElem?_getD, List.getElem?_eq_getElem (by omega), Option.getD_some,
      List.getLast_eq_getElem]
  have hsplit := List.dropLast_append_getLast hne
  rw [hlast, totalSize, totalSize]
  conv_lhs => rw [← hsplit]
  rw [List.map_append, List.sum_append, List.map_singleton, List.sum_singleton]

theorem evictToMaxSize_eq (fuel : Nat) :
    ∀ (ctx : HpackContext), ctx.dynamicTable.length ≤ fuel →
      evictToMaxSize fuel ctx =
        { ctx with dynamicTable := fitting ctx.dynamicTableMaxSize ctx.dynamicTable } := by
  induction fuel with
  | zero =>
    intro ctx h
    have hnil : ctx.dynamicTable = [] := List.length_eq_zero_iff.mp (by omega)
    cases ctx
    simp only at hnil
    rw [evictToMaxSize, hnil, fitting]
  | succ fuel ih =>
    intro ctx h
    rw [evictToMaxSize]
    split
    · rename_i hover
      rw [ih (hpackEvictFromTail ctx) (by simp only [hpackEvictFromTail, List.length_dropLast]; omega),
        fitting_dropLast hover.2]
      rfl
    · rename_i hfits
      by_cases hempty : ctx.dynamicTable = []
      · cases ctx
        simp only at hempty
        rw [hempty, fitting]
      · have hpos := List.length_pos_iff.mpr hempty
        rw [fitting_of_totalSize_le (Nat.le_of_not_lt (fun hover => hfits ⟨hpos, hover⟩))]

theorem evictForEntry_eq (size fuel : Nat) :
    ∀ (ctx : HpackContext), ctx.dynamicTable.length ≤ fuel → size ≤ ctx.dynamicTableMaxSize →
      evictForEntry size fuel ctx (totalSize ctx.dynamicTable) =
        { ctx with dynamicTable := fitting (ctx.dynamicTableMaxSize - size) ctx.dynamicTable } := by
  induction fuel with
  | zero =>
    intro ctx h _
    have hnil : ctx.dynamicTable = [] := List.length_eq_zero_iff.mp (by omega)
    cases ctx
    simp only at hnil
    rw [evictForEntry, hnil, fitting]
  | succ fuel ih =>
    intro ctx h hsize
    rw [evictForEntry]
    split
    · rename_i hover
      have hused := totalSize_dropLast hover.1
      have hevict := ih (hpackEvictFromTail ctx)
        (by simp only [hpackEvictFromTail, List.length_dropLast]; omega) hsize
      simp only
      rw [hused, Nat.add_sub_cancel]
      rw [fitting_dropLast (by omega : _ - size < totalSize ctx.dynamicTable)]
      exact hevict
    · rename_i hfits
      by_cases hempty : ctx.dynamicTable = []
      · cases ctx
        simp only at hempty
        rw [hempty, fitting]
      · have hpos := List.length_pos_iff.mpr hempty
        have hle : totalSize ctx.dynamicTable ≤ ctx.dynamicTableMaxSize - size := by
          have := Nat.le_of_not_lt (fun hover => hfits ⟨hpos, hover⟩)
          omega
        rw [fitting_of_totalSize_le hle]

theorem updateTableSize_table (ctx : HpackContext) (maxSize : Nat) :
    tableOf (updateTableSize ctx maxSize) = (tableOf ctx).resize maxSize := by
  have hevict := evictToMaxSize_eq ctx.dynamicTable.length
    { ctx with dynamicTableMaxSize := maxSize } (Nat.le_refl _)
  rw [updateTableSize, hevict]
  rfl

theorem addToDynamicTable_table (ctx : HpackContext) (entry : HpackTableEntry) :
    tableOf (addToDynamicTable ctx entry) = (tableOf ctx).insert entry := by
  have hsize : hpackEntrySize entry = entrySize entry := rfl
  rw [addToDynamicTable, Table.insert, hsize]
  by_cases hfits : entrySize entry ≤ ctx.dynamicTableMaxSize
  · have hfits' : entrySize entry ≤ (tableOf ctx).maxSize := hfits
    have hnot : ¬entrySize entry > ctx.dynamicTableMaxSize := Nat.not_lt.mpr hfits
    have hevict := evictForEntry_eq (entrySize entry) _ ctx (Nat.le_refl _) hfits
    have hused : hpackDynamicTableUsedSize ctx = totalSize ctx.dynamicTable := rfl
    simp only [if_pos hfits', if_neg hnot, hused, hevict]
    rfl
  · have hfits' : ¬entrySize entry ≤ (tableOf ctx).maxSize := hfits
    have hlarge : entrySize entry > ctx.dynamicTableMaxSize := Nat.lt_of_not_le hfits
    simp only [if_neg hfits', if_pos hlarge]
    rfl

/-! ## Lookups -/

theorem getHeaderFromTable_of_lookup {ctx : HpackContext} {index : Nat} {field : HeaderField}
    (h : (tableOf ctx).lookup index = some field) : getHeaderFromTable index ctx = field := by
  have hstatic : responseHeaderStaticTable = ("", "") :: staticTable := rfl
  have hlen : responseHeaderStaticTable.length = 62 := rfl
  rw [Table.lookup] at h
  rw [getHeaderFromTable, hlen]
  split at h
  · cases h
  · rename_i hzero
    rw [if_neg hzero]
    split at h
    · rename_i hle
      rw [if_pos hle, staticEntry, hstatic]
      obtain ⟨k, rfl⟩ := Nat.exists_eq_succ_of_ne_zero hzero
      rw [Nat.succ_sub_one, Option.map_eq_some_iff] at h
      obtain ⟨entry, hentry, rfl⟩ := h
      rw [List.getD_cons_succ, List.getD_eq_getElem?_getD, hentry, Option.getD_some, staticField]
    · rename_i hgt
      have hlt : index - 62 < ctx.dynamicTable.length := (List.getElem?_eq_some_iff.mp h).1
      have hindex : index - (62 - 1) - 1 = index - 62 := by omega
      rw [if_neg hgt]
      simp only [hindex]
      rw [if_pos hlt, List.getD_eq_getElem?_getD]
      exact congrArg (Option.getD · default) h

/-! ## Representations -/

def nameReadable : FieldName → Prop
  | .indexed _ => True
  | .literal name => readable name

/-- The strings of a representation are readable. -/
def fieldReadable : Representation → Prop
  | .literal _ name value => nameReadable name ∧ readable value
  | _ => True

/-- Whether a representation enters its field into the dynamic table. -/
def inserts : Representation → Bool
  | .literal .incremental _ _ => true
  | _ => false

/-- The table after a field. -/
def afterField (table : Table) (inserted : Bool) (field : HeaderField) : Table :=
  if inserted then table.insert field else table

theorem decodeName_spec {buf post octets : Bytes} {pos : Nat} {ctx : HpackContext}
    {mode : Indexing} {name : FieldName} {text : Bytes}
    (h : NameOctets shortForm mode name octets) (hbuf : buf.drop pos = octets ++ post)
    (hname : (tableOf ctx).fieldName name = some text) :
    ∃ read, decodeName buf ctx pos mode.pattern.2 = (some read, pos + octets.length) ∧
      (nameReadable name → read = text) := by
  have hfit : mode.pattern.1 * 2 ^ mode.pattern.2 + 2 ^ mode.pattern.2 ≤ 256 := by
    cases mode <;> decide
  cases name with
  | indexed index =>
    obtain ⟨hpos, hindex⟩ := h
    rw [Table.fieldName, Option.map_eq_some_iff] at hname
    obtain ⟨field, hfield, rfl⟩ := hname
    refine ⟨field.name, ?_, fun _ => rfl⟩
    rw [decodeName, hpackDecodeInteger_spec hfit hindex hbuf]
    simp only
    rw [if_pos hpos, getHeaderFromTable_of_lookup hfield]
  | literal literal =>
    obtain ⟨zero, string, hzero, hstring, rfl⟩ := h
    rw [Table.fieldName, Option.some.injEq] at hname
    rw [List.append_assoc] at hbuf
    obtain ⟨read, hread, hclean⟩ := hpackDecodeString_spec hstring (drop_add_length hbuf)
    refine ⟨read, ?_, fun hreadable => by rw [hclean.mpr hreadable, hname]⟩
    rw [decodeName, hpackDecodeInteger_spec hfit hzero hbuf]
    simp only
    rw [if_neg (by omega), hread, List.length_append, Nat.add_assoc]

theorem decodeLiteral_spec {buf post octets : Bytes} {d : Decoding} {mode : Indexing}
    {name : FieldName} {value : StringLiteral} {text : Bytes}
    (h : RepOctets shortForm (.literal mode name value) octets)
    (hbuf : buf.drop d.pos = octets ++ post)
    (hname : (tableOf d.ctx).fieldName name = some text) (shouldAdd : Bool) :
    ∃ header, decodeLiteral buf d mode.pattern.2 shouldAdd =
        storeHeader { d with pos := d.pos + octets.length } shouldAdd header ∧
      (nameReadable name ∧ readable value → header = ⟨text, value.octets⟩) := by
  obtain ⟨head, string, hhead, hstring, rfl⟩ := h
  rw [List.append_assoc] at hbuf
  obtain ⟨readName, hreadName, hcleanName⟩ := decodeName_spec hhead hbuf hname
  obtain ⟨readValue, hreadValue, hcleanValue⟩ :=
    hpackDecodeString_spec hstring (drop_add_length hbuf)
  refine ⟨⟨readName, readValue⟩, ?_, fun hclean => ?_⟩
  · rw [decodeLiteral, hreadName]
    simp only [hreadValue, List.length_append, Nat.add_assoc]
  · rw [hcleanName hclean.1, hcleanValue.mpr hclean.2]

theorem first_octet_sizeUpdate {x : Nat} (hx : x < 2 ^ 5) :
    UInt8.ofNat (1 * 2 ^ 5 + x) &&& 0xE0 = 0x20 := by
  revert x
  decide

theorem first_octet_indexed {x : Nat} (hx : x < 2 ^ 7) :
    UInt8.ofNat (1 * 2 ^ 7 + x) &&& 0xE0 ≠ 0x20 ∧ UInt8.ofNat (1 * 2 ^ 7 + x) &&& 0x80 ≠ 0 := by
  revert x
  decide

/-- The three kinds of literal fields start with octets that are neither a
size update nor an index; only one kind has the bit 0x40. -/
theorem first_octet_literal (mode : Indexing) {x : Nat} (hx : x < 2 ^ mode.pattern.2) :
    let firstByte := UInt8.ofNat (mode.pattern.1 * 2 ^ mode.pattern.2 + x)
    firstByte &&& 0xE0 ≠ 0x20 ∧ firstByte &&& 0x80 = 0 ∧
      (firstByte &&& 0x40 ≠ 0 ↔ mode = .incremental) := by
  cases mode <;> revert x <;> decide

theorem nameOctets_head {mode : Indexing} {name : FieldName} {octets : Bytes}
    (h : NameOctets shortForm mode name octets) :
    ∃ x rest, x < 2 ^ mode.pattern.2 ∧
      octets = UInt8.ofNat (mode.pattern.1 * 2 ^ mode.pattern.2 + x) :: rest := by
  cases name with
  | indexed index => exact integerOctets_head h.2.1
  | literal literal =>
    obtain ⟨zero, string, hzero, _, rfl⟩ := h
    obtain ⟨x, rest, hx, rfl⟩ := integerOctets_head hzero.1
    exact ⟨x, rest ++ string, hx, rfl⟩

/-- The round of a literal field is `decodeLiteral`. -/
theorem decodeField_literal {buf post head : Bytes} {d : Decoding} {mode : Indexing}
    {name : FieldName} (hhead : NameOctets shortForm mode name head)
    (hbuf : buf.drop d.pos = head ++ post) (value : StringLiteral) :
    decodeField buf d =
      decodeLiteral buf d mode.pattern.2 (inserts (.literal mode name value)) := by
  obtain ⟨x, rest, hx, rfl⟩ := nameOctets_head hhead
  have hget := (drop_eq_cons hbuf).2.1
  obtain ⟨hnot, hbit, hmode⟩ := first_octet_literal mode hx
  rw [decodeField]
  simp only [hget]
  rw [if_neg hnot, if_neg (by rw [hbit]; simp)]
  cases mode with
  | incremental => rw [if_pos (hmode.mpr rfl)]; rfl
  | without => rw [if_neg (fun hset => by cases hmode.mp hset)]; rfl
  | never => rw [if_neg (fun hset => by cases hmode.mp hset)]; rfl

/-- One round of the loop.  A size update changes the table; every other
representation stores a header, and stores the field it means when its
strings are readable. -/
theorem decodeField_spec {buf post octets : Bytes} {d : Decoding} {rep : Representation}
    {table : Table} {field : Option HeaderField} (h : RepOctets shortForm rep octets)
    (hbuf : buf.drop d.pos = octets ++ post)
    (hstep : (tableOf d.ctx).step rep = some (table, field)) :
    match field with
    | none => ∃ ctx, decodeField buf d =
        (true, { d with ctx := ctx, pos := d.pos + octets.length }) ∧ tableOf ctx = table
    | some field => ∃ header, decodeField buf d =
          storeHeader { d with pos := d.pos + octets.length } (inserts rep) header ∧
        (fieldReadable rep → header = field) ∧
        table = afterField (tableOf d.ctx) (inserts rep) field := by
  cases rep with
  | sizeUpdate maxSize =>
    rw [Table.step, Option.some.injEq, Prod.mk.injEq] at hstep
    obtain ⟨rfl, rfl⟩ := hstep
    obtain ⟨x, rest, hx, hoctets⟩ := integerOctets_head h.1
    have hget := (drop_eq_cons (by rw [hoctets] at hbuf; exact hbuf)).2.1
    refine ⟨updateTableSize d.ctx maxSize, ?_, updateTableSize_table _ _⟩
    rw [decodeField]
    simp only [hget]
    rw [if_pos (first_octet_sizeUpdate hx), hpackDecodeInteger_spec (by decide) h hbuf]
  | indexed index =>
    rw [Table.step, Option.map_eq_some_iff] at hstep
    obtain ⟨found, hlookup, heq⟩ := hstep
    rw [Prod.mk.injEq] at heq
    obtain ⟨rfl, rfl⟩ := heq
    obtain ⟨x, rest, hx, hoctets⟩ := integerOctets_head h.1
    have hget := (drop_eq_cons (by rw [hoctets] at hbuf; exact hbuf)).2.1
    obtain ⟨hnot, hbit⟩ := first_octet_indexed hx
    refine ⟨found, ?_, fun _ => rfl, rfl⟩
    rw [decodeField]
    simp only [hget]
    rw [if_neg hnot, if_pos hbit, decodeIndexed, hpackDecodeInteger_spec (by decide) h hbuf]
    simp only
    rw [getHeaderFromTable_of_lookup hlookup]
    -- an index the reference finds passes both range checks
    have hlen : responseHeaderStaticTable.length = 62 := rfl
    rw [Table.lookup] at hlookup
    split at hlookup
    · cases hlookup
    · rename_i hzero
      have hinside : ¬(index ≥ 62 ∧ index - (62 - 1) - 1 ≥ d.ctx.dynamicTable.length) := by
        intro hout
        rw [if_neg (by omega)] at hlookup
        have hlt : index - 62 < d.ctx.dynamicTable.length :=
          (List.getElem?_eq_some_iff.mp hlookup).1
        omega
      rw [if_neg hzero, hlen, if_neg hinside]
      rfl
  | literal mode name value =>
    rw [Table.step, Option.map_eq_some_iff] at hstep
    obtain ⟨text, hname, heq⟩ := hstep
    rw [Prod.mk.injEq] at heq
    obtain ⟨rfl, rfl⟩ := heq
    have hround : decodeField buf d =
        decodeLiteral buf d mode.pattern.2 (inserts (.literal mode name value)) := by
      obtain ⟨head, string, hhead, _, rfl⟩ := h
      rw [List.append_assoc] at hbuf
      exact decodeField_literal hhead hbuf value
    obtain ⟨header, hstore, hclean⟩ := decodeLiteral_spec h hbuf hname
      (inserts (.literal mode name value))
    refine ⟨header, by rw [hround, hstore], hclean, ?_⟩
    cases mode <;> rfl

end HttpRequestClient.Hpack
