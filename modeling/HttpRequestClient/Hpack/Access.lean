import HttpRequestClient.Hpack.Rounds

/-!
# What the header decoder reads

`decodeHeadersFrame` once more, with every read of the source looked up: an
octet of the payload by its position, an entry of a table by its index.  A
function with a question mark has no result when it reads outside of the
payload or of a table, and when the rounds that a loop is given run out.  The
loop over the block also notes the position of every round.

* `decodeField_pos`: a round moves the position, and not past the payload.
* `decodeField?_eq`: a round reads inside the payload and the tables.
* `decodeHeadersFrame_reads`: so does a block, for any octets, any context
  and any stream; the positions increase and end at the length at the latest.

The Huffman decoder may leave its loop before the last octet.  Here all octets
of the string are read.
-/

namespace HttpRequestClient.Hpack

open Runs Rfc7541

/-! ## The position -/

theorem decodeContinuation_pos {buf : Bytes} (fuel : Nat) :
    ∀ (value shift : Nat) {pos : Nat}, pos ≤ buf.length →
      pos ≤ (decodeContinuation buf fuel value shift pos).2 ∧
        (decodeContinuation buf fuel value shift pos).2 ≤ buf.length := by
  induction fuel with
  | zero => exact fun _ _ _ h => ⟨Nat.le_refl _, h⟩
  | succ fuel ih =>
    intro value shift pos h
    rw [decodeContinuation]
    split
    · exact ⟨Nat.le_refl _, h⟩
    · dsimp only
      split
      · constructor <;> dsimp only <;> omega
      · split
        · have hrest := ih (value + ((buf.getD pos 0).toNat &&& 0x7F) <<< shift) (shift + 7)
            (show pos + 1 ≤ buf.length by omega)
          exact ⟨by omega, hrest.2⟩
        · constructor <;> dsimp only <;> omega

theorem hpackDecodeInteger_pos {buf : Bytes} {pos : Nat} (prefixSize : Nat)
    (h : pos < buf.length) :
    pos < (hpackDecodeInteger buf pos prefixSize).2 ∧
      (hpackDecodeInteger buf pos prefixSize).2 ≤ buf.length := by
  rw [hpackDecodeInteger, if_neg (by omega)]
  dsimp only
  split
  · have hrest := decodeContinuation_pos 5 ((buf.getD pos 0).toNat &&& 2 ^ prefixSize - 1) 0
      (show pos + 1 ≤ buf.length by omega)
    exact ⟨by omega, hrest.2⟩
  · constructor <;> dsimp only <;> omega

theorem hpackDecodeString_pos {payload : Bytes} {pos : Nat} (h : pos ≤ payload.length) :
    pos ≤ (hpackDecodeString payload pos).2 ∧
      (hpackDecodeString payload pos).2 ≤ payload.length := by
  rw [hpackDecodeString]
  split
  · exact ⟨Nat.le_refl _, h⟩
  · have hint := hpackDecodeInteger_pos 7 (show pos < payload.length by omega)
    dsimp only
    split <;> constructor <;> dsimp only <;> omega

theorem decodeName_pos {payload : Bytes} (ctx : HpackContext) {pos : Nat} (prefixSize : Nat)
    (h : pos < payload.length) :
    pos < (decodeName payload ctx pos prefixSize).2 ∧
      (decodeName payload ctx pos prefixSize).2 ≤ payload.length := by
  have hint := hpackDecodeInteger_pos prefixSize h
  rw [decodeName]
  dsimp only
  split
  · exact hint
  · have hstring := hpackDecodeString_pos hint.2
    constructor <;> omega

theorem storeHeader_pos (d : Decoding) (inserted : Bool) (header : ResponseHeader) :
    (storeHeader d inserted header).2.pos = d.pos := by
  rw [storeHeader]
  split
  · rfl
  · dsimp only
    split <;> rfl

theorem decodeLiteral_pos {payload : Bytes} {d : Decoding} (prefixSize : Nat) (inserted : Bool)
    (h : d.pos < payload.length) :
    d.pos < (decodeLiteral payload d prefixSize inserted).2.pos ∧
      (decodeLiteral payload d prefixSize inserted).2.pos ≤ payload.length := by
  have hname := decodeName_pos d.ctx prefixSize h
  rw [decodeLiteral]
  split
  · rename_i pos heq
    rw [heq] at hname
    exact hname
  · rename_i name pos heq
    rw [heq] at hname
    have hvalue := hpackDecodeString_pos hname.2
    split
    · rename_i pos' heq'
      rw [heq'] at hvalue
      exact ⟨show d.pos < pos' by dsimp only at *; omega, hvalue.2⟩
    · rename_i value pos' heq'
      rw [heq'] at hvalue
      rw [storeHeader_pos]
      exact ⟨show d.pos < pos' by dsimp only at *; omega, hvalue.2⟩

/-- A round moves the position, at most to the end of the payload. -/
theorem decodeField_pos {payload : Bytes} {d : Decoding} (h : d.pos < payload.length) :
    d.pos < (decodeField payload d).2.pos ∧
      (decodeField payload d).2.pos ≤ payload.length := by
  rw [decodeField]
  dsimp only
  split
  · exact hpackDecodeInteger_pos 5 h
  · split
    · have hint := hpackDecodeInteger_pos 7 h
      rw [decodeIndexed]
      dsimp only
      split
      · exact hint
      · split
        · exact hint
        · rw [storeHeader_pos]
          exact hint
    · split
      · exact decodeLiteral_pos 6 true h
      · exact decodeLiteral_pos 4 false h

/-! ## Reads of the payload -/

def decodeContinuation? (buf : Bytes) : Nat → Nat → Nat → Nat → Option (Nat × Nat)
  | 0, _, _, _ => none
  | fuel + 1, value, shift, pos =>
    if pos ≥ buf.length then some (value, pos)
    else
      (buf[pos]?).bind fun octet =>
        let b := octet.toNat
        let value := value + (b &&& 0x7F) <<< shift
        if shift + 7 > 28 then some (value, pos + 1)
        else if b &&& 0x80 ≠ 0 then decodeContinuation? buf fuel value (shift + 7) (pos + 1)
        else some (value, pos + 1)

def hpackDecodeInteger? (buf : Bytes) (pos prefixSize : Nat) : Option (Nat × Nat) :=
  if pos ≥ buf.length then some (0, pos)
  else
    (buf[pos]?).bind fun octet =>
      let mask := 2 ^ prefixSize - 1
      let value := octet.toNat &&& mask
      if value = mask then decodeContinuation? buf 5 value 0 (pos + 1) else some (value, pos + 1)

/-- The octets of a string, one after the other. -/
def readOctets? (buf : Bytes) (pos count : Nat) : Option Bytes :=
  (List.range count).mapM fun i => buf[pos + i]?

def hpackDecodeString? (payload : Bytes) (pos : Nat) : Option (Option Bytes × Nat) :=
  if pos ≥ payload.length then some (none, pos)
  else
    (hpackDecodeInteger? payload pos 7).bind fun (strLen, next) =>
      (payload[pos]?).bind fun octet =>
        let isHuffman := octet &&& 0x80 ≠ 0
        if next + strLen > payload.length then some (none, next)
        else
          (readOctets? payload next strLen).map fun text =>
            (some (if isHuffman then hpackHuffmanDecode text else cstr text), next + strLen)

/-! ## Reads of the tables -/

def getHeaderFromTable? (index : Nat) (ctx : HpackContext) : Option ResponseHeader :=
  if index = 0 then some ⟨[], []⟩
  else if index ≤ responseHeaderStaticTable.length - 1 then
    (responseHeaderStaticTable[index]?).map fun entry => ⟨ascii entry.1, ascii entry.2⟩
  else
    let dynamicIndex := index - (responseHeaderStaticTable.length - 1) - 1
    if dynamicIndex < ctx.dynamicTable.length then ctx.dynamicTable[dynamicIndex]?
    else some ⟨ascii "error", ascii "invalid index"⟩

def hpackDynamicTableUsedSize? (ctx : HpackContext) : Option Nat :=
  ((List.range ctx.dynamicTable.length).mapM fun i =>
    (ctx.dynamicTable[i]?).map hpackEntrySize).map List.sum

/-- The last entry is read to be freed. -/
def hpackEvictFromTail? (ctx : HpackContext) : Option HpackContext :=
  if ctx.dynamicTable.length = 0 then some ctx
  else (ctx.dynamicTable[ctx.dynamicTable.length - 1]?).map fun _ => hpackEvictFromTail ctx

def evictToMaxSize? : Nat → HpackContext → Option HpackContext
  | 0, ctx => if ctx.dynamicTable.length > 0 then none else some ctx
  | fuel + 1, ctx =>
    if ctx.dynamicTable.length > 0 then
      (hpackDynamicTableUsedSize? ctx).bind fun used =>
        if used > ctx.dynamicTableMaxSize then
          (hpackEvictFromTail? ctx).bind (evictToMaxSize? fuel)
        else some ctx
    else some ctx

def updateTableSize? (ctx : HpackContext) (maxSize : Nat) : Option HpackContext :=
  evictToMaxSize? ctx.dynamicTable.length { ctx with dynamicTableMaxSize := maxSize }

/-- `evictForEntry`. -/
def evictToFit? (entrySize : Nat) : Nat → HpackContext → Nat → Option HpackContext
  | 0, ctx, _ => if ctx.dynamicTable.length > 0 then none else some ctx
  | fuel + 1, ctx, used =>
    if ctx.dynamicTable.length > 0 ∧ used + entrySize > ctx.dynamicTableMaxSize then
      (ctx.dynamicTable[ctx.dynamicTable.length - 1]?).bind fun last =>
        (hpackEvictFromTail? ctx).bind fun ctx =>
          evictToFit? entrySize fuel ctx (used - hpackEntrySize last)
    else some ctx

/-- The loop that empties the table. -/
def evictAll? : Nat → HpackContext → Option HpackContext
  | 0, ctx => if ctx.dynamicTable.length > 0 then none else some ctx
  | fuel + 1, ctx =>
    if ctx.dynamicTable.length > 0 then (hpackEvictFromTail? ctx).bind (evictAll? fuel)
    else some ctx

/-- The shift reads every entry that is left. -/
def addToDynamicTable? (ctx : HpackContext) (entry : HpackTableEntry) : Option HpackContext :=
  let entrySize := hpackEntrySize entry
  if entrySize > ctx.dynamicTableMaxSize then evictAll? ctx.dynamicTable.length ctx
  else
    (hpackDynamicTableUsedSize? ctx).bind fun used =>
      (evictToFit? entrySize ctx.dynamicTable.length ctx used).bind fun ctx =>
        let capacity := ctx.dynamicTableCapacity
        let grown := if capacity = 0 then 8 else 2 * capacity
        ((List.range ctx.dynamicTable.length).mapM fun i => ctx.dynamicTable[i]?).map
          fun shifted =>
            { ctx with
              dynamicTable := entry :: shifted
              dynamicTableCapacity :=
                if ctx.dynamicTable.length ≥ capacity then grown else capacity }

/-! ## Rounds -/

def storeHeader? (d : Decoding) (shouldAddToDynamicTable : Bool) (header : ResponseHeader) :
    Option (Bool × Decoding) :=
  (if shouldAddToDynamicTable then addToDynamicTable? d.ctx header else some d.ctx).map fun ctx =>
    match d.stream.headers with
    | none => (true, { d with ctx := ctx })
    | some headers =>
      if headers.length < RESPONSE_HEADERS_MAX_SIZE then
        (true,
          { d with ctx := ctx, stream := { d.stream with headers := some (headers ++ [header]) } })
      else (false, { d with ctx := ctx })

def decodeIndexed? (payload : Bytes) (d : Decoding) : Option (Bool × Decoding) :=
  (hpackDecodeInteger? payload d.pos 7).bind fun (index, pos) =>
    let d := { d with pos := pos }
    let staticTableCount := responseHeaderStaticTable.length
    if index = 0 then some (true, d.failed)
    else if index ≥ staticTableCount ∧
        index - (staticTableCount - 1) - 1 ≥ d.ctx.dynamicTable.length then some (true, d.failed)
    else (getHeaderFromTable? index d.ctx).bind (storeHeader? d false)

def decodeName? (payload : Bytes) (ctx : HpackContext) (pos prefixSize : Nat) :
    Option (Option Bytes × Nat) :=
  (hpackDecodeInteger? payload pos prefixSize).bind fun (index, pos) =>
    if index > 0 then (getHeaderFromTable? index ctx).map fun entry => (some entry.name, pos)
    else hpackDecodeString? payload pos

def decodeLiteral? (payload : Bytes) (d : Decoding) (prefixSize : Nat)
    (shouldAddToDynamicTable : Bool) : Option (Bool × Decoding) :=
  (decodeName? payload d.ctx d.pos prefixSize).bind fun
    | (none, pos) => some (false, { d with pos := pos }.failed)
    | (some name, pos) =>
      (hpackDecodeString? payload pos).bind fun
        | (none, pos) => some (false, { d with pos := pos }.failed)
        | (some value, pos) =>
          storeHeader? { d with pos := pos } shouldAddToDynamicTable ⟨name, value⟩

def decodeField? (payload : Bytes) (d : Decoding) : Option (Bool × Decoding) :=
  (payload[d.pos]?).bind fun firstByte =>
    if firstByte &&& 0xE0 = 0x20 then
      (hpackDecodeInteger? payload d.pos 5).bind fun (maxSize, pos) =>
        (updateTableSize? d.ctx maxSize).map fun ctx => (true, { d with ctx := ctx, pos := pos })
    else if firstByte &&& 0x80 ≠ 0 then decodeIndexed? payload d
    else if firstByte &&& 0x40 ≠ 0 then decodeLiteral? payload d 6 true
    else decodeLiteral? payload d 4 false

/-- The loop, with the position before every round and at the end. -/
def decodeFields? (payload : Bytes) : Nat → Decoding → Option (Decoding × List Nat)
  | 0, d => if d.pos < payload.length then none else some (d, [d.pos])
  | fuel + 1, d =>
    if d.pos < payload.length then
      (decodeField? payload d).bind fun
        | (true, next) =>
          (decodeFields? payload fuel next).map fun (last, positions) => (last, d.pos :: positions)
        | (false, next) => some (next, [d.pos, next.pos])
    else some (d, [d.pos])

def decodeHeadersFrame? (stream : Stream) (payload : Bytes) (ctx : HpackContext) :
    Option ((Stream × HpackContext) × List Nat) :=
  if payload.length = 0 then some ((stream, ctx), [])
  else
    let stream := { stream with headers := stream.headers.map (fun _ => []) }
    (decodeFields? payload payload.length { stream := stream, ctx := ctx, pos := 0 }).map
      fun (d, positions) => ((d.stream, d.ctx), positions)

/-! ## Every read is inside -/

theorem getElem?_octet {buf : Bytes} {pos : Nat} (h : pos < buf.length) :
    buf[pos]? = some (buf.getD pos 0) := by
  rw [List.getD_eq_getElem?_getD, List.getElem?_eq_getElem h, Option.getD_some]

/-- The elements of a list looked up in order. -/
theorem mapM_range_lookup {α : Type} {list : List α} :
    ∀ {lookup : Nat → Option α}, (∀ i, i < list.length → lookup i = list[i]?) →
      (List.range list.length).mapM lookup = some list := by
  induction list with
  | nil =>
    intro lookup _
    rfl
  | cons head tail ih =>
    intro lookup h
    have hhead : lookup 0 = some head := by rw [h 0 (by simp), List.getElem?_cons_zero]
    have htail : (List.range tail.length).mapM (lookup ∘ Nat.succ) = some tail := by
      apply ih
      intro i hi
      show lookup (i + 1) = tail[i]?
      rw [h (i + 1) (by rw [List.length_cons]; omega), List.getElem?_cons_succ]
    rw [List.length_cons, List.range_succ_eq_map, List.mapM_cons, List.mapM_map, hhead, htail]
    rfl

theorem readOctets?_eq {buf : Bytes} {pos count : Nat} (h : pos + count ≤ buf.length) :
    readOctets? buf pos count = some ((buf.drop pos).take count) := by
  have hlength : ((buf.drop pos).take count).length = count := by
    rw [List.length_take, List.length_drop]
    omega
  have hread : (List.range ((buf.drop pos).take count).length).mapM (fun i => buf[pos + i]?) =
      some ((buf.drop pos).take count) := by
    apply mapM_range_lookup
    intro i hi
    rw [List.getElem?_take_of_lt (by omega), List.getElem?_drop]
  rw [hlength] at hread
  exact hread

/-- The fuel of the loop and its shift: the fifth octet leaves it. -/
theorem decodeContinuation?_eq {buf : Bytes} (fuel : Nat) :
    ∀ {value shift pos : Nat}, 7 * fuel + shift = 35 → shift ≤ 28 →
      decodeContinuation? buf fuel value shift pos =
        some (decodeContinuation buf fuel value shift pos) := by
  induction fuel with
  | zero =>
    intro value shift pos hshift hle
    omega
  | succ fuel ih =>
    intro value shift pos hshift hle
    rw [decodeContinuation?, decodeContinuation]
    split
    · rfl
    · rename_i hlt
      rw [getElem?_octet (by omega), Option.bind_some]
      dsimp only
      split
      · rfl
      · split
        · exact ih (by omega) (by omega)
        · rfl

theorem hpackDecodeInteger?_eq (buf : Bytes) (pos prefixSize : Nat) :
    hpackDecodeInteger? buf pos prefixSize = some (hpackDecodeInteger buf pos prefixSize) := by
  rw [hpackDecodeInteger?, hpackDecodeInteger]
  split
  · rfl
  · rw [getElem?_octet (by omega), Option.bind_some]
    dsimp only
    split
    · exact decodeContinuation?_eq 5 (by omega) (by omega)
    · rfl

theorem hpackDecodeString?_eq (payload : Bytes) (pos : Nat) :
    hpackDecodeString? payload pos = some (hpackDecodeString payload pos) := by
  rw [hpackDecodeString?, hpackDecodeString]
  split
  · rfl
  · rw [hpackDecodeInteger?_eq, Option.bind_some, getElem?_octet (by omega)]
    dsimp only
    rw [Option.bind_some]
    split
    · rfl
    · rw [readOctets?_eq (by omega), Option.map_some]

theorem getHeaderFromTable?_eq (index : Nat) (ctx : HpackContext) :
    getHeaderFromTable? index ctx = some (getHeaderFromTable index ctx) := by
  have hcount : 0 < responseHeaderStaticTable.length := by decide
  rw [getHeaderFromTable?, getHeaderFromTable]
  split
  · rfl
  · split
    · have hget := List.getElem?_eq_getElem (l := responseHeaderStaticTable)
        (show index < responseHeaderStaticTable.length by omega)
      rw [staticEntry, List.getD_eq_getElem?_getD, hget]
      rfl
    · dsimp only
      split
      · rename_i hlt
        rw [List.getD_eq_getElem?_getD, List.getElem?_eq_getElem hlt, Option.getD_some]
      · rfl

theorem hpackDynamicTableUsedSize?_eq (ctx : HpackContext) :
    hpackDynamicTableUsedSize? ctx = some (hpackDynamicTableUsedSize ctx) := by
  have hread : (List.range (ctx.dynamicTable.map hpackEntrySize).length).mapM
      (fun i => (ctx.dynamicTable[i]?).map hpackEntrySize) =
      some (ctx.dynamicTable.map hpackEntrySize) := by
    apply mapM_range_lookup
    intro i _
    rw [List.getElem?_map]
  rw [List.length_map] at hread
  rw [hpackDynamicTableUsedSize?, hread]
  rfl

theorem hpackEvictFromTail?_eq (ctx : HpackContext) :
    hpackEvictFromTail? ctx = some (hpackEvictFromTail ctx) := by
  rw [hpackEvictFromTail?]
  split
  · rename_i hempty
    rw [hpackEvictFromTail, List.length_eq_zero_iff.mp hempty, List.dropLast_nil,
      ← List.length_eq_zero_iff.mp hempty]
  · rw [List.getElem?_eq_getElem (by omega), Option.map_some]

theorem evictToMaxSize?_eq (fuel : Nat) :
    ∀ (ctx : HpackContext), ctx.dynamicTable.length ≤ fuel →
      evictToMaxSize? fuel ctx = some (evictToMaxSize fuel ctx) := by
  induction fuel with
  | zero =>
    intro ctx h
    rw [evictToMaxSize?, evictToMaxSize, if_neg (by omega)]
  | succ fuel ih =>
    intro ctx h
    rw [evictToMaxSize?, evictToMaxSize, hpackDynamicTableUsedSize?_eq, Option.bind_some]
    by_cases hpos : ctx.dynamicTable.length > 0
    · rw [if_pos hpos]
      split
      · rename_i hover
        rw [if_pos ⟨hpos, hover⟩, hpackEvictFromTail?_eq, Option.bind_some]
        exact ih _ (by rw [hpackEvictFromTail, List.length_dropLast]; omega)
      · rename_i hfits
        rw [if_neg (fun hboth => hfits hboth.2)]
    · rw [if_neg hpos, if_neg (fun hboth => hpos hboth.1)]

theorem updateTableSize?_eq (ctx : HpackContext) (maxSize : Nat) :
    updateTableSize? ctx maxSize = some (updateTableSize ctx maxSize) :=
  evictToMaxSize?_eq ctx.dynamicTable.length { ctx with dynamicTableMaxSize := maxSize }
    (Nat.le_refl _)

theorem evictToFit?_eq (entrySize fuel : Nat) :
    ∀ (ctx : HpackContext) (used : Nat), ctx.dynamicTable.length ≤ fuel →
      evictToFit? entrySize fuel ctx used = some (evictForEntry entrySize fuel ctx used) := by
  induction fuel with
  | zero =>
    intro ctx used h
    rw [evictToFit?, evictForEntry, if_neg (by omega)]
  | succ fuel ih =>
    intro ctx used h
    rw [evictToFit?, evictForEntry]
    split
    · rename_i hover
      rw [hpackEvictFromTail?_eq, List.getD_eq_getElem?_getD,
        List.getElem?_eq_getElem (by omega), Option.bind_some, Option.bind_some]
      exact ih _ _ (by rw [hpackEvictFromTail, List.length_dropLast]; omega)
    · rfl

theorem evictAll?_eq (fuel : Nat) :
    ∀ (ctx : HpackContext), ctx.dynamicTable.length ≤ fuel →
      evictAll? fuel ctx = some { ctx with dynamicTable := [] } := by
  induction fuel with
  | zero =>
    intro ctx h
    have hnil : ctx.dynamicTable = [] := List.length_eq_zero_iff.mp (by omega)
    rw [evictAll?, if_neg (by omega), ← hnil]
  | succ fuel ih =>
    intro ctx h
    rw [evictAll?]
    split
    · rw [hpackEvictFromTail?_eq, Option.bind_some,
        ih _ (by rw [hpackEvictFromTail, List.length_dropLast]; omega)]
      rfl
    · have hnil : ctx.dynamicTable = [] := List.length_eq_zero_iff.mp (by omega)
      rw [← hnil]

theorem addToDynamicTable?_eq (ctx : HpackContext) (entry : HpackTableEntry) :
    addToDynamicTable? ctx entry = some (addToDynamicTable ctx entry) := by
  rw [addToDynamicTable?, addToDynamicTable]
  dsimp only
  split
  · exact evictAll?_eq _ ctx (Nat.le_refl _)
  · rw [hpackDynamicTableUsedSize?_eq, Option.bind_some,
      evictToFit?_eq _ _ ctx _ (Nat.le_refl _), Option.bind_some, mapM_range_lookup (fun _ _ => rfl),
      Option.map_some]

theorem storeHeader?_eq (d : Decoding) (inserted : Bool) (header : ResponseHeader) :
    storeHeader? d inserted header = some (storeHeader d inserted header) := by
  have hctx : (if inserted then addToDynamicTable? d.ctx header else some d.ctx) =
      some (if inserted then addToDynamicTable d.ctx header else d.ctx) := by
    split
    · exact addToDynamicTable?_eq d.ctx header
    · rfl
  rw [storeHeader?, hctx, Option.map_some]
  rfl

theorem decodeIndexed?_eq (payload : Bytes) (d : Decoding) :
    decodeIndexed? payload d = some (decodeIndexed payload d) := by
  rw [decodeIndexed?, hpackDecodeInteger?_eq, Option.bind_some, decodeIndexed]
  dsimp only
  split
  · rfl
  · split
    · rfl
    · rw [getHeaderFromTable?_eq, Option.bind_some, storeHeader?_eq]

theorem decodeName?_eq (payload : Bytes) (ctx : HpackContext) (pos prefixSize : Nat) :
    decodeName? payload ctx pos prefixSize = some (decodeName payload ctx pos prefixSize) := by
  rw [decodeName?, hpackDecodeInteger?_eq, Option.bind_some, decodeName]
  dsimp only
  split
  · rw [getHeaderFromTable?_eq, Option.map_some]
  · exact hpackDecodeString?_eq _ _

theorem decodeLiteral?_eq (payload : Bytes) (d : Decoding) (prefixSize : Nat) (inserted : Bool) :
    decodeLiteral? payload d prefixSize inserted =
      some (decodeLiteral payload d prefixSize inserted) := by
  rw [decodeLiteral?, decodeName?_eq, Option.bind_some, decodeLiteral]
  cases decodeName payload d.ctx d.pos prefixSize with
  | mk name pos =>
    cases name with
    | none => rfl
    | some name =>
      dsimp only
      rw [hpackDecodeString?_eq, Option.bind_some]
      cases hpackDecodeString payload pos with
      | mk value pos =>
        cases value with
        | none => rfl
        | some value => exact storeHeader?_eq _ _ _

/-- Every octet and every entry that a round reads is there. -/
theorem decodeField?_eq {payload : Bytes} {d : Decoding} (h : d.pos < payload.length) :
    decodeField? payload d = some (decodeField payload d) := by
  rw [decodeField?, getElem?_octet h, Option.bind_some, decodeField]
  dsimp only
  split
  · rw [hpackDecodeInteger?_eq, Option.bind_some]
    rw [updateTableSize?_eq, Option.map_some]
  · split
    · exact decodeIndexed?_eq payload d
    · split <;> exact decodeLiteral?_eq _ _ _ _

/-- A position in front of increasing ones, smaller than the first of them. -/
theorem pairwise_cons_of_head {pos next : Nat} {positions : List Nat}
    (h : positions.Pairwise (· < ·)) (hfirst : positions.head? = some next) (hlt : pos < next) :
    (pos :: positions).Pairwise (· < ·) := by
  cases positions with
  | nil => exact List.pairwise_singleton _ _
  | cons first rest =>
    cases hfirst
    have hrest := List.pairwise_cons.mp h
    apply List.pairwise_cons.mpr
    refine ⟨fun later hmem => ?_, h⟩
    rcases List.mem_cons.mp hmem with rfl | hmem
    · exact hlt
    · exact Nat.lt_trans hlt (hrest.1 later hmem)

/-- A round moves the position, so the octets that are left are enough
rounds. -/
theorem decodeFields?_eq {payload : Bytes} (fuel : Nat) :
    ∀ {d : Decoding}, d.pos ≤ payload.length → payload.length ≤ d.pos + fuel →
      ∃ positions, decodeFields? payload fuel d = some (decodeFields payload fuel d, positions) ∧
        positions.Pairwise (· < ·) ∧ positions.head? = some d.pos ∧
        ∀ pos ∈ positions, pos ≤ payload.length := by
  induction fuel with
  | zero =>
    intro d hpos hfuel
    refine ⟨[d.pos], ?_, List.pairwise_singleton _ _, rfl, ?_⟩
    · rw [decodeFields?, if_neg (by omega), decodeFields]
    · intro pos hmem
      rw [List.mem_singleton.mp hmem]
      exact hpos
  | succ fuel ih =>
    intro d hpos hfuel
    rw [decodeFields?, decodeFields]
    split
    · rename_i hlt
      have hmoved := decodeField_pos hlt
      rw [decodeField?_eq hlt, Option.bind_some]
      cases hround : decodeField payload d with
      | mk more next =>
        rw [hround] at hmoved
        dsimp only at hmoved
        cases more with
        | true =>
          obtain ⟨positions, hread, hincreasing, hfirst, hbound⟩ :=
            ih hmoved.2 (show payload.length ≤ next.pos + fuel by omega)
          refine ⟨d.pos :: positions, ?_, ?_, rfl, ?_⟩
          · dsimp only
            rw [hread, Option.map_some]
          · exact pairwise_cons_of_head hincreasing hfirst hmoved.1
          · intro pos hmem
            rcases List.mem_cons.mp hmem with rfl | hmem
            · exact hpos
            · exact hbound pos hmem
        | false =>
          refine ⟨[d.pos, next.pos], rfl, List.pairwise_pair.mpr hmoved.1, rfl, ?_⟩
          intro pos hmem
          rcases List.mem_pair.mp hmem with rfl | rfl
          · exact hpos
          · exact hmoved.2
    · refine ⟨[d.pos], rfl, List.pairwise_singleton _ _, rfl, ?_⟩
      intro pos hmem
      rw [List.mem_singleton.mp hmem]
      exact hpos

theorem decodeHeadersFrame?_eq (stream : Stream) (payload : Bytes) (ctx : HpackContext) :
    ∃ positions,
      decodeHeadersFrame? stream payload ctx =
        some (decodeHeadersFrame stream payload ctx, positions) ∧
      positions.Pairwise (· < ·) ∧ ∀ pos ∈ positions, pos ≤ payload.length := by
  rw [decodeHeadersFrame?, decodeHeadersFrame]
  split
  · exact ⟨[], rfl, List.Pairwise.nil, fun pos hmem => absurd hmem List.not_mem_nil⟩
  · obtain ⟨positions, hread, hincreasing, _, hbound⟩ := decodeFields?_eq
      payload.length
      (d := ⟨{ stream with headers := stream.headers.map (fun _ => []) }, ctx, 0⟩)
      (Nat.zero_le payload.length) (Nat.le_add_left _ _)
    dsimp only
    rw [hread]
    exact ⟨positions, rfl, hincreasing, hbound⟩

/-! ## The allocation of the dynamic table -/

/-- The entries of the table are within its allocation. -/
def Allocated (ctx : HpackContext) : Prop := ctx.dynamicTable.length ≤ ctx.dynamicTableCapacity

theorem fitting_length_le (entries : List HpackTableEntry) :
    ∀ room : Nat, (fitting room entries).length ≤ entries.length := by
  induction entries with
  | nil => exact fun _ => Nat.le_refl _
  | cons entry entries ih =>
    intro room
    rw [fitting]
    split
    · exact Nat.succ_le_succ (ih _)
    · exact Nat.zero_le _

theorem updateTableSize_allocated {ctx : HpackContext} (maxSize : Nat) (h : Allocated ctx) :
    Allocated (updateTableSize ctx maxSize) := by
  have hevict := evictToMaxSize_eq ctx.dynamicTable.length
    { ctx with dynamicTableMaxSize := maxSize } (Nat.le_refl _)
  rw [updateTableSize, hevict]
  exact Nat.le_trans (fitting_length_le _ _) h

/-- The table grows before it is full. -/
theorem addToDynamicTable_allocated {ctx : HpackContext} (entry : HpackTableEntry)
    (h : Allocated ctx) : Allocated (addToDynamicTable ctx entry) := by
  rw [addToDynamicTable]
  dsimp only
  split
  · exact Nat.zero_le _
  · have hused : hpackDynamicTableUsedSize ctx = totalSize ctx.dynamicTable := rfl
    have hkept := fitting_length_le ctx.dynamicTable
      (ctx.dynamicTableMaxSize - hpackEntrySize entry)
    rw [hused, evictForEntry_eq _ _ ctx (Nat.le_refl _) (by omega)]
    rw [Allocated] at h ⊢
    dsimp only
    rw [List.length_cons]
    split
    · split <;> omega
    · omega

theorem stepReading_allocated (s : Rounds) (reading : Reading) (h : Allocated s.ctx) :
    Allocated (stepReading s reading).ctx := by
  rw [stepReading]
  split
  · rcases act_ctx s reading with ⟨maxSize, _, hctx⟩ | ⟨_, hctx | ⟨entry, hctx⟩⟩
    · rw [hctx]
      exact updateTableSize_allocated maxSize h
    · rw [hctx]
      exact h
    · rw [hctx]
      exact addToDynamicTable_allocated entry h
  · exact h

theorem decodeHeadersFrame_allocated (stream : Stream) (payload : Bytes) {ctx : HpackContext}
    (h : Allocated ctx) : Allocated (decodeHeadersFrame stream payload ctx).2 := by
  rw [(decodeHeadersFrame_run stream payload ctx).2]
  exact run_invariant (P := fun s : Rounds => Allocated s.ctx) stepReading_allocated
    (readings payload) h

/-- Whatever the block, the context and the stream: the decoder comes to an
end, its position increases in every round up to the length at most, and it
reads octets of the block and entries of the tables only.  What it inserts is
within the allocation of the table. -/
theorem decodeHeadersFrame_reads (stream : Stream) (payload : Bytes) (ctx : HpackContext) :
    ∃ positions,
      decodeHeadersFrame? stream payload ctx =
        some (decodeHeadersFrame stream payload ctx, positions) ∧
      positions.Pairwise (· < ·) ∧ (∀ pos ∈ positions, pos ≤ payload.length) ∧
      (Allocated ctx → Allocated (decodeHeadersFrame stream payload ctx).2) := by
  obtain ⟨positions, hread, hincreasing, hbound⟩ := decodeHeadersFrame?_eq stream payload ctx
  exact ⟨positions, hread, hincreasing, hbound, decodeHeadersFrame_allocated stream payload⟩

end HttpRequestClient.Hpack
