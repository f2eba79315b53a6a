import HttpRequestClient.Http11.Message

/-!
# Malformed framing

`MalformedFraming` says which bytes behind a head are not framed by RFC 9112.
The client does not check this: it takes for a size what `strtol` finds on a
line, and reads over the line behind the data of a chunk.  `LaxBody` and
`NegativeSize` are the bytes that it takes for a chunked body, and those that
it refuses.

* `scanChunks_refused_iff`: the scan stops at a negative size, and only there.
* `scanChunks_complete_iff`: it comes to an end on every lax body, and on
  nothing else.
-/

namespace HttpRequestClient.Http11

open Parts

/-! ## What is malformed -/

/-- A chunk size line of digits and, perhaps, an extension. -/
def IsSizeLine (text : Bytes) : Prop :=
  ∃ line : SizeLine, line.blanks = [] ∧ line.text = text

/-- Whole chunks, and then a line that is no size line, or data without an
empty line behind it. -/
def MalformedChunks (bytes : Bytes) : Prop :=
  ∃ (chunks : List Chunk) (after : Bytes), bytes = (chunks.map Chunk.wire).flatten ++ after ∧
    ((∃ text rest, 10 ∉ text ∧ after = crlf text ++ rest ∧ ¬IsSizeLine text) ∨
      ∃ (line : SizeLine) (data rest : Bytes), line.size = data.length ∧ data ≠ [] ∧
        after = crlf line.text ++ (data ++ rest) ∧ ¬crlf [] <+: rest)

/-- A length that is not all digits. -/
def MalformedLength (value : Bytes) : Prop :=
  value = [] ∨ ∃ c ∈ value, isdigit c = false

/-- The framing of a response: its chunks, or its length, are malformed. -/
def MalformedFraming (headers : List ResponseHeader) (bytes : Bytes) : Prop :=
  if isChunked headers then MalformedChunks bytes
  else ∃ value, headerValue (ascii "content-length") headers = some value ∧ MalformedLength value

/-! ## What is read -/

/-- What the client takes for a chunk: a line with a positive number, as many
bytes, and a line with whatever is on it. -/
structure LaxChunk where
  raw : Bytes
  data : Bytes
  line : Bytes
  raw_ok : 10 ∉ raw
  line_ok : 10 ∉ line
  size_eq : chunkSizeOf (lineText raw) = data.length
  data_ne : data ≠ []

def LaxChunk.wire (chunk : LaxChunk) : Bytes :=
  chunk.raw ++ 10 :: (chunk.data ++ (chunk.line ++ [10]))

theorem LaxChunk.length_wire (chunk : LaxChunk) (rest : Bytes) :
    rest.length < (chunk.wire ++ rest).length := by
  simp only [LaxChunk.wire, List.length_append, List.length_cons]
  omega

/-- Lines with an empty one among them. -/
inductive LaxSection : Bytes → Prop where
  | blank {raw : Bytes} (after : Bytes) (hraw : 10 ∉ raw) (htext : lineText raw = []) :
      LaxSection (raw ++ 10 :: after)
  | line {raw rest : Bytes} (hraw : 10 ∉ raw) (htext : lineText raw ≠ []) (h : LaxSection rest) :
      LaxSection (raw ++ 10 :: rest)

/-- What the client takes for a chunked body, and bytes behind it. -/
inductive LaxBody : Bytes → Prop where
  | last {raw rest : Bytes} (hraw : 10 ∉ raw) (hsize : chunkSizeOf (lineText raw) = 0)
      (h : LaxSection rest) : LaxBody (raw ++ 10 :: rest)
  | chunk (chunk : LaxChunk) {rest : Bytes} (h : LaxBody rest) : LaxBody (chunk.wire ++ rest)

/-- Chunks, and then a size that is negative. -/
inductive NegativeSize : Bytes → Prop where
  | here {raw : Bytes} (after : Bytes) (hraw : 10 ∉ raw)
      (hsize : chunkSizeOf (lineText raw) < 0) : NegativeSize (raw ++ 10 :: after)
  | chunk (chunk : LaxChunk) {rest : Bytes} (h : NegativeSize rest) :
      NegativeSize (chunk.wire ++ rest)

/-! ## Scans -/

/-- The scan reads over a chunk. -/
theorem scanChunks_laxChunk (chunk : LaxChunk) (rest : Bytes) :
    (scanChunks (chunk.wire ++ rest)).result = (scanChunks rest).result := by
  have hpos : 0 < chunk.data.length := List.length_pos_iff.mpr chunk.data_ne
  have hwire : chunk.wire ++ rest =
      chunk.raw ++ 10 :: (chunk.data ++ (chunk.line ++ 10 :: rest)) := by
    simp [LaxChunk.wire]
  rw [hwire, scanChunks_some (cut_append chunk.raw_ok _), chunk.size_eq, if_neg (by omega),
    if_neg (by omega), Int.toNat_natCast, if_neg (by simp), List.take_left, List.drop_left,
    scanAfter, cut_append chunk.line_ok]

theorem scanSection_complete_iff (bytes : Bytes) :
    (∃ rest, (scanSection bytes).result = .complete rest) ↔ LaxSection bytes := by
  constructor
  · intro h
    cases hcut : cut 10 bytes with
    | none =>
      rw [scanSection_none hcut] at h
      obtain ⟨rest, h⟩ := h
      cases h
    | some pair =>
      obtain ⟨raw, after⟩ := pair
      rw [scanSection_some hcut] at h
      obtain ⟨hraw, hbytes⟩ := cut_eq_some_iff.mp hcut
      rw [hbytes]
      by_cases htext : lineText raw = []
      · exact .blank after hraw htext
      · rw [if_neg htext] at h
        exact .line hraw htext ((scanSection_complete_iff after).mp h)
  · intro h
    induction h with
    | blank after hraw htext =>
      rw [scanSection_some (cut_append hraw _), if_pos htext]
      exact ⟨after, rfl⟩
    | line hraw htext _ ih =>
      rw [scanSection_some (cut_append hraw _), if_neg htext]
      exact ih
termination_by bytes.length
decreasing_by
  rw [hbytes, List.length_append, List.length_cons]
  omega

/-- The bytes that a scan of chunks can meet: no whole line, a size that is
not positive, a chunk that is not whole, or a chunk. -/
theorem scanChunks_cases (bytes : Bytes) :
    (scanChunks bytes).result = .ended ∨
      (∃ raw after, 10 ∉ raw ∧ chunkSizeOf (lineText raw) ≤ 0 ∧ bytes = raw ++ 10 :: after) ∨
      ∃ (chunk : LaxChunk) (rest : Bytes), bytes = chunk.wire ++ rest := by
  cases hcut : cut 10 bytes with
  | none =>
    left
    rw [scanChunks_none hcut]
  | some pair =>
    obtain ⟨raw, after⟩ := pair
    obtain ⟨hraw, rfl⟩ := cut_eq_some_iff.mp hcut
    by_cases hsize : chunkSizeOf (lineText raw) ≤ 0
    · exact Or.inr (Or.inl ⟨raw, after, hraw, hsize, rfl⟩)
    · obtain ⟨size, hvalue⟩ : ∃ size : Nat, chunkSizeOf (lineText raw) = size :=
        Int.eq_ofNat_of_zero_le (by omega)
      rw [scanChunks_some hcut, hvalue, if_neg (by omega), if_neg (by omega), Int.toNat_natCast]
      by_cases hshort : after.length < size
      · left
        rw [if_pos hshort]
      · rw [if_neg hshort, scanAfter]
        cases hline : cut 10 (after.drop size) with
        | none => exact Or.inl rfl
        | some pair =>
          obtain ⟨line, rest⟩ := pair
          obtain ⟨hline, hdrop⟩ := cut_eq_some_iff.mp hline
          have hlength : (after.take size).length = size := by
            rw [List.length_take]
            omega
          right
          right
          refine ⟨⟨raw, after.take size, line, hraw, hline, by rw [hlength]; exact hvalue, ?_⟩,
            rest, ?_⟩
          · apply List.ne_nil_of_length_pos
            omega
          · rw [LaxChunk.wire]
            simp only [List.append_assoc, List.cons_append, List.nil_append]
            rw [← hdrop, List.take_append_drop]

/-- The scan stops at a negative size, and only there. -/
theorem scanChunks_refused_iff (bytes : Bytes) :
    (scanChunks bytes).result = .refused ↔ NegativeSize bytes := by
  constructor
  · intro h
    rcases scanChunks_cases bytes with
      hended | ⟨raw, after, hraw, hsize, rfl⟩ | ⟨chunk, rest, hbytes⟩
    · rw [hended] at h
      cases h
    · rw [scanChunks_some (cut_append hraw _)] at h
      by_cases hneg : chunkSizeOf (lineText raw) < 0
      · exact .here after hraw hneg
      · rw [if_neg hneg, if_pos (by omega)] at h
        exact absurd h (scanSection_ne_refused after)
    · rw [hbytes, scanChunks_laxChunk] at h
      rw [hbytes]
      exact .chunk chunk ((scanChunks_refused_iff rest).mp h)
  · intro h
    induction h with
    | here after hraw hsize => rw [scanChunks_some (cut_append hraw _), if_pos hsize]
    | chunk chunk _ ih => rw [scanChunks_laxChunk, ih]
termination_by bytes.length
decreasing_by
  rw [hbytes]
  exact chunk.length_wire rest

/-- The scan comes to an end on a lax body. -/
theorem scanChunks_complete_iff (bytes : Bytes) :
    (∃ rest, (scanChunks bytes).result = .complete rest) ↔ LaxBody bytes := by
  constructor
  · intro h
    rcases scanChunks_cases bytes with
      hended | ⟨raw, after, hraw, hsize, rfl⟩ | ⟨chunk, rest, hbytes⟩
    · rw [hended] at h
      obtain ⟨rest, h⟩ := h
      cases h
    · rw [scanChunks_some (cut_append hraw _)] at h
      by_cases hneg : chunkSizeOf (lineText raw) < 0
      · rw [if_pos hneg] at h
        obtain ⟨rest, h⟩ := h
        cases h
      · have hzero : chunkSizeOf (lineText raw) = 0 := by omega
        rw [if_neg hneg, if_pos hzero] at h
        exact .last hraw hzero ((scanSection_complete_iff after).mp h)
    · rw [hbytes, scanChunks_laxChunk] at h
      rw [hbytes]
      exact .chunk chunk ((scanChunks_complete_iff rest).mp h)
  · intro h
    induction h with
    | last hraw hsize h =>
      rw [scanChunks_some (cut_append hraw _), hsize, if_neg (by decide), if_pos rfl]
      exact (scanSection_complete_iff _).mpr h
    | chunk chunk _ ih =>
      rw [scanChunks_laxChunk]
      exact ih
termination_by bytes.length
decreasing_by
  rw [hbytes]
  exact chunk.length_wire rest

end HttpRequestClient.Http11
