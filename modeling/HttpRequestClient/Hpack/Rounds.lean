import HttpRequestClient.Hpack.Blocks
import HttpRequestClient.Lib.Runs

/-!
# The rounds of the header decoder

A round of `decodeHeadersFrame` reads one representation and acts on it.  What
it reads, `readingAt`, depends on the octets alone; what it does with it,
`stepReading`, on the tables and the stream.  So a block is a list of readings,
and the loop a run over them (`decodeFields_run`).

A reading is what the code takes the octets for.  An integer that is cut off
has the value of the octets that are there, and nothing in the reading says so.
-/

namespace HttpRequestClient.Hpack

open Runs

/-! ## Readings -/

/-- The name of a literal field: an index other than zero, or a string, none
when it does not fit the block. -/
inductive NameReading where
  | index (index : Nat)
  | string (text : Option Bytes)
  deriving DecidableEq

/-- A representation as a round reads it.  The value of a literal field is
none when it, or the name before it, does not fit the block. -/
inductive Reading where
  | sizeUpdate (maxSize : Nat)
  | indexed (index : Nat)
  | literal (inserted : Bool) (name : NameReading) (value : Option Bytes)
  deriving DecidableEq

def nameReadingAt (payload : Bytes) (pos prefixSize : Nat) : NameReading × Nat :=
  let (index, pos) := hpackDecodeInteger payload pos prefixSize
  if index > 0 then (.index index, pos)
  else
    let (text, pos) := hpackDecodeString payload pos
    (.string text, pos)

def literalAt (payload : Bytes) (pos prefixSize : Nat) (inserted : Bool) : Reading × Nat :=
  match nameReadingAt payload pos prefixSize with
  | (.string none, pos) => (.literal inserted (.string none) none, pos)
  | (name, pos) =>
    let (value, pos) := hpackDecodeString payload pos
    (.literal inserted name value, pos)

/-- The representation at a position, and the position after it. -/
def readingAt (payload : Bytes) (pos : Nat) : Reading × Nat :=
  let firstByte := payload.getD pos 0
  if firstByte &&& 0xE0 = 0x20 then
    let (maxSize, pos) := hpackDecodeInteger payload pos 5
    (.sizeUpdate maxSize, pos)
  else if firstByte &&& 0x80 ≠ 0 then
    let (index, pos) := hpackDecodeInteger payload pos 7
    (.indexed index, pos)
  else if firstByte &&& 0x40 ≠ 0 then literalAt payload pos 6 true
  else literalAt payload pos 4 false

/-- The representations from a position on. -/
def readingsFrom (payload : Bytes) : Nat → Nat → List Reading
  | 0, _ => []
  | fuel + 1, pos =>
    if pos < payload.length then
      (readingAt payload pos).1 :: readingsFrom payload fuel (readingAt payload pos).2
    else []

/-- The representations of a block. -/
def readings (payload : Bytes) : List Reading := readingsFrom payload payload.length 0

/-! ## What a round does -/

/-- The decoder between two rounds; the flag says whether the loop goes on. -/
structure Rounds where
  stream : Stream
  ctx : HpackContext
  going : Bool

def Rounds.failed (s : Rounds) (going : Bool) : Rounds :=
  { s with
    stream := { s.stream with error := some ERR_RESPONSE_DECODING_HEADERS_FRAME_FAILED }
    going := going }

/-- The end of a round. -/
def Rounds.store (s : Rounds) (inserted : Bool) (header : ResponseHeader) : Rounds :=
  let stored := storeHeader ⟨s.stream, s.ctx, 0⟩ inserted header
  ⟨stored.2.stream, stored.2.ctx, stored.1⟩

/-- The index is one of the static or the dynamic table. -/
def InTables (ctx : HpackContext) (index : Nat) : Prop :=
  0 < index ∧ index ≤ 61 + ctx.dynamicTable.length

instance (ctx : HpackContext) (index : Nat) : Decidable (InTables ctx index) :=
  inferInstanceAs (Decidable (_ ∧ _))

/-- A round on a representation. -/
def Rounds.act (s : Rounds) : Reading → Rounds
  | .sizeUpdate maxSize => { s with ctx := updateTableSize s.ctx maxSize }
  | .indexed index =>
    if InTables s.ctx index then s.store false (getHeaderFromTable index s.ctx)
    else s.failed true
  | .literal _ _ none => s.failed false
  | .literal _ (.string none) (some _) => s.failed false
  | .literal inserted (.index index) (some value) =>
    s.store inserted ⟨(getHeaderFromTable index s.ctx).name, value⟩
  | .literal inserted (.string (some name)) (some value) => s.store inserted ⟨name, value⟩

/-- Once the loop is left, the representations after it are not read. -/
def stepReading (s : Rounds) (reading : Reading) : Rounds :=
  if s.going then s.act reading else s

/-- The decoder before the first round: a block with octets clears the
headers of the stream. -/
def startRounds (stream : Stream) (payload : Bytes) (ctx : HpackContext) : Rounds where
  stream :=
    if payload.length = 0 then stream
    else { stream with headers := stream.headers.map (fun _ => []) }
  ctx := ctx
  going := true

theorem store_ctx (s : Rounds) (inserted : Bool) (header : ResponseHeader) :
    (s.store inserted header).ctx = if inserted then addToDynamicTable s.ctx header else s.ctx := by
  rw [Rounds.store, storeHeader]
  dsimp only
  split
  · rfl
  · split <;> rfl

/-- What a round does to the tables: a size update, an insertion or nothing. -/
theorem act_ctx (s : Rounds) (reading : Reading) :
    (∃ maxSize, reading = .sizeUpdate maxSize ∧
        (s.act reading).ctx = updateTableSize s.ctx maxSize) ∨
      (∀ maxSize, reading ≠ .sizeUpdate maxSize) ∧
        ((s.act reading).ctx = s.ctx ∨
          ∃ header, (s.act reading).ctx = addToDynamicTable s.ctx header) := by
  have hstore (inserted : Bool) (header : ResponseHeader) :
      (s.store inserted header).ctx = s.ctx ∨
        ∃ entry, (s.store inserted header).ctx = addToDynamicTable s.ctx entry := by
    rw [store_ctx]
    cases inserted with
    | true => exact Or.inr ⟨header, rfl⟩
    | false => exact Or.inl rfl
  cases reading with
  | sizeUpdate maxSize => exact Or.inl ⟨maxSize, rfl, rfl⟩
  | indexed index =>
    refine Or.inr ⟨fun maxSize heq => (by cases heq), ?_⟩
    rw [Rounds.act]
    split
    · exact hstore _ _
    · exact Or.inl rfl
  | literal inserted name value =>
    refine Or.inr ⟨fun maxSize heq => (by cases heq), ?_⟩
    cases value with
    | none => exact Or.inl rfl
    | some value =>
      cases name with
      | index index => exact hstore _ _
      | string text =>
        cases text with
        | none => exact Or.inl rfl
        | some text => exact hstore _ _

/-! ## The loop as a run -/

theorem staticTable_length : responseHeaderStaticTable.length = 62 := by decide

theorem storeHeader_at (stream : Stream) (ctx : HpackContext) (pos : Nat) (inserted : Bool)
    (header : ResponseHeader) :
    storeHeader ⟨stream, ctx, pos⟩ inserted header =
      ((storeHeader ⟨stream, ctx, 0⟩ inserted header).1,
        { (storeHeader ⟨stream, ctx, 0⟩ inserted header).2 with pos := pos }) := by
  rw [storeHeader, storeHeader]
  cases stream.headers with
  | none => rfl
  | some headers =>
    dsimp only
    split <;> rfl

/-- What the loop does on a representation, with the position after it. -/
def Rounds.toRound (s : Rounds) (pos : Nat) : Bool × Decoding :=
  (s.going, ⟨s.stream, s.ctx, pos⟩)

theorem store_toRound (stream : Stream) (ctx : HpackContext) (pos : Nat) (inserted : Bool)
    (header : ResponseHeader) :
    ((⟨stream, ctx, true⟩ : Rounds).store inserted header).toRound pos =
      storeHeader ⟨stream, ctx, pos⟩ inserted header := by
  rw [storeHeader_at stream ctx pos]
  rfl

theorem decodeIndexed_reading (payload : Bytes) (stream : Stream) (ctx : HpackContext)
    (pos : Nat) :
    decodeIndexed payload ⟨stream, ctx, pos⟩ =
      ((⟨stream, ctx, true⟩ : Rounds).act (.indexed (hpackDecodeInteger payload pos 7).1)).toRound
        (hpackDecodeInteger payload pos 7).2 := by
  rw [decodeIndexed, Rounds.act]
  dsimp only
  generalize (hpackDecodeInteger payload pos 7).1 = index
  generalize (hpackDecodeInteger payload pos 7).2 = next
  rw [staticTable_length]
  by_cases htables : InTables ctx index
  · obtain ⟨hpos, hle⟩ := id htables
    rw [if_pos htables, if_neg (by omega), if_neg (by omega), store_toRound]
  · rw [if_neg htables]
    rw [InTables] at htables
    split
    · rfl
    · rw [if_pos (by omega)]
      rfl

theorem decodeLiteral_reading (payload : Bytes) (stream : Stream) (ctx : HpackContext)
    (pos prefixSize : Nat) (inserted : Bool) :
    decodeLiteral payload ⟨stream, ctx, pos⟩ prefixSize inserted =
      ((⟨stream, ctx, true⟩ : Rounds).act
        (literalAt payload pos prefixSize inserted).1).toRound
          (literalAt payload pos prefixSize inserted).2 := by
  rw [decodeLiteral, decodeName, literalAt, nameReadingAt]
  dsimp only
  split
  · rename_i next hname
    split at hname
    · cases hname
    · rename_i hzero
      rw [if_neg hzero, hname]
      rfl
  · rename_i name next hname
    split at hname
    · rename_i hindex
      cases hname
      rw [if_pos hindex]
      dsimp only
      cases hpackDecodeString payload (hpackDecodeInteger payload pos prefixSize).2 with
      | mk value next =>
        cases value with
        | none => rfl
        | some value => exact (store_toRound _ _ _ _ _).symm
    · rename_i hzero
      rw [if_neg hzero, hname]
      dsimp only
      cases hpackDecodeString payload next with
      | mk value next =>
        cases value with
        | none => rfl
        | some value => exact (store_toRound _ _ _ _ _).symm

/-- A round reads the representation at its position and acts on it. -/
theorem decodeField_reading (payload : Bytes) (d : Decoding) :
    decodeField payload d =
      ((⟨d.stream, d.ctx, true⟩ : Rounds).act (readingAt payload d.pos).1).toRound
        (readingAt payload d.pos).2 := by
  rw [decodeField, readingAt]
  dsimp only
  split
  · rfl
  · split
    · exact decodeIndexed_reading payload d.stream d.ctx d.pos
    · split
      · exact decodeLiteral_reading payload d.stream d.ctx d.pos 6 true
      · exact decodeLiteral_reading payload d.stream d.ctx d.pos 4 false

theorem run_stopped {s : Rounds} (h : s.going = false) (list : List Reading) :
    run stepReading s list = s := by
  induction list with
  | nil => rfl
  | cons reading list ih =>
    rw [run_cons, stepReading, if_neg (by rw [h]; decide), ih]

/-- The loop is the run over what it reads. -/
theorem decodeFields_run (payload : Bytes) (fuel : Nat) :
    ∀ d : Decoding,
      (decodeFields payload fuel d).stream =
        (run stepReading ⟨d.stream, d.ctx, true⟩ (readingsFrom payload fuel d.pos)).stream ∧
      (decodeFields payload fuel d).ctx =
        (run stepReading ⟨d.stream, d.ctx, true⟩ (readingsFrom payload fuel d.pos)).ctx := by
  induction fuel with
  | zero => exact fun d => ⟨rfl, rfl⟩
  | succ fuel ih =>
    intro d
    rw [decodeFields, readingsFrom]
    split
    · rw [run_cons, stepReading, if_pos rfl, decodeField_reading, Rounds.toRound]
      generalize (⟨d.stream, d.ctx, true⟩ : Rounds).act (readingAt payload d.pos).1 = s
      obtain ⟨stream, ctx, going⟩ := s
      cases going with
      | true => exact ih ⟨stream, ctx, (readingAt payload d.pos).2⟩
      | false =>
        rw [run_stopped rfl]
        exact ⟨rfl, rfl⟩
    · exact ⟨rfl, rfl⟩

/-- A block is the run over its representations. -/
theorem decodeHeadersFrame_run (stream : Stream) (payload : Bytes) (ctx : HpackContext) :
    (decodeHeadersFrame stream payload ctx).1 =
        (run stepReading (startRounds stream payload ctx) (readings payload)).stream ∧
      (decodeHeadersFrame stream payload ctx).2 =
        (run stepReading (startRounds stream payload ctx) (readings payload)).ctx := by
  rw [decodeHeadersFrame, startRounds, readings]
  split
  · rename_i hempty
    rw [hempty, readingsFrom]
    exact ⟨rfl, rfl⟩
  · exact decodeFields_run payload payload.length
      ⟨{ stream with headers := stream.headers.map (fun _ => []) }, ctx, 0⟩

end HttpRequestClient.Hpack
