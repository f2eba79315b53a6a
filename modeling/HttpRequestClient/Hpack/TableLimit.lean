import HttpRequestClient.Hpack.Rounds
import HttpRequestClient.Session

/-!
# The size of the dynamic table

The header blocks of a session are decoded on one context, so the table after
a field depends on all the fields before it.  `stepDecoder` runs the blocks of
a session field by field, and comes to the context that they leave
(`decodeBlocks_run`).

The entries never take more than the maximum of the context.  The maximum
itself is what the peer says in a size update: the advertised size, which
`initHpackContext` starts from, is not kept, and nothing compares the two
(`table_kept_iff`).
-/

namespace HttpRequestClient.Hpack

open Runs Rfc7541

/-! ## The entries fit the maximum -/

theorem totalSize_fitting (entries : List HpackTableEntry) :
    ∀ room : Nat, totalSize (fitting room entries) ≤ room := by
  induction entries with
  | nil =>
    intro room
    exact Nat.zero_le room
  | cons entry entries ih =>
    intro room
    rw [fitting]
    split
    · have hrest := ih (room - entrySize entry)
      have hsize : hpackEntrySize entry = entrySize entry := rfl
      rw [totalSize, List.map_cons, List.sum_cons, hsize]
      rw [totalSize] at hrest
      omega
    · exact Nat.zero_le room

/-- The entries fit the maximum size. -/
def TableFits (ctx : HpackContext) : Prop :=
  hpackDynamicTableUsedSize ctx ≤ ctx.dynamicTableMaxSize

instance (ctx : HpackContext) : Decidable (TableFits ctx) :=
  inferInstanceAs (Decidable (_ ≤ _))

theorem tableFits_iff (ctx : HpackContext) :
    TableFits ctx ↔ totalSize (tableOf ctx).entries ≤ (tableOf ctx).maxSize := Iff.rfl

/-- A size update sets the maximum and leaves entries that fit it. -/
theorem updateTableSize_fits (ctx : HpackContext) (maxSize : Nat) :
    TableFits (updateTableSize ctx maxSize) ∧
      (updateTableSize ctx maxSize).dynamicTableMaxSize = maxSize := by
  have htable := updateTableSize_table ctx maxSize
  constructor
  · rw [tableFits_iff, htable, Table.resize]
    exact totalSize_fitting _ _
  · exact congrArg Table.maxSize htable

/-- An insertion keeps the maximum, and the entries fit it. -/
theorem addToDynamicTable_fits (ctx : HpackContext) (entry : HpackTableEntry) :
    TableFits (addToDynamicTable ctx entry) ∧
      (addToDynamicTable ctx entry).dynamicTableMaxSize = ctx.dynamicTableMaxSize := by
  have htable := addToDynamicTable_table ctx entry
  have hmax : (tableOf (addToDynamicTable ctx entry)).maxSize = ctx.dynamicTableMaxSize := by
    rw [htable, Table.insert]
    split <;> rfl
  refine ⟨?_, hmax⟩
  rw [tableFits_iff, hmax, htable, Table.insert]
  split
  · rename_i hfits
    have hrest := totalSize_fitting (tableOf ctx).entries
      ((tableOf ctx).maxSize - entrySize entry)
    have hsize : hpackEntrySize entry = entrySize entry := rfl
    have hroom : (tableOf ctx).maxSize = ctx.dynamicTableMaxSize := rfl
    rw [totalSize, List.map_cons, List.sum_cons, hsize]
    rw [totalSize] at hrest
    omega
  · exact Nat.zero_le _

/-! ## The blocks of a session -/

inductive DecoderEvent where
  /-- The decoder starts on a block, for a stream. -/
  | block (stream : Stream) (payload : Bytes)
  /-- A round of its loop. -/
  | field (reading : Reading)

/-- The context stays from block to block. -/
def stepDecoder (s : Rounds) : DecoderEvent → Rounds
  | .block stream payload => startRounds stream payload s.ctx
  | .field reading => stepReading s reading

/-- The context of a new session. -/
def initHpackContext (headerTableSize : Nat) : HpackContext :=
  (initSession headerTableSize).hpackCtx

/-- A context on which no block has been decoded. -/
def startDecoder (ctx : HpackContext) : Rounds := ⟨Stream.scratch, ctx, false⟩

/-- A block and its fields. -/
def blockEvents (block : Stream × Bytes) : List DecoderEvent :=
  .block block.1 block.2 :: (readings block.2).map .field

def decoderEvents (blocks : List (Stream × Bytes)) : List DecoderEvent :=
  blocks.flatMap blockEvents

theorem run_fields (s : Rounds) (list : List Reading) :
    run stepDecoder s (list.map .field) = run stepReading s list := by
  induction list generalizing s with
  | nil => rfl
  | cons reading list ih => exact ih (stepReading s reading)

/-- The run ends with the context that the blocks leave. -/
theorem decodeBlocks_run (blocks : List (Stream × Bytes)) (s : Rounds) :
    (decodeBlocks blocks s.ctx).2 = (run stepDecoder s (decoderEvents blocks)).ctx := by
  induction blocks generalizing s with
  | nil => rfl
  | cons block blocks ih =>
    obtain ⟨stream, payload⟩ := block
    have hblock : run stepDecoder s (blockEvents (stream, payload)) =
        run stepReading (startRounds stream payload s.ctx) (readings payload) :=
      run_fields _ _
    rw [decodeBlocks, decoderEvents, List.flatMap_cons, run_append, hblock,
      (decodeHeadersFrame_run stream payload s.ctx).2]
    exact ih _

/-! ## The limit -/

/-- The entries fit the maximum, and the maximum is within the limit. -/
def TableKept (limit : Nat) (ctx : HpackContext) : Prop :=
  TableFits ctx ∧ ctx.dynamicTableMaxSize ≤ limit

/-- The decoder does not come to a size update over the limit. -/
def UpdateInLimit (limit : Nat) (s : Rounds) : DecoderEvent → Prop
  | .field (.sizeUpdate maxSize) => s.going = true → maxSize ≤ limit
  | _ => True

theorem act_kept {limit : Nat} {s : Rounds} (reading : Reading) (hgoing : s.going = true)
    (h : TableKept limit s.ctx) :
    TableKept limit (s.act reading).ctx ↔ UpdateInLimit limit s (.field reading) := by
  rcases act_ctx s reading with ⟨maxSize, rfl, hctx⟩ | ⟨hother, hctx⟩
  · have hupdate := updateTableSize_fits s.ctx maxSize
    rw [TableKept, hctx, hupdate.2]
    exact ⟨fun hkept _ => hkept.2, fun hle => ⟨hupdate.1, hle hgoing⟩⟩
  · have hkept : TableKept limit (s.act reading).ctx := by
      rcases hctx with hctx | ⟨header, hctx⟩
      · rw [hctx]
        exact h
      · have hadd := addToDynamicTable_fits s.ctx header
        rw [TableKept, hctx, hadd.2]
        exact ⟨hadd.1, h.2⟩
    refine iff_of_true hkept ?_
    cases reading with
    | sizeUpdate maxSize => exact absurd rfl (hother maxSize)
    | indexed index => trivial
    | literal inserted name value => trivial

theorem stepDecoder_kept {limit : Nat} {s : Rounds} (event : DecoderEvent)
    (h : TableKept limit s.ctx) :
    TableKept limit (stepDecoder s event).ctx ↔ UpdateInLimit limit s event := by
  cases event with
  | block stream payload => exact iff_of_true h trivial
  | field reading =>
    rw [stepDecoder, stepReading]
    cases hgoing : s.going with
    | true =>
      rw [if_pos rfl]
      exact act_kept reading hgoing h
    | false =>
      rw [if_neg (by decide)]
      refine iff_of_true h ?_
      cases reading with
      | sizeUpdate maxSize =>
        intro hgoing'
        rw [hgoing] at hgoing'
        cases hgoing'
      | indexed index => trivial
      | literal inserted name value => trivial

/-- Between any two fields of any blocks the table is within the size that
the session advertised, if and only if no size update that the decoder comes to
is over it. -/
theorem table_kept_iff (headerTableSize : Nat) (blocks : List (Stream × Bytes)) :
    let ctx := initHpackContext headerTableSize
    let limit := ctx.dynamicTableMaxSize
    (∀ n, TableKept limit
        (run stepDecoder (startDecoder ctx) ((decoderEvents blocks).take n)).ctx) ↔
      Meets stepDecoder (UpdateInLimit limit) (startDecoder ctx) (decoderEvents blocks) := by
  intro ctx limit
  apply meets_iff_forall_take (fun s : Rounds => TableKept limit s.ctx)
    (fun s : Rounds => TableKept limit s.ctx)
  · intro s event hkept hok
    exact (stepDecoder_kept event hkept).mpr hok
  · exact fun s hkept => hkept
  · intro s event hkept hgood
    exact (stepDecoder_kept event hkept).mp hgood
  · exact ⟨Nat.zero_le _, Nat.le_refl _⟩

/-- A peer that is told 4096 and says 4097. -/
theorem table_kept_larger_update :
    ¬∀ (headerTableSize : Nat) (blocks : List (Stream × Bytes)) (n : Nat),
      TableKept (initHpackContext headerTableSize).dynamicTableMaxSize
        (run stepDecoder (startDecoder (initHpackContext headerTableSize))
          ((decoderEvents blocks).take n)).ctx := by
  intro h
  have hmax := (h 4096 [(Stream.scratch, [0x3F, 0xE2, 0x1F])] 2).2
  revert hmax
  decide +kernel

end HttpRequestClient.Hpack
