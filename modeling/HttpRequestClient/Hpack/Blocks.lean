import HttpRequestClient.Hpack.DecoderCorrect

/-!
# Whole header blocks

The rounds of `decodeHeadersFrame` put together, for one block and for the
blocks of a connection.

* `decodeFields_fields`: a block of readable fields that the stream can
  store comes out as its fields, and the tables stay equal.
* `decodeFields_table`: with any number of fields, the table after the loop
  is that of the representations the loop has read, `readPart`.  A stream
  with a header buffer leaves the loop at the 65th field.
* `decodeBlocks_encoded`: the blocks of a conforming encoder, in order, on
  one context.
-/

namespace HttpRequestClient.Hpack

open Rfc7541

/-! ## Rounds -/

theorem repOctets_length_pos {rep : Representation} {octets : Bytes}
    (h : RepOctets shortForm rep octets) : 0 < octets.length := by
  cases rep with
  | sizeUpdate maxSize =>
    obtain ⟨x, rest, _, rfl⟩ := integerOctets_head h.1
    simp
  | indexed index =>
    obtain ⟨x, rest, _, rfl⟩ := integerOctets_head h.1
    simp
  | literal mode name value =>
    obtain ⟨head, string, hhead, _, rfl⟩ := h
    obtain ⟨x, rest, _, rfl⟩ := nameOctets_head hhead
    simp

theorem storeHeader_table (d : Decoding) (inserted : Bool) (header : ResponseHeader) :
    tableOf (storeHeader d inserted header).2.ctx = afterField (tableOf d.ctx) inserted header := by
  have htable : tableOf (if inserted then addToDynamicTable d.ctx header else d.ctx) =
      afterField (tableOf d.ctx) inserted header := by
    cases inserted with
    | true => exact addToDynamicTable_table d.ctx header
    | false => rfl
  rw [storeHeader]
  cases d.stream.headers with
  | none => exact htable
  | some headers =>
    simp only
    split
    · exact htable
    · exact htable

/-- A field that is not inserted leaves the table alone, whatever was read. -/
theorem afterField_congr {table : Table} {rep : Representation} {header field : HeaderField}
    (h : inserts rep = true → header = field) :
    afterField table (inserts rep) header = afterField table (inserts rep) field := by
  cases hins : inserts rep with
  | true => rw [h hins]
  | false => rfl

theorem decodeFields_done (payload : Bytes) (fuel : Nat) {d : Decoding}
    (h : payload.length ≤ d.pos) : decodeFields payload fuel d = d := by
  cases fuel with
  | zero => rfl
  | succ fuel => rw [decodeFields, if_neg (by omega)]

theorem decodeFields_round {payload : Bytes} {d next : Decoding} (fuel : Nat)
    (hpos : d.pos < payload.length) (h : decodeField payload d = (true, next)) :
    decodeFields payload (fuel + 1) d = decodeFields payload fuel next := by
  rw [decodeFields, if_pos hpos, h]

theorem pos_of_drop {payload octets : Bytes} {pos : Nat} (h : payload.drop pos = octets)
    (hpos : 0 < octets.length) : pos < payload.length := by
  have hlen := congrArg List.length h
  rw [List.length_drop] at hlen
  omega

/-! ## Fields -/

/-- The loop over the fields of a block, when the stream has room for all of
them. -/
theorem decodeFields_fields {payload : Bytes} {reps : List Representation} {octets : Bytes}
    (hblock : BlockOctets shortForm reps octets) :
    ∀ (fuel : Nat) (d : Decoding) (stored fields : List HeaderField) (table : Table),
      payload.drop d.pos = octets → octets.length ≤ fuel →
      d.stream.headers = some stored → stored.length + fields.length ≤ RESPONSE_HEADERS_MAX_SIZE →
      (tableOf d.ctx).run reps = some (table, fields) → (∀ rep ∈ reps, fieldReadable rep) →
      (decodeFields payload fuel d).stream =
          { d.stream with headers := some (stored ++ fields) } ∧
        tableOf (decodeFields payload fuel d).ctx = table := by
  induction hblock with
  | nil =>
    intro fuel d stored fields table hbuf _ hstored _ hrun _
    rw [Table.run, Option.some.injEq, Prod.mk.injEq] at hrun
    obtain ⟨rfl, rfl⟩ := hrun
    rw [decodeFields_done payload fuel (List.drop_eq_nil_iff.mp hbuf), List.append_nil, ← hstored]
    exact ⟨rfl, rfl⟩
  | @cons rep reps head tail hhead _ ih =>
    intro fuel d stored fields table hbuf hfuel hstored hroom hrun hclean
    obtain ⟨next, field, rest, hstep, hrest, rfl⟩ := Table.run_cons hrun
    have hlen := repOctets_length_pos hhead
    have hlt := pos_of_drop hbuf (by rw [List.length_append]; omega)
    have hround := decodeField_spec hhead hbuf hstep
    rw [List.length_append] at hfuel
    cases fuel with
    | zero => omega
    | succ fuel =>
      have hclean' : ∀ rep ∈ reps, fieldReadable rep :=
        fun rep hrep => hclean rep (List.mem_cons_of_mem _ hrep)
      cases field with
      | none =>
        obtain ⟨ctx, hfield, htable⟩ := hround
        rw [decodeFields_round fuel hlt hfield]
        exact ih fuel { d with ctx := ctx, pos := d.pos + head.length } stored rest table
          (drop_add_length hbuf) (by omega) hstored hroom (by rw [htable]; exact hrest) hclean'
      | some field =>
        obtain ⟨header, hfield, hread, htable⟩ := hround
        have hheader := hread (hclean rep List.mem_cons_self)
        subst hheader
        have hstore := storeHeader_table { d with pos := d.pos + head.length } (inserts rep) header
        rw [List.length_append, Option.toList_some, List.length_singleton] at hroom
        rw [storeHeader] at hfield hstore
        simp only [hstored] at hfield hstore
        rw [if_pos (by omega)] at hfield hstore
        rw [decodeFields_round fuel hlt hfield]
        have hih := ih fuel
          { d with
            ctx := if inserts rep then addToDynamicTable d.ctx header else d.ctx
            stream := { d.stream with headers := some (stored ++ [header]) }
            pos := d.pos + head.length }
          (stored ++ [header]) rest table (drop_add_length hbuf) (by omega) rfl
          (by rw [List.length_append, List.length_singleton]; omega)
          (by rw [hstore, ← htable]; exact hrest) hclean'
        rw [List.append_assoc] at hih
        exact hih

/-! ## The table after any number of fields -/

/-- The representations up to the `n`-th field. -/
def throughField : Nat → List Representation → List Representation
  | 0, _ => []
  | _ + 1, [] => []
  | n + 1, .sizeUpdate maxSize :: reps => .sizeUpdate maxSize :: throughField (n + 1) reps
  | n + 1, rep :: reps => rep :: throughField n reps

/-- The representations that the loop reads: all of them into a stream
without a header buffer, else those up to the field that finds the buffer
full. -/
def readPart (headers : Option (List ResponseHeader)) (reps : List Representation) :
    List Representation :=
  match headers with
  | none => reps
  | some stored => throughField (RESPONSE_HEADERS_MAX_SIZE + 1 - stored.length) reps

theorem readPart_nil (headers : Option (List ResponseHeader)) : readPart headers [] = [] := by
  unfold readPart
  split
  · rfl
  · unfold throughField
    split <;> trivial

theorem step_sizeUpdate {table next : Table} {rep : Representation}
    (h : table.step rep = some (next, none)) : ∃ maxSize, rep = .sizeUpdate maxSize := by
  cases rep with
  | sizeUpdate maxSize => exact ⟨maxSize, rfl⟩
  | indexed index => simp [Table.step] at h
  | literal mode name value => simp [Table.step] at h

theorem throughField_field {table next : Table} {rep : Representation} {field : HeaderField}
    (h : table.step rep = some (next, some field)) (n : Nat) (reps : List Representation) :
    throughField (n + 1) (rep :: reps) = rep :: throughField n reps := by
  cases rep with
  | sizeUpdate maxSize => simp [Table.step] at h
  | indexed index => rfl
  | literal mode name value => rfl

/-- A size update is read as long as the buffer is not overfull. -/
theorem readPart_sizeUpdate {headers : Option (List ResponseHeader)}
    (hroom : ∀ stored, headers = some stored → stored.length ≤ RESPONSE_HEADERS_MAX_SIZE)
    (maxSize : Nat) (reps : List Representation) :
    readPart headers (.sizeUpdate maxSize :: reps) =
      .sizeUpdate maxSize :: readPart headers reps := by
  cases headers with
  | none => rfl
  | some stored =>
    have hstored := hroom stored rfl
    obtain ⟨n, hn⟩ : ∃ n, RESPONSE_HEADERS_MAX_SIZE + 1 - stored.length = n + 1 :=
      ⟨RESPONSE_HEADERS_MAX_SIZE - stored.length, by omega⟩
    simp only [readPart, hn, throughField]

/-- A field that is stored takes one place of the buffer. -/
theorem readPart_stored {table next : Table} {rep : Representation} {field : HeaderField}
    (hstep : table.step rep = some (next, some field)) {stored : List ResponseHeader}
    (hfree : stored.length < RESPONSE_HEADERS_MAX_SIZE) (header : ResponseHeader)
    (reps : List Representation) :
    readPart (some stored) (rep :: reps) = rep :: readPart (some (stored ++ [header])) reps := by
  have hn : RESPONSE_HEADERS_MAX_SIZE + 1 - stored.length =
      RESPONSE_HEADERS_MAX_SIZE + 1 - (stored ++ [header]).length + 1 := by
    rw [List.length_append, List.length_singleton]
    omega
  simp only [readPart]
  rw [hn, throughField_field hstep]

/-- A field that finds the buffer full is the last one. -/
theorem readPart_full {table next : Table} {rep : Representation} {field : HeaderField}
    (hstep : table.step rep = some (next, some field)) {stored : List ResponseHeader}
    (hfull : stored.length = RESPONSE_HEADERS_MAX_SIZE) (reps : List Representation) :
    readPart (some stored) (rep :: reps) = [rep] := by
  have hn : RESPONSE_HEADERS_MAX_SIZE + 1 - stored.length = 0 + 1 := by omega
  simp only [readPart]
  rw [hn, throughField_field hstep, throughField]

/-- The loop over a block, with any number of fields.  Only strings that go
into the table have to be readable. -/
theorem decodeFields_table {payload : Bytes} {reps : List Representation} {octets : Bytes}
    (hblock : BlockOctets shortForm reps octets) :
    ∀ (fuel : Nat) (d : Decoding) (fields : List HeaderField) (table : Table),
      payload.drop d.pos = octets → octets.length ≤ fuel →
      (∀ stored, d.stream.headers = some stored → stored.length ≤ RESPONSE_HEADERS_MAX_SIZE) →
      (tableOf d.ctx).run reps = some (table, fields) →
      (∀ rep ∈ reps, inserts rep = true → fieldReadable rep) →
      (tableOf d.ctx).after (readPart d.stream.headers reps) =
        some (tableOf (decodeFields payload fuel d).ctx) := by
  induction hblock with
  | nil =>
    intro fuel d fields table hbuf _ _ _ _
    rw [decodeFields_done payload fuel (List.drop_eq_nil_iff.mp hbuf), readPart_nil]
    rfl
  | @cons rep reps head tail hhead _ ih =>
    intro fuel d fields table hbuf hfuel hroom hrun hclean
    obtain ⟨next, field, rest, hstep, hrest, rfl⟩ := Table.run_cons hrun
    have hlen := repOctets_length_pos hhead
    have hlt := pos_of_drop hbuf (by rw [List.length_append]; omega)
    have hround := decodeField_spec hhead hbuf hstep
    rw [List.length_append] at hfuel
    cases fuel with
    | zero => omega
    | succ fuel =>
      rw [decodeFields, if_pos hlt]
      have hclean' : ∀ rep ∈ reps, inserts rep = true → fieldReadable rep :=
        fun rep hrep => hclean rep (List.mem_cons_of_mem _ hrep)
      cases field with
      | none =>
        obtain ⟨ctx, hfield, rfl⟩ := hround
        obtain ⟨maxSize, rfl⟩ := step_sizeUpdate hstep
        rw [hfield, readPart_sizeUpdate hroom, Table.after_cons hstep]
        exact ih fuel { d with ctx := ctx, pos := d.pos + head.length } rest table
          (drop_add_length hbuf) (by omega) hroom hrest hclean'
      | some field =>
        obtain ⟨header, hfield, hread, htable⟩ := hround
        have hstore := storeHeader_table { d with pos := d.pos + head.length } (inserts rep) header
        rw [afterField_congr (fun hins => hread (hclean rep List.mem_cons_self hins)),
          ← htable] at hstore
        rw [hfield]
        rw [storeHeader] at hstore ⊢
        cases hheaders : d.stream.headers with
        | none =>
          simp only [hheaders] at hstore ⊢
          rw [readPart, Table.after_cons hstep, ← hstore]
          have hih := ih fuel
            { d with
              ctx := if inserts rep then addToDynamicTable d.ctx header else d.ctx
              pos := d.pos + head.length }
            rest table (drop_add_length hbuf) (by omega) hroom
            (by rw [hstore]; exact hrest) hclean'
          simp only [hheaders, readPart] at hih
          exact hih
        | some stored =>
          have hstored := hroom stored hheaders
          simp only [hheaders] at hstore ⊢
          split at hstore
          · rename_i hfree
            rw [if_pos hfree, readPart_stored hstep hfree header, Table.after_cons hstep, ← hstore]
            refine ih fuel
              { d with
                ctx := if inserts rep then addToDynamicTable d.ctx header else d.ctx
                stream := { d.stream with headers := some (stored ++ [header]) }
                pos := d.pos + head.length }
              rest table (drop_add_length hbuf) (by omega) ?_ (by rw [hstore]; exact hrest) hclean'
            intro stored' hstored'
            simp only [Option.some.injEq] at hstored'
            rw [← hstored', List.length_append, List.length_singleton]
            omega
          · -- the buffer is full: the field went into the table, and the loop ends
            rename_i hfull
            rw [if_neg hfull, readPart_full hstep (by omega), Table.after_cons hstep, ← hstore]
            rfl

/-! ## One block -/

theorem reps_of_nil {reps : List Representation} (h : BlockOctets shortForm reps []) :
    reps = [] := by
  generalize hoctets : ([] : Bytes) = octets at h
  cases h with
  | nil => rfl
  | cons hhead _ =>
    have hlen := repOctets_length_pos hhead
    have hnil := (List.append_eq_nil_iff.mp hoctets.symm).1
    rw [hnil] at hlen
    simp at hlen

/-- A block of readable fields on a stream with a header buffer.  The empty
block leaves the buffer as it is. -/
theorem decodeHeadersFrame_fields {stream : Stream} {ctx : HpackContext}
    {reps : List Representation} {octets : Bytes} {stored fields : List HeaderField}
    {table : Table} (hoctets : BlockOctets shortForm reps octets)
    (hrun : (tableOf ctx).run reps = some (table, fields))
    (hclean : ∀ rep ∈ reps, fieldReadable rep)
    (hfew : fields.length ≤ RESPONSE_HEADERS_MAX_SIZE) (hstored : stream.headers = some stored)
    (hempty : octets = [] → stored = []) :
    (decodeHeadersFrame stream octets ctx).1 = { stream with headers := some fields } ∧
      tableOf (decodeHeadersFrame stream octets ctx).2 = table := by
  rw [decodeHeadersFrame]
  split
  · rename_i hlen
    have hnil := List.length_eq_zero_iff.mp hlen
    rw [hnil] at hoctets
    rw [reps_of_nil hoctets, Table.run, Option.some.injEq, Prod.mk.injEq] at hrun
    rw [← hrun.1, ← hrun.2, ← hempty hnil, ← hstored]
    exact ⟨rfl, rfl⟩
  · obtain ⟨hstream, htable⟩ := decodeFields_fields hoctets octets.length
      { stream := { stream with headers := stream.headers.map (fun _ => []) }, ctx := ctx, pos := 0 }
      [] fields table rfl (Nat.le_refl _) (by rw [hstored]; rfl) (by simpa using hfew) hrun hclean
    exact ⟨hstream, htable⟩

/-- The table after a block with readable insertions is that of the
reference exactly when nothing behind the 65th field matters, or the stream
has no header buffer. -/
theorem decodeHeadersFrame_table_iff (stream : Stream) (ctx : HpackContext)
    (reps : List Representation) (octets : Bytes) (table : Table) (fields : List HeaderField)
    (hoctets : BlockOctets shortForm reps octets)
    (hrun : (tableOf ctx).run reps = some (table, fields))
    (hclean : ∀ rep ∈ reps, inserts rep = true → fieldReadable rep) :
    tableOf (decodeHeadersFrame stream octets ctx).2 = table ↔
      stream.headers = none ∨
        (tableOf ctx).after (throughField (RESPONSE_HEADERS_MAX_SIZE + 1) reps) = some table := by
  have hafter : (tableOf ctx).after reps = some table := by rw [Table.after, hrun]; rfl
  rw [decodeHeadersFrame]
  split
  · rename_i hlen
    rw [List.length_eq_zero_iff.mp hlen] at hoctets
    rw [reps_of_nil hoctets] at hafter ⊢
    exact iff_of_true (Option.some.inj hafter) (Or.inr hafter)
  · have hloop := decodeFields_table hoctets octets.length
      { stream := { stream with headers := stream.headers.map (fun _ => []) }, ctx := ctx, pos := 0 }
      fields table rfl (Nat.le_refl _)
      (by
        intro stored hstored
        rw [Option.map_eq_some_iff] at hstored
        obtain ⟨_, _, rfl⟩ := hstored
        exact Nat.zero_le _)
      hrun hclean
    simp only at hloop ⊢
    cases hheaders : stream.headers with
    | none =>
      rw [hheaders] at hloop
      simp only [Option.map_none, readPart] at hloop
      rw [hafter, Option.some.injEq] at hloop
      exact iff_of_true hloop.symm (Or.inl rfl)
    | some stored =>
      rw [hheaders] at hloop
      simp only [Option.map_some, readPart, List.length_nil, Nat.sub_zero] at hloop
      simp only [hloop, Option.some.injEq, reduceCtorEq, false_or, Option.map_some]

/-- A stream as `registerStream` leaves it: a header buffer and no error. -/
def freshStream : Stream := { Stream.scratch with headers := some [] }

/-- A context as a session starts with it. -/
def emptyContext : HpackContext := ⟨[], 0, 4096⟩

/-- The field `a: b` with incremental indexing. -/
def insertAB : Representation := .literal .incremental (.literal ⟨[97], false⟩) ⟨[98], false⟩

theorem insertAB_octets : RepOctets shortForm insertAB [0x40, 1, 97, 1, 98] := by
  have hone : ∀ c : UInt8, StringOctets shortForm ⟨[c], false⟩ [1, c] := fun c =>
    ⟨[1], ⟨Or.inl ⟨by simp, rfl⟩, by simp⟩, rfl⟩
  exact ⟨[0x40, 1, 97], [1, 98],
    ⟨[0x40], [1, 97], ⟨Or.inl ⟨by decide, by decide⟩, by simp⟩, hone 97, rfl⟩, hone 98, rfl⟩

theorem insertAB_readable : fieldReadable insertAB := by
  have hname : readable ⟨[97], false⟩ := by decide
  have hvalue : readable ⟨[98], false⟩ := by decide
  exact ⟨hname, hvalue⟩

theorem blockOctets_replicate {form : IntegerForm} {rep : Representation} {head : Bytes}
    (hhead : RepOctets form rep head) {reps : List Representation} {tail : Bytes}
    (htail : BlockOctets form reps tail) (n : Nat) :
    BlockOctets form (List.replicate n rep ++ reps) ((List.replicate n head).flatten ++ tail) := by
  induction n with
  | zero => exact htail
  | succ n ih =>
    rw [List.replicate_succ, List.replicate_succ, List.flatten_cons, List.cons_append,
      List.append_assoc]
    exact .cons hhead ih

/-- An insertion that is the 65th field, and a field that refers to it. -/
def lateInsertion : List Representation :=
  List.replicate 64 (.indexed 2) ++ [insertAB, .indexed 62]

def lateOctets : Bytes := List.replicate 64 0x82 ++ [0x40, 1, 97, 1, 98, 0xBE]

theorem lateInsertion_octets : BlockOctets shortForm lateInsertion lateOctets := by
  have hmethod : RepOctets shortForm (.indexed 2) [0x82] :=
    ⟨Or.inl ⟨by decide, by decide⟩, by simp⟩
  have hinserted : RepOctets shortForm (.indexed 62) [0xBE] :=
    ⟨Or.inl ⟨by decide, by decide⟩, by simp⟩
  exact blockOctets_replicate hmethod (.cons insertAB_octets (.cons hinserted .nil)) 64

theorem decodeHeadersFrame_table_iff_insertAB :
    tableOf (decodeHeadersFrame freshStream lateOctets emptyContext).2 =
        ⟨[⟨[97], [98]⟩], 4096⟩ ↔
      freshStream.headers = none ∨
        (tableOf emptyContext).after (throughField (RESPONSE_HEADERS_MAX_SIZE + 1) lateInsertion) =
          some ⟨[⟨[97], [98]⟩], 4096⟩ := by
  refine decodeHeadersFrame_table_iff freshStream emptyContext lateInsertion lateOctets
    ⟨[⟨[97], [98]⟩], 4096⟩ _ lateInsertion_octets rfl fun rep hrep hinserts => ?_
  rcases List.mem_append.mp hrep with hsame | hlast
  · rw [List.eq_of_mem_replicate hsame] at hinserts
    cases hinserts
  · rcases List.mem_cons.mp hlast with rfl | hlast
    · exact insertAB_readable
    · rw [List.mem_singleton.mp hlast] at hinserts
      cases hinserts

/-- An insertion behind 65 indexed fields is lost on a registered stream. -/
theorem decodeHeadersFrame_table_lost :
    BlockOctets shortForm (List.replicate 65 (.indexed 2) ++ [insertAB])
        (List.replicate 65 0x82 ++ [0x40, 1, 97, 1, 98]) ∧
      (tableOf emptyContext).after (List.replicate 65 (.indexed 2) ++ [insertAB]) =
        some ⟨[⟨[97], [98]⟩], 4096⟩ ∧
      tableOf (decodeHeadersFrame freshStream (List.replicate 65 0x82 ++ [0x40, 1, 97, 1, 98])
        emptyContext).2 = ⟨[], 4096⟩ := by
  have hindexed : RepOctets shortForm (.indexed 2) [0x82] :=
    ⟨Or.inl ⟨by decide, by decide⟩, by simp⟩
  exact ⟨blockOctets_replicate hindexed (.cons insertAB_octets .nil) 65, by decide +kernel,
    by decide +kernel⟩

/-! ## The blocks of a connection -/

/-- Decode blocks in order on one context, each into its stream. -/
def decodeBlocks : List (Stream × Bytes) → HpackContext → List Stream × HpackContext
  | [], ctx => ([], ctx)
  | (stream, payload) :: blocks, ctx =>
    let decoded := decodeHeadersFrame stream payload ctx
    let rest := decodeBlocks blocks decoded.2
    (decoded.1 :: rest.1, rest.2)

/-- A block of the peer: its representations, their octets, the fields they
mean, and the stream it arrives on. -/
structure EncodedBlock where
  stream : Stream
  reps : List Representation
  octets : Bytes
  fields : List HeaderField

def asciiLiteral (literal : StringLiteral) : Prop := ∀ c ∈ literal.octets, 0x01 ≤ c ∧ c ≤ 0x7F

instance (literal : StringLiteral) : Decidable (asciiLiteral literal) :=
  List.decidableBAll (fun c : UInt8 => 0x01 ≤ c ∧ c ≤ 0x7F) literal.octets

def asciiRep : Representation → Prop
  | .literal _ (.literal name) value => asciiLiteral name ∧ asciiLiteral value
  | .literal _ (.indexed _) value => asciiLiteral value
  | _ => True

/-- What an encoder with the table `table` may send under a table limit, and
its table afterwards. -/
structure ConformingBlock (form : IntegerForm) (limit : Nat) (table next : Table)
    (block : EncodedBlock) : Prop where
  octets : BlockOctets form block.reps block.octets
  run : table.run block.reps = some (next, block.fields)
  sizeUpdates : ∀ maxSize, .sizeUpdate maxSize ∈ block.reps → maxSize ≤ limit
  ascii : ∀ rep ∈ block.reps, asciiRep rep
  few : block.fields.length ≤ 64

/-- The blocks a conforming encoder sends one after the other. -/
inductive EncodedBlocks (form : IntegerForm) (limit : Nat) :
    Table → List EncodedBlock → Table → Prop where
  | nil {table : Table} : EncodedBlocks form limit table [] table
  | cons {table next last : Table} {block : EncodedBlock} {blocks : List EncodedBlock}
      (hblock : ConformingBlock form limit table next block)
      (htail : EncodedBlocks form limit next blocks last) :
      EncodedBlocks form limit table (block :: blocks) last

/-- A stream the block can be decoded into: it has a header buffer and no
error.  `decodeHeadersFrame` does not touch the buffer for an empty block,
so it has to be empty there. -/
def receives (stream : Stream) (octets : Bytes) : Prop :=
  stream.error = none ∧ ∃ stored, stream.headers = some stored ∧ (octets = [] → stored = [])

theorem not_misread_of_ascii {c : UInt8} (h : c ≤ 0x7F) : c.toNat < 246 ∧ c ∉ misreadOctets := by
  have hc : c.toNat ≤ 127 := h
  refine ⟨by omega, fun hmem => ?_⟩
  have hlow : ∀ d ∈ misreadOctets, 192 ≤ d.toNat := List.all_iff_forall_prop.mp (by decide)
  have := hlow c hmem
  omega

theorem readable_of_ascii {literal : StringLiteral} (h : asciiLiteral literal) :
    readable literal := by
  refine ⟨fun hzero => ?_, fun _ c hc => not_misread_of_ascii (h c hc).2⟩
  exact absurd (h 0 hzero).1 (by decide)

theorem fieldReadable_of_ascii {rep : Representation} (h : asciiRep rep) : fieldReadable rep := by
  cases rep with
  | sizeUpdate maxSize => trivial
  | indexed index => trivial
  | literal mode name value =>
    cases name with
    | indexed index => exact ⟨trivial, readable_of_ascii h⟩
    | literal name => exact ⟨readable_of_ascii h.1, readable_of_ascii h.2⟩

/-- The blocks of a conforming encoder come out as its header lists, without
an error, and the tables stay equal, whatever the table limit is.  Integers
take at most five continuation octets. -/
theorem decodeBlocks_encoded (limit : Nat) (ctx : HpackContext) (blocks : List EncodedBlock)
    (last : Table) (henc : EncodedBlocks minimalShortForm limit (tableOf ctx) blocks last)
    (hstreams : ∀ block ∈ blocks, receives block.stream block.octets) :
    let decoded := decodeBlocks (blocks.map (fun block => (block.stream, block.octets))) ctx
    decoded.1.map (fun stream => (stream.headers, stream.error)) =
        blocks.map (fun block => (some block.fields, none)) ∧
      tableOf decoded.2 = last := by
  induction blocks generalizing ctx with
  | nil =>
    cases henc
    exact ⟨rfl, rfl⟩
  | cons block blocks ih =>
    cases henc with
    | cons hblock htail =>
      obtain ⟨herror, stored, hstored, hempty⟩ := hstreams block List.mem_cons_self
      obtain ⟨hstream, htable⟩ := decodeHeadersFrame_fields
        (hblock.octets.mono (fun _ _ _ _ => shortForm_of_minimal)) hblock.run
        (fun rep hrep => fieldReadable_of_ascii (hblock.ascii rep hrep)) hblock.few hstored hempty
      rw [← htable] at htail
      obtain ⟨hrest, hlast⟩ := ih _ htail
        (fun b hb => hstreams b (List.mem_cons_of_mem _ hb))
      refine ⟨?_, hlast⟩
      simp only [List.map_cons, decodeBlocks, hstream, herror, List.cons.injEq, true_and]
      exact hrest

/-- Two blocks: the first inserts a field, the second refers to it. -/
def twoBlocks : List EncodedBlock := [
    ⟨freshStream, [insertAB], [0x40, 1, 97, 1, 98], [⟨[97], [98]⟩]⟩,
    ⟨freshStream, [.indexed 62], [0xBE], [⟨[97], [98]⟩]⟩
  ]

theorem decodeBlocks_encoded_two :
    (decodeBlocks (twoBlocks.map (fun block => (block.stream, block.octets))) emptyContext).1.map
        (fun stream => (stream.headers, stream.error)) =
          [(some [⟨[97], [98]⟩], none), (some [⟨[97], [98]⟩], none)] ∧
      tableOf (decodeBlocks (twoBlocks.map (fun block => (block.stream, block.octets)))
        emptyContext).2 = ⟨[⟨[97], [98]⟩], 4096⟩ := by
  have hone : ∀ c : UInt8, StringOctets minimalShortForm ⟨[c], false⟩ [1, c] := fun c =>
    ⟨[1], ⟨rfl, by simp⟩, rfl⟩
  have hinsert : RepOctets minimalShortForm insertAB [0x40, 1, 97, 1, 98] :=
    ⟨[0x40, 1, 97], [1, 98], ⟨[0x40], [1, 97], ⟨rfl, by simp⟩, hone 97, rfl⟩, hone 98, rfl⟩
  have hindexed : RepOctets minimalShortForm (.indexed 62) [0xBE] := ⟨rfl, by simp⟩
  have hfresh : ∀ octets, receives freshStream octets := fun _ => ⟨rfl, [], rfl, fun _ => rfl⟩
  have hname : asciiLiteral ⟨[97], false⟩ := by decide
  have hvalue : asciiLiteral ⟨[98], false⟩ := by decide
  exact decodeBlocks_encoded 4096 emptyContext twoBlocks ⟨[⟨[97], [98]⟩], 4096⟩
    (.cons ⟨.cons hinsert .nil, rfl, by simp [insertAB],
        fun rep hrep => by rw [List.mem_singleton.mp hrep]; exact ⟨hname, hvalue⟩, by decide⟩
      (.cons ⟨.cons hindexed .nil, rfl, by simp,
          fun rep hrep => by rw [List.mem_singleton.mp hrep]; trivial, by decide⟩ .nil))
    (by
      intro block hblock
      rcases List.mem_cons.mp hblock with rfl | htail
      · exact hfresh _
      · rw [List.mem_singleton.mp htail]; exact hfresh _)

/-! ## What decoding changes in a stream -/

/-- Only the error changes, and headers are added at the end. -/
def Extends (before after : Stream) : Prop :=
  ∃ more error, after =
    { before with headers := before.headers.map (· ++ more), error := error }

theorem Extends.withError (stream : Stream) (error : Option Error) :
    Extends stream { stream with error := error } := by
  refine ⟨[], error, ?_⟩
  cases stream.headers <;> simp

theorem Extends.refl (stream : Stream) : Extends stream stream :=
  Extends.withError stream stream.error

theorem Extends.trans {first second third : Stream} (h : Extends first second)
    (h' : Extends second third) : Extends first third := by
  obtain ⟨more, error, rfl⟩ := h
  obtain ⟨more', error', rfl⟩ := h'
  refine ⟨more ++ more', error', ?_⟩
  cases first.headers <;> simp

theorem storeHeader_extends (d : Decoding) (inserted : Bool) (header : ResponseHeader) :
    Extends d.stream (storeHeader d inserted header).2.stream := by
  rw [storeHeader]
  cases hheaders : d.stream.headers with
  | none => exact Extends.refl d.stream
  | some headers =>
    simp only
    split
    · exact ⟨[header], d.stream.error, by simp [hheaders]⟩
    · exact Extends.refl d.stream

theorem decodeLiteral_extends (payload : Bytes) (d : Decoding) (prefixSize : Nat)
    (inserted : Bool) :
    Extends d.stream (decodeLiteral payload d prefixSize inserted).2.stream := by
  rw [decodeLiteral]
  split
  · exact Extends.withError d.stream _
  · split
    · exact Extends.withError d.stream _
    · exact storeHeader_extends _ _ _

theorem decodeField_extends (payload : Bytes) (d : Decoding) :
    Extends d.stream (decodeField payload d).2.stream := by
  rw [decodeField]
  simp only
  split
  · exact Extends.refl d.stream
  · split
    · rw [decodeIndexed]
      simp only
      split
      · exact Extends.withError d.stream _
      · split
        · exact Extends.withError d.stream _
        · exact storeHeader_extends _ _ _
    · split <;> exact decodeLiteral_extends _ _ _ _

theorem decodeFields_extends (payload : Bytes) (fuel : Nat) :
    ∀ d : Decoding, Extends d.stream (decodeFields payload fuel d).stream := by
  induction fuel with
  | zero => exact fun d => Extends.refl d.stream
  | succ fuel ih =>
    intro d
    have hround := decodeField_extends payload d
    rw [decodeFields]
    split
    · split
      · rename_i next hnext
        rw [hnext] at hround
        exact hround.trans (ih next)
      · rename_i next hnext
        rw [hnext] at hround
        exact hround
    · exact Extends.refl d.stream

theorem decodeHeadersFrame_stream (stream : Stream) (payload : Bytes) (ctx : HpackContext) :
    ∃ headers error, (decodeHeadersFrame stream payload ctx).1 =
      { stream with headers := headers, error := error } := by
  rw [decodeHeadersFrame]
  split
  · exact ⟨stream.headers, stream.error, rfl⟩
  · obtain ⟨more, error, hstream⟩ := decodeFields_extends payload payload.length
      { stream := { stream with headers := stream.headers.map (fun _ => []) }, ctx := ctx, pos := 0 }
    exact ⟨_, error, hstream⟩

/-- A block with octets does not depend on the headers that were there. -/
theorem decodeHeadersFrame_clears (stream : Stream) (headers headers' : List ResponseHeader)
    {payload : Bytes} (h : payload ≠ []) (ctx : HpackContext) :
    decodeHeadersFrame { stream with headers := some headers } payload ctx =
      decodeHeadersFrame { stream with headers := some headers' } payload ctx := by
  have hlength : ¬payload.length = 0 := fun hzero => h (List.eq_nil_of_length_eq_zero hzero)
  rw [decodeHeadersFrame, decodeHeadersFrame, if_neg hlength, if_neg hlength]
  rfl

/-- The header buffer stays. -/
theorem decodeHeadersFrame_buffer {stream : Stream} {stored : List ResponseHeader}
    (h : stream.headers = some stored) (payload : Bytes) (ctx : HpackContext) :
    ∃ headers, (decodeHeadersFrame stream payload ctx).1.headers = some headers := by
  rw [decodeHeadersFrame]
  split
  · exact ⟨stored, h⟩
  · obtain ⟨more, error, hstream⟩ := decodeFields_extends payload payload.length
      { stream := { stream with headers := stream.headers.map (fun _ => []) }, ctx := ctx, pos := 0 }
    have hheaders := congrArg Stream.headers hstream
    rw [h] at hheaders
    rw [h]
    exact ⟨_, hheaders⟩

/-! ## What the loop reads of a stream -/

/-- The same place of a block, on streams with the same headers and error. -/
structure Decoding.Alike (d d' : Decoding) : Prop where
  headers : d'.stream.headers = d.stream.headers
  error : d'.stream.error = d.stream.error
  ctx : d'.ctx = d.ctx
  pos : d'.pos = d.pos

theorem Decoding.Alike.moved {d d' : Decoding} (h : d.Alike d') (pos : Nat) :
    ({ d with pos := pos } : Decoding).Alike { d' with ctx := d.ctx, pos := pos } :=
  ⟨h.headers, h.error, rfl, rfl⟩

theorem Decoding.Alike.failed {d d' : Decoding} (h : d.Alike d') : d.failed.Alike d'.failed :=
  ⟨h.headers, rfl, h.ctx, h.pos⟩

theorem storeHeader_alike {d d' : Decoding} (h : d.Alike d') (inserted : Bool)
    (header : ResponseHeader) :
    (storeHeader d' inserted header).1 = (storeHeader d inserted header).1 ∧
      (storeHeader d inserted header).2.Alike (storeHeader d' inserted header).2 := by
  simp only [storeHeader, h.headers, h.ctx]
  split
  · exact ⟨rfl, h.headers, h.error, rfl, h.pos⟩
  · split
    · exact ⟨rfl, rfl, h.error, rfl, h.pos⟩
    · exact ⟨rfl, h.headers, h.error, rfl, h.pos⟩

theorem decodeIndexed_alike (payload : Bytes) {d d' : Decoding} (h : d.Alike d') :
    (decodeIndexed payload d').1 = (decodeIndexed payload d).1 ∧
      (decodeIndexed payload d).2.Alike (decodeIndexed payload d').2 := by
  simp only [decodeIndexed, h.ctx, h.pos]
  split
  · exact ⟨rfl, (h.moved _).failed⟩
  · split
    · exact ⟨rfl, (h.moved _).failed⟩
    · exact storeHeader_alike (h.moved _) false _

theorem decodeLiteral_alike (payload : Bytes) {d d' : Decoding} (h : d.Alike d')
    (prefixSize : Nat) (inserted : Bool) :
    (decodeLiteral payload d' prefixSize inserted).1 =
        (decodeLiteral payload d prefixSize inserted).1 ∧
      (decodeLiteral payload d prefixSize inserted).2.Alike
        (decodeLiteral payload d' prefixSize inserted).2 := by
  simp only [decodeLiteral, h.ctx, h.pos]
  split
  · exact ⟨rfl, (h.moved _).failed⟩
  · split
    · exact ⟨rfl, (h.moved _).failed⟩
    · exact storeHeader_alike (h.moved _) inserted _

theorem decodeField_alike (payload : Bytes) {d d' : Decoding} (h : d.Alike d') :
    (decodeField payload d').1 = (decodeField payload d).1 ∧
      (decodeField payload d).2.Alike (decodeField payload d').2 := by
  simp only [decodeField, h.ctx, h.pos]
  split
  · exact ⟨rfl, h.headers, h.error, rfl, rfl⟩
  · split
    · exact decodeIndexed_alike payload h
    · split
      · exact decodeLiteral_alike payload h 6 true
      · exact decodeLiteral_alike payload h 4 false

theorem decodeFields_alike (payload : Bytes) (fuel : Nat) :
    ∀ {d d' : Decoding}, d.Alike d' →
      (decodeFields payload fuel d).Alike (decodeFields payload fuel d') := by
  induction fuel with
  | zero => exact fun h => h
  | succ fuel ih =>
    intro d d' h
    obtain ⟨hgoes, hround⟩ := decodeField_alike payload h
    rw [decodeFields, decodeFields, h.pos]
    split
    · generalize decodeField payload d = round at hgoes hround ⊢
      generalize decodeField payload d' = round' at hgoes hround ⊢
      obtain ⟨goes, next⟩ := round
      obtain ⟨goes', next'⟩ := round'
      cases hgoes
      cases goes with
      | true => exact ih hround
      | false => exact hround
    · exact h

/-- A block does the same to a stream with the same headers and error. -/
theorem decodeHeadersFrame_alike (stream stream' : Stream)
    (hheaders : stream'.headers = stream.headers) (herror : stream'.error = stream.error)
    (payload : Bytes) (ctx : HpackContext) :
    decodeHeadersFrame stream' payload ctx =
      ({ stream' with
          headers := (decodeHeadersFrame stream payload ctx).1.headers
          error := (decodeHeadersFrame stream payload ctx).1.error },
        (decodeHeadersFrame stream payload ctx).2) := by
  obtain ⟨headers, error, hstream⟩ := decodeHeadersFrame_stream stream' payload ctx
  rw [decodeHeadersFrame] at hstream
  rw [decodeHeadersFrame, decodeHeadersFrame]
  split
  · rw [← hheaders, ← herror]
  · rename_i hlength
    rw [if_neg hlength] at hstream
    have hstart : (Decoding.mk { stream with headers := stream.headers.map fun _ => [] } ctx 0).Alike
        (Decoding.mk { stream' with headers := stream'.headers.map fun _ => [] } ctx 0) :=
      ⟨by rw [hheaders], herror, rfl, rfl⟩
    have hend := decodeFields_alike payload payload.length hstart
    dsimp only at hstream ⊢
    rw [← hend.headers, ← hend.error, ← hend.ctx]
    refine Prod.ext ?_ rfl
    rw [hstream]

/-- The error of a stream is kept or is that of a broken block. -/
def MayFail (before after : Stream) : Prop :=
  after.error = before.error ∨ after.error = some ERR_RESPONSE_DECODING_HEADERS_FRAME_FAILED

theorem storeHeader_mayFail (d : Decoding) (inserted : Bool) (header : ResponseHeader) :
    MayFail d.stream (storeHeader d inserted header).2.stream := by
  rw [storeHeader]
  split
  · exact .inl rfl
  · dsimp only
    split <;> exact .inl rfl

theorem decodeLiteral_mayFail (payload : Bytes) (d : Decoding) (prefixSize : Nat)
    (inserted : Bool) :
    MayFail d.stream (decodeLiteral payload d prefixSize inserted).2.stream := by
  rw [decodeLiteral]
  split
  · exact .inr rfl
  · split
    · exact .inr rfl
    · exact storeHeader_mayFail _ _ _

theorem decodeField_mayFail (payload : Bytes) (d : Decoding) :
    MayFail d.stream (decodeField payload d).2.stream := by
  rw [decodeField]
  dsimp only
  split
  · exact .inl rfl
  · split
    · rw [decodeIndexed]
      dsimp only
      split
      · exact .inr rfl
      · split
        · exact .inr rfl
        · exact storeHeader_mayFail _ _ _
    · split <;> exact decodeLiteral_mayFail _ _ _ _

theorem decodeFields_mayFail (payload : Bytes) (fuel : Nat) :
    ∀ d : Decoding, MayFail d.stream (decodeFields payload fuel d).stream := by
  induction fuel with
  | zero => exact fun d => .inl rfl
  | succ fuel ih =>
    intro d
    have hround := decodeField_mayFail payload d
    rw [decodeFields]
    split
    · split
      · rename_i next hnext
        rw [hnext] at hround
        cases ih next with
        | inl hkept =>
          rw [MayFail, hkept]
          exact hround
        | inr hfailed => exact .inr hfailed
      · rename_i next hnext
        rw [hnext] at hround
        exact hround
    · exact .inl rfl

theorem decodeHeadersFrame_mayFail (stream : Stream) (payload : Bytes) (ctx : HpackContext) :
    MayFail stream (decodeHeadersFrame stream payload ctx).1 := by
  rw [decodeHeadersFrame]
  split
  · exact .inl rfl
  · exact decodeFields_mayFail payload payload.length _

/-! ## An integer of six continuation octets -/

/-- Continuation octets that add nothing, as many as the loop takes. -/
theorem decodeContinuation_zeros {buf post : Bytes} (fuel : Nat) :
    ∀ (value shift pos : Nat), 7 * fuel + shift = 35 →
      buf.drop pos = List.replicate fuel 128 ++ post →
      decodeContinuation buf fuel value shift pos = (value, pos + fuel) := by
  induction fuel with
  | zero => intro value shift pos _ _; rfl
  | succ fuel ih =>
    intro value shift pos hshift hbuf
    obtain ⟨hlt, hget, hrest⟩ := drop_eq_cons hbuf
    have hbits : (128 : UInt8).toNat &&& 0x7F = 0 ∧ (128 : UInt8).toNat &&& 0x80 ≠ 0 := by decide
    rw [decodeContinuation, if_neg (by omega)]
    simp only [hget, hbits.1, Nat.zero_shiftLeft, Nat.add_zero]
    split
    · have hzero : fuel = 0 := by omega
      rw [hzero]
    · rw [if_pos hbits.2, ih _ _ _ (by omega) hrest, Nat.add_assoc, Nat.add_comm 1 fuel]

theorem hpackHuffmanDecode_length_le (src : Bytes) :
    (hpackHuffmanDecode src).length ≤ 8 * src.length := by
  rw [hpackHuffmanDecode_eq_walk]
  calc (cstr (walk (BitString.ofBytes src))).length
      ≤ (walk (BitString.ofBytes src)).length := cstr_length_le _
    _ ≤ (BitString.ofBytes src).length := PrefixWalk.run_length_le
    _ = 8 * src.length := BitString.ofBytes_length src

/-- A length with six continuation octets: after five of them the decoder
takes 127 for it, and the string it reads is short. -/
theorem hpackDecodeString_long {buf post : Bytes} {pos : Nat} {b : UInt8} (hb : b = 127 ∨ b = 255)
    (hbuf : buf.drop pos = b :: (List.replicate 5 128 ++ post)) (hpost : 127 ≤ post.length) :
    ∃ text next, hpackDecodeString buf pos = (some text, next) ∧ text.length ≤ 1016 := by
  obtain ⟨hlt, hget, hrest⟩ := drop_eq_cons hbuf
  have hfirst : b.toNat &&& (2 ^ 7 - 1) = 2 ^ 7 - 1 := by rcases hb with rfl | rfl <;> decide
  have hlen : buf.length = pos + 6 + post.length := by
    have := congrArg List.length hbuf
    rw [List.length_drop, List.length_cons, List.length_append, List.length_replicate] at this
    omega
  have hint : hpackDecodeInteger buf pos 7 = (127, pos + 6) := by
    rw [hpackDecodeInteger, if_neg (by omega)]
    simp only [hget, hfirst, if_true]
    rw [decodeContinuation_zeros 5 _ 0 (pos + 1) (by omega) hrest]
    rfl
  rw [hpackDecodeString, if_neg (by omega), hint]
  simp only
  rw [if_neg (by omega)]
  refine ⟨_, _, rfl, ?_⟩
  have htext : ((buf.drop (pos + 6)).take 127).length ≤ 127 := List.length_take_le _ _
  split
  · have := hpackHuffmanDecode_length_le ((buf.drop (pos + 6)).take 127)
    omega
  · have := cstr_length_le ((buf.drop (pos + 6)).take 127)
    omega

/-- A literal field whose value has such a length: the first header of the
block has a short value. -/
theorem decodeHeadersFrame_long (stream : Stream) (ctx : HpackContext) (post : Bytes)
    {mode : Indexing} {name : FieldName} {head text : Bytes} {b : UInt8} (hb : b = 127 ∨ b = 255)
    (hhead : NameOctets shortForm mode name head)
    (hname : (tableOf ctx).fieldName name = some text) (hpost : 127 ≤ post.length)
    {stored : List ResponseHeader} (hstored : stream.headers = some stored) :
    ∃ header more,
      (decodeHeadersFrame stream (head ++ b :: (List.replicate 5 128 ++ post)) ctx).1.headers =
        some (header :: more) ∧ header.value.length ≤ 1016 := by
  generalize hpayload : head ++ b :: (List.replicate 5 128 ++ post) = payload
  have hbuf : payload.drop 0 = head ++ b :: (List.replicate 5 128 ++ post) := by
    rw [List.drop_zero, hpayload]
  have hlen : 0 < payload.length := by rw [← hpayload, List.length_append]; simp
  generalize hstart : ({ stream with headers := stream.headers.map (fun _ => []) } : Stream) = start
  have hheaders : start.headers = some [] := by rw [← hstart, hstored]; rfl
  obtain ⟨readName, hreadName, _⟩ := decodeName_spec hhead hbuf hname
  obtain ⟨value, next, hvalue, hshort⟩ := hpackDecodeString_long hb (drop_add_length hbuf) hpost
  have hround : decodeField payload ⟨start, ctx, 0⟩ =
      storeHeader ⟨start, ctx, next⟩ (inserts (.literal mode name ⟨[], false⟩)) ⟨readName, value⟩ := by
    rw [decodeField_literal hhead hbuf ⟨[], false⟩, decodeLiteral, hreadName]
    simp only [hvalue]
  rw [storeHeader] at hround
  simp only [hheaders, List.length_nil] at hround
  rw [if_pos (by decide)] at hround
  obtain ⟨d, hd, hfirst⟩ : ∃ d, decodeField payload ⟨start, ctx, 0⟩ = (true, d) ∧
      d.stream.headers = some [⟨readName, value⟩] := ⟨_, hround, rfl⟩
  obtain ⟨fuel, hfuel⟩ := Nat.exists_eq_succ_of_ne_zero (Nat.ne_of_gt hlen)
  obtain ⟨more, _, hmore⟩ := decodeFields_extends payload fuel d
  rw [decodeHeadersFrame, if_neg (by omega), hstart, hfuel]
  simp only
  rw [decodeFields_round fuel hlen hd, hmore]
  simp only [hfirst]
  exact ⟨⟨readName, value⟩, more, rfl, hshort⟩

/-- A field with a value of `2 ^ 35 + 127` octets. -/
def longBlock : EncodedBlock :=
  let value : Bytes := List.replicate (2 ^ 35 + 127) 97
  ⟨freshStream, [.literal .without (.literal ⟨[97], false⟩) ⟨value, false⟩],
    [0, 1, 97, 127, 128, 128, 128, 128, 128, 1] ++ value, [⟨[97], value⟩]⟩

theorem longBlock_conforming :
    ConformingBlock minimalForm 4096 (tableOf emptyContext) (tableOf emptyContext) longBlock := by
  unfold longBlock
  -- a variable in place of the value, which must never be evaluated
  generalize hvalue : (List.replicate (2 ^ 35 + 127) 97 : Bytes) = value
  have hlength : minimalForm 7 0 value.length [127, 128, 128, 128, 128, 128, 1] := by
    rw [← hvalue, List.length_replicate]
    simp [minimalForm, encodeInteger, encodeContinuation]
  have hrep : RepOctets minimalForm (.literal .without (.literal ⟨[97], false⟩) ⟨value, false⟩)
      ([0, 1, 97, 127, 128, 128, 128, 128, 128, 1] ++ value) :=
    ⟨[0, 1, 97], [127, 128, 128, 128, 128, 128, 1] ++ value,
      ⟨[0], [1, 97], rfl, ⟨[1], rfl, rfl⟩, rfl⟩, ⟨_, hlength, rfl⟩, rfl⟩
  have hascii : asciiLiteral ⟨value, false⟩ := by
    intro c hc
    rw [← hvalue] at hc
    rw [List.eq_of_mem_replicate hc]
    decide
  have hname : asciiLiteral ⟨[97], false⟩ := by decide
  have hblock := BlockOctets.cons hrep BlockOctets.nil
  rw [List.append_nil] at hblock
  exact ⟨hblock, rfl, by simp,
    fun rep hmem => by rw [List.mem_singleton.mp hmem]; exact ⟨hname, hascii⟩, by simp⟩

/-- With integers of any length the decoder reads another value. -/
theorem decodeBlocks_long :
    EncodedBlocks minimalForm 4096 (tableOf emptyContext) [longBlock] (tableOf emptyContext) ∧
      receives longBlock.stream longBlock.octets ∧
      (decodeBlocks [(longBlock.stream, longBlock.octets)] emptyContext).1.map Stream.headers ≠
        [some longBlock.fields] := by
  refine ⟨.cons longBlock_conforming .nil, ⟨rfl, [], rfl, fun _ => rfl⟩, ?_⟩
  unfold longBlock
  generalize hvalue : (List.replicate (2 ^ 35 + 127) 97 : Bytes) = value
  have hlen : value.length = 2 ^ 35 + 127 := by rw [← hvalue, List.length_replicate]
  have hname : NameOctets shortForm .without (.literal ⟨[97], false⟩) [0, 1, 97] :=
    ⟨[0], [1, 97], ⟨Or.inl ⟨by decide, rfl⟩, by simp⟩,
      ⟨[1], ⟨Or.inl ⟨by decide, rfl⟩, by simp⟩, rfl⟩, rfl⟩
  obtain ⟨header, more, hmore, hshort⟩ := decodeHeadersFrame_long freshStream emptyContext
    (1 :: value) (Or.inl rfl) hname rfl (by rw [List.length_cons]; omega) rfl
  intro heq
  simp only [decodeBlocks, List.map_cons, List.map_nil, List.cons.injEq, and_true] at heq
  have hsame := Option.some.inj (hmore.symm.trans heq)
  rw [List.cons.injEq] at hsame
  rw [hsame.1] at hshort
  simp only at hshort
  omega

end HttpRequestClient.Hpack
