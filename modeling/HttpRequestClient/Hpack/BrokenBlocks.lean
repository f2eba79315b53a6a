import HttpRequestClient.Hpack.Rounds

/-!
# Blocks that are not well formed

What `decodeHeadersFrame` does with a block that no encoder of RFC 7541
writes: an index that is not in the tables, an integer that is cut off or goes
on past five octets, a string longer than the rest of the block.

Two rounds fail: an indexed field whose index is not in the tables, and a
literal field whose strings do not fit (`act_error`).  The other defects pass.
An integer that is cut off, or that goes on past five octets, is taken for the
value of the octets that are read, and a name index that is not in the tables
gives the name "error".

What a literal field stands for is said by the RFC alone: its strings are the
octets that are written there, raw or with the code words of Appendix B.  The
client gets them if and only if they are readable (`readingAt_spec`), so a
literal field is stored as it stands if and only if it `ReadsRight`
(`denotes_iff`).  Behind the last header that the stream has room for nothing
is read at all.

`rejects_iff` puts the rounds together.
-/

namespace HttpRequestClient.Hpack

open Runs Rfc7541

/-! ## What a rejected block is -/

/-- A block of RFC 7541 for the tables of a context.  Its integers have at
most five continuation octets, and its indices are in the tables. -/
def WellFormed (payload : Bytes) (ctx : HpackContext) : Prop :=
  ∃ reps table fields, BlockOctets shortForm reps payload ∧
    (tableOf ctx).run reps = some (table, fields)

/-- The round adds the header to the stream. -/
def Adds (s : Rounds) (reading : Reading) (header : ResponseHeader) : Prop :=
  ∃ headers, s.stream.headers = some headers ∧
    (stepReading s reading).stream.headers = some (headers ++ [header])

/-- The position of the n-th representation that is read from `pos` on. -/
def positionFrom (payload : Bytes) : Nat → Nat → Nat
  | pos, 0 => pos
  | pos, n + 1 => positionFrom payload (readingAt payload pos).2 n

/-- The literal field that the block has at a position: behind
representations of the RFC, and one itself. -/
def FieldAt (payload : Bytes) (pos : Nat) (mode : Indexing) (name : FieldName)
    (value : StringLiteral) : Prop :=
  (∃ reps, BlockOctets shortForm reps (payload.take pos)) ∧
    ∃ octets post, payload.drop pos = octets ++ post ∧
      RepOctets shortForm (.literal mode name value) octets

/-- The header that the representation at a position stands for: an entry of
the tables, or the literal field that the block has there. -/
def Denotes (ctx : HpackContext) (payload : Bytes) (pos : Nat) :
    Reading → ResponseHeader → Prop
  | .sizeUpdate _, _ => False
  | .indexed _, header => ∃ index, (tableOf ctx).lookup index = some header
  | .literal _ _ _, header =>
    ∃ mode name value, FieldAt payload pos mode name value ∧
      (tableOf ctx).fieldName name = some header.name ∧ value.octets = header.value

/-- The decoder before a round of the block. -/
def roundsBefore (stream : Stream) (payload : Bytes) (ctx : HpackContext) (n : Nat) : Rounds :=
  run stepReading (startRounds stream payload ctx) ((readings payload).take n)

/-- The stream has an error, and got no header but those the block and the
tables have. -/
def Rejects (stream : Stream) (payload : Bytes) (ctx : HpackContext) : Prop :=
  (decodeHeadersFrame stream payload ctx).1.error ≠ none ∧
    ∀ n reading header, (readings payload)[n]? = some reading →
      Adds (roundsBefore stream payload ctx n) reading header →
      Denotes (roundsBefore stream payload ctx n).ctx payload (positionFrom payload 0 n) reading
        header

/-! ## Rounds that fail and names that are made up -/

/-- An indexed field that is not in the tables, or a literal field with a
string that does not fit the block. -/
def Fails (ctx : HpackContext) : Reading → Prop
  | .sizeUpdate _ => False
  | .indexed index => ¬InTables ctx index
  | .literal _ name value => name = .string none ∨ value = none

/-- A literal field that is read as it stands in the block: one of the RFC,
with a name index of the tables and with readable strings. -/
def ReadsRight (ctx : HpackContext) (payload : Bytes) (pos : Nat) : Prop :=
  ∃ mode name value, FieldAt payload pos mode name value ∧
    ((tableOf ctx).fieldName name).isSome ∧ nameReadable name ∧ readable value

/-- A literal field that is stored and is not read as it stands. -/
def MadeUp (ctx : HpackContext) (payload : Bytes) (pos : Nat) : Reading → Prop
  | .literal _ (.index _) (some _) => ¬ReadsRight ctx payload pos
  | .literal _ (.string (some _)) (some _) => ¬ReadsRight ctx payload pos
  | _ => False

def HasRoom (stream : Stream) : Prop :=
  ∃ headers, stream.headers = some headers ∧ headers.length < RESPONSE_HEADERS_MAX_SIZE

theorem lookup_of_inTables {ctx : HpackContext} {index : Nat} (h : InTables ctx index) :
    (tableOf ctx).lookup index = some (getHeaderFromTable index ctx) := by
  obtain ⟨hpos, hle⟩ := h
  have hstatic : staticTable.length = 61 := rfl
  have hfound : ∃ field, (tableOf ctx).lookup index = some field := by
    rw [Table.lookup, if_neg (by omega)]
    split
    · rw [List.getElem?_eq_getElem (by omega), Option.map_some]
      exact ⟨_, rfl⟩
    · have hlt : index - 62 < (tableOf ctx).entries.length := by
        show index - 62 < ctx.dynamicTable.length
        omega
      exact ⟨_, List.getElem?_eq_getElem hlt⟩
  obtain ⟨field, hfield⟩ := hfound
  rw [getHeaderFromTable_of_lookup hfield, hfield]

theorem inTables_of_lookup {ctx : HpackContext} {index : Nat} {field : HeaderField}
    (h : (tableOf ctx).lookup index = some field) : InTables ctx index := by
  rw [Table.lookup] at h
  split at h
  · cases h
  · split at h
    · exact ⟨by omega, by omega⟩
    · have hlt : index - 62 < ctx.dynamicTable.length := (List.getElem?_eq_some_iff.mp h).1
      exact ⟨by omega, by omega⟩

theorem store_error (s : Rounds) (inserted : Bool) (header : ResponseHeader) :
    (s.store inserted header).stream.error = s.stream.error := by
  rw [Rounds.store, storeHeader]
  dsimp only
  split
  · rfl
  · split <;> rfl

theorem store_headers (s : Rounds) (inserted : Bool) (header : ResponseHeader) :
    (∃ headers, s.stream.headers = some headers ∧ headers.length < RESPONSE_HEADERS_MAX_SIZE ∧
      (s.store inserted header).stream.headers = some (headers ++ [header])) ∨
      ¬HasRoom s.stream ∧ (s.store inserted header).stream.headers = s.stream.headers := by
  rw [Rounds.store, storeHeader]
  dsimp only
  cases hheaders : s.stream.headers with
  | none =>
    refine Or.inr ⟨fun hroom => ?_, hheaders⟩
    obtain ⟨headers, hsome, -⟩ := hroom
    rw [hheaders] at hsome
    cases hsome
  | some headers =>
    dsimp only
    split
    · rename_i hroom
      exact Or.inl ⟨headers, rfl, hroom, rfl⟩
    · rename_i hfull
      refine Or.inr ⟨fun hroom => ?_, hheaders⟩
      obtain ⟨headers', hsome, hroom⟩ := hroom
      rw [hheaders, Option.some.injEq] at hsome
      subst hsome
      exact hfull hroom

/-- A round sets the error if and only if it fails. -/
theorem act_error (s : Rounds) (reading : Reading) :
    (s.act reading).stream.error ≠ none ↔ s.stream.error ≠ none ∨ Fails s.ctx reading := by
  have hfailed (going : Bool) : (s.failed going).stream.error ≠ none := Option.some_ne_none _
  cases reading with
  | sizeUpdate maxSize => exact ⟨Or.inl, fun h => h.resolve_right id⟩
  | indexed index =>
    rw [Rounds.act, Fails]
    split
    · rename_i htables
      rw [store_error]
      exact ⟨Or.inl, fun h => h.resolve_right (fun hnot => hnot htables)⟩
    · rename_i hnot
      exact iff_of_true (hfailed true) (Or.inr hnot)
  | literal inserted name value =>
    cases value with
    | none => exact iff_of_true (hfailed false) (Or.inr (Or.inr rfl))
    | some value =>
      cases name with
      | index index =>
        rw [Rounds.act, store_error]
        exact ⟨Or.inl, fun h => h.resolve_right (by simp [Fails])⟩
      | string text =>
        cases text with
        | none => exact iff_of_true (hfailed false) (Or.inr (Or.inl rfl))
        | some text =>
          rw [Rounds.act, store_error]
          exact ⟨Or.inl, fun h => h.resolve_right (by simp [Fails])⟩

theorem not_adds {s : Rounds} {reading : Reading} {header : ResponseHeader}
    (h : (stepReading s reading).stream.headers = s.stream.headers) : ¬Adds s reading header := by
  rintro ⟨headers, hheaders, hadded⟩
  rw [h, hheaders, Option.some.injEq] at hadded
  have hlength := congrArg List.length hadded
  rw [List.length_append, List.length_singleton] at hlength
  omega

/-- A round that stores a header adds it when there is room, and no other. -/
theorem adds_store {s : Rounds} {reading : Reading} {inserted : Bool} {stored : ResponseHeader}
    (h : stepReading s reading = s.store inserted stored) (header : ResponseHeader) :
    Adds s reading header ↔ HasRoom s.stream ∧ header = stored := by
  rcases store_headers s inserted stored with ⟨headers, hheaders, hroom, hadded⟩ | ⟨hfull, hkept⟩
  · constructor
    · rintro ⟨headers', hheaders', hadded'⟩
      rw [hheaders, Option.some.injEq] at hheaders'
      subst hheaders'
      rw [h, hadded, Option.some.injEq] at hadded'
      have hlast := List.append_cancel_left hadded'
      rw [List.cons.injEq] at hlast
      exact ⟨⟨headers, hheaders, hroom⟩, hlast.1.symm⟩
    · rintro ⟨_, rfl⟩
      exact ⟨headers, hheaders, by rw [h, hadded]⟩
  · refine iff_of_false (not_adds ?_) (fun hboth => hfull hboth.1)
    rw [h, hkept]

/-! ## What a literal field is read as -/

/-- The reading of a name: its index, or a string that is right if and only if
it is readable. -/
def NameReadAs : FieldName → NameReading → Prop
  | .indexed index, reading => reading = .index index
  | .literal literal, reading =>
    ∃ text, reading = .string (some text) ∧ (text = literal.octets ↔ readable literal)

/-- The reading of a representation of the RFC. -/
def ReadAs : Representation → Reading → Prop
  | .sizeUpdate maxSize, reading => reading = .sizeUpdate maxSize
  | .indexed index, reading => reading = .indexed index
  | .literal _ name value, reading =>
    ∃ inserted nameReading text, reading = .literal inserted nameReading (some text) ∧
      NameReadAs name nameReading ∧ (text = value.octets ↔ readable value)

theorem nameReadingAt_spec {payload octets post : Bytes} {pos : Nat} {mode : Indexing}
    {name : FieldName} (h : NameOctets shortForm mode name octets)
    (hpayload : payload.drop pos = octets ++ post) :
    ∃ reading, nameReadingAt payload pos mode.pattern.2 = (reading, pos + octets.length) ∧
      NameReadAs name reading := by
  have hfit : mode.pattern.1 * 2 ^ mode.pattern.2 + 2 ^ mode.pattern.2 ≤ 256 := by
    cases mode <;> decide
  rw [nameReadingAt]
  cases name with
  | indexed index =>
    refine ⟨.index index, ?_, rfl⟩
    rw [hpackDecodeInteger_spec hfit h.2 hpayload]
    dsimp only
    rw [if_pos h.1]
  | literal literal =>
    obtain ⟨zero, string, hzero, hstring, rfl⟩ := h
    rw [List.append_assoc] at hpayload
    obtain ⟨text, htext, hright⟩ := hpackDecodeString_spec hstring (drop_add_length hpayload)
    refine ⟨.string (some text), ?_, text, rfl, hright⟩
    rw [hpackDecodeInteger_spec hfit hzero hpayload]
    dsimp only
    rw [if_neg (by decide), htext, List.length_append, Nat.add_assoc]

theorem literalAt_spec {payload octets post : Bytes} {pos : Nat} {mode : Indexing}
    {name : FieldName} {value : StringLiteral} (inserted : Bool)
    (h : RepOctets shortForm (.literal mode name value) octets)
    (hpayload : payload.drop pos = octets ++ post) :
    ReadAs (.literal mode name value) (literalAt payload pos mode.pattern.2 inserted).1 := by
  obtain ⟨head, string, hhead, hstring, rfl⟩ := h
  rw [List.append_assoc] at hpayload
  obtain ⟨text, htext, hright⟩ := hpackDecodeString_spec hstring (drop_add_length hpayload)
  obtain ⟨reading, hreading, hname⟩ := nameReadingAt_spec hhead hpayload
  refine ⟨inserted, reading, text, ?_, hname, hright⟩
  cases name with
  | indexed index =>
    rw [NameReadAs] at hname
    rw [literalAt, hreading, hname]
    dsimp only
    rw [htext]
  | literal literal =>
    obtain ⟨nameText, rfl, _⟩ := hname
    rw [literalAt, hreading]
    dsimp only
    rw [htext]

/-- A representation of the RFC is read as what it is, and its strings right
if and only if they are readable. -/
theorem readingAt_spec {payload octets post : Bytes} {rep : Representation} {pos : Nat}
    (h : RepOctets shortForm rep octets) (hpayload : payload.drop pos = octets ++ post) :
    ReadAs rep (readingAt payload pos).1 := by
  rw [readingAt]
  cases rep with
  | sizeUpdate maxSize =>
    obtain ⟨x, rest, hx, hoctets⟩ := integerOctets_head h.1
    have hget := (drop_eq_cons (by rw [hoctets] at hpayload; exact hpayload)).2.1
    dsimp only
    rw [hget, if_pos (first_octet_sizeUpdate hx), hpackDecodeInteger_spec (by decide) h hpayload]
    rfl
  | indexed index =>
    obtain ⟨x, rest, hx, hoctets⟩ := integerOctets_head h.1
    have hget := (drop_eq_cons (by rw [hoctets] at hpayload; exact hpayload)).2.1
    obtain ⟨hnot, hbit⟩ := first_octet_indexed hx
    dsimp only
    rw [hget, if_neg hnot, if_pos hbit, hpackDecodeInteger_spec (by decide) h hpayload]
    rfl
  | literal mode name value =>
    obtain ⟨head, string, hhead, _, heq⟩ := id h
    obtain ⟨x, rest, hx, hoctets⟩ := nameOctets_head hhead
    have hget := (drop_eq_cons (by
      rw [heq, hoctets, List.append_assoc] at hpayload
      exact hpayload)).2.1
    obtain ⟨hnot, hbit, hmode⟩ := first_octet_literal mode hx
    dsimp only
    rw [hget, if_neg hnot, if_neg (by rw [hbit]; simp)]
    cases mode with
    | incremental =>
      rw [if_pos (hmode.mpr rfl)]
      exact literalAt_spec true h hpayload
    | without =>
      rw [if_neg (fun hset => by cases hmode.mp hset)]
      exact literalAt_spec false h hpayload
    | never =>
      rw [if_neg (fun hset => by cases hmode.mp hset)]
      exact literalAt_spec false h hpayload

/-- The name that a literal field is stored with. -/
def storedName (ctx : HpackContext) : NameReading → Option Bytes
  | .index index => some (getHeaderFromTable index ctx).name
  | .string text => text

theorem fieldName_iff {ctx : HpackContext} {name : FieldName} {reading : NameReading}
    {stored : Bytes} (h : NameReadAs name reading)
    (hstored : storedName ctx reading = some stored) :
    (tableOf ctx).fieldName name = some stored ↔
      ((tableOf ctx).fieldName name).isSome ∧ nameReadable name := by
  cases name with
  | indexed index =>
    rw [NameReadAs] at h
    rw [h, storedName, Option.some.injEq] at hstored
    constructor
    · intro hname
      exact ⟨by rw [hname]; rfl, trivial⟩
    · intro hsome
      obtain ⟨found, hfound⟩ := Option.isSome_iff_exists.mp hsome.1
      rw [Table.fieldName, Option.map_eq_some_iff] at hfound
      obtain ⟨entry, hentry, _⟩ := hfound
      rw [Table.fieldName, lookup_of_inTables (inTables_of_lookup hentry), Option.map_some, hstored]
  | literal literal =>
    obtain ⟨text, rfl, hright⟩ := h
    rw [storedName, Option.some.injEq] at hstored
    rw [Table.fieldName, Option.some.injEq, ← hstored, eq_comm, hright]
    exact (and_iff_right rfl).symm

/-- What a literal field is stored as is what it stands for if and only if it
reads right. -/
theorem denotes_iff {ctx : HpackContext} {payload : Bytes} {pos : Nat} {inserted : Bool}
    {name : NameReading} {value stored : Bytes}
    (hreading : (readingAt payload pos).1 = .literal inserted name (some value))
    (hstored : storedName ctx name = some stored) :
    Denotes ctx payload pos (.literal inserted name (some value)) ⟨stored, value⟩ ↔
      ReadsRight ctx payload pos := by
  rw [Denotes, ReadsRight]
  apply exists_congr
  intro mode
  apply exists_congr
  intro fieldName
  apply exists_congr
  intro literal
  apply and_congr_right
  rintro ⟨_, octets, post, hpayload, hoctets⟩
  obtain ⟨_, nameReading, text, hread, hname, hright⟩ := readingAt_spec hoctets hpayload
  rw [hreading, Reading.literal.injEq, Option.some.injEq] at hread
  obtain ⟨_, rfl, rfl⟩ := hread
  show (tableOf ctx).fieldName fieldName = some stored ∧ literal.octets = value ↔ _
  rw [fieldName_iff hname hstored, @eq_comm _ literal.octets, hright, and_assoc]

/-- A round adds what it stands for, unless it comes to a literal field that
does not read right and has room for it. -/
theorem adds_denoted_iff (s : Rounds) {payload : Bytes} {pos : Nat} {reading : Reading}
    (hreading : (readingAt payload pos).1 = reading) :
    (∀ header, Adds s reading header → Denotes s.ctx payload pos reading header) ↔
      (s.going = true → HasRoom s.stream → ¬MadeUp s.ctx payload pos reading) := by
  have hnone (hkept : (stepReading s reading).stream.headers = s.stream.headers) :
      ∀ header, Adds s reading header → Denotes s.ctx payload pos reading header :=
    fun header hadds => absurd hadds (not_adds hkept)
  cases hgoing : s.going with
  | false =>
    refine iff_of_true (hnone ?_) (fun hfalse => by cases hfalse)
    rw [stepReading, if_neg (by rw [hgoing]; decide)]
  | true =>
    have hstep : stepReading s reading = s.act reading := by
      rw [stepReading, if_pos hgoing]
    have hliteral {inserted : Bool} {name : NameReading} {value stored : Bytes}
        (heq : reading = .literal inserted name (some value))
        (hstored : storedName s.ctx name = some stored)
        (hact : s.act reading = s.store inserted ⟨stored, value⟩) :
        (∀ header, Adds s reading header → Denotes s.ctx payload pos reading header) ↔
          (HasRoom s.stream → ReadsRight s.ctx payload pos) := by
      rw [heq] at hreading
      have hdenotes := denotes_iff hreading hstored
      rw [← heq] at hdenotes
      constructor
      · intro hall hroom
        exact hdenotes.mp (hall _ ((adds_store (hstep.trans hact) _).mpr ⟨hroom, rfl⟩))
      · intro hright header hadds
        obtain ⟨hroom, rfl⟩ := (adds_store (hstep.trans hact) header).mp hadds
        exact hdenotes.mpr (hright hroom)
    cases reading with
    | sizeUpdate maxSize =>
      exact iff_of_true (hnone (by rw [hstep]; rfl)) (fun _ _ hfalse => hfalse)
    | indexed index =>
      refine iff_of_true ?_ (fun _ _ hfalse => hfalse)
      rw [Rounds.act] at hstep
      split at hstep
      · rename_i htables
        intro header hadds
        rw [((adds_store hstep header).mp hadds).2]
        exact ⟨index, lookup_of_inTables htables⟩
      · exact hnone (by rw [hstep]; rfl)
    | literal inserted name value =>
      cases value with
      | none =>
        refine iff_of_true (hnone (by rw [hstep]; rfl)) (fun _ _ hfalse => ?_)
        rcases name with _ | _ | _ <;> exact hfalse
      | some value =>
        cases name with
        | index index =>
          rw [hliteral rfl rfl rfl]
          exact ⟨fun hright _ hroom hnot => hnot (hright hroom),
            fun hnot hroom => not_not.mp (hnot rfl hroom)⟩
        | string text =>
          cases text with
          | none => exact iff_of_true (hnone (by rw [hstep]; rfl)) (fun _ _ hfalse => hfalse)
          | some text =>
            rw [hliteral rfl rfl rfl]
            exact ⟨fun hright _ hroom hnot => hnot (hright hroom),
              fun hnot hroom => not_not.mp (hnot rfl hroom)⟩

/-! ## The rounds of a block -/

theorem readingsFrom_getElem? {payload : Bytes} {fuel pos n : Nat} {reading : Reading}
    (h : (readingsFrom payload fuel pos)[n]? = some reading) :
    (readingAt payload (positionFrom payload pos n)).1 = reading := by
  induction fuel generalizing pos n with
  | zero =>
    rw [readingsFrom, List.getElem?_nil] at h
    cases h
  | succ fuel ih =>
    rw [readingsFrom] at h
    split at h
    · cases n with
      | zero => exact Option.some.inj h
      | succ n =>
        rw [List.getElem?_cons_succ] at h
        rw [positionFrom]
        exact ih h
    · rw [List.getElem?_nil] at h
      cases h

/-- The decoder comes to a representation with `P`, which may depend on the
decoder before that round and on the position. -/
def ComesTo (P : Rounds → Nat → Reading → Prop) (stream : Stream) (payload : Bytes)
    (ctx : HpackContext) : Prop :=
  ∃ n reading, (readings payload)[n]? = some reading ∧
    (roundsBefore stream payload ctx n).going = true ∧
    P (roundsBefore stream payload ctx n) (positionFrom payload 0 n) reading

theorem comesTo_iff {P : Rounds → Reading → Prop} {stream : Stream} {payload : Bytes}
    {ctx : HpackContext} :
    ComesTo (fun s _ => P s) stream payload ctx ↔
      ¬Meets stepReading (fun s reading => s.going = true → ¬P s reading)
        (startRounds stream payload ctx) (readings payload) := by
  rw [meets_iff_getElem?, ComesTo]
  simp only [not_forall, not_not, roundsBefore, exists_prop]

/-- What fails in one round stays in the stream. -/
theorem run_error (s : Rounds) (list : List Reading) :
    (run stepReading s list).stream.error ≠ none ↔
      s.stream.error ≠ none ∨
        ¬Meets stepReading (fun s reading => s.going = true → ¬Fails s.ctx reading) s list := by
  induction list generalizing s with
  | nil => exact ⟨Or.inl, fun h => h.resolve_right (fun hnot => hnot trivial)⟩
  | cons reading list ih =>
    have hround : (stepReading s reading).stream.error ≠ none ↔
        s.stream.error ≠ none ∨ ¬(s.going = true → ¬Fails s.ctx reading) := by
      rw [stepReading]
      split
      · rename_i hgoing
        rw [act_error, Classical.not_imp, not_not]
        exact or_congr_right ⟨fun hfails => ⟨hgoing, hfails⟩, And.right⟩
      · rename_i hstopped
        exact ⟨Or.inl, fun h => h.resolve_right fun hnot =>
          hnot fun hgoing => absurd hgoing hstopped⟩
    rw [run_cons, ih, Meets, hround, not_and_or, or_assoc]

/-- The decoder comes to a representation that fails. -/
def ComesToFailure (stream : Stream) (payload : Bytes) (ctx : HpackContext) : Prop :=
  ComesTo (fun s _ => Fails s.ctx) stream payload ctx

/-- The decoder comes to a literal field that does not read right, and the
stream has room for it. -/
def ComesToMadeUp (stream : Stream) (payload : Bytes) (ctx : HpackContext) : Prop :=
  ComesTo (fun s pos reading => HasRoom s.stream ∧ MadeUp s.ctx payload pos reading) stream
    payload ctx

/-- A block is rejected if and only if the stream has an error already or the
decoder comes to a round that fails, and every literal field that it stores
reads right. -/
theorem rejects_iff (stream : Stream) (payload : Bytes) (ctx : HpackContext) :
    Rejects stream payload ctx ↔
      (stream.error ≠ none ∨ ComesToFailure stream payload ctx) ∧
      ¬ComesToMadeUp stream payload ctx := by
  have hstart : (startRounds stream payload ctx).stream.error = stream.error := by
    rw [startRounds]
    dsimp only
    split <;> rfl
  have herror := run_error (startRounds stream payload ctx) (readings payload)
  rw [hstart, ← (decodeHeadersFrame_run stream payload ctx).1, ← comesTo_iff] at herror
  rw [Rejects]
  refine and_congr herror ?_
  constructor
  · rintro hdenotes ⟨n, reading, hreading, hgoing, hroom, hmadeUp⟩
    have hround := (adds_denoted_iff (roundsBefore stream payload ctx n)
      (readingsFrom_getElem? hreading)).mp (fun header => hdenotes n reading header hreading)
    exact hround hgoing hroom hmadeUp
  · intro hnot n reading header hreading
    refine (adds_denoted_iff (roundsBefore stream payload ctx n)
      (readingsFrom_getElem? hreading)).mpr ?_ header
    exact fun hgoing hroom hmadeUp => hnot ⟨n, reading, hreading, hgoing, hroom, hmadeUp⟩

/-! ## Blocks that are not well formed -/

/-- Of the blocks that are not well formed, those are rejected in which the
decoder comes to a round that fails and stores no literal field that does not
read right. -/
theorem broken_block_rejected_iff (stream : Stream) (payload : Bytes) (ctx : HpackContext) :
    (¬WellFormed payload ctx → Rejects stream payload ctx) ↔
      WellFormed payload ctx ∨
        (stream.error ≠ none ∨ ComesToFailure stream payload ctx) ∧
        ¬ComesToMadeUp stream payload ctx := by
  rw [← rejects_iff, or_iff_not_imp_left]

/-- A literal field with the name index 63, where the tables have 61 entries:
the stream gets a header "error" and no error. -/
theorem broken_block_made_up_name :
    ¬∀ (stream : Stream) (payload : Bytes) (ctx : HpackContext),
      ¬WellFormed payload ctx → Rejects stream payload ctx := by
  intro h
  have hbroken : ¬WellFormed [0x7F, 0, 1, 97] emptyContext := by
    rintro ⟨reps, table, fields, hblock, hrun⟩
    generalize hoctets : ([0x7F, 0, 1, 97] : Bytes) = octets at hblock
    cases hblock with
    | nil => cases hoctets
    | @cons rep reps head tail hhead htail =>
      obtain ⟨next, field, rest, hstep, _⟩ := Table.run_cons hrun
      have hread := readingAt_spec hhead (List.drop_zero.trans hoctets)
      have hreading : (readingAt [0x7F, 0, 1, 97] 0).1 =
          .literal true (.index 63) (some [97]) := by decide +kernel
      rw [hreading] at hread
      cases rep with
      | sizeUpdate maxSize => cases hread
      | indexed index => cases hread
      | literal mode name value =>
        obtain ⟨_, _, _, heq, hname, _⟩ := hread
        cases heq
        cases name with
        | literal literal =>
          obtain ⟨_, heq, _⟩ := hname
          cases heq
        | indexed index =>
          cases hname
          -- the tables have no entry 63
          cases hstep
  have herror := (h freshStream [0x7F, 0, 1, 97] emptyContext hbroken).1
  have hnone : (decodeHeadersFrame freshStream [0x7F, 0, 1, 97] emptyContext).1.error = none := by
    decide +kernel
  exact herror hnone

/-- A size update that is cut off is taken for 31. -/
example : (decodeHeadersFrame freshStream [0x3F] emptyContext).1.error = none ∧
    (decodeHeadersFrame freshStream [0x3F] emptyContext).2.dynamicTableMaxSize = 31 := by
  decide +kernel

end HttpRequestClient.Hpack
