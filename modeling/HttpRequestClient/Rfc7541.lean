import HttpRequestClient.Types
import HttpRequestClient.Lib.BitString

/-!
# HPACK as RFC 7541 defines it

The abstract side of the decoder: what a header block means, without the
data structures of the client.

* Integers (5.1).  `IntegerOctets p high v octets` says that `octets` write
  `v` with a prefix of `p` bits under the high bits `high`, in any number of
  continuation octets.  `encodeInteger` is the encoder of the RFC, which
  writes the shortest form.
* Strings (5.2).  A literal is a list of octets, raw or Huffman-coded.  The
  Huffman code is canonical, so it is given by its code lengths.
* The dynamic table (4).  `fitting` keeps the newest entries that fit a
  room; an insertion and a size update are defined by it.
* Representations (6).  `Table.step` gives the field a representation means
  and the table after it, and `Table.run` a whole block.

`RepOctets form` relates a representation to its octets, for a given form of
the integers in it.
-/

namespace HttpRequestClient.Rfc7541

open BitString

/-! ## Integers -/

/-- Little-endian groups of seven bits, the high bit set on all but the
last. -/
inductive ContinuationOctets : Nat → Bytes → Prop where
  | last {g : Nat} (hg : g < 128) : ContinuationOctets g [UInt8.ofNat g]
  | more {g v : Nat} {octets : Bytes} (hg : g < 128) (tail : ContinuationOctets v octets) :
      ContinuationOctets (g + 128 * v) (UInt8.ofNat (128 + g) :: octets)

/-- `octets` write `v` with a `p`-bit prefix under the high bits `high`. -/
def IntegerOctets (p high v : Nat) (octets : Bytes) : Prop :=
  v < 2 ^ p - 1 ∧ octets = [UInt8.ofNat (high * 2 ^ p + v)] ∨
    2 ^ p - 1 ≤ v ∧ ∃ rest, octets = UInt8.ofNat (high * 2 ^ p + (2 ^ p - 1)) :: rest ∧
      ContinuationOctets (v - (2 ^ p - 1)) rest

/-- The continuation octets the encoder of the RFC writes.  One round takes
seven bits, so `v` rounds are enough. -/
def encodeContinuation : Nat → Nat → Bytes
  | 0, v => [UInt8.ofNat (v % 128)]
  | fuel + 1, v =>
    if v ≥ 128 then UInt8.ofNat (128 + v % 128) :: encodeContinuation fuel (v / 128)
    else [UInt8.ofNat (v % 128)]

/-- The shortest form of an integer. -/
def encodeInteger (p high v : Nat) : Bytes :=
  if v < 2 ^ p - 1 then [UInt8.ofNat (high * 2 ^ p + v)]
  else UInt8.ofNat (high * 2 ^ p + (2 ^ p - 1)) ::
    encodeContinuation (v - (2 ^ p - 1)) (v - (2 ^ p - 1))

/-- How the integers of a block may be written. -/
abbrev IntegerForm := Nat → Nat → Nat → Bytes → Prop

/-- The shortest form. -/
def minimalForm : IntegerForm := fun p high v octets => octets = encodeInteger p high v

/-- Any form with at most five continuation octets. -/
def shortForm : IntegerForm := fun p high v octets =>
  IntegerOctets p high v octets ∧ octets.length ≤ 6

/-- The shortest form, where it needs at most five continuation octets. -/
def minimalShortForm : IntegerForm := fun p high v octets =>
  minimalForm p high v octets ∧ octets.length ≤ 6

theorem continuationOctets_encode :
    ∀ (fuel v : Nat), v < 128 * (fuel + 1) → ContinuationOctets v (encodeContinuation fuel v) := by
  intro fuel
  induction fuel with
  | zero =>
    intro v hv
    rw [encodeContinuation, Nat.mod_eq_of_lt (by omega)]
    exact .last (by omega)
  | succ fuel ih =>
    intro v hv
    rw [encodeContinuation]
    split
    · have htail := ih (v / 128) (by omega)
      have hmore := ContinuationOctets.more (g := v % 128) (by omega) htail
      rwa [Nat.mod_add_div] at hmore
    · rw [Nat.mod_eq_of_lt (by omega)]
      exact .last (by omega)

theorem integerOctets_encode (p high v : Nat) :
    IntegerOctets p high v (encodeInteger p high v) := by
  rw [IntegerOctets, encodeInteger]
  by_cases hv : v < 2 ^ p - 1
  · exact Or.inl ⟨hv, by rw [if_pos hv]⟩
  · refine Or.inr ⟨by omega, _, by rw [if_neg hv], ?_⟩
    exact continuationOctets_encode _ _ (by omega)

theorem shortForm_of_minimal {p high v : Nat} {octets : Bytes}
    (h : minimalShortForm p high v octets) : shortForm p high v octets := by
  obtain ⟨hmin, hlen⟩ := h
  refine ⟨?_, hlen⟩
  rw [hmin]
  exact integerOctets_encode p high v

/-! ## Strings -/

/-- Appendix B: the code lengths of the octets and of the end marker. -/
def codeLengths : List Nat := [
    13, 23, 28, 28, 28, 28, 28, 28, 28, 24, 30, 28, 28, 30, 28, 28, 28, 28, 28, 28, 28, 28,
    30, 28, 28, 28, 28, 28, 28, 28, 28, 28, 6, 10, 10, 12, 13, 6, 8, 11, 10, 10, 8, 11, 8,
    6, 6, 6, 5, 5, 5, 6, 6, 6, 6, 6, 6, 6, 7, 8, 15, 6, 12, 10, 13, 6, 7, 7, 7, 7, 7, 7, 7,
    7, 7, 7, 7, 7, 7, 7, 7, 7, 7, 7, 7, 7, 7, 7, 8, 7, 8, 13, 19, 13, 14, 6, 15, 5, 6, 5, 6,
    5, 6, 6, 6, 5, 7, 7, 6, 6, 6, 5, 6, 7, 6, 5, 5, 6, 7, 7, 7, 7, 7, 15, 11, 14, 13, 28,
    20, 22, 20, 20, 22, 22, 22, 23, 22, 23, 23, 23, 23, 23, 24, 23, 24, 24, 22, 23, 24, 23,
    23, 23, 23, 21, 22, 23, 22, 23, 23, 24, 22, 21, 20, 22, 22, 23, 23, 21, 23, 22, 22, 24,
    21, 22, 23, 23, 21, 21, 22, 21, 23, 22, 23, 23, 20, 22, 22, 22, 23, 22, 22, 23, 26, 26,
    20, 19, 22, 23, 22, 25, 26, 26, 26, 27, 27, 26, 24, 25, 19, 21, 26, 27, 27, 26, 27, 24,
    21, 21, 26, 26, 28, 27, 27, 27, 20, 24, 20, 21, 22, 21, 21, 23, 22, 22, 25, 25, 24, 24,
    26, 23, 26, 27, 26, 26, 27, 27, 27, 27, 27, 28, 27, 27, 27, 27, 27, 26, 30
  ]

/-- The first code of a width: it follows the codes of all shorter words. -/
def firstCode (width : Nat) : Nat :=
  codeLengths.foldl (fun code length => if length < width then code + 2 ^ (width - length) else code) 0

/-- The canonical code of a symbol: the symbols of one width take
consecutive codes in their order. -/
def canonicalCode (symbol : Nat) : Nat :=
  let width := codeLengths.getD symbol 0
  firstCode width + (codeLengths.take symbol).count width

/-- The code word of an octet. -/
def codeWord (c : UInt8) : List Bool := ofNat (codeLengths.getD c.toNat 0) (canonicalCode c.toNat)

/-- A string literal and whether it is Huffman-coded. -/
structure StringLiteral where
  octets : Bytes
  huffman : Bool
  deriving Repr, DecidableEq

/-- `coded` holds the code words of `octets`, padded with fewer than eight
ones. -/
def HuffmanOctets (octets coded : Bytes) : Prop :=
  ∃ k, k < 8 ∧ ofBytes coded = octets.flatMap codeWord ++ List.replicate k true

/-- The octets of a literal: its length, then its contents. -/
def StringOctets (form : IntegerForm) (literal : StringLiteral) (octets : Bytes) : Prop :=
  if literal.huffman then
    ∃ length coded, HuffmanOctets literal.octets coded ∧ form 7 1 coded.length length ∧
      octets = length ++ coded
  else ∃ length, form 7 0 literal.octets.length length ∧ octets = length ++ literal.octets

/-! ## The dynamic table -/

/-- The size of an entry (4.1). -/
def entrySize (field : HeaderField) : Nat := field.name.length + field.value.length + 32

/-- The newest entries that fit a room together. -/
def fitting : Nat → List HeaderField → List HeaderField
  | _, [] => []
  | room, field :: fields =>
    if entrySize field ≤ room then field :: fitting (room - entrySize field) fields else []

/-- The dynamic table, newest entry first, and its maximum size. -/
structure Table where
  entries : List HeaderField
  maxSize : Nat
  deriving Repr, DecidableEq

/-- Eviction makes room first; an entry that is larger than the table leaves
it empty (4.4). -/
def Table.insert (table : Table) (field : HeaderField) : Table :=
  if entrySize field ≤ table.maxSize then
    { table with entries := field :: fitting (table.maxSize - entrySize field) table.entries }
  else { table with entries := [] }

/-- A new maximum size evicts what no longer fits (4.3). -/
def Table.resize (table : Table) (maxSize : Nat) : Table where
  entries := fitting maxSize table.entries
  maxSize := maxSize

/-- Appendix A. -/
def staticTable : List (String × String) := [
    (":authority", ""), (":method", "GET"), (":method", "POST"), (":path", "/"),
    (":path", "/index.html"), (":scheme", "http"), (":scheme", "https"), (":status", "200"),
    (":status", "204"), (":status", "206"), (":status", "304"), (":status", "400"),
    (":status", "404"), (":status", "500"), ("accept-charset", ""),
    ("accept-encoding", "gzip, deflate"), ("accept-language", ""), ("accept-ranges", ""),
    ("accept", ""), ("access-control-allow-origin", ""), ("age", ""), ("allow", ""),
    ("authorization", ""), ("cache-control", ""), ("content-disposition", ""),
    ("content-encoding", ""), ("content-language", ""), ("content-length", ""),
    ("content-location", ""), ("content-range", ""), ("content-type", ""), ("cookie", ""),
    ("date", ""), ("etag", ""), ("expect", ""), ("expires", ""), ("from", ""), ("host", ""),
    ("if-match", ""), ("if-modified-since", ""), ("if-none-match", ""), ("if-range", ""),
    ("if-unmodified-since", ""), ("last-modified", ""), ("link", ""), ("location", ""),
    ("max-forwards", ""), ("proxy-authenticate", ""), ("proxy-authorization", ""),
    ("range", ""), ("referer", ""), ("refresh", ""), ("retry-after", ""), ("server", ""),
    ("set-cookie", ""), ("strict-transport-security", ""), ("transfer-encoding", ""),
    ("user-agent", ""), ("vary", ""), ("via", ""), ("www-authenticate", "")
  ]

def staticField (entry : String × String) : HeaderField := ⟨ascii entry.1, ascii entry.2⟩

/-- The field at an index of the static table or, after it, of the dynamic
table (2.3.3). -/
def Table.lookup (table : Table) (index : Nat) : Option HeaderField :=
  if index = 0 then none
  else if index ≤ 61 then (staticTable[index - 1]?).map staticField
  else table.entries[index - 62]?

/-! ## Representations -/

/-- What a literal field does to the dynamic table (6.2). -/
inductive Indexing where
  | incremental
  | without
  | never
  deriving Repr, DecidableEq

inductive FieldName where
  | indexed (index : Nat)
  | literal (name : StringLiteral)
  deriving Repr, DecidableEq

inductive Representation where
  | sizeUpdate (maxSize : Nat)
  | indexed (index : Nat)
  | literal (mode : Indexing) (name : FieldName) (value : StringLiteral)
  deriving Repr, DecidableEq

/-- The name a literal field has. -/
def Table.fieldName (table : Table) : FieldName → Option Bytes
  | .indexed index => (table.lookup index).map HeaderField.name
  | .literal name => some name.octets

/-- The table after a representation and the field it means, if it means
one.  `none` for an index that is not in the tables. -/
def Table.step (table : Table) : Representation → Option (Table × Option HeaderField)
  | .sizeUpdate maxSize => some (table.resize maxSize, none)
  | .indexed index => (table.lookup index).map (fun field => (table, some field))
  | .literal mode name value =>
    (table.fieldName name).map (fun name =>
      let field : HeaderField := ⟨name, value.octets⟩
      (if mode = .incremental then table.insert field else table, some field))

/-- The table after a block and the fields it means, in order. -/
def Table.run (table : Table) : List Representation → Option (Table × List HeaderField)
  | [] => some (table, [])
  | rep :: reps =>
    match table.step rep with
    | none => none
    | some (table, field) =>
      match table.run reps with
      | none => none
      | some (table, fields) => some (table, field.toList ++ fields)

theorem Table.run_cons {table last : Table} {rep : Representation} {reps : List Representation}
    {all : List HeaderField} (h : table.run (rep :: reps) = some (last, all)) :
    ∃ next field fields, table.step rep = some (next, field) ∧
      next.run reps = some (last, fields) ∧ all = field.toList ++ fields := by
  rw [Table.run] at h
  split at h
  · cases h
  · rename_i next field hstep
    split at h
    · cases h
    · rename_i last' fields hrun
      rw [Option.some.injEq, Prod.mk.injEq] at h
      obtain ⟨rfl, rfl⟩ := h
      exact ⟨next, field, fields, hstep, hrun, rfl⟩

/-- The table after a block. -/
def Table.after (table : Table) (reps : List Representation) : Option Table :=
  (table.run reps).map Prod.fst

theorem Table.after_cons {table next : Table} {rep : Representation}
    {reps : List Representation} {field : Option HeaderField}
    (h : table.step rep = some (next, field)) :
    table.after (rep :: reps) = next.after reps := by
  rw [Table.after, Table.run, h, Table.after]
  simp only
  cases next.run reps <;> rfl

/-! ## Octets of a representation -/

/-- The high bits and the prefix width of a literal field. -/
def Indexing.pattern : Indexing → Nat × Nat
  | .incremental => (1, 6)
  | .without => (0, 4)
  | .never => (1, 4)

/-- The octets of a name: an index in the first octet, or zero and a
literal. -/
def NameOctets (form : IntegerForm) (mode : Indexing) : FieldName → Bytes → Prop
  | .indexed index, octets => 0 < index ∧ form mode.pattern.2 mode.pattern.1 index octets
  | .literal name, octets =>
    ∃ zero text, form mode.pattern.2 mode.pattern.1 0 zero ∧ StringOctets form name text ∧
      octets = zero ++ text

def RepOctets (form : IntegerForm) : Representation → Bytes → Prop
  | .sizeUpdate maxSize, octets => form 5 1 maxSize octets
  | .indexed index, octets => form 7 1 index octets
  | .literal mode name value, octets =>
    ∃ head text, NameOctets form mode name head ∧ StringOctets form value text ∧
      octets = head ++ text

/-- The octets of a block: those of its representations one after the
other. -/
inductive BlockOctets (form : IntegerForm) : List Representation → Bytes → Prop where
  | nil : BlockOctets form [] []
  | cons {rep : Representation} {reps : List Representation} {head tail : Bytes}
      (hhead : RepOctets form rep head) (htail : BlockOctets form reps tail) :
      BlockOctets form (rep :: reps) (head ++ tail)

section Mono

variable {form form' : IntegerForm}
  (hform : ∀ p high v octets, form p high v octets → form' p high v octets)

include hform

theorem StringOctets.mono {literal : StringLiteral} {octets : Bytes}
    (h : StringOctets form literal octets) : StringOctets form' literal octets := by
  unfold StringOctets at h ⊢
  split at h
  · rename_i hhuff
    obtain ⟨length, coded, hcoded, hlen, heq⟩ := h
    rw [if_pos hhuff]
    exact ⟨length, coded, hcoded, hform _ _ _ _ hlen, heq⟩
  · rename_i hraw
    obtain ⟨length, hlen, heq⟩ := h
    rw [if_neg hraw]
    exact ⟨length, hform _ _ _ _ hlen, heq⟩

theorem NameOctets.mono {mode : Indexing} {name : FieldName} {octets : Bytes}
    (h : NameOctets form mode name octets) : NameOctets form' mode name octets := by
  cases name with
  | indexed index => exact ⟨h.1, hform _ _ _ _ h.2⟩
  | literal name =>
    obtain ⟨zero, text, hzero, htext, heq⟩ := h
    exact ⟨zero, text, hform _ _ _ _ hzero, htext.mono hform, heq⟩

theorem RepOctets.mono {rep : Representation} {octets : Bytes}
    (h : RepOctets form rep octets) : RepOctets form' rep octets := by
  cases rep with
  | sizeUpdate maxSize => exact hform _ _ _ _ h
  | indexed index => exact hform _ _ _ _ h
  | literal mode name value =>
    obtain ⟨head, text, hhead, htext, heq⟩ := h
    exact ⟨head, text, hhead.mono hform, htext.mono hform, heq⟩

/-- A block written in one form is written in every wider one. -/
theorem BlockOctets.mono {reps : List Representation} {octets : Bytes}
    (h : BlockOctets form reps octets) : BlockOctets form' reps octets := by
  induction h with
  | nil => exact .nil
  | cons hhead _ ih => exact .cons (hhead.mono hform) ih

end Mono

end HttpRequestClient.Rfc7541
