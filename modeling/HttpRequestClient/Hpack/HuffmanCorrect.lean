import HttpRequestClient.Hpack.Huffman

/-!
# What the Huffman coder decodes and encodes

The tree of `buildHuffmanTree` is used through the facts that
`buildHuffmanTree_reads` evaluates.  Everything else goes through `PrefixWalk` and
`BitString`.

Entries 246 to 256 of the table are not those of a prefix code.  Nine of
them are proper prefixes of the words of eighteen other octets, the
`misreadOctets`: the walk leaves at the short word and never reaches theirs.

* `huffmanDecodeTree_eq_iff` says that a padded concatenation of code words
  decodes to its octets exactly when none of them is misread.
* `hpackHuffmanEncode_bits_iff` says that the encoder writes the code words
  exactly when no octet shifts a set bit out of the 32-bit accumulator, and
  `hpackHuffmanEncode_bits` that octets with a word of at most 25 bits never
  do.
-/

namespace HttpRequestClient.Hpack

open BitString PrefixWalk

/-! ## The walk of the decoder -/

/-- The decoder's view of a node. -/
def HuffmanNode.visit : HuffmanNode → Visit UInt8
  | .null => .halt
  | .node symbol _ _ =>
    if symbol ≥ 0 then
      if symbol = 256 then .halt else .leaf (UInt8.ofNat symbol.toNat)
    else .inner

/-- The loops of `huffmanDecodeTree` are a walk of the tree. -/
theorem decodeBits_eq_run (root : HuffmanNode) (bits : List Bool) :
    ∀ node, decodeBits root node bits = run HuffmanNode.child HuffmanNode.visit root node bits := by
  induction bits with
  | nil => intro node; rfl
  | cons bit bits ih =>
    intro node
    rw [decodeBits, run]
    cases hchild : node.child bit with
    | null => rfl
    | node symbol left right =>
      simp only [HuffmanNode.visit]
      by_cases hsym : symbol ≥ 0
      · by_cases heos : symbol = 256
        · simp [heos]
        · simp [hsym, heos, ih root]
      · simp [hsym, ih]

/-- The first leg of the decoder's walk. -/
def nextSymbol (root : HuffmanNode) (bits : List Bool) : Option (Option UInt8 × List Bool) :=
  next HuffmanNode.child HuffmanNode.visit root bits

/-- The octets whose code word has the word of another symbol as a proper
prefix. -/
def misreadOctets : List UInt8 :=
  [192, 193, 200, 201, 202, 203, 204, 205, 210, 211, 212, 213, 218, 219, 238, 240, 242, 243]

/-- An octet is misread exactly when it is listed: its word then ends early,
at another symbol or at a halt. -/
def readsAsListed (root : HuffmanNode) (c : UInt8) : Bool :=
  if c ∈ misreadOctets then
    match nextSymbol root (codeWord c) with
    | some (found, _) => found ≠ some c
    | none => false
  else nextSymbol root (codeWord c) = some (some c, [])

/-- Every octet reads as listed, and up to seven ones lead to an inner node,
so that the padding of a string is never read as a symbol. -/
def treeReads (root : HuffmanNode) : Bool :=
  (List.range 256).all (fun i => readsAsListed root (UInt8.ofNat i)) &&
    (List.range 8).all (fun k => nextSymbol root (List.replicate k true) = none)

-- the only evaluation of the tree; the facts below are read off it
theorem buildHuffmanTree_reads : buildHuffmanTree.any treeReads = true := by
  decide +kernel

theorem exists_buildHuffmanTree :
    ∃ root, buildHuffmanTree = some root ∧ treeReads root = true := by
  have h := buildHuffmanTree_reads
  rwa [Option.any_eq_true] at h

theorem buildHuffmanTree_eq : buildHuffmanTree = some huffmanRoot := by
  obtain ⟨root, hroot, _⟩ := exists_buildHuffmanTree
  rw [huffmanRoot, hroot, Option.getD_some]

theorem huffmanRoot_reads : treeReads huffmanRoot = true := by
  obtain ⟨root, hroot, hreads⟩ := exists_buildHuffmanTree
  rwa [huffmanRoot, hroot, Option.getD_some]

theorem readsAsListed_all (c : UInt8) : readsAsListed huffmanRoot c = true := by
  have hall := (Bool.and_eq_true_iff.mp huffmanRoot_reads).1
  have h := List.all_eq_true.mp hall c.toNat (List.mem_range.mpr (UInt8.toNat_lt c))
  rwa [UInt8.ofNat_toNat] at h

theorem nextSymbol_codeWord {c : UInt8} (h : c ∉ misreadOctets) :
    nextSymbol huffmanRoot (codeWord c) = some (some c, []) := by
  have hall := readsAsListed_all c
  rw [readsAsListed, if_neg h] at hall
  exact of_decide_eq_true hall

theorem nextSymbol_misread {c : UInt8} (h : c ∈ misreadOctets) :
    ∃ found rest,
      nextSymbol huffmanRoot (codeWord c) = some (found, rest) ∧ found ≠ some c := by
  have hall := readsAsListed_all c
  rw [readsAsListed, if_pos h] at hall
  cases hnext : nextSymbol huffmanRoot (codeWord c) with
  | none => simp [hnext] at hall
  | some pair =>
    obtain ⟨found, rest⟩ := pair
    simp only [hnext] at hall
    exact ⟨found, rest, rfl, of_decide_eq_true hall⟩

theorem nextSymbol_padding {k : Nat} (h : k < 8) :
    nextSymbol huffmanRoot (List.replicate k true) = none := by
  have hall := (Bool.and_eq_true_iff.mp huffmanRoot_reads).2
  exact of_decide_eq_true (List.all_eq_true.mp hall k (List.mem_range.mpr h))

/-! ## Decoding a padded concatenation of code words -/

/-- The octets of the walk before they are cut at a terminator. -/
def walk (bits : List Bool) : Bytes :=
  run HuffmanNode.child HuffmanNode.visit huffmanRoot huffmanRoot bits

theorem hpackHuffmanDecode_eq_walk (src : Bytes) :
    hpackHuffmanDecode src = cstr (walk (ofBytes src)) := by
  rw [hpackHuffmanDecode, huffmanDecodeTree, decodeBits_eq_run, walk]

theorem walk_padding {k : Nat} (h : k < 8) : walk (List.replicate k true) = [] :=
  run_of_none (nextSymbol_padding h)

theorem walk_cons {bits : List Bool} {c : UInt8}
    (h : nextSymbol huffmanRoot bits = some (some c, [])) (rest : List Bool) :
    walk (bits ++ rest) = c :: walk rest := by
  have hnext := next_append rest h
  rw [List.nil_append] at hnext
  exact run_of_leaf hnext

/-- Bits that lead to another symbol, or to a halt, do not give the octet. -/
theorem walk_ne_cons {bits left : List Bool} {c : UInt8} {found : Option UInt8}
    (h : nextSymbol huffmanRoot bits = some (found, left)) (hne : found ≠ some c)
    (rest : List Bool) (s : Bytes) : cstr (walk (bits ++ rest)) ≠ c :: s := by
  have happ := next_append rest h
  cases found with
  | some symbol =>
    have hsym : symbol ≠ c := fun heq => hne (by rw [heq])
    rw [walk, run_of_leaf happ]
    intro heq
    rw [cstr, List.takeWhile_cons] at heq
    split at heq
    · simp only [List.cons.injEq] at heq
      exact hsym heq.1
    · simp at heq
  | none =>
    rw [walk, run_of_halt happ]
    simp [cstr]

/-- A misread octet at the head of the bits never comes out at the head. -/
theorem walk_misread_ne {c : UInt8} (h : c ∈ misreadOctets) (rest : List Bool) (s : Bytes) :
    cstr (walk (codeWord c ++ rest)) ≠ c :: s := by
  obtain ⟨found, left, hnext, hne⟩ := nextSymbol_misread h
  exact walk_ne_cons hnext hne rest s

section Words

variable {word : UInt8 → List Bool} {Reads : UInt8 → Prop}

/-- Octets whose words are read right come back in order. -/
theorem walk_words {s : Bytes}
    (h : ∀ c ∈ s, nextSymbol huffmanRoot (word c) = some (some c, [])) {k : Nat} (hk : k < 8) :
    walk (s.flatMap word ++ List.replicate k true) = s := by
  have hpad := walk_padding hk
  rw [walk] at hpad ⊢
  rw [run_flatMap _ s h, hpad, List.append_nil]

/-- The string that comes back is the one that went in, unless the word of an
octet leads somewhere else. -/
theorem cstr_walk_iff
    (hreads : ∀ c, Reads c → nextSymbol huffmanRoot (word c) = some (some c, []))
    (hmisread : ∀ c, ¬Reads c → ∃ found left,
      nextSymbol huffmanRoot (word c) = some (found, left) ∧ found ≠ some c)
    {k : Nat} (hk : k < 8) {s : Bytes} (hs : 0 ∉ s) :
    cstr (walk (s.flatMap word ++ List.replicate k true)) = s ↔ ∀ c ∈ s, Reads c := by
  constructor
  · induction s with
    | nil => exact fun _ c hc => absurd hc List.not_mem_nil
    | cons c s ih =>
      rw [List.mem_cons, not_or] at hs
      rw [List.flatMap_cons, List.append_assoc, List.forall_mem_cons]
      intro hback
      by_cases hread : Reads c
      · refine ⟨hread, ih hs.2 ?_⟩
        rw [walk_cons (hreads c hread), cstr, List.takeWhile_cons,
          if_pos (by simpa using Ne.symm hs.1)] at hback
        exact (List.cons.inj hback).2
      · obtain ⟨found, left, hnext, hne⟩ := hmisread c hread
        exact absurd hback (walk_ne_cons hnext hne _ s)
  · intro hall
    rw [walk_words (fun c hc => hreads c (hall c hc)) hk, cstr_eq_self hs]

end Words

theorem cstr_walk_eq_iff {k : Nat} (hk : k < 8) {s : Bytes} (hs : 0 ∉ s) :
    cstr (walk (s.flatMap codeWord ++ List.replicate k true)) = s ↔
      ∀ c ∈ s, c ∉ misreadOctets := by
  apply cstr_walk_iff (fun c => nextSymbol_codeWord) _ hk hs
  intro c hread
  exact nextSymbol_misread (not_not.mp hread)

/-- Decoding the padded code words of `s` on the tree of `buildHuffmanTree`
gives `s` exactly when no octet of `s` is misread. -/
theorem huffmanDecodeTree_eq_iff (s src : Bytes) (k : Nat) (hs : 0 ∉ s) (hk : k < 8)
    (hsrc : ofBytes src = s.flatMap codeWord ++ List.replicate k true) :
    buildHuffmanTree = some huffmanRoot ∧
      (huffmanDecodeTree src huffmanRoot = s ↔ ∀ c ∈ s, c ∉ misreadOctets) := by
  refine ⟨buildHuffmanTree_eq, ?_⟩
  have hwalk := hpackHuffmanDecode_eq_walk src
  rw [hpackHuffmanDecode] at hwalk
  rw [hwalk, hsrc]
  exact cstr_walk_eq_iff hk hs

/-- The octets of `text/~` and 233: words of 5 to 23 bits across the octets of
the source, and one bit of padding. -/
theorem huffmanDecodeTree_eq_iff_text :
    buildHuffmanTree = some huffmanRoot ∧
      (huffmanDecodeTree [73, 124, 165, 143, 254, 255, 255, 215] huffmanRoot =
          [116, 101, 120, 116, 47, 126, 233] ↔
        ∀ c ∈ ([116, 101, 120, 116, 47, 126, 233] : Bytes), c ∉ misreadOctets) :=
  huffmanDecodeTree_eq_iff [116, 101, 120, 116, 47, 126, 233]
    [73, 124, 165, 143, 254, 255, 255, 215] 1 (by decide) (by decide) (by decide)

/-- The octet 192 has a word of 26 bits whose first 25 bits are the word of
entry 246. -/
theorem huffmanDecodeTree_ne_192 :
    (0 : UInt8) ∉ ([192] : Bytes) ∧
      ofBytes [0xff, 0xff, 0xf8, 0x3f] =
        ([192] : Bytes).flatMap codeWord ++ List.replicate 6 true ∧
      huffmanDecodeTree [0xff, 0xff, 0xf8, 0x3f] huffmanRoot ≠ [192] := by
  refine ⟨by decide, by decide, ?_⟩
  have hwalk := hpackHuffmanDecode_eq_walk [0xff, 0xff, 0xf8, 0x3f]
  rw [hpackHuffmanDecode] at hwalk
  have hbits : ofBytes [0xff, 0xff, 0xf8, 0x3f] =
      codeWord 192 ++ List.replicate 6 true := by decide
  rw [hwalk, hbits]
  exact walk_misread_ne (by decide) _ []

/-! ## Encoding -/

/-- Every code fits its width. -/
theorem huffmanEntry_code_lt (c : UInt8) :
    (huffmanEntry c.toNat).code < 2 ^ (huffmanEntry c.toNat).bits := by
  have hall : ((List.range 256).all
      (fun i => (huffmanEntry i).code < 2 ^ (huffmanEntry i).bits)) = true := by decide +kernel
  exact of_decide_eq_true
    (List.all_eq_true.mp hall c.toNat (List.mem_range.mpr (UInt8.toNat_lt c)))

/-- The drain loop moves whole octets out of the pending bits. -/
theorem drainBytes_spec (fuel : Nat) :
    ∀ (currentByte bitsUsed : Nat), bitsUsed < 8 * (fuel + 1) →
      currentByte < 2 ^ bitsUsed →
      let out := drainBytes fuel currentByte bitsUsed
      ofBytes out.1 ++ ofNat out.2.2 out.2.1 = ofNat bitsUsed currentByte ∧
        out.2.2 < 8 ∧ out.2.1 < 2 ^ out.2.2 := by
  induction fuel with
  | zero =>
    intro currentByte bitsUsed hbits hcur
    exact ⟨by simp [drainBytes], by simpa [drainBytes] using hbits, by simpa [drainBytes] using hcur⟩
  | succ fuel ih =>
    intro currentByte bitsUsed hbits hcur
    by_cases hge : bitsUsed ≥ 8
    · have hmod : currentByte % 2 ^ (bitsUsed - 8) < 2 ^ (bitsUsed - 8) :=
        Nat.mod_lt _ (Nat.two_pow_pos _)
      obtain ⟨hout, hlt, hrest⟩ :=
        ih (currentByte % 2 ^ (bitsUsed - 8)) (bitsUsed - 8) (by omega) hmod
      have hbyte : (UInt8.ofNat ((currentByte >>> (bitsUsed - 8)) % 2 ^ 8)).toNat =
          currentByte / 2 ^ (bitsUsed - 8) % 2 ^ 8 := by
        rw [Nat.shiftRight_eq_div_pow, UInt8.toNat_ofNat']
        omega
      simp only [drainBytes, if_pos hge]
      refine ⟨?_, hlt, hrest⟩
      rw [ofBytes_cons, List.append_assoc, hout, hbyte, ofNat_mod, ← ofNat_split]
      congr 1
      omega
    · simp only [drainBytes, if_neg hge]
      exact ⟨by simp, by omega, hcur⟩

/-- The pending bits that a shift by `shift` leaves in the 32 bits of
`currentByte`. -/
def keptBits (currentByte shift : Nat) : Nat := currentByte % 2 ^ (32 - shift)

/-- The bits that are pending after these: those past the last whole octet. -/
def unfilled (bits : List Bool) : List Bool := bits.drop (bits.length / 8 * 8)

/-- Every octet of `s`, encoded after `written`, shifts only zeros out of
`currentByte`. -/
def KeepsBitsAfter (written : List Bool) (s : Bytes) : Prop :=
  ∀ before c after, s = before ++ c :: after →
    ∀ bit ∈ (unfilled (written ++ before.flatMap codeWord)).take
        ((unfilled (written ++ before.flatMap codeWord)).length +
          (huffmanEntry c.toNat).bits - 32), bit = false

/-- No octet of `s` loses a bit: at each one, the bits of the words before it
that are past the last whole octet and do not fit 32 bits next to its own
word are zero. -/
def KeepsBits (s : Bytes) : Prop := KeepsBitsAfter [] s

theorem unfilled_append {front rest : List Bool} (hfront : 8 ∣ front.length)
    (hrest : rest.length < 8) : unfilled (front ++ rest) = rest := by
  obtain ⟨n, hn⟩ := hfront
  have hlen : (front ++ rest).length / 8 * 8 = front.length := by
    rw [List.length_append, hn]
    omega
  rw [unfilled, hlen, List.drop_left]

theorem keepsBitsAfter_nil (written : List Bool) : KeepsBitsAfter written [] := by
  intro before c after h
  cases before <;> simp at h

/-- The condition, one octet at a time. -/
theorem keepsBitsAfter_cons (written : List Bool) (c : UInt8) (s : Bytes) :
    KeepsBitsAfter written (c :: s) ↔
      (∀ bit ∈ (unfilled written).take
          ((unfilled written).length + (huffmanEntry c.toNat).bits - 32), bit = false) ∧
        KeepsBitsAfter (written ++ codeWord c) s := by
  constructor
  · intro h
    constructor
    · simpa using h [] c s rfl
    · intro before d after hs
      have hd := h (c :: before) d after (by rw [hs, List.cons_append])
      rwa [List.flatMap_cons, ← List.append_assoc] at hd
  · rintro ⟨hhead, htail⟩ before d after hs
    cases before with
    | nil =>
      rw [List.nil_append, List.cons.injEq] at hs
      obtain ⟨rfl, rfl⟩ := hs
      simpa using hhead
    | cons b before =>
      rw [List.cons_append, List.cons.injEq] at hs
      obtain ⟨rfl, rfl⟩ := hs
      rw [List.flatMap_cons, ← List.append_assoc]
      exact htail before d after rfl

/-- Widths of at most 25 bits fit next to seven pending ones. -/
theorem keepsBits_of_width {s : Bytes} (h : ∀ c ∈ s, (huffmanEntry c.toNat).bits ≤ 25) :
    KeepsBits s := by
  intro before c after hs
  have hc := h c (by rw [hs]; simp)
  have hlen : (unfilled ([] ++ before.flatMap codeWord)).length < 8 := by
    rw [unfilled, List.length_drop]
    omega
  have hzero : (unfilled ([] ++ before.flatMap codeWord)).length +
      (huffmanEntry c.toNat).bits - 32 = 0 := by omega
  rw [hzero, List.take_zero]
  intro bit hbit
  exact absurd hbit List.not_mem_nil

/-- The bits shifted out are zeros exactly when the kept bits are all of
them. -/
theorem shiftedOut_false_iff {currentByte bitsUsed shift : Nat} (hshift : shift ≤ 30)
    (hcur : currentByte < 2 ^ bitsUsed) :
    (∀ bit ∈ (ofNat bitsUsed currentByte).take (bitsUsed + shift - 32), bit = false) ↔
      keptBits currentByte shift = currentByte := by
  rw [keptBits, Nat.mod_eq_iff_lt (Nat.two_pow_pos _).ne']
  by_cases hover : 32 ≤ bitsUsed + shift
  · have hsplit : bitsUsed = (bitsUsed + shift - 32) + (32 - shift) := by omega
    have hcur' : currentByte < 2 ^ ((bitsUsed + shift - 32) + (32 - shift)) := by
      rwa [← hsplit]
    have hview := ofNat_take_false_iff (bitsUsed + shift - 32) (32 - shift) hcur'
    rwa [← hsplit] at hview
  · have hzero : bitsUsed + shift - 32 = 0 := by omega
    have hfit : currentByte < 2 ^ (32 - shift) :=
      Nat.lt_of_lt_of_le hcur (Nat.pow_le_pow_right (by decide) (by omega))
    rw [hzero]
    simpa using hfit

/-- Every width is at most 30. -/
theorem huffmanEntry_bits_le (c : UInt8) : (huffmanEntry c.toNat).bits ≤ 30 := by
  have hall : ((List.range 256).all (fun i => (huffmanEntry i).bits ≤ 30)) = true := by
    decide +kernel
  exact of_decide_eq_true
    (List.all_eq_true.mp hall c.toNat (List.mem_range.mpr (UInt8.toNat_lt c)))

/-- The ones that fill the last octet. -/
theorem encodeLoop_nil {currentByte bitsUsed : Nat} (hbits : bitsUsed < 8) :
    ∃ k, k < 8 ∧ ofBytes (encodeLoop [] currentByte bitsUsed) =
      ofNat bitsUsed currentByte ++ List.replicate k true := by
  rw [encodeLoop]
  by_cases hpos : bitsUsed > 0
  · refine ⟨8 - bitsUsed, by omega, ?_⟩
    have hones : 2 ^ (8 - bitsUsed) - 1 < 2 ^ (8 - bitsUsed) :=
      Nat.sub_lt (Nat.two_pow_pos _) (by decide)
    have hor : currentByte <<< (8 - bitsUsed) ||| (2 ^ (8 - bitsUsed) - 1) =
        currentByte * 2 ^ (8 - bitsUsed) + (2 ^ (8 - bitsUsed) - 1) := by
      rw [Nat.shiftLeft_eq, Nat.mul_comm, ← Nat.two_pow_add_eq_or_of_lt hones]
    have hview : ofNat 8 (currentByte * 2 ^ (8 - bitsUsed) + (2 ^ (8 - bitsUsed) - 1)) =
        ofNat bitsUsed currentByte ++ List.replicate (8 - bitsUsed) true := by
      rw [← ofNat_ones, ← ofNat_append bitsUsed (8 - bitsUsed) _ _ hones]
      congr 1
      omega
    rw [if_pos hpos, ofBytes_cons, ofBytes_nil, UInt8.toNat_ofNat', hor]
    rw [Nat.mod_mod_of_dvd _ (by decide), ofNat_mod, hview]
    simp
  · have hzero : bitsUsed = 0 := by omega
    refine ⟨0, by omega, ?_⟩
    simp [hzero, ofNat]

/-- One octet of the input: whole octets of the kept bits and the code word
are written, and the rest is pending. -/
theorem encodeLoop_cons (c : UInt8) (s : Bytes) {currentByte bitsUsed : Nat}
    (hcur : currentByte < 2 ^ bitsUsed) :
    ∃ out currentByte' bitsUsed',
      encodeLoop (c :: s) currentByte bitsUsed =
        out ++ encodeLoop s currentByte' bitsUsed' ∧
      ofBytes out ++ ofNat bitsUsed' currentByte' =
        ofNat bitsUsed (keptBits currentByte (huffmanEntry c.toNat).bits) ++ codeWord c ∧
      bitsUsed' < 8 ∧ currentByte' < 2 ^ bitsUsed' := by
  have hcode := huffmanEntry_code_lt c
  have hwidth := huffmanEntry_bits_le c
  have hcw : codeWord c = ofNat (huffmanEntry c.toNat).bits (huffmanEntry c.toNat).code := rfl
  rw [encodeLoop, hcw]
  generalize huffmanEntry c.toNat = entry at hcode hwidth
  have hkept : keptBits currentByte entry.bits < 2 ^ bitsUsed :=
    Nat.lt_of_le_of_lt (Nat.mod_le _ _) hcur
  have hword : (currentByte <<< entry.bits) % 2 ^ 32 ||| entry.code =
      keptBits currentByte entry.bits * 2 ^ entry.bits + entry.code := by
    have hsplit : (2 : Nat) ^ 32 = 2 ^ (32 - entry.bits) * 2 ^ entry.bits := by
      rw [← Nat.pow_add]
      congr 1
      omega
    rw [Nat.shiftLeft_eq, hsplit, Nat.mul_mod_mul_right, keptBits,
      Nat.mul_comm, ← Nat.two_pow_add_eq_or_of_lt hcode]
  have hlt : keptBits currentByte entry.bits * 2 ^ entry.bits + entry.code <
      2 ^ (bitsUsed + entry.bits) := by
    have hle : (keptBits currentByte entry.bits + 1) * 2 ^ entry.bits ≤
        2 ^ bitsUsed * 2 ^ entry.bits := Nat.mul_le_mul_right _ hkept
    rw [Nat.add_mul, Nat.one_mul] at hle
    rw [Nat.pow_add]
    omega
  simp only [hword]
  obtain ⟨hout, hrest, hrestlt⟩ := drainBytes_spec (bitsUsed + entry.bits)
    (keptBits currentByte entry.bits * 2 ^ entry.bits + entry.code)
    (bitsUsed + entry.bits) (by omega) hlt
  rw [ofNat_append _ _ _ _ hcode] at hout
  exact ⟨_, _, _, rfl, hout, hrest, hrestlt⟩

/-- The loop appends the code words to the pending bits, and ones up to the
next octet, exactly when no octet loses a bit.  The pending bits are those of
`front` and the words before, past the last whole octet. -/
theorem encodeLoop_bits_iff (s : Bytes) :
    ∀ {currentByte bitsUsed : Nat} {front : List Bool}, bitsUsed < 8 →
      currentByte < 2 ^ bitsUsed → 8 ∣ front.length →
      ((∃ k, k < 8 ∧ ofBytes (encodeLoop s currentByte bitsUsed) =
          ofNat bitsUsed currentByte ++ s.flatMap codeWord ++ List.replicate k true) ↔
        KeepsBitsAfter (front ++ ofNat bitsUsed currentByte) s) := by
  induction s with
  | nil =>
    intro currentByte bitsUsed front hbits _ _
    simpa using ⟨fun _ => keepsBitsAfter_nil _, fun _ => encodeLoop_nil hbits⟩
  | cons c s ih =>
    intro currentByte bitsUsed front hbits hcur hfront
    have hshift := huffmanEntry_bits_le c
    obtain ⟨out, cur', used', hloop, hout, hused', hcur'⟩ := encodeLoop_cons c s hcur
    rw [keepsBitsAfter_cons, unfilled_append hfront (by simpa using hbits), ofNat_length,
      shiftedOut_false_iff hshift hcur]
    by_cases hkept : keptBits currentByte (huffmanEntry c.toNat).bits = currentByte
    · -- nothing is lost here, so the rest of the string decides
      rw [hkept] at hout
      have hnext : front ++ ofNat bitsUsed currentByte ++ codeWord c =
          (front ++ ofBytes out) ++ ofNat used' cur' := by
        rw [List.append_assoc, ← hout, List.append_assoc]
      have hfront' : 8 ∣ (front ++ ofBytes out).length := by
        rw [List.length_append, ofBytes_length]
        exact (Nat.dvd_add_iff_right hfront).mp (Nat.dvd_mul_right 8 _)
      rw [hnext, ← ih hused' hcur' hfront', hloop, List.flatMap_cons, ofBytes_append]
      have hsame : ∀ k, ofNat bitsUsed currentByte ++ (codeWord c ++ s.flatMap codeWord) ++
          List.replicate k true =
          ofBytes out ++ (ofNat used' cur' ++ s.flatMap codeWord ++ List.replicate k true) := by
        intro k
        rw [← List.append_assoc (ofNat bitsUsed currentByte), ← hout]
        simp only [List.append_assoc]
      simp only [hsame, List.append_cancel_left_eq, hkept, true_and]
    · -- the octets written here already show the kept bits, which are not all
      refine ⟨fun ⟨k, _, hbitsOut⟩ => absurd ?_ hkept, fun h => absurd h.1 hkept⟩
      have hover : 32 < bitsUsed + (huffmanEntry c.toNat).bits := by
        apply Nat.lt_of_not_le
        intro hle
        apply hkept
        rw [keptBits]
        apply Nat.mod_eq_of_lt
        exact Nat.lt_of_lt_of_le hcur (Nat.pow_le_pow_right (by decide) (by omega))
      have hlen : bitsUsed ≤ (ofBytes out).length := by
        have hwhole := congrArg List.length hout
        simp only [List.length_append, ofNat_length, codeWord, HuffmanCode.word] at hwhole
        omega
      have hleft : (ofBytes out).take bitsUsed =
          ofNat bitsUsed (keptBits currentByte (huffmanEntry c.toNat).bits) := by
        have hmore : (ofBytes out ++ ofNat used' cur').take bitsUsed = (ofBytes out).take bitsUsed :=
          List.take_append_of_le_length hlen
        rw [← hmore, hout]
        exact List.take_left' (ofNat_length _ _)
      have hright : (ofBytes out).take bitsUsed = ofNat bitsUsed currentByte := by
        rw [hloop, ofBytes_append, List.append_assoc] at hbitsOut
        rw [← List.take_append_of_le_length hlen, hbitsOut]
        exact List.take_left' (ofNat_length _ _)
      exact ofNat_inj (Nat.lt_of_le_of_lt (Nat.mod_le _ _) hcur) hcur (hleft.symm.trans hright)

/-- The encoder writes the code words and pads the last octet with ones
exactly when no octet loses a bit. -/
theorem hpackHuffmanEncode_bits_iff (s : Bytes) :
    (∃ k, k < 8 ∧ ofBytes (hpackHuffmanEncode s) =
        s.flatMap codeWord ++ List.replicate k true) ↔ KeepsBits s := by
  have hpow : 0 < 2 ^ 0 := by decide
  have hfront : 8 ∣ ([] : List Bool).length := Nat.dvd_zero 8
  have h := encodeLoop_bits_iff s (by decide) hpow hfront
  simpa [hpackHuffmanEncode, KeepsBits, ofNat] using h

/-- After the seven bits `1111011` of the letter `z` the thirty bits of a line
feed push five set bits out of `currentByte`. -/
theorem hpackHuffmanEncode_loses :
    ¬ ∃ k, k < 8 ∧ ofBytes (hpackHuffmanEncode [122, 10]) =
      ([122, 10] : Bytes).flatMap codeWord ++ List.replicate k true := by
  decide +kernel

/-- Octets whose word has at most 25 bits are always written in full. -/
theorem hpackHuffmanEncode_bits {s : Bytes}
    (h : ∀ c ∈ s, (huffmanEntry c.toNat).bits ≤ 25) :
    ∃ k, k < 8 ∧ ofBytes (hpackHuffmanEncode s) =
      s.flatMap codeWord ++ List.replicate k true := by
  have hkeeps : KeepsBitsAfter ([] ++ ofNat 0 0) s := by
    simpa [ofNat, KeepsBits] using keepsBits_of_width h
  have hpow : 0 < 2 ^ 0 := by decide
  obtain ⟨k, hk, hbits⟩ := (encodeLoop_bits_iff s (by decide) hpow (by simp)).mpr hkeeps
  exact ⟨k, hk, by simpa [hpackHuffmanEncode, ofNat] using hbits⟩

end HttpRequestClient.Hpack
