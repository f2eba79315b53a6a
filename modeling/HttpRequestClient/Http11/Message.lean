import HttpRequestClient.Http11.Exchange

/-!
# Responses on the wire

The messages that a server sends, by RFC 9112: a status line, header lines,
and a body that is chunked, has a length, or ends with the connection.  A
value of `ResponseHead` or `Body` is well formed, and `wire` is its bytes.

* `headOf_wire`: the reader finds the status code and the header lines.
* `scanBody_wire`: the scan of a body finds its data, and what follows it.
* `bodyFails_cut`: when a part of a body is found not to be whole.
-/

namespace HttpRequestClient.Http11

open Parts

/-! ## Lines -/

/-- A line on the wire. -/
def crlf (text : Bytes) : Bytes := text ++ [13, 10]

/-- The line as the reader finds it, before the line feed. -/
def rawLine (text : Bytes) : Bytes := text ++ [13]

theorem cut_crlf {text : Bytes} (h : 10 ∉ text) (rest : Bytes) :
    cut 10 (crlf text ++ rest) = some (rawLine text, rest) := by
  have hraw : (10 : UInt8) ∉ rawLine text := by
    rw [rawLine, List.mem_append, List.mem_singleton]
    rintro (hmem | hcr)
    · exact h hmem
    · cases hcr
  have heq : crlf text ++ rest = rawLine text ++ 10 :: rest := by
    simp [crlf, rawLine]
  rw [heq]
  exact cut_append hraw rest

theorem lineText_rawLine {text : Bytes} (h : 0 ∉ text) : lineText (rawLine text) = text := by
  have hdrop : dropCr (rawLine text) = text := by
    simp [dropCr, rawLine]
  rw [lineText, hdrop]
  exact cstr_eq_self h

/-- A part of a line and what follows it: the line is not complete, or it is
the front of the part. -/
theorem cut_line {text q tail more : Bytes} (h : 10 ∉ text)
    (hq : q ++ tail = crlf text ++ more) :
    cut 10 q = none ∨ ∃ q', q = crlf text ++ q' ∧ q' ++ tail = more := by
  rcases List.append_eq_append_iff.mp hq with ⟨as, has, hmore⟩ | ⟨bs, hbs, hmore⟩
  · -- `q` stops inside the line or right behind it
    by_cases hnil : as = []
    · right
      subst hnil
      refine ⟨[], ?_, by simpa using hmore⟩
      rw [has]
      simp
    · left
      rw [cut_eq_none_iff]
      intro hmem
      obtain ⟨init, last, rfl⟩ := (List.eq_nil_or_concat as).resolve_left hnil
      have hcut : q ++ init = rawLine text := by
        have hdrop := congrArg List.dropLast has
        simpa [crlf, rawLine, List.dropLast_append] using hdrop.symm
      have hraw : (10 : UInt8) ∈ rawLine text := by
        rw [← hcut]
        exact List.mem_append_left _ hmem
      rw [rawLine, List.mem_append, List.mem_singleton] at hraw
      rcases hraw with hmem' | hcr
      · exact h hmem'
      · cases hcr
  · exact Or.inr ⟨bs, hbs, hmore.symm⟩

/-- A line of text that is not empty. -/
abbrev TextLine := { text : Bytes // text ≠ [] ∧ 10 ∉ text ∧ 0 ∉ text }

/-- Lines and the empty line behind them. -/
def sectionWire (lines : List TextLine) : Bytes :=
  (lines.map (fun line => crlf line.val)).flatten ++ crlf []

/-- The same as the reader finds them. -/
def sectionLines (lines : List TextLine) : List Bytes :=
  lines.map (fun line => rawLine line.val) ++ [rawLine []]

theorem sectionWire_cons (line : TextLine) (lines : List TextLine) :
    sectionWire (line :: lines) = crlf line.val ++ sectionWire lines := by
  simp [sectionWire]

theorem scanSection_wire (lines : List TextLine) (rest : Bytes) :
    scanSection (sectionWire lines ++ rest) =
      ⟨sectionLines lines, lines.map Subtype.val, .complete rest⟩ := by
  induction lines with
  | nil =>
    have hcut : cut 10 (crlf [] ++ rest) = some (rawLine [], rest) := cut_crlf (by simp) rest
    rw [sectionWire, List.map_nil, List.flatten_nil, List.nil_append, scanSection_some hcut,
      if_pos (by rfl)]
    rfl
  | cons line lines ih =>
    obtain ⟨hne, hlf, hnul⟩ := line.property
    rw [sectionWire_cons, List.append_assoc, scanSection_some (cut_crlf hlf _),
      lineText_rawLine hnul, if_neg hne, ih]
    rfl

theorem scanSection_cut (lines : List TextLine) :
    ∀ {q tail : Bytes}, tail ≠ [] → q ++ tail = sectionWire lines →
      (scanSection q).result = .ended := by
  induction lines with
  | nil =>
    intro q tail htail hq
    have hq' : q ++ tail = crlf [] ++ [] := by rw [hq]; rfl
    rcases cut_line (by simp) hq' with hnone | ⟨q', -, hmore⟩
    · rw [scanSection_none hnone]
    · exact absurd (List.append_eq_nil_iff.mp hmore).2 htail
  | cons line lines ih =>
    intro q tail htail hq
    obtain ⟨hne, hlf, hnul⟩ := line.property
    rw [sectionWire_cons] at hq
    rcases cut_line hlf hq with hnone | ⟨q', rfl, hmore⟩
    · rw [scanSection_none hnone]
    · rw [scanSection_some (cut_crlf hlf _), lineText_rawLine hnul, if_neg hne]
      exact ih htail hmore

/-! ## Chunks -/

/-- A chunk size line: hexadecimal digits, blanks, and an extension that
starts with a semicolon. -/
structure SizeLine where
  digits : Bytes
  blanks : Bytes
  extension : Bytes
  digits_ne : digits ≠ []
  digits_hex : ∀ c ∈ digits, isDigitOf 16 c = true
  blanks_ok : ∀ c ∈ blanks, c = 32 ∨ c = 9
  extension_ok : extension = [] ∨ ∃ text, extension = 59 :: text
  extension_text : 10 ∉ extension ∧ 0 ∉ extension

def SizeLine.text (line : SizeLine) : Bytes := line.digits ++ line.blanks ++ line.extension

/-- The number on the line. -/
def SizeLine.size (line : SizeLine) : Nat := digitsValue 16 0 line.digits

theorem SizeLine.text_ok (line : SizeLine) : 10 ∉ line.text ∧ 0 ∉ line.text := by
  obtain ⟨hlf, hnul⟩ := line.extension_text
  constructor
  · rw [SizeLine.text, List.mem_append, List.mem_append]
    rintro ((h | h) | h)
    · exact (isDigitOf_spec (line.digits_hex _ h)).2.2.2.2.2.2.1 rfl
    · rcases line.blanks_ok _ h with h | h <;> cases h
    · exact hlf h
  · rw [SizeLine.text, List.mem_append, List.mem_append]
    rintro ((h | h) | h)
    · exact (isDigitOf_spec (line.digits_hex _ h)).2.2.2.2.2.2.2 rfl
    · rcases line.blanks_ok _ h with h | h <;> cases h
    · exact hnul h

/-- Blanks behind a word are trimmed. -/
theorem trim_blanks {word blanks : Bytes} (hword : ∀ c ∈ word, isSpaceChar c = false)
    (hblanks : ∀ c ∈ blanks, isSpaceChar c = true) (hne : word ≠ []) :
    trim (word ++ blanks) = word := by
  have hfront : (word ++ blanks).dropWhile isSpaceChar = word ++ blanks := by
    cases word with
    | nil => exact absurd rfl hne
    | cons c cs =>
      rw [List.cons_append, List.dropWhile_cons_of_neg]
      rw [hword c List.mem_cons_self]
      exact Bool.false_ne_true
  have hback : (blanks.reverse ++ word.reverse).dropWhile isSpaceChar = word.reverse := by
    rw [List.dropWhile_append_of_pos (fun c hc => hblanks c (List.mem_reverse.mp hc))]
    cases hrev : word.reverse with
    | nil => rfl
    | cons c cs =>
      rw [List.dropWhile_cons_of_neg]
      rw [hword c (List.mem_reverse.mp (by rw [hrev]; exact List.mem_cons_self))]
      exact Bool.false_ne_true
  rw [trim, hfront, List.reverse_append, hback, List.reverse_reverse]

/-- The number of a size line is read, up to the largest `long`. -/
theorem chunkSizeOf_text (line : SizeLine) :
    chunkSizeOf line.text = (min line.size LLONG_MAX : Nat) := by
  have hword : ∀ c ∈ line.digits, isSpaceChar c = false := by
    intro c hc
    rw [isSpaceChar, (isDigitOf_spec (line.digits_hex c hc)).1]
    simp
  have hblanks : ∀ c ∈ line.blanks, isSpaceChar c = true := by
    intro c hc
    rcases line.blanks_ok c hc with rfl | rfl <;> decide
  have hno : (59 : UInt8) ∉ line.digits ++ line.blanks := by
    rw [List.mem_append]
    rintro (h | h)
    · exact (isDigitOf_spec (line.digits_hex _ h)).2.2.2.2.2.1 rfl
    · rcases line.blanks_ok _ h with h | h <;> cases h
  have hvalue : strtol (trim (line.digits ++ line.blanks)) 16 = (min line.size LLONG_MAX : Nat) := by
    rw [trim_blanks hword hblanks line.digits_ne, strtol]
    exact strtoll_digits (by decide) line.digits_ne line.digits_hex
  rw [chunkSizeOf, SizeLine.text]
  rcases line.extension_ok with hext | ⟨text, hext⟩
  · rw [hext, List.append_nil, cut_eq_none_iff.mpr hno]
    exact hvalue
  · rw [hext, cut_append hno]
    exact hvalue

/-- A chunk with data. -/
structure Chunk where
  line : SizeLine
  data : Bytes
  size_eq : line.size = data.length
  data_ne : data ≠ []

def Chunk.wire (chunk : Chunk) : Bytes := crlf chunk.line.text ++ (chunk.data ++ crlf [])

/-- The last chunk. -/
abbrev LastChunk := { line : SizeLine // line.size = 0 }

/-- Chunks, the last chunk and the trailers. -/
def chunksWire (chunks : List Chunk) (last : LastChunk) (trailers : List TextLine) : Bytes :=
  (chunks.map Chunk.wire).flatten ++ (crlf last.val.text ++ sectionWire trailers)

/-- The lines of a chunked body. -/
def chunksLines (chunks : List Chunk) (last : LastChunk) (trailers : List TextLine) : List Bytes :=
  (chunks.map (fun chunk => [rawLine chunk.line.text, rawLine []])).flatten ++
    rawLine last.val.text :: sectionLines trailers

def chunksData (chunks : List Chunk) : Bytes := (chunks.map Chunk.data).flatten

theorem chunksWire_cons (chunk : Chunk) (chunks : List Chunk) (last : LastChunk)
    (trailers : List TextLine) :
    chunksWire (chunk :: chunks) last trailers =
      crlf chunk.line.text ++ (chunk.data ++ (crlf [] ++ chunksWire chunks last trailers)) := by
  simp [chunksWire, Chunk.wire]

/-- Every chunked body is read back, with what follows it. -/
theorem scanChunks_wire (chunks : List Chunk) (last : LastChunk) (trailers : List TextLine)
    (rest : Bytes) (hsize : (chunksData chunks).length ≤ LLONG_MAX) :
    scanChunks (chunksWire chunks last trailers ++ rest) =
      ⟨chunksLines chunks last trailers, chunksData chunks, .complete rest⟩ := by
  induction chunks with
  | nil =>
    have htext := last.val.text_ok
    have hzero : chunkSizeOf last.val.text = 0 := by
      rw [chunkSizeOf_text, last.property]
      rfl
    rw [chunksWire, List.map_nil, List.flatten_nil, List.nil_append, List.append_assoc,
      scanChunks_some (cut_crlf htext.1 _), lineText_rawLine htext.2, hzero, if_neg (by decide),
      if_pos rfl, scanSection_wire]
    rfl
  | cons chunk chunks ih =>
    have htext := chunk.line.text_ok
    have hpos : 0 < chunk.data.length := List.length_pos_iff.mpr chunk.data_ne
    have hdata : chunksData (chunk :: chunks) = chunk.data ++ chunksData chunks := by
      simp [chunksData]
    rw [hdata, List.length_append] at hsize
    have hvalue : chunkSizeOf chunk.line.text = chunk.data.length := by
      rw [chunkSizeOf_text, chunk.size_eq, Nat.min_eq_left (by omega)]
    have hskip : cut 10 (crlf [] ++ (chunksWire chunks last trailers ++ rest)) =
        some (rawLine [], chunksWire chunks last trailers ++ rest) := cut_crlf (by simp) _
    rw [chunksWire_cons, List.append_assoc, scanChunks_some (cut_crlf htext.1 _),
      lineText_rawLine htext.2, hvalue, if_neg (by omega), if_neg (by omega), Int.toNat_natCast,
      List.append_assoc, if_neg (by simp), List.take_left, List.drop_left, scanAfter,
      List.append_assoc, hskip]
    simp only [ih (by omega), hdata]
    rfl

/-- A part of a chunked body is found not to be whole. -/
theorem scanChunks_cut (chunks : List Chunk) (last : LastChunk) (trailers : List TextLine) :
    ∀ {q tail : Bytes}, tail ≠ [] → q.length ≤ LLONG_MAX →
      q ++ tail = chunksWire chunks last trailers → (scanChunks q).result = .ended := by
  induction chunks with
  | nil =>
    intro q tail htail hsize hq
    have htext := last.val.text_ok
    have hzero : chunkSizeOf last.val.text = 0 := by
      rw [chunkSizeOf_text, last.property]
      rfl
    rw [chunksWire, List.map_nil, List.flatten_nil, List.nil_append] at hq
    rcases cut_line htext.1 hq with hnone | ⟨q', rfl, hmore⟩
    · rw [scanChunks_none hnone]
    · rw [scanChunks_some (cut_crlf htext.1 _), lineText_rawLine htext.2, hzero,
        if_neg (by decide), if_pos rfl]
      exact scanSection_cut trailers htail hmore
  | cons chunk chunks ih =>
    intro q tail htail hsize hq
    have htext := chunk.line.text_ok
    have hpos : 0 < chunk.data.length := List.length_pos_iff.mpr chunk.data_ne
    rw [chunksWire_cons] at hq
    rcases cut_line htext.1 hq with hnone | ⟨q', rfl, hmore⟩
    · rw [scanChunks_none hnone]
    · have hshort : q'.length < LLONG_MAX := by
        rw [List.length_append, crlf, List.length_append] at hsize
        simp only [List.length_cons, List.length_nil] at hsize
        omega
      rw [scanChunks_some (cut_crlf htext.1 _), lineText_rawLine htext.2, chunkSizeOf_text,
        chunk.size_eq, if_neg (by omega), if_neg (by unfold LLONG_MAX; omega), Int.toNat_natCast]
      by_cases hlt : q'.length < min chunk.data.length LLONG_MAX
      · rw [if_pos hlt]
      · -- the data is there, and so shorter than the largest `long`
        have hmin : min chunk.data.length LLONG_MAX = chunk.data.length := by omega
        rw [if_neg hlt, hmin]
        obtain ⟨q'', rfl, hmore'⟩ : ∃ q'', q' = chunk.data ++ q'' ∧
            q'' ++ tail = crlf [] ++ chunksWire chunks last trailers := by
          rcases List.append_eq_append_iff.mp hmore with ⟨as, has, htl⟩ | ⟨bs, hbs, htl⟩
          · have hnil : as = [] := by
              apply List.eq_nil_of_length_eq_zero
              have hlength := congrArg List.length has
              rw [List.length_append] at hlength
              omega
            subst hnil
            exact ⟨[], by rw [has]; simp, by simpa using htl⟩
          · exact ⟨bs, hbs, htl.symm⟩
        rw [List.take_left, List.drop_left, scanAfter]
        rcases cut_line (by simp) hmore' with hnone | ⟨q₃, rfl, hmore₃⟩
        · rw [hnone]
        · rw [cut_crlf (by simp)]
          refine ih htail ?_ hmore₃
          simp only [List.length_append] at hshort
          omega

/-! ## Heads -/

/-- A header line: a name and a value around the first colon. -/
structure HeaderLine where
  name : Bytes
  value : Bytes
  name_ok : 58 ∉ name ∧ 10 ∉ name ∧ 0 ∉ name
  value_ok : 10 ∉ value ∧ 0 ∉ value

def HeaderLine.text (line : HeaderLine) : Bytes := line.name ++ 58 :: line.value

/-- The header that the line stands for. -/
def HeaderLine.field (line : HeaderLine) : ResponseHeader := ⟨trim line.name, trim line.value⟩

theorem HeaderLine.text_ok (line : HeaderLine) :
    line.text ≠ [] ∧ 10 ∉ line.text ∧ 0 ∉ line.text := by
  obtain ⟨-, hname, hname'⟩ := line.name_ok
  obtain ⟨hvalue, hvalue'⟩ := line.value_ok
  refine ⟨by simp [HeaderLine.text], ?_, ?_⟩
  · simp [HeaderLine.text, hname, hvalue]
  · simp [HeaderLine.text, hname', hvalue']

def HeaderLine.textLine (line : HeaderLine) : TextLine := ⟨line.text, line.text_ok⟩

theorem headerOfLine_text (line : HeaderLine) : headerOfLine line.text = some line.field := by
  rw [headerOfLine, HeaderLine.text, cut_append line.name_ok.1]
  rfl

/-- A status line and header lines. -/
structure ResponseHead where
  minor : Bytes
  code : Bytes
  reason : Bytes
  lines : List HeaderLine
  minor_ok : ∀ c ∈ minor, isspace c = false ∧ c ≠ 0
  code_ok : code.length = 3 ∧ ∀ c ∈ code, isdigit c = true
  reason_ok : 10 ∉ reason ∧ 0 ∉ reason

def ResponseHead.statusLine (head : ResponseHead) : Bytes :=
  ascii "HTTP/1." ++ (head.minor ++ 32 :: (head.code ++ head.reason))

def ResponseHead.wire (head : ResponseHead) : Bytes :=
  crlf head.statusLine ++ sectionWire (head.lines.map HeaderLine.textLine)

/-- The lines of the head as the reader finds them. -/
def ResponseHead.rawLines (head : ResponseHead) : List Bytes :=
  rawLine head.statusLine :: sectionLines (head.lines.map HeaderLine.textLine)

/-- The status and the header lines, trimmed, in order. -/
def ResponseHead.fields (head : ResponseHead) : List ResponseHeader :=
  ⟨ascii ":status", head.code⟩ :: head.lines.map HeaderLine.field

/-- As many of them as a stream stores. -/
def ResponseHead.stored (head : ResponseHead) : List ResponseHeader :=
  head.fields.take RESPONSE_HEADERS_MAX_SIZE

def ResponseHead.status (head : ResponseHead) : Int := atoi head.code

theorem ResponseHead.statusLine_ok (head : ResponseHead) :
    10 ∉ head.statusLine ∧ 0 ∉ head.statusLine := by
  have hprefix : (10 : UInt8) ∉ ascii "HTTP/1." ∧ (0 : UInt8) ∉ ascii "HTTP/1." := by decide
  have hdigit : ∀ c ∈ head.code, c ≠ 10 ∧ c ≠ 0 := fun c hc =>
    (isDigitOf_spec (isDigitOf_of_le (by decide)
      (isDigitOf_of_isdigit (head.code_ok.2 c hc)))).2.2.2.2.2.2
  obtain ⟨hlf, hnul⟩ := head.reason_ok
  constructor
  · simp only [ResponseHead.statusLine, List.mem_append, List.mem_cons]
    rintro (h | h | h | h | h)
    · exact hprefix.1 h
    · exact absurd (head.minor_ok _ h).1 (by decide)
    · cases h
    · exact (hdigit _ h).1 rfl
    · exact hlf h
  · simp only [ResponseHead.statusLine, List.mem_append, List.mem_cons]
    rintro (h | h | h | h | h)
    · exact hprefix.2 h
    · exact (head.minor_ok _ h).2 rfl
    · cases h
    · exact (hdigit _ h).2 rfl
    · exact hnul h

theorem statusCodeOf_statusLine (head : ResponseHead) :
    statusCodeOf head.statusLine = some head.code := by
  have hlength : (ascii "HTTP/1.").length = 7 := by decide
  have hminor : ∀ c ∈ head.minor, (decide ¬isSpaceChar c = true) = true := by
    intro c hc
    rw [isSpaceChar, (head.minor_ok c hc).1]
    simp
  obtain ⟨hthree, hdigits⟩ := head.code_ok
  have hcode : (head.code ++ head.reason).dropWhile isSpaceChar = head.code ++ head.reason := by
    cases hc : head.code with
    | nil => rw [hc] at hthree; cases hthree
    | cons c cs =>
      have hdigit := hdigits c (by rw [hc]; exact List.mem_cons_self)
      have hspace := (isDigitOf_spec (isDigitOf_of_le (by decide)
        (isDigitOf_of_isdigit hdigit) : isDigitOf 16 c = true)).1
      rw [List.cons_append, List.dropWhile_cons_of_neg]
      rw [isSpaceChar, hspace]
      simp
  have hbehind : (((head.minor ++ 32 :: (head.code ++ head.reason)).dropWhile
      (fun c => ¬isSpaceChar c)).dropWhile isSpaceChar) = head.code ++ head.reason := by
    rw [List.dropWhile_append_of_pos hminor, List.dropWhile_cons_of_neg (by decide),
      List.dropWhile_cons_of_pos (by decide), hcode]
  have hcopy : copyStatusCode (head.code ++ head.reason) = head.code := by
    rw [copyStatusCode, List.take_left' hthree]
    exact List.takeWhile_eq_self_iff.mpr hdigits
  rw [statusCodeOf, ResponseHead.statusLine, isHttp11StatusLine, List.take_left' hlength,
    List.drop_left' hlength]
  simp only [hbehind, hcopy, hthree, decide_true, not_true_eq_false, if_false, ne_eq]

theorem storedHeaders_texts (head : ResponseHead) :
    storedHeaders head.code (head.lines.map HeaderLine.text) = head.stored := by
  have hfields : (head.lines.map HeaderLine.text).filterMap headerOfLine =
      head.lines.map HeaderLine.field := by
    rw [List.filterMap_map]
    have hfun : headerOfLine ∘ HeaderLine.text = fun line => some (HeaderLine.field line) :=
      funext headerOfLine_text
    rw [hfun]
    simp
  rw [storedHeaders, hfields]
  rfl

theorem scanSection_head (head : ResponseHead) (rest : Bytes) :
    scanSection (sectionWire (head.lines.map HeaderLine.textLine) ++ rest) =
      ⟨sectionLines (head.lines.map HeaderLine.textLine), head.lines.map HeaderLine.text,
        .complete rest⟩ := by
  rw [scanSection_wire, List.map_map]
  rfl

/-- The reader finds the head, unless it meets its limit in it. -/
theorem headOf_wire {head : ResponseHead} {u : Unread UInt8} {rest : Bytes}
    (h : u.all = head.wire ++ rest) :
    headOf u = .failed .tooLong ∨
      ∃ u', headOf u = .read head.code (head.lines.map HeaderLine.text) u' ∧ u'.all = rest := by
  have hcut : cut 10 u.all = some (rawLine head.statusLine,
      sectionWire (head.lines.map HeaderLine.textLine) ++ rest) := by
    rw [h, ResponseHead.wire, List.append_assoc]
    exact cut_crlf head.statusLine_ok.1 _
  rw [headOf]
  cases hnext : nextLine u with
  | tooLong => exact Or.inl rfl
  | ended =>
    have hnone : cut 10 u.all = none := line_eq_ended hnext
    rw [hcut] at hnone
    cases hnone
  | line raw u' =>
    have hsome : cut 10 u.all = some (raw, u'.all) := line_eq_line hnext
    rw [hcut, Option.some.injEq, Prod.mk.injEq] at hsome
    obtain ⟨rfl, hall⟩ := hsome
    simp only [lineText_rawLine head.statusLine_ok.2, statusCodeOf_statusLine]
    by_cases hlong : (sectionOf u').2 = .tooLong
    · left
      rcases hsection : sectionOf u' with ⟨lines, outcome⟩
      rw [hsection] at hlong
      obtain rfl : outcome = .tooLong := hlong
      rfl
    · right
      obtain ⟨hcontent, hresult⟩ := sectionOf_scan u' hlong
      rw [← hall, scanSection_head] at hcontent hresult
      rcases hsection : sectionOf u' with ⟨lines, outcome⟩
      rw [hsection] at hcontent hresult
      obtain rfl : lines = head.lines.map HeaderLine.text := hcontent
      cases outcome with
      | done u'' =>
        have hrest : u''.all = rest := by
          simpa [Outcome.result] using hresult
        exact ⟨u'', rfl, hrest⟩
      | ended => cases hresult
      | refused => cases hresult
      | tooLong => cases hresult

/-- A head whose lines fit is read. -/
theorem headOf_roomy {head : ResponseHead} {u : Unread UInt8} {rest : Bytes} (hu : Roomy u)
    (hfits : Fits head.rawLines) (h : u.all = head.wire ++ rest) :
    ∃ u', headOf u = .read head.code (head.lines.map HeaderLine.text) u' ∧ u'.all = rest ∧
      Roomy u' := by
  have hcut : cut 10 u.all = some (rawLine head.statusLine,
      sectionWire (head.lines.map HeaderLine.textLine) ++ rest) := by
    rw [h, ResponseHead.wire, List.append_assoc]
    exact cut_crlf head.statusLine_ok.1 _
  obtain ⟨u₁, hnext, hall, hroom⟩ := nextLine_roomy hu hcut hfits.head
  have hleaves : (sectionOf u₁).2.LeavesRoom := by
    apply sectionOf_within u₁ hroom
    rw [hall, scanSection_head]
    exact hfits.tail
  have hhead := headOf_wire h
  simp only [headOf, hnext, lineText_rawLine head.statusLine_ok.2, statusCodeOf_statusLine]
    at hhead ⊢
  rcases hsection : sectionOf u₁ with ⟨lines, outcome⟩
  rw [hsection] at hleaves
  simp only [hsection] at hhead ⊢
  cases outcome with
  | done u' =>
    rcases hhead with hfailed | ⟨u'', hread, hrest⟩
    · cases hfailed
    · cases hread
      exact ⟨u', rfl, hrest, hleaves⟩
  | ended =>
    rcases hhead with hfailed | ⟨u'', hread, -⟩
    · cases hfailed
    · cases hread
  | refused =>
    rcases hhead with hfailed | ⟨u'', hread, -⟩
    · cases hfailed
    · cases hread
  | tooLong => exact absurd hleaves id

/-- What the head of a connection leaves follows the head. -/
theorem headOf_follows {head : ResponseHead} {parts : List Bytes} {rest : Bytes}
    {u : Unread UInt8} (h : parts.flatten = head.wire ++ rest)
    (hhead : headOf ⟨0, [], parts⟩ = .read head.code (head.lines.map HeaderLine.text) u)
    (hrest : u.all = rest) : Follows parts head.wire u := by
  obtain ⟨done, hfollows⟩ : ∃ done, Follows parts done u := by
    unfold headOf at hhead
    cases hnext : nextLine ⟨0, [], parts⟩ with
    | ended => simp only [hnext] at hhead; cases hhead
    | tooLong => simp only [hnext] at hhead; cases hhead
    | line raw u₁ =>
      simp only [hnext] at hhead
      cases hstatus : statusCodeOf (lineText raw) with
      | none => simp only [hstatus] at hhead; cases hhead
      | some code =>
        simp only [hstatus] at hhead
        rcases hsection : sectionOf u₁ with ⟨lines, outcome⟩
        rw [hsection] at hhead
        cases outcome with
        | done u' =>
          cases hhead
          exact sectionOf_follows u₁ (line_follows hnext) hsection
        | ended => cases hhead
        | refused => cases hhead
        | tooLong => cases hhead
  have hdone : done = head.wire := by
    have hflat := hfollows.flatten
    rw [h, hrest] at hflat
    exact (List.append_cancel_right hflat).symm
  rw [← hdone]
  exact hfollows

/-! ## Bodies -/

/-- A body and its framing. -/
inductive Body where
  | chunked (chunks : List Chunk) (last : LastChunk) (trailers : List TextLine)
  | length (data : Bytes)
  | untilClose (data : Bytes)

def Body.wire : Body → Bytes
  | .chunked chunks last trailers => chunksWire chunks last trailers
  | .length data => data
  | .untilClose data => data

/-- The bytes of the body without its framing. -/
def Body.data : Body → Bytes
  | .chunked chunks _ _ => chunksData chunks
  | .length data => data
  | .untilClose data => data

/-- The lines of the body as the reader finds them. -/
def Body.rawLines : Body → List Bytes
  | .chunked chunks last trailers => chunksLines chunks last trailers
  | .length _ => []
  | .untilClose _ => []

def Body.endsWithConnection : Body → Prop
  | .untilClose _ => True
  | _ => False

/-- The headers name the framing of the body: a transfer encoding that is
chunked, else a length in decimal digits, else neither. -/
def Body.FramedBy (headers : List ResponseHeader) : Body → Prop
  | .chunked _ _ _ => isChunked headers = true
  | .length data => isChunked headers = false ∧
      ∃ digits, headerValue (ascii "content-length") headers = some digits ∧ digits ≠ [] ∧
        (∀ c ∈ digits, isdigit c = true) ∧ digitsValue 10 0 digits = data.length
  | .untilClose _ => isChunked headers = false ∧
      headerValue (ascii "content-length") headers = none

/-- A length is read up to the largest `long long`. -/
theorem framingOf_length {headers : List ResponseHeader} {data : Bytes}
    (h : (Body.length data).FramedBy headers) :
    framingOf headers = .length (min data.length LLONG_MAX : Nat) := by
  obtain ⟨hchunked, digits, hvalue, hne, hdigits, hlength⟩ := h
  rw [framingOf, hchunked, hvalue]
  simp only [Bool.false_eq_true, if_false]
  rw [strtoll_digits (by decide) hne (fun c hc => isDigitOf_of_isdigit (hdigits c hc)), hlength]

theorem framingOf_untilClose {headers : List ResponseHeader} {data : Bytes}
    (h : (Body.untilClose data).FramedBy headers) : framingOf headers = .untilClose := by
  rw [framingOf, h.1, h.2]
  rfl

theorem scanBody_wire {headers : List ResponseHeader} {body : Body} (hframed : body.FramedBy headers)
    (hends : ¬body.endsWithConnection) (hsize : body.data.length ≤ LLONG_MAX) (rest : Bytes) :
    scanBody (framingOf headers) (body.wire ++ rest) =
      ⟨body.rawLines, body.data, .complete rest⟩ := by
  cases body with
  | chunked chunks last trailers =>
    have hframing : framingOf headers = .chunked := if_pos hframed
    rw [hframing]
    exact scanChunks_wire chunks last trailers rest hsize
  | length data =>
    have hmin : min data.length LLONG_MAX = data.length := Nat.min_eq_left hsize
    rw [framingOf_length hframed, hmin, scanBody, if_neg (by omega), Int.toNat_natCast]
    simp only [Body.wire, List.length_append, List.take_left, List.drop_left]
    rw [if_neg (by omega)]
    rfl
  | untilClose data => exact absurd trivial hends

/-! ### Bodies that are not whole -/

theorem headerValue_of_take {name value : Bytes} (n : Nat) :
    ∀ {headers : List ResponseHeader},
      headerValue name (headers.take n) = some value → headerValue name headers = some value := by
  induction n with
  | zero =>
    intro headers h
    rw [List.take_zero] at h
    cases h
  | succ n ih =>
    intro headers h
    cases headers with
    | nil => cases h
    | cons header headers =>
      rw [List.take_succ_cons] at h
      unfold headerValue at h ⊢
      split
      · rename_i hname
        rw [if_pos hname] at h
        exact h
      · rename_i hname
        rw [if_neg hname] at h
        exact ih h

/-- A transfer encoding that is stored is the one of the response. -/
theorem isChunked_of_stored {head : ResponseHead} (h : isChunked head.stored = true) :
    isChunked head.fields = true := by
  unfold isChunked at h ⊢
  cases hvalue : headerValue (ascii "transfer-encoding") head.stored with
  | none => rw [hvalue] at h; cases h
  | some transferEncoding =>
    rw [hvalue] at h
    rw [headerValue_of_take RESPONSE_HEADERS_MAX_SIZE hvalue]
    exact h

theorem bodyFails_length (ending : Ending) (bodyLen : Int) (bytes : Bytes) :
    bodyFails ending (scanBody (.length bodyLen) bytes).result ↔
      bodyLen < 0 ∨ ((bytes.length : Int) < bodyLen ∧ ending ≠ .closed) := by
  simp only [scanBody]
  by_cases hneg : bodyLen < 0
  · simp [hneg, bodyFails]
  · by_cases hshort : bytes.length < bodyLen.toNat
    · have hlt : (bytes.length : Int) < bodyLen := by omega
      simp [hneg, hshort, hlt, bodyFails]
    · have hge : ¬(bytes.length : Int) < bodyLen := by omega
      simp [hneg, hshort, hge, bodyFails]

/-- A part of a body fails when the connection does not end in order, unless
the headers that are stored name a length that has come. -/
theorem bodyFails_cut {head : ResponseHead} {body : Body} (hframed : body.FramedBy head.fields)
    {sent missing : Bytes} (hmissing : missing ≠ []) (hbody : sent ++ missing = body.wire)
    (hsize : sent.length ≤ LLONG_MAX) (ending : Ending) :
    bodyFails ending (scanBody (framingOf head.stored) sent).result ↔
      match framingOf head.stored with
      | .length bodyLen => bodyLen < 0 ∨ ((sent.length : Int) < bodyLen ∧ ending ≠ .closed)
      | _ => ending ≠ .closed := by
  cases hframing : framingOf head.stored with
  | chunked =>
    have hstored : isChunked head.stored = true := by
      by_contra hnot
      rw [framingOf, if_neg hnot] at hframing
      split at hframing <;> cases hframing
    have hchunked := isChunked_of_stored hstored
    cases body with
    | chunked chunks last trailers =>
      rw [scanBody, scanChunks_cut chunks last trailers hmissing hsize hbody]
      rfl
    | length data => rw [hframed.1] at hchunked; cases hchunked
    | untilClose data => rw [hframed.1] at hchunked; cases hchunked
  | length bodyLen => exact bodyFails_length ending bodyLen sent
  | untilClose => rfl

end HttpRequestClient.Http11
