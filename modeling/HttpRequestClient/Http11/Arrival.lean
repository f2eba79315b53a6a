import HttpRequestClient.Http11.Receiver

/-!
# A response as it arrives

The reader of `Receiver.lean` without its buffer: the status line, the header
section and the body are read from `Unread`, what the transport still has to
deliver part by part.  A body is a list of pieces, the parts in which the
funnel gets it.

The reader of the source does the same, for every transport:

* `readerReadLine_spec` and `readerReadBody_spec` for the buffer,
* `readHeaderSection_spec` and `readFramedBody_spec` for the loops above it.
-/

namespace HttpRequestClient.Http11

open Parts

/-! ## Reading parts -/

/-- How a section or a body comes to its end. -/
inductive Outcome where
  | done (rest : Unread UInt8)
  | ended
  | refused
  | tooLong

/-- The code of the source for it. -/
def Outcome.code (ending : Ending) : Outcome → Int
  | .done _ => 1
  | .ended => ending.code
  | .refused => -1
  | .tooLong => -1

def nextLine (u : Unread UInt8) : Line UInt8 := u.line 10 HTTP11_MAX_HEADER_SECTION

/-- The text of a line. -/
def lineText (raw : Bytes) : Bytes := cstr (dropCr raw)

/-- The texts of the lines up to an empty one. -/
def sectionOf (u : Unread UInt8) : List Bytes × Outcome :=
  match _h : nextLine u with
  | .line raw rest =>
    if lineText raw = [] then ([], .done rest)
    else
      let later := sectionOf rest
      (lineText raw :: later.1, later.2)
  | .ended => ([], .ended)
  | .tooLong => ([], .tooLong)
termination_by u.all.length
decreasing_by exact line_all_length _h

/-- What is left after a number of bytes, when there were that many. -/
def Outcome.ofRest : Option (Unread UInt8) → Outcome
  | some rest => .done rest
  | none => .ended

/-- The pieces of a number of bytes. -/
def bytesOf (n : Nat) (u : Unread UInt8) : List Bytes × Outcome :=
  ((u.take n).1, .ofRest (u.take n).2)

/-- The pieces of a chunked body. -/
def chunksOf (u : Unread UInt8) : List Bytes × Outcome :=
  match _h : nextLine u with
  | .line raw rest =>
    if chunkSizeOf (lineText raw) < 0 then ([], .refused)
    else if chunkSizeOf (lineText raw) = 0 then ([], (sectionOf rest).2)
    else
      match _hdata : rest.take (chunkSizeOf (lineText raw)).toNat with
      | (pieces, none) => (pieces, .ended)
      | (pieces, some rest) =>
        match _hline : nextLine rest with
        | .line _ rest =>
          let later := chunksOf rest
          (pieces ++ later.1, later.2)
        | .ended => (pieces, .ended)
        | .tooLong => (pieces, .tooLong)
  | .ended => ([], .ended)
  | .tooLong => ([], .tooLong)
termination_by u.all.length
decreasing_by
  have hdata := (take_eq_some _hdata).2.1
  have h1 := line_all_length _h
  have h2 := line_all_length _hline
  rw [hdata, List.length_drop] at h2
  omega

def lengthOf (bodyLen : Int) (u : Unread UInt8) : List Bytes × Outcome :=
  if bodyLen < 0 then ([], .refused) else bytesOf bodyLen.toNat u

/-- The body behind a header section.  What was fetched with the section is
not part of a body up to the end of the connection. -/
def bodyOf (framing : Framing) (u : Unread UInt8) : List Bytes × Outcome :=
  match framing with
  | .chunked => chunksOf u
  | .length bodyLen => lengthOf bodyLen u
  | .untilClose => (u.reads, .ended)

/-! ## Equations -/

theorem sectionOf_eq (u : Unread UInt8) :
    sectionOf u =
      match nextLine u with
      | .line raw rest =>
        if lineText raw = [] then ([], .done rest)
        else (lineText raw :: (sectionOf rest).1, (sectionOf rest).2)
      | .ended => ([], .ended)
      | .tooLong => ([], .tooLong) := by
  rw [sectionOf]
  split
  · rename_i h; rw [h]
  · rename_i h; rw [h]
  · rename_i h; rw [h]

theorem sectionOf_line {u rest : Unread UInt8} {raw : Bytes} (h : nextLine u = .line raw rest) :
    sectionOf u =
      if lineText raw = [] then ([], .done rest)
      else (lineText raw :: (sectionOf rest).1, (sectionOf rest).2) := by
  rw [sectionOf_eq, h]

theorem sectionOf_ended {u : Unread UInt8} (h : nextLine u = .ended) :
    sectionOf u = ([], .ended) := by
  rw [sectionOf_eq, h]

theorem sectionOf_tooLong {u : Unread UInt8} (h : nextLine u = .tooLong) :
    sectionOf u = ([], .tooLong) := by
  rw [sectionOf_eq, h]

/-- What follows the data of a chunk. -/
def chunkAfter (pieces : List Bytes) : Option (Unread UInt8) → List Bytes × Outcome
  | none => (pieces, .ended)
  | some rest =>
    match nextLine rest with
    | .line _ rest => (pieces ++ (chunksOf rest).1, (chunksOf rest).2)
    | .ended => (pieces, .ended)
    | .tooLong => (pieces, .tooLong)

theorem chunksOf_eq (u : Unread UInt8) :
    chunksOf u =
      match nextLine u with
      | .line raw rest =>
        if chunkSizeOf (lineText raw) < 0 then ([], .refused)
        else if chunkSizeOf (lineText raw) = 0 then ([], (sectionOf rest).2)
        else
          chunkAfter (rest.take (chunkSizeOf (lineText raw)).toNat).1
            (rest.take (chunkSizeOf (lineText raw)).toNat).2
      | .ended => ([], .ended)
      | .tooLong => ([], .tooLong) := by
  rw [chunksOf]
  split
  · rename_i raw rest h
    rw [h]
    simp only
    congr 2
    split
    · rename_i hdata
      rw [hdata]
      rfl
    · rename_i hdata
      rw [hdata]
      unfold chunkAfter
      simp only
      split
      · rename_i hline; rw [hline]
      · rename_i hline; rw [hline]
      · rename_i hline; rw [hline]
  · rename_i h; rw [h]
  · rename_i h; rw [h]

theorem chunksOf_line {u rest : Unread UInt8} {raw : Bytes} (h : nextLine u = .line raw rest) :
    chunksOf u =
      if chunkSizeOf (lineText raw) < 0 then ([], .refused)
      else if chunkSizeOf (lineText raw) = 0 then ([], (sectionOf rest).2)
      else
        chunkAfter (rest.take (chunkSizeOf (lineText raw)).toNat).1
          (rest.take (chunkSizeOf (lineText raw)).toNat).2 := by
  rw [chunksOf_eq, h]

theorem chunksOf_ended {u : Unread UInt8} (h : nextLine u = .ended) :
    chunksOf u = ([], .ended) := by
  rw [chunksOf_eq, h]

theorem chunksOf_tooLong {u : Unread UInt8} (h : nextLine u = .tooLong) :
    chunksOf u = ([], .tooLong) := by
  rw [chunksOf_eq, h]

/-! ## The buffer -/

/-- A reader that has met no end yet and has `u` left. -/
structure Shows (ending : Ending) (u : Unread UInt8) (reader : Http11Reader) : Prop where
  eof : reader.eof = false
  err : reader.err = 0
  ending : reader.transport.ending = ending
  unread : reader.unread = u

theorem shows_init (transport : Transport) :
    Shows transport.ending ⟨0, [], transport.parts⟩ (Http11Reader.init transport) :=
  ⟨rfl, rfl, rfl, rfl⟩

/-- A reader at the end of its transport gives the code of the ending. -/
structure AtEnd (ending : Ending) (reader : Http11Reader) : Prop where
  stopped : reader.eof = true ∨ reader.err ≠ 0
  code : readerEndCode reader = ending.code

/-- A fill takes one part. -/
theorem readerFill_cons {ending : Ending} {held : Nat} {head read : Bytes} {reads : List Bytes}
    {reader : Http11Reader} (h : Shows ending ⟨held, head, read :: reads⟩ reader) :
    Shows ending ⟨head.length + read.length, head ++ read, reads⟩ (readerFill reader) := by
  obtain ⟨⟨treads, tending⟩, buf, pos, eof, err⟩ := reader
  obtain ⟨heof, herr, hending, hunread⟩ := h
  simp only [Http11Reader.unread, Transport.parts, Unread.mk.injEq] at heof herr hending hunread
  obtain ⟨-, hhead, hreads⟩ := hunread
  cases treads with
  | nil => cases hreads
  | cons tread treads =>
    rw [List.map_cons, List.cons.injEq] at hreads
    have hpos : (tread.val.length : Int) > 0 := by
      have := tread.property.1
      omega
    unfold readerFill
    simp only [heof, herr, Bool.false_eq_true, ne_eq, not_true_eq_false, or_self, if_false,
      sessionReadTimed, if_pos hpos]
    refine ⟨rfl, rfl, hending, ?_⟩
    simp only [Http11Reader.unread, Transport.parts, List.drop_zero, List.length_append, hhead,
      hreads.1, hreads.2]

/-- A fill at the end of the transport meets the ending. -/
theorem readerFill_nil {ending : Ending} {held : Nat} {head : Bytes} {reader : Http11Reader}
    (h : Shows ending ⟨held, head, []⟩ reader) :
    AtEnd ending (readerFill reader) ∧
      (readerFill reader).buf.drop (readerFill reader).pos = head := by
  obtain ⟨⟨treads, tending⟩, buf, pos, eof, err⟩ := reader
  obtain ⟨heof, herr, hending, hunread⟩ := h
  simp only [Http11Reader.unread, Transport.parts, Unread.mk.injEq] at heof herr hending hunread
  obtain ⟨-, hhead, hreads⟩ := hunread
  have htreads : treads = [] := List.map_eq_nil_iff.mp hreads
  subst htreads hending heof herr
  cases tending with
  | closed => exact ⟨⟨Or.inl rfl, rfl⟩, hhead⟩
  | failed => exact ⟨⟨Or.inr (by simp [readerFill, sessionReadTimed, Ending.code]), rfl⟩, hhead⟩
  | timedOut => exact ⟨⟨Or.inr (by simp [readerFill, sessionReadTimed, Ending.code]), rfl⟩, hhead⟩

/-- What a request for a line answers. -/
def LineAnswer (ending : Ending) : Line UInt8 → Int × Bytes × Http11Reader → Prop
  | .line raw rest, (rc, text, reader) => rc = 1 ∧ text = lineText raw ∧ Shows ending rest reader
  | .ended, (rc, _, _) => rc = ending.code
  | .tooLong, (rc, _, _) => rc = -1

theorem Shows.head {ending : Ending} {u : Unread UInt8} {reader : Http11Reader}
    (h : Shows ending u reader) : reader.buf.drop reader.pos = u.head :=
  congrArg Unread.head h.unread

theorem Shows.held {ending : Ending} {u : Unread UInt8} {reader : Http11Reader}
    (h : Shows ending u reader) : reader.buf.length = u.held :=
  congrArg Unread.held h.unread

theorem Shows.reads {ending : Ending} {u : Unread UInt8} {reader : Http11Reader}
    (h : Shows ending u reader) : reader.transport.parts = u.reads :=
  congrArg Unread.reads h.unread

/-- The reader goes forward in its buffer. -/
theorem Shows.advance {ending : Ending} {u : Unread UInt8} {reader : Http11Reader}
    (h : Shows ending u reader) (n : Nat) :
    Shows ending ⟨u.held, u.head.drop n, u.reads⟩ { reader with pos := reader.pos + n } := by
  refine ⟨h.eof, h.err, h.ending, ?_⟩
  rw [← h.head, ← h.held, ← h.reads, List.drop_drop]
  rfl

/-- A line in the buffer is answered from it. -/
theorem readerReadLineLoop_found {ending : Ending} {u : Unread UInt8} {reader : Http11Reader}
    (h : Shows ending u reader) {raw after : Bytes} (hcut : cut 10 u.head = some (raw, after))
    (fuel : Nat) :
    LineAnswer ending (.line raw ⟨u.held, after, u.reads⟩)
      (readerReadLineLoop (fuel + 1) reader) := by
  have hafter : after = u.head.drop (raw.length + 1) := by
    obtain ⟨-, hhead⟩ := cut_eq_some_iff.mp hcut
    rw [hhead, ← List.drop_drop, List.drop_left, List.drop_one, List.tail_cons]
  rw [readerReadLineLoop, h.head, hcut]
  refine ⟨rfl, rfl, ?_⟩
  rw [hafter]
  exact h.advance _

theorem readerReadLineLoop_full {ending : Ending} {u : Unread UInt8} {reader : Http11Reader}
    (h : Shows ending u reader) (hcut : cut 10 u.head = none)
    (hfull : HTTP11_MAX_HEADER_SECTION ≤ u.held) (fuel : Nat) :
    LineAnswer ending .tooLong (readerReadLineLoop (fuel + 1) reader) := by
  rw [readerReadLineLoop, h.head, hcut, h.held]
  simp [h.eof, h.err, hfull, LineAnswer]

theorem readerReadLineLoop_fill {ending : Ending} {u : Unread UInt8} {reader : Http11Reader}
    (h : Shows ending u reader) (hcut : cut 10 u.head = none)
    (hroom : u.held < HTTP11_MAX_HEADER_SECTION) (fuel : Nat) :
    readerReadLineLoop (fuel + 1) reader = readerReadLineLoop fuel (readerFill reader) := by
  rw [readerReadLineLoop, h.head, hcut, h.held]
  simp [h.eof, h.err, Nat.not_le.mpr hroom]

theorem readerReadLineLoop_spec {ending : Ending} (reads : List Bytes) :
    ∀ (fuel held : Nat) (head : Bytes) (reader : Http11Reader), reads.length + 2 ≤ fuel →
      Shows ending ⟨held, head, reads⟩ reader →
      LineAnswer ending (lineFrom 10 HTTP11_MAX_HEADER_SECTION held head reads)
        (readerReadLineLoop fuel reader) := by
  induction reads with
  | nil =>
    intro fuel held head reader hfuel h
    obtain ⟨fuel, rfl⟩ : ∃ n, fuel = n + 1 + 1 := ⟨fuel - 2, by rw [List.length_nil] at hfuel; omega⟩
    cases hcut : cut 10 head with
    | some p =>
      rw [lineFrom_of_cut hcut]
      exact readerReadLineLoop_found h hcut _
    | none =>
      by_cases hfull : HTTP11_MAX_HEADER_SECTION ≤ held
      · rw [lineFrom_of_full hcut hfull]
        exact readerReadLineLoop_full h hcut hfull _
      · obtain ⟨⟨hstopped, hcode⟩, hhead⟩ := readerFill_nil h
        rw [lineFrom_nil hcut (by omega), readerReadLineLoop_fill h hcut (Nat.lt_of_not_le hfull),
          readerReadLineLoop, hhead, hcut]
        simp only [hstopped, if_true, LineAnswer]
        exact hcode
  | cons read reads ih =>
    intro fuel held head reader hfuel h
    obtain ⟨fuel, rfl⟩ : ∃ n, fuel = n + 1 :=
      ⟨fuel - 1, by rw [List.length_cons] at hfuel; omega⟩
    cases hcut : cut 10 head with
    | some p =>
      rw [lineFrom_of_cut hcut]
      exact readerReadLineLoop_found h hcut _
    | none =>
      by_cases hfull : HTTP11_MAX_HEADER_SECTION ≤ held
      · rw [lineFrom_of_full hcut hfull]
        exact readerReadLineLoop_full h hcut hfull _
      · rw [lineFrom_cons hcut (by omega), readerReadLineLoop_fill h hcut (Nat.lt_of_not_le hfull)]
        refine ih fuel _ _ _ ?_ (readerFill_cons h)
        rw [List.length_cons] at hfuel
        omega

/-- The line reader of the source is the one of `Parts`, whatever the parts
are. -/
theorem readerReadLine_spec {ending : Ending} {u : Unread UInt8} {reader : Http11Reader}
    (h : Shows ending u reader) : LineAnswer ending (nextLine u) (readerReadLine reader) := by
  have hlength : u.reads.length = reader.transport.reads.length := by
    rw [← h.reads, Transport.parts, List.length_map]
  exact readerReadLineLoop_spec u.reads _ u.held u.head reader (by omega) h

theorem readerReadLine_line {ending : Ending} {u rest : Unread UInt8} {reader : Http11Reader}
    {raw : Bytes} (h : Shows ending u reader) (hnext : nextLine u = .line raw rest) :
    ∃ reader', readerReadLine reader = (1, lineText raw, reader') ∧ Shows ending rest reader' := by
  have hspec := readerReadLine_spec h
  rw [hnext] at hspec
  generalize readerReadLine reader = answer at hspec
  obtain ⟨rc, text, reader'⟩ := answer
  obtain ⟨rfl, rfl, hrest⟩ := hspec
  exact ⟨reader', rfl, hrest⟩

theorem readerReadLine_ended {ending : Ending} {u : Unread UInt8} {reader : Http11Reader}
    (h : Shows ending u reader) (hnext : nextLine u = .ended) :
    ∃ text reader', readerReadLine reader = (ending.code, text, reader') := by
  have hspec := readerReadLine_spec h
  rw [hnext] at hspec
  generalize readerReadLine reader = answer at hspec
  obtain ⟨rc, text, reader'⟩ := answer
  obtain rfl : rc = ending.code := hspec
  exact ⟨text, reader', rfl⟩

theorem readerReadLine_tooLong {ending : Ending} {u : Unread UInt8} {reader : Http11Reader}
    (h : Shows ending u reader) (hnext : nextLine u = .tooLong) :
    ∃ text reader', readerReadLine reader = (-1, text, reader') := by
  have hspec := readerReadLine_spec h
  rw [hnext] at hspec
  generalize readerReadLine reader = answer at hspec
  obtain ⟨rc, text, reader'⟩ := answer
  obtain rfl : rc = -1 := hspec
  exact ⟨text, reader', rfl⟩

theorem Ending.code_ne_one (ending : Ending) : ending.code ≠ 1 := by
  cases ending <;> decide

/-- What reading a body answers: the funnel gets the pieces in order, and the
code is that of the outcome unless the funnel stopped. -/
structure BodyAnswer (lib : DecoderLib) (ending : Ending) (stream : Stream)
    (body : List Bytes × Outcome) (answer : Int × Stream × Http11Reader) : Prop where
  fed : answer.2.1 = (appendPieces lib stream body.1).2
  code : answer.1 = if (appendPieces lib stream body.1).1 then body.2.code ending else -1
  rest : (appendPieces lib stream body.1).1 = true → ∀ rest, body.2 = .done rest →
    Shows ending rest answer.2.2

/-- A body goes on behind pieces that the funnel took. -/
theorem BodyAnswer.append {lib : DecoderLib} {ending : Ending} {stream : Stream}
    (pieces : List Bytes) (body : List Bytes × Outcome) {answer : Int × Stream × Http11Reader}
    (htaken : (appendPieces lib stream pieces).1 = true)
    (h : BodyAnswer lib ending (appendPieces lib stream pieces).2 body answer) :
    BodyAnswer lib ending stream (pieces ++ body.1, body.2) answer := by
  have happend : appendPieces lib stream (pieces ++ body.1) =
      appendPieces lib (appendPieces lib stream pieces).2 body.1 := by
    rw [appendPieces_append, if_pos htaken]
  exact ⟨by rw [happend]; exact h.fed, by rw [happend]; exact h.code,
    by rw [happend]; exact h.rest⟩

/-- Nothing behind pieces that the funnel did not take is looked at. -/
theorem BodyAnswer.stopped {lib : DecoderLib} {ending : Ending} {stream : Stream}
    (pieces : List Bytes) (body : List Bytes × Outcome) {answer : Int × Stream × Http11Reader}
    (hrefused : (appendPieces lib stream pieces).1 = false) (hcode : answer.1 = -1)
    (hstream : answer.2.1 = (appendPieces lib stream pieces).2) :
    BodyAnswer lib ending stream (pieces ++ body.1, body.2) answer := by
  have happend : appendPieces lib stream (pieces ++ body.1) = appendPieces lib stream pieces := by
    rw [appendPieces_append, if_neg (by rw [hrefused]; exact Bool.false_ne_true)]
  refine ⟨by rw [happend]; exact hstream, by rw [happend, hrefused]; exact hcode, ?_⟩
  intro htaken
  rw [happend, hrefused] at htaken
  cases htaken

/-- The unread end of the buffer goes to the funnel when it is not enough. -/
theorem readerReadBodyLoop_drain (lib : DecoderLib) {ending : Ending} {u : Unread UInt8}
    {reader : Http11Reader} (h : Shows ending u reader) (stream : Stream) {n : Nat}
    (hn : u.head.length < n) (fuel : Nat) :
    ∃ reader' fuel', Shows ending ⟨u.held, [], u.reads⟩ reader' ∧ fuel ≤ fuel' ∧
      readerReadBodyLoop lib (fuel + 1) stream reader n =
        if (appendStreamPayload lib stream u.head).1 ≠ 1 then
          (-1, (appendStreamPayload lib stream u.head).2, reader')
        else
          readerReadBodyLoop lib fuel' (appendStreamPayload lib stream u.head).2 reader'
            (n - u.head.length) := by
  by_cases hnil : u.head = []
  · refine ⟨reader, fuel + 1, ?_, by omega, ?_⟩
    · rw [← hnil]; exact h
    · rw [hnil]
      simp
  · have hpos : 0 < u.head.length := List.length_pos_iff.mpr hnil
    refine ⟨{ reader with pos := reader.pos + u.head.length }, fuel, ?_, by omega, ?_⟩
    · have := h.advance u.head.length
      rwa [List.drop_length] at this
    · rw [readerReadBodyLoop, h.head]
      simp only [if_neg (show ¬ n = 0 by omega), if_pos (show u.head.length > 0 from hpos),
        if_neg (show ¬ n < u.head.length by omega), List.take_length]

/-- An empty buffer is filled. -/
theorem readerReadBodyLoop_fill {lib : DecoderLib} {ending : Ending} {held : Nat}
    {reads : List Bytes} {reader : Http11Reader} (h : Shows ending ⟨held, [], reads⟩ reader)
    (stream : Stream) {n : Nat} (hn : 0 < n) (fuel : Nat) :
    readerReadBodyLoop lib (fuel + 1) stream reader n =
      readerReadBodyLoop lib fuel stream (readerFill reader) n := by
  rw [readerReadBodyLoop, h.head]
  simp only [if_neg (show ¬ n = 0 by omega), List.length_nil, gt_iff_lt, Nat.lt_irrefl, if_false,
    h.eof, h.err, Bool.false_eq_true, ne_eq, not_true_eq_false, or_self]

/-- A buffer that has enough is read from. -/
theorem readerReadBodyLoop_enough {lib : DecoderLib} {ending : Ending} {u : Unread UInt8}
    {reader : Http11Reader} (h : Shows ending u reader) (stream : Stream) {n : Nat}
    (hn : n ≤ u.head.length) (fuel : Nat) :
    BodyAnswer lib ending stream ([u.head.take n], .done ⟨u.held, u.head.drop n, u.reads⟩)
      (readerReadBodyLoop lib (fuel + 2) stream reader n) := by
  by_cases hzero : n = 0
  · subst hzero
    rw [readerReadBodyLoop, if_pos rfl, List.take_zero, List.drop_zero]
    refine ⟨rfl, rfl, fun _ rest hrest => ?_⟩
    cases hrest
    exact h
  · have hpos : 0 < u.head.length := by omega
    have htake : (if n < u.head.length then n else u.head.length) = n := by
      split <;> omega
    rw [readerReadBodyLoop, if_neg hzero, h.head]
    simp only [if_pos (show u.head.length > 0 from hpos), htake, Nat.sub_self]
    by_cases hrefused : (appendStreamPayload lib stream (u.head.take n)).1 ≠ 1
    · rw [if_pos hrefused]
      refine ⟨?_, ?_, fun htaken => ?_⟩
      · rw [appendPieces_cons, if_pos hrefused]
      · rw [appendPieces_cons, if_pos hrefused]
        rfl
      · rw [appendPieces_cons, if_pos hrefused] at htaken
        cases htaken
    · rw [if_neg hrefused, readerReadBodyLoop, if_pos rfl]
      refine ⟨?_, ?_, fun _ rest hrest => ?_⟩
      · rw [appendPieces_cons, if_neg hrefused]
        rfl
      · rw [appendPieces_cons, if_neg hrefused]
        rfl
      · cases hrest
        exact h.advance n

theorem BodyAnswer.cons_stopped {lib : DecoderLib} {ending : Ending} {stream : Stream}
    {piece : Bytes} (hrefused : (appendStreamPayload lib stream piece).1 ≠ 1)
    (body : List Bytes × Outcome) (reader : Http11Reader) :
    BodyAnswer lib ending stream (piece :: body.1, body.2)
      (-1, (appendStreamPayload lib stream piece).2, reader) := by
  refine BodyAnswer.stopped [piece] body ?_ rfl ?_
  · rw [appendPieces_cons, if_pos hrefused]
  · rw [appendPieces_cons, if_pos hrefused]

theorem BodyAnswer.cons {lib : DecoderLib} {ending : Ending} {stream : Stream} {piece : Bytes}
    (htaken : ¬(appendStreamPayload lib stream piece).1 ≠ 1) (body : List Bytes × Outcome)
    {answer : Int × Stream × Http11Reader}
    (h : BodyAnswer lib ending (appendStreamPayload lib stream piece).2 body answer) :
    BodyAnswer lib ending stream (piece :: body.1, body.2) answer := by
  refine BodyAnswer.append [piece] body ?_ ?_
  · rw [appendPieces_cons, if_neg htaken]
    rfl
  · rw [appendPieces_cons, if_neg htaken]
    exact h

theorem readerReadBodyLoop_spec {lib : DecoderLib} {ending : Ending} (reads : List Bytes) :
    ∀ (fuel held n : Nat) (head : Bytes) (stream : Stream) (reader : Http11Reader),
      2 * reads.length + 4 ≤ fuel → Shows ending ⟨held, head, reads⟩ reader →
      BodyAnswer lib ending stream
        ((takeFrom n held head reads).1, .ofRest (takeFrom n held head reads).2)
        (readerReadBodyLoop lib fuel stream reader n) := by
  induction reads with
  | nil =>
    intro fuel held n head stream reader hfuel h
    rw [List.length_nil] at hfuel
    obtain ⟨fuel, rfl⟩ : ∃ m, fuel = m + 4 := ⟨fuel - 4, by omega⟩
    by_cases hle : n ≤ head.length
    · rw [takeFrom_of_le hle]
      exact readerReadBodyLoop_enough h stream hle (fuel + 2)
    · rw [takeFrom_nil (by omega)]
      obtain ⟨reader', fuel', h', hfuel', heq⟩ :=
        readerReadBodyLoop_drain lib h stream (Nat.lt_of_not_le hle) (fuel + 3)
      rw [heq]
      simp only
      split
      · rename_i hrefused
        exact BodyAnswer.cons_stopped hrefused ([], .ended) _
      · rename_i htaken
        refine BodyAnswer.cons htaken ([], .ended) ?_
        obtain ⟨fuel', rfl⟩ : ∃ m, fuel' = m + 2 := ⟨fuel' - 2, by omega⟩
        obtain ⟨⟨hstopped, hcode⟩, hhead⟩ := readerFill_nil h'
        have hpos : 0 < n - head.length := by omega
        rw [readerReadBodyLoop_fill h' _ hpos, readerReadBodyLoop, hhead]
        simp only [if_neg (show ¬ n - head.length = 0 by omega), List.length_nil, gt_iff_lt,
          Nat.lt_irrefl, if_false, if_pos hstopped]
        exact ⟨rfl, hcode, fun _ rest hrest => by cases hrest⟩
  | cons read reads ih =>
    intro fuel held n head stream reader hfuel h
    rw [List.length_cons] at hfuel
    obtain ⟨fuel, rfl⟩ : ∃ m, fuel = m + 2 := ⟨fuel - 2, by omega⟩
    by_cases hle : n ≤ head.length
    · rw [takeFrom_of_le hle]
      exact readerReadBodyLoop_enough h stream hle fuel
    · rw [takeFrom_cons (by omega)]
      obtain ⟨reader', fuel', h', hfuel', heq⟩ :=
        readerReadBodyLoop_drain lib h stream (Nat.lt_of_not_le hle) (fuel + 1)
      rw [heq]
      simp only
      split
      · rename_i hrefused
        exact BodyAnswer.cons_stopped hrefused (_, _) _
      · rename_i htaken
        refine BodyAnswer.cons htaken (_, _) ?_
        obtain ⟨fuel', rfl⟩ : ∃ m, fuel' = m + 1 := ⟨fuel' - 1, by omega⟩
        rw [readerReadBodyLoop_fill h' _ (by omega : 0 < n - head.length)]
        have hfilled := readerFill_cons h'
        rw [List.length_nil, Nat.zero_add, List.nil_append] at hfilled
        exact ih _ _ _ _ _ _ (by omega) hfilled

/-- The body reader of the source hands the funnel the pieces that `Parts`
takes. -/
theorem readerReadBody_spec (lib : DecoderLib) {ending : Ending} {u : Unread UInt8}
    {reader : Http11Reader} (h : Shows ending u reader) (stream : Stream) (n : Nat) :
    BodyAnswer lib ending stream (bytesOf n u) (readerReadBody lib stream reader n) := by
  have hlength : u.reads.length = reader.transport.reads.length := by
    rw [← h.reads, Transport.parts, List.length_map]
  exact readerReadBodyLoop_spec u.reads _ u.held n u.head stream reader (by omega) h

/-! ## The loops above the buffer -/

/-- A section of lines leaves the stream of the source to `parseHeaderLine`. -/
theorem readHeaderSectionLoop_spec {ending : Ending} (fuel : Nat) :
    ∀ (u : Unread UInt8) (stream : Stream) (reader : Http11Reader), u.all.length < fuel →
      Shows ending u reader →
      (readHeaderSectionLoop fuel stream reader).1 = (sectionOf u).2.code ending ∧
        (readHeaderSectionLoop fuel stream reader).2.1 =
          (sectionOf u).1.foldl parseHeaderLine stream ∧
        ∀ rest, (sectionOf u).2 = .done rest →
          Shows ending rest (readHeaderSectionLoop fuel stream reader).2.2 := by
  induction fuel with
  | zero => intro u stream reader hfuel; omega
  | succ fuel ih =>
    intro u stream reader hfuel h
    cases hnext : nextLine u with
    | line raw rest =>
      obtain ⟨reader', hread, hrest⟩ := readerReadLine_line h hnext
      rw [sectionOf_line hnext, readHeaderSectionLoop, hread]
      by_cases hempty : lineText raw = []
      · simp only [hempty, ne_eq, not_true_eq_false, if_false, if_true]
        refine ⟨rfl, rfl, fun rest' hdone => ?_⟩
        cases hdone
        exact hrest
      · simp only [hempty, ne_eq, not_true_eq_false, if_false]
        have hless : rest.all.length < u.all.length := line_all_length hnext
        exact ih rest _ _ (by omega) hrest
    | ended =>
      obtain ⟨text, reader', hread⟩ := readerReadLine_ended h hnext
      rw [sectionOf_ended hnext, readHeaderSectionLoop, hread]
      simp only [if_pos ending.code_ne_one]
      exact ⟨rfl, rfl, fun rest hdone => by cases hdone⟩
    | tooLong =>
      obtain ⟨text, reader', hread⟩ := readerReadLine_tooLong h hnext
      rw [sectionOf_tooLong hnext, readHeaderSectionLoop, hread]
      simp only [if_pos (show (-1 : Int) ≠ 1 by decide)]
      exact ⟨rfl, rfl, fun rest hdone => by cases hdone⟩

/-- The header section of the source: its lines go to `parseHeaderLine` in
order. -/
theorem readHeaderSection_spec {ending : Ending} {u : Unread UInt8} {reader : Http11Reader}
    (h : Shows ending u reader) (stream : Stream) :
    (readHeaderSection stream reader).1 = (sectionOf u).2.code ending ∧
      (readHeaderSection stream reader).2.1 = (sectionOf u).1.foldl parseHeaderLine stream ∧
      ∀ rest, (sectionOf u).2 = .done rest →
        Shows ending rest (readHeaderSection stream reader).2.2 := by
  rw [readHeaderSection, h.unread]
  exact readHeaderSectionLoop_spec _ u stream reader (Nat.lt_succ_self _) h

theorem readTrailersLoop_spec {ending : Ending} (fuel : Nat) :
    ∀ (u : Unread UInt8) (reader : Http11Reader), u.all.length < fuel → Shows ending u reader →
      (readTrailersLoop fuel reader).1 = (sectionOf u).2.code ending ∧
        ∀ rest, (sectionOf u).2 = .done rest →
          Shows ending rest (readTrailersLoop fuel reader).2 := by
  induction fuel with
  | zero => intro u reader hfuel; omega
  | succ fuel ih =>
    intro u reader hfuel h
    cases hnext : nextLine u with
    | line raw rest =>
      obtain ⟨reader', hread, hrest⟩ := readerReadLine_line h hnext
      rw [sectionOf_line hnext, readTrailersLoop, hread]
      by_cases hempty : lineText raw = []
      · simp only [hempty, isTrailerEnd, decide_true, ne_eq, not_true_eq_false, if_false, if_true]
        refine ⟨rfl, fun rest' hdone => ?_⟩
        cases hdone
        exact hrest
      · simp only [hempty, isTrailerEnd, decide_false, Bool.false_eq_true, ne_eq,
          not_true_eq_false, if_false]
        have hless : rest.all.length < u.all.length := line_all_length hnext
        exact ih rest _ (by omega) hrest
    | ended =>
      obtain ⟨text, reader', hread⟩ := readerReadLine_ended h hnext
      rw [sectionOf_ended hnext, readTrailersLoop, hread]
      simp only [if_pos ending.code_ne_one]
      exact ⟨rfl, fun rest hdone => by cases hdone⟩
    | tooLong =>
      obtain ⟨text, reader', hread⟩ := readerReadLine_tooLong h hnext
      rw [sectionOf_tooLong hnext, readTrailersLoop, hread]
      simp only [if_pos (show (-1 : Int) ≠ 1 by decide)]
      exact ⟨rfl, fun rest hdone => by cases hdone⟩

theorem BodyAnswer.nil {lib : DecoderLib} {ending : Ending} {stream : Stream} {outcome : Outcome}
    {rc : Int} {reader : Http11Reader} (hrc : rc = outcome.code ending)
    (hrest : ∀ rest, outcome = .done rest → Shows ending rest reader) :
    BodyAnswer lib ending stream ([], outcome) (rc, stream, reader) :=
  ⟨rfl, hrc, fun _ => hrest⟩

/-- Data that the funnel took ends a body with it. -/
theorem BodyAnswer.last {lib : DecoderLib} {ending : Ending} {stream stream' : Stream}
    {pieces : List Bytes} {outcome : Outcome} {rc : Int} {reader : Http11Reader}
    (htaken : (appendPieces lib stream pieces).1 = true)
    (hstream : stream' = (appendPieces lib stream pieces).2) (hrc : rc = outcome.code ending)
    (hrest : ∀ rest, outcome ≠ .done rest) :
    BodyAnswer lib ending stream (pieces, outcome) (rc, stream', reader) :=
  ⟨hstream, by rw [htaken]; exact hrc, fun _ rest h => absurd h (hrest rest)⟩

theorem chunkAfter_pieces (pieces : List Bytes) (rest : Option (Unread UInt8)) :
    ∃ body : List Bytes × Outcome, chunkAfter pieces rest = (pieces ++ body.1, body.2) := by
  cases rest with
  | none => exact ⟨([], .ended), by simp [chunkAfter]⟩
  | some rest =>
    unfold chunkAfter
    simp only
    split
    · exact ⟨(_, _), rfl⟩
    · exact ⟨([], .ended), by simp⟩
    · exact ⟨([], .tooLong), by simp⟩

/-- The data of a chunk, the line behind it, and the loop `next`. -/
theorem readChunk_spec {lib : DecoderLib} {ending : Ending} {u : Unread UInt8}
    {reader : Http11Reader} (n : Nat) (h : Shows ending u reader) (stream : Stream)
    {next : Stream → Http11Reader → Int × Stream × Http11Reader}
    (hnext : ∀ rest reader stream, rest.all.length ≤ u.all.length → Shows ending rest reader →
      BodyAnswer lib ending stream (chunksOf rest) (next stream reader)) :
    BodyAnswer lib ending stream (chunkAfter (u.take n).1 (u.take n).2)
      (let (dataRc, stream, reader) := readerReadBody lib stream reader n
        if dataRc ≠ 1 then (dataRc, stream, reader)
        else
          let (crlfRc, _, reader) := readerReadLine reader
          if crlfRc ≠ 1 then (crlfRc, stream, reader) else next stream reader) := by
  have hdata := readerReadBody_spec lib h stream n
  generalize readerReadBody lib stream reader n = answer at hdata
  obtain ⟨dataRc, stream', reader'⟩ := answer
  rcases htake : u.take n with ⟨pieces, rest⟩
  rw [bytesOf, htake] at hdata
  obtain ⟨hfed, hcode, hrest⟩ := hdata
  simp only at hfed hcode hrest ⊢
  cases htaken : (appendPieces lib stream pieces).1 with
  | false =>
    -- the funnel stopped inside the data
    obtain ⟨body, hbody⟩ := chunkAfter_pieces pieces rest
    simp only [htaken, Bool.false_eq_true, if_false] at hcode
    rw [hbody, if_pos (by rw [hcode]; decide)]
    exact BodyAnswer.stopped pieces body htaken hcode hfed
  | true =>
    simp only [htaken, if_true] at hcode hrest
    cases rest with
    | none =>
      rw [if_pos (by rw [hcode]; exact ending.code_ne_one)]
      exact BodyAnswer.last htaken hfed hcode (fun rest h => by cases h)
    | some rest =>
      have hshows := hrest trivial rest rfl
      have hle : rest.all.length ≤ u.all.length := by
        rw [(take_eq_some htake).2.1, List.length_drop]
        omega
      rw [if_neg (by rw [hcode]; exact fun h => h rfl)]
      unfold chunkAfter
      cases hline : nextLine rest with
      | line raw rest' =>
        obtain ⟨reader'', hread, hrest'⟩ := readerReadLine_line hshows hline
        have hless : rest'.all.length < rest.all.length := line_all_length hline
        simp only [hread, hline, ne_eq, not_true_eq_false, if_false]
        refine BodyAnswer.append pieces (chunksOf rest') htaken ?_
        rw [← hfed]
        exact hnext rest' reader'' stream' (by omega) hrest'
      | ended =>
        obtain ⟨text, reader'', hread⟩ := readerReadLine_ended hshows hline
        simp only [hread, hline, if_pos ending.code_ne_one]
        exact BodyAnswer.last htaken hfed rfl (fun rest h => by cases h)
      | tooLong =>
        obtain ⟨text, reader'', hread⟩ := readerReadLine_tooLong hshows hline
        simp only [hread, hline, if_pos (show (-1 : Int) ≠ 1 by decide)]
        exact BodyAnswer.last htaken hfed rfl (fun rest h => by cases h)

theorem readChunkedBodyLoop_spec {lib : DecoderLib} {ending : Ending} (fuel : Nat) :
    ∀ (u : Unread UInt8) (stream : Stream) (reader : Http11Reader), u.all.length < fuel →
      Shows ending u reader →
      BodyAnswer lib ending stream (chunksOf u) (readChunkedBodyLoop lib fuel stream reader) := by
  induction fuel with
  | zero => intro u stream reader hfuel; omega
  | succ fuel ih =>
    intro u stream reader hfuel h
    cases hnext : nextLine u with
    | ended =>
      obtain ⟨text, reader', hread⟩ := readerReadLine_ended h hnext
      rw [chunksOf_ended hnext, readChunkedBodyLoop, hread]
      simp only [if_pos ending.code_ne_one]
      exact BodyAnswer.nil rfl (fun rest hdone => by cases hdone)
    | tooLong =>
      obtain ⟨text, reader', hread⟩ := readerReadLine_tooLong h hnext
      rw [chunksOf_tooLong hnext, readChunkedBodyLoop, hread]
      simp only [if_pos (show (-1 : Int) ≠ 1 by decide)]
      exact BodyAnswer.nil rfl (fun rest hdone => by cases hdone)
    | line raw rest =>
      obtain ⟨reader', hread, hrest⟩ := readerReadLine_line h hnext
      have hless : rest.all.length < u.all.length := line_all_length hnext
      rw [chunksOf_line hnext, readChunkedBodyLoop, hread]
      simp only [ne_eq, not_true_eq_false, if_false]
      generalize chunkSizeOf (lineText raw) = size
      by_cases hneg : size < 0
      · simp only [if_pos hneg]
        exact BodyAnswer.nil rfl (fun rest hdone => by cases hdone)
      · by_cases hzero : size = 0
        · obtain ⟨hrc, hdone⟩ := readTrailersLoop_spec _ rest reader' (Nat.lt_succ_self _) hrest
          simp only [if_neg hneg, if_pos hzero, readTrailers, hrest.unread]
          exact BodyAnswer.nil hrc hdone
        · simp only [if_neg hneg, if_neg hzero]
          exact readChunk_spec size.toNat hrest stream fun rest' reader' stream' hle h' =>
            ih rest' stream' reader' (by omega) h'

theorem readUntilCloseLoop_spec {lib : DecoderLib} {ending : Ending} (reads : List Read) :
    ∀ (fuel : Nat) (stream : Stream) (reader : Http11Reader), reads.length + 1 ≤ fuel →
      reader.transport = ⟨reads, ending⟩ →
      BodyAnswer lib ending stream (reads.map Subtype.val, .ended)
        (readUntilCloseLoop lib fuel stream reader) := by
  induction reads with
  | nil =>
    intro fuel stream reader hfuel h
    obtain ⟨fuel, rfl⟩ : ∃ n, fuel = n + 1 := ⟨fuel - 1, by omega⟩
    have hcode : ¬ ending.code > 0 := by cases ending <;> decide
    rw [readUntilCloseLoop, h, sessionReadTimed]
    simp only [if_neg hcode]
    exact BodyAnswer.nil rfl (fun rest hdone => by cases hdone)
  | cons read reads ih =>
    intro fuel stream reader hfuel h
    obtain ⟨fuel, rfl⟩ : ∃ n, fuel = n + 1 := ⟨fuel - 1, by omega⟩
    have hpos : (read.val.length : Int) > 0 := by
      have := read.property.1
      omega
    rw [readUntilCloseLoop, h, sessionReadTimed]
    simp only [if_pos hpos, List.map_cons]
    rw [List.length_cons] at hfuel
    split
    · rename_i hrefused
      exact BodyAnswer.cons_stopped hrefused (_, _) _
    · rename_i htaken
      exact BodyAnswer.cons htaken (_, _) (ih fuel _ _ (by omega) rfl)

/-- The body of the source, for every framing. -/
theorem readFramedBody_spec {lib : DecoderLib} {ending : Ending} {u : Unread UInt8}
    {reader : Http11Reader} (h : Shows ending u reader) (framing : Framing) (stream : Stream) :
    BodyAnswer lib ending stream (bodyOf framing u)
      (readFramedBody lib framing stream reader) := by
  cases framing with
  | chunked =>
    simp only [bodyOf, readFramedBody, readChunkedBody, h.unread]
    exact readChunkedBodyLoop_spec _ u stream reader (Nat.lt_succ_self _) h
  | length bodyLen =>
    simp only [bodyOf, readFramedBody, lengthOf]
    by_cases hneg : bodyLen < 0
    · rw [if_pos hneg, if_pos hneg]
      exact BodyAnswer.nil rfl (fun rest hdone => by cases hdone)
    · rw [if_neg hneg, if_neg hneg, readContentLengthBody]
      split
      · rename_i hzero
        have hdone : takeFrom 0 u.held u.head u.reads = ([[]], some u) :=
          takeFrom_of_le (Nat.zero_le _) u.held u.reads
        rw [hzero, bytesOf, Unread.take, hdone]
        refine ⟨rfl, rfl, fun _ rest hrest => ?_⟩
        cases hrest
        exact h
      · exact readerReadBody_spec lib h stream _
  | untilClose =>
    obtain ⟨⟨treads, tending⟩, buf, pos, eof, err⟩ := reader
    obtain ⟨-, -, hending, hunread⟩ := h
    simp only at hending
    have hreads : u.reads = treads.map Subtype.val := (congrArg Unread.reads hunread).symm
    simp only [bodyOf, readFramedBody, readUntilCloseBody, hreads, hending]
    exact readUntilCloseLoop_spec treads _ stream _ (Nat.le_refl _) rfl

end HttpRequestClient.Http11
