import HttpRequestClient.Http11.Arrival

/-!
# A response as one string of bytes

`scanSection` and `scanChunks` read a section of lines and a chunked body
from all the bytes at once.  They list the lines they look at, so that the
limit of the reader can be stated on them.

* `sectionOf_scan`, `chunksOf_scan` and `bodyOf_scan`: unless the reader
  meets its limit, what it reads is what the scan of the bytes says,
  whatever the parts are.
* `sectionOf_within` and `chunksOf_within`: it does not meet the limit when
  every line of the scan fits.
-/

namespace HttpRequestClient.Http11

open Parts

/-! ## Scans -/

/-- How a scan ends: with the bytes behind it, with the bytes, or at a number
that is refused. -/
inductive ScanEnd where
  | complete (rest : Bytes)
  | ended
  | refused
  deriving Repr, DecidableEq

/-- The lines looked at, what was read, and how it ended.  A line at the end
of the bytes counts also when it is not complete. -/
structure Scan (β : Type) where
  lines : List Bytes
  content : List β
  result : ScanEnd

/-- The texts of the lines up to an empty one. -/
def scanSection (bytes : Bytes) : Scan Bytes :=
  match _h : cut 10 bytes with
  | none => ⟨[bytes], [], .ended⟩
  | some (raw, after) =>
    if lineText raw = [] then ⟨[raw], [], .complete after⟩
    else
      let later := scanSection after
      ⟨raw :: later.lines, lineText raw :: later.content, later.result⟩
termination_by bytes.length
decreasing_by
  obtain ⟨-, rfl⟩ := cut_eq_some_iff.mp _h
  simp only [List.length_append, List.length_cons]
  omega

/-- The body of a sequence of chunks. -/
def scanChunks (bytes : Bytes) : Scan UInt8 :=
  match _h : cut 10 bytes with
  | none => ⟨[bytes], [], .ended⟩
  | some (raw, after) =>
    let size := chunkSizeOf (lineText raw)
    if size < 0 then ⟨[raw], [], .refused⟩
    else if size = 0 then
      let trailers := scanSection after
      ⟨raw :: trailers.lines, [], trailers.result⟩
    else if after.length < size.toNat then ⟨[raw], after, .ended⟩
    else
      match _hline : cut 10 (after.drop size.toNat) with
      | none => ⟨[raw, after.drop size.toNat], after.take size.toNat, .ended⟩
      | some (line, rest) =>
        let later := scanChunks rest
        ⟨raw :: line :: later.lines, after.take size.toNat ++ later.content, later.result⟩
termination_by bytes.length
decreasing_by
  obtain ⟨-, rfl⟩ := cut_eq_some_iff.mp _h
  obtain ⟨-, hrest⟩ := cut_eq_some_iff.mp _hline
  have hlength := congrArg List.length hrest
  simp only [List.length_drop, List.length_append, List.length_cons] at hlength ⊢
  omega

/-! ## Equations -/

theorem scanSection_eq (bytes : Bytes) :
    scanSection bytes =
      match cut 10 bytes with
      | none => ⟨[bytes], [], .ended⟩
      | some (raw, after) =>
        if lineText raw = [] then ⟨[raw], [], .complete after⟩
        else ⟨raw :: (scanSection after).lines, lineText raw :: (scanSection after).content,
          (scanSection after).result⟩ := by
  rw [scanSection]
  split
  · rename_i h; rw [h]
  · rename_i h; rw [h]

theorem scanSection_none {bytes : Bytes} (h : cut 10 bytes = none) :
    scanSection bytes = ⟨[bytes], [], .ended⟩ := by
  rw [scanSection_eq, h]

theorem scanSection_some {bytes raw after : Bytes} (h : cut 10 bytes = some (raw, after)) :
    scanSection bytes =
      if lineText raw = [] then ⟨[raw], [], .complete after⟩
      else ⟨raw :: (scanSection after).lines, lineText raw :: (scanSection after).content,
        (scanSection after).result⟩ := by
  rw [scanSection_eq, h]

/-- The scan behind the data of a chunk. -/
def scanAfter (raw data after : Bytes) : Scan UInt8 :=
  match cut 10 after with
  | none => ⟨[raw, after], data, .ended⟩
  | some (line, rest) =>
    ⟨raw :: line :: (scanChunks rest).lines, data ++ (scanChunks rest).content,
      (scanChunks rest).result⟩

theorem scanChunks_eq (bytes : Bytes) :
    scanChunks bytes =
      match cut 10 bytes with
      | none => ⟨[bytes], [], .ended⟩
      | some (raw, after) =>
        if chunkSizeOf (lineText raw) < 0 then ⟨[raw], [], .refused⟩
        else if chunkSizeOf (lineText raw) = 0 then
          ⟨raw :: (scanSection after).lines, [], (scanSection after).result⟩
        else if after.length < (chunkSizeOf (lineText raw)).toNat then ⟨[raw], after, .ended⟩
        else
          scanAfter raw (after.take (chunkSizeOf (lineText raw)).toNat)
            (after.drop (chunkSizeOf (lineText raw)).toNat) := by
  rw [scanChunks]
  split
  · rename_i h; rw [h]
  · rename_i h
    rw [h]
    simp only
    congr 3
    unfold scanAfter
    split
    · rename_i hline; rw [hline]
    · rename_i hline; rw [hline]

theorem scanChunks_none {bytes : Bytes} (h : cut 10 bytes = none) :
    scanChunks bytes = ⟨[bytes], [], .ended⟩ := by
  rw [scanChunks_eq, h]

theorem scanChunks_some {bytes raw after : Bytes} (h : cut 10 bytes = some (raw, after)) :
    scanChunks bytes =
      if chunkSizeOf (lineText raw) < 0 then ⟨[raw], [], .refused⟩
      else if chunkSizeOf (lineText raw) = 0 then
        ⟨raw :: (scanSection after).lines, [], (scanSection after).result⟩
      else if after.length < (chunkSizeOf (lineText raw)).toNat then ⟨[raw], after, .ended⟩
      else
        scanAfter raw (after.take (chunkSizeOf (lineText raw)).toNat)
          (after.drop (chunkSizeOf (lineText raw)).toNat) := by
  rw [scanChunks_eq, h]

/-- A section of lines is never refused. -/
theorem scanSection_ne_refused (bytes : Bytes) : (scanSection bytes).result ≠ .refused := by
  cases hcut : cut 10 bytes with
  | none =>
    rw [scanSection_none hcut]
    simp
  | some pair =>
    obtain ⟨raw, after⟩ := pair
    rw [scanSection_some hcut]
    split
    · simp
    · exact scanSection_ne_refused after
termination_by bytes.length
decreasing_by
  obtain ⟨-, rfl⟩ := cut_eq_some_iff.mp hcut
  simp only [List.length_append, List.length_cons]
  omega

/-! ## The parts do not matter -/

/-- The end of a scan that an outcome is. -/
def Outcome.result : Outcome → Option ScanEnd
  | .done rest => some (.complete rest.all)
  | .ended => some .ended
  | .refused => some .refused
  | .tooLong => none

theorem sectionOf_scan (u : Unread UInt8) (h : (sectionOf u).2 ≠ .tooLong) :
    (sectionOf u).1 = (scanSection u.all).content ∧
      (sectionOf u).2.result = some (scanSection u.all).result := by
  cases hnext : nextLine u with
  | line raw rest =>
    have hcut : cut 10 u.all = some (raw, rest.all) := line_eq_line hnext
    rw [sectionOf_line hnext] at h ⊢
    rw [scanSection_some hcut]
    split
    · exact ⟨rfl, rfl⟩
    · rename_i htext
      rw [if_neg htext] at h
      obtain ⟨hcontent, hresult⟩ := sectionOf_scan rest h
      exact ⟨by rw [hcontent], hresult⟩
  | ended =>
    rw [sectionOf_ended hnext, scanSection_none (line_eq_ended hnext)]
    exact ⟨rfl, rfl⟩
  | tooLong => rw [sectionOf_tooLong hnext] at h; exact absurd rfl h
termination_by u.all.length
decreasing_by exact line_all_length hnext

theorem chunksOf_scan (u : Unread UInt8) (h : (chunksOf u).2 ≠ .tooLong) :
    (chunksOf u).1.flatten = (scanChunks u.all).content ∧
      (chunksOf u).2.result = some (scanChunks u.all).result := by
  cases hnext : nextLine u with
  | ended =>
    rw [chunksOf_ended hnext, scanChunks_none (line_eq_ended hnext)]
    exact ⟨rfl, rfl⟩
  | tooLong => rw [chunksOf_tooLong hnext] at h; exact absurd rfl h
  | line raw rest =>
    have hcut : cut 10 u.all = some (raw, rest.all) := line_eq_line hnext
    have hless : rest.all.length < u.all.length := line_all_length hnext
    rw [chunksOf_line hnext] at h ⊢
    rw [scanChunks_some hcut]
    generalize chunkSizeOf (lineText raw) = size at h ⊢
    by_cases hneg : size < 0
    · rw [if_pos hneg, if_pos hneg]
      exact ⟨rfl, rfl⟩
    · rw [if_neg hneg] at h ⊢
      rw [if_neg hneg]
      by_cases hzero : size = 0
      · rw [if_pos hzero] at h ⊢
        rw [if_pos hzero]
        exact ⟨rfl, (sectionOf_scan rest h).2⟩
      · rw [if_neg hzero] at h ⊢
        rw [if_neg hzero]
        rcases htake : rest.take size.toNat with ⟨pieces, _ | rest'⟩
        · obtain ⟨hpieces, hlt⟩ := take_eq_none htake
          rw [if_pos hlt]
          exact ⟨hpieces, rfl⟩
        · obtain ⟨hpieces, hall, hle⟩ := take_eq_some htake
          rw [htake] at h
          rw [if_neg (by omega), ← hpieces, ← hall]
          have hshort : rest'.all.length ≤ rest.all.length := by
            rw [hall, List.length_drop]
            omega
          unfold chunkAfter scanAfter at *
          cases hline : nextLine rest' with
          | line raw' rest'' =>
            have hless' : rest''.all.length < rest'.all.length := line_all_length hline
            simp only [hline] at h ⊢
            obtain ⟨hcontent, hresult⟩ := chunksOf_scan rest'' h
            rw [line_eq_line hline]
            exact ⟨by simp [hcontent], hresult⟩
          | ended =>
            simp only [hline]
            rw [line_eq_ended hline]
            exact ⟨rfl, rfl⟩
          | tooLong => simp only [hline] at h; exact absurd rfl h
termination_by u.all.length

/-! ## The limit -/

/-- The reader has room for a read. -/
abbrev Roomy (u : Unread UInt8) : Prop := u.Within HTTP11_MAX_HEADER_SECTION HTTP11_READ_CHUNK

/-- Every line fits into the buffer together with one more read. -/
def Fits (lines : List Bytes) : Prop :=
  ∀ raw ∈ lines, raw.length + HTTP11_READ_CHUNK < HTTP11_MAX_HEADER_SECTION

theorem roomy_start (transport : Transport) : Roomy ⟨0, [], transport.parts⟩ := by
  refine ⟨show 0 < HTTP11_MAX_HEADER_SECTION by decide, fun read hread => ?_⟩
  obtain ⟨read, -, rfl⟩ := List.mem_map.mp hread
  exact read.property.2

/-- A line that fits is read, and leaves room. -/
theorem nextLine_roomy {u : Unread UInt8} (hu : Roomy u) {raw after : Bytes}
    (hcut : cut 10 u.all = some (raw, after)) (hfits : Fits [raw]) :
    ∃ rest, nextLine u = .line raw rest ∧ rest.all = after ∧ Roomy rest := by
  have hraw := hfits raw List.mem_cons_self
  cases hnext : nextLine u with
  | line raw' rest =>
    have hcut' : cut 10 u.all = some (raw', rest.all) := line_eq_line hnext
    rw [hcut] at hcut'
    cases hcut'
    exact ⟨rest, rfl, rfl, line_within hu hraw hnext⟩
  | ended =>
    have hnone : cut 10 u.all = none := line_eq_ended hnext
    rw [hcut] at hnone
    cases hnone
  | tooLong =>
    refine absurd hnext (line_ne_tooLong hu ?_)
    rw [hcut]
    exact hraw

theorem nextLine_none {u : Unread UInt8} (hu : Roomy u) (hcut : cut 10 u.all = none)
    (hfits : Fits [u.all]) : nextLine u = .ended := by
  have hraw := hfits u.all List.mem_cons_self
  cases hnext : nextLine u with
  | line raw rest =>
    have hsome : cut 10 u.all = some (raw, rest.all) := line_eq_line hnext
    rw [hcut] at hsome
    cases hsome
  | ended => rfl
  | tooLong =>
    refine absurd hnext (line_ne_tooLong hu ?_)
    rw [hcut]
    show u.all.length < HTTP11_MAX_HEADER_SECTION
    omega

theorem Fits.head {raw : Bytes} {lines : List Bytes} (h : Fits (raw :: lines)) : Fits [raw] := by
  intro line hline
  rw [List.mem_singleton.mp hline]
  exact h raw List.mem_cons_self

theorem Fits.tail {raw : Bytes} {lines : List Bytes} (h : Fits (raw :: lines)) : Fits lines :=
  fun line hline => h line (List.mem_cons_of_mem _ hline)

/-- The limit was not met, and what is left leaves room. -/
def Outcome.LeavesRoom : Outcome → Prop
  | .done rest => Roomy rest
  | .ended => True
  | .refused => True
  | .tooLong => False

theorem sectionOf_within (u : Unread UInt8) (hu : Roomy u) (hfits : Fits (scanSection u.all).lines) :
    (sectionOf u).2.LeavesRoom := by
  cases hcut : cut 10 u.all with
  | none =>
    rw [scanSection_none hcut] at hfits
    rw [sectionOf_ended (nextLine_none hu hcut hfits)]
    trivial
  | some p =>
    obtain ⟨raw, after⟩ := p
    rw [scanSection_some hcut] at hfits
    by_cases htext : lineText raw = []
    · rw [if_pos htext] at hfits
      obtain ⟨rest, hnext, -, hrest⟩ := nextLine_roomy hu hcut hfits
      rw [sectionOf_line hnext, if_pos htext]
      exact hrest
    · rw [if_neg htext] at hfits
      obtain ⟨rest, hnext, rfl, hrest⟩ := nextLine_roomy hu hcut hfits.head
      have hless : rest.all.length < u.all.length := line_all_length hnext
      rw [sectionOf_line hnext, if_neg htext]
      exact sectionOf_within rest hrest hfits.tail
termination_by u.all.length

theorem chunksOf_within (u : Unread UInt8) (hu : Roomy u) (hfits : Fits (scanChunks u.all).lines) :
    (chunksOf u).2.LeavesRoom := by
  cases hcut : cut 10 u.all with
  | none =>
    rw [scanChunks_none hcut] at hfits
    rw [chunksOf_ended (nextLine_none hu hcut hfits)]
    trivial
  | some p =>
    obtain ⟨raw, after⟩ := p
    rw [scanChunks_some hcut] at hfits
    have hraw : Fits [raw] := by
      split at hfits
      · exact hfits
      · split at hfits
        · exact hfits.head
        · split at hfits
          · exact hfits
          · unfold scanAfter at hfits
            split at hfits <;> exact hfits.head
    obtain ⟨rest, hnext, rfl, hrest⟩ := nextLine_roomy hu hcut hraw
    have hless : rest.all.length < u.all.length := line_all_length hnext
    rw [chunksOf_line hnext]
    generalize chunkSizeOf (lineText raw) = size at hfits ⊢
    by_cases hneg : size < 0
    · rw [if_pos hneg]
      trivial
    · by_cases hzero : size = 0
      · rw [if_neg hneg, if_pos hzero] at hfits ⊢
        exact sectionOf_within rest hrest hfits.tail
      · rw [if_neg hneg, if_neg hzero] at hfits ⊢
        rcases htake : rest.take size.toNat with ⟨pieces, _ | rest'⟩
        · trivial
        · obtain ⟨-, hall, hle⟩ := take_eq_some htake
          have hroomy : Roomy rest' := take_within (by decide) hrest htake
          rw [if_neg (by omega), ← hall] at hfits
          have hshort : rest'.all.length ≤ rest.all.length := by
            rw [hall, List.length_drop]
            omega
          unfold chunkAfter
          unfold scanAfter at hfits
          cases hline : cut 10 rest'.all with
          | none =>
            simp only [hline] at hfits
            simp only [nextLine_none hroomy hline hfits.tail]
            trivial
          | some p =>
            obtain ⟨raw', after'⟩ := p
            simp only [hline] at hfits
            obtain ⟨rest'', hnext', rfl, hrest''⟩ := nextLine_roomy hroomy hline hfits.tail.head
            have hless' : rest''.all.length < rest'.all.length := line_all_length hnext'
            simp only [hnext']
            exact chunksOf_within rest'' hrest'' hfits.tail.tail
termination_by u.all.length

/-! ## Where a read ends -/

theorem sectionOf_follows {parts : List Bytes} {done : Bytes} (u : Unread UInt8)
    (h : Follows parts done u) {lines : List Bytes} {rest : Unread UInt8}
    (hsection : sectionOf u = (lines, .done rest)) : ∃ done', Follows parts done' rest := by
  cases hnext : nextLine u with
  | line raw u' =>
    have hless : u'.all.length < u.all.length := line_all_length hnext
    have hfollows := h.line hnext
    rw [sectionOf_line hnext] at hsection
    split at hsection
    · cases hsection
      exact ⟨_, hfollows⟩
    · rw [Prod.mk.injEq] at hsection
      exact sectionOf_follows u' hfollows (Prod.ext rfl hsection.2)
  | ended => rw [sectionOf_ended hnext] at hsection; cases hsection
  | tooLong => rw [sectionOf_tooLong hnext] at hsection; cases hsection
termination_by u.all.length

/-! ## Bodies -/

/-- The body behind a header section. -/
def scanBody (framing : Framing) (bytes : Bytes) : Scan UInt8 :=
  match framing with
  | .chunked => scanChunks bytes
  | .length bodyLen =>
    if bodyLen < 0 then ⟨[], [], .refused⟩
    else if bytes.length < bodyLen.toNat then ⟨[], bytes, .ended⟩
    else ⟨[], bytes.take bodyLen.toNat, .complete (bytes.drop bodyLen.toNat)⟩
  | .untilClose => ⟨[], bytes, .ended⟩

/-- Every body but one up to the end of the connection is read as it is. -/
theorem bodyOf_scan {framing : Framing} {u : Unread UInt8} (h : (bodyOf framing u).2 ≠ .tooLong) :
    (framing ≠ .untilClose → (bodyOf framing u).1.flatten = (scanBody framing u.all).content) ∧
      (bodyOf framing u).2.result = some (scanBody framing u.all).result := by
  cases framing with
  | chunked => exact ⟨fun _ => (chunksOf_scan u h).1, (chunksOf_scan u h).2⟩
  | length bodyLen =>
    simp only [bodyOf, lengthOf, scanBody]
    by_cases hneg : bodyLen < 0
    · rw [if_pos hneg, if_pos hneg]
      exact ⟨fun _ => rfl, rfl⟩
    · rw [if_neg hneg, if_neg hneg, bytesOf]
      rcases htake : u.take bodyLen.toNat with ⟨pieces, _ | rest⟩
      · obtain ⟨hpieces, hlt⟩ := take_eq_none htake
        rw [if_pos hlt]
        exact ⟨fun _ => hpieces, rfl⟩
      · obtain ⟨hpieces, hall, hle⟩ := take_eq_some htake
        rw [if_neg (by omega)]
        refine ⟨fun _ => hpieces, ?_⟩
        rw [← hall]
        rfl
  | untilClose => exact ⟨fun hne => absurd rfl hne, rfl⟩

theorem bodyOf_within {framing : Framing} {u : Unread UInt8} (hu : Roomy u)
    (hfits : Fits (scanBody framing u.all).lines) : (bodyOf framing u).2.LeavesRoom := by
  cases framing with
  | chunked => exact chunksOf_within u hu hfits
  | length bodyLen =>
    simp only [bodyOf, lengthOf]
    by_cases hneg : bodyLen < 0
    · rw [if_pos hneg]
      trivial
    · rw [if_neg hneg, bytesOf]
      rcases htake : u.take bodyLen.toNat with ⟨pieces, _ | rest⟩
      · trivial
      · exact take_within (by decide) hu htake
  | untilClose => trivial

end HttpRequestClient.Http11
