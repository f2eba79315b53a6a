import HttpRequestClient.CookieFields
import HttpRequestClient.Lib.Loops

/-!
# The loops of `processCookies`

`processCookies` runs twice: it counts its headers before the array is
allocated, and writes them into it later.  Here the function has its loops and
its two modes; a position in the cookie stands for a pointer into it.

* `processCookiesRun_eq`: the loops end, and add the headers of `processCookies`.
* `processCookies_modes`: as many are counted as are written, with the parts of
  every value in their order.

Allocations do not fail.
-/

namespace HttpRequestClient

open Hpack Parts Loops

/-! ## The function -/

/-- The array, with nothing where nothing was written, and the next index. -/
structure HeaderFill where
  headers : Nat → Option RequestHeader
  idx : Nat

/-- A header is counted, or written at the index. -/
def addHeader (calculateCookieCount : Bool) (fill : HeaderFill) (header : RequestHeader) :
    HeaderFill :=
  if calculateCookieCount then ⟨fill.headers, fill.idx + 1⟩
  else ⟨Function.update fill.headers fill.idx (some header), fill.idx + 1⟩

/-- `strchr` from a position on. -/
def strchrFrom (s : Bytes) (p : Nat) (c : UInt8) : Option Nat :=
  (cut c (s.drop p)).map fun parts => p + parts.1.length

structure ChunkState where
  offset : Nat
  fill : HeaderFill

structure CookieState where
  p : Nat
  fill : HeaderFill

section Modes

variable (calculateCookieCount : Bool) (headerValueMaxLength : Nat) (fullCookie : Bytes)
  (fuel : Nat)

/-- The loop over the chunks of a value. -/
def chunkLoop (name : Bytes) (valueStart valueLen : Nat) (fill : HeaderFill) :
    Option ChunkState :=
  whileLoop (fun state => state.offset < valueLen)
    (fun state =>
      let rest := valueLen - state.offset
      let chunkLen := if rest > headerValueMaxLength then headerValueMaxLength else rest
      let start := valueStart + state.offset
      let kv := name ++ 61 :: slice fullCookie start (start + chunkLen)
      some ⟨state.offset + chunkLen,
        addHeader calculateCookieCount state.fill ⟨ascii "cookie", kv, false⟩⟩)
    fuel ⟨0, fill⟩

/-- What is done with an item once its ends are trimmed. -/
def addItem (tokenStart trimmedEnd : Nat) (fill : HeaderFill) : Option HeaderFill :=
  match search fullCookie 0 (· = 61) trimmedEnd fuel tokenStart with
  | none => none
  | some none => some fill
  | some (some eq) =>
    if eq + 1 ≤ trimmedEnd then
      let name := slice fullCookie tokenStart eq
      let valueStart := eq + 1
      let valueLen := trimmedEnd - valueStart
      if valueLen ≤ headerValueMaxLength then
        let kv := name ++ 61 :: slice fullCookie valueStart (valueStart + valueLen)
        some (addHeader calculateCookieCount fill ⟨ascii "cookie", kv, false⟩)
      else
        (chunkLoop calculateCookieCount headerValueMaxLength fullCookie fuel name valueStart
          valueLen fill).map ChunkState.fill
    else some fill

/-- One round of the outer loop. -/
def cookieRound (state : CookieState) : Option CookieState := do
  let tokenEnd := (strchrFrom fullCookie state.p 59).getD fullCookie.length
  let tokenStart ← skipForward fullCookie 0 (· = 32) tokenEnd fuel state.p
  let trimmedEnd ← skipBackward fullCookie 0 (· = 32) tokenStart fuel tokenEnd
  let fill ← addItem calculateCookieCount headerValueMaxLength fullCookie fuel tokenStart
    trimmedEnd state.fill
  return ⟨if fullCookie.getD tokenEnd 0 = 0 then tokenEnd else tokenEnd + 1, fill⟩

end Modes

/-- The function with a bound on the rounds of each loop.  It returns the
index. -/
def processCookiesRun (fuel : Nat) (headers : Nat → Option RequestHeader) (idx : Nat)
    (cookie : Option Bytes) (calculateCookieCount : Bool) (headerValueMaxLength : Nat) :
    Option HeaderFill :=
  match cookie with
  | none => some ⟨headers, 0⟩
  | some fullCookie =>
    (whileLoop (fun state => fullCookie.getD state.p 0 ≠ 0)
      (cookieRound calculateCookieCount headerValueMaxLength fullCookie fuel) fuel
      ⟨0, ⟨headers, idx⟩⟩).map CookieState.fill

/-! ## What is added -/

def addHeaders (calculateCookieCount : Bool) (fill : HeaderFill) (headers : List RequestHeader) :
    HeaderFill :=
  headers.foldl (addHeader calculateCookieCount) fill

/-- One entry of the array. -/
def cookieEntry (name part : Bytes) : RequestHeader := ⟨ascii "cookie", name ++ 61 :: part, false⟩

/-- The parts of a value. -/
def valueParts (headerValueMaxLength : Nat) (value : Bytes) : List Bytes :=
  if value.length ≤ headerValueMaxLength then [value]
  else cookieChunks headerValueMaxLength value.length value

theorem cookieHeaders_of_cut {headerValueMaxLength : Nat} {token name value : Bytes}
    (h : cut 61 ((token.dropWhile (· = 32)).rdropWhile (· = 32)) = some (name, value)) :
    cookieHeaders headerValueMaxLength token =
      (valueParts headerValueMaxLength value).map (cookieEntry name) := by
  rw [cookieHeaders]
  simp only [h]
  rfl

theorem cookieHeaders_of_not_mem {headerValueMaxLength : Nat} {token : Bytes}
    (h : 61 ∉ (token.dropWhile (· = 32)).rdropWhile (· = 32)) :
    cookieHeaders headerValueMaxLength token = [] := by
  rw [cookieHeaders]
  simp only [cut_eq_none_iff.mpr h]

section Chunks

variable {headerValueMaxLength : Nat}

theorem cookieChunks_nil (fuel : Nat) : cookieChunks headerValueMaxLength fuel [] = [] := by
  cases fuel with
  | zero => rfl
  | succ fuel => rw [cookieChunks, if_pos rfl]

/-- More rounds than octets do nothing. -/
theorem cookieChunks_eq (hmax : 1 ≤ headerValueMaxLength) {fuel : Nat} {value : Bytes}
    (hfuel : value.length ≤ fuel) :
    cookieChunks headerValueMaxLength fuel value =
      cookieChunks headerValueMaxLength value.length value := by
  induction fuel using Nat.strong_induction_on generalizing value with
  | _ fuel ih =>
    cases hvalue : value.length with
    | zero => rw [List.length_eq_zero_iff.mp hvalue, cookieChunks_nil, cookieChunks_nil]
    | succ n =>
      cases fuel with
      | zero => omega
      | succ fuel =>
        have hrest : (value.drop headerValueMaxLength).length ≤ n := by
          rw [List.length_drop]
          omega
        rw [cookieChunks, cookieChunks, ih fuel (by omega) (by omega), ih n (by omega) hrest]

/-- The entries of a value in chunks. -/
def chunkEntries (headerValueMaxLength : Nat) (name value : Bytes) : List RequestHeader :=
  (cookieChunks headerValueMaxLength value.length value).map (cookieEntry name)

/-- A value that is not empty starts with its first chunk. -/
theorem chunkEntries_cons (hmax : 1 ≤ headerValueMaxLength) (name : Bytes) {value : Bytes}
    (hne : value ≠ []) :
    chunkEntries headerValueMaxLength name value =
      cookieEntry name (value.take headerValueMaxLength) ::
        chunkEntries headerValueMaxLength name (value.drop headerValueMaxLength) := by
  have hpos : 0 < value.length := List.length_pos_iff.mpr hne
  have hrest : (value.drop headerValueMaxLength).length ≤ value.length - 1 := by
    rw [List.length_drop]
    omega
  rw [chunkEntries, chunkEntries, ← cookieChunks_eq hmax hrest]
  obtain ⟨n, hn⟩ := Nat.exists_eq_succ_of_ne_zero (Nat.ne_of_gt hpos)
  rw [hn, cookieChunks, if_neg hne]
  rfl

/-- The first chunk ends at the limit, or at the end of the value. -/
theorem slice_chunk (headerValueMaxLength : Nat) {fullCookie : Bytes} {start stop : Nat}
    (hle : start ≤ stop) (hstop : stop ≤ fullCookie.length) :
    let chunkLen := if stop - start > headerValueMaxLength then headerValueMaxLength
      else stop - start
    (slice fullCookie start stop).take headerValueMaxLength =
        slice fullCookie start (start + chunkLen) ∧
      (slice fullCookie start stop).drop headerValueMaxLength =
        slice fullCookie (start + chunkLen) stop := by
  have hlength : (slice fullCookie start stop).length = stop - start := length_slice hstop
  intro chunkLen
  by_cases hlong : stop - start > headerValueMaxLength
  · have hlen : chunkLen = headerValueMaxLength := if_pos hlong
    rw [hlen]
    constructor
    · rw [← take_slice fullCookie (show start + headerValueMaxLength ≤ stop by omega),
        Nat.add_sub_cancel_left]
    · rw [← drop_slice fullCookie (Nat.le_add_right start headerValueMaxLength),
        Nat.add_sub_cancel_left]
  · have hlen : chunkLen = stop - start := if_neg hlong
    rw [hlen, Nat.add_sub_cancel' hle, slice_self]
    exact ⟨List.take_of_length_le (by omega), List.drop_eq_nil_of_le (by omega)⟩

theorem flatten_cookieChunks (hmax : 1 ≤ headerValueMaxLength) {fuel : Nat} :
    ∀ {value : Bytes}, value.length ≤ fuel →
      (cookieChunks headerValueMaxLength fuel value).flatten = value := by
  induction fuel with
  | zero =>
    intro value hvalue
    rw [List.length_eq_zero_iff.mp (Nat.le_zero.mp hvalue)]
    rfl
  | succ fuel ih =>
    intro value hvalue
    rw [cookieChunks]
    split
    · rename_i hnil
      rw [hnil]
      rfl
    · have hrest : (value.drop headerValueMaxLength).length ≤ fuel := by
        rw [List.length_drop]
        omega
      rw [List.flatten_cons, ih hrest, List.take_append_drop]

theorem length_of_mem_cookieChunks {fuel : Nat} {part : Bytes} :
    ∀ {value : Bytes}, part ∈ cookieChunks headerValueMaxLength fuel value →
      part.length ≤ headerValueMaxLength := by
  induction fuel with
  | zero =>
    intro value h
    cases h
  | succ fuel ih =>
    intro value h
    rw [cookieChunks] at h
    split at h
    · cases h
    · rcases List.mem_cons.mp h with rfl | hrest
      · rw [List.length_take]
        exact Nat.min_le_left _ _
      · exact ih hrest

/-- The parts put together are the value. -/
theorem flatten_valueParts (hmax : 1 ≤ headerValueMaxLength) (value : Bytes) :
    (valueParts headerValueMaxLength value).flatten = value := by
  rw [valueParts]
  split
  · simp
  · exact flatten_cookieChunks hmax (Nat.le_refl _)

theorem length_of_mem_valueParts {value part : Bytes}
    (h : part ∈ valueParts headerValueMaxLength value) : part.length ≤ headerValueMaxLength := by
  rw [valueParts] at h
  split at h
  · rename_i hshort
    rw [List.mem_singleton.mp h]
    exact hshort
  · exact length_of_mem_cookieChunks h

end Chunks

/-! ## One item -/

section Rounds

variable (calculateCookieCount : Bool) {headerValueMaxLength : Nat} {fullCookie : Bytes}
  {fuel : Nat}

/-- The chunks are added in their order. -/
theorem chunkLoop_spec (hmax : 1 ≤ headerValueMaxLength) (name : Bytes) {start stop : Nat}
    (hle : start ≤ stop) (hstop : stop ≤ fullCookie.length) (hfuel : stop - start < fuel)
    (fill : HeaderFill) :
    (chunkLoop calculateCookieCount headerValueMaxLength fullCookie fuel name start (stop - start)
        fill).map ChunkState.fill =
      some (addHeaders calculateCookieCount fill
        (chunkEntries headerValueMaxLength name (slice fullCookie start stop))) := by
  have hloop : ∃ last, chunkLoop calculateCookieCount headerValueMaxLength fullCookie fuel name
        start (stop - start) fill = some last ∧
      (last.offset ≤ stop - start ∧
        addHeaders calculateCookieCount last.fill
            (chunkEntries headerValueMaxLength name
              (slice fullCookie (start + last.offset) stop)) =
          addHeaders calculateCookieCount fill
            (chunkEntries headerValueMaxLength name (slice fullCookie start stop))) ∧
      decide (last.offset < stop - start) = false := by
    refine whileLoop_total _ (fun state => stop - start - state.offset) ?_
      ⟨Nat.zero_le _, rfl⟩ hfuel
    intro state hinv hguard
    obtain ⟨hoffset, hadded⟩ := hinv
    rw [decide_eq_true_eq] at hguard
    have hne : slice fullCookie (start + state.offset) stop ≠ [] := by
      rw [← List.length_pos_iff, length_slice hstop]
      omega
    obtain ⟨htake, hdrop⟩ := slice_chunk headerValueMaxLength
      (show start + state.offset ≤ stop by omega) hstop
    rw [chunkEntries_cons hmax name hne, htake, hdrop, Nat.sub_add_eq] at hadded
    refine ⟨_, rfl, ⟨?_, ?_⟩, ?_⟩
    · dsimp only
      split <;> omega
    · rw [← hadded, ← Nat.add_assoc]
      rfl
    · dsimp only
      split <;> omega
  obtain ⟨last, hrun, ⟨hoffset, hadded⟩, hend⟩ := hloop
  rw [decide_eq_false_iff_not] at hend
  rw [slice_of_le (by omega)] at hadded
  rw [hrun, Option.map_some, ← hadded]
  rfl

/-- An item adds its headers. -/
theorem addItem_spec (hmax : 1 ≤ headerValueMaxLength) {tokenStart trimmedEnd : Nat}
    (hend : trimmedEnd ≤ fullCookie.length) (hfuel : trimmedEnd - tokenStart < fuel)
    {token : Bytes}
    (htoken : slice fullCookie tokenStart trimmedEnd =
      (token.dropWhile (· = 32)).rdropWhile (· = 32)) (fill : HeaderFill) :
    addItem calculateCookieCount headerValueMaxLength fullCookie fuel tokenStart trimmedEnd fill =
      some (addHeaders calculateCookieCount fill (cookieHeaders headerValueMaxLength token)) := by
  rcases search_spec 0 (· = 61) hend hfuel with
    ⟨hrun, hnone⟩ | ⟨eq, hrun, hstart, heq, hfound, hfirst⟩
  · have hmem : 61 ∉ (token.dropWhile (· = 32)).rdropWhile (· = 32) := by
      intro h
      rw [← htoken] at h
      simpa using hnone 61 h
    rw [addItem, hrun, cookieHeaders_of_not_mem hmem]
    rfl
  · have hchar : fullCookie.getD eq 0 = 61 := by simpa using hfound
    have hname : 61 ∉ slice fullCookie tokenStart eq := fun h => by simpa using hfirst 61 h
    have hcut : cut 61 ((token.dropWhile (· = 32)).rdropWhile (· = 32)) =
        some (slice fullCookie tokenStart eq, slice fullCookie (eq + 1) trimmedEnd) := by
      rw [← htoken, ← slice_append_slice fullCookie hstart (Nat.le_of_lt heq),
        slice_eq_cons heq hend 0, hchar]
      exact cut_append hname _
    have hlength : (slice fullCookie (eq + 1) trimmedEnd).length = trimmedEnd - (eq + 1) :=
      length_slice hend
    rw [addItem, hrun, cookieHeaders_of_cut hcut, valueParts, hlength]
    dsimp only
    rw [if_pos (show eq + 1 ≤ trimmedEnd by omega)]
    split
    · rw [Nat.add_sub_cancel' (show eq + 1 ≤ trimmedEnd by omega)]
      rfl
    · rw [chunkLoop_spec calculateCookieCount hmax _ (by omega) hend (by omega), chunkEntries,
        hlength]

/-! ## All items -/

/-- The next semicolon. -/
theorem strchrFrom_spec (s : Bytes) (p : Nat) (c : UInt8) :
    strchrFrom s p c = none ∧ c ∉ s.drop p ∨
      ∃ k, strchrFrom s p c = some k ∧ p ≤ k ∧ k < s.length ∧ c ∉ slice s p k ∧
        s.drop p = slice s p k ++ c :: s.drop (k + 1) := by
  cases hcut : cut c (s.drop p) with
  | none => exact Or.inl ⟨by rw [strchrFrom, hcut]; rfl, cut_eq_none_iff.mp hcut⟩
  | some parts =>
    obtain ⟨text, after⟩ := parts
    obtain ⟨hmem, hdrop⟩ := cut_eq_some_iff.mp hcut
    have hslice : slice s p (p + text.length) = text := by
      rw [slice, hdrop, Nat.add_sub_cancel_left, List.take_left]
    have hafter : s.drop (p + text.length + 1) = after := by
      rw [Nat.add_assoc, ← List.drop_drop, hdrop, ← List.drop_drop, List.drop_left]
      rfl
    have hlength := congrArg List.length hdrop
    rw [List.length_drop, List.length_append, List.length_cons] at hlength
    refine Or.inr ⟨p + text.length, by rw [strchrFrom, hcut]; rfl, by omega, by omega, ?_, ?_⟩
    · rwa [hslice]
    · rw [hslice, hafter, hdrop]

/-- The terminator is the only zero. -/
theorem getD_eq_zero_iff (hcookie : 0 ∉ fullCookie) (p : Nat) :
    fullCookie.getD p 0 = 0 ↔ fullCookie.length ≤ p := by
  rw [List.getD_eq_getElem?_getD]
  rcases Nat.lt_or_ge p fullCookie.length with hlt | hge
  · rw [List.getElem?_eq_getElem hlt, Option.getD_some]
    constructor
    · intro h
      exact absurd (h ▸ List.getElem_mem hlt) hcookie
    · omega
  · rw [List.getElem?_eq_none hge]
    simpa using hge

theorem processCookies_nil : processCookies [] headerValueMaxLength = [] := by
  rw [processCookies]
  rfl

/-- One round adds the headers of the item up to the next semicolon. -/
theorem cookieRound_eq (hmax : 1 ≤ headerValueMaxLength) (hfuel : fullCookie.length < fuel)
    {state : CookieState} {tokenEnd : Nat}
    (htoken : (strchrFrom fullCookie state.p 59).getD fullCookie.length = tokenEnd)
    (hp : state.p ≤ tokenEnd) (hend : tokenEnd ≤ fullCookie.length) :
    cookieRound calculateCookieCount headerValueMaxLength fullCookie fuel state =
      some ⟨if fullCookie.getD tokenEnd 0 = 0 then tokenEnd else tokenEnd + 1,
        addHeaders calculateCookieCount state.fill
          (cookieHeaders headerValueMaxLength (slice fullCookie state.p tokenEnd))⟩ := by
  obtain ⟨tokenStart, hforward, hfirst, hstart, hdrop⟩ :=
    skipForward_spec 0 (· = 32) hp hend (show tokenEnd - state.p < fuel by omega)
  obtain ⟨trimmedEnd, hbackward, hlast, htrimmed, hrdrop⟩ :=
    skipBackward_spec 0 (· = 32) hstart hend (show tokenEnd - tokenStart < fuel by omega)
  rw [hdrop] at hrdrop
  rw [cookieRound, htoken, hforward, Option.bind_eq_bind, Option.bind_some, hbackward,
    Option.bind_eq_bind, Option.bind_some,
    addItem_spec calculateCookieCount hmax (by omega) (by omega) hrdrop]
  rfl

/-- One round takes the first item of what is left. -/
theorem cookieRound_spec (hcookie : 0 ∉ fullCookie) (hmax : 1 ≤ headerValueMaxLength)
    (hfuel : fullCookie.length < fuel) {state : CookieState} (hp : state.p < fullCookie.length) :
    ∃ next, cookieRound calculateCookieCount headerValueMaxLength fullCookie fuel state =
        some next ∧ state.p < next.p ∧ next.p ≤ fullCookie.length ∧
      addHeaders calculateCookieCount next.fill
          (processCookies (fullCookie.drop next.p) headerValueMaxLength) =
        addHeaders calculateCookieCount state.fill
          (processCookies (fullCookie.drop state.p) headerValueMaxLength) := by
  rcases strchrFrom_spec fullCookie state.p 59 with
    ⟨hnone, hmem⟩ | ⟨k, hsome, hk, hlt, hmem, hdrop⟩
  · -- the last item: the terminator stays where it is
    have hround := cookieRound_eq calculateCookieCount hmax hfuel
      (show (strchrFrom fullCookie state.p 59).getD fullCookie.length = fullCookie.length by
        rw [hnone]; rfl) (Nat.le_of_lt hp) (Nat.le_refl _)
    rw [if_pos ((getD_eq_zero_iff hcookie _).mpr (Nat.le_refl _))] at hround
    refine ⟨_, hround, hp, Nat.le_refl _, ?_⟩
    rw [List.drop_length, processCookies_nil, slice_length, processCookies,
      List.splitOn_eq_singleton hmem, List.flatMap_singleton]
    rfl
  · have hround := cookieRound_eq calculateCookieCount hmax hfuel
      (show (strchrFrom fullCookie state.p 59).getD fullCookie.length = k by
        rw [hsome]; rfl) hk (Nat.le_of_lt hlt)
    have hchar : fullCookie.getD k 0 ≠ 0 := by
      rw [Ne, getD_eq_zero_iff hcookie]
      omega
    rw [if_neg hchar] at hround
    refine ⟨_, hround, by dsimp only; omega, hlt, ?_⟩
    dsimp only
    rw [processCookies, processCookies, hdrop, List.splitOn_append_cons_self_of_not_mem hmem,
      List.flatMap_cons, addHeaders, addHeaders, addHeaders, List.foldl_append]

end Rounds

/-- The loops end, and add the headers of the cookie. -/
theorem processCookiesRun_eq {cookie : Bytes} (hcookie : 0 ∉ cookie) {headerValueMaxLength : Nat}
    (hmax : 1 ≤ headerValueMaxLength) {fuel : Nat} (hfuel : cookie.length < fuel)
    (headers : Nat → Option RequestHeader) (idx : Nat) (calculateCookieCount : Bool) :
    processCookiesRun fuel headers idx (some cookie) calculateCookieCount headerValueMaxLength =
      some (addHeaders calculateCookieCount ⟨headers, idx⟩
        (processCookies cookie headerValueMaxLength)) := by
  have hloop : ∃ last, whileLoop (fun state => decide (cookie.getD state.p 0 ≠ 0))
        (cookieRound calculateCookieCount headerValueMaxLength cookie fuel) fuel
        ⟨0, ⟨headers, idx⟩⟩ = some last ∧
      (last.p ≤ cookie.length ∧
        addHeaders calculateCookieCount last.fill
            (processCookies (cookie.drop last.p) headerValueMaxLength) =
          addHeaders calculateCookieCount ⟨headers, idx⟩
            (processCookies cookie headerValueMaxLength)) ∧
      decide (cookie.getD last.p 0 ≠ 0) = false := by
    refine whileLoop_total _ (fun state => cookie.length - state.p) ?_ ⟨Nat.zero_le _, rfl⟩ hfuel
    intro state hinv hguard
    obtain ⟨hp, hadded⟩ := hinv
    rw [decide_eq_true_eq, Ne, getD_eq_zero_iff hcookie, Nat.not_le] at hguard
    obtain ⟨next, hround, hless, hnext, hsame⟩ :=
      cookieRound_spec calculateCookieCount hcookie hmax hfuel hguard
    exact ⟨next, hround, ⟨hnext, hsame.trans hadded⟩, by omega⟩
  obtain ⟨last, hrun, ⟨hp, hadded⟩, hend⟩ := hloop
  rw [decide_eq_false_iff_not, not_not, getD_eq_zero_iff hcookie] at hend
  rw [List.drop_eq_nil_of_le hend, processCookies_nil] at hadded
  rw [processCookiesRun, hrun, Option.map_some, ← hadded]
  rfl

/-! ## The two modes -/

/-- An array with headers behind an index. -/
def written (headers : Nat → Option RequestHeader) (idx : Nat) (entries : List RequestHeader) :
    Nat → Option RequestHeader :=
  fun i => if i < idx then headers i else (entries[i - idx]?).or (headers i)

theorem addHeaders_count (fill : HeaderFill) (entries : List RequestHeader) :
    addHeaders true fill entries = ⟨fill.headers, fill.idx + entries.length⟩ := by
  induction entries generalizing fill with
  | nil => rfl
  | cons entry entries ih =>
    rw [addHeaders, List.foldl_cons, ← addHeaders, ih, addHeader, if_pos rfl, List.length_cons]
    simp only [HeaderFill.mk.injEq, true_and]
    omega

theorem addHeaders_fill (fill : HeaderFill) (entries : List RequestHeader) :
    addHeaders false fill entries =
      ⟨written fill.headers fill.idx entries, fill.idx + entries.length⟩ := by
  induction entries generalizing fill with
  | nil =>
    have hsame : written fill.headers fill.idx [] = fill.headers := by
      funext i
      simp [written]
    rw [hsame]
    rfl
  | cons entry entries ih =>
    rw [addHeaders, List.foldl_cons, ← addHeaders, ih, addHeader, if_neg Bool.false_ne_true,
      List.length_cons]
    simp only [HeaderFill.mk.injEq]
    refine ⟨?_, by omega⟩
    funext i
    rw [written, written]
    rcases Nat.lt_trichotomy i fill.idx with hlt | heq | hgt
    · rw [if_pos (by omega), if_pos hlt, Function.update_of_ne (by omega)]
    · rw [if_pos (by omega), if_neg (by omega), heq, Function.update_self, Nat.sub_self]
      rfl
    · rw [if_neg (by omega), if_neg (by omega), Function.update_of_ne (by omega),
        show i - fill.idx = i - (fill.idx + 1) + 1 by omega, List.getElem?_cons_succ]

/-- The items with an equals sign, each as its name and its value. -/
def namedItems (cookie : Bytes) : List (Bytes × Bytes) := (trimmedItems cookie).filterMap (cut 61)

/-- The entries of a cookie whose values are divided into parts. -/
def cookieEntries (parts : Bytes → List Bytes) (cookie : Bytes) : List RequestHeader :=
  (namedItems cookie).flatMap fun item => (parts item.2).map (cookieEntry item.1)

theorem processCookies_entries (cookie : Bytes) (headerValueMaxLength : Nat) :
    processCookies cookie headerValueMaxLength =
      cookieEntries (valueParts headerValueMaxLength) cookie := by
  rw [processCookies, cookieEntries, namedItems, trimmedItems]
  induction cookie.splitOn 59 with
  | nil => rfl
  | cons token tokens ih =>
    rw [List.flatMap_cons, ih, List.map_cons]
    cases hcut : cut 61 ((token.dropWhile (· = 32)).rdropWhile (· = 32)) with
    | none =>
      rw [cookieHeaders_of_not_mem (cut_eq_none_iff.mp hcut), List.filterMap_cons_none hcut]
      rfl
    | some item => rw [cookieHeaders_of_cut hcut, List.filterMap_cons_some hcut, List.flatMap_cons]

/-- The function ends in both modes.  It counts as many headers as it writes,
and these have the parts of each value, none of them too long, in their order. -/
theorem processCookies_modes {cookie : Bytes} (hcookie : 0 ∉ cookie)
    {headerValueMaxLength : Nat} (hmax : 1 ≤ headerValueMaxLength) :
    ∃ parts : Bytes → List Bytes,
      (∀ value, (parts value).flatten = value ∧
        ∀ part ∈ parts value, part.length ≤ headerValueMaxLength) ∧
      ∀ fuel > cookie.length, ∀ (headers : Nat → Option RequestHeader) (idx : Nat),
        processCookiesRun fuel headers 0 (some cookie) true headerValueMaxLength =
            some ⟨headers, (cookieEntries parts cookie).length⟩ ∧
          processCookiesRun fuel headers idx (some cookie) false headerValueMaxLength =
            some ⟨written headers idx (cookieEntries parts cookie),
              idx + (cookieEntries parts cookie).length⟩ := by
  refine ⟨valueParts headerValueMaxLength, fun value => ⟨flatten_valueParts hmax value,
    fun part => length_of_mem_valueParts⟩, ?_⟩
  intro fuel hfuel headers idx
  rw [processCookiesRun_eq hcookie hmax hfuel, processCookiesRun_eq hcookie hmax hfuel,
    addHeaders_count, addHeaders_fill, processCookies_entries, Nat.zero_add]
  exact ⟨rfl, rfl⟩

/-- A value of two octets with a limit of one, and a value with none. -/
theorem processCookies_modes_two :
    ∃ parts : Bytes → List Bytes,
      (parts (ascii "12")).flatten = ascii "12" ∧
        (∀ part ∈ parts (ascii "12"), part.length ≤ 1) ∧
        processCookiesRun 10 (fun _ => none) 0 (some (ascii "a=12; b=")) true 1 =
          some ⟨fun _ => none, (cookieEntries parts (ascii "a=12; b=")).length⟩ ∧
        processCookiesRun 10 (fun _ => none) 4 (some (ascii "a=12; b=")) false 1 =
          some ⟨written (fun _ => none) 4 (cookieEntries parts (ascii "a=12; b=")),
            4 + (cookieEntries parts (ascii "a=12; b=")).length⟩ := by
  obtain ⟨parts, hparts, hmodes⟩ := processCookies_modes (show 0 ∉ ascii "a=12; b=" by decide)
    (show 1 ≤ 1 by decide)
  obtain ⟨hcount, hfill⟩ := hmodes 10 (by decide) (fun _ => none) 4
  exact ⟨parts, (hparts _).1, (hparts _).2, hcount, hfill⟩

end HttpRequestClient
