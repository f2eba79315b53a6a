import HttpRequestClient.UrlEndpoint

/-!
# The request target of a URL

`components.path` is what the request line carries.  `UrlText` is a URL of the
grammar, with its parts, and `UrlText.target` the target that the grammar gives
it: the path, a slash where there is none, and the query behind a question mark.

The parser drops the question mark behind a slash, adds no slash, and ends the
path at a question mark of the fragment.

* `parseUrl_target_iff`: when the target is the one of the grammar.
-/

namespace HttpRequestClient.Url

open Parts

/-- A URL by its parts. -/
structure UrlText where
  scheme : Bytes
  authority : Bytes
  path : Bytes
  query : Option Bytes
  fragment : Option Bytes
  scheme_chars : 58 ∉ scheme
  authority_chars : ∀ c ∈ authority, isDelimiter c = false
  path_start : path = [] ∨ path.head? = some 47
  path_chars : 63 ∉ path ∧ 35 ∉ path
  query_chars : ∀ text ∈ query, 35 ∉ text

/-- What follows the path. -/
def UrlText.rear (url : UrlText) : Bytes :=
  (url.query.elim [] fun text => 63 :: text) ++ url.fragment.elim [] fun text => 35 :: text

def UrlText.written (url : UrlText) : Bytes :=
  url.scheme ++ ascii "://" ++ (url.authority ++ (url.path ++ url.rear))

/-- The query as a target has it. -/
def UrlText.suffix (url : UrlText) : Bytes :=
  if url.query.getD [] = [] then [] else 63 :: url.query.getD []

def UrlText.target (url : UrlText) : Bytes :=
  (if url.path = [] then [47] else url.path) ++ url.suffix

/-! ## The condition -/

/-- A path that is kept: the first question mark is the one of the query, and a
query follows no slash. -/
def PathKept (url : UrlText) : Prop :=
  url.path ≠ [] ∧ (url.query.isSome = true ∨ ∀ text ∈ url.fragment, 63 ∉ text) ∧
    (url.query.getD [] = [] ∨ url.path.getLast? ≠ some 47)

/-- There is no path, and behind the first slash of the query or of the fragment
stands by accident what is missing. -/
def StraySlash (url : UrlText) : Prop :=
  url.path = [] ∧ ∃ before after, url.rear = before ++ 47 :: after ∧ 47 ∉ before ∧
    ((∃ text, after = 63 :: text ∧ text.takeWhile (· ≠ 35) = url.suffix) ∨
      (63 ∉ after ∧ url.suffix = [] ∧ ∀ c ∈ after.head?, c = 35))

/-- The URL is parsed, and its target is not lost. -/
structure TargetKept (url : UrlText) : Prop where
  valid : validateUrl url.written = true
  scheme : url.scheme.length < SCHEME_SIZE
  readable : Readable (url.authority ++ (url.path ++ url.rear))
  kept : PathKept url ∨ StraySlash url

/-! ## The target behind an authority -/

theorem upTo_hash (s : Bytes) : (upTo [35] s).1 = s.takeWhile (· ≠ 35) := by
  by_cases hmem : 35 ∈ s
  · obtain ⟨before, after, rfl, hbefore⟩ := List.eq_append_cons_of_mem hmem
    rw [upTo_found hbefore, List.takeWhile_append_of_pos fun c hc => by
      simpa using fun heq : c = 35 => hbefore (heq ▸ hc)]
    simp
  · rw [upTo_absent hmem, upTo, List.takeWhile_eq_self_iff.mpr fun c hc => by
      simpa using fun heq : c = 35 => hmem (heq ▸ hc)]

theorem queryPart_of_head {current : Bytes} (h : current.head? ≠ some 63) :
    queryPart current = ([], current) := by
  unfold queryPart
  split
  · exact absurd rfl h
  · rfl

theorem queryPart_subset (current : Bytes) {c : UInt8} (h : c ∈ (queryPart current).1) :
    c ∈ current := by
  unfold queryPart at h
  split at h
  · rename_i current
    have hsplit := (upTo_spec [35] current).1
    exact List.mem_cons_of_mem _ (hsplit ▸ List.mem_append_left _ h)
  · cases h

/-- The path up to its question mark, and the query behind it. -/
theorem targetOf_query {path : Bytes} (hstart : path.head? = some 47) (hpath : 63 ∉ path)
    (text : Bytes) :
    targetOf (path ++ 63 :: text) = joinQuery path (text.takeWhile (· ≠ 35)) := by
  have hhead : (path ++ 63 :: text).head? = some 47 := by
    cases path with
    | nil => cases hstart
    | cons c path => exact hstart
  rw [targetOf, pathPart, if_pos hhead, upTo_found hpath, queryPart, upTo_hash]

/-- Without a question mark there is no query. -/
theorem targetOf_plain {current : Bytes} (hstart : current.head? = some 47)
    (hquery : 63 ∉ current) : targetOf current = current.takeWhile (· ≠ 35) := by
  have hrest : ∀ c ∈ (upTo [35] current).2.head?, c = 35 := by
    intro c hc
    simpa using (upTo_spec [35] current).2 c hc
  have hno : (upTo [35] current).2.head? ≠ some 63 := by
    intro h
    exact absurd (hrest 63 (by rw [h]; rfl)) (by decide)
  rw [targetOf, pathPart, if_pos hstart, upTo_absent hquery, queryPart_of_head hno, upTo_hash]
  rfl

/-- A text that does not start with a slash has no path. -/
theorem targetOf_of_head {current : Bytes} (h : current.head? ≠ some 47) :
    targetOf current = (queryPart current).1 := by
  rw [targetOf, pathPart, if_neg h]
  unfold joinQuery
  split
  · rename_i hnil
    exact hnil.symm
  · simp

theorem joinQuery_eq_iff {path query : Bytes} (hpath : path ≠ []) :
    joinQuery path query = path ++ (if query = [] then [] else 63 :: query) ↔
      query = [] ∨ path.getLast? ≠ some 47 := by
  have hmark : ascii "?" = [63] := by decide
  have hlength : path.length > 0 := List.length_pos_iff.mpr hpath
  unfold joinQuery
  by_cases hquery : query = []
  · simp [hquery]
  · by_cases hlast : path.getLast? = some 47
    · rw [if_neg hquery, if_neg (fun h => h.2 hlast), if_neg hquery]
      constructor
      · intro heq
        have hlengths := congrArg List.length heq
        simp only [List.length_append, List.length_cons] at hlengths
        omega
      · rintro (h | h)
        · exact absurd h hquery
        · exact absurd hlast h
    · rw [if_neg hquery, if_pos ⟨hlength, hlast⟩, if_neg hquery, hmark]
      simp [hlast]

/-! ## A URL with a path -/

theorem takeWhile_fragment {front : Bytes} (h : 35 ∉ front) (fragment : Option Bytes) :
    (front ++ fragment.elim [] fun text => 35 :: text).takeWhile (· ≠ 35) = front := by
  rw [List.takeWhile_append_of_pos fun c hc => by
    simpa using fun heq : c = 35 => h (heq ▸ hc)]
  cases fragment <;> simp

/-- Where there is a query its question mark is the first one. -/
theorem targetOf_withQuery (url : UrlText) (hstart : url.path.head? = some 47) {query : Bytes}
    (hquery : url.query = some query) :
    targetOf (url.path ++ url.rear) = joinQuery url.path query := by
  have hchars : 35 ∉ query := url.query_chars query (by rw [hquery]; rfl)
  have hrear : url.rear = 63 :: (query ++ url.fragment.elim [] fun text => 35 :: text) := by
    rw [UrlText.rear, hquery]
    rfl
  rw [hrear, targetOf_query hstart url.path_chars.1, takeWhile_fragment hchars]

/-- Without a query the fragment must not have a question mark. -/
theorem targetOf_withoutQuery (url : UrlText) (hstart : url.path.head? = some 47)
    (hquery : url.query = none) :
    targetOf (url.path ++ url.rear) = url.path ↔ ∀ text ∈ url.fragment, 63 ∉ text := by
  have hrear : url.rear = url.fragment.elim [] fun text => 35 :: text := by
    rw [UrlText.rear, hquery]
    rfl
  have hhead (rest : Bytes) : (url.path ++ rest).head? = some 47 := by
    cases hpath : url.path with
    | nil => rw [hpath] at hstart; cases hstart
    | cons c path => rw [hpath] at hstart; exact hstart
  constructor
  · intro htarget text htext hmem
    obtain ⟨before, after, rfl, hbefore⟩ := List.eq_append_cons_of_mem hmem
    have hsplit : url.path ++ url.rear = (url.path ++ 35 :: before) ++ 63 :: after := by
      rw [hrear, Option.mem_def.mp htext]
      simp
    have hfront : 63 ∉ url.path ++ 35 :: before := by
      simp [url.path_chars.1, hbefore]
    rw [hsplit, targetOf_query (hhead _) hfront] at htarget
    -- the hash of the fragment has become a character of the path
    have hhash : 35 ∈ joinQuery (url.path ++ 35 :: before) (after.takeWhile (· ≠ 35)) := by
      unfold joinQuery
      split_ifs <;> simp
    rw [htarget] at hhash
    exact url.path_chars.2 hhash
  · intro hfragment
    have hno : 63 ∉ url.path ++ url.rear := by
      rw [hrear, List.mem_append, not_or]
      refine ⟨url.path_chars.1, ?_⟩
      cases htext : url.fragment with
      | none => exact List.not_mem_nil
      | some text =>
        have hmem := hfragment text htext
        simp [hmem]
    rw [targetOf_plain (hhead _) hno, hrear, takeWhile_fragment url.path_chars.2]

theorem target_withPath_iff (url : UrlText) (hpath : url.path ≠ []) :
    targetOf (url.path ++ url.rear) = url.target ↔ PathKept url ∨ StraySlash url := by
  have hstart : url.path.head? = some 47 := url.path_start.resolve_left hpath
  have hstray : ¬StraySlash url := fun h => hpath h.1
  have htarget : url.target = url.path ++ url.suffix := by rw [UrlText.target, if_neg hpath]
  rw [htarget]
  cases hquery : url.query with
  | none =>
    have hsuffix : url.suffix = [] := by simp [UrlText.suffix, hquery]
    rw [hsuffix, List.append_nil, targetOf_withoutQuery url hstart hquery]
    simp [PathKept, hstray, hpath, hquery]
  | some query =>
    have hsuffix : url.suffix = if query = [] then [] else 63 :: query := by
      simp [UrlText.suffix, hquery]
    rw [hsuffix, targetOf_withQuery url hstart hquery, joinQuery_eq_iff hpath]
    simp [PathKept, hstray, hpath, hquery]

/-! ## A URL without a path -/

/-- Behind a stray slash the path ends at a question mark, which has to come at
once. -/
theorem targetOf_strayQuery_iff {before text suffix : Bytes} (hbefore : 63 ∉ before)
    (hsuffix : ∀ c ∈ suffix.head?, c = 63) :
    targetOf (47 :: (before ++ 63 :: text)) = 47 :: suffix ↔
      before = [] ∧ text.takeWhile (· ≠ 35) = suffix := by
  have hfront : 63 ∉ 47 :: before := by simp [hbefore]
  rw [← List.cons_append, targetOf_query rfl hfront]
  cases before with
  | nil =>
    have hjoin (query : Bytes) : joinQuery [47] query = 47 :: query := by
      unfold joinQuery
      split
      · rename_i hnil
        rw [hnil]
      · rw [if_neg (by simp)]
        rfl
    simp [hjoin]
  | cons c before =>
    have hc : c ≠ 63 := fun heq => hbefore (heq ▸ List.mem_cons_self)
    refine iff_of_false (fun htarget => ?_) fun hnil => nomatch hnil.1
    -- the second character of the path would be a question mark
    have hsecond : suffix.head? = some c := by
      have htail := congrArg (fun target => (target.drop 1).head?) htarget
      unfold joinQuery at htail
      split_ifs at htail <;> simpa using htail.symm
    exact absurd (hsuffix c hsecond) hc

theorem targetOf_strayPlain_iff {after suffix : Bytes} (hmem : 63 ∉ after)
    (hsuffix : ∀ c ∈ suffix.head?, c = 63) :
    targetOf (47 :: after) = 47 :: suffix ↔ suffix = [] ∧ ∀ c ∈ after.head?, c = 35 := by
  have hno : 63 ∉ 47 :: after := by simp [hmem]
  rw [targetOf_plain rfl hno, List.takeWhile_cons_of_pos (by decide), List.cons.injEq]
  simp only [true_and]
  constructor
  · intro htake
    have hnil : suffix = [] := by
      cases hcase : suffix with
      | nil => rfl
      | cons c rest =>
        rw [hcase] at hsuffix htake
        have hc : c = 63 := hsuffix c rfl
        have hin : 63 ∈ after.takeWhile (· ≠ 35) := by
          rw [htake, hc]
          exact List.mem_cons_self
        exact absurd ((List.takeWhile_prefix _).subset hin) hmem
    refine ⟨hnil, fun c hc => ?_⟩
    cases after with
    | nil => cases hc
    | cons d after =>
      cases hc
      by_contra hne
      rw [hnil, List.takeWhile_cons_of_pos (by simpa using hne)] at htake
      cases htake
  · rintro ⟨rfl, hhead⟩
    cases after with
    | nil => rfl
    | cons d after =>
      rw [hhead d rfl]
      exact List.takeWhile_cons_of_neg (by simp)

/-- Behind a stray slash stands a target by accident. -/
theorem targetOf_stray_iff {after suffix : Bytes} (hsuffix : ∀ c ∈ suffix.head?, c = 63) :
    targetOf (47 :: after) = 47 :: suffix ↔
      (∃ text, after = 63 :: text ∧ text.takeWhile (· ≠ 35) = suffix) ∨
        (63 ∉ after ∧ suffix = [] ∧ ∀ c ∈ after.head?, c = 35) := by
  by_cases hmem : 63 ∈ after
  · obtain ⟨before, text, rfl, hbefore⟩ := List.eq_append_cons_of_mem hmem
    rw [targetOf_strayQuery_iff hbefore hsuffix]
    constructor
    · rintro ⟨rfl, htake⟩
      exact Or.inl ⟨text, rfl, htake⟩
    · rintro (⟨text', heq, htake⟩ | ⟨hno, -⟩)
      · cases before with
        | nil =>
          cases heq
          exact ⟨rfl, htake⟩
        | cons c before =>
          rw [(List.cons.inj heq).1] at hbefore
          exact absurd List.mem_cons_self hbefore
      · exact absurd hmem hno
  · rw [targetOf_strayPlain_iff hmem hsuffix]
    constructor
    · exact fun h => Or.inr ⟨hmem, h⟩
    · rintro (⟨text, rfl, -⟩ | ⟨-, h⟩)
      · exact absurd List.mem_cons_self hmem
      · exact h

/-- What stands behind the authority of a URL without a path. -/
theorem target_withoutPath_iff (url : UrlText) (hpath : url.path = []) :
    targetOf (authorityPart url.rear).2 = url.target ↔ PathKept url ∨ StraySlash url := by
  have hkept : ¬PathKept url := fun h => h.1 hpath
  have htarget : url.target = 47 :: url.suffix := by
    rw [UrlText.target, if_pos hpath]
    rfl
  have hsuffix : ∀ c ∈ url.suffix.head?, c = 63 := by
    intro c hc
    rw [UrlText.suffix] at hc
    split at hc
    · cases hc
    · cases hc
      rfl
  by_cases hmem : 47 ∈ url.rear
  · obtain ⟨before, after, hrear, hbefore⟩ := List.eq_append_cons_of_mem hmem
    have hbehind : (authorityPart url.rear).2 = 47 :: after := by
      rw [hrear, authorityPart, upTo_found hbefore]
    rw [hbehind, htarget, targetOf_stray_iff hsuffix]
    simp only [hkept, false_or, StraySlash, hpath, true_and]
    constructor
    · intro h
      exact ⟨before, after, hrear, hbefore, h⟩
    · rintro ⟨before', after', hrear', hbefore', h⟩
      -- the first slash is one place only
      have hcut := cut_append hbefore' after'
      rw [← hrear', hrear, cut_append hbefore, Option.some.injEq, Prod.mk.injEq] at hcut
      rw [hcut.2]
      exact h
  · have hstray : ¬StraySlash url := by
      rintro ⟨-, before, after, hrear, -⟩
      exact hmem (by simp [hrear])
    have hrest : 47 ∉ (authorityPart url.rear).2 := by
      intro hin
      have hsplit := (upTo_spec [47, 63, 35] url.rear).1
      exact hmem (hsplit ▸ List.mem_append_right _ hin)
    have hhead : (authorityPart url.rear).2.head? ≠ some 47 :=
      fun h => hrest (List.mem_of_mem_head? h)
    simp only [hkept, hstray, or_self, iff_false]
    rw [targetOf_of_head hhead, htarget]
    -- there is no slash anywhere to start the target with
    intro heq
    have hin : 47 ∈ (queryPart (authorityPart url.rear).2).1 := by
      rw [heq]
      exact List.mem_cons_self
    exact hrest (queryPart_subset _ hin)

/-! ## The whole URL -/

theorem target_iff (url : UrlText) :
    targetOf (authorityPart (url.authority ++ (url.path ++ url.rear))).2 = url.target ↔
      PathKept url ∨ StraySlash url := by
  rw [authorityPart_append url.authority_chars]
  by_cases hpath : url.path = []
  · rw [hpath, List.nil_append]
    exact target_withoutPath_iff url hpath
  · have hbehind : (authorityPart (url.path ++ url.rear)).2 = url.path ++ url.rear := by
      have hstart := url.path_start.resolve_left hpath
      obtain ⟨path, hcons⟩ := List.head?_eq_some_iff.mp hstart
      rw [hcons, List.cons_append, ← List.nil_append (47 :: _), authorityPart,
        upTo_found List.not_mem_nil]
      rfl
    rw [hbehind]
    exact target_withPath_iff url hpath

theorem schemePart_written (url : UrlText) :
    schemePart url.written = (url.scheme, url.authority ++ (url.path ++ url.rear)) := by
  have hmark : ascii "://" = 58 :: ascii "//" := by decide
  rw [schemePart, UrlText.written, hmark, strstr_found url.scheme_chars]
  rfl

/-- The target of a URL is that of the grammar exactly when the URL is parsed, and
its path is kept or its lack made up for by accident. -/
theorem parseUrl_target_iff (url : UrlText) (hlength : url.written.length < MAX_URL_LENGTH) :
    (∃ c, parseUrl url.written = .parsed c ∧ c.path = url.target) ↔ TargetKept url := by
  have hcopy : urlCopy url.written = url.written := List.take_of_length_le (by omega)
  have hparts := schemePart_written url
  have hpath : (componentsOf (urlCopy url.written)).path =
      targetOf (authorityPart (url.authority ++ (url.path ++ url.rear))).2 := by
    rw [hcopy, componentsOf, hparts]
  have hstorable : Storable (urlCopy url.written) ↔
      url.scheme.length < SCHEME_SIZE ∧ Readable (url.authority ++ (url.path ++ url.rear)) := by
    rw [hcopy, Storable, hparts]
  constructor
  · rintro ⟨c, hparsed, htarget⟩
    obtain ⟨hvalid, hfits, rfl⟩ := parseUrl_eq_parsed_iff.mp hparsed
    obtain ⟨hscheme, hreadable⟩ := hstorable.mp hfits
    rw [hpath] at htarget
    exact ⟨hvalid, hscheme, hreadable, (target_iff url).mp htarget⟩
  · rintro ⟨hvalid, hscheme, hreadable, hkept⟩
    refine ⟨componentsOf (urlCopy url.written), parseUrl_eq_parsed_iff.mpr
      ⟨hvalid, hstorable.mpr ⟨hscheme, hreadable⟩, rfl⟩, ?_⟩
    rw [hpath]
    exact (target_iff url).mpr hkept

/-- `https://a.example/x?q=1#top`. -/
def plainUrl : UrlText where
  scheme := ascii "https"
  authority := ascii "a.example"
  path := ascii "/x"
  query := some (ascii "q=1")
  fragment := some (ascii "top")
  scheme_chars := by decide +kernel
  authority_chars := by decide +kernel
  path_start := by decide +kernel
  path_chars := by decide +kernel
  query_chars := by decide +kernel

/-- `https://a.example/?q=1`. -/
def rootUrl : UrlText where
  scheme := ascii "https"
  authority := ascii "a.example"
  path := ascii "/"
  query := some (ascii "q=1")
  fragment := none
  scheme_chars := by decide +kernel
  authority_chars := by decide +kernel
  path_start := by decide +kernel
  path_chars := by decide +kernel
  query_chars := by decide +kernel

theorem parseUrl_target_plain :
    ∃ c, parseUrl plainUrl.written = .parsed c ∧ c.path = plainUrl.target :=
  (parseUrl_target_iff plainUrl (by decide)).mpr
    ⟨by decide +kernel, by decide, by decide +kernel,
      Or.inl ⟨by decide, Or.inl rfl, Or.inr (by decide)⟩⟩

/-- The question mark is lost: the target is `/q=1`. -/
theorem parseUrl_target_lost :
    rootUrl.written.length < MAX_URL_LENGTH ∧ rootUrl.target = ascii "/?q=1" ∧
      ¬∃ c, parseUrl rootUrl.written = .parsed c ∧ c.path = rootUrl.target := by
  have hparsed : parseUrl rootUrl.written = .parsed
      ⟨ascii "https", ascii "a.example", ascii "443", ascii "/q=1", [], [], [], []⟩ := by
    decide +kernel
  refine ⟨by decide, by decide, ?_⟩
  rintro ⟨c, hc, htarget⟩
  rw [hparsed, ParsedUrl.parsed.injEq] at hc
  subst hc
  exact absurd htarget (by decide)

end HttpRequestClient.Url
