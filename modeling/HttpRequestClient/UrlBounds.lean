import HttpRequestClient.UrlParser

/-!
# The arrays that `parseUrl` writes

Every copy of the parser with the size of its array and the bytes that are
written, in the order of the source and as if all memory before it were intact.
The first copy that does not fit is the first write outside of an array.

The addresses of two arrays on the stack are a parameter.  An at sign behind
the authority makes the source take the distance between them as a length.

* `targetCopies_fit`: what follows the authority fits, since it comes from the
  copy of the URL.
* `atSign_overruns`: with an at sign behind the authority a copy does not fit,
  however the arrays lie.
* `copies_fit_iff`: all copies fit if and only if the URL can be stored, and
  the parser has components exactly then (`parseUrl_outOfBounds_iff`).
-/

namespace HttpRequestClient.Url

open Parts

/-! ## Copies -/

def USERNAME_SIZE : Nat := 64
def PASSWORD_SIZE : Nat := 256

/-- A write from the start of an array. -/
structure Copy where
  size : Nat
  bytes : Nat
  deriving Repr, DecidableEq

def Copy.Fits (copy : Copy) : Prop := copy.bytes ≤ copy.size

instance (copy : Copy) : Decidable copy.Fits := inferInstanceAs (Decidable (_ ≤ _))

/-- A text and its terminator. -/
def copyText (size : Nat) (text : Bytes) : Copy := ⟨size, text.length + 1⟩

/-- `strncpy` with an `int` for its length, which it takes as a `size_t`.  It
fills up with zeros, and the terminator is behind them. -/
def copyCount (size : Nat) (count : Int) : Copy :=
  ⟨size, ((count.bmod (2 ^ 32)) % 2 ^ 64).toNat + 1⟩

/-- Where the arrays `authority` and `urlCopy` are.  Two arrays on one stack have
no byte in common, and an `int` holds their distance. -/
structure StackLayout where
  authority : Int
  urlCopy : Int
  disjoint : authority + AUTHORITY_SIZE ≤ urlCopy ∨ urlCopy + MAX_URL_LENGTH ≤ authority
  near : urlCopy - authority < 2 ^ 30 ∧ authority - urlCopy < 2 ^ 30

/-! ## The copies of the parser -/

def schemeCopies (copy : Bytes) : List Copy :=
  match strstr (ascii "://") copy with
  | some (scheme, _) => [copyText SCHEME_SIZE scheme]
  | none => []

/-- The array `authority` is split into the host and the port. -/
def hostCopies (scheme authority : Bytes) : List Copy :=
  match cut 58 authority with
  | some (host, port) => [copyText HOST_SIZE host, copyText PORT_SIZE port]
  | none =>
    copyText HOST_SIZE authority :: ((defaultPort scheme).map (copyText PORT_SIZE)).toList

/-- The user information in front of an at sign at an address. -/
def userCopies (layout : StackLayout) (authority : Bytes) (atSign : Int) : List Copy :=
  match cut 58 authority with
  | some (user, _) =>
    let colon := layout.authority + user.length
    if colon < atSign then
      [copyCount USERNAME_SIZE (colon - layout.authority),
        copyCount PASSWORD_SIZE (atSign - colon - 1)]
    else [copyCount USERNAME_SIZE (atSign - layout.authority)]
  | none => [copyCount USERNAME_SIZE (atSign - layout.authority)]

/-- `current` is the end of `copy` behind the scheme. -/
def authorityCopies (layout : StackLayout) (copy scheme current : Bytes) : List Copy :=
  let (authority, rest) := upTo [47, 63, 35] current
  copyText AUTHORITY_SIZE authority ::
    match cut 64 rest with
    | none => hostCopies scheme authority
    | some (_, behind) =>
      let atSign := layout.urlCopy + (copy.length - behind.length - 1 : Nat)
      userCopies layout authority atSign ++
        copyText AUTHORITY_SIZE behind :: hostCopies scheme behind

def pathCopies (current : Bytes) : List Copy :=
  if current.head? = some 47 then [copyText PATH_SIZE (upTo [63, 35] current).1] else []

def queryCopies (current : Bytes) : List Copy :=
  match current with
  | 63 :: current => [copyText QUERY_SIZE (upTo [35] current).1]
  | _ => []

def appendCopies (path query : Bytes) : List Copy :=
  if query = [] then [] else [copyText PATH_SIZE (joinQuery path query)]

def fragmentCopies (current : Bytes) : List Copy :=
  match current with
  | 35 :: fragment => [copyText FRAGMENT_SIZE fragment]
  | _ => []

/-- The copies of what follows the authority. -/
def targetCopies (current : Bytes) : List Copy :=
  let (path, afterPath) := pathPart current
  let (query, afterQuery) := queryPart afterPath
  pathCopies current ++ queryCopies afterPath ++ appendCopies path query ++
    fragmentCopies afterQuery

/-- The copies for a URL with valid characters. -/
def copies (layout : StackLayout) (url : Bytes) : List Copy :=
  let copy := urlCopy url
  let (scheme, current) := schemePart copy
  copyText MAX_URL_LENGTH copy :: schemeCopies copy ++
    authorityCopies layout copy scheme current ++ targetCopies (authorityPart current).2

/-! ## Copies that fit -/

/-- All copies of a list fit. -/
def AllFit (list : List Copy) : Prop := ∀ copy ∈ list, copy.Fits

instance (list : List Copy) : Decidable (AllFit list) := inferInstanceAs (Decidable (∀ _ ∈ _, _))

theorem allFit_cons {copy : Copy} {list : List Copy} :
    AllFit (copy :: list) ↔ copy.Fits ∧ AllFit list := List.forall_mem_cons

theorem allFit_append {list later : List Copy} :
    AllFit (list ++ later) ↔ AllFit list ∧ AllFit later := List.forall_mem_append

theorem allFit_nil : AllFit [] := fun _ hmem => absurd hmem List.not_mem_nil

theorem copyText_fits {size : Nat} {text : Bytes} :
    (copyText size text).Fits ↔ text.length < size := Iff.rfl

/-- A length that is negative becomes a huge one. -/
theorem copyCount_fits {size : Nat} {count : Int} (hsize : size < 2 ^ 32)
    (hint : -2 ^ 31 ≤ count ∧ count < 2 ^ 31) :
    (copyCount size count).Fits ↔ 0 ≤ count ∧ count < size := by
  have hcount : count.bmod (2 ^ 32) = count := by
    rw [Int.bmod_eq_emod]
    split <;> omega
  rw [Copy.Fits, copyCount, hcount]
  dsimp only
  omega

theorem schemeCopies_fit (copy : Bytes) :
    AllFit (schemeCopies copy) ↔ (schemePart copy).1.length < SCHEME_SIZE := by
  rw [schemeCopies, schemePart]
  cases hfound : strstr (ascii "://") copy with
  | none => exact iff_of_true allFit_nil (Nat.zero_lt_succ 15)
  | some parts =>
    obtain ⟨scheme, rest⟩ := parts
    rw [allFit_cons, copyText_fits, and_iff_left allFit_nil]
    exact Iff.rfl

theorem hostCopies_fit (scheme : Bytes) {authority : Bytes}
    (hlength : authority.length < AUTHORITY_SIZE) :
    AllFit (hostCopies scheme authority) ↔ (portText authority).length < PORT_SIZE := by
  rw [hostCopies, portText]
  cases hcut : cut 58 authority with
  | none =>
    refine iff_of_true (allFit_cons.mpr ⟨hlength, ?_⟩) (by decide)
    intro copy hcopy
    rw [defaultPort] at hcopy
    revert hcopy copy
    split_ifs <;> decide
  | some parts =>
    obtain ⟨host, port⟩ := parts
    have hsplit := congrArg List.length (cut_eq_some_iff.mp hcut).2
    rw [List.length_append, List.length_cons] at hsplit
    have hhost : host.length < HOST_SIZE := by
      unfold AUTHORITY_SIZE HOST_SIZE at *
      omega
    rw [allFit_cons, allFit_cons, copyText_fits, copyText_fits, and_iff_left allFit_nil,
      and_iff_right hhost]
    exact Iff.rfl

/-! ## Behind the authority -/

theorem length_upTo (cs : List UInt8) (s : Bytes) :
    (upTo cs s).1.length + (upTo cs s).2.length = s.length := by
  have hlength := congrArg List.length (upTo_spec cs s).1
  rw [List.length_append] at hlength
  exact hlength

theorem pathCopies_fit {current : Bytes} (hlength : current.length < MAX_URL_LENGTH) :
    AllFit (pathCopies current) := by
  have hupTo := length_upTo [63, 35] current
  rw [pathCopies]
  split
  · refine allFit_cons.mpr ⟨copyText_fits.mpr ?_, allFit_nil⟩
    unfold MAX_URL_LENGTH PATH_SIZE at *
    omega
  · exact allFit_nil

theorem queryCopies_fit {current : Bytes} (hlength : current.length < MAX_URL_LENGTH) :
    AllFit (queryCopies current) := by
  unfold queryCopies
  split
  · rename_i query
    have hupTo := length_upTo [35] query
    rw [List.length_cons] at hlength
    refine allFit_cons.mpr ⟨copyText_fits.mpr ?_, allFit_nil⟩
    unfold MAX_URL_LENGTH QUERY_SIZE at *
    omega
  · exact allFit_nil

/-- The query is put behind the path with the question mark between them. -/
theorem appendCopies_fit {path query : Bytes}
    (hlength : query ≠ [] → path.length + 1 + query.length < MAX_URL_LENGTH) :
    AllFit (appendCopies path query) := by
  have hjoin := length_joinQuery path query
  rw [appendCopies]
  split
  · exact allFit_nil
  · rename_i hne
    have hfits := hlength hne
    rw [if_neg hne] at hjoin
    refine allFit_cons.mpr ⟨copyText_fits.mpr ?_, allFit_nil⟩
    unfold MAX_URL_LENGTH PATH_SIZE at *
    omega

theorem fragmentCopies_fit {current : Bytes} (hlength : current.length < MAX_URL_LENGTH) :
    AllFit (fragmentCopies current) := by
  unfold fragmentCopies
  split
  · rw [List.length_cons] at hlength
    refine allFit_cons.mpr ⟨copyText_fits.mpr ?_, allFit_nil⟩
    unfold MAX_URL_LENGTH FRAGMENT_SIZE at *
    omega
  · exact allFit_nil

/-- The arrays for what follows the authority are as large as the copy of the
URL. -/
theorem targetCopies_fit {current : Bytes} (hlength : current.length < MAX_URL_LENGTH) :
    AllFit (targetCopies current) := by
  have hsplit := congrArg List.length (pathPart_append current)
  rw [List.length_append] at hsplit
  obtain ⟨hqueryLe, hqueryLt⟩ := length_queryPart (pathPart current).2
  have happend : AllFit (appendCopies (pathPart current).1
      (queryPart (pathPart current).2).1) := by
    apply appendCopies_fit
    intro hne
    have hlt := hqueryLt hne
    omega
  rw [targetCopies]
  dsimp only
  rw [allFit_append, allFit_append, allFit_append]
  exact ⟨⟨⟨pathCopies_fit hlength, queryCopies_fit (by omega)⟩, happend⟩,
    fragmentCopies_fit (by omega)⟩

/-! ## An at sign behind the authority -/

/-- The user name overruns its array, or the password does, wherever the two
arrays are. -/
theorem userCopies_overrun (layout : StackLayout) {authority : Bytes} {index : Nat}
    (hauthority : authority.length < AUTHORITY_SIZE) (hbehind : authority.length < index)
    (hindex : index < MAX_URL_LENGTH) :
    ¬AllFit (userCopies layout authority (layout.urlCopy + index)) := by
  obtain ⟨authorityAt, urlAt, hdisjoint, hnear⟩ := layout
  unfold AUTHORITY_SIZE MAX_URL_LENGTH at *
  -- as a user name, the distance between the arrays is negative or too large
  have hdistance : ¬AllFit [copyCount USERNAME_SIZE (urlAt + index - authorityAt)] := by
    rw [allFit_cons, and_iff_left allFit_nil, copyCount_fits (by decide) (by omega),
      USERNAME_SIZE]
    omega
  rw [userCopies]
  dsimp only
  cases hcut : cut 58 authority with
  | none => exact hdistance
  | some parts =>
    obtain ⟨user, rest⟩ := parts
    have hsplit := congrArg List.length (cut_eq_some_iff.mp hcut).2
    rw [List.length_append, List.length_cons] at hsplit
    dsimp only
    split
    · rw [allFit_cons, allFit_cons, and_iff_left allFit_nil]
      rintro ⟨-, hpassword⟩
      rw [copyCount_fits (by decide) (by omega), PASSWORD_SIZE] at hpassword
      omega
    · exact hdistance

/-- The copies of the authority fit if and only if it can be read. -/
theorem authorityCopies_fit (layout : StackLayout) {copy current : Bytes} (scheme : Bytes)
    (hcopy : copy.length < MAX_URL_LENGTH) (hcurrent : current.length ≤ copy.length) :
    AllFit (authorityCopies layout copy scheme current) ↔ Readable current := by
  have hsplit := length_upTo [47, 63, 35] current
  have hhead := (upTo_spec [47, 63, 35] current).2
  have hparts : authorityPart current = upTo [47, 63, 35] current := rfl
  rw [authorityCopies]
  cases hpart : upTo [47, 63, 35] current with | mk authority rest => ?_
  rw [hpart] at hsplit hhead hparts
  dsimp only at hsplit hhead ⊢
  rw [allFit_cons, copyText_fits]
  by_cases hauthority : authority.length < AUTHORITY_SIZE
  · rw [and_iff_right hauthority]
    cases hat : cut 64 rest with
    | none =>
      dsimp only
      rw [hostCopies_fit scheme hauthority]
      refine ⟨fun hport => ⟨?_, ?_, ?_⟩, fun hreadable => ?_⟩
      · rw [hparts]
        exact hauthority
      · rw [hparts]
        exact hport
      · rw [hparts]
        exact cut_eq_none_iff.mp hat
      · have hport := hreadable.port
        rw [hparts] at hport
        exact hport
    | some parts =>
      obtain ⟨before, behind⟩ := parts
      have hrest := (cut_eq_some_iff.mp hat).2
      have hlength := congrArg List.length hrest
      rw [List.length_append, List.length_cons] at hlength
      -- the rest does not start with the at sign
      have hbefore : before ≠ [] := by
        rintro rfl
        have hmem := hhead 64 (by rw [hrest]; rfl)
        exact absurd hmem (by decide)
      have hpos := List.length_pos_iff.mpr hbefore
      refine iff_of_false (fun hfit => ?_) (fun hreadable => hreadable.atSign ?_)
      · dsimp only at hfit
        rw [allFit_append] at hfit
        exact userCopies_overrun layout hauthority (by omega) (by omega) hfit.1
      · rw [hparts, hrest]
        exact List.mem_append_right _ List.mem_cons_self
  · refine iff_of_false (fun hfit => hauthority hfit.1) (fun hreadable => hauthority ?_)
    have hfits := hreadable.authority
    rw [hparts] at hfits
    exact hfits

/-! ## All copies -/

/-- All copies for a URL fit if and only if its copy can be stored. -/
theorem copies_fit_iff (layout : StackLayout) (url : Bytes) :
    AllFit (copies layout url) ↔ Storable (urlCopy url) := by
  have hcopy : (urlCopy url).length < MAX_URL_LENGTH := by
    rw [urlCopy, List.length_take, MAX_URL_LENGTH]
    omega
  have hscheme := length_schemePart (urlCopy url)
  have hrest : (authorityPart (schemePart (urlCopy url)).2).2.length < MAX_URL_LENGTH := by
    have hsplit := length_upTo [47, 63, 35] (schemePart (urlCopy url)).2
    rw [authorityPart]
    omega
  rw [copies]
  dsimp only
  rw [allFit_append, allFit_append, allFit_cons, copyText_fits, and_iff_right hcopy,
    and_iff_left (targetCopies_fit hrest), schemeCopies_fit,
    authorityCopies_fit layout _ hcopy hscheme]
  exact Iff.rfl

/-- A copy does not fit where the parser has no components. -/
theorem parseUrl_outOfBounds_iff (layout : StackLayout) {url : Bytes}
    (hvalid : validateUrl url = true) :
    parseUrl url = .outOfBounds ↔ ¬AllFit (copies layout url) := by
  rw [parseUrl_spec hvalid, copies_fit_iff]
  split
  · rename_i hstorable
    exact iff_of_false (fun heq => by cases heq) (not_not_intro hstorable)
  · rename_i hstorable
    exact iff_of_true rfl hstorable

/-- The URL is rejected with a code, or every copy fits and nothing of the URL
is left out. -/
def KeepsBounds (layout : StackLayout) (url : Bytes) : Prop :=
  (∃ code, parseUrl url = .rejected code ∧ code ≠ 0) ∨
    AllFit (copies layout url) ∧ urlCopy url = url

/-- A URL that is parsed has its copies made, and nothing but them counts. -/
theorem keepsBounds_of_valid (layout : StackLayout) {url : Bytes}
    (hvalid : validateUrl url = true) :
    KeepsBounds layout url ↔ url.length < MAX_URL_LENGTH ∧ Storable url := by
  have haccepted : ¬∃ code, parseUrl url = .rejected code ∧ code ≠ 0 := by
    rintro ⟨code, hcode, _⟩
    rw [parseUrl_spec hvalid] at hcode
    split at hcode <;> cases hcode
  have hwhole : urlCopy url = url ↔ url.length < MAX_URL_LENGTH := by
    rw [urlCopy]
    constructor
    · intro hsame
      have hlength := congrArg List.length hsame
      rw [List.length_take, MAX_URL_LENGTH] at hlength
      rw [MAX_URL_LENGTH]
      omega
    · exact fun hlength => List.take_of_length_le (Nat.le_sub_one_of_lt hlength)
  rw [KeepsBounds, or_iff_right haccepted, copies_fit_iff, hwhole, and_comm]
  refine and_congr_right fun hlength => ?_
  rw [hwhole.mpr hlength]

/-- A URL with valid characters is parsed within its arrays and as a whole, if
and only if it is shorter than its copy may be, its scheme, its authority and
its port fit, and there is no at sign behind the authority. -/
theorem keepsBounds_iff (layout : StackLayout) (url : Bytes) :
    KeepsBounds layout url ↔
      ¬validateUrl url = true ∨ url.length < MAX_URL_LENGTH ∧ Storable url := by
  by_cases hvalid : validateUrl url = true
  · rw [keepsBounds_of_valid layout hvalid, or_iff_right (not_not_intro hvalid)]
  · refine iff_of_true (Or.inl ⟨-2, ?_, by decide⟩) (Or.inl hvalid)
    rw [parseUrl, if_pos hvalid]

/-- A URL of a page with an at sign in its path. -/
def atSignUrl : Bytes := ascii "https://a.example/@b"

/-- A frame with the copy of the URL above the authority. -/
def usualLayout : StackLayout where
  authority := 0
  urlCopy := 320
  disjoint := Or.inl (by decide)
  near := by decide

/-- The at sign of the path makes a user name of the bytes between the two
arrays, and it overruns its own. -/
theorem atSign_in_path :
    ¬∀ (layout : StackLayout) (url : Bytes),
      validateUrl url = true → KeepsBounds layout url := by
  intro h
  have hvalid : validateUrl atSignUrl = true := by decide +kernel
  have hbounds := (keepsBounds_of_valid usualLayout hvalid).mp (h usualLayout atSignUrl hvalid)
  exact absurd hbounds (by decide +kernel)

end HttpRequestClient.Url
