import HttpRequestClient.BuiltHeaders

/-!
# The room for the request headers

`buildHttp2Headers` and `buildHttp11Headers` allocate the array of headers
before they fill it.  They count one header for each member of the object, five
or one more, and the items of one cookie: that of the first key named `cookie`,
when it is a string.  The loops take every cookie apart, whatever the case of
its key.

* `headers_fit_iff`: the items that were not counted have to fit into the room
  that other members leave.
-/

namespace HttpRequestClient

open Hpack

/-! ## What is allocated -/

section Room

variable (headerValueMaxLength : Nat)

/-- What `processCookies` counts of the cookie that `jsonHeaderGet` finds: of a
null pointer nothing. -/
def cookieCount (jsonHeaders : JsonHeaders) : Nat :=
  match jsonHeaderGet jsonHeaders (ascii "cookie") with
  | some (.string cookie) => (processCookies cookie headerValueMaxLength).length
  | _ => 0

def allocatedHttp2 (jsonHeaders : JsonHeaders) : Nat :=
  jsonHeaders.length + 1 + 4 + cookieCount headerValueMaxLength jsonHeaders

def allocatedHttp11 (jsonHeaders : JsonHeaders) : Nat :=
  jsonHeaders.length + 1 + cookieCount headerValueMaxLength jsonHeaders

/-! ## What is written -/

/-- The headers that a value makes as a cookie. -/
def cookieItems (value : JsonHeaderValue) : Nat :=
  match headerValueToString value with
  | some text => (processCookies text headerValueMaxLength).length
  | none => 0

/-- The items of all keys named `cookie`. -/
def allCookieItems (jsonHeaders : JsonHeaders) : Nat :=
  ((jsonHeaders.filter isCookieKey).map fun entry => cookieItems headerValueMaxLength entry.2).sum

/-- The items that were not counted: those of all cookies but the first, and of
the first when it is no string. -/
def uncountedItems (jsonHeaders : JsonHeaders) : Nat :=
  match jsonHeaders.filter isCookieKey with
  | (_, .string _) :: later =>
    (later.map fun entry => cookieItems headerValueMaxLength entry.2).sum
  | cookies => (cookies.map fun entry => cookieItems headerValueMaxLength entry.2).sum

end Room

/-- Members that make no header of their own name over HTTP/2: cookies, what the
pseudo headers replace, and values that are no scalars. -/
def isSpareHttp2 (entry : Bytes × JsonHeaderValue) : Bool :=
  isCookieKey entry || isPseudoName entry.1 || strcasecmp (ascii "host") entry.1 = 0
    || (headerValueToString entry.2).isNone

/-- The same over HTTP/1.1, where `:authority` is a header and replaces `host`. -/
def isSpareHttp11 (pseudoAuthority : Bool) (entry : Bytes × JsonHeaderValue) : Bool :=
  isCookieKey entry || strcasecmp (ascii ":method") entry.1 = 0
    || strcasecmp (ascii ":scheme") entry.1 = 0 || strcasecmp (ascii ":path") entry.1 = 0
    || (strcasecmp (ascii "host") entry.1 = 0 && pseudoAuthority)
    || (headerValueToString entry.2).isNone

/-! ## One member -/

section Member

variable (headerValueMaxLength : Nat)

/-- A member has a header, or leaves room for one and takes that of its items. -/
theorem length_http2Headers (entry : Bytes × JsonHeaderValue) :
    (http2Headers headerValueMaxLength false entry).length +
        (if isSpareHttp2 entry then 1 else 0) =
      1 + if isCookieKey entry then cookieItems headerValueMaxLength entry.2 else 0 := by
  obtain ⟨key, value⟩ := entry
  simp only [http2Headers, isSpareHttp2, isCookieKey_eq, cookieItems]
  cases htext : headerValueToString value with
  | none => simp
  | some text =>
    by_cases hcookie : strcasecmp (ascii "cookie") key = 0
    · have hpseudo : isPseudoName key = false := by
        by_contra h
        exact not_cookie_of_pseudo (by simpa using h) hcookie
      have hhost : strcasecmp (ascii "host") key ≠ 0 := fun h => not_cookie_of_host h hcookie
      simp [hcookie, hpseudo, hhost, Nat.add_comm]
    · cases hpseudo : isPseudoName key with
      | true => simp [hcookie]
      | false => by_cases hhost : strcasecmp (ascii "host") key = 0 <;> simp [hcookie, hhost]

theorem length_http11Headers (pseudoAuthority : Bool) (entry : Bytes × JsonHeaderValue) :
    (http11Headers headerValueMaxLength pseudoAuthority entry).length +
        (if isSpareHttp11 pseudoAuthority entry then 1 else 0) =
      1 + if isCookieKey entry then cookieItems headerValueMaxLength entry.2 else 0 := by
  obtain ⟨key, value⟩ := entry
  simp only [http11Headers, isSpareHttp11, isCookieKey_eq, cookieItems]
  by_cases hcookie : strcasecmp (ascii "cookie") key = 0
  · have hpseudo : isPseudoName key = false := by
      by_contra h
      exact not_cookie_of_pseudo (by simpa using h) hcookie
    have hhost : strcasecmp (ascii "host") key ≠ 0 := fun h => not_cookie_of_host h hcookie
    simp only [isPseudoName, decide_eq_false_iff_not, not_or] at hpseudo
    cases htext : headerValueToString value with
    | none => simp [hcookie, hpseudo]
    | some text => simp [hcookie, hpseudo, hhost, Nat.add_comm]
  · by_cases hline : strcasecmp (ascii ":method") key = 0 ∨ strcasecmp (ascii ":scheme") key = 0
        ∨ strcasecmp (ascii ":path") key = 0
    · rcases hline with h | h | h <;> simp [hcookie, h]
    · rw [if_neg hline]
      simp only [not_or] at hline
      cases htext : headerValueToString value with
      | none => simp [hcookie]
      | some text =>
        by_cases hauthority : strcasecmp (ascii ":authority") key = 0
        · have hhost : strcasecmp (ascii "host") key ≠ 0 :=
            strcasecmp_ne (by decide) (by decide) (by decide) hauthority
          simp [hcookie, hline, hauthority, hhost]
        · by_cases hhost : strcasecmp (ascii "host") key = 0 <;> cases pseudoAuthority <;>
            simp [hcookie, hline, hauthority, hhost]

end Member

/-! ## The whole object -/

/-- Equations for each member add up. -/
theorem sum_members {f g : Bytes × JsonHeaderValue → Nat} {spare : Bytes × JsonHeaderValue → Bool}
    (h : ∀ entry, f entry + (if spare entry then 1 else 0) =
      1 + if isCookieKey entry then g entry else 0) (jsonHeaders : JsonHeaders) :
    (jsonHeaders.map f).sum + jsonHeaders.countP spare =
      jsonHeaders.length + ((jsonHeaders.filter isCookieKey).map g).sum := by
  induction jsonHeaders with
  | nil => rfl
  | cons entry jsonHeaders ih =>
    have hentry := h entry
    rw [List.map_cons, List.sum_cons, List.countP_cons, List.length_cons, List.filter_cons]
    split at hentry <;> split at hentry <;> rename_i hspare hcookie <;>
      simp only [hspare, hcookie, if_true, Bool.false_eq_true, if_false, List.map_cons,
        List.sum_cons] <;> omega

/-- The count sees the first cookie when it is a string. -/
theorem allCookieItems_eq (headerValueMaxLength : Nat) (jsonHeaders : JsonHeaders) :
    allCookieItems headerValueMaxLength jsonHeaders =
      cookieCount headerValueMaxLength jsonHeaders +
        uncountedItems headerValueMaxLength jsonHeaders := by
  have hget : jsonHeaderGet jsonHeaders (ascii "cookie") =
      ((jsonHeaders.filter isCookieKey).head?).map Prod.snd := by
    rw [jsonHeaderGet, List.head?_filter]
    rfl
  rw [allCookieItems, cookieCount, uncountedItems, hget]
  cases hcookies : jsonHeaders.filter isCookieKey with
  | nil => rfl
  | cons first later =>
    obtain ⟨key, value⟩ := first
    cases value <;> simp [cookieItems, headerValueToString]

/-- With all pseudo headers a member makes one header at most. -/
theorem length_http2Headers_le (headerValueMaxLength : Nat) (jsonHeaders : JsonHeaders) :
    (jsonHeaders.flatMap (http2Headers headerValueMaxLength true)).length ≤
      jsonHeaders.length := by
  induction jsonHeaders with
  | nil => rfl
  | cons entry jsonHeaders ih =>
    have hone : (http2Headers headerValueMaxLength true entry).length ≤ 1 := by
      rw [http2Headers]
      split
      · exact Nat.zero_le _
      · rw [if_pos rfl]
        exact Nat.le_refl _
    rw [List.flatMap_cons, List.length_append, List.length_cons]
    omega

/-- Both arrays are large enough exactly when the items that were not counted
take no more than one header and the room of the spare members. -/
theorem headers_fit_iff (lib : BasketLib) (basket : RequestBasket) (jsonHeaders : JsonHeaders) :
    ((buildHttp2Headers lib basket jsonHeaders).headers.length ≤
          allocatedHttp2 basket.headerValueMaxLength jsonHeaders ∧
        (buildHttp11Headers basket.headerValueMaxLength basket.request jsonHeaders).headers.length ≤
          allocatedHttp11 basket.headerValueMaxLength jsonHeaders) ↔
      (containPseudoHeaders jsonHeaders = true ∨
          uncountedItems basket.headerValueMaxLength jsonHeaders ≤
            jsonHeaders.countP isSpareHttp2 + 1) ∧
        uncountedItems basket.headerValueMaxLength jsonHeaders ≤
          jsonHeaders.countP
            (isSpareHttp11 (jsonHeaderGet jsonHeaders (ascii ":authority")).isSome) + 1 := by
  have hitems := allCookieItems_eq basket.headerValueMaxLength jsonHeaders
  have hhttp11 := sum_members (length_http11Headers basket.headerValueMaxLength
    (jsonHeaderGet jsonHeaders (ascii ":authority")).isSome) jsonHeaders
  have hlength11 : (buildHttp11Headers basket.headerValueMaxLength basket.request
      jsonHeaders).headers.length = (jsonHeaders.map fun entry =>
        (http11Headers basket.headerValueMaxLength
          (jsonHeaderGet jsonHeaders (ascii ":authority")).isSome entry).length).sum := by
    rw [buildHttp11Headers, List.length_flatMap]
  rw [← hlength11, ← allCookieItems] at hhttp11
  have hfits11 : (buildHttp11Headers basket.headerValueMaxLength basket.request
        jsonHeaders).headers.length ≤ allocatedHttp11 basket.headerValueMaxLength jsonHeaders ↔
      uncountedItems basket.headerValueMaxLength jsonHeaders ≤ jsonHeaders.countP
        (isSpareHttp11 (jsonHeaderGet jsonHeaders (ascii ":authority")).isSome) + 1 := by
    rw [allocatedHttp11]
    omega
  rw [hfits11]
  refine and_congr_left fun _ => ?_
  rw [buildHttp2Headers, allocatedHttp2]
  dsimp only
  cases hpseudo : containPseudoHeaders jsonHeaders with
  | true =>
    have hle := length_http2Headers_le basket.headerValueMaxLength jsonHeaders
    simp only [if_true, List.nil_append, true_or, iff_true]
    omega
  | false =>
    have hhttp2 := sum_members (length_http2Headers basket.headerValueMaxLength) jsonHeaders
    rw [← List.length_flatMap, ← allCookieItems] at hhttp2
    simp only [Bool.false_eq_true, if_false, List.length_append, length_pseudoHeaders, false_or]
    omega

/-- A cookie with one item, and a second one under another spelling with four. -/
def twoCookies : JsonHeaders :=
  [(ascii "user-agent", .string (ascii "Chrome/152")), (ascii "cookie", .string (ascii "a=1")),
    (ascii "Cookie", .string (ascii "a=1;b=2;c=3;d=4"))]

/-- Ten headers are written into the room for nine, and six into that for five. -/
theorem headers_overrun :
    ¬((buildHttp2Headers BasketLib.names initBasket twoCookies).headers.length ≤
          allocatedHttp2 initBasket.headerValueMaxLength twoCookies ∧
        (buildHttp11Headers initBasket.headerValueMaxLength initBasket.request
            twoCookies).headers.length ≤
          allocatedHttp11 initBasket.headerValueMaxLength twoCookies) := by
  decide +kernel

end HttpRequestClient
