import HttpRequestClient.BasketBuilder

/-!
# The headers that are built

Both builders put the headers of the members one behind the other; over HTTP/2
the pseudo headers of the basket come first, unless the caller has given all of
them.

* `buildHeaders_headers`: the headers of a basket, member by member.
* `filter_buildHeaders`: those of one name.
-/

namespace HttpRequestClient

open Hpack

/-! ## Names -/

def isCookieKey (entry : Bytes × JsonHeaderValue) : Bool :=
  strcasecmp entry.1 (ascii "cookie") = 0

theorem not_cookie_of_host {key : Bytes} (h : strcasecmp (ascii "host") key = 0) :
    strcasecmp (ascii "cookie") key ≠ 0 :=
  strcasecmp_ne (by decide) (by decide) (by decide) h

theorem not_cookie_of_pseudo {key : Bytes} (h : isPseudoName key = true) :
    strcasecmp (ascii "cookie") key ≠ 0 := by
  rw [isPseudoName, decide_eq_true_eq] at h
  rcases h with h | h | h | h <;> exact strcasecmp_ne (by decide) (by decide) (by decide) h

/-- A key with another name is no pseudo header. -/
theorem isPseudoName_of_named {name key : Bytes} (hplain : 0 ∉ name)
    (hname : isPseudoName name = false) (h : strcasecmp key name = 0) : isPseudoName key = false := by
  rw [strcasecmp_comm] at h
  simp only [isPseudoName, decide_eq_false_iff_not, not_or] at hname ⊢
  have hne (pseudo : Bytes) (hpseudo : 0 ∉ pseudo) (hother : strcasecmp pseudo name ≠ 0) :
      strcasecmp pseudo key ≠ 0 := by
    refine strcasecmp_ne hplain hpseudo (fun hsame => hother ?_) h
    exact (strcasecmp_eq_zero_iff hpseudo hplain).mpr hsame.symm
  exact ⟨hne _ (by decide) hname.1, hne _ (by decide) hname.2.1, hne _ (by decide) hname.2.2.1,
    hne _ (by decide) hname.2.2.2⟩

theorem isCookieKey_eq (entry : Bytes × JsonHeaderValue) :
    isCookieKey entry = decide (strcasecmp (ascii "cookie") entry.1 = 0) := by
  rw [isCookieKey, decide_eq_decide]
  exact strcasecmp_comm

/-- Host names are no addresses, and payloads are strings. -/
def BasketLib.names : BasketLib where
  addresses :=
    { inet_pton4 := fun _ => false
      inet_pton6 := fun _ => false }
  json_dumps _ := none

def postText : JsonText := .plain (ascii "POST") (by decide)

/-- A request with a user agent, other headers and other members. -/
def requestWith (headers members : List (Bytes × JsonValue)) : JsonValue :=
  .object ([
    (ascii "url", .string (.plain (ascii "https://a.example/") (by decide))),
    (ascii "method", .string postText),
    (ascii "headers", .object
      ((ascii "user-agent", .string (.plain (ascii "Chrome/152") (by decide))) :: headers))] ++
    members)

/-! ## Members -/

/-- The members of the `headers` of a request. -/
def headersOf (jsonRequest : JsonValue) : JsonHeaders :=
  ((jsonRequest.get (ascii "headers")).map headerMembers).getD []

theorem buildBasket_members {lib : BasketLib} {jsonRequest : JsonValue} {basket : RequestBasket}
    (h : buildBasket lib (some jsonRequest) = some basket) (hok : basket.error = none) :
    Headed lib (headersOf jsonRequest) basket ∧
      Paid lib jsonRequest (headersOf jsonRequest)
        ((headersOf jsonRequest).any fun entry => strcasecmp (ascii "content-length") entry.1 = 0)
        basket.request.payload := by
  obtain ⟨headers, hheaders, hbuilt⟩ := buildBasket_ok h hok
  have hmembers : headersOf jsonRequest = headerMembers headers := by
    rw [headersOf, hheaders, Option.map_some, Option.getD_some]
  rw [hmembers]
  exact hbuilt

/-- What the builder makes of one member. -/
def memberHeaders (basket : RequestBasket) (jsonHeaders : JsonHeaders)
    (entry : Bytes × JsonHeaderValue) : List RequestHeader :=
  if basket.forceHttp11 then
    http11Headers basket.headerValueMaxLength
      (jsonHeaderGet jsonHeaders (ascii ":authority")).isSome entry
  else http2Headers basket.headerValueMaxLength (containPseudoHeaders jsonHeaders) entry

section Leading

variable (lib : BasketLib)

/-- The pseudo headers that the basket puts in front. -/
def leadingHeaders (basket : RequestBasket) (jsonHeaders : JsonHeaders) : List RequestHeader :=
  if basket.forceHttp11 ∨ containPseudoHeaders jsonHeaders then [] else pseudoHeaders lib basket

theorem buildHeaders_headers (basket : RequestBasket) (jsonHeaders : JsonHeaders) :
    (buildHeaders lib basket jsonHeaders).headers =
      leadingHeaders lib basket jsonHeaders ++
        jsonHeaders.flatMap (memberHeaders basket jsonHeaders) := by
  simp only [buildHeaders, leadingHeaders]
  unfold memberHeaders
  cases basket.forceHttp11 with
  | true => simp [buildHttp11Headers]
  | false => simp [buildHttp2Headers]

theorem length_pseudoHeaders (basket : RequestBasket) :
    (pseudoHeaders lib basket).length = 4 := by
  rw [pseudoHeaders, List.length_map]
  cases basket.fingerprint with
  | none => rfl
  | some fingerprint => exact fingerprint.order_perm.length_eq

/-- Both the mark and the name are those of a pseudo header. -/
theorem isPseudo_of_mem_leading {basket : RequestBasket} {jsonHeaders : JsonHeaders}
    {h : RequestHeader} (hmem : h ∈ leadingHeaders lib basket jsonHeaders) :
    h.isPseudo = true ∧ isPseudoName h.name = true := by
  rw [leadingHeaders] at hmem
  split at hmem
  · cases hmem
  · obtain ⟨type, -, rfl⟩ := List.mem_map.mp hmem
    cases type <;> simp only [pseudoHeader, true_and] <;> decide

end Leading

theorem name_of_mem_processCookies {cookie : Bytes} {headerValueMaxLength : Nat}
    {h : RequestHeader} (hmem : h ∈ processCookies cookie headerValueMaxLength) :
    h.name = ascii "cookie" ∧ h.isPseudo = false := by
  obtain ⟨token, -, hmem⟩ := List.mem_flatMap.mp hmem
  rw [cookieHeaders] at hmem
  dsimp only at hmem
  split at hmem
  · cases hmem
  · obtain ⟨part, -, rfl⟩ := List.mem_map.mp hmem
    exact ⟨rfl, rfl⟩

/-- A member makes headers of its own name, and a cookie makes cookies. -/
theorem name_of_mem_memberHeaders {basket : RequestBasket} {jsonHeaders : JsonHeaders}
    {entry : Bytes × JsonHeaderValue} {h : RequestHeader}
    (hmem : h ∈ memberHeaders basket jsonHeaders entry) :
    h.name = entry.1 ∨ h.name = ascii "cookie" ∧ isCookieKey entry = true := by
  have hown (value : Bytes) (isPseudo : Bool) (h' : h ∈ [⟨entry.1, value, isPseudo⟩]) :
      h.name = entry.1 := by rw [List.mem_singleton.mp h']
  have hitem (cookie : Bytes) (h' : h ∈ processCookies cookie basket.headerValueMaxLength)
      (hcookie : strcasecmp (ascii "cookie") entry.1 = 0) :
      h.name = ascii "cookie" ∧ isCookieKey entry = true :=
    ⟨(name_of_mem_processCookies h').1, by rw [isCookieKey_eq, decide_eq_true hcookie]⟩
  rw [memberHeaders] at hmem
  split at hmem
  · rw [http11Headers] at hmem
    split at hmem
    · cases hmem
    · split at hmem
      · cases hmem
      · split_ifs at hmem with hauthority hhost hcookie
        · exact Or.inl (hown _ _ hmem)
        · cases hmem
        · exact Or.inr (hitem _ hmem hcookie)
        · exact Or.inl (hown _ _ hmem)
  · rw [http2Headers] at hmem
    split at hmem
    · cases hmem
    · split_ifs at hmem with hall hspare hcookie
      · exact Or.inl (hown _ _ hmem)
      · cases hmem
      · exact Or.inr (hitem _ hmem hcookie)
      · exact Or.inl (hown _ _ hmem)

/-! ## Headers of one name -/

/-- The real headers of a name. -/
def isNamed (name : Bytes) (h : RequestHeader) : Bool :=
  !h.isPseudo && strcasecmp h.name name = 0

/-- They are made by the members of that name. -/
theorem filter_buildHeaders (lib : BasketLib) (basket : RequestBasket) (jsonHeaders : JsonHeaders)
    {name : Bytes} (hname : name = ascii "cookie" ∨ strcasecmp (ascii "cookie") name ≠ 0) :
    (buildHeaders lib basket jsonHeaders).headers.filter (isNamed name) =
      (jsonHeaders.filter fun entry => strcasecmp entry.1 name = 0).flatMap fun entry =>
        (memberHeaders basket jsonHeaders entry).filter (isNamed name) := by
  have hleading : (leadingHeaders lib basket jsonHeaders).filter (isNamed name) = [] := by
    rw [List.filter_eq_nil_iff]
    intro h hmem
    simp [isNamed, (isPseudo_of_mem_leading lib hmem).1]
  rw [buildHeaders_headers, List.filter_append, hleading, List.nil_append, List.filter_flatMap]
  have hmembers : ∀ members : JsonHeaders,
      members.flatMap (fun entry => (memberHeaders basket jsonHeaders entry).filter
          (isNamed name)) =
        (members.filter fun entry => strcasecmp entry.1 name = 0).flatMap fun entry =>
          (memberHeaders basket jsonHeaders entry).filter (isNamed name) := by
    intro members
    induction members with
    | nil => rfl
    | cons entry members ih =>
      rw [List.flatMap_cons, ih]
      by_cases hentry : strcasecmp entry.1 name = 0
      · rw [List.filter_cons_of_pos (by simpa using hentry), List.flatMap_cons]
      · have hnone : (memberHeaders basket jsonHeaders entry).filter (isNamed name) = [] := by
          rw [List.filter_eq_nil_iff]
          intro h hmem htest
          simp only [isNamed, Bool.and_eq_true, decide_eq_true_eq] at htest
          rcases name_of_mem_memberHeaders hmem with heq | ⟨heq, hcookie⟩
          · rw [heq] at htest
            exact hentry htest.2
          · rw [heq] at htest
            rcases hname with rfl | hne
            · rw [isCookieKey, decide_eq_true_eq] at hcookie
              exact hentry hcookie
            · exact hne htest.2
        rw [List.filter_cons_of_neg (by simpa using hentry), hnone, List.nil_append]
  exact hmembers jsonHeaders

end HttpRequestClient
