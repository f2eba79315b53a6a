import HttpRequestClient.BuiltHeaders
import HttpRequestClient.Http11.RequestBytes

/-!
# Cookies over HTTP/1.1

`processCookies` takes a cookie apart into headers, and `appendHeaders` puts the
values of these headers together again.

* `cookie_sent`: the `Cookie` field has the items that are a name and a value,
  or the text of the caller when all pseudo headers were given.
-/

namespace HttpRequestClient

open Hpack Parts Http11 Rfc9112

/-! ## Items -/

/-- The items of a cookie without the spaces around them. -/
def trimmedItems (cookie : Bytes) : List Bytes :=
  (cookie.splitOn 59).map fun item => (item.dropWhile (· = 32)).rdropWhile (· = 32)

/-- The items with an equals sign. -/
def cookiePairs (cookie : Bytes) : List Bytes := (trimmedItems cookie).filter fun item => 61 ∈ item

/-- No value has to be cut. -/
def ValuesFit (headerValueMaxLength : Nat) (cookie : Bytes) : Prop :=
  ∀ item ∈ trimmedItems cookie, ∀ part ∈ cut 61 item, part.2.length ≤ headerValueMaxLength

theorem cookieHeaders_eq {headerValueMaxLength : Nat} {token : Bytes}
    (hfit : ∀ part ∈ cut 61 ((token.dropWhile (· = 32)).rdropWhile (· = 32)),
      part.2.length ≤ headerValueMaxLength) :
    cookieHeaders headerValueMaxLength token =
      ([(token.dropWhile (· = 32)).rdropWhile (· = 32)].filter fun item => 61 ∈ item).map
        fun item => ⟨ascii "cookie", item, false⟩ := by
  rw [cookieHeaders]
  generalize (token.dropWhile (· = 32)).rdropWhile (· = 32) = trimmed at hfit ⊢
  cases hcut : cut 61 trimmed with
  | none =>
    have hmem : 61 ∉ trimmed := cut_eq_none_iff.mp hcut
    rw [List.filter_cons_of_neg (by simpa using hmem)]
    rfl
  | some part =>
    obtain ⟨name, value⟩ := part
    obtain ⟨-, rfl⟩ := cut_eq_some_iff.mp hcut
    have hlength : value.length ≤ headerValueMaxLength := hfit (name, value) hcut
    rw [List.filter_cons_of_pos (by simp)]
    simp [hlength]

/-- The headers of a cookie are its pairs. -/
theorem processCookies_eq {headerValueMaxLength : Nat} {cookie : Bytes}
    (hfit : ValuesFit headerValueMaxLength cookie) :
    processCookies cookie headerValueMaxLength =
      (cookiePairs cookie).map fun item => ⟨ascii "cookie", item, false⟩ := by
  rw [ValuesFit, trimmedItems, List.forall_mem_map] at hfit
  rw [processCookies, cookiePairs, trimmedItems]
  generalize cookie.splitOn 59 = items at hfit ⊢
  induction items with
  | nil => rfl
  | cons item items ih =>
    rw [List.forall_mem_cons] at hfit
    rw [List.flatMap_cons, ih hfit.2, cookieHeaders_eq hfit.1, ← List.map_append, ← List.filter_append,
      List.map_cons, List.singleton_append]

/-! ## The field -/

def isCookieField (field : HeaderField) : Bool := strcasecmp field.name (ascii "cookie") = 0

theorem not_cookie_host (value : Bytes) : ¬isCookieField ⟨ascii "Host", value⟩ = true := by
  have hname : strcasecmp (ascii "Host") (ascii "cookie") ≠ 0 := by decide
  simpa [isCookieField] using hname

theorem filter_namedFields (hasHost : Bool) (headers : List RequestHeader) :
    (namedFields hasHost headers).filter isCookieField = [] := by
  induction headers generalizing hasHost with
  | nil => rfl
  | cons h headers ih =>
    rw [namedFields]
    split
    · rw [List.filter_cons_of_neg (not_cookie_host h.value), ih]
    · split
      · exact ih hasHost
      · rename_i hother
        have hname : ¬isCookieField ⟨h.name, h.value⟩ = true := by
          simp only [Bool.or_eq_true, not_or, Bool.not_eq_true, isCookie] at hother
          simpa [isCookieField, hother.1] using hother.2
        rw [List.filter_cons_of_neg hname, ih]

/-- The cookies of a message are in one field. -/
theorem filter_sentFields (lib : AddressLib) (sent : Http11Basket) :
    (sentFields lib sent).filter isCookieField =
      if mergedCookies sent.request.headers = [] then []
      else [⟨ascii "Cookie", mergedCookies sent.request.headers⟩] := by
  have hhost : strcasecmp (ascii "Host") (ascii "cookie") ≠ 0 := by decide
  have hcookie : strcasecmp (ascii "Cookie") (ascii "cookie") = 0 := by decide
  have hproxy : strcasecmp (ascii "Proxy-Authorization") (ascii "cookie") ≠ 0 := by decide
  rw [sentFields]
  simp only [List.filter_append, filter_namedFields]
  split <;> split <;> split <;> simp [isCookieField, hhost, hcookie, hproxy]

/-- What a cookie is sent as: with all pseudo headers nothing is taken apart. -/
def sentCookie (basket : RequestBasket) (jsonHeaders : JsonHeaders) (cookie : Bytes) : Bytes :=
  if basket.forceHttp11 = false ∧ containPseudoHeaders jsonHeaders = true then cookie
  else (ascii "; ").intercalate (cookiePairs cookie)

theorem isNamed_cookie {h : RequestHeader} (hcookie : isNamed (ascii "cookie") h = true) :
    h.isPseudo = false ∧ isOrderKey h = false ∧ isConnection h = false := by
  simp only [isNamed, Bool.and_eq_true, Bool.not_eq_true', decide_eq_true_eq] at hcookie
  obtain ⟨hreal, hname⟩ := hcookie
  rw [strcasecmp_comm] at hname
  have horder : strcasecmp h.name (ascii "X-HeaderOrderKey") ≠ 0 := by
    rw [Ne, strcasecmp_comm]
    exact strcasecmp_ne (by decide) (by decide) (by decide) hname
  have hconnection : strcasecmp h.name (ascii "connection") ≠ 0 := by
    rw [Ne, strcasecmp_comm]
    exact strcasecmp_ne (by decide) (by decide) (by decide) hname
  exact ⟨hreal, by simp [isOrderKey, headerNameEquals, horder],
    by simp [isConnection, headerNameEquals, hconnection]⟩

/-- The cookie headers that one cookie makes. -/
theorem memberHeaders_cookie {basket : RequestBasket} {jsonHeaders : JsonHeaders} {key cookie : Bytes}
    (hkey : strcasecmp (ascii "cookie") key = 0)
    (hfit : ValuesFit basket.headerValueMaxLength cookie) :
    memberHeaders basket jsonHeaders (key, .string cookie) =
      if basket.forceHttp11 = false ∧ containPseudoHeaders jsonHeaders = true then
        [⟨key, cookie, false⟩]
      else (cookiePairs cookie).map fun item => ⟨ascii "cookie", item, false⟩ := by
  have hhost : strcasecmp (ascii "host") key ≠ 0 := fun h => not_cookie_of_host h hkey
  have hpseudo : isPseudoName key = false := by
    by_contra h
    exact not_cookie_of_pseudo (by simpa using h) hkey
  have hnames := hpseudo
  simp only [isPseudoName, decide_eq_false_iff_not, not_or] at hnames
  obtain ⟨hmethod, hauthority, hscheme, hpath⟩ := hnames
  rw [memberHeaders, ← processCookies_eq hfit]
  cases basket.forceHttp11 with
  | true =>
    simp [http11Headers, headerValueToString, hmethod, hauthority, hscheme, hpath, hhost, hkey]
  | false =>
    cases containPseudoHeaders jsonHeaders <;>
      simp [http2Headers, headerValueToString, hpseudo, hhost, hkey]

theorem key_of_cookie {jsonHeaders : JsonHeaders} {key cookie : Bytes}
    (hcookie : jsonHeaders.filter isCookieKey = [(key, .string cookie)]) :
    strcasecmp (ascii "cookie") key = 0 := by
  have hmem : (key, .string cookie) ∈ jsonHeaders.filter isCookieKey := by
    rw [hcookie]
    exact List.mem_singleton_self _
  have htest := (List.mem_filter.mp hmem).2
  rwa [isCookieKey_eq, decide_eq_true_eq] at htest

/-- The cookie headers that are built. -/
theorem filter_builtCookies (lib : BasketLib) {basket : RequestBasket} {jsonHeaders : JsonHeaders}
    {key cookie : Bytes} (hcookie : jsonHeaders.filter isCookieKey = [(key, .string cookie)])
    (hfit : ValuesFit basket.headerValueMaxLength cookie) :
    (buildHeaders lib basket jsonHeaders).headers.filter (isNamed (ascii "cookie")) =
      memberHeaders basket jsonHeaders (key, .string cookie) := by
  have hkey := key_of_cookie hcookie
  have hentries : (jsonHeaders.filter fun entry => strcasecmp entry.1 (ascii "cookie") = 0) =
      [(key, .string cookie)] := hcookie
  rw [filter_buildHeaders lib basket jsonHeaders (Or.inl rfl), hentries, List.flatMap_singleton,
    List.filter_eq_self, memberHeaders_cookie hkey hfit]
  intro h hmem
  split at hmem
  · rw [strcasecmp_comm] at hkey
    rw [List.mem_singleton.mp hmem]
    simpa [isNamed] using hkey
  · have hself : strcasecmp (ascii "cookie") (ascii "cookie") = 0 := by decide
    obtain ⟨item, -, rfl⟩ := List.mem_map.mp hmem
    simpa [isNamed] using hself

/-- All of them have one name, and so the order of the caller does not move
them. -/
theorem filter_orderedCookies {lib : BasketLib} {basket : RequestBasket}
    {jsonHeaders : JsonHeaders} {key cookie : Bytes} (hheaded : Headed lib jsonHeaders basket)
    (hcookie : jsonHeaders.filter isCookieKey = [(key, .string cookie)])
    (hfit : ValuesFit basket.headerValueMaxLength cookie) :
    basket.request.headers.filter isCookie =
      memberHeaders basket jsonHeaders (key, .string cookie) := by
  rw [← filter_builtCookies lib hcookie hfit]
  refine filter_reorderHeaders hheaded.reordered (fun h => isNamed_cookie) ?_
  intro a ha hpa b hb hpb
  have hmem : ∀ h ∈ (buildHeaders lib basket jsonHeaders).headers,
      isNamed (ascii "cookie") h = true →
        h ∈ memberHeaders basket jsonHeaders (key, .string cookie) := by
    intro h hin htest
    rw [← filter_builtCookies lib hcookie hfit]
    exact List.mem_filter.mpr ⟨hin, htest⟩
  have hname : ∀ h ∈ memberHeaders basket jsonHeaders (key, .string cookie), ∀ h' ∈
      memberHeaders basket jsonHeaders (key, .string cookie), h.name = h'.name := by
    rw [memberHeaders_cookie (key_of_cookie hcookie) hfit]
    split
    · simp
    · simp
  exact hname a (hmem a ha hpa) b (hmem b hb hpb)

/-- The values of the cookie headers of a basket. -/
theorem mergedCookies_eq {lib : BasketLib} {basket : RequestBasket} {jsonHeaders : JsonHeaders}
    {key cookie : Bytes} (hheaded : Headed lib jsonHeaders basket)
    (hcookie : jsonHeaders.filter isCookieKey = [(key, .string cookie)])
    (hfit : ValuesFit basket.headerValueMaxLength cookie) :
    mergedCookies basket.request.headers = sentCookie basket jsonHeaders cookie := by
  rw [mergedCookies, filter_orderedCookies hheaded hcookie hfit,
    memberHeaders_cookie (key_of_cookie hcookie) hfit, sentCookie]
  split
  · cases cookie <;> simp [List.intercalate]
  · have hfull : ∀ item ∈ cookiePairs cookie, item ≠ [] := by
      intro item hitem hnil
      have hmem := (List.mem_filter.mp hitem).2
      rw [hnil] at hmem
      simp at hmem
    have hvalues : ((cookiePairs cookie).map fun item =>
        (⟨ascii "cookie", item, false⟩ : RequestHeader)).map RequestHeader.value =
          cookiePairs cookie := by
      rw [List.map_map]
      exact List.map_id _
    rw [hvalues, List.dropWhile_eq_self_iff.mpr]
    intro hpos
    simpa using hfull _ (List.getElem_mem hpos)

/-- A cookie whose values fit is sent in one `Cookie` field: its pairs between
semicolons, or its text when all pseudo headers were given, and no field when
there is nothing. -/
theorem cookie_sent {lib : BasketLib} {jsonRequest : JsonValue} {basket : RequestBasket}
    {key cookie : Bytes} {sent : Http11Basket}
    (h : buildBasket lib (some jsonRequest) = some basket) (hok : basket.error = none)
    (hcookie : (headersOf jsonRequest).filter isCookieKey = [(key, .string cookie)])
    (hfit : ValuesFit basket.headerValueMaxLength cookie)
    (hsent : sent.request = basket.request) :
    ∃ target, buildHttp11Request lib.addresses sent =
        { sentRequest lib.addresses sent with target := target }.wire ∧
      (sentFields lib.addresses sent).filter isCookieField =
        if sentCookie basket (headersOf jsonRequest) cookie = [] then []
        else [⟨ascii "Cookie", sentCookie basket (headersOf jsonRequest) cookie⟩] := by
  obtain ⟨hheaded, -⟩ := buildBasket_members h hok
  refine ⟨_, buildHttp11Request_wire lib.addresses sent, ?_⟩
  rw [filter_sentFields, hsent, mergedCookies_eq hheaded hcookie hfit]

/-- A request with a cookie that asks for HTTP/1.1. -/
def cookieRequest (cookie : JsonText) : JsonValue :=
  requestWith [(ascii "Cookie", .string cookie)] [(ascii "session", .object
    [(ascii "protocol", .string (.plain (ascii "http/1.1") (by decide)))])]

theorem cookie_sent_plain : ∃ basket,
    buildBasket BasketLib.names (some (cookieRequest (.plain (ascii " a=1 ;;b=;") (by decide)))) =
        some basket ∧
      (sentFields BasketLib.names.addresses ⟨.get, basket.request, [], false⟩).filter
        isCookieField = [⟨ascii "Cookie", ascii "a=1; b="⟩] := by
  have hbuilt : (buildBasket BasketLib.names (some (cookieRequest
      (.plain (ascii " a=1 ;;b=;") (by decide))))).map (fun basket =>
        (basket.error, basket.headerValueMaxLength, basket.forceHttp11)) =
          some (none, 4096, true) := by
    decide +kernel
  obtain ⟨basket, hbasket, hfields⟩ := Option.map_eq_some_iff.mp hbuilt
  simp only [Prod.mk.injEq] at hfields
  obtain ⟨hok, hlimit, hforce⟩ := hfields
  have hitems : ∀ item ∈ trimmedItems (ascii " a=1 ;;b=;"), ∀ part ∈ cut 61 item,
      part.2.length ≤ 4096 := by
    decide +kernel
  have hcookie : (headersOf (cookieRequest (.plain (ascii " a=1 ;;b=;") (by decide)))).filter
      isCookieKey = [(ascii "Cookie", .string (ascii " a=1 ;;b=;"))] := by
    decide +kernel
  have hsent : (⟨.get, basket.request, [], false⟩ : Http11Basket).request = basket.request := rfl
  obtain ⟨-, -, hfield⟩ := cookie_sent hbasket hok hcookie (by rw [hlimit]; exact hitems) hsent
  rw [sentCookie, hforce] at hfield
  exact ⟨basket, hbasket, hfield.trans (by decide +kernel)⟩

/-- An item without an equals sign is lost. -/
theorem cookie_flag_lost : ∃ basket,
    buildBasket BasketLib.names (some (cookieRequest
        (.plain (ascii "a=1; flag; b=2") (by decide)))) = some basket ∧ basket.error = none ∧
      (sentFields BasketLib.names.addresses ⟨.get, basket.request, [], false⟩).filter
          isCookieField ≠
        [⟨ascii "Cookie", (ascii "; ").intercalate
          ((trimmedItems (ascii "a=1; flag; b=2")).filter (· ≠ []))⟩] := by
  have hbuilt : (buildBasket BasketLib.names (some (cookieRequest
      (.plain (ascii "a=1; flag; b=2") (by decide))))).map (fun basket => (basket.error,
        (sentFields BasketLib.names.addresses ⟨.get, basket.request, [], false⟩).filter
          isCookieField)) = some (none, [⟨ascii "Cookie", ascii "a=1; b=2"⟩]) := by
    decide +kernel
  obtain ⟨basket, hbasket, hfields⟩ := Option.map_eq_some_iff.mp hbuilt
  rw [Prod.mk.injEq] at hfields
  exact ⟨basket, hbasket, hfields.1, by rw [hfields.2]; decide +kernel⟩

end HttpRequestClient
