import HttpRequestClient.BuiltHeaders
import HttpRequestClient.Http11.RequestBytes

/-!
# The host of a request over HTTP/1.1

`appendHeaders` writes every `host` header of a basket, and the `:authority` as
`Host` when none was written before; `appendHostFallback` takes the host of the
URL when there was neither.

`buildHttp11Headers` leaves out a `host` when there is an `:authority`.
`buildHttp2Headers` leaves it out as well, but only when some pseudo header is
missing: with all four of them a `host` behind the `:authority` is a second one.

* `one_host_iff`: the requests with exactly one `Host`.
-/

namespace HttpRequestClient

open Hpack Http11 Rfc9112

/-! ## What is written -/

def isHostField (field : HeaderField) : Bool := strcasecmp field.name (ascii "host") = 0

/-- An `:authority` before the first host. -/
def authorityFirst (headers : List RequestHeader) : Bool :=
  (headers.takeWhile fun h => !isHost h).any isAuthority

theorem authorityFirst_cons (h : RequestHeader) (headers : List RequestHeader) :
    authorityFirst (h :: headers) = (!isHost h && (isAuthority h || authorityFirst headers)) := by
  rw [authorityFirst, List.takeWhile_cons]
  cases isHost h <;> simp [authorityFirst]

theorem isHost_of_isPseudo {h : RequestHeader} (hpseudo : h.isPseudo = true) : isHost h = false := by
  simp [isHost, hpseudo]

theorem isHostField_host (value : Bytes) : isHostField ⟨ascii "Host", value⟩ = true := by
  have hname : strcasecmp (ascii "Host") (ascii "host") = 0 := by decide
  simpa [isHostField] using hname

/-- The hosts are written, and the `:authority` before them. -/
theorem countP_namedFields (hasHost : Bool) (headers : List RequestHeader) :
    (namedFields hasHost headers).countP isHostField =
      headers.countP isHost + if !hasHost && authorityFirst headers then 1 else 0 := by
  induction headers generalizing hasHost with
  | nil => simp [namedFields, authorityFirst]
  | cons h headers ih =>
    rw [namedFields, authorityFirst_cons, List.countP_cons]
    split
    · rename_i hauthority
      simp only [Bool.and_eq_true, Bool.not_eq_true'] at hauthority
      obtain ⟨hauthority, rfl⟩ := hauthority
      have hhost : isHost h = false := by
        simp only [isAuthority, Bool.and_eq_true] at hauthority
        exact isHost_of_isPseudo hauthority.1
      rw [List.countP_cons, ih, isHostField_host]
      simp [hauthority, hhost]
    · rename_i hauthority
      split
      · rename_i hskipped
        have hhost : isHost h = false := by
          rw [Bool.or_eq_true] at hskipped
          exact hskipped.elim isHost_of_isPseudo isHost_of_isCookie
        rw [ih, hhost]
        cases hasHost <;> cases hname : isAuthority h <;> simp_all
      · rename_i hreal
        have hfield : isHostField ⟨h.name, h.value⟩ = isHost h := by
          simp only [Bool.or_eq_true, not_or, Bool.not_eq_true] at hreal
          simp [isHostField, isHost, hreal.1]
        have hname : isAuthority h = false := by
          simp only [Bool.or_eq_true, not_or, Bool.not_eq_true] at hreal
          simp [isAuthority, hreal.1]
        rw [List.countP_cons, ih, hfield, hname]
        cases isHost h <;> cases hasHost <;> simp

/-- The hosts that are sent: those of the basket, an `:authority` before the first
of them, and the host of the URL. -/
theorem countP_sentFields (lib : AddressLib) (sent : Http11Basket) :
    (sentFields lib sent).countP isHostField = sent.request.headers.countP isHost +
      (if authorityFirst sent.request.headers then 1 else 0) +
      if hasHostField sent.request.headers then 0 else 1 := by
  have hcookie (cookies : Bytes) : isHostField ⟨ascii "Cookie", cookies⟩ = false := by
    have hname : strcasecmp (ascii "Cookie") (ascii "host") ≠ 0 := by decide
    simpa [isHostField] using hname
  have hproxy (credentials : Bytes) :
      isHostField ⟨ascii "Proxy-Authorization", credentials⟩ = false := by
    have hname : strcasecmp (ascii "Proxy-Authorization") (ascii "host") ≠ 0 := by decide
    simpa [isHostField] using hname
  have hone (field : HeaderField) (skipped : Prop) [Decidable skipped] :
      (if skipped then [] else [field]).countP isHostField =
        if skipped then 0 else if isHostField field then 1 else 0 := by
    split <;> simp
  have hcredentials (field : HeaderField) (given : Prop) [Decidable given] :
      (if given then [field] else []).countP isHostField =
        if given then (if isHostField field then 1 else 0) else 0 := by
    split <;> simp
  rw [sentFields]
  simp only [List.countP_append, countP_namedFields, hone, hcredentials, isHostField_host, hcookie,
    hproxy]
  simp

/-- Without a host the `:authority` counts wherever it stands. -/
theorem authorityFirst_of_noHost {headers : List RequestHeader}
    (hnone : headers.countP isHost = 0) : authorityFirst headers = hasHostField headers := by
  rw [List.countP_eq_zero] at hnone
  have hall : headers.takeWhile (fun h => !isHost h) = headers := by
    rw [List.takeWhile_eq_self_iff]
    intro h hmem
    simpa using hnone h hmem
  rw [authorityFirst, hall, hasHostField, Bool.eq_iff_iff, List.any_eq_true, List.any_eq_true]
  refine exists_congr fun h => and_congr_right fun hmem => ?_
  have hhost : isHost h = false := by simpa using hnone h hmem
  rw [hhost, Bool.or_false]

theorem hasHostField_of_host {headers : List RequestHeader} (hsome : headers.countP isHost ≠ 0) :
    hasHostField headers = true := by
  obtain ⟨h, hmem, hhost⟩ := List.countP_pos_iff.mp (Nat.pos_of_ne_zero hsome)
  exact List.any_eq_true.mpr ⟨h, hmem, by simp [hhost]⟩

/-- There is one `Host` when there is no host header, or when there is one and no
`:authority` before it. -/
theorem countP_sentFields_iff (lib : AddressLib) (sent : Http11Basket) :
    (sentFields lib sent).countP isHostField = 1 ↔
      sent.request.headers.countP isHost = 0 ∨ sent.request.headers.countP isHost = 1 ∧
        authorityFirst sent.request.headers = false := by
  rw [countP_sentFields]
  by_cases hnone : sent.request.headers.countP isHost = 0
  · rw [authorityFirst_of_noHost hnone, hnone]
    cases hasHostField sent.request.headers <;> simp
  · rw [hasHostField_of_host hnone, if_pos rfl, Nat.add_zero]
    cases authorityFirst sent.request.headers with
    | true =>
      simp only [if_true, Bool.true_eq_false, and_false, or_false]
      omega
    | false =>
      simp only [Bool.false_eq_true, if_false, and_true]
      omega

/-! ## The order of the caller -/

/-- In the order of the caller the pseudo headers come first. -/
theorem authorityFirst_ordered {keys : List Bytes} {rest out : List RequestHeader}
    (hordered : OrderedBy keys rest out) : authorityFirst out = rest.any isAuthority := by
  obtain ⟨named, rfl, hnamed, -, -⟩ := hordered.parts
  have hpseudo : ∀ headers : List RequestHeader, (∀ h ∈ headers, h.isPseudo = true) →
      ∀ later, (∀ h ∈ later, h.isPseudo = false) →
        authorityFirst (headers ++ later) = headers.any isAuthority := by
    intro headers hheaders later hlater
    induction headers with
    | nil =>
      rw [List.nil_append, authorityFirst, List.any_nil, List.any_eq_false]
      intro h hmem
      simp [isAuthority, hlater h ((List.takeWhile_subset _) hmem)]
    | cons h headers ih =>
      rw [List.forall_mem_cons] at hheaders
      rw [List.cons_append, authorityFirst_cons, ih hheaders.2, List.any_cons,
        isHost_of_isPseudo hheaders.1]
      rfl
  have hlater : ∀ h ∈ named ++ rest.filter (fun h => !h.isPseudo && !isListed keys h),
      h.isPseudo = false := by
    intro h hmem
    rcases List.mem_append.mp hmem with hin | hin
    · exact (hnamed h hin).1
    · have htest := (List.mem_filter.mp hin).2
      simp only [Bool.and_eq_true, Bool.not_eq_true'] at htest
      exact htest.1
  rw [List.append_assoc, hpseudo _ (fun h hmem => (List.mem_filter.mp hmem).2) _ hlater,
    List.any_filter]
  congr 1
  funext h
  simp only [isAuthority]
  cases h.isPseudo <;> rfl

/-- The headers behind the call, as far as hosts are concerned. -/
theorem reorderHeaders_hosts {headers out : List RequestHeader}
    (h : reorderHeadersByOrderKey headers = (none, out)) :
    out.countP isHost = headers.countP isHost ∧
      authorityFirst out = if headers.any isOrderKey then headers.any isAuthority
        else authorityFirst headers := by
  rcases reorderHeadersByOrderKey_cases h with ⟨hplain, rfl⟩ |
    ⟨before, key, after, rfl, hkey, -, hordered⟩
  · rw [hplain]
    exact ⟨rfl, rfl⟩
  · have hname := hkey
    simp only [isOrderKey, headerNameEquals, Bool.and_eq_true, Bool.not_eq_true',
      decide_eq_true_eq] at hname
    obtain ⟨hreal, hname⟩ := hname
    rw [strcasecmp_comm] at hname
    have hhost : isHost key = false := by
      have hne := strcasecmp_ne (b := ascii "host") (by decide) (by decide) (by decide) hname
      rw [Ne, strcasecmp_comm] at hne
      simp [isHost, hne]
    have hauthority : isAuthority key = false := by simp [isAuthority, hreal]
    have hany : (before ++ key :: after).any isOrderKey = true := by simp [hkey]
    rw [hordered.perm.countP_eq, authorityFirst_ordered hordered, hany]
    constructor
    · simp [hhost]
    · simp [hauthority]

/-! ## The members of the caller -/

/-- A member of the name that makes a header, if its name is not left out. -/
def isMember (name : Bytes) (entry : Bytes × JsonHeaderValue) : Bool :=
  strcasecmp entry.1 name = 0 && (headerValueToString entry.2).isSome

/-- The builder does not leave out a host. -/
def keepsHost (forceHttp11 : Bool) (jsonHeaders : JsonHeaders) : Bool :=
  if forceHttp11 then (jsonHeaderGet jsonHeaders (ascii ":authority")).isNone
  else containPseudoHeaders jsonHeaders

/-- An `:authority` is sent before the first host: it stands there, or the caller
has ordered the headers, and pseudo headers come first. -/
def authorityBefore (jsonHeaders : JsonHeaders) : Bool :=
  if jsonHeaders.any (isMember (ascii "X-HeaderOrderKey")) then
    jsonHeaders.any (isMember (ascii ":authority"))
  else (jsonHeaders.takeWhile fun entry => !isMember (ascii "host") entry).any
    (isMember (ascii ":authority"))

/-- Hosts are left out, or there is one at most, and no `:authority` before it. -/
def OneHost (forceHttp11 : Bool) (jsonHeaders : JsonHeaders) : Prop :=
  keepsHost forceHttp11 jsonHeaders = false ∨ jsonHeaders.countP (isMember (ascii "host")) = 0 ∨
    jsonHeaders.countP (isMember (ascii "host")) = 1 ∧
      (forceHttp11 = true ∨ authorityBefore jsonHeaders = false)

/-- A host makes one header or none. -/
theorem memberHeaders_host (basket : RequestBasket) (jsonHeaders : JsonHeaders)
    {entry : Bytes × JsonHeaderValue} (hname : strcasecmp entry.1 (ascii "host") = 0) :
    memberHeaders basket jsonHeaders entry =
      if keepsHost basket.forceHttp11 jsonHeaders then
        ((headerValueToString entry.2).map fun value => ⟨entry.1, value, false⟩).toList
      else [] := by
  have hpseudo := isPseudoName_of_named (by decide) (by decide) hname
  have hhost : strcasecmp (ascii "host") entry.1 = 0 := strcasecmp_comm.mp hname
  have hcookie := not_cookie_of_host hhost
  have hnames := hpseudo
  simp only [isPseudoName, decide_eq_false_iff_not, not_or] at hnames
  obtain ⟨hmethod, hauthority, hscheme, hpath⟩ := hnames
  rw [memberHeaders, keepsHost]
  cases basket.forceHttp11 with
  | true =>
    rw [if_pos rfl, if_pos rfl, http11Headers]
    cases headerValueToString entry.2 <;> cases jsonHeaderGet jsonHeaders (ascii ":authority") <;>
      simp [hmethod, hauthority, hscheme, hpath, hhost, hcookie]
  | false =>
    rw [if_neg Bool.false_ne_true, if_neg Bool.false_ne_true, http2Headers]
    cases headerValueToString entry.2 <;> cases containPseudoHeaders jsonHeaders <;>
      simp [hpseudo, hhost]

theorem countP_buildHeaders (lib : BasketLib) (basket : RequestBasket) (jsonHeaders : JsonHeaders) :
    (buildHeaders lib basket jsonHeaders).headers.countP isHost =
      if keepsHost basket.forceHttp11 jsonHeaders then
        jsonHeaders.countP (isMember (ascii "host"))
      else 0 := by
  have hhost : ascii "host" = ascii "cookie" ∨ strcasecmp (ascii "cookie") (ascii "host") ≠ 0 :=
    Or.inr (by decide)
  have hfilter := filter_buildHeaders lib basket jsonHeaders hhost
  have hlength : (buildHeaders lib basket jsonHeaders).headers.countP isHost =
      ((buildHeaders lib basket jsonHeaders).headers.filter (isNamed (ascii "host"))).length :=
    List.countP_eq_length_filter
  rw [hlength, hfilter]
  have hmembers : ∀ members : JsonHeaders,
      ((members.filter fun entry => strcasecmp entry.1 (ascii "host") = 0).flatMap fun entry =>
        (memberHeaders basket jsonHeaders entry).filter (isNamed (ascii "host"))).length =
          if keepsHost basket.forceHttp11 jsonHeaders then members.countP (isMember (ascii "host"))
          else 0 := by
    intro members
    induction members with
    | nil => simp
    | cons entry members ih =>
      by_cases hname : strcasecmp entry.1 (ascii "host") = 0
      · rw [List.filter_cons_of_pos (by simpa using hname), List.flatMap_cons, List.length_append,
          ih, memberHeaders_host basket jsonHeaders hname, List.countP_cons]
        cases keepsHost basket.forceHttp11 jsonHeaders <;>
          cases htext : headerValueToString entry.2 <;>
          simp [isMember, isNamed, hname, htext, Nat.add_comm]
      · rw [List.filter_cons_of_neg (by simpa using hname), ih,
          List.countP_cons_of_neg (by simp [isMember, hname])]
  exact hmembers jsonHeaders

/-- Without an `:authority` of the caller there is none over HTTP/1.1. -/
theorem any_isAuthority_http11 {lib : BasketLib} {basket : RequestBasket}
    {jsonHeaders : JsonHeaders} (hforce : basket.forceHttp11 = true)
    (hnone : jsonHeaderGet jsonHeaders (ascii ":authority") = none) :
    (buildHeaders lib basket jsonHeaders).headers.any isAuthority = false := by
  rw [List.any_eq_false]
  intro h hmem hauthority
  simp only [isAuthority, Bool.and_eq_true, decide_eq_true_eq] at hauthority
  have hleading : leadingHeaders lib basket jsonHeaders = [] := by simp [leadingHeaders, hforce]
  rw [buildHeaders_headers, hleading, List.nil_append] at hmem
  obtain ⟨entry, hentry, hmem⟩ := List.mem_flatMap.mp hmem
  rcases name_of_mem_memberHeaders hmem with hname | ⟨hname, -⟩
  · rw [jsonHeaderGet, Option.map_eq_none_iff, List.find?_eq_none] at hnone
    exact hnone entry hentry (by simpa [← hname] using hauthority.2)
  · rw [hname] at hauthority
    exact absurd hauthority.2 (by decide)

/-! ### All pseudo headers of the caller -/

theorem http2Headers_all (headerValueMaxLength : Nat) (entry : Bytes × JsonHeaderValue) :
    http2Headers headerValueMaxLength true entry =
      ((headerValueToString entry.2).map fun value =>
        ⟨entry.1, value, isPseudoName entry.1⟩).toList := by
  rw [http2Headers]
  cases headerValueToString entry.2 <;> rfl

/-- What the header of a member is depends on its key alone. -/
theorem header_of_member (key value : Bytes) :
    isHost ⟨key, value, isPseudoName key⟩ = decide (strcasecmp key (ascii "host") = 0) ∧
      isOrderKey ⟨key, value, isPseudoName key⟩ =
        decide (strcasecmp key (ascii "X-HeaderOrderKey") = 0) ∧
      isAuthority ⟨key, value, isPseudoName key⟩ =
        decide (strcasecmp key (ascii ":authority") = 0) := by
  refine ⟨?_, ?_, ?_⟩
  · by_cases hname : strcasecmp key (ascii "host") = 0
    · simp [isHost, isPseudoName_of_named (by decide) (by decide) hname, hname]
    · simp [isHost, hname]
  · by_cases hname : strcasecmp key (ascii "X-HeaderOrderKey") = 0
    · simp [isOrderKey, headerNameEquals,
        isPseudoName_of_named (by decide) (by decide) hname, hname]
    · simp [isOrderKey, headerNameEquals, hname]
  · by_cases hname : strcasecmp key (ascii ":authority") = 0
    · have hpseudo : isPseudoName key = true := by
        simp [isPseudoName, strcasecmp_comm.mp hname]
      simp [isAuthority, hpseudo, hname]
    · simp [isAuthority, hname]

/-- The headers of the members, as far as hosts are concerned. -/
theorem authority_flatMap (headerValueMaxLength : Nat) (jsonHeaders : JsonHeaders) :
    (jsonHeaders.flatMap (http2Headers headerValueMaxLength true)).any isOrderKey =
        jsonHeaders.any (isMember (ascii "X-HeaderOrderKey")) ∧
      (jsonHeaders.flatMap (http2Headers headerValueMaxLength true)).any isAuthority =
        jsonHeaders.any (isMember (ascii ":authority")) ∧
      authorityFirst (jsonHeaders.flatMap (http2Headers headerValueMaxLength true)) =
        (jsonHeaders.takeWhile fun entry => !isMember (ascii "host") entry).any
          (isMember (ascii ":authority")) := by
  induction jsonHeaders with
  | nil => exact ⟨rfl, rfl, rfl⟩
  | cons entry jsonHeaders ih =>
    obtain ⟨horder, hauthority, hfirst⟩ := ih
    obtain ⟨key, value⟩ := entry
    rw [List.flatMap_cons, http2Headers_all]
    cases htext : headerValueToString value with
    | none =>
      have hmember (name : Bytes) : isMember name (key, value) = false := by simp [isMember, htext]
      simp only [Option.map_none, Option.toList_none, List.nil_append, List.any_cons,
        List.takeWhile_cons, hmember, Bool.false_or, Bool.not_false, if_true]
      exact ⟨horder, hauthority, hfirst⟩
    | some text =>
      have hmember (name : Bytes) :
          isMember name (key, value) = decide (strcasecmp key name = 0) := by simp [isMember, htext]
      obtain ⟨hhost, hkey, hname⟩ := header_of_member key text
      simp only [Option.map_some, Option.toList_some, List.singleton_append, List.any_cons,
        authorityFirst_cons, hhost, hkey, hname, horder, hauthority, hfirst, List.takeWhile_cons,
        hmember]
      refine ⟨trivial, trivial, ?_⟩
      cases decide (strcasecmp key (ascii "host") = 0) <;> simp [hmember]

/-- A basket is sent with exactly one `Host` when its builder leaves out the hosts
of the caller, or the caller has given one at most and none behind an
`:authority`. -/
theorem one_host_iff {lib : BasketLib} {jsonRequest : JsonValue} {basket : RequestBasket}
    {sent : Http11Basket} (h : buildBasket lib (some jsonRequest) = some basket)
    (hok : basket.error = none) (hsent : sent.request = basket.request) :
    ∃ target, buildHttp11Request lib.addresses sent =
        { sentRequest lib.addresses sent with target := target }.wire ∧
      ((sentFields lib.addresses sent).countP isHostField = 1 ↔
        OneHost basket.forceHttp11 (headersOf jsonRequest)) := by
  obtain ⟨hheaded, -⟩ := buildBasket_members h hok
  refine ⟨_, buildHttp11Request_wire lib.addresses sent, ?_⟩
  obtain ⟨hcount, hfirst⟩ := reorderHeaders_hosts hheaded.reordered
  rw [countP_sentFields_iff, hsent, hcount, hfirst, countP_buildHeaders, OneHost]
  generalize headersOf jsonRequest = jsonHeaders
  cases hkeeps : keepsHost basket.forceHttp11 jsonHeaders with
  | false => simp
  | true =>
    rw [if_pos rfl]
    cases hforce : basket.forceHttp11 with
    | true =>
      rw [keepsHost, hforce, if_pos rfl, Option.isNone_iff_eq_none] at hkeeps
      have hnone : (buildHeaders lib basket jsonHeaders).headers.any isAuthority = false :=
        any_isAuthority_http11 hforce hkeeps
      have hnoneFirst : authorityFirst (buildHeaders lib basket jsonHeaders).headers = false := by
        rw [List.any_eq_false] at hnone
        rw [authorityFirst, List.any_eq_false]
        exact fun header hmem => hnone header (List.takeWhile_subset _ hmem)
      simp [hnone, hnoneFirst]
    | false =>
      rw [keepsHost, hforce, if_neg Bool.false_ne_true] at hkeeps
      have hbuilt : (buildHeaders lib basket jsonHeaders).headers =
          jsonHeaders.flatMap (http2Headers basket.headerValueMaxLength true) := by
        simp [buildHeaders, hforce, buildHttp2Headers, hkeeps]
      obtain ⟨horder, hauthority, hbefore⟩ :=
        authority_flatMap basket.headerValueMaxLength jsonHeaders
      rw [hbuilt, horder, hauthority, hbefore, ← authorityBefore]
      simp

/-- A request with all pseudo headers, a host before them and hosts behind them. -/
def hostRequest (before after : List (Bytes × JsonValue)) : JsonValue :=
  requestWith (before ++ [
    (ascii ":method", .string postText),
    (ascii ":authority", .string (.plain (ascii "a.example") (by decide))),
    (ascii ":scheme", .string (.plain (ascii "https") (by decide))),
    (ascii ":path", .string (.plain (ascii "/") (by decide)))] ++ after) []

def hostMember : Bytes × JsonValue :=
  (ascii "host", .string (.plain (ascii "a.example") (by decide)))

theorem one_host_before : ∃ basket,
    buildBasket BasketLib.names (some (hostRequest [hostMember] [])) = some basket ∧
      (sentFields BasketLib.names.addresses ⟨.post, basket.request, [], false⟩).countP
        isHostField = 1 := by
  have hbuilt : (buildBasket BasketLib.names (some (hostRequest [hostMember] []))).map
      (fun basket => (basket.error, basket.forceHttp11)) = some (none, false) := by
    decide +kernel
  obtain ⟨basket, hbasket, hfields⟩ := Option.map_eq_some_iff.mp hbuilt
  rw [Prod.mk.injEq] at hfields
  have hsent : (⟨.post, basket.request, [], false⟩ : Http11Basket).request = basket.request := rfl
  obtain ⟨-, -, hone⟩ := one_host_iff hbasket hfields.1 hsent
  rw [hfields.2] at hone
  exact ⟨basket, hbasket, hone.mpr (Or.inr (Or.inr ⟨by decide +kernel, Or.inr (by decide +kernel)⟩))⟩

/-- The host behind the `:authority` is the second one on the wire. -/
theorem two_hosts : ∃ basket,
    buildBasket BasketLib.names (some (hostRequest [] [hostMember])) = some basket ∧
      basket.error = none ∧
      (sentFields BasketLib.names.addresses ⟨.post, basket.request, [], false⟩).countP
        isHostField = 2 := by
  have hbuilt : (buildBasket BasketLib.names (some (hostRequest [] [hostMember]))).map
      (fun basket => (basket.error,
        (sentFields BasketLib.names.addresses ⟨.post, basket.request, [], false⟩).countP
          isHostField)) = some (none, 2) := by
    decide +kernel
  obtain ⟨basket, hbasket, hfields⟩ := Option.map_eq_some_iff.mp hbuilt
  rw [Prod.mk.injEq] at hfields
  exact ⟨basket, hbasket, hfields⟩

end HttpRequestClient
