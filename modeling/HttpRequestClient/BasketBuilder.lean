import HttpRequestClient.BasketJson
import HttpRequestClient.BrowserHandler
import HttpRequestClient.HeaderOrder

/-!
# From the request JSON to a basket

`buildBasket` of `Basket.c`: the URL, the method, the session, the headers, the
payload, the options and the proxy are taken out of the JSON one after the other,
and the first error stops all but the options.

The JSON is the value that `json_loads` has made of the text.  `json_dumps` and
`inet_pton` are parameters.  Where the source passes a null pointer on to the C
library, or `parseUrl` leaves its arrays, there is no basket.
-/

namespace HttpRequestClient

open Hpack Utf8

/-! ## The request JSON -/

/-- A string of a JSON value: UTF-8 without a terminator. -/
structure JsonText where
  bytes : Bytes
  utf8 : utf8Valid bytes = true
  terminated : 0 ∉ bytes

/-- A literal of the source as a JSON string. -/
def JsonText.plain (text : Bytes) (h : PlainText text) : JsonText where
  bytes := text
  utf8 := utf8Valid_of_ascii fun c hc => (h c hc).2
  terminated := fun hzero => (h 0 hzero).1 rfl

/-- A `json_int_t` has 64 bits.  A real is given by the text that jansson encodes
it with. -/
inductive JsonValue where
  | null
  | boolean (b : Bool)
  | integer (n : Int64)
  | real (encoded : Bytes)
  | string (text : JsonText)
  | array (items : List JsonValue)
  | object (fields : List (Bytes × JsonValue))

/-- The member of an object, null for anything else. -/
def JsonValue.get (key : Bytes) : JsonValue → Option JsonValue
  | .object fields => (fields.find? fun field => field.1 = key).map Prod.snd
  | _ => none

def json_string_value : Option JsonValue → Option Bytes
  | some (.string text) => some text.bytes
  | _ => none

def json_integer_value : Option JsonValue → Int
  | some (.integer n) => n.toInt
  | _ => 0

/-- What the builders of the headers see of a value. -/
def JsonValue.toHeaderValue : JsonValue → JsonHeaderValue
  | .string text => .string text.bytes
  | .integer n => .integer n.toInt
  | .real encoded => .real encoded
  | .boolean b => .boolean b
  | _ => .other

/-- The members of the `headers` object. -/
def headerMembers : JsonValue → JsonHeaders
  | .object fields => fields.map fun (key, value) => (key, value.toHeaderValue)
  | _ => []

/-- The functions of other libraries that build a basket. -/
structure BasketLib where
  addresses : AddressLib
  json_dumps : JsonValue → Option Bytes

/-! ## The basket -/

def ERR_REQUEST_PARSING_STRING_TO_JSON_FAILED : Error :=
  ⟨"2-0001", "Parsing request string to json failed."⟩
def ERR_REQUEST_MISSING_HEADERS : Error := ⟨"2-0002", "Missing request headers."⟩
def ERR_REQUEST_PARSING_URL_FAILED : Error := ⟨"2-0003", "Parsing request URL failed."⟩
def ERR_REQUEST_PARSING_METHOD_FAILED : Error := ⟨"2-0004", "Parsing request method failed."⟩
def ERR_REQUEST_PARSING_USERAGENT_FAILED : Error :=
  ⟨"2-0005", "Parsing request header user-agent failed."⟩
def ERR_REQUEST_PARSING_CONTENTLENGTH_FAILED : Error :=
  ⟨"2-0006", "Parsing request header content-length failed."⟩
def ERR_REQUEST_INCORRECT_CONTENTLENGTH_MISMATCH : Error :=
  ⟨"2-0017", "The value of request header content-length does not match the actual payload byte length."⟩
def ERR_REQUEST_UNSUPPORTED_METHOD : Error :=
  ⟨"2-0008", "Unsupported method, GET, POST, PUT, PATCH and DELETE supported only."⟩
def ERR_REQUEST_UNSUPPORTED_CLIENTHELLOID : Error :=
  ⟨"2-0016", "Unsupported clientHelloId, e.g. hellochrome_auto / hellochrome_150 / hellocrios_auto."⟩
def ERR_REQUEST_UNSUPPORTED_PROTOCOL : Error :=
  ⟨"2-0018", "Unsupported session protocol, h2 (default) and http/1.1 supported only."⟩

/-- The fields of a basket that `buildBasket` fills in.  `urlComponents` is the
whole record of the parser; `request` has the part that is sent. -/
structure RequestBasket where
  url : Option Bytes
  method : Option Method
  decompress : Int
  nonBlocking : Bool
  forceHttp11 : Bool
  connectTimeoutInMilliseconds : Int
  responseReadingTimeoutInMilliseconds : Int
  sessionExpirationInMilliseconds : Int
  fingerprint : Option BrowserFingerprint
  clientHelloId : Bytes
  proxy : BasketProxy
  urlComponents : Url.URLComponents
  request : Request
  error : Option Error

def initBasket : RequestBasket where
  url := none
  method := none
  decompress := 1
  nonBlocking := true
  forceHttp11 := false
  connectTimeoutInMilliseconds := 5000
  responseReadingTimeoutInMilliseconds := 20000
  sessionExpirationInMilliseconds := 15000
  fingerprint := none
  clientHelloId := []
  proxy := ⟨[], [], [], [], []⟩
  urlComponents := Url.URLComponents.zero
  request := ⟨none, false, ⟨[], [], []⟩, []⟩
  error := none

/-- An integer in a variable of type `int`. -/
def toInt (n : Int) : Int := n.bmod 4294967296

/-! ## URL, method and session -/

def parseUrlField (basket : RequestBasket) (jsonRequest : JsonValue) : Option RequestBasket := do
  let url ← json_string_value (jsonRequest.get (ascii "url"))
  match Url.parseUrl url with
  | .outOfBounds => none
  | .rejected _ => some { basket with
      url := some url
      error := some ERR_REQUEST_PARSING_URL_FAILED }
  | .parsed components => some { basket with
      url := some url
      urlComponents := components
      request := { basket.request with urlComponents := components.sent } }

def methodOf (text : Bytes) : Option Method :=
  if strcasecmp text (ascii "POST") = 0 then some .post
  else if strcasecmp text (ascii "GET") = 0 then some .get
  else if strcasecmp text (ascii "PUT") = 0 then some .put
  else if strcasecmp text (ascii "PATCH") = 0 then some .patch
  else if strcasecmp text (ascii "DELETE") = 0 then some .delete
  else none

def parseMethod (basket : RequestBasket) (jsonRequest : JsonValue) : Option RequestBasket :=
  match jsonRequest.get (ascii "method") with
  | none => some { basket with error := some ERR_REQUEST_PARSING_METHOD_FAILED }
  | some jsonMethod => do
    let text ← json_string_value (some jsonMethod)
    match methodOf text with
    | some method => some { basket with method := some method }
    | none => some { basket with error := some ERR_REQUEST_UNSUPPORTED_METHOD }

/-- Whether a protocol is HTTP/1.1, none for a name that is not known. -/
def forcesHttp11 (protocol : Bytes) : Option Bool :=
  if strcasecmp protocol (ascii "http/1.1") = 0 ∨ strcasecmp protocol (ascii "http1.1") = 0
      ∨ strcasecmp protocol (ascii "http11") = 0 then some true
  else if strcasecmp protocol (ascii "h2") = 0 ∨ strcasecmp protocol (ascii "http2") = 0
      ∨ strcasecmp protocol (ascii "http/2") = 0 then some false
  else none

def parseSession (basket : RequestBasket) (jsonRequest : JsonValue) : RequestBasket :=
  match jsonRequest.get (ascii "session") with
  | none => basket
  | some jsonSession =>
    let basket := match jsonSession.get (ascii "expirationInMilliseconds") with
      | some expiration =>
        { basket with
          sessionExpirationInMilliseconds := toInt (json_integer_value (some expiration)) }
      | none => basket
    match jsonSession.get (ascii "protocol") with
    | none => basket
    | some protocol =>
      match (json_string_value (some protocol)).bind forcesHttp11 with
      | some forceHttp11 => { basket with forceHttp11 := forceHttp11 }
      | none => { basket with error := some ERR_REQUEST_UNSUPPORTED_PROTOCOL }

/-! ## Headers -/

def isPseudoName (key : Bytes) : Bool :=
  strcasecmp (ascii ":method") key = 0 ∨ strcasecmp (ascii ":authority") key = 0
    ∨ strcasecmp (ascii ":scheme") key = 0 ∨ strcasecmp (ascii ":path") key = 0

/-- All four pseudo headers are members of the object. -/
def containPseudoHeaders (jsonHeaders : JsonHeaders) : Bool :=
  (jsonHeaderGet jsonHeaders (ascii ":method")).isSome
    && (jsonHeaderGet jsonHeaders (ascii ":authority")).isSome
    && (jsonHeaderGet jsonHeaders (ascii ":scheme")).isSome
    && (jsonHeaderGet jsonHeaders (ascii ":path")).isSome

def RequestBasket.headerValueMaxLength (basket : RequestBasket) : Nat :=
  (basket.fingerprint.map BrowserFingerprint.headerValueMaxLength).getD 4096

section Headers

variable (lib : BasketLib)

def pseudoHeader (basket : RequestBasket) : PseudoHeaderType → RequestHeader
  | .method => ⟨ascii ":method", (basket.method.map Method.name).getD [], true⟩
  | .authority => ⟨ascii ":authority",
      getHeaderAuthority lib.addresses basket.urlComponents.host basket.urlComponents.port, true⟩
  | .scheme => ⟨ascii ":scheme", basket.urlComponents.scheme, true⟩
  | .path => ⟨ascii ":path", basket.urlComponents.path, true⟩

/-- The pseudo headers of the basket in the order of its browser. -/
def pseudoHeaders (basket : RequestBasket) : List RequestHeader :=
  let defaultOrder := [.method, .authority, .scheme, .path]
  let order := (basket.fingerprint.map BrowserFingerprint.pseudoHeaderOrder).getD defaultOrder
  order.map (pseudoHeader lib basket)

/-- The headers that one member of the object makes. -/
def http2Headers (headerValueMaxLength : Nat) (containPseudoHeaders : Bool)
    (entry : Bytes × JsonHeaderValue) : List RequestHeader :=
  let key := entry.1
  match headerValueToString entry.2 with
  | none => []
  | some value =>
    if containPseudoHeaders then [⟨key, value, isPseudoName key⟩]
    else if isPseudoName key ∨ strcasecmp (ascii "host") key = 0 then []
    else if strcasecmp (ascii "cookie") key = 0 then processCookies value headerValueMaxLength
    else [⟨key, value, false⟩]

def buildHttp2Headers (basket : RequestBasket) (jsonHeaders : JsonHeaders) : Request :=
  { basket.request with
    containsContentLength :=
      jsonHeaders.any fun entry => strcasecmp (ascii "content-length") entry.1 = 0
    headers := (if containPseudoHeaders jsonHeaders then [] else pseudoHeaders lib basket) ++
      jsonHeaders.flatMap
        (http2Headers basket.headerValueMaxLength (containPseudoHeaders jsonHeaders)) }

/-- The headers in the form of the protocol that was asked for. -/
def buildHeaders (basket : RequestBasket) (jsonHeaders : JsonHeaders) : Request :=
  if basket.forceHttp11 then
    buildHttp11Headers basket.headerValueMaxLength basket.request jsonHeaders
  else buildHttp2Headers lib basket jsonHeaders

/-- The fingerprint that the caller has pinned or the user agent asks for. -/
def resolveFingerprint (jsonRequest : JsonValue) (ua : Bytes) : Option BrowserFingerprint :=
  match json_string_value ((jsonRequest.get (ascii "session")).bind
      (JsonValue.get (ascii "clientHelloId"))) with
  | some clientHelloId => getBrowserFingerprintById clientHelloId ua
  | none => some (getBrowserFingerprint (detectBrowseType ua))

def parseHeaders (basket : RequestBasket) (jsonRequest : JsonValue) : Option RequestBasket :=
  match jsonRequest.get (ascii "headers") with
  | none => some { basket with error := some ERR_REQUEST_MISSING_HEADERS }
  | some headers =>
    let jsonHeaders := headerMembers headers
    match jsonHeaderGet jsonHeaders (ascii "user-agent") with
    | none => some { basket with error := some ERR_REQUEST_PARSING_USERAGENT_FAILED }
    | some (.string ua) =>
      match resolveFingerprint jsonRequest ua with
      | none => some { basket with error := some ERR_REQUEST_UNSUPPORTED_CLIENTHELLOID }
      | some fingerprint =>
        let basket := { basket with
          fingerprint := some fingerprint
          clientHelloId := fingerprint.clientHelloId }
        let request := buildHeaders lib basket jsonHeaders
        let (error, headers) := reorderHeadersByOrderKey request.headers
        some { basket with request := { request with headers := headers }, error := error }
    | some _ => none

/-! ## Payload, options and proxy -/

/-- The payload as it is sent.  `json_dumps` writes arrays and objects only. -/
def payloadText (jsonPayload : JsonValue) : Option Bytes :=
  match jsonPayload with
  | .string text => some text.bytes
  | _ => lib.json_dumps jsonPayload

def parsePayload (basket : RequestBasket) (jsonRequest : JsonValue) : Option RequestBasket :=
  match jsonRequest.get (ascii "payload") with
  | none => some { basket with request := { basket.request with payload := none } }
  | some jsonPayload => do
    let payload ← payloadText lib jsonPayload
    let basket := { basket with request := { basket.request with payload := some payload } }
    if ¬basket.request.containsContentLength then
      some { basket with error := some ERR_REQUEST_PARSING_CONTENTLENGTH_FAILED }
    else
      let jsonHeaders := ((jsonRequest.get (ascii "headers")).map headerMembers).getD []
      match jsonHeaderGet jsonHeaders (ascii "content-length") with
      | some (.string expectedLen) =>
        let expected := strtol expectedLen 10
        if expected < 0 ∨ expected ≠ payload.length then
          some { basket with error := some ERR_REQUEST_INCORRECT_CONTENTLENGTH_MISMATCH }
        else some basket
      | _ => some basket

end Headers

/-- The timeout for reading is looked up, but it is the one for connecting that
is tested. -/
def parseOptions (basket : RequestBasket) (jsonRequest : JsonValue) : RequestBasket :=
  let connectTimeout := jsonRequest.get (ascii "connectTimeoutInMilliseconds")
  let basket := if connectTimeout.isSome then
      { basket with connectTimeoutInMilliseconds := toInt (json_integer_value connectTimeout) }
    else basket
  let responseReadingTimeout := jsonRequest.get (ascii "responseReadingTimeoutInMilliseconds")
  let basket := if connectTimeout.isSome then
      { basket with
        responseReadingTimeoutInMilliseconds := toInt (json_integer_value responseReadingTimeout) }
    else basket
  let decompress := jsonRequest.get (ascii "decompress")
  let basket := if decompress.isSome then
      { basket with decompress := toInt (json_integer_value decompress) }
    else basket
  match jsonRequest.get (ascii "non-blocking") with
  | some nonBlocking =>
    { basket with nonBlocking := json_integer_value (some nonBlocking) ≠ 0 }
  | none => { basket with nonBlocking := true }

def PROXY_SCHEME_SIZE : Nat := 16
def PROXY_HOST_SIZE : Nat := 256
def PROXY_PORT_SIZE : Nat := 8
def PROXY_AUTHORIZATION_SIZE : Nat := 1024

/-- `strncpy` of a string member into an array, and its terminator. -/
def copyMember (json : JsonValue) (key : Bytes) (size : Nat) : Option Bytes :=
  (json_string_value (json.get key)).map fun text => text.take (size - 1)

def parseProxy (basket : RequestBasket) (jsonRequest : JsonValue) : Option RequestBasket :=
  match jsonRequest.get (ascii "proxy") with
  | none => some basket
  | some jsonProxy => do
    let scheme ← copyMember jsonProxy (ascii "scheme") PROXY_SCHEME_SIZE
    let host ← copyMember jsonProxy (ascii "host") PROXY_HOST_SIZE
    let port ← copyMember jsonProxy (ascii "port") PROXY_PORT_SIZE
    let proxy := { basket.proxy with scheme := scheme, host := host, port := port }
    match jsonProxy.get (ascii "authorization") with
    | none => some { basket with proxy := proxy }
    | some _ => do
      let authorization ← copyMember jsonProxy (ascii "authorization") PROXY_AUTHORIZATION_SIZE
      some { basket with proxy := { proxy with authorization := authorization } }

/-! ## The whole -/

/-- A step that is left out behind an error. -/
def unlessError (basket : RequestBasket) (step : RequestBasket → Option RequestBasket) :
    Option RequestBasket :=
  if basket.error = none then step basket else some basket

/-- The basket of a JSON value. -/
def buildBasketOf (lib : BasketLib) (jsonRequest : JsonValue) : Option RequestBasket := do
  let basket ← parseUrlField initBasket jsonRequest
  let basket ← unlessError basket fun basket => parseMethod basket jsonRequest
  let basket ← unlessError basket fun basket => some (parseSession basket jsonRequest)
  let basket ← unlessError basket fun basket => parseHeaders lib basket jsonRequest
  let basket ← unlessError basket fun basket => parsePayload lib basket jsonRequest
  let basket := parseOptions basket jsonRequest
  unlessError basket fun basket => parseProxy basket jsonRequest

/-- `jsonRequest` is null for a text that is no JSON; then all options are
absent. -/
def buildBasket (lib : BasketLib) (jsonRequest : Option JsonValue) : Option RequestBasket :=
  match jsonRequest with
  | none =>
    some { initBasket with
      error := some ERR_REQUEST_PARSING_STRING_TO_JSON_FAILED
      nonBlocking := true }
  | some jsonRequest => buildBasketOf lib jsonRequest

/-! ## A basket without an error -/

/-- The fields that the builders of the headers read. -/
structure SameSource (before after : RequestBasket) : Prop where
  method : after.method = before.method
  forceHttp11 : after.forceHttp11 = before.forceHttp11
  fingerprint : after.fingerprint = before.fingerprint
  urlComponents : after.urlComponents = before.urlComponents

theorem SameSource.refl (basket : RequestBasket) : SameSource basket basket := ⟨rfl, rfl, rfl, rfl⟩

theorem SameSource.trans {first second third : RequestBasket} (h : SameSource first second)
    (h' : SameSource second third) : SameSource first third :=
  ⟨h'.method.trans h.method, h'.forceHttp11.trans h.forceHttp11,
    h'.fingerprint.trans h.fingerprint, h'.urlComponents.trans h.urlComponents⟩

/-- The headers are the same, the rest of the request aside. -/
theorem SameSource.headers {before after : RequestBasket} (h : SameSource before after)
    (lib : BasketLib) (jsonHeaders : JsonHeaders) :
    (buildHeaders lib after jsonHeaders).headers =
      (buildHeaders lib before jsonHeaders).headers := by
  obtain ⟨hmethod, hforce, hfingerprint, hurl⟩ := h
  have hpseudo : pseudoHeader lib after = pseudoHeader lib before := by
    funext type
    cases type <;> simp only [pseudoHeader, hmethod, hurl]
  rw [buildHeaders, buildHeaders, hforce]
  split
  · rw [buildHttp11Headers, buildHttp11Headers, RequestBasket.headerValueMaxLength,
      RequestBasket.headerValueMaxLength, hfingerprint]
  · rw [buildHttp2Headers, buildHttp2Headers, pseudoHeaders, pseudoHeaders,
      RequestBasket.headerValueMaxLength, RequestBasket.headerValueMaxLength, hfingerprint, hpseudo]

theorem unlessError_ok {basket after : RequestBasket}
    {step : RequestBasket → Option RequestBasket} (h : unlessError basket step = some after)
    (hok : after.error = none) : basket.error = none ∧ step basket = some after := by
  rw [unlessError] at h
  split at h
  · rename_i hnone
    exact ⟨hnone, h⟩
  · rename_i herror
    cases h
    exact absurd hok herror

/-- The four options, field by field. -/
theorem parseOptions_spec (basket : RequestBasket) (jsonRequest : JsonValue) :
    parseOptions basket jsonRequest =
      { basket with
        connectTimeoutInMilliseconds :=
          if (jsonRequest.get (ascii "connectTimeoutInMilliseconds")).isSome then
            toInt (json_integer_value (jsonRequest.get (ascii "connectTimeoutInMilliseconds")))
          else basket.connectTimeoutInMilliseconds
        responseReadingTimeoutInMilliseconds :=
          if (jsonRequest.get (ascii "connectTimeoutInMilliseconds")).isSome then
            toInt (json_integer_value
              (jsonRequest.get (ascii "responseReadingTimeoutInMilliseconds")))
          else basket.responseReadingTimeoutInMilliseconds
        decompress :=
          if (jsonRequest.get (ascii "decompress")).isSome then
            toInt (json_integer_value (jsonRequest.get (ascii "decompress")))
          else basket.decompress
        nonBlocking :=
          if (jsonRequest.get (ascii "non-blocking")).isSome then
            json_integer_value (jsonRequest.get (ascii "non-blocking")) ≠ 0
          else true } := by
  unfold parseOptions
  generalize jsonRequest.get (ascii "connectTimeoutInMilliseconds") = connectTimeout
  generalize jsonRequest.get (ascii "responseReadingTimeoutInMilliseconds") = readingTimeout
  generalize jsonRequest.get (ascii "decompress") = decompress
  generalize jsonRequest.get (ascii "non-blocking") = nonBlocking
  cases connectTimeout <;> cases decompress <;> cases nonBlocking <;> rfl

theorem parseOptions_error (basket : RequestBasket) (jsonRequest : JsonValue) :
    (parseOptions basket jsonRequest).error = basket.error := by
  rw [parseOptions_spec]

theorem parseOptions_request (basket : RequestBasket) (jsonRequest : JsonValue) :
    (parseOptions basket jsonRequest).request = basket.request ∧
      SameSource basket (parseOptions basket jsonRequest) := by
  rw [parseOptions_spec]
  exact ⟨rfl, rfl, rfl, rfl, rfl⟩

theorem parseProxy_request {basket after : RequestBasket} {jsonRequest : JsonValue}
    (h : parseProxy basket jsonRequest = some after) :
    after.request = basket.request ∧ SameSource basket after := by
  unfold parseProxy at h
  split at h
  · cases h
    exact ⟨rfl, SameSource.refl _⟩
  · simp only [Option.bind_eq_bind, Option.bind_eq_some_iff] at h
    obtain ⟨scheme, -, host, -, port, -, h⟩ := h
    split at h
    · cases h
      exact ⟨rfl, rfl, rfl, rfl, rfl⟩
    · obtain ⟨authorization, -, h⟩ := Option.bind_eq_some_iff.mp h
      cases h
      exact ⟨rfl, rfl, rfl, rfl, rfl⟩

/-- The steps of a build that ends without an error. -/
structure BuildSteps (lib : BasketLib) (jsonRequest : JsonValue) (basket : RequestBasket)
    (parsed named headed paid : RequestBasket) : Prop where
  url : parseUrlField initBasket jsonRequest = some parsed
  urlOk : parsed.error = none
  method : parseMethod parsed jsonRequest = some named
  methodOk : named.error = none
  sessionOk : (parseSession named jsonRequest).error = none
  headers : parseHeaders lib (parseSession named jsonRequest) jsonRequest = some headed
  headersOk : headed.error = none
  payload : parsePayload lib headed jsonRequest = some paid
  payloadOk : paid.error = none
  proxy : parseProxy (parseOptions paid jsonRequest) jsonRequest = some basket

theorem buildBasket_steps {lib : BasketLib} {jsonRequest : JsonValue} {basket : RequestBasket}
    (h : buildBasket lib (some jsonRequest) = some basket) (hok : basket.error = none) :
    ∃ parsed named headed paid, BuildSteps lib jsonRequest basket parsed named headed paid := by
  simp only [buildBasket, buildBasketOf, Option.bind_eq_bind, Option.bind_eq_some_iff] at h
  obtain ⟨parsed, hurl, named, hmethod, session, hsession, headed, hheaders, paid, hpayload,
    hproxy⟩ := h
  obtain ⟨hpaid, hproxy⟩ := unlessError_ok hproxy hok
  rw [parseOptions_error] at hpaid
  obtain ⟨hheaded, hpayload⟩ := unlessError_ok hpayload hpaid
  obtain ⟨hsessionOk, hheaders⟩ := unlessError_ok hheaders hheaded
  obtain ⟨hnamed, hsession⟩ := unlessError_ok hsession hsessionOk
  obtain ⟨hparsed, hmethod⟩ := unlessError_ok hmethod hnamed
  cases hsession
  exact ⟨parsed, named, headed, paid, hurl, hparsed, hmethod, hnamed, hsessionOk, hheaders,
    hheaded, hpayload, hpaid, hproxy⟩

theorem resolveFingerprint_limit {jsonRequest : JsonValue} {ua : Bytes}
    {fingerprint : BrowserFingerprint}
    (h : resolveFingerprint jsonRequest ua = some fingerprint) :
    fingerprint.headerValueMaxLength = 4096 := by
  unfold resolveFingerprint at h
  split at h
  · exact getBrowserFingerprintById_limit h
  · cases h
    exact getBrowserFingerprint_limit _

/-- What `parseHeaders` has put into a basket without an error. -/
structure Headed (lib : BasketLib) (jsonHeaders : JsonHeaders) (basket : RequestBasket) : Prop where
  reordered : reorderHeadersByOrderKey (buildHeaders lib basket jsonHeaders).headers =
    (none, basket.request.headers)
  limit : basket.headerValueMaxLength = 4096

theorem parseHeaders_ok {lib : BasketLib} {basket after : RequestBasket} {jsonRequest : JsonValue}
    (h : parseHeaders lib basket jsonRequest = some after) (hok : after.error = none) :
    ∃ headers, jsonRequest.get (ascii "headers") = some headers ∧
      Headed lib (headerMembers headers) after ∧
      after.request.containsContentLength = (headerMembers headers).any fun entry =>
        strcasecmp (ascii "content-length") entry.1 = 0 := by
  unfold parseHeaders at h
  split at h
  · cases h
    cases hok
  · rename_i headers hheaders
    refine ⟨headers, hheaders, ?_⟩
    dsimp only at h
    split at h
    · cases h
      cases hok
    · split at h
      · cases h
        cases hok
      · rename_i fingerprint hfingerprint
        rw [Option.some.injEq] at h
        have hafter : (reorderHeadersByOrderKey (buildHeaders lib { basket with
              fingerprint := some fingerprint
              clientHelloId := fingerprint.clientHelloId } (headerMembers headers)).headers) =
            (none, after.request.headers) := by
          rw [← h] at hok ⊢
          exact Prod.ext hok rfl
        have hsource : SameSource { basket with
            fingerprint := some fingerprint
            clientHelloId := fingerprint.clientHelloId } after := by
          rw [← h]
          exact ⟨rfl, rfl, rfl, rfl⟩
        refine ⟨⟨by rw [hsource.headers]; exact hafter, ?_⟩, ?_⟩
        · rw [RequestBasket.headerValueMaxLength, hsource.fingerprint]
          exact resolveFingerprint_limit hfingerprint
        · rw [← h]
          dsimp only
          rw [buildHeaders]
          split <;> rfl
    · cases h

/-- What `parsePayload` has put into a basket without an error. -/
structure Paid (lib : BasketLib) (jsonRequest : JsonValue) (jsonHeaders : JsonHeaders)
    (containsContentLength : Bool) (payload : Option Bytes) : Prop where
  text : payload = (jsonRequest.get (ascii "payload")).bind (payloadText lib)
  contained : payload.isSome = true → containsContentLength = true
  verified : ∀ text ∈ payload, ∀ expectedLen,
    jsonHeaderGet jsonHeaders (ascii "content-length") = some (.string expectedLen) →
      strtol expectedLen 10 = text.length

theorem parsePayload_ok {lib : BasketLib} {basket after : RequestBasket} {jsonRequest headers :
    JsonValue} (hheaders : jsonRequest.get (ascii "headers") = some headers)
    (h : parsePayload lib basket jsonRequest = some after) (hok : after.error = none) :
    after.request.headers = basket.request.headers ∧ SameSource basket after ∧
      Paid lib jsonRequest (headerMembers headers) basket.request.containsContentLength
        after.request.payload := by
  unfold parsePayload at h
  split at h
  · rename_i hnone
    cases h
    exact ⟨rfl, ⟨rfl, rfl, rfl, rfl⟩, by rw [hnone]; rfl, fun hsome => by simp at hsome,
      fun text htext => by cases htext⟩
  · rename_i jsonPayload hpayload
    obtain ⟨payload, htext, h⟩ := Option.bind_eq_some_iff.mp h
    dsimp only at h
    split at h
    · cases h
      cases hok
    · rename_i hcontained
      have hlength : basket.request.containsContentLength = true := by simpa using hcontained
      have hbound : some payload = (jsonRequest.get (ascii "payload")).bind (payloadText lib) := by
        rw [hpayload, Option.bind_some, htext]
      rw [hheaders, Option.map_some, Option.getD_some] at h
      split at h
      · rename_i expectedLen hexpected
        split at h
        · cases h
          cases hok
        · rename_i hmatch
          cases h
          refine ⟨rfl, ⟨rfl, rfl, rfl, rfl⟩, hbound, fun _ => hlength, ?_⟩
          rintro text htext' expectedLen' hexpected'
          cases htext'
          rw [hexpected] at hexpected'
          cases hexpected'
          rw [not_or, not_not] at hmatch
          exact hmatch.2
      · rename_i hother
        cases h
        refine ⟨rfl, ⟨rfl, rfl, rfl, rfl⟩, hbound, fun _ => hlength, ?_⟩
        intro text _ expectedLen hexpected
        exact absurd hexpected (hother expectedLen)

/-- The headers of a basket without an error are those that its own fields and
the JSON make, in the order that was asked for; its payload was verified. -/
theorem buildBasket_ok {lib : BasketLib} {jsonRequest : JsonValue} {basket : RequestBasket}
    (h : buildBasket lib (some jsonRequest) = some basket) (hok : basket.error = none) :
    ∃ headers, jsonRequest.get (ascii "headers") = some headers ∧
      Headed lib (headerMembers headers) basket ∧
      Paid lib jsonRequest (headerMembers headers)
        ((headerMembers headers).any fun entry => strcasecmp (ascii "content-length") entry.1 = 0)
        basket.request.payload := by
  obtain ⟨parsed, named, headed, paid, hsteps⟩ := buildBasket_steps h hok
  obtain ⟨headers, hheaders, ⟨hreordered, hlimit⟩, hcontains⟩ :=
    parseHeaders_ok hsteps.headers hsteps.headersOk
  obtain ⟨hsame, hsource, hpaid⟩ := parsePayload_ok hheaders hsteps.payload hsteps.payloadOk
  obtain ⟨hoptions, hoptionsSource⟩ := parseOptions_request paid jsonRequest
  obtain ⟨hproxy, hproxySource⟩ := parseProxy_request hsteps.proxy
  have hrequest : basket.request = paid.request := hproxy.trans hoptions
  have hall : SameSource headed basket := (hsource.trans hoptionsSource).trans hproxySource
  refine ⟨headers, hheaders, ⟨?_, ?_⟩, ?_⟩
  · rw [hall.headers, hrequest, hsame]
    exact hreordered
  · rw [RequestBasket.headerValueMaxLength, hall.fingerprint]
    exact hlimit
  · rw [hrequest, ← hcontains]
    exact hpaid

end HttpRequestClient
