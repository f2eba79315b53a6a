import HttpRequestClient.BuiltHeaders

/-!
# The options of a request and their echo

`parseOptions` and `parseProxy` put the options of the request JSON into the
basket, and `basketToString` writes them into the answer.

* `options_echoed_iff`: the requests whose answer has the options as they were
  given, or the defaults of `initBasket`.
-/

namespace HttpRequestClient

open Utf8

/-! ## What was given, and what is echoed -/

/-- An integer of the request, none for a value of another type. -/
def givenInteger (jsonRequest : JsonValue) (key : Bytes) (default : Int) : Option Int :=
  match jsonRequest.get key with
  | none => some default
  | some (.integer n) => some n.toInt
  | some _ => none

def givenText (json : JsonValue) (key default : Bytes) : Option Bytes :=
  match json.get key with
  | none => some default
  | some (.string text) => some text.bytes
  | some _ => none

/-- A text of the proxy of the request. -/
def givenProxyText (jsonRequest : JsonValue) (key default : Bytes) : Option Bytes :=
  match jsonRequest.get (ascii "proxy") with
  | none => some default
  | some jsonProxy => givenText jsonProxy key default

def echoedInteger (answer : Json) (key : Bytes) : Option Int :=
  match answer.member key with
  | some (.integer n) => some n
  | _ => none

/-- An answer without a proxy stands for an empty one. -/
def echoedProxyText (answer : Json) (key : Bytes) : Option Bytes :=
  match answer.member (ascii "proxy") with
  | none => some []
  | some proxy => (proxy.member key).bind Json.text

/-- The answer has the proxy of the request. -/
structure ProxyEchoed (jsonRequest : JsonValue) (answer : Json) : Prop where
  scheme : echoedProxyText answer (ascii "scheme") =
    givenProxyText jsonRequest (ascii "scheme") initBasket.proxy.scheme
  host : echoedProxyText answer (ascii "host") =
    givenProxyText jsonRequest (ascii "host") initBasket.proxy.host
  port : echoedProxyText answer (ascii "port") =
    givenProxyText jsonRequest (ascii "port") initBasket.proxy.port
  authorization : echoedProxyText answer (ascii "authorization") =
    givenProxyText jsonRequest (ascii "authorization") initBasket.proxy.authorization

/-- The answer has all options of the request. -/
structure Echoed (jsonRequest : JsonValue) (answer : Json) : Prop where
  connectTimeout : echoedInteger answer (ascii "connectTimeoutInMilliseconds") =
    givenInteger jsonRequest (ascii "connectTimeoutInMilliseconds")
      initBasket.connectTimeoutInMilliseconds
  responseReadingTimeout : echoedInteger answer (ascii "responseReadingTimeoutInMilliseconds") =
    givenInteger jsonRequest (ascii "responseReadingTimeoutInMilliseconds")
      initBasket.responseReadingTimeoutInMilliseconds
  decompress : echoedInteger answer (ascii "decompress") =
    givenInteger jsonRequest (ascii "decompress") initBasket.decompress
  nonBlocking : echoedInteger answer (ascii "non-blocking") =
    givenInteger jsonRequest (ascii "non-blocking") (if initBasket.nonBlocking then 1 else 0)
  proxy : ProxyEchoed jsonRequest answer

/-- The basket when its request has been sent.  The options are still those of
the request; what else the answer is made of is that of `rest`. -/
def RequestBasket.answered (basket : RequestBasket) (rest : AnswerBasket) : AnswerBasket :=
  { rest with
    connectTimeoutInMilliseconds := basket.connectTimeoutInMilliseconds
    responseReadingTimeoutInMilliseconds := basket.responseReadingTimeoutInMilliseconds
    decompress := basket.decompress
    nonBlocking := basket.nonBlocking
    proxy := { basket.proxy with response := rest.proxy.response } }

/-! ## What has to be given -/

/-- An integer that an `int` holds. -/
def IsInt (value : JsonValue) : Prop :=
  ∃ n : Int64, value = .integer n ∧ -2147483648 ≤ n.toInt ∧ n.toInt < 2147483648

/-- A text of the proxy, empty when it was not given. -/
def memberText (json : JsonValue) (key : Bytes) : Bytes := (json_string_value (json.get key)).getD []

/-- The texts fit their arrays, and an empty host is that of an empty proxy. -/
structure ProxyKept (jsonProxy : JsonValue) : Prop where
  scheme : (memberText jsonProxy (ascii "scheme")).length < PROXY_SCHEME_SIZE
  host : (memberText jsonProxy (ascii "host")).length < PROXY_HOST_SIZE
  port : (memberText jsonProxy (ascii "port")).length < PROXY_PORT_SIZE
  authorization : (memberText jsonProxy (ascii "authorization")).length < PROXY_AUTHORIZATION_SIZE
  named : memberText jsonProxy (ascii "host") = [] →
    memberText jsonProxy (ascii "scheme") = [] ∧ memberText jsonProxy (ascii "port") = [] ∧
      memberText jsonProxy (ascii "authorization") = []

/-- The timeout for reading goes with the one for connecting. -/
structure OptionsKept (jsonRequest : JsonValue) : Prop where
  connectTimeout : ∀ value ∈ jsonRequest.get (ascii "connectTimeoutInMilliseconds"), IsInt value
  together : (jsonRequest.get (ascii "connectTimeoutInMilliseconds")).isSome = true →
    ∃ value ∈ jsonRequest.get (ascii "responseReadingTimeoutInMilliseconds"), IsInt value
  alone : jsonRequest.get (ascii "connectTimeoutInMilliseconds") = none →
    ∀ value ∈ jsonRequest.get (ascii "responseReadingTimeoutInMilliseconds"),
      value = .integer 20000
  decompress : ∀ value ∈ jsonRequest.get (ascii "decompress"), IsInt value
  nonBlocking : ∀ value ∈ jsonRequest.get (ascii "non-blocking"),
    value = .integer 0 ∨ value = .integer 1
  proxy : ∀ jsonProxy ∈ jsonRequest.get (ascii "proxy"), ProxyKept jsonProxy

/-! ## The answer -/

section Answer

variable {lib : Jansson}

/-- The members before the proxy, and the proxy. -/
theorem basketToString_member (hlib : lib.Documented) (basket : AnswerBasket) :
    echoedInteger (basketToString lib basket).1 (ascii "connectTimeoutInMilliseconds") =
        some basket.connectTimeoutInMilliseconds ∧
      echoedInteger (basketToString lib basket).1 (ascii "responseReadingTimeoutInMilliseconds") =
        some basket.responseReadingTimeoutInMilliseconds ∧
      echoedInteger (basketToString lib basket).1 (ascii "decompress") = some basket.decompress ∧
      echoedInteger (basketToString lib basket).1 (ascii "non-blocking") =
        some (if basket.nonBlocking then 1 else 0) ∧
      (basketToString lib basket).1.member (ascii "proxy") =
        if basket.proxy.host = [] then none else some (proxyMember lib basket).1 := by
  simp only [echoedInteger, basketToString]
  by_cases hhost : basket.proxy.host = []
  · rw [if_neg (by simp [hhost]), if_pos hhost]
    simp (disch := decide) only [Json.member, json_object_get_set_ne, json_object_get_set hlib]
    exact ⟨trivial, trivial, trivial, trivial, rfl⟩
  · rw [if_pos (List.length_pos_iff.mpr hhost), if_neg hhost]
    simp (disch := decide) only [Json.member, json_object_get_set_ne, json_object_get_set hlib,
      and_self]

/-- The texts of the proxy, as far as they are UTF-8. -/
theorem proxyMember_text (hlib : lib.Documented) (basket : AnswerBasket) :
    ((proxyMember lib basket).1.member (ascii "scheme")).bind Json.text =
        lib.json_string basket.proxy.scheme ∧
      ((proxyMember lib basket).1.member (ascii "host")).bind Json.text =
        lib.json_string basket.proxy.host ∧
      ((proxyMember lib basket).1.member (ascii "port")).bind Json.text =
        lib.json_string basket.proxy.port ∧
      ((proxyMember lib basket).1.member (ascii "authorization")).bind Json.text =
        lib.json_string basket.proxy.authorization := by
  have hset (fields : List (Bytes × Json)) {key : Bytes} (hkey : PlainText key) (buf : Bytes)
      (hnone : json_object_get fields key = none) :
      (json_object_get (json_object_set_new lib fields key (jsonString lib buf)) key).bind
        Json.text = lib.json_string buf := by
    cases htext : lib.json_string buf with
    | none => simp [jsonString, htext, json_object_set_new, hnone]
    | some text => simp [jsonString, htext, json_object_get_set hlib hkey, Json.text]
  have hnil (key : Bytes) : json_object_get [] key = none := rfl
  rw [proxyMember]
  split
  all_goals
    simp (disch := decide) only [Json.member, json_object_get_set_ne]
    refine ⟨hset _ (by decide) _ (hnil _), hset _ (by decide) _ ?_, hset _ (by decide) _ ?_,
      hset _ (by decide) _ ?_⟩
    all_goals simp (disch := decide) only [json_object_get_set_ne, hnil]

/-- A text of a request is echoed when it was not cut. -/
theorem json_string_take_iff (hlib : lib.Documented) (text : JsonText) {size : Nat}
    (hsize : 0 < size) :
    lib.json_string (text.bytes.take (size - 1)) = some text.bytes ↔ text.bytes.length < size := by
  constructor
  · intro h
    rw [hlib] at h
    split at h
    · have hlength := congrArg List.length (Option.some.inj h)
      have hle := cstr_length_le (text.bytes.take (size - 1))
      rw [hlength, List.length_take] at hle
      omega
    · cases h
  · intro h
    rw [List.take_of_length_le (by omega), hlib, cstr_eq_self text.terminated, if_pos text.utf8]

end Answer

/-! ## The basket -/

/-- The fields that hold the options. -/
def RequestBasket.options (basket : RequestBasket) : Int × Int × Int × Bool × BasketProxy :=
  (basket.connectTimeoutInMilliseconds, basket.responseReadingTimeoutInMilliseconds,
    basket.decompress, basket.nonBlocking, basket.proxy)

theorem parseUrlField_options {basket after : RequestBasket} {jsonRequest : JsonValue}
    (h : parseUrlField basket jsonRequest = some after) : after.options = basket.options := by
  obtain ⟨url, -, h⟩ := Option.bind_eq_some_iff.mp h
  split at h <;> cases h <;> rfl

theorem parseMethod_options {basket after : RequestBasket} {jsonRequest : JsonValue}
    (h : parseMethod basket jsonRequest = some after) : after.options = basket.options := by
  unfold parseMethod at h
  split at h
  · cases h
    rfl
  · obtain ⟨text, -, h⟩ := Option.bind_eq_some_iff.mp h
    split at h <;> cases h <;> rfl

theorem parseSession_options (basket : RequestBasket) (jsonRequest : JsonValue) :
    (parseSession basket jsonRequest).options = basket.options := by
  unfold parseSession
  split
  · rfl
  · rename_i jsonSession hsession
    cases jsonSession.get (ascii "protocol") with
    | none => cases jsonSession.get (ascii "expirationInMilliseconds") <;> rfl
    | some protocol =>
      dsimp only
      cases (json_string_value (some protocol)).bind forcesHttp11 <;>
        cases jsonSession.get (ascii "expirationInMilliseconds") <;> rfl

theorem parseHeaders_options {lib : BasketLib} {basket after : RequestBasket}
    {jsonRequest : JsonValue} (h : parseHeaders lib basket jsonRequest = some after) :
    after.options = basket.options := by
  unfold parseHeaders at h
  split at h
  · cases h
    rfl
  · dsimp only at h
    split at h
    · cases h
      rfl
    · split at h <;> cases h <;> rfl
    · cases h

theorem parsePayload_options {lib : BasketLib} {basket after : RequestBasket}
    {jsonRequest : JsonValue} (h : parsePayload lib basket jsonRequest = some after) :
    after.options = basket.options := by
  unfold parsePayload at h
  split at h
  · cases h
    rfl
  · obtain ⟨payload, -, h⟩ := Option.bind_eq_some_iff.mp h
    dsimp only at h
    split at h
    · cases h
      rfl
    · split at h
      · split at h <;> cases h <;> rfl
      · cases h
        rfl

/-- An array of the basket holds a text that was given, or is empty for a member
that is absent. -/
def IsCopy (json : JsonValue) (key : Bytes) (size : Nat) (copied : Bytes) (text : JsonText) : Prop :=
  (json.get key = some (.string text) ∨ json.get key = none ∧ text.bytes = []) ∧
    copied = text.bytes.take (size - 1)

/-- The proxy of a basket, text by text. -/
structure HasProxy (jsonProxy : JsonValue) (proxy : BasketProxy) : Prop where
  scheme : ∃ text, IsCopy jsonProxy (ascii "scheme") PROXY_SCHEME_SIZE proxy.scheme text
  host : ∃ text, IsCopy jsonProxy (ascii "host") PROXY_HOST_SIZE proxy.host text
  port : ∃ text, IsCopy jsonProxy (ascii "port") PROXY_PORT_SIZE proxy.port text
  authorization : ∃ text,
    IsCopy jsonProxy (ascii "authorization") PROXY_AUTHORIZATION_SIZE proxy.authorization text

theorem copyMember_isCopy {json : JsonValue} {key copied : Bytes} {size : Nat}
    (h : copyMember json key size = some copied) : ∃ text, IsCopy json key size copied text := by
  obtain ⟨bytes, hvalue, rfl⟩ := Option.map_eq_some_iff.mp h
  unfold json_string_value at hvalue
  split at hvalue
  · rename_i text htext
    cases hvalue
    exact ⟨text, Or.inl htext, rfl⟩
  · cases hvalue

theorem IsCopy.memberText {json : JsonValue} {key copied : Bytes} {size : Nat} {text : JsonText}
    (h : IsCopy json key size copied text) :
    memberText json key = text.bytes ∧ givenText json key [] = some text.bytes := by
  obtain ⟨hget | ⟨hget, hnil⟩, -⟩ := h
  · simp [HttpRequestClient.memberText, givenText, hget, json_string_value]
  · simp [HttpRequestClient.memberText, givenText, hget, json_string_value, hnil]

/-- The proxy is that of the request, or stays. -/
theorem parseProxy_spec {basket after : RequestBasket} {jsonRequest : JsonValue}
    (h : parseProxy basket jsonRequest = some after) (hnone : basket.proxy.authorization = []) :
    after = { basket with proxy := after.proxy } ∧
      (jsonRequest.get (ascii "proxy") = none → after.proxy = basket.proxy) ∧
      ∀ jsonProxy ∈ jsonRequest.get (ascii "proxy"), HasProxy jsonProxy after.proxy := by
  unfold parseProxy at h
  split at h
  · rename_i habsent
    cases h
    exact ⟨rfl, fun _ => rfl, fun jsonProxy hproxy => by rw [habsent] at hproxy; cases hproxy⟩
  · rename_i jsonProxy hproxy
    simp only [Option.bind_eq_bind, Option.bind_eq_some_iff] at h
    obtain ⟨scheme, hscheme, host, hhost, port, hport, h⟩ := h
    have hsome : jsonRequest.get (ascii "proxy") ≠ none := by simp [hproxy]
    have hpresent (jsonProxy' : JsonValue) (h' : jsonProxy' ∈ jsonRequest.get (ascii "proxy")) :
        jsonProxy = jsonProxy' := by
      rw [hproxy] at h'
      exact Option.some.inj h'
    split at h
    · rename_i habsent
      cases h
      refine ⟨rfl, fun hget => absurd hget hsome, fun jsonProxy' h' => ?_⟩
      rw [← hpresent jsonProxy' h']
      exact ⟨copyMember_isCopy hscheme, copyMember_isCopy hhost, copyMember_isCopy hport,
        .plain [] (by decide), Or.inr ⟨habsent, rfl⟩, hnone⟩
    · obtain ⟨authorization, hauthorization, h⟩ := Option.bind_eq_some_iff.mp h
      cases h
      refine ⟨rfl, fun hget => absurd hget hsome, fun jsonProxy' h' => ?_⟩
      rw [← hpresent jsonProxy' h']
      exact ⟨copyMember_isCopy hscheme, copyMember_isCopy hhost, copyMember_isCopy hport,
        copyMember_isCopy hauthorization⟩

/-- The options of a basket without an error. -/
theorem buildBasket_options {lib : BasketLib} {jsonRequest : JsonValue} {basket : RequestBasket}
    (h : buildBasket lib (some jsonRequest) = some basket) (hok : basket.error = none) :
    basket.options = { (parseOptions initBasket jsonRequest) with
        proxy := basket.proxy : RequestBasket }.options ∧
      (jsonRequest.get (ascii "proxy") = none → basket.proxy = initBasket.proxy) ∧
      ∀ jsonProxy ∈ jsonRequest.get (ascii "proxy"), HasProxy jsonProxy basket.proxy := by
  obtain ⟨parsed, named, headed, paid, hsteps⟩ := buildBasket_steps h hok
  have hpaid : paid.options = initBasket.options := by
    rw [parsePayload_options hsteps.payload, parseHeaders_options hsteps.headers,
      parseSession_options, parseMethod_options hsteps.method, parseUrlField_options hsteps.url]
  simp only [RequestBasket.options, Prod.mk.injEq] at hpaid
  obtain ⟨hconnect, hreading, hdecompress, hnonBlocking, hproxy⟩ := hpaid
  have hparsed : (parseOptions paid jsonRequest).proxy = initBasket.proxy := by
    rw [parseOptions_spec]
    exact hproxy
  have hnone : (parseOptions paid jsonRequest).proxy.authorization = [] := by
    rw [hparsed]
    rfl
  obtain ⟨hbasket, habsent, hpresent⟩ := parseProxy_spec hsteps.proxy hnone
  refine ⟨?_, fun hget => (habsent hget).trans hparsed, hpresent⟩
  rw [hbasket]
  simp only [RequestBasket.options, parseOptions_spec, hconnect, hreading, hdecompress]

/-! ## Option by option -/

theorem toInt_eq_self_iff {n : Int} : toInt n = n ↔ -2147483648 ≤ n ∧ n < 2147483648 := by
  rw [toInt, Int.bmod_eq_emod]
  split <;> omega

theorem isInt_integer_iff {n : Int64} :
    IsInt (.integer n) ↔ -2147483648 ≤ n.toInt ∧ n.toInt < 2147483648 := by
  constructor
  · rintro ⟨n', heq, hrange⟩
    cases heq
    exact hrange
  · exact fun hrange => ⟨n, rfl, hrange⟩

/-- An integer that is stored in an `int` whatever it is. -/
theorem integer_kept_iff {jsonRequest : JsonValue} {key : Bytes} {value : JsonValue} {default : Int}
    (hget : jsonRequest.get key = some value) :
    some (toInt (json_integer_value (some value))) = givenInteger jsonRequest key default ↔
      IsInt value := by
  rw [givenInteger, hget]
  cases value with
  | integer n => simp only [json_integer_value, Option.some.injEq, toInt_eq_self_iff,
      isInt_integer_iff]
  | _ => simp [IsInt]

theorem option_kept_iff (jsonRequest : JsonValue) (key : Bytes) (default : Int) :
    some (if (jsonRequest.get key).isSome then toInt (json_integer_value (jsonRequest.get key))
        else default) = givenInteger jsonRequest key default ↔
      ∀ value ∈ jsonRequest.get key, IsInt value := by
  cases hget : jsonRequest.get key with
  | none => simp [givenInteger, hget]
  | some value =>
    rw [Option.isSome_some, if_pos rfl, integer_kept_iff hget]
    simp

theorem eq_integer_iff {n m : Int64} : n.toInt = m.toInt ↔ (JsonValue.integer n) = .integer m := by
  rw [Int64.toInt_inj, JsonValue.integer.injEq]

theorem readingTimeout_kept_iff (jsonRequest : JsonValue) (connect : Option JsonValue)
    (key : Bytes) :
    some (if connect.isSome then toInt (json_integer_value (jsonRequest.get key)) else 20000) =
        givenInteger jsonRequest key 20000 ↔
      (connect.isSome = true → ∃ value ∈ jsonRequest.get key, IsInt value) ∧
        (connect = none → ∀ value ∈ jsonRequest.get key, value = .integer 20000) := by
  have hdefault : (20000 : Int) = (20000 : Int64).toInt := by decide
  cases connect with
  | some _ =>
    cases hget : jsonRequest.get key with
    | none => simp [givenInteger, hget, json_integer_value, toInt]
    | some value =>
      rw [Option.isSome_some, if_pos rfl, integer_kept_iff hget]
      simp
  | none =>
    cases hget : jsonRequest.get key with
    | none => simp [givenInteger, hget]
    | some value =>
      cases value with
      | integer n =>
        simp only [givenInteger, hget, Option.isSome_none, Bool.false_eq_true, if_false,
          Option.some.injEq, false_implies, true_and, forall_const, Option.mem_def, forall_eq',
          ← eq_integer_iff, ← hdefault]
        exact eq_comm
      | _ => simp [givenInteger, hget]

theorem nonBlocking_kept_iff (jsonRequest : JsonValue) (key : Bytes) :
    some (if (if (jsonRequest.get key).isSome then
          decide (json_integer_value (jsonRequest.get key) ≠ 0) else true) then (1 : Int) else 0) =
        givenInteger jsonRequest key 1 ↔
      ∀ value ∈ jsonRequest.get key, value = .integer 0 ∨ value = .integer 1 := by
  have hzero : (0 : Int) = (0 : Int64).toInt := by decide
  have hone : (1 : Int) = (1 : Int64).toInt := by decide
  cases hget : jsonRequest.get key with
  | none => simp [givenInteger, hget]
  | some value =>
    cases value with
    | integer n =>
      simp only [givenInteger, hget, Option.isSome_some, if_true, json_integer_value,
        Option.some.injEq, Option.mem_def, forall_eq', ← eq_integer_iff, ← hzero, ← hone]
      by_cases hn : n.toInt = 0
      · simp [hn]
      · simp only [ne_eq, hn, not_false_eq_true, decide_true, if_true, false_or]
        exact eq_comm
    | _ => simp [givenInteger, hget]

/-! ## The proxy -/

section Proxy

variable {lib : Jansson} {json : JsonValue} {key copied : Bytes} {size : Nat} {text : JsonText}

theorem IsCopy.kept_iff (h : IsCopy json key size copied text) (hlib : lib.Documented)
    (hsize : 0 < size) :
    lib.json_string copied = givenText json key [] ↔
      (HttpRequestClient.memberText json key).length < size := by
  rw [h.memberText.1, h.memberText.2, h.2]
  exact json_string_take_iff hlib text hsize

theorem IsCopy.eq_nil_iff (h : IsCopy json key size copied text) (hsize : 1 < size) :
    copied = [] ↔ HttpRequestClient.memberText json key = [] := by
  rw [h.memberText.1, h.2, List.take_eq_nil_iff]
  exact or_iff_right (by omega)

end Proxy

/-- A text of the proxy as it is echoed. -/
def echoedCopy (jansson : Jansson) (basket : RequestBasket) (copied : Bytes) : Option Bytes :=
  if basket.proxy.host = [] then some [] else jansson.json_string copied

theorem echoedProxyText_answered {jansson : Jansson} (hlib : jansson.Documented)
    (basket : RequestBasket) (rest : AnswerBasket) {answer : Json}
    (hanswer : answer = (basketToString jansson (basket.answered rest)).1) :
    echoedProxyText answer (ascii "scheme") = echoedCopy jansson basket basket.proxy.scheme ∧
      echoedProxyText answer (ascii "host") = echoedCopy jansson basket basket.proxy.host ∧
      echoedProxyText answer (ascii "port") = echoedCopy jansson basket basket.proxy.port ∧
      echoedProxyText answer (ascii "authorization") =
        echoedCopy jansson basket basket.proxy.authorization := by
  obtain ⟨-, -, -, -, hproxy⟩ := basketToString_member hlib (basket.answered rest)
  obtain ⟨hscheme, hhost, hport, hauthorization⟩ := proxyMember_text hlib (basket.answered rest)
  have hsame : (basket.answered rest).proxy.host = basket.proxy.host := rfl
  simp only [echoedProxyText, hanswer, hproxy, hsame, echoedCopy]
  by_cases hnil : basket.proxy.host = []
  · simp only [if_pos hnil, and_self]
  · simp only [if_neg hnil]
    exact ⟨hscheme, hhost, hport, hauthorization⟩

theorem proxyEchoed_iff {jsonRequest : JsonValue} {answer : Json} :
    ProxyEchoed jsonRequest answer ↔
      echoedProxyText answer (ascii "scheme") =
          givenProxyText jsonRequest (ascii "scheme") initBasket.proxy.scheme ∧
        echoedProxyText answer (ascii "host") =
          givenProxyText jsonRequest (ascii "host") initBasket.proxy.host ∧
        echoedProxyText answer (ascii "port") =
          givenProxyText jsonRequest (ascii "port") initBasket.proxy.port ∧
        echoedProxyText answer (ascii "authorization") =
          givenProxyText jsonRequest (ascii "authorization") initBasket.proxy.authorization := by
  constructor
  · exact fun h => ⟨h.scheme, h.host, h.port, h.authorization⟩
  · rintro ⟨hscheme, hhost, hport, hauthorization⟩
    exact ⟨hscheme, hhost, hport, hauthorization⟩

/-- The proxy of a request is echoed. -/
theorem proxy_kept_iff {jansson : Jansson} (hlib : jansson.Documented) {basket : RequestBasket}
    (rest : AnswerBasket) {jsonRequest jsonProxy : JsonValue}
    (hget : jsonRequest.get (ascii "proxy") = some jsonProxy)
    (hproxy : HasProxy jsonProxy basket.proxy) :
    ProxyEchoed jsonRequest (basketToString jansson (basket.answered rest)).1 ↔
      ProxyKept jsonProxy := by
  obtain ⟨⟨scheme, hscheme⟩, ⟨host, hhost⟩, ⟨port, hport⟩, ⟨authorization, hauthorization⟩⟩ := hproxy
  obtain ⟨hschemeText, hhostText, hportText, hauthorizationText⟩ :=
    echoedProxyText_answered hlib basket rest rfl
  have hdefault : initBasket.proxy = ⟨[], [], [], [], []⟩ := rfl
  have hnamed := hhost.eq_nil_iff (by decide)
  rw [proxyEchoed_iff, hschemeText, hhostText, hportText, hauthorizationText]
  simp only [givenProxyText, hget, echoedCopy, hdefault]
  by_cases hnil : basket.proxy.host = []
  · -- nothing is echoed, so there must be nothing
    have hempty (key : Bytes) {text : JsonText} {copied : Bytes} {size : Nat}
        (h : IsCopy jsonProxy key size copied text) :
        some [] = givenText jsonProxy key [] ↔ memberText jsonProxy key = [] := by
      rw [h.memberText.1, h.memberText.2, Option.some.injEq, eq_comm]
    simp only [if_pos hnil, hempty _ hscheme, hempty _ hhost, hempty _ hport,
      hempty _ hauthorization]
    constructor
    · rintro ⟨hscheme', hhost', hport', hauthorization'⟩
      refine ⟨?_, ?_, ?_, ?_, fun _ => ⟨hscheme', hport', hauthorization'⟩⟩
      · rw [hscheme']
        decide
      · rw [hhost']
        decide
      · rw [hport']
        decide
      · rw [hauthorization']
        decide
    · rintro ⟨-, -, -, -, hothers⟩
      obtain ⟨hscheme', hport', hauthorization'⟩ := hothers (hnamed.mp hnil)
      exact ⟨hscheme', hnamed.mp hnil, hport', hauthorization'⟩
  · simp only [if_neg hnil, hscheme.kept_iff hlib (by decide), hhost.kept_iff hlib (by decide),
      hport.kept_iff hlib (by decide), hauthorization.kept_iff hlib (by decide)]
    constructor
    · rintro ⟨hscheme', hhost', hport', hauthorization'⟩
      exact ⟨hscheme', hhost', hport', hauthorization', fun h => absurd (hnamed.mpr h) hnil⟩
    · rintro ⟨hscheme', hhost', hport', hauthorization', -⟩
      exact ⟨hscheme', hhost', hport', hauthorization'⟩

/-- The answer has all options as they were given exactly when the numbers fit,
`non-blocking` is zero or one, the timeout for reading comes with one for
connecting, and the proxy fits its arrays. -/
theorem options_echoed_iff {lib : BasketLib} {jansson : Jansson} (hlib : jansson.Documented)
    {jsonRequest : JsonValue} {basket : RequestBasket}
    (h : buildBasket lib (some jsonRequest) = some basket) (hok : basket.error = none)
    (rest : AnswerBasket) :
    Echoed jsonRequest (basketToString jansson (basket.answered rest)).1 ↔
      OptionsKept jsonRequest := by
  obtain ⟨hoptions, habsent, hpresent⟩ := buildBasket_options h hok
  obtain ⟨hconnect, hreading, hdecompress, hnonBlocking, -⟩ :=
    basketToString_member hlib (basket.answered rest)
  simp only [RequestBasket.options, parseOptions_spec, Prod.mk.injEq, and_true] at hoptions
  obtain ⟨hconnect', hreading', hdecompress', hnonBlocking'⟩ := hoptions
  have hconnectIff := option_kept_iff jsonRequest (ascii "connectTimeoutInMilliseconds")
    initBasket.connectTimeoutInMilliseconds
  have hreadingIff := readingTimeout_kept_iff jsonRequest
    (jsonRequest.get (ascii "connectTimeoutInMilliseconds"))
    (ascii "responseReadingTimeoutInMilliseconds")
  have hdecompressIff := option_kept_iff jsonRequest (ascii "decompress") initBasket.decompress
  have hnonBlockingIff := nonBlocking_kept_iff jsonRequest (ascii "non-blocking")
  have hproxyIff : ProxyEchoed jsonRequest (basketToString jansson (basket.answered rest)).1 ↔
      ∀ jsonProxy ∈ jsonRequest.get (ascii "proxy"), ProxyKept jsonProxy := by
    cases hget : jsonRequest.get (ascii "proxy") with
    | none =>
      obtain ⟨hscheme, hhost, hport, hauthorization⟩ :=
        echoedProxyText_answered hlib basket rest rfl
      have hproxy := habsent hget
      simp [proxyEchoed_iff, hscheme, hhost, hport, hauthorization, givenProxyText, hget,
        echoedCopy, hproxy, initBasket]
    | some jsonProxy =>
      rw [proxy_kept_iff hlib rest hget (hpresent jsonProxy hget)]
      simp
  rw [← hconnect'] at hconnectIff
  rw [show (20000 : Int) = initBasket.responseReadingTimeoutInMilliseconds from rfl,
    ← hreading'] at hreadingIff
  rw [← hdecompress'] at hdecompressIff
  rw [← hnonBlocking'] at hnonBlockingIff
  constructor
  · rintro ⟨hconnectTimeout, hreadingTimeout, hdecompressed, hblocking, hproxy⟩
    rw [hconnect] at hconnectTimeout
    rw [hreading] at hreadingTimeout
    rw [hdecompress] at hdecompressed
    rw [hnonBlocking] at hblocking
    obtain ⟨htogether, halone⟩ := hreadingIff.mp hreadingTimeout
    exact ⟨hconnectIff.mp hconnectTimeout, htogether, halone, hdecompressIff.mp hdecompressed,
      hnonBlockingIff.mp hblocking, hproxyIff.mp hproxy⟩
  · rintro ⟨hconnectTimeout, htogether, halone, hdecompressed, hblocking, hproxy⟩
    refine ⟨?_, ?_, ?_, ?_, hproxyIff.mpr hproxy⟩
    · rw [hconnect]
      exact hconnectIff.mpr hconnectTimeout
    · rw [hreading]
      exact hreadingIff.mpr ⟨htogether, halone⟩
    · rw [hdecompress]
      exact hdecompressIff.mpr hdecompressed
    · rw [hnonBlocking]
      exact hnonBlockingIff.mpr hblocking

/-- An answer without a response. -/
def emptyAnswer : AnswerBasket where
  url := none
  method := none
  connectTimeoutInMilliseconds := 0
  responseReadingTimeoutInMilliseconds := 0
  decompress := 0
  nonBlocking := true
  clientHelloId := []
  session := none
  streamId := 0
  proxy := ⟨[], [], [], [], []⟩
  requestHeaders := none
  requestPayload := none
  responseHeaders := none
  payload := none
  collecting := true
  error := none

/-- Both timeouts, and a proxy without credentials. -/
def patientRequest : JsonValue :=
  requestWith [] [
    (ascii "connectTimeoutInMilliseconds", .integer 3000),
    (ascii "responseReadingTimeoutInMilliseconds", .integer 30000),
    (ascii "proxy", .object [
      (ascii "scheme", .string (.plain (ascii "http") (by decide))),
      (ascii "host", .string (.plain (ascii "p.example") (by decide))),
      (ascii "port", .string (.plain (ascii "8080") (by decide)))])]

theorem options_echoed_patient : ∃ basket,
    buildBasket BasketLib.names (some patientRequest) = some basket ∧
      Echoed patientRequest (basketToString Jansson.manual (basket.answered emptyAnswer)).1 := by
  have hbuilt : (buildBasket BasketLib.names (some patientRequest)).map RequestBasket.error =
      some none := by
    decide +kernel
  obtain ⟨basket, hbasket, hok⟩ := Option.map_eq_some_iff.mp hbuilt
  have hconnect : patientRequest.get (ascii "connectTimeoutInMilliseconds") =
      some (.integer 3000) := rfl
  have hreading : patientRequest.get (ascii "responseReadingTimeoutInMilliseconds") =
      some (.integer 30000) := rfl
  have hdecompress : patientRequest.get (ascii "decompress") = none := rfl
  have hnonBlocking : patientRequest.get (ascii "non-blocking") = none := rfl
  refine ⟨basket, hbasket, (options_echoed_iff Jansson.manual_documented hbasket hok
    emptyAnswer).mpr ⟨?_, ?_, ?_, ?_, ?_, ?_⟩⟩
  · rw [hconnect]
    rintro _ ⟨⟩
    exact ⟨3000, rfl, by decide, by decide⟩
  · intro _
    exact ⟨_, hreading, 30000, rfl, by decide, by decide⟩
  · intro hnone
    rw [hconnect] at hnone
    cases hnone
  · simp [hdecompress]
  · simp [hnonBlocking]
  · intro jsonProxy hproxy
    cases hproxy
    exact ⟨by decide, by decide, by decide, by decide, fun hnil => absurd hnil (by decide)⟩

/-- Without a timeout for connecting the one for reading is not taken over. -/
theorem reading_timeout_lost : ∃ basket,
    buildBasket BasketLib.names (some (requestWith []
        [(ascii "responseReadingTimeoutInMilliseconds", .integer 30000)])) = some basket ∧
      basket.error = none ∧
      ¬Echoed (requestWith [] [(ascii "responseReadingTimeoutInMilliseconds", .integer 30000)])
        (basketToString Jansson.manual (basket.answered emptyAnswer)).1 := by
  have hbuilt : (buildBasket BasketLib.names (some (requestWith []
      [(ascii "responseReadingTimeoutInMilliseconds", .integer 30000)]))).map (fun basket =>
        (basket.error, echoedInteger (basketToString Jansson.manual
          (basket.answered emptyAnswer)).1 (ascii "responseReadingTimeoutInMilliseconds"))) =
      some (none, some 20000) := by
    decide +kernel
  have hgiven : givenInteger (requestWith []
      [(ascii "responseReadingTimeoutInMilliseconds", .integer 30000)])
      (ascii "responseReadingTimeoutInMilliseconds")
      initBasket.responseReadingTimeoutInMilliseconds = some 30000 := by
    decide +kernel
  obtain ⟨basket, hbasket, hfields⟩ := Option.map_eq_some_iff.mp hbuilt
  rw [Prod.mk.injEq] at hfields
  refine ⟨basket, hbasket, hfields.1, fun hechoed => ?_⟩
  have hsame := hechoed.responseReadingTimeout
  rw [hfields.2, hgiven] at hsame
  exact absurd hsame (by decide)

end HttpRequestClient
