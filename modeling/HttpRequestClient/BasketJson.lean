import HttpRequestClient.Lib.Text
import HttpRequestClient.Types

/-!
# The JSON of a basket

`basketToString` of `Basket.c` makes the answer of a request from its basket,
whatever the request came to.  The result is the JSON value that is dumped;
the text of the dump is left to jansson.

jansson is a parameter.  `Jansson.Documented` is what its manual says of
`json_string`: it takes the text up to the terminator, and is null for text
that is not UTF-8.  Setting a null value adds no key, and appending one adds
no item.

* `basketToString_errorCode` says which error the answer carries.
* `basketToString_payload` says what stands for the body.
-/

namespace HttpRequestClient

open Utf8

/-! ## JSON values -/

inductive Json where
  | string (text : Bytes)
  | integer (n : Int)
  | array (items : List Json)
  | object (fields : List (Bytes × Json))

/-- The text that `json_string` makes of a buffer, none for null. -/
structure Jansson where
  json_string : Bytes → Option Bytes

def Jansson.Documented (lib : Jansson) : Prop :=
  ∀ buf, lib.json_string buf = if utf8Valid (cstr buf) then some (cstr buf) else none

/-- A `json_string` as the manual has it. -/
def Jansson.manual : Jansson where
  json_string buf := if utf8Valid (cstr buf) then some (cstr buf) else none

theorem Jansson.manual_documented : Jansson.manual.Documented := fun _ => rfl

/-- ASCII without a terminator. -/
def PlainText (text : Bytes) : Prop := ∀ c ∈ text, c ≠ 0 ∧ c < 128

instance (text : Bytes) : Decidable (PlainText text) :=
  List.decidableBAll (fun c => c ≠ 0 ∧ c < 128) text

theorem Jansson.Documented.plain {lib : Jansson} (h : lib.Documented) {text : Bytes}
    (htext : PlainText text) : lib.json_string text = some text := by
  have hcstr : cstr text = text := cstr_eq_self fun hzero => (htext 0 hzero).1 rfl
  rw [h, hcstr, if_pos (utf8Valid_of_ascii fun c hc => (htext c hc).2)]

/-- A member of an object. -/
def json_object_get (fields : List (Bytes × Json)) (key : Bytes) : Option Json :=
  (fields.find? fun field => field.1 = key).map Prod.snd

/-- Exchange the member with the key, or add one at the end. -/
def setMember (key : Bytes) (value : Json) : List (Bytes × Json) → List (Bytes × Json)
  | [] => [(key, value)]
  | field :: fields =>
    if field.1 = key then (key, value) :: fields else field :: setMember key value fields

def Json.member (key : Bytes) : Json → Option Json
  | .object fields => json_object_get fields key
  | _ => none

def Json.text : Json → Option Bytes
  | .string text => some text
  | _ => none

/-- A string in quotes.  Control characters, quotes and backslashes are
escaped. -/
def dumpString (text : Bytes) : Bytes :=
  ascii "\"" ++ (text.flatMap fun c =>
    if c = 34 ∨ c = 92 then [92, c]
    else if c = 8 then ascii "\\b"
    else if c = 9 then ascii "\\t"
    else if c = 10 then ascii "\\n"
    else if c = 12 then ascii "\\f"
    else if c = 13 then ascii "\\r"
    else if c < 32 then
      ascii "\\u00" ++ [48 + c / 16, if c % 16 < 10 then 48 + c % 16 else 55 + c % 16]
    else [c]) ++ ascii "\""

mutual

/-- The text that `json_dumps` makes without flags for the layout. -/
def Json.dumps : Json → Bytes
  | .string text => dumpString text
  | .integer n => ascii (toString n)
  | .array items => ascii "[" ++ dumpItems items ++ ascii "]"
  | .object fields => ascii "\x7b" ++ dumpFields fields ++ ascii "\x7d"

def dumpItems : List Json → Bytes
  | [] => []
  | [item] => item.dumps
  | item :: items => item.dumps ++ ascii ", " ++ dumpItems items

def dumpFields : List (Bytes × Json) → Bytes
  | [] => []
  | [(key, value)] => dumpString key ++ ascii ": " ++ value.dumps
  | (key, value) :: fields =>
    dumpString key ++ ascii ": " ++ value.dumps ++ ascii ", " ++ dumpFields fields

end

section Jansson

variable (lib : Jansson)

def jsonString (buf : Bytes) : Option Json := (lib.json_string buf).map .string

/-- Nothing is set for a null value, or under a key that is not UTF-8. -/
def json_object_set_new (fields : List (Bytes × Json)) (key : Bytes) (value : Option Json) :
    List (Bytes × Json) :=
  match value with
  | none => fields
  | some value => if lib.json_string key = none then fields else setMember key value fields

def json_array_append_new (items : List Json) (value : Option Json) : List Json :=
  match value with
  | none => items
  | some value => items ++ [value]

variable {lib}

theorem json_object_get_setMember (key key' : Bytes) (value : Json)
    (fields : List (Bytes × Json)) :
    json_object_get (setMember key value fields) key' =
      if key = key' then some value else json_object_get fields key' := by
  induction fields with
  | nil =>
    by_cases hkey : key = key' <;> simp [setMember, json_object_get, hkey]
  | cons field fields ih =>
    rw [setMember]
    by_cases hfield : field.1 = key
    · by_cases hkey : key = key' <;> simp [json_object_get, hfield, hkey]
    · by_cases hkey' : field.1 = key'
      · have hne : key ≠ key' := fun heq => hfield (hkey'.trans heq.symm)
        rw [if_neg hfield, if_neg hne]
        simp [json_object_get, hkey']
      · simp only [if_neg hfield, json_object_get, List.find?_cons, hkey', decide_false] at ih ⊢
        exact ih

theorem json_object_get_set (hlib : lib.Documented) {key : Bytes} (hkey : PlainText key)
    (fields : List (Bytes × Json)) (value : Json) :
    json_object_get (json_object_set_new lib fields key (some value)) key = some value := by
  simp only [json_object_set_new, hlib.plain hkey, reduceCtorEq, if_false]
  rw [json_object_get_setMember, if_pos rfl]

/-- Setting a member leaves the other ones. -/
theorem json_object_get_set_ne {key key' : Bytes} (hne : key ≠ key')
    (fields : List (Bytes × Json)) (value : Option Json) :
    json_object_get (json_object_set_new lib fields key value) key' =
      json_object_get fields key' := by
  cases value with
  | none => rfl
  | some value =>
    rw [json_object_set_new]
    split
    · rfl
    · rw [json_object_get_setMember, if_neg hne]

end Jansson

/-! ## The basket -/

structure BasketSession where
  creationTime : Int
  expirationInMilliseconds : Int
  deriving Repr, DecidableEq

structure BasketProxy where
  scheme : Bytes
  host : Bytes
  port : Bytes
  authorization : Bytes
  response : Bytes
  deriving Repr, DecidableEq

/-- The fields of a basket that `basketToString` reads.  `collecting` says
that the sink has no contract of the caller. -/
structure AnswerBasket where
  url : Option Bytes
  method : Option Bytes
  connectTimeoutInMilliseconds : Int
  responseReadingTimeoutInMilliseconds : Int
  decompress : Int
  nonBlocking : Bool
  clientHelloId : Bytes
  session : Option BasketSession
  streamId : Nat
  proxy : BasketProxy
  requestHeaders : Option (List HeaderField)
  requestPayload : Option Bytes
  responseHeaders : Option (List ResponseHeader)
  payload : Option Bytes
  collecting : Bool
  error : Option Error
  deriving Repr, DecidableEq

def ERR_PROXY_EMPTY_RESPONSE : Error := ⟨"4-0012", "Proxy response is empty."⟩

/-! ## `basketToString` -/

section Answer

variable (lib : Jansson)

def sessionMember (basket : AnswerBasket) : Json :=
  let session := json_object_set_new lib [] (ascii "clientHelloId")
    (jsonString lib basket.clientHelloId)
  match basket.session with
  | none => .object session
  | some established =>
    let session := json_object_set_new lib session (ascii "creationTime")
      (some (.integer established.creationTime))
    let session := json_object_set_new lib session (ascii "streamId")
      (some (.integer basket.streamId))
    .object (json_object_set_new lib session (ascii "expirationInMilliseconds")
      (some (.integer established.expirationInMilliseconds)))

/-- The proxy and what its handshake answered.  The lack of an answer is
reported as an error of the basket. -/
def proxyMember (basket : AnswerBasket) : Json × AnswerBasket :=
  let proxy := json_object_set_new lib [] (ascii "scheme") (jsonString lib basket.proxy.scheme)
  let proxy := json_object_set_new lib proxy (ascii "host") (jsonString lib basket.proxy.host)
  let proxy := json_object_set_new lib proxy (ascii "port") (jsonString lib basket.proxy.port)
  let proxy := json_object_set_new lib proxy (ascii "authorization")
    (jsonString lib basket.proxy.authorization)
  if basket.proxy.response.length > 0 then
    (.object (json_object_set_new lib proxy (ascii "response")
      (jsonString lib basket.proxy.response)), basket)
  else (.object proxy, { basket with error := some ERR_PROXY_EMPTY_RESPONSE })

def requestMember (basket : AnswerBasket) : Json :=
  let headers := (basket.requestHeaders.getD []).foldl (fun headers header =>
    json_array_append_new headers (jsonString lib (header.name ++ ascii ": " ++ header.value))) []
  let request := json_object_set_new lib [] (ascii "headers") (some (.array headers))
  match basket.requestPayload with
  | none => .object request
  | some payload =>
    .object (json_object_set_new lib request (ascii "payload") (jsonString lib payload))

/-- Cookies are listed one by one, and other headers of one name are joined. -/
def responseHeaderMember (fields : List (Bytes × Json)) (header : ResponseHeader) :
    List (Bytes × Json) :=
  if strcasecmp header.name (ascii "set-cookie") = 0 then
    let cookies := match json_object_get fields (ascii "set-cookie") with
      | some (.array cookies) => cookies
      | _ => []
    json_object_set_new lib fields (ascii "set-cookie")
      (some (.array (json_array_append_new cookies (jsonString lib header.value))))
  else
    match json_object_get fields header.name with
    | some (.string old) =>
      json_object_set_new lib fields header.name (jsonString lib (old ++ ascii ", " ++ header.value))
    | _ => json_object_set_new lib fields header.name (jsonString lib header.value)

def isContractStreamed (basket : AnswerBasket) : Bool := !basket.collecting

def responseMember (basket : AnswerBasket) : Json :=
  let headers := (basket.responseHeaders.getD []).foldl (responseHeaderMember lib) []
  let response := json_object_set_new lib [] (ascii "headers") (some (.object headers))
  let response := json_object_set_new lib response (ascii "streamed")
    (some (.integer (if isContractStreamed basket then 1 else 0)))
  .object (json_object_set_new lib response (ascii "payload")
    (jsonString lib (basket.payload.getD [])))

def errorMember (basket : AnswerBasket) : Json :=
  match basket.error with
  | none => .object []
  | some e =>
    let error := json_object_set_new lib [] (ascii "code") (jsonString lib (ascii e.code))
    .object (json_object_set_new lib error (ascii "message") (jsonString lib (ascii e.msg)))

/-- The answer, and the basket with the error that it reports. -/
def basketToString (basket : AnswerBasket) : Json × AnswerBasket :=
  let root := json_object_set_new lib [] (ascii "url") (basket.url.bind (jsonString lib))
  let root := json_object_set_new lib root (ascii "method") (basket.method.bind (jsonString lib))
  let root := json_object_set_new lib root (ascii "connectTimeoutInMilliseconds")
    (some (.integer basket.connectTimeoutInMilliseconds))
  let root := json_object_set_new lib root (ascii "responseReadingTimeoutInMilliseconds")
    (some (.integer basket.responseReadingTimeoutInMilliseconds))
  let root := json_object_set_new lib root (ascii "decompress")
    (some (.integer basket.decompress))
  let root := json_object_set_new lib root (ascii "non-blocking")
    (some (.integer (if basket.nonBlocking then 1 else 0)))
  let root := json_object_set_new lib root (ascii "session") (some (sessionMember lib basket))
  let (root, basket) :=
    if basket.proxy.host.length > 0 then
      let (proxy, basket) := proxyMember lib basket
      (json_object_set_new lib root (ascii "proxy") (some proxy), basket)
    else (root, basket)
  let root := json_object_set_new lib root (ascii "request") (some (requestMember lib basket))
  let root := json_object_set_new lib root (ascii "response") (some (responseMember lib basket))
  (.object (json_object_set_new lib root (ascii "error") (some (errorMember lib basket))), basket)

end Answer

/-! ## What the answer carries -/

/-- `error.code` of an answer. -/
def answeredErrorCode (answer : Json) : Option Bytes := do
  let error ← answer.member (ascii "error")
  let code ← error.member (ascii "code")
  code.text

/-- `response.payload` of an answer. -/
def answeredPayload (answer : Json) : Option Bytes := do
  let response ← answer.member (ascii "response")
  let payload ← response.member (ascii "payload")
  payload.text

/-- A proxy is configured and has answered nothing. -/
def ProxySilent (basket : AnswerBasket) : Prop :=
  basket.proxy.host ≠ [] ∧ basket.proxy.response = []

instance (basket : AnswerBasket) : Decidable (ProxySilent basket) :=
  inferInstanceAs (Decidable (_ ∧ _))

section Carried

variable {lib : Jansson}

/-- Only the error of the basket changes. -/
theorem basketToString_basket (lib : Jansson) (basket : AnswerBasket) :
    (basketToString lib basket).2 =
      if ProxySilent basket then { basket with error := some ERR_PROXY_EMPTY_RESPONSE }
      else basket := by
  unfold basketToString proxyMember ProxySilent
  dsimp only
  by_cases hhost : basket.proxy.host = []
  · simp [hhost]
  · by_cases hresponse : basket.proxy.response = []
    · simp [hhost, hresponse, List.length_pos_iff]
    · simp [hhost, hresponse, List.length_pos_iff]

/-- The answer carries the error that the basket has behind it. -/
theorem basketToString_errorCode (hlib : lib.Documented) (basket : AnswerBasket) :
    answeredErrorCode (basketToString lib basket).1 =
      (basketToString lib basket).2.error.bind fun e => lib.json_string (ascii e.code) := by
  have hmember : (basketToString lib basket).1.member (ascii "error") =
      some (errorMember lib (basketToString lib basket).2) :=
    json_object_get_set hlib (by decide) _ _
  rw [answeredErrorCode, hmember]
  cases herror : (basketToString lib basket).2.error with
  | none => simp [errorMember, herror, Json.member, json_object_get]
  | some e =>
    have hne : ascii "message" ≠ ascii "code" := by decide
    simp only [errorMember, herror, Json.member, Option.bind_eq_bind, Option.bind_some,
      json_object_get_set_ne hne]
    cases hcode : lib.json_string (ascii e.code) with
    | none => simp [jsonString, hcode, json_object_set_new, json_object_get]
    | some text =>
      simp [jsonString, hcode, json_object_get_set hlib (show PlainText (ascii "code") by decide),
        Json.text]

/-- The payload of the basket stands for the body. -/
theorem basketToString_payload (hlib : lib.Documented) (basket : AnswerBasket) :
    answeredPayload (basketToString lib basket).1 = lib.json_string (basket.payload.getD []) := by
  have hsame : (basketToString lib basket).2.payload = basket.payload := by
    rw [basketToString_basket]
    split <;> rfl
  have hmember : (basketToString lib basket).1.member (ascii "response") =
      some (responseMember lib (basketToString lib basket).2) := by
    have hne : ascii "error" ≠ ascii "response" := by decide
    refine (json_object_get_set_ne hne _ _).trans ?_
    exact json_object_get_set hlib (by decide) _ _
  rw [answeredPayload, hmember, ← hsame]
  simp only [responseMember, Json.member, Option.bind_eq_bind, Option.bind_some]
  cases htext : lib.json_string ((basketToString lib basket).2.payload.getD []) with
  | none =>
    have hheaders : ascii "headers" ≠ ascii "payload" := by decide
    have hstreamed : ascii "streamed" ≠ ascii "payload" := by decide
    simp only [jsonString, htext, Option.map_none, json_object_set_new.eq_1]
    rw [json_object_get_set_ne hstreamed, json_object_get_set_ne hheaders]
    rfl
  | some text =>
    simp only [jsonString, htext, Option.map_some]
    rw [json_object_get_set hlib (by decide)]
    rfl

end Carried

end HttpRequestClient
