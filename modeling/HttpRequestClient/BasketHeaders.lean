import HttpRequestClient.Hpack.Encoder
import HttpRequestClient.Lib.Parts
import Mathlib.Data.List.DropRight

/-!
# The headers of a request

What `Basket.c` and `UrlParser.c` put into a basket for a request that goes
out over HTTP/1.1: `buildHttp11Headers` takes the `headers` object of the
request JSON, and `getHeaderAuthority` writes the host of the URL.

The names and the values are those of the JSON.  A cookie header is taken
apart, and a value that is longer than the browser's limit is cut; no other
byte of a value is looked at.

Left out: the fields of the URL that nothing here reads, and allocations that
fail.
-/

namespace HttpRequestClient

open Hpack Parts

/-! ## The URL -/

structure URLComponents where
  host : Bytes
  port : Bytes
  path : Bytes
  deriving Repr, DecidableEq

/-- The bytes that a URL may have. -/
def isValidUrlChar (c : UInt8) : Bool :=
  isdigit c ∨ (65 ≤ c ∧ c ≤ 90) ∨ (97 ≤ c ∧ c ≤ 122) ∨ c ∈ ascii "-_.~!*'();:@&=+$,/?#[]%"

/-- `inet_pton` of the C library: whether a text is an address of the family. -/
structure AddressLib where
  inet_pton4 : Bytes → Bool
  inet_pton6 : Bytes → Bool

/-- The host, with the port when it is an address.  The room is that of a
host, a colon and a port, and so not of brackets. -/
def getHeaderAuthority (lib : AddressLib) (host port : Bytes) : Bytes :=
  let hostLen := host.length
  let portLen := if port.length > 0 then port.length + 1 else 0
  let totalLen := hostLen + portLen + 1
  if lib.inet_pton4 host then snprintf totalLen (host ++ ascii ":" ++ port)
  else if lib.inet_pton6 host then snprintf totalLen (ascii "[" ++ host ++ ascii "]:" ++ port)
  else host

/-! ## Values of the request JSON -/

/-- A value of the `headers` object.  A real is given by the text that the
encoder of jansson makes of it, and `other` is null, an array or an object. -/
inductive JsonHeaderValue where
  | string (text : Bytes)
  | integer (n : Int)
  | real (encoded : Bytes)
  | boolean (b : Bool)
  | other
  deriving Repr, DecidableEq

/-- The `headers` object in its order. -/
abbrev JsonHeaders := List (Bytes × JsonHeaderValue)

/-- The size of the buffer for numbers. -/
def SCALAR_BUFFER_SIZE : Nat := 64

def headerValueToString : JsonHeaderValue → Option Bytes
  | .string text => some text
  | .integer n => some (snprintf SCALAR_BUFFER_SIZE (ascii (toString n)))
  | .real encoded => some (snprintf SCALAR_BUFFER_SIZE encoded)
  | .boolean b => some (if b then ascii "true" else ascii "false")
  | .other => none

def jsonHeaderGet (jsonHeaders : JsonHeaders) (name : Bytes) : Option JsonHeaderValue :=
  (jsonHeaders.find? fun entry => strcasecmp entry.1 name = 0).map Prod.snd

/-! ## Cookies -/

/-- A value in chunks.  Every round takes a byte, so `value.length` rounds
are enough. -/
def cookieChunks (headerValueMaxLength : Nat) : Nat → Bytes → List Bytes
  | 0, _ => []
  | fuel + 1, value =>
    if value = [] then []
    else value.take headerValueMaxLength ::
      cookieChunks headerValueMaxLength fuel (value.drop headerValueMaxLength)

/-- The headers of one item.  An item without an equals sign has none. -/
def cookieHeaders (headerValueMaxLength : Nat) (token : Bytes) : List RequestHeader :=
  let trimmed := (token.dropWhile (· = 32)).rdropWhile (· = 32)
  match cut 61 trimmed with
  | none => []
  | some (name, value) =>
    let parts := if value.length ≤ headerValueMaxLength then [value]
      else cookieChunks headerValueMaxLength value.length value
    parts.map fun part => ⟨ascii "cookie", name ++ 61 :: part, false⟩

/-- The headers that the function appends. -/
def processCookies (cookie : Bytes) (headerValueMaxLength : Nat) : List RequestHeader :=
  (cookie.splitOn 59).flatMap (cookieHeaders headerValueMaxLength)

/-! ## Requests -/

structure Request where
  payload : Option Bytes
  containsContentLength : Bool
  urlComponents : URLComponents
  headers : List RequestHeader
  deriving Repr, DecidableEq

/-- The headers that one member of the object makes.  `pseudoAuthority` says
whether the object has an `:authority`, which supplies the `Host` header. -/
def http11Headers (headerValueMaxLength : Nat) (pseudoAuthority : Bool)
    (entry : Bytes × JsonHeaderValue) : List RequestHeader :=
  let key := entry.1
  if strcasecmp (ascii ":method") key = 0 ∨ strcasecmp (ascii ":scheme") key = 0
      ∨ strcasecmp (ascii ":path") key = 0 then []
  else
    match headerValueToString entry.2 with
    | none => []
    | some value =>
      if strcasecmp (ascii ":authority") key = 0 then [⟨key, value, true⟩]
      else if strcasecmp (ascii "host") key = 0 ∧ pseudoAuthority then []
      else if strcasecmp (ascii "cookie") key = 0 then processCookies value headerValueMaxLength
      else [⟨key, value, false⟩]

def buildHttp11Headers (headerValueMaxLength : Nat) (request : Request)
    (jsonHeaders : JsonHeaders) : Request :=
  let pseudoAuthority := jsonHeaderGet jsonHeaders (ascii ":authority")
  { request with
    containsContentLength :=
      jsonHeaders.any fun entry => strcasecmp (ascii "content-length") entry.1 = 0
    headers := jsonHeaders.flatMap (http11Headers headerValueMaxLength pseudoAuthority.isSome) }

end HttpRequestClient
