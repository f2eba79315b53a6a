import HttpRequestClient.BasketHeaders
import HttpRequestClient.Rfc9112

/-!
# The bytes of a request

`buildHttp11Request` of `Http11RequestHandler.c`: the request line, the
header lines in the order of the basket, the merged cookies, the credentials
of a plain proxy, and the payload.

`sentRequest` is the message that a basket asks for.  The function writes its
lines one after the other and looks at no byte of them, so a line end in a
name or a value ends the line on the wire.

* `buildHttp11Request_wire`: the bytes are those of the message.
* `buildHttp11Request_parse_iff`: a server reads the message back exactly when
  its parts are plain.
* `unambiguous_iff_of_validUrl`: the URL never stands in the way, so the names
  and values of the fields decide.
* `buildHttp11Request_splits`: a value adds a header line.
-/

namespace HttpRequestClient.Http11

open Hpack Parts Rfc9112

/-- The part of a basket and of its session that a request is made of. -/
structure Http11Basket where
  method : Method
  request : Request
  proxyAuthorization : Bytes
  plainProxy : Bool
  deriving Repr, DecidableEq

/-! ## Building a request -/

/-- The sizes of the two buffers on the stack. -/
def TARGET_SIZE : Nat := 4352
def REQUEST_LINE_SIZE : Nat := 4608

/-- The length that is appended is that of the whole line. -/
def appendRequestLine (sb : Bytes) (basket : Http11Basket) (target : Bytes) : Bytes :=
  let line := basket.method.name ++ ascii " " ++ target ++ ascii " HTTP/1.1\r\n"
  sb ++ (snprintf REQUEST_LINE_SIZE line).take line.length

/-- What the loop over the headers carries. -/
structure HeaderBuffers where
  sb : Bytes
  cookies : Bytes
  hostEmitted : Bool

/-- One round of `appendHeaders`. -/
def appendHeader (buffers : HeaderBuffers) (h : RequestHeader) : HeaderBuffers :=
  if h.isPseudo then
    let isAuthority := strcasecmp h.name (ascii ":authority") = 0
    if isAuthority ∧ ¬buffers.hostEmitted then
      { buffers with
        sb := buffers.sb ++ ascii "Host: " ++ h.value ++ ascii "\r\n"
        hostEmitted := true }
    else buffers
  else if strcasecmp h.name (ascii "cookie") = 0 then
    let cookies := if buffers.cookies.length > 0 then buffers.cookies ++ ascii "; "
      else buffers.cookies
    { buffers with cookies := cookies ++ h.value }
  else
    { buffers with
      sb := buffers.sb ++ h.name ++ ascii ": " ++ h.value ++ ascii "\r\n"
      hostEmitted := buffers.hostEmitted || strcasecmp h.name (ascii "host") = 0 }

def appendHeaders (sb : Bytes) (headers : List RequestHeader) : HeaderBuffers :=
  headers.foldl appendHeader ⟨sb, [], false⟩

def appendHostFallback (lib : AddressLib) (sb : Bytes) (url : URLComponents) : Bytes :=
  sb ++ ascii "Host: " ++ getHeaderAuthority lib url.host url.port ++ ascii "\r\n"

def appendCookieHeader (sb cookies : Bytes) : Bytes :=
  if cookies.length = 0 then sb else sb ++ ascii "Cookie: " ++ cookies ++ ascii "\r\n"

def appendProxyAuthorization (sb : Bytes) (basket : Http11Basket) : Bytes :=
  let hasCredentials := basket.proxyAuthorization.length > 0
  if ¬basket.plainProxy ∨ ¬hasCredentials then sb
  else sb ++ ascii "Proxy-Authorization: " ++ basket.proxyAuthorization ++ ascii "\r\n"

/-- The request target before it is cut to its buffer: absolute through a
plain proxy, else the path. -/
def Http11Basket.target (basket : Http11Basket) : Bytes :=
  let url := basket.request.urlComponents
  if basket.plainProxy then ascii "http://" ++ url.host ++ ascii ":" ++ url.port ++ url.path
  else url.path

def buildHttp11Request (lib : AddressLib) (basket : Http11Basket) : Bytes :=
  let target := snprintf TARGET_SIZE basket.target
  let sb := appendRequestLine [] basket target
  let buffers := appendHeaders sb basket.request.headers
  let sb := if buffers.hostEmitted then buffers.sb
    else appendHostFallback lib buffers.sb basket.request.urlComponents
  let sb := appendCookieHeader sb buffers.cookies
  let sb := appendProxyAuthorization sb basket
  let sb := sb ++ ascii "\r\n"
  match basket.request.payload with
  | some payload => sb ++ payload
  | none => sb

/-! ## The message that a basket asks for -/

def isAuthority (h : RequestHeader) : Bool := h.isPseudo && strcasecmp h.name (ascii ":authority") = 0

def isCookie (h : RequestHeader) : Bool := !h.isPseudo && strcasecmp h.name (ascii "cookie") = 0

def isHost (h : RequestHeader) : Bool := !h.isPseudo && strcasecmp h.name (ascii "host") = 0

/-- The headers in order, `:authority` as `Host` unless there is one already.
Cookies and the other pseudo headers are not among them. -/
def namedFields (hasHost : Bool) : List RequestHeader → List HeaderField
  | [] => []
  | h :: headers =>
    if isAuthority h && !hasHost then ⟨ascii "Host", h.value⟩ :: namedFields true headers
    else if h.isPseudo || isCookie h then namedFields hasHost headers
    else ⟨h.name, h.value⟩ :: namedFields (hasHost || isHost h) headers

def hasHostField (headers : List RequestHeader) : Bool :=
  headers.any fun h => isAuthority h || isHost h

/-- The cookies between semicolons, from the first that is not empty. -/
def mergedCookies (headers : List RequestHeader) : Bytes :=
  (ascii "; ").intercalate
    (((headers.filter isCookie).map RequestHeader.value).dropWhile fun value => value = [])

/-- All fields of the message. -/
def sentFields (lib : AddressLib) (basket : Http11Basket) : List HeaderField :=
  let url := basket.request.urlComponents
  let headers := basket.request.headers
  namedFields false headers ++
    (if hasHostField headers then []
      else [⟨ascii "Host", getHeaderAuthority lib url.host url.port⟩]) ++
    (if mergedCookies headers = [] then [] else [⟨ascii "Cookie", mergedCookies headers⟩]) ++
    (if basket.plainProxy ∧ basket.proxyAuthorization ≠ [] then
      [⟨ascii "Proxy-Authorization", basket.proxyAuthorization⟩]
    else [])

def sentRequest (lib : AddressLib) (basket : Http11Basket) : RequestMessage where
  method := basket.method.name
  target := basket.target
  fields := sentFields lib basket
  body := basket.request.payload.getD []

/-- What the builder needs of its input: a target that fits its buffer and has
no space and no line end, and fields that are plain. -/
structure Unambiguous (lib : AddressLib) (basket : Http11Basket) : Prop where
  room : basket.target.length < TARGET_SIZE
  target : PlainWord basket.target
  fields : ∀ field ∈ sentFields lib basket, PlainField field

/-! ## The bytes of the message -/

theorem length_name_le (method : Method) : method.name.length ≤ 6 := by
  cases method <;> decide

/-- Appending a name, a separator, a value and a line end appends a line. -/
theorem append_fieldLine (sb name value : Bytes) :
    sb ++ name ++ ascii ": " ++ value ++ ascii "\r\n" =
      sb ++ line (fieldLine ⟨name, value⟩) := by
  have hseparator : ascii ": " = [58, 32] := by decide
  have hend : ascii "\r\n" = [13, 10] := by decide
  rw [hseparator, hend]
  simp [line, fieldLine]

theorem fieldsWire_singleton (field : HeaderField) :
    fieldsWire [field] = line (fieldLine field) := by
  simp [fieldsWire]

theorem fieldsWire_append (first second : List HeaderField) :
    fieldsWire (first ++ second) = fieldsWire first ++ fieldsWire second := by
  simp [fieldsWire]

/-- A target in its buffer leaves room for the whole line. -/
theorem appendRequestLine_line (basket : Http11Basket) {target : Bytes}
    (h : target.length < TARGET_SIZE) :
    appendRequestLine [] basket target = line (requestLine basket.method.name target) := by
  have hname := length_name_le basket.method
  have hend : ascii " HTTP/1.1\r\n" = 32 :: (version ++ [13, 10]) := by decide
  have hspace : ascii " " = [32] := by decide
  have hline : basket.method.name ++ ascii " " ++ target ++ ascii " HTTP/1.1\r\n" =
      line (requestLine basket.method.name target) := by
    rw [hend, hspace]
    simp [line, requestLine]
  have hversion : version.length = 8 := by decide
  have hlength : (line (requestLine basket.method.name target)).length < REQUEST_LINE_SIZE := by
    simp only [line, requestLine, List.length_append, List.length_cons, List.length_nil, hversion,
      TARGET_SIZE, REQUEST_LINE_SIZE] at h ⊢
    omega
  have hwhole : snprintf REQUEST_LINE_SIZE (line (requestLine basket.method.name target)) =
      line (requestLine basket.method.name target) := List.take_of_length_le (by omega)
  rw [appendRequestLine, hline]
  simp only [List.nil_append]
  rw [hwhole, List.take_length]

/-! ### The loop over the headers -/

/-- What the loop does with the value of a cookie. -/
def addCookie (cookies value : Bytes) : Bytes :=
  (if cookies.length > 0 then cookies ++ ascii "; " else cookies) ++ value

theorem tolower_eq_of_strcasecmp {a b : UInt8} {s t : Bytes}
    (h : strcasecmp (a :: s) (b :: t) = 0) : tolower a = tolower b := by
  rw [strcasecmp] at h
  split at h
  · assumption
  · exact UInt8.toNat_inj.mp (by omega)

/-- No name is both: the first bytes differ. -/
theorem isHost_of_isCookie {h : RequestHeader} (hcookie : isCookie h = true) : isHost h = false := by
  have hname : strcasecmp h.name (ascii "cookie") = 0 := by
    simp only [isCookie, Bool.and_eq_true, decide_eq_true_eq] at hcookie
    exact hcookie.2
  have hne : strcasecmp h.name (ascii "host") ≠ 0 := by
    intro hhost
    cases hcase : h.name with
    | nil => rw [hcase] at hname; exact absurd hname (by decide)
    | cons c name =>
      rw [hcase] at hname hhost
      have hc := tolower_eq_of_strcasecmp (b := 99) hname
      have hh := tolower_eq_of_strcasecmp (b := 104) hhost
      exact absurd (hc.symm.trans hh) (by decide)
  simp [isHost, hne]

theorem appendHeader_spec (buffers : HeaderBuffers) (h : RequestHeader) :
    appendHeader buffers h =
      ⟨buffers.sb ++ fieldsWire (namedFields buffers.hostEmitted [h]),
        if isCookie h then addCookie buffers.cookies h.value else buffers.cookies,
        buffers.hostEmitted || (isAuthority h || isHost h)⟩ := by
  obtain ⟨sb, cookies, hostEmitted⟩ := buffers
  have hHost : ascii "Host: " = ascii "Host" ++ ascii ": " := by decide
  cases hpseudo : h.isPseudo with
  | true =>
    by_cases hauthority : strcasecmp h.name (ascii ":authority") = 0
    · cases hostEmitted <;>
        simp [appendHeader, namedFields, isAuthority, isCookie, isHost, hpseudo, hauthority,
          fieldsWire, ← append_fieldLine, hHost]
    · simp [appendHeader, namedFields, isAuthority, isCookie, isHost, hpseudo, hauthority,
        fieldsWire]
  | false =>
    by_cases hcookie : strcasecmp h.name (ascii "cookie") = 0
    · have hhost : isHost h = false :=
        isHost_of_isCookie (by simp [isCookie, hpseudo, hcookie])
      simp [appendHeader, namedFields, isAuthority, isCookie, hhost, hpseudo, hcookie,
        fieldsWire, addCookie]
    · simp [appendHeader, namedFields, isAuthority, isCookie, isHost, hpseudo, hcookie,
        fieldsWire, ← append_fieldLine]

theorem namedFields_cons (hasHost : Bool) (h : RequestHeader) (headers : List RequestHeader) :
    namedFields hasHost (h :: headers) =
      namedFields hasHost [h] ++ namedFields (hasHost || (isAuthority h || isHost h)) headers := by
  cases hpseudo : h.isPseudo with
  | true =>
    cases hauthority : isAuthority h <;> cases hasHost <;>
      simp [namedFields, hauthority, hpseudo, isHost]
  | false =>
    have hauthority : isAuthority h = false := by simp [isAuthority, hpseudo]
    cases hcookie : isCookie h with
    | true => simp [namedFields, hauthority, hpseudo, hcookie, isHost_of_isCookie hcookie]
    | false => simp [namedFields, hauthority, hpseudo, hcookie]

/-- The whole loop. -/
theorem foldl_appendHeader (headers : List RequestHeader) (buffers : HeaderBuffers) :
    headers.foldl appendHeader buffers =
      ⟨buffers.sb ++ fieldsWire (namedFields buffers.hostEmitted headers),
        ((headers.filter isCookie).map RequestHeader.value).foldl addCookie buffers.cookies,
        buffers.hostEmitted || hasHostField headers⟩ := by
  induction headers generalizing buffers with
  | nil => simp [namedFields, fieldsWire, hasHostField]
  | cons h headers ih =>
    rw [List.foldl_cons, ih, appendHeader_spec]
    simp only [HeaderBuffers.mk.injEq]
    refine ⟨?_, ?_, ?_⟩
    · rw [List.append_assoc, ← fieldsWire_append, ← namedFields_cons]
    · cases hcookie : isCookie h <;> simp [hcookie]
    · simp only [hasHostField, List.any_cons, Bool.or_assoc]

/-! ### Cookies -/

theorem foldl_addCookie {cookies : Bytes} (h : cookies ≠ []) (values : List Bytes) :
    values.foldl addCookie cookies = (ascii "; ").intercalate (cookies :: values) := by
  induction values generalizing cookies with
  | nil => simp [List.intercalate]
  | cons value values ih =>
    have hpos : cookies.length > 0 := List.length_pos_iff.mpr h
    have hadd : addCookie cookies value = cookies ++ ascii "; " ++ value := by
      rw [addCookie, if_pos hpos]
    have hne : addCookie cookies value ≠ [] := by simp [hadd, h]
    rw [List.foldl_cons, ih hne, hadd]
    cases values <;> simp [List.intercalate]

/-- Empty values are passed over until there is one that is not. -/
theorem foldl_addCookie_nil (values : List Bytes) :
    values.foldl addCookie [] =
      (ascii "; ").intercalate (values.dropWhile fun value => value = []) := by
  induction values with
  | nil => rfl
  | cons value values ih =>
    have hfirst : addCookie [] value = value := by simp [addCookie]
    rw [List.foldl_cons, hfirst]
    by_cases hvalue : value = []
    · rw [hvalue, ih, List.dropWhile_cons_of_pos (by simp)]
    · rw [foldl_addCookie hvalue, List.dropWhile_cons_of_neg (by simpa using hvalue)]

theorem appendHeaders_spec (sb : Bytes) (headers : List RequestHeader) :
    appendHeaders sb headers =
      ⟨sb ++ fieldsWire (namedFields false headers), mergedCookies headers,
        hasHostField headers⟩ := by
  rw [appendHeaders, foldl_appendHeader, foldl_addCookie_nil, Bool.false_or, mergedCookies]

/-! ### The whole request -/

theorem appendCookieHeader_line (sb cookies : Bytes) :
    appendCookieHeader sb cookies =
      sb ++ fieldsWire (if cookies = [] then [] else [⟨ascii "Cookie", cookies⟩]) := by
  have hname : ascii "Cookie: " = ascii "Cookie" ++ ascii ": " := by decide
  by_cases hnil : cookies = []
  · simp [appendCookieHeader, hnil, fieldsWire]
  · have hlength : cookies.length ≠ 0 := fun h => hnil (List.length_eq_zero_iff.mp h)
    rw [appendCookieHeader, if_neg hlength, if_neg hnil, fieldsWire_singleton, hname,
      ← List.append_assoc, append_fieldLine]

theorem appendHostFallback_line (lib : AddressLib) (sb : Bytes) (url : URLComponents) :
    appendHostFallback lib sb url =
      sb ++ fieldsWire [⟨ascii "Host", getHeaderAuthority lib url.host url.port⟩] := by
  have hname : ascii "Host: " = ascii "Host" ++ ascii ": " := by decide
  rw [appendHostFallback, fieldsWire_singleton, hname, ← List.append_assoc, append_fieldLine]

theorem appendProxyAuthorization_line (sb : Bytes) (basket : Http11Basket) :
    appendProxyAuthorization sb basket =
      sb ++ fieldsWire (if basket.plainProxy ∧ basket.proxyAuthorization ≠ [] then
        [⟨ascii "Proxy-Authorization", basket.proxyAuthorization⟩] else []) := by
  have hname : ascii "Proxy-Authorization: " = ascii "Proxy-Authorization" ++ ascii ": " := by
    decide
  by_cases hnone : ¬basket.plainProxy = true ∨ ¬basket.proxyAuthorization.length > 0
  · have hno : ¬(basket.plainProxy = true ∧ basket.proxyAuthorization ≠ []) := by
      rintro ⟨hproxy, hne⟩
      rcases hnone with h | h
      · exact h hproxy
      · exact h (List.length_pos_iff.mpr hne)
    rw [appendProxyAuthorization, if_pos hnone, if_neg hno]
    simp [fieldsWire]
  · have hyes : basket.plainProxy = true ∧ basket.proxyAuthorization ≠ [] := by
      rw [not_or, not_not, not_not] at hnone
      exact ⟨hnone.1, List.length_pos_iff.mp hnone.2⟩
    rw [appendProxyAuthorization, if_neg hnone, if_pos hyes, fieldsWire_singleton, hname,
      ← List.append_assoc, append_fieldLine]

/-- The bytes are those of the message, with the target cut to its buffer. -/
theorem buildHttp11Request_wire (lib : AddressLib) (basket : Http11Basket) :
    buildHttp11Request lib basket =
      { sentRequest lib basket with target := snprintf TARGET_SIZE basket.target }.wire := by
  have htarget : (snprintf TARGET_SIZE basket.target).length < TARGET_SIZE := by
    simp only [snprintf, List.length_take, TARGET_SIZE]
    omega
  have hend : ascii "\r\n" = line [] := by decide
  have hhost (sb : Bytes) : (if hasHostField basket.request.headers then sb
      else appendHostFallback lib sb basket.request.urlComponents) =
      sb ++ fieldsWire (if hasHostField basket.request.headers then []
        else [⟨ascii "Host", getHeaderAuthority lib basket.request.urlComponents.host
          basket.request.urlComponents.port⟩]) := by
    cases hasHostField basket.request.headers with
    | true => simp [fieldsWire]
    | false => exact appendHostFallback_line lib sb _
  rw [buildHttp11Request]
  simp only [appendRequestLine_line basket htarget, appendHeaders_spec, hhost,
    appendCookieHeader_line, appendProxyAuthorization_line, hend]
  rw [RequestMessage.wire]
  simp only [sentRequest, sentFields, fieldsWire_append, List.append_assoc]
  cases basket.request.payload <;> simp

/-! ## What a server reads -/

/-- A server reads the message back exactly when its target fits and is one
word, and no name and no value can be taken for anything else. -/
theorem buildHttp11Request_parse_iff (lib : AddressLib) (basket : Http11Basket) :
    parseRequest (buildHttp11Request lib basket) = some (sentRequest lib basket) ↔
      Unambiguous lib basket := by
  have hmethod : PlainWord basket.method.name := by
    cases basket.method <;> decide
  rw [buildHttp11Request_wire]
  constructor
  · intro h
    obtain ⟨-, htarget, hfields⟩ := parseRequest_plain h
    refine ⟨?_, htarget, hfields⟩
    -- what is left of a plain target is plain, so it is read as it stands
    have hsplit : basket.target = snprintf TARGET_SIZE basket.target ++
        basket.target.drop (TARGET_SIZE - 1) := (List.take_append_drop _ _).symm
    have hline : OneLine basket.target := htarget.oneLine
    rw [hsplit] at hline
    have hword : PlainWord (snprintf TARGET_SIZE basket.target) :=
      ⟨fun hmem => htarget.space (List.mem_of_mem_take hmem), hline.left_of_append⟩
    have hplain : Plain { sentRequest lib basket with
        target := snprintf TARGET_SIZE basket.target } := ⟨hmethod, hword, hfields⟩
    rw [parseRequest_wire hplain, Option.some.injEq] at h
    have hsame : snprintf TARGET_SIZE basket.target = basket.target :=
      congrArg RequestMessage.target h
    rw [← hsame, snprintf, List.length_take, TARGET_SIZE]
    omega
  · intro h
    have hroom := h.room
    have hsame : snprintf TARGET_SIZE basket.target = basket.target :=
      List.take_of_length_le (by unfold TARGET_SIZE at hroom ⊢; omega)
    have hplain : Plain (sentRequest lib basket) := ⟨hmethod, h.target, h.fields⟩
    rw [hsame]
    exact parseRequest_wire hplain

/-- The parts of a URL as `parseUrl` leaves them: bytes that `validateUrl` lets
through, in buffers of 256, 8 and 2048 bytes. -/
structure ValidUrl (url : URLComponents) : Prop where
  chars : ∀ c ∈ url.host ++ url.port ++ url.path, isValidUrlChar c = true
  host : url.host.length < 256
  port : url.port.length < 8
  path : url.path.length < 2048

theorem isValidUrlChar_spec {c : UInt8} (h : isValidUrlChar c = true) : c ≠ 32 ∧ c ≠ 13 := by
  constructor
  · rintro rfl
    exact absurd h (by decide)
  · rintro rfl
    exact absurd h (by decide)

theorem oneLine_of_notMem {text : Bytes} (h : 13 ∉ text) : OneLine text := by
  rw [OneLine, NoPair, List.isChain_iff_forall_rel_of_append_cons_cons]
  rintro a b before after rfl ⟨rfl, -⟩
  exact h (by simp)

/-- The request line is safe: only the fields decide. -/
theorem unambiguous_iff_of_validUrl (lib : AddressLib) {basket : Http11Basket}
    (hurl : ValidUrl basket.request.urlComponents) :
    Unambiguous lib basket ↔ ∀ field ∈ sentFields lib basket, PlainField field := by
  obtain ⟨hchars, hhost, hport, hpath⟩ := hurl
  have hscheme : (ascii "http://").all isValidUrlChar = true := by decide
  have hcolon : (ascii ":").all isValidUrlChar = true := by decide
  have hvalid : ∀ c ∈ basket.target, isValidUrlChar c = true := by
    intro c hc
    rw [Http11Basket.target] at hc
    split at hc
    · simp only [List.mem_append] at hc
      rcases hc with (((h | h) | h) | h) | h
      · exact List.all_eq_true.mp hscheme c h
      · exact hchars c (by simp [h])
      · exact List.all_eq_true.mp hcolon c h
      · exact hchars c (by simp [h])
      · exact hchars c (by simp [h])
    · exact hchars c (by simp [hc])
  have hroom : basket.target.length < TARGET_SIZE := by
    have hscheme' : (ascii "http://").length = 7 := by decide
    have hcolon' : (ascii ":").length = 1 := by decide
    rw [Http11Basket.target, TARGET_SIZE]
    split
    · simp only [List.length_append, hscheme', hcolon']
      omega
    · omega
  have hword : PlainWord basket.target :=
    ⟨fun h => (isValidUrlChar_spec (hvalid 32 h)).1 rfl,
      oneLine_of_notMem fun h => (isValidUrlChar_spec (hvalid 13 h)).2 rfl⟩
  exact ⟨fun h => h.fields, fun h => ⟨hroom, hword, h⟩⟩

/-- A host name, and no address. -/
def AddressLib.names : AddressLib where
  inet_pton4 _ := false
  inet_pton6 _ := false

/-- A request whose `X-Note` is the JSON string `"1\r\nEvil: 1"`. -/
def noteBasket : Http11Basket where
  method := .get
  request := buildHttp11Headers 4096 ⟨none, false, ⟨ascii "a.example", ascii "443", ascii "/"⟩, []⟩
    [(ascii "User-Agent", .string (ascii "Chrome/152")),
      (ascii "X-Note", .string (ascii "1\r\nEvil: 1"))]
  proxyAuthorization := []
  plainProxy := false

/-- The message that a server reads instead. -/
def splitMessage : RequestMessage where
  method := ascii "GET"
  target := ascii "/"
  fields := [⟨ascii "User-Agent", ascii "Chrome/152"⟩, ⟨ascii "X-Note", ascii "1"⟩,
    ⟨ascii "Evil", ascii "1"⟩, ⟨ascii "Host", ascii "a.example"⟩]
  body := []

/-- The value adds a header line. -/
theorem buildHttp11Request_splits :
    parseRequest (buildHttp11Request AddressLib.names noteBasket) = some splitMessage ∧
      splitMessage ≠ sentRequest AddressLib.names noteBasket := by
  have hbytes : buildHttp11Request AddressLib.names noteBasket = splitMessage.wire := by
    decide +kernel
  have hplain : Plain splitMessage := by decide +kernel
  exact ⟨by rw [hbytes, parseRequest_wire hplain], by decide +kernel⟩

end HttpRequestClient.Http11
