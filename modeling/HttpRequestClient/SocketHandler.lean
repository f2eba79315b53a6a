import HttpRequestClient.BasketJson

/-!
# Connecting to a host or through a proxy

`SocketHandler.c`: `createSocket` tries the addresses of a host, and
`createSocketThroughProxy` connects to the proxy and asks it for a tunnel.
Each failure stores its own error in the basket, and only an answer of the
proxy is stored in `proxy.response`.

The answers of the system are a parameter (`Network`).  `send` is given the
buffer of the request and the length that `snprintf` returns, which is that of
the whole text.

* `createSocketThroughProxy_failed` says that a failure leaves an error and,
  short of an answer, no `proxy.response`.
* `basketToString_errorCode_iff` says when the error of a basket is the one
  that its answer carries, and `createSocketThroughProxy_unheard` that it is
  not before the proxy is heard.

Left out: the lookup of a pooled session, the TLS handshake, and the log.
-/

namespace HttpRequestClient

/-! ## Errors -/

def ERR_SESSION_HOST_RESOLVE_FAILED : Error := ⟨"1-0005", "Session host resolve failed."⟩
def ERR_SESSION_SOCKET_CREATION_FAILED : Error := ⟨"1-0006", "Session socket creation failed."⟩
def ERR_SESSION_SOCKET_NONBLOCK_SETTING_FAILED : Error :=
  ⟨"1-0007", "Failed to set session socket non-block."⟩
def ERR_SESSION_SOCKET_CONNECTING_FAILED : Error :=
  ⟨"1-0008", "Session socket connecting failed."⟩
def ERR_SESSION_SOCKET_INVALID_FILE_DESCRIPTOR : Error :=
  ⟨"1-0009", "Session socket invalid file descriptor."⟩
def ERR_SESSION_SOCKET_CONNECTING_TIMEOUT : Error :=
  ⟨"1-0010", "Session socket connecting timeout."⟩
def ERR_SESSION_SOCKET_NO_AVAILABLE_ADDRESS : Error :=
  ⟨"1-0011", "Session socket no available address."⟩
def ERR_SESSION_SOCKET_CONNECTING_UNKNOWN_ERROR : Error :=
  ⟨"1-0012", "Session socket connecting unknown error."⟩
def ERR_SESSION_SOCKET_CONNECTING_REFUSED : Error :=
  ⟨"1-0017", "Session socket connection refused."⟩

def ERR_PROXY_HOST_RESOLVE_FAILED : Error := ⟨"4-0001", "Proxy host resolve failed."⟩
def ERR_PROXY_SOCKET_CREATION_FAILED : Error := ⟨"4-0002", "Proxy socket creation failed."⟩
def ERR_PROXY_SOCKET_NONBLOCK_SETTING_FAILED : Error :=
  ⟨"4-0003", "Failed to set proxy socket non-block."⟩
def ERR_PROXY_SOCKET_CONNECTING_FAILED : Error := ⟨"4-0004", "Proxy socket connecting failed."⟩
def ERR_PROXY_SOCKET_INVALID_FILE_DESCRIPTOR : Error :=
  ⟨"4-0005", "Proxy socket invalid file descriptor."⟩
def ERR_PROXY_SOCKET_CONNECTING_TIMEOUT : Error := ⟨"4-0006", "Proxy socket connecting timeout."⟩
def ERR_PROXY_SOCKET_CONNECTING_UNKNOWN_ERROR : Error :=
  ⟨"4-0007", "Proxy socket connecting unknown error."⟩
def ERR_PROXY_SEND_CONNECT_REQUEST_FAILED : Error :=
  ⟨"4-0008", "Proxy send connect request failed."⟩
def ERR_PROXY_AUTHORIZATION_FAILED : Error := ⟨"4-0009", "Proxy authorization failed (407)."⟩
def ERR_PROXY_UNEXPECTED_RESPONSE : Error := ⟨"4-0010", "Proxy unexpected CONNECT response."⟩
def ERR_PROXY_SOCKET_CONNECTING_REFUSED : Error := ⟨"4-0011", "Proxy socket connection refused."⟩

/-! ## The system -/

def SOCKET_EINPROGRESS : Int := 115
def SOCKET_ECONNREFUSED : Int := 111
def SOCKET_EAGAIN : Int := 11
def FD_SETSIZE : Nat := 1024

/-- What the system answers while one address is tried.  There is no socket
where its creation fails. -/
structure AddressCalls where
  socket : Option Nat
  setSocketNonBlocking : Int
  connect : Int
  lastError : Int
  select : Int
  getsockopt : Int
  socketError : Int
  deriving Repr, DecidableEq

/-- A call of `send`: the buffer as it was filled, and its length argument
before it becomes a `size_t`. -/
structure SendCall where
  buffer : Bytes
  requestLen : Int
  deriving Repr, DecidableEq

/-- The system.  `recv` gives the bytes that fit, none of them at the end of
the connection, or the last error. -/
structure Network where
  getaddrinfo : Bytes → Bytes → Option (List AddressCalls)
  setSocketSendTimeout : Int → Int
  setSocketReceiveTimeout : Int → Int
  send : SendCall → Int
  recv : Nat → Except Int Bytes

/-- Whether `needle` occurs in `haystack`. -/
def strstr (haystack needle : Bytes) : Bool :=
  haystack.tails.any fun rest => needle.isPrefixOf rest

/-! ## One host -/

/-- Each error has a form for the proxy and one for the session. -/
def socketError (isProxy : Bool) (proxyError sessionError : Error) : Error :=
  if isProxy then proxyError else sessionError

/-- The error of a connection that is not made.  A socket is never negative. -/
def connectWithTimeout (sockfd : Nat) (calls : AddressCalls) (isProxy : Bool) : Option Error :=
  if calls.setSocketNonBlocking < 0 then
    some (socketError isProxy ERR_PROXY_SOCKET_NONBLOCK_SETTING_FAILED
      ERR_SESSION_SOCKET_NONBLOCK_SETTING_FAILED)
  else if calls.connect = 0 then none
  else if calls.lastError ≠ SOCKET_EINPROGRESS then
    some (socketError isProxy ERR_PROXY_SOCKET_CONNECTING_FAILED
      ERR_SESSION_SOCKET_CONNECTING_FAILED)
  else if FD_SETSIZE ≤ sockfd then
    some (socketError isProxy ERR_PROXY_SOCKET_INVALID_FILE_DESCRIPTOR
      ERR_SESSION_SOCKET_INVALID_FILE_DESCRIPTOR)
  else if calls.select = 0 then
    some (socketError isProxy ERR_PROXY_SOCKET_CONNECTING_TIMEOUT
      ERR_SESSION_SOCKET_CONNECTING_TIMEOUT)
  else if calls.select < 0 ∨ calls.getsockopt < 0 then
    some (socketError isProxy ERR_PROXY_SOCKET_CONNECTING_UNKNOWN_ERROR
      ERR_SESSION_SOCKET_CONNECTING_UNKNOWN_ERROR)
  else if calls.socketError = SOCKET_ECONNREFUSED then
    some (socketError isProxy ERR_PROXY_SOCKET_CONNECTING_REFUSED
      ERR_SESSION_SOCKET_CONNECTING_REFUSED)
  else if calls.socketError ≠ 0 then
    some (socketError isProxy ERR_PROXY_SOCKET_CONNECTING_UNKNOWN_ERROR
      ERR_SESSION_SOCKET_CONNECTING_UNKNOWN_ERROR)
  else none

/-- The first address that connects.  The error of an address before it stays
in the basket. -/
def tryAddresses (isProxy : Bool) (basket : AnswerBasket) :
    List AddressCalls → Option Nat × AnswerBasket
  | [] => (none, basket)
  | calls :: rest =>
    match calls.socket with
    | none =>
      tryAddresses isProxy
        { basket with
          error := some (socketError isProxy ERR_PROXY_SOCKET_CREATION_FAILED
            ERR_SESSION_SOCKET_CREATION_FAILED) } rest
    | some sockfd =>
      match connectWithTimeout sockfd calls isProxy with
      | none => (some sockfd, basket)
      | some e => tryAddresses isProxy { basket with error := some e } rest

def createSocket (net : Network) (basket : AnswerBasket) (host port : Bytes) (isProxy : Bool) :
    Option Nat × AnswerBasket :=
  match net.getaddrinfo host port with
  | none =>
    (none, { basket with
      error := some (socketError isProxy ERR_PROXY_HOST_RESOLVE_FAILED
        ERR_SESSION_HOST_RESOLVE_FAILED) })
  | some addresses =>
    match tryAddresses isProxy basket addresses with
    | (some sockfd, basket) => (some sockfd, basket)
    | (none, basket) =>
      (none, if basket.error = none then
          { basket with error := some ERR_SESSION_SOCKET_NO_AVAILABLE_ADDRESS }
        else basket)

/-! ## The tunnel -/

def getUserAgent (basket : AnswerBasket) : Bytes :=
  match (basket.requestHeaders.getD []).find? fun header =>
      strcasecmp header.name (ascii "user-agent") = 0 with
  | some header => header.value
  | none =>
    ascii ("Mozilla/5.0 (Windows NT 10.0; Win64; x64) AppleWebKit/537.36 " ++
      "(KHTML, like Gecko) Chrome/144.0.0.0 Safari/537.36")

def connectRequest (basket : AnswerBasket) (host port : Bytes) : Bytes :=
  ascii "CONNECT " ++ host ++ ascii ":" ++ port ++ ascii " HTTP/1.1\r\n" ++
  ascii "Host: " ++ host ++ ascii ":" ++ port ++ ascii "\r\n" ++
  (if basket.proxy.authorization.length > 0 then
    ascii "Proxy-Authorization: " ++ basket.proxy.authorization ++ ascii "\r\n" else []) ++
  ascii "User-Agent: " ++ getUserAgent basket ++ ascii "\r\n" ++
  ascii "Connection: keep-alive\r\n" ++
  ascii "\r\n"

/-- The size of `connectRequest`. -/
def CONNECT_REQUEST_SIZE : Nat := 1024

/-- What `snprintf` returns: the length of the whole text, -1 when that is no
`int`. -/
def snprintfReturn (text : Bytes) : Int :=
  if text.length < 0x80000000 then text.length else -1

/-- The request in its buffer, cut off where it does not fit. -/
def connectCall (basket : AnswerBasket) (host port : Bytes) : SendCall where
  buffer := snprintf CONNECT_REQUEST_SIZE (connectRequest basket host port) ++ [0]
  requestLen := snprintfReturn (connectRequest basket host port)

/-- The size of `proxyResponse` and of `proxy.response`. -/
def PROXY_RESPONSE_SIZE : Nat := 1024

/-- Whether the proxy opens the tunnel. -/
def connectToProxy (net : Network) (basket : AnswerBasket) (host port : Bytes) :
    Bool × AnswerBasket :=
  if net.setSocketSendTimeout basket.connectTimeoutInMilliseconds < 0 ∨
      net.setSocketReceiveTimeout basket.connectTimeoutInMilliseconds < 0 then
    (false, { basket with error := some ERR_PROXY_SOCKET_NONBLOCK_SETTING_FAILED })
  else
    let call := connectCall basket host port
    if net.send call ≠ call.requestLen then
      (false, { basket with error := some ERR_PROXY_SEND_CONNECT_REQUEST_FAILED })
    else
      match net.recv (PROXY_RESPONSE_SIZE - 1) with
      -- the proxy closed the connection without an answer
      | .ok [] => (false, { basket with error := some ERR_PROXY_EMPTY_RESPONSE })
      | .error lastError =>
        if lastError = SOCKET_EAGAIN then
          -- the proxy neither answered nor closed
          (false, { basket with error := some ERR_PROXY_SOCKET_CONNECTING_TIMEOUT })
        else (false, { basket with error := some ERR_PROXY_SEND_CONNECT_REQUEST_FAILED })
      | .ok received =>
        let proxyResponse := cstr (received.take (PROXY_RESPONSE_SIZE - 1))
        let basket := { basket with proxy := { basket.proxy with response := proxyResponse } }
        if strstr proxyResponse (ascii "HTTP/1.0 407") ∨
            strstr proxyResponse (ascii "HTTP/1.1 407") then
          (false, { basket with error := some ERR_PROXY_AUTHORIZATION_FAILED })
        else if ¬strstr proxyResponse (ascii "HTTP/1.0 200") ∧
            ¬strstr proxyResponse (ascii "HTTP/1.1 200") then
          (false, { basket with error := some ERR_PROXY_UNEXPECTED_RESPONSE })
        else (true, basket)

/-- `host` and `port` are those of the request's URL. -/
def createSocketThroughProxy (net : Network) (basket : AnswerBasket) (host port : Bytes) :
    Option Nat × AnswerBasket :=
  match createSocket net basket basket.proxy.host basket.proxy.port true with
  | (none, basket) => (none, basket)
  | (some sockfd, basket) =>
    match connectToProxy net basket host port with
    | (false, basket) => (none, basket)
    | (true, basket) => (some sockfd, basket)

/-! ## What a failure leaves behind -/

section Failure

variable {net : Network} {host port : Bytes} {isProxy : Bool}

theorem tryAddresses_proxy (isProxy : Bool) (basket : AnswerBasket)
    (addresses : List AddressCalls) :
    (tryAddresses isProxy basket addresses).2.proxy = basket.proxy := by
  induction addresses generalizing basket with
  | nil => rfl
  | cons calls rest ih =>
    rw [tryAddresses]
    cases calls.socket with
    | none => exact ih _
    | some sockfd =>
      dsimp only
      cases connectWithTimeout sockfd calls isProxy with
      | none => rfl
      | some e => exact ih _

/-- No answer is stored before one is asked for. -/
theorem createSocket_proxy (net : Network) (basket : AnswerBasket) (host port : Bytes)
    (isProxy : Bool) : (createSocket net basket host port isProxy).2.proxy = basket.proxy := by
  unfold createSocket
  cases net.getaddrinfo host port with
  | none => rfl
  | some addresses =>
    have hproxy := tryAddresses_proxy isProxy basket addresses
    dsimp only
    generalize tryAddresses isProxy basket addresses = tried at hproxy ⊢
    obtain ⟨found, after⟩ := tried
    cases found with
    | some sockfd => exact hproxy
    | none =>
      dsimp only
      split
      · exact hproxy
      · exact hproxy

/-- A host that is not reached leaves an error. -/
theorem createSocket_error {basket : AnswerBasket}
    (h : (createSocket net basket host port isProxy).1 = none) :
    ∃ e, (createSocket net basket host port isProxy).2.error = some e := by
  unfold createSocket at h ⊢
  cases haddresses : net.getaddrinfo host port with
  | none => exact ⟨_, rfl⟩
  | some addresses =>
    simp only [haddresses] at h ⊢
    generalize tryAddresses isProxy basket addresses = tried at h ⊢
    obtain ⟨found, after⟩ := tried
    cases found with
    | some sockfd => cases h
    | none =>
      dsimp only
      cases herror : after.error with
      | none => exact ⟨_, rfl⟩
      | some e => exact ⟨e, herror⟩

/-- A tunnel that is not opened leaves an error.  The proxy has been heard
where it refused, and only there. -/
theorem connectToProxy_refused {basket : AnswerBasket}
    (h : (connectToProxy net basket host port).1 = false) :
    ∃ e, (connectToProxy net basket host port).2.error = some e ∧
      ((connectToProxy net basket host port).2.proxy = basket.proxy ∨
        e = ERR_PROXY_AUTHORIZATION_FAILED ∨ e = ERR_PROXY_UNEXPECTED_RESPONSE) := by
  unfold connectToProxy at h ⊢
  dsimp only at h ⊢
  split
  · exact ⟨_, rfl, .inl rfl⟩
  split
  · exact ⟨_, rfl, .inl rfl⟩
  rename_i htimeouts hsent
  rw [if_neg htimeouts, if_neg hsent] at h
  split
  · exact ⟨_, rfl, .inl rfl⟩
  · split
    · exact ⟨_, rfl, .inl rfl⟩
    · exact ⟨_, rfl, .inl rfl⟩
  · rename_i received hreceived hrecv
    simp only [hrecv] at h
    split
    · exact ⟨_, rfl, .inr (.inl rfl)⟩
    · rename_i hauthorized
      rw [if_neg hauthorized] at h
      split
      · exact ⟨_, rfl, .inr (.inr rfl)⟩
      · rename_i hopened
        rw [if_neg hopened] at h
        cases h

/-- A failure on the way through the proxy leaves an error, and `proxy` as it
was unless the proxy has refused. -/
theorem createSocketThroughProxy_failed {basket : AnswerBasket}
    (h : (createSocketThroughProxy net basket host port).1 = none) :
    ∃ e, (createSocketThroughProxy net basket host port).2.error = some e ∧
      ((createSocketThroughProxy net basket host port).2.proxy = basket.proxy ∨
        e = ERR_PROXY_AUTHORIZATION_FAILED ∨ e = ERR_PROXY_UNEXPECTED_RESPONSE) := by
  have hproxy := createSocket_proxy net basket basket.proxy.host basket.proxy.port true
  have herror := @createSocket_error net basket.proxy.host basket.proxy.port true basket
  unfold createSocketThroughProxy at h ⊢
  generalize createSocket net basket basket.proxy.host basket.proxy.port true = connected
    at h hproxy herror ⊢
  obtain ⟨found, reached⟩ := connected
  cases found with
  | none =>
    obtain ⟨e, he⟩ := herror rfl
    exact ⟨e, he, .inl hproxy⟩
  | some sockfd =>
    have hrefused := @connectToProxy_refused net host port reached
    dsimp only at h hproxy ⊢
    generalize connectToProxy net reached host port = answered at h hrefused ⊢
    obtain ⟨opened, after⟩ := answered
    cases opened with
    | true => cases h
    | false =>
      obtain ⟨e, he, hkept⟩ := hrefused rfl
      rw [← hproxy]
      exact ⟨e, he, hkept⟩

end Failure

/-! ## The error of an answer -/

section Answer

variable {lib : Jansson}

/-- The answer carries the error of the basket exactly when no proxy is
configured, or it has answered, or the error is that it has not.  The codes of
`Error.c` are plain text. -/
theorem basketToString_errorCode_iff (hlib : lib.Documented) (basket : AnswerBasket) {e : Error}
    (he : basket.error = some e) (hcode : PlainText (ascii e.code)) :
    answeredErrorCode (basketToString lib basket).1 = some (ascii e.code) ↔
      basket.proxy.host = [] ∨ basket.proxy.response ≠ [] ∨
        ascii e.code = ascii ERR_PROXY_EMPTY_RESPONSE.code := by
  rw [basketToString_errorCode hlib, basketToString_basket]
  by_cases hsilent : ProxySilent basket
  · have hempty : lib.json_string (ascii ERR_PROXY_EMPTY_RESPONSE.code) =
        some (ascii ERR_PROXY_EMPTY_RESPONSE.code) := hlib.plain (by decide)
    rw [if_pos hsilent]
    simp only [Option.bind_some, hempty, Option.some_inj]
    constructor
    · exact fun hsame => .inr (.inr hsame.symm)
    · rintro (hhost | hresponse | hsame)
      · exact absurd hhost hsilent.1
      · exact absurd hsilent.2 hresponse
      · exact hsame.symm
  · rw [if_neg hsilent, he]
    simp only [Option.bind_some, hlib.plain hcode, true_iff]
    by_cases hhost : basket.proxy.host = []
    · exact .inl hhost
    · exact .inr (.inl fun hresponse => hsilent ⟨hhost, hresponse⟩)

/-- Whatever went wrong before the proxy was heard, the answer says that its
response is empty. -/
theorem createSocketThroughProxy_unheard (hlib : lib.Documented) {net : Network}
    {basket after : AnswerBasket} {host port : Bytes} {e : Error}
    (hproxy : ProxySilent basket)
    (hfailed : createSocketThroughProxy net basket host port = (none, after))
    (he : after.error = some e) (hauthorization : e ≠ ERR_PROXY_AUTHORIZATION_FAILED)
    (hunexpected : e ≠ ERR_PROXY_UNEXPECTED_RESPONSE) :
    answeredErrorCode (basketToString lib after).1 =
      some (ascii ERR_PROXY_EMPTY_RESPONSE.code) := by
  have hnone : (createSocketThroughProxy net basket host port).1 = none := by rw [hfailed]
  obtain ⟨e', he', hkept⟩ := createSocketThroughProxy_failed hnone
  rw [hfailed] at he' hkept
  cases Option.some.inj (he.symm.trans he')
  have hsame : after.proxy = basket.proxy :=
    hkept.resolve_right fun hrefused => hrefused.elim hauthorization hunexpected
  have hsilent : ProxySilent after := by
    rw [ProxySilent, hsame]
    exact hproxy
  rw [basketToString_errorCode hlib, basketToString_basket, if_pos hsilent]
  exact hlib.plain (by decide)

/-- A request to a host behind a proxy. -/
def proxiedRequest : AnswerBasket where
  url := some (ascii "https://example.com/")
  method := some (ascii "GET")
  connectTimeoutInMilliseconds := 3000
  responseReadingTimeoutInMilliseconds := 3000
  decompress := 0
  nonBlocking := false
  clientHelloId := ascii "chrome"
  session := none
  streamId := 0
  proxy := ⟨ascii "http", ascii "proxy", ascii "8080", [], []⟩
  requestHeaders := none
  requestPayload := none
  responseHeaders := none
  payload := none
  collecting := true
  error := none

/-- A proxy that accepts the connection and then stays silent. -/
def silentProxy : Network where
  getaddrinfo _ _ := some [⟨some 5, 0, 0, 0, 1, 0, 0⟩]
  setSocketSendTimeout _ := 0
  setSocketReceiveTimeout _ := 0
  send call := call.requestLen
  recv _ := .error SOCKET_EAGAIN

/-- The same request once the proxy has refused the tunnel. -/
def refusedRequest : AnswerBasket :=
  { proxiedRequest with
    proxy := { proxiedRequest.proxy with response := ascii "HTTP/1.1 403 Forbidden" }
    error := some ERR_PROXY_UNEXPECTED_RESPONSE }

theorem basketToString_errorCode_iff_refused :
    answeredErrorCode (basketToString Jansson.manual refusedRequest).1 =
      some (ascii ERR_PROXY_UNEXPECTED_RESPONSE.code) := by
  have hanswered : refusedRequest.proxy.response ≠ [] := by decide
  exact (basketToString_errorCode_iff Jansson.manual_documented refusedRequest rfl
    (by decide)).mpr (.inr (.inl hanswered))

/-- The time-out of a silent proxy is reported as an empty answer. -/
theorem basketToString_replaces_timeout :
    ∃ basket, createSocketThroughProxy silentProxy proxiedRequest (ascii "example.com")
        (ascii "443") = (none, basket) ∧
      basket.error = some ERR_PROXY_SOCKET_CONNECTING_TIMEOUT ∧
      answeredErrorCode (basketToString Jansson.manual basket).1 = some (ascii "4-0012") ∧
      ascii ERR_PROXY_SOCKET_CONNECTING_TIMEOUT.code ≠ ascii "4-0012" := by
  refine ⟨{ proxiedRequest with error := some ERR_PROXY_SOCKET_CONNECTING_TIMEOUT },
    by decide +kernel, rfl, by decide +kernel, by decide⟩

end Answer

end HttpRequestClient
