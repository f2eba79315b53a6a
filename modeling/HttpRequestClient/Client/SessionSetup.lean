import HttpRequestClient.SocketHandler
import HttpRequestClient.Client.Attempts
import HttpRequestClient.Http2.SharedWrites
import HttpRequestClient.Lib.Ledger

/-!
# How a session is made

`createSession` of `Session.c`: a socket, a TLS context and object, the
handshake, the protocol that ALPN selects, the start of an HTTP/2 connection,
the session itself and its reader thread.  Every call into the system, the TLS
library and the allocator may fail, and each failure takes down what was there
before it.

The calls are a parameter (`SetupCalls`).  `SetupResult` has what is left in
the basket, and the acts on the resources, in order.

* `createSession_outcome`: a session is left or an error, never both.  The
  session has the identity of the basket, and it is only made if the first
  address of the host connects: the error of an address that fails stays in
  the basket, and `sessionInitFailed` finds it once another one has connected.
* `createSession_ledger`: nothing is used or released that is not there, unless
  the allocation of `connInfo` fails, which is not checked.  A session owns all
  that is left, and without a session nothing is left but a session that
  `sessionInitFailed` rejects, which is not freed.

Left out: the log, and the ticket that is offered in the handshake.
-/

namespace HttpRequestClient.Client.Setup

open Http2 Ledger

def ERR_SESSION_SSL_CONNECT_FAILED : Error := ⟨"1-0001", "SSL_connect failed."⟩
def ERR_SESSION_SSL_CTX_CREATION_FAILED : Error := ⟨"1-0013", "Ssl context creation failed."⟩
def ERR_SESSION_SSL_OBJECT_CREATION_FAILED : Error := ⟨"1-0014", "Ssl object creation failed."⟩
def ERR_SESSION_SSL_FAILED_TO_ASSOCIATE_SOCKET : Error :=
  ⟨"1-0015", "Ssl failed to associate with a socket."⟩
def ERR_SESSION_SSL_ALPN_HTTP2_NOT_SELECTED : Error :=
  ⟨"1-0020", "ALPN negotiation did not select h2; server likely only supports http/1.1."⟩

/-! ## The parties -/

/-- What a fingerprint says about the connection. -/
structure SetupProfile where
  opening : OpeningFrames
  headerTableSize : Nat
  deriving Repr

/-- What `createSession` reads of a basket.  `answer` is the part that an
answer is made of. -/
structure SetupBasket where
  answer : AnswerBasket
  scheme : Bytes
  host : Bytes
  port : Bytes
  forceHttp11 : Bool
  fingerprint : Option SetupProfile
  sessionExpirationInMilliseconds : Int
  deriving Repr

namespace SetupBasket

variable (basket : SetupBasket)

def proxied : Bool := basket.answer.proxy.host ≠ []

/-- The host that a connection is made to. -/
def peerHost : Bytes := if basket.proxied then basket.answer.proxy.host else basket.host

def peerPort : Bytes := if basket.proxied then basket.answer.proxy.port else basket.port

end SetupBasket

/-- What is called while a session is made, and what comes of it. -/
structure SetupCalls where
  net : Network
  sslCtxNew : Bool
  sslNew : Bool
  sslSetFd : Bool
  mallocConnInfo : Bool
  setSocketReceiveTimeout : Int
  setSocketSendTimeout : Int
  sslConnect : Int
  alpnSelected : Bytes
  clearSocketReceiveTimeout : Int
  clearSocketSendTimeout : Int
  setSocketNonBlocking : Int
  sslWrites : List WriteAnswer
  mallocSession : Bool
  mallocHpackContext : Bool
  createReader : Bool

/-- A session.  `tls` says that it has a context, an object and its
`connInfo`, and `dynamicTableMaxSize` is that of its HPACK context. -/
structure NewSession where
  scheme : Bytes
  host : Bytes
  port : Bytes
  clientHelloId : Bytes
  sockfd : Nat
  tls : Bool
  nonBlocking : Bool
  expirationInMilliseconds : Int
  proxy : BasketProxy
  protocol : HttpProtocol
  plainProxy : Bool
  dynamicTableMaxSize : Option Nat
  readerStarted : Bool
  deriving Repr, DecidableEq

inductive Resource where
  | socket (sockfd : Nat)
  | sslCtx
  | ssl
  | connInfo
  | session
  | hpackCtx
  deriving DecidableEq, Repr

abbrev Acts := List (Act Resource)

/-- What `createSession` leaves in the basket, and what it did. -/
structure SetupResult where
  acts : Acts
  answer : AnswerBasket
  session : Option NewSession
  deriving Repr, DecidableEq

def SetupResult.after (acts : Acts) (result : SetupResult) : SetupResult :=
  { result with acts := acts ++ result.acts }

/-- An attempt comes to a result, or the process ends in it. -/
inductive Attempted where
  | returned (result : SetupResult)
  | crashed (acts : Acts)
  deriving Repr, DecidableEq

namespace Attempted

def acts : Attempted → Acts
  | .returned result => result.acts
  | .crashed acts => acts

def after (before : Acts) : Attempted → Attempted
  | .returned result => .returned (result.after before)
  | .crashed acts => .crashed (before ++ acts)

def result : Attempted → Option SetupResult
  | .returned result => some result
  | .crashed _ => none

end Attempted

def failed (acts : Acts) (answer : AnswerBasket) (error : Error) : SetupResult :=
  ⟨acts, { answer with error := some error }, none⟩

/-! ## The socket -/

def addressActs (isProxy : Bool) : List AddressCalls → Acts
  | [] => []
  | calls :: rest =>
    match calls.socket with
    | none => addressActs isProxy rest
    | some sockfd =>
      .acquire (.socket sockfd) :: .use (.socket sockfd) ::
        match connectWithTimeout sockfd calls isProxy with
        | none => []
        | some _ => .release (.socket sockfd) :: addressActs isProxy rest

def createSocketActs (net : Network) (host port : Bytes) (isProxy : Bool) : Acts :=
  match net.getaddrinfo host port with
  | none => []
  | some addresses => addressActs isProxy addresses

def createSocketThroughProxyActs (net : Network) (basket : AnswerBasket) (host port : Bytes) :
    Acts :=
  createSocketActs net basket.proxy.host basket.proxy.port true ++
    match createSocket net basket basket.proxy.host basket.proxy.port true with
    | (none, _) => []
    | (some sockfd, basket) =>
      .use (.socket sockfd) ::
        if (connectToProxy net basket host port).1 then [] else [.release (.socket sockfd)]

/-- The socket of a TLS session. -/
def connectSocket (net : Network) (basket : SetupBasket) : Option Nat × AnswerBasket :=
  if basket.proxied then
    createSocketThroughProxy net basket.answer basket.host basket.port
  else createSocket net basket.answer basket.host basket.port false

def connectSocketActs (net : Network) (basket : SetupBasket) : Acts :=
  if basket.proxied then
    createSocketThroughProxyActs net basket.answer basket.host basket.port
  else createSocketActs net basket.host basket.port false

/-! ## The end of a session -/

/-- `SSL_shutdown` is left out when the peer has not acknowledged SETTINGS. -/
def freeSession (ssl sslCtx : Bool) (sockfd : Nat) (hpackCtx : Bool) (error : Option Error) :
    Acts :=
  (if ssl then
    (if error.any fun e => e.code = ERR_SESSION_SETTINGS_TIMEOUT.code then [] else [.use .ssl]) ++
      [.release .ssl]
  else []) ++
    (if sslCtx then [.release .sslCtx] else []) ++
      .release (.socket sockfd) :: if hpackCtx then [.release .hpackCtx] else []

/-- `closeSession`, once no thread uses the session. -/
def closeSession (session : NewSession) (error : Option Error) : Acts :=
  .use .session ::
    (if session.tls then [.use .ssl, .release .connInfo] else []) ++
      freeSession session.tls session.tls session.sockfd session.dynamicTableMaxSize.isSome error ++
        [.use .session, .release .session]

/-- The end of an attempt that has a `connInfo` and no session. -/
def abandon (sockfd : Nat) (error : Option Error) : Acts :=
  .use .ssl :: .release .connInfo :: freeSession true true sockfd false error

/-! ## The session -/

/-- `strncpy` into an array, and the terminator. -/
def copied (size : Nat) (s : Bytes) : Bytes := s.take (size - 1)

def copiedProxy (proxy : BasketProxy) : BasketProxy where
  scheme := copied 16 proxy.scheme
  host := copied 256 proxy.host
  port := copied 8 proxy.port
  authorization := copied 1024 proxy.authorization
  response := copied 1024 proxy.response

def HPACK_DEFAULT_HEADER_TABLE_SIZE : Nat := 4096

def dynamicTableMaxSize (fingerprint : Option SetupProfile) : Nat :=
  let advertised := (fingerprint.map SetupProfile.headerTableSize).getD 0
  if advertised > 0 then advertised else HPACK_DEFAULT_HEADER_TABLE_SIZE

/-- A session before its HPACK context. -/
def emptySession (basket : SetupBasket) (sockfd : Nat) (tls : Bool) (protocol : HttpProtocol) :
    NewSession where
  scheme := copied 16 basket.scheme
  host := copied 256 basket.host
  port := copied 8 basket.port
  clientHelloId := copied 64 basket.answer.clientHelloId
  sockfd := sockfd
  tls := tls
  nonBlocking := basket.answer.nonBlocking
  expirationInMilliseconds := basket.sessionExpirationInMilliseconds
  proxy := copiedProxy basket.answer.proxy
  protocol := protocol
  plainProxy := false
  dynamicTableMaxSize := none
  readerStarted := false

/-- A session without an HPACK context comes back with an error. -/
def initSession (calls : SetupCalls) (basket : SetupBasket) (sockfd : Nat) (tls : Bool)
    (protocol : HttpProtocol) : SetupResult :=
  let session := emptySession basket sockfd tls protocol
  if ¬calls.mallocSession then failed [] basket.answer ERR_SYSTEM_MEMORY_ALLOCATION_FAILED
  else if protocol = .http11 then ⟨[.acquire .session], basket.answer, some session⟩
  else if ¬calls.mallocHpackContext then
    ⟨[.acquire .session],
      { basket.answer with error := some ERR_SYSTEM_MEMORY_ALLOCATION_FAILED }, some session⟩
  else
    ⟨[.acquire .session, .acquire .hpackCtx], basket.answer,
      some { session with dynamicTableMaxSize := some (dynamicTableMaxSize basket.fingerprint) }⟩

/-- `sessionInitFailed`: there is no session, or an error of any time before. -/
def accepted (init : SetupResult) : Option NewSession :=
  if init.answer.error = none then init.session else none

/-- The session of a connection that is set up.  Its reader is started, if it
has one. -/
def openSession (calls : SetupCalls) (basket : SetupBasket) (sockfd : Nat)
    (protocol : HttpProtocol) : SetupResult :=
  let init := initSession calls basket sockfd true protocol
  match accepted init with
  | none => ⟨init.acts ++ abandon sockfd init.answer.error, init.answer, none⟩
  | some session =>
    if protocol = .http11 then ⟨init.acts, init.answer, some session⟩
    else if calls.createReader then
      ⟨init.acts, init.answer, some { session with readerStarted := true }⟩
    else
      failed (init.acts ++ closeSession session (some ERR_RESPONSE_READING_CONNECTION_ERROR))
        init.answer ERR_RESPONSE_READING_CONNECTION_ERROR

/-! ## TLS -/

/-- The protocol of a connection, from what ALPN selected. -/
def selectProtocol (forceHttp11 : Bool) (alpnSelected : Bytes) : Option HttpProtocol :=
  if ¬forceHttp11 ∧ alpnSelected = ascii "h2" then some .http2
  else if forceHttp11 ∨ alpnSelected = ascii "http/1.1" ∨ alpnSelected = [] then some .http11
  else none

/-- From the handshake on. -/
def connectTls (calls : SetupCalls) (basket : SetupBasket) (fp : SetupProfile) (sockfd : Nat) :
    Option SetupResult :=
  let abandoned := failed (abandon sockfd basket.answer.error) basket.answer
  if calls.sslConnect ≠ 1 then some (abandoned ERR_SESSION_SSL_CONNECT_FAILED)
  else
    match selectProtocol basket.forceHttp11 calls.alpnSelected with
    | none => some (abandoned ERR_SESSION_SSL_ALPN_HTTP2_NOT_SELECTED)
    | some protocol =>
      if calls.clearSocketReceiveTimeout < 0 ∨ calls.clearSocketSendTimeout < 0 then
        some (abandoned ERR_SESSION_SSL_CONNECT_FAILED)
      else if basket.answer.nonBlocking ∧ calls.setSocketNonBlocking < 0 then
        some (abandoned ERR_SESSION_SOCKET_NONBLOCK_SETTING_FAILED)
      else if protocol = .http11 then some (openSession calls basket sockfd .http11)
      else
        (establishTransport basket.answer.nonBlocking (some fp.opening) calls.sslWrites).map
          fun sent => SetupResult.after [.use .ssl] <|
            match sent.1 with
            | some e => failed (abandon sockfd (some e)) basket.answer e
            | none => openSession calls basket sockfd .http2

/-- The TLS session on a connected socket.  `connInfo` is written to without a
check.  There is nothing yet when a write of `establishTransport` has no
answer. -/
def createTlsSession (calls : SetupCalls) (basket : SetupBasket) (sockfd : Nat) :
    Option Attempted :=
  if ¬calls.sslCtxNew then
    some (.returned (failed
      (freeSession false false sockfd false (some ERR_SESSION_SSL_CTX_CREATION_FAILED))
      basket.answer ERR_SESSION_SSL_CTX_CREATION_FAILED))
  else if ¬calls.sslNew then
    some (.returned (failed (.acquire .sslCtx ::
      freeSession false true sockfd false (some ERR_SESSION_SSL_OBJECT_CREATION_FAILED))
      basket.answer ERR_SESSION_SSL_OBJECT_CREATION_FAILED))
  else if ¬calls.sslSetFd then
    some (.returned (failed ([.acquire .sslCtx, .acquire .ssl, .release .ssl] ++
      freeSession false true sockfd false (some ERR_SESSION_SSL_FAILED_TO_ASSOCIATE_SOCKET))
      basket.answer ERR_SESSION_SSL_FAILED_TO_ASSOCIATE_SOCKET))
  else
    match basket.fingerprint with
    | none =>
      some (.returned (failed ([.acquire .sslCtx, .acquire .ssl] ++
        freeSession true true sockfd false (some ERR_REQUEST_UNSUPPORTED_USERAGENT))
        basket.answer ERR_REQUEST_UNSUPPORTED_USERAGENT))
    | some fp =>
      let configured : Acts := [.acquire .sslCtx, .acquire .ssl, .use .ssl]
      if ¬calls.mallocConnInfo then some (.crashed (configured ++ [.use .connInfo]))
      else
        let prepared : Acts := configured ++ [.acquire .connInfo, .use .connInfo, .use .ssl]
        if calls.setSocketReceiveTimeout < 0 ∨ calls.setSocketSendTimeout < 0 then
          some (.returned (failed (prepared ++ abandon sockfd basket.answer.error) basket.answer
            ERR_SESSION_SSL_CONNECT_FAILED))
        else
          -- a ticket may come in the handshake
          (connectTls calls basket fp sockfd).map fun result =>
            .returned (result.after (prepared ++ [.use .ssl, .use (.socket sockfd), .use .connInfo]))

/-! ## `createSession` -/

/-- What stands for the answer of a proxy that is not asked for a tunnel. -/
def ABSOLUTE_FORM : Bytes := ascii "HTTP/1.1 absolute-form (no CONNECT)"

/-- A plain session goes to the proxy itself, if there is one. -/
def createPlainHttp11Session (calls : SetupCalls) (basket : SetupBasket) : SetupResult :=
  let plainProxy := basket.proxied
  let acts := createSocketActs calls.net basket.peerHost basket.peerPort plainProxy
  match createSocket calls.net basket.answer basket.peerHost basket.peerPort plainProxy with
  | (none, answer) => ⟨acts, answer, none⟩
  | (some sockfd, answer) =>
    if answer.nonBlocking ∧ calls.setSocketNonBlocking < 0 then
      failed (acts ++ [.release (.socket sockfd)]) answer ERR_SESSION_SOCKET_NONBLOCK_SETTING_FAILED
    else
      let answered :=
        if plainProxy then { answer with proxy := { answer.proxy with response := ABSOLUTE_FORM } }
        else answer
      let init := initSession calls { basket with answer := answered } sockfd false .http11
      match accepted init with
      | none =>
        ⟨acts ++ init.acts ++ freeSession false false sockfd false init.answer.error, init.answer,
          none⟩
      | some session =>
        ⟨acts ++ init.acts, init.answer, some { session with plainProxy := plainProxy }⟩

/-- `createSession`, with the path on which the process ends. -/
def attemptSession (calls : SetupCalls) (basket : SetupBasket) : Option Attempted :=
  if strcasecmp basket.scheme (ascii "http") = 0 then
    some (.returned (createPlainHttp11Session calls basket))
  else
    let acts := connectSocketActs calls.net basket
    match connectSocket calls.net basket with
    | (none, answer) => some (.returned ⟨acts, answer, none⟩)
    | (some sockfd, answer) =>
      (createTlsSession calls { basket with answer := answer } sockfd).map (Attempted.after acts)

def createSession (calls : SetupCalls) (basket : SetupBasket) : Option SetupResult :=
  (attemptSession calls basket).bind Attempted.result

/-- `createSession` comes to the allocation of `connInfo`. -/
def AsksConnInfo (calls : SetupCalls) (basket : SetupBasket) : Prop :=
  strcasecmp basket.scheme (ascii "http") ≠ 0 ∧ (connectSocket calls.net basket).1 ≠ none ∧
    calls.sslCtxNew = true ∧ calls.sslNew = true ∧ calls.sslSetFd = true ∧
    basket.fingerprint ≠ none

/-! ## What an attempt leaves -/

/-- What a session owns. -/
def NewSession.resources (session : NewSession) : List Resource :=
  (if session.dynamicTableMaxSize.isSome then [.hpackCtx] else []) ++ .session ::
    (if session.tls then [.connInfo, .ssl, .sslCtx] else []) ++ [.socket session.sockfd]

/-- What a session has of the basket it was made for.  Its protocol is the one
that was selected. -/
structure Carries (calls : SetupCalls) (basket : SetupBasket) (session : NewSession) : Prop where
  scheme : session.scheme = copied 16 basket.scheme
  host : session.host = copied 256 basket.host
  port : session.port = copied 8 basket.port
  clientHelloId : session.clientHelloId = copied 64 basket.answer.clientHelloId
  nonBlocking : session.nonBlocking = basket.answer.nonBlocking
  expiration : session.expirationInMilliseconds = basket.sessionExpirationInMilliseconds
  proxy : { session.proxy with response := [] } =
    { copiedProxy basket.answer.proxy with response := [] }
  protocol : if session.tls then
      selectProtocol basket.forceHttp11 calls.alpnSelected = some session.protocol
    else session.protocol = .http11
  dynamicTable : session.dynamicTableMaxSize =
    if session.protocol = .http2 then some (dynamicTableMaxSize basket.fingerprint) else none
  reader : session.readerStarted = true ↔ session.protocol = .http2

/-- Parts of a session that own nothing else. -/
def Bare (left : List Resource) : Prop :=
  left = [] ∨ left = [.session] ∨ left = [.hpackCtx, .session]

/-- Without a session, what was allocated of one may be left, if the basket
had an error already or there is no memory for the HPACK context. -/
structure Leftover (calls : SetupCalls) (basket : SetupBasket) (left : List Resource) : Prop where
  parts : Bare left
  cause : left ≠ [] → basket.answer.error ≠ none ∨ calls.mallocHpackContext = false

/-- What an attempt comes to that starts with some resources. -/
structure SetupSpec (calls : SetupCalls) (basket : SetupBasket) (held : List Resource)
    (result : SetupResult) : Prop where
  settled : result.session = none ↔ result.answer.error ≠ none
  made : ∀ session, result.session = some session →
    heldAfter held result.acts = some session.resources ∧ basket.answer.error = none ∧
      Carries calls basket session
  lost : result.session = none →
    ∃ left, heldAfter held result.acts = some left ∧ Leftover calls basket left

section Spec

variable {calls : SetupCalls} {basket : SetupBasket} {result : SetupResult} {sockfd : Nat}
  {protocol : HttpProtocol} {session : NewSession} {held : List Resource} {acts : Acts}

theorem bare_nil : Bare [] := .inl rfl

theorem leftover_nil : Leftover calls basket [] := ⟨bare_nil, fun h => absurd rfl h⟩

theorem SetupSpec.failed (h : heldAfter held acts = some []) (answer : AnswerBasket)
    (error : Error) : SetupSpec calls basket held (failed acts answer error) where
  settled := iff_of_true rfl nofun
  made := nofun
  lost _ := ⟨[], h, leftover_nil⟩

theorem SetupSpec.after (middle : List Resource) (hacts : heldAfter held acts = some middle)
    (h : SetupSpec calls basket middle result) :
    SetupSpec calls basket held (result.after acts) where
  settled := h.settled
  made session hsession := by
    obtain ⟨hheld, hmade⟩ := h.made session hsession
    exact ⟨heldAfter_seq hacts hheld, hmade⟩
  lost hnone := by
    obtain ⟨left, hheld, hleft⟩ := h.lost hnone
    exact ⟨left, heldAfter_seq hacts hheld, hleft⟩

/-! ### Taking down -/

/-- `closeSession` gives back all that a session owns. -/
theorem closeSession_held (session : NewSession) (error : Option Error) :
    heldAfter session.resources (closeSession session error) = some [] := by
  obtain ⟨-, -, -, -, sockfd, tls, -, -, -, -, -, table, -⟩ := session
  unfold NewSession.resources closeSession freeSession
  dsimp only
  cases table with
  | none =>
    cases tls with
    | false => simp [heldAfter, stepHeld]
    | true => split_ifs <;> simp_all [heldAfter, stepHeld]
  | some size =>
    cases tls with
    | false => simp [heldAfter, stepHeld]
    | true => split_ifs <;> simp_all [heldAfter, stepHeld]

/-- What an attempt has once it has a `connInfo`. -/
def tlsResources (sockfd : Nat) : List Resource := [.connInfo, .ssl, .sslCtx, .socket sockfd]

theorem freeSession_held {left : List Resource} (hleft : Bare left) (ssl sslCtx : Bool)
    (error : Option Error) :
    heldAfter (left ++ ((if ssl then [.ssl] else []) ++ ((if sslCtx then [.sslCtx] else []) ++
      [.socket sockfd]))) (freeSession ssl sslCtx sockfd false error) = some left := by
  unfold freeSession
  rcases hleft with rfl | rfl | rfl
  all_goals
    cases ssl <;> cases sslCtx <;>
      cases error.any fun e => e.code = ERR_SESSION_SETTINGS_TIMEOUT.code <;>
        simp [heldAfter, stepHeld]

theorem abandon_held {left : List Resource} (hleft : Bare left) (error : Option Error) :
    heldAfter (left ++ tlsResources sockfd) (abandon sockfd error) = some left := by
  have huse : Resource.ssl ∈ left ++ tlsResources sockfd :=
    List.mem_append_right _ (by simp [tlsResources])
  have hrelease : Resource.connInfo ∈ left ++ tlsResources sockfd :=
    List.mem_append_right _ List.mem_cons_self
  have herase : (left ++ tlsResources sockfd).erase .connInfo =
      left ++ [.ssl, .sslCtx, .socket sockfd] := by
    rcases hleft with rfl | rfl | rfl
    all_goals simp [tlsResources]
  rw [abandon, heldAfter_use huse, heldAfter_release hrelease, herase]
  exact freeSession_held hleft true true error

/-! ### Making a session -/

/-- A session that is made and has no reader yet. -/
def initialised (basket : SetupBasket) (sockfd : Nat) (tls : Bool) (protocol : HttpProtocol) :
    NewSession :=
  { emptySession basket sockfd tls protocol with
    dynamicTableMaxSize :=
      if protocol = .http2 then some (dynamicTableMaxSize basket.fingerprint) else none }

/-- What the session adds to the resources. -/
def sessionResources (protocol : HttpProtocol) : List Resource :=
  if protocol = .http2 then [.hpackCtx, .session] else [.session]

/-- A session is accepted when the basket had no error and memory was there.
One that is not accepted is left behind. -/
theorem initSession_accepted (calls : SetupCalls) (basket : SetupBasket) (sockfd : Nat)
    (held : List Resource) (tls : Bool) (protocol : HttpProtocol) :
    (∃ session, accepted (initSession calls basket sockfd tls protocol) = some session ∧
      session = initialised basket sockfd tls protocol ∧ basket.answer.error = none ∧
      (initSession calls basket sockfd tls protocol).answer = basket.answer ∧
      heldAfter held (initSession calls basket sockfd tls protocol).acts =
        some (sessionResources protocol ++ held)) ∨
    (accepted (initSession calls basket sockfd tls protocol) = none ∧
      (initSession calls basket sockfd tls protocol).answer.error ≠ none ∧
      ∃ left, Leftover calls basket left ∧
        heldAfter held (initSession calls basket sockfd tls protocol).acts =
          some (left ++ held)) := by
  unfold initSession
  dsimp only
  by_cases hsession : calls.mallocSession = true
  case neg =>
    rw [if_pos hsession]
    exact .inr ⟨rfl, nofun, [], leftover_nil, rfl⟩
  rw [if_neg (not_not_intro hsession)]
  -- an error of the basket is found behind the session
  have hrejected (error : Option Error) (acts : Acts) (session : NewSession)
      (h : error ≠ none) :
      accepted ⟨acts, { basket.answer with error := error }, some session⟩ = none :=
    if_neg h
  have hmade (error : Option Error) (acts : Acts) (session : NewSession) (h : error = none) :
      accepted ⟨acts, { basket.answer with error := error }, some session⟩ = some session :=
    if_pos h
  cases protocol with
  | http11 =>
    rw [if_pos rfl]
    by_cases herror : basket.answer.error = none
    · exact .inl ⟨_, hmade _ _ _ herror, rfl, herror, rfl, rfl⟩
    · exact .inr ⟨hrejected _ _ _ herror, herror, [.session],
        ⟨.inr (.inl rfl), fun _ => .inl herror⟩, rfl⟩
  | http2 =>
    rw [if_neg nofun]
    by_cases hhpack : calls.mallocHpackContext = true
    · rw [if_neg (not_not_intro hhpack)]
      by_cases herror : basket.answer.error = none
      · exact .inl ⟨_, hmade _ _ _ herror, rfl, herror, rfl, rfl⟩
      · exact .inr ⟨hrejected _ _ _ herror, herror, [.hpackCtx, .session],
          ⟨.inr (.inr rfl), fun _ => .inl herror⟩, rfl⟩
    · rw [if_pos hhpack]
      exact .inr ⟨hrejected _ _ _ nofun, nofun, [.session],
        ⟨.inr (.inl rfl), fun _ => .inr (by simpa using hhpack)⟩, rfl⟩

theorem resources_initialised (basket : SetupBasket) (sockfd : Nat) (protocol : HttpProtocol) :
    (initialised basket sockfd true protocol).resources =
      sessionResources protocol ++ tlsResources sockfd := by
  cases protocol <;> rfl

theorem carries_initialised (sockfd : Nat) {tls readerStarted plainProxy : Bool}
    (hprotocol : if tls then
        selectProtocol basket.forceHttp11 calls.alpnSelected = some protocol
      else protocol = .http11)
    (hreader : readerStarted = true ↔ protocol = .http2) :
    Carries calls basket
      { initialised basket sockfd tls protocol with
        readerStarted := readerStarted, plainProxy := plainProxy } where
  scheme := rfl
  host := rfl
  port := rfl
  clientHelloId := rfl
  nonBlocking := rfl
  expiration := rfl
  proxy := rfl
  protocol := hprotocol
  dynamicTable := rfl
  reader := hreader

/-- Without a reader thread the session is closed again. -/
theorem openSession_spec
    (hprotocol : selectProtocol basket.forceHttp11 calls.alpnSelected = some protocol) :
    SetupSpec calls basket (tlsResources sockfd) (openSession calls basket sockfd protocol) := by
  have hinit := initSession_accepted calls basket sockfd (tlsResources sockfd) true protocol
  unfold openSession
  dsimp only
  generalize initSession calls basket sockfd true protocol = init at hinit ⊢
  rcases hinit with ⟨session, haccepted, rfl, herror, hanswer, hheld⟩ | ⟨haccepted, herror, left,
    hleft, hheld⟩
  · rw [haccepted]
    dsimp only
    rw [← resources_initialised basket] at hheld
    cases protocol with
    | http11 =>
      rw [if_pos rfl, hanswer]
      refine ⟨iff_of_false nofun (not_not_intro herror), ?_, nofun⟩
      intro session hsession
      injection hsession with hsession
      rw [← hsession]
      exact ⟨hheld, herror,
        carries_initialised sockfd hprotocol (iff_of_false Bool.false_ne_true nofun)⟩
    | http2 =>
      rw [if_neg nofun, hanswer]
      split
      · refine ⟨iff_of_false nofun (not_not_intro herror), ?_, nofun⟩
        intro session hsession
        cases hsession
        exact ⟨hheld, herror, carries_initialised sockfd hprotocol (iff_of_true rfl rfl)⟩
      · exact .failed (heldAfter_seq hheld (closeSession_held _ _)) _ _
  · rw [haccepted]
    refine ⟨iff_of_true rfl herror, nofun, fun _ => ⟨left, ?_, hleft⟩⟩
    exact heldAfter_seq hheld (abandon_held hleft.parts _)

theorem abandoned_spec (error : Option Error) (answer : AnswerBasket) (e : Error) :
    SetupSpec calls basket (tlsResources sockfd) (failed (abandon sockfd error) answer e) :=
  .failed (abandon_held bare_nil error) answer e

theorem connectTls_spec {fp : SetupProfile}
    (h : connectTls calls basket fp sockfd = some result) :
    SetupSpec calls basket (tlsResources sockfd) result := by
  unfold connectTls at h
  dsimp only at h
  split at h
  · cases h
    exact abandoned_spec _ _ _
  split at h
  · cases h
    exact abandoned_spec _ _ _
  rename_i protocol hprotocol
  split at h
  · cases h
    exact abandoned_spec _ _ _
  split at h
  · cases h
    exact abandoned_spec _ _ _
  split at h
  · rename_i hhttp11
    injection h with hresult
    rw [hhttp11] at hprotocol
    rw [← hresult]
    exact openSession_spec hprotocol
  · rename_i hhttp2
    obtain ⟨sent, -, rfl⟩ := Option.map_eq_some_iff.mp h
    have hselected : selectProtocol basket.forceHttp11 calls.alpnSelected = some .http2 := by
      cases protocol with
      | http11 => exact absurd rfl hhttp2
      | http2 => exact hprotocol
    refine .after (tlsResources sockfd) ?_ ?_
    · exact heldAfter_use (by simp [tlsResources])
    · split
      · exact abandoned_spec _ _ _
      · exact openSession_spec hselected

/-- A TLS session is tried, or the process ends where there is no memory for
`connInfo`. -/
theorem createTlsSession_spec {attempted : Attempted}
    (h : createTlsSession calls basket sockfd = some attempted) :
    (∃ result, attempted = .returned result ∧ SetupSpec calls basket [.socket sockfd] result ∧
      (calls.sslCtxNew = true → calls.sslNew = true → calls.sslSetFd = true →
        basket.fingerprint ≠ none → calls.mallocConnInfo = true)) ∨
    (attempted = .crashed [.acquire .sslCtx, .acquire .ssl, .use .ssl, .use .connInfo] ∧
      calls.sslCtxNew = true ∧ calls.sslNew = true ∧ calls.sslSetFd = true ∧
      basket.fingerprint ≠ none ∧ calls.mallocConnInfo = false) := by
  unfold createTlsSession at h
  split at h
  · rename_i hctx
    cases h
    exact .inl ⟨_, rfl, .failed (freeSession_held bare_nil false false _) _ _,
      fun hnew => absurd hnew hctx⟩
  rename_i hctx
  split at h
  · rename_i hssl
    cases h
    refine .inl ⟨_, rfl, .failed ?_ _ _, fun _ hnew => absurd hnew hssl⟩
    rw [heldAfter_acquire]
    exact freeSession_held bare_nil false true _
  rename_i hssl
  split at h
  · rename_i hfd
    cases h
    refine .inl ⟨_, rfl, .failed ?_ _ _, fun _ _ hset => absurd hset hfd⟩
    exact heldAfter_seq (by simp [heldAfter, stepHeld]) (freeSession_held bare_nil false true _)
  rename_i hfd
  split at h
  · rename_i hfingerprint
    cases h
    refine .inl ⟨_, rfl, .failed ?_ _ _, fun _ _ _ hsome => absurd hfingerprint hsome⟩
    exact heldAfter_seq rfl (freeSession_held bare_nil true true _)
  rename_i fp hfingerprint
  dsimp only at h
  split at h
  · rename_i hmalloc
    cases h
    refine .inr ⟨rfl, not_not.mp hctx, not_not.mp hssl, not_not.mp hfd, ?_, by simpa using hmalloc⟩
    rw [hfingerprint]
    exact Option.some_ne_none fp
  · rename_i hmalloc
    have hprepared : heldAfter [Resource.socket sockfd]
        ([.acquire .sslCtx, .acquire .ssl, .use .ssl] ++
          [.acquire .connInfo, .use .connInfo, .use .ssl]) = some (tlsResources sockfd) := by
      simp [heldAfter, stepHeld, tlsResources]
    split at h
    · cases h
      exact .inl ⟨_, rfl, .failed (heldAfter_seq hprepared (abandon_held bare_nil _)) _ _,
        fun _ _ _ _ => not_not.mp hmalloc⟩
    · obtain ⟨later, hlater, rfl⟩ := Option.map_eq_some_iff.mp h
      refine .inl ⟨_, rfl, .after _ (heldAfter_seq hprepared ?_) (connectTls_spec hlater),
        fun _ _ _ _ => not_not.mp hmalloc⟩
      simp [heldAfter, stepHeld, tlsResources]

end Spec

/-! ## The socket of an attempt -/

/-- The first address of a host has a socket that connects. -/
def FirstAddressConnects (net : Network) (host port : Bytes) (isProxy : Bool) : Prop :=
  ∃ calls rest sockfd, net.getaddrinfo host port = some (calls :: rest) ∧
    calls.socket = some sockfd ∧ connectWithTimeout sockfd calls isProxy = none

/-- Only the error and the answer of the proxy may differ. -/
def SameRequest (basket after : AnswerBasket) : Prop :=
  after = { basket with
    error := after.error, proxy := { basket.proxy with response := after.proxy.response } }

/-- What the search for a connection comes to, and what it leaves open. -/
structure SocketSpec (net : Network) (host port : Bytes) (isProxy : Bool) (basket : AnswerBasket)
    (acts : Acts) (found : Option Nat × AnswerBasket) : Prop where
  held : heldAfter [] acts = some (found.1.toList.map .socket)
  error : found.1 = none → found.2.error ≠ none
  first : found.1 ≠ none → (found.2.error = none ↔
    basket.error = none ∧ FirstAddressConnects net host port isProxy)
  same : SameRequest basket found.2

section Socket

variable {net : Network} {host port : Bytes} {isProxy : Bool} {basket : AnswerBasket}
  {addresses : List AddressCalls}

theorem SameRequest.refl (basket : AnswerBasket) : SameRequest basket basket := rfl

theorem SameRequest.withError (basket : AnswerBasket) (error : Option Error) :
    SameRequest basket { basket with error := error } := rfl

theorem SameRequest.trans {middle after : AnswerBasket} (h : SameRequest basket middle)
    (hafter : SameRequest middle after) : SameRequest basket after := by
  rw [SameRequest] at h hafter ⊢
  rw [h] at hafter
  exact hafter

theorem SameRequest.fields {after : AnswerBasket} (h : SameRequest basket after) :
    after.clientHelloId = basket.clientHelloId ∧ after.nonBlocking = basket.nonBlocking ∧
      after.proxy = { basket.proxy with response := after.proxy.response } := by
  have hid := congrArg AnswerBasket.clientHelloId h
  have hmode := congrArg AnswerBasket.nonBlocking h
  have hproxy := congrArg AnswerBasket.proxy h
  exact ⟨hid, hmode, hproxy⟩

theorem tryAddresses_same (isProxy : Bool) (basket : AnswerBasket)
    (addresses : List AddressCalls) :
    SameRequest basket (tryAddresses isProxy basket addresses).2 := by
  induction addresses generalizing basket with
  | nil => exact .refl basket
  | cons calls rest ih =>
    rw [tryAddresses]
    cases calls.socket with
    | none => exact (SameRequest.withError basket _).trans (ih _)
    | some sockfd =>
      dsimp only
      cases connectWithTimeout sockfd calls isProxy with
      | none => exact .refl basket
      | some e => exact (SameRequest.withError basket _).trans (ih _)

/-- The error of an address is not taken back. -/
theorem tryAddresses_error {e : Error} (h : basket.error = some e) :
    (tryAddresses isProxy basket addresses).2.error ≠ none := by
  induction addresses generalizing basket e with
  | nil => exact h ▸ nofun
  | cons calls rest ih =>
    rw [tryAddresses]
    cases calls.socket with
    | none => exact ih rfl
    | some sockfd =>
      dsimp only
      cases connectWithTimeout sockfd calls isProxy with
      | none => exact h ▸ nofun
      | some e => exact ih rfl

/-- The sockets that do not connect are closed. -/
theorem addressActs_held (isProxy : Bool) (basket : AnswerBasket)
    (addresses : List AddressCalls) :
    heldAfter [] (addressActs isProxy addresses) =
      some ((tryAddresses isProxy basket addresses).1.toList.map .socket) := by
  induction addresses generalizing basket with
  | nil => rfl
  | cons calls rest ih =>
    rw [addressActs, tryAddresses]
    cases calls.socket with
    | none => exact ih _
    | some sockfd =>
      dsimp only
      rw [heldAfter_acquire, heldAfter_use List.mem_cons_self]
      cases connectWithTimeout sockfd calls isProxy with
      | none => rfl
      | some e =>
        dsimp only
        rw [heldAfter_release List.mem_cons_self, List.erase_cons_head]
        exact ih _

/-- There is no error only behind a first address that connects. -/
theorem tryAddresses_first (hfound : (tryAddresses isProxy basket addresses).1 ≠ none) :
    (tryAddresses isProxy basket addresses).2.error = none ↔
      basket.error = none ∧ ∃ calls rest sockfd, addresses = calls :: rest ∧
        calls.socket = some sockfd ∧ connectWithTimeout sockfd calls isProxy = none := by
  cases addresses with
  | nil => exact absurd rfl hfound
  | cons calls rest =>
    rw [tryAddresses]
    cases hsocket : calls.socket with
    | none =>
      refine iff_of_false (tryAddresses_error rfl) ?_
      rintro ⟨-, first, later, sockfd, hfirst, hsome, -⟩
      cases hfirst
      cases hsocket.symm.trans hsome
    | some sockfd =>
      dsimp only
      cases hconnect : connectWithTimeout sockfd calls isProxy with
      | none => exact (and_iff_left ⟨calls, rest, sockfd, rfl, hsocket, hconnect⟩).symm
      | some e =>
        refine iff_of_false (tryAddresses_error rfl) ?_
        rintro ⟨-, first, later, sockfd', hfirst, hsome, hconnects⟩
        cases hfirst
        cases hsocket.symm.trans hsome
        cases hconnect.symm.trans hconnects

theorem createSocket_spec (net : Network) (basket : AnswerBasket) (host port : Bytes)
    (isProxy : Bool) :
    SocketSpec net host port isProxy basket (createSocketActs net host port isProxy)
      (createSocket net basket host port isProxy) := by
  have herror (h : (createSocket net basket host port isProxy).1 = none) :
      (createSocket net basket host port isProxy).2.error ≠ none := by
    obtain ⟨e, he⟩ := createSocket_error h
    exact he ▸ nofun
  unfold createSocket at herror ⊢
  unfold createSocketActs
  cases haddresses : net.getaddrinfo host port with
  | none =>
    exact ⟨rfl, fun _ => nofun, fun h => absurd rfl h, .withError basket _⟩
  | some addresses =>
    have hheld := addressActs_held isProxy basket addresses
    have hsame := tryAddresses_same isProxy basket addresses
    have hfirst := @tryAddresses_first isProxy basket addresses
    simp only [haddresses] at herror
    dsimp only
    generalize tryAddresses isProxy basket addresses = tried at herror hheld hsame hfirst ⊢
    obtain ⟨found, after⟩ := tried
    cases found with
    | none =>
      refine ⟨hheld, herror, fun h => absurd rfl h, ?_⟩
      dsimp only
      split
      · exact hsame.trans (.withError after _)
      · exact hsame
    | some sockfd =>
      refine ⟨hheld, nofun,
        fun hfound => (hfirst hfound).trans (and_congr_right fun _ => ?_), hsame⟩
      simp only [FirstAddressConnects, haddresses, Option.some_inj]

theorem connectToProxy_same (net : Network) (basket : AnswerBasket) (host port : Bytes) :
    SameRequest basket (connectToProxy net basket host port).2 := by
  unfold connectToProxy
  dsimp only
  split_ifs
  · exact .withError basket _
  · exact .withError basket _
  · split
    · exact .withError basket _
    · split
      · exact .withError basket _
      · exact .withError basket _
    · split_ifs
      · rfl
      · rfl
      · rfl

/-- A tunnel that opens adds no error. -/
theorem connectToProxy_error {after : AnswerBasket}
    (h : connectToProxy net basket host port = (true, after)) : after.error = basket.error := by
  unfold connectToProxy at h
  dsimp only at h
  split_ifs at h
  · cases h
  · cases h
  · split at h
    · cases h
    · split at h
      · cases h
      · cases h
    · split_ifs at h
      · cases h
      · cases h
      · cases h
        rfl

theorem createSocketThroughProxy_spec (net : Network) (basket : AnswerBasket)
    (host port : Bytes) :
    SocketSpec net basket.proxy.host basket.proxy.port true basket
      (createSocketThroughProxyActs net basket host port)
      (createSocketThroughProxy net basket host port) := by
  have hspec := createSocket_spec net basket basket.proxy.host basket.proxy.port true
  have hfailed := @createSocketThroughProxy_failed net host port basket
  unfold createSocketThroughProxyActs
  unfold createSocketThroughProxy at hfailed ⊢
  generalize createSocket net basket basket.proxy.host basket.proxy.port true = connected
    at hspec hfailed ⊢
  obtain ⟨found, reached⟩ := connected
  obtain ⟨hheld, herror, hfirst, hsame⟩ := hspec
  cases found with
  | none =>
    exact ⟨heldAfter_seq hheld rfl, herror, hfirst, hsame⟩
  | some sockfd =>
    have hproxied := hsame.trans (connectToProxy_same net reached host port)
    have hkept := @connectToProxy_error net host port reached
    dsimp only at hfailed ⊢
    generalize connectToProxy net reached host port = answered at hfailed hproxied hkept ⊢
    obtain ⟨opened, after⟩ := answered
    cases opened with
    | false =>
      refine ⟨heldAfter_seq hheld ?_, fun _ => ?_, fun h => absurd rfl h, hproxied⟩
      · simp [heldAfter, stepHeld]
      · obtain ⟨e, he, -⟩ := hfailed rfl
        rw [he]
        exact Option.some_ne_none e
    | true =>
      refine ⟨heldAfter_seq hheld ?_, fun h => (by cases h), fun _ => ?_, hproxied⟩
      · simp [heldAfter, stepHeld]
      · rw [hkept rfl]
        exact hfirst (Option.some_ne_none sockfd)

end Socket

/-! ## Every attempt -/

/-- The first address that a session is to be made with connects. -/
def Reaches (net : Network) (basket : SetupBasket) : Prop :=
  FirstAddressConnects net basket.peerHost basket.peerPort basket.proxied

section Attempt

variable {calls : SetupCalls} {basket : SetupBasket} {result : SetupResult} {sockfd : Nat}
  {session : NewSession} {answer : AnswerBasket}

/-- What an attempt comes to. -/
structure AttemptSpec (calls : SetupCalls) (basket : SetupBasket) (result : SetupResult) :
    Prop where
  settled : result.session = none ↔ result.answer.error ≠ none
  made : ∀ session, result.session = some session →
    heldAfter [] result.acts = some session.resources ∧ basket.answer.error = none ∧
      Reaches calls.net basket ∧ Carries calls basket session
  lost : result.session = none → ∃ left, heldAfter [] result.acts = some left ∧ Bare left ∧
    (left ≠ [] → ¬(basket.answer.error = none ∧ Reaches calls.net basket) ∨
      calls.mallocHpackContext = false)

theorem Carries.of_same (hsame : SameRequest basket.answer answer)
    (h : Carries calls { basket with answer := answer } session) :
    Carries calls basket session := by
  obtain ⟨hid, hmode, hproxy⟩ := hsame.fields
  refine ⟨h.scheme, h.host, h.port, ?_, h.nonBlocking.trans hmode, h.expiration, ?_, h.protocol,
    h.dynamicTable, h.reader⟩
  · rw [h.clientHelloId]
    exact congrArg (copied 64) hid
  · rw [h.proxy]
    show { copiedProxy answer.proxy with response := [] } = _
    rw [hproxy]
    rfl

/-- An attempt that has found a socket. -/
theorem AttemptSpec.of_socket {acts : Acts}
    (hheld : heldAfter [] acts = some [.socket sockfd])
    (hfirst : answer.error = none ↔ basket.answer.error = none ∧ Reaches calls.net basket)
    (hsame : SameRequest basket.answer answer)
    (h : SetupSpec calls { basket with answer := answer } [.socket sockfd] result) :
    AttemptSpec calls basket (result.after acts) where
  settled := h.settled
  made session hsession := by
    obtain ⟨hmade, herror, hcarries⟩ := h.made session hsession
    obtain ⟨hbasket, hreaches⟩ := hfirst.mp herror
    exact ⟨heldAfter_seq hheld hmade, hbasket, hreaches, hcarries.of_same hsame⟩
  lost hnone := by
    obtain ⟨left, hleft, hparts, hcause⟩ := h.lost hnone
    refine ⟨left, heldAfter_seq hheld hleft, hparts, fun hsome => ?_⟩
    exact (hcause hsome).imp_left fun herror hreached => herror (hfirst.mpr hreached)

/-- Nothing is left of an attempt without a socket. -/
theorem AttemptSpec.of_no_socket {acts : Acts} (hheld : heldAfter [] acts = some [])
    (herror : answer.error ≠ none) : AttemptSpec calls basket ⟨acts, answer, none⟩ where
  settled := iff_of_true rfl herror
  made := nofun
  lost _ := ⟨[], hheld, bare_nil, fun h => absurd rfl h⟩

theorem connectSocket_spec (net : Network) (basket : SetupBasket) :
    (∃ answer, connectSocket net basket = (none, answer) ∧ answer.error ≠ none ∧
      heldAfter [] (connectSocketActs net basket) = some []) ∨
    ∃ sockfd answer, connectSocket net basket = (some sockfd, answer) ∧
      heldAfter [] (connectSocketActs net basket) = some [.socket sockfd] ∧
      (answer.error = none ↔ basket.answer.error = none ∧ Reaches net basket) ∧
      SameRequest basket.answer answer := by
  have hspec : SocketSpec net basket.peerHost basket.peerPort basket.proxied basket.answer
      (connectSocketActs net basket) (connectSocket net basket) := by
    unfold connectSocketActs connectSocket SetupBasket.peerHost SetupBasket.peerPort
    cases basket.proxied with
    | true => exact createSocketThroughProxy_spec net basket.answer basket.host basket.port
    | false => exact createSocket_spec net basket.answer basket.host basket.port false
  generalize connectSocket net basket = connected at hspec ⊢
  obtain ⟨found, answer⟩ := connected
  cases found with
  | none => exact .inl ⟨answer, rfl, hspec.error rfl, hspec.held⟩
  | some sockfd =>
    exact .inr ⟨sockfd, answer, rfl, hspec.held, hspec.first nofun, hspec.same⟩

/-- The session of a plain connection. -/
theorem createPlainHttp11Session_spec (calls : SetupCalls) (basket : SetupBasket) :
    AttemptSpec calls basket (createPlainHttp11Session calls basket) := by
  have hspec := createSocket_spec calls.net basket.answer basket.peerHost basket.peerPort
    basket.proxied
  unfold createPlainHttp11Session
  dsimp only
  generalize createSocket calls.net basket.answer basket.peerHost basket.peerPort basket.proxied =
    connected at hspec ⊢
  obtain ⟨found, answer⟩ := connected
  cases found with
  | none => exact .of_no_socket hspec.held (hspec.error rfl)
  | some sockfd =>
    dsimp only
    have hsocket (result : SetupResult) (answer' : AnswerBasket)
        (herror : answer'.error = answer.error) (hsame : SameRequest basket.answer answer')
        (h : SetupSpec calls { basket with answer := answer' } [.socket sockfd] result) :
        AttemptSpec calls basket (result.after
          (createSocketActs calls.net basket.peerHost basket.peerPort basket.proxied)) :=
      .of_socket hspec.held (herror ▸ hspec.first (Option.some_ne_none sockfd)) hsame h
    split
    · refine hsocket _ answer rfl hspec.same (.failed ?_ _ _)
      simp [heldAfter, stepHeld]
    -- the answer of the proxy is made up here
    have hanswered : ∃ answer' : AnswerBasket, answer'.error = answer.error ∧
        SameRequest basket.answer answer' ∧
        (if basket.proxied then
          { answer with proxy := { answer.proxy with response := ABSOLUTE_FORM } }
        else answer) = answer' := by
      split
      · exact ⟨{ answer with proxy := { answer.proxy with response := ABSOLUTE_FORM } }, rfl,
          hspec.same.trans rfl, rfl⟩
      · exact ⟨answer, rfl, hspec.same, rfl⟩
    obtain ⟨answer', herror, hsame, heq⟩ := hanswered
    rw [heq]
    have hinit := initSession_accepted calls { basket with answer := answer' } sockfd
      [.socket sockfd] false .http11
    generalize initSession calls { basket with answer := answer' } sockfd false .http11 = init
      at hinit ⊢
    rcases hinit with ⟨session, haccepted, rfl, hnone, hkept, hheld⟩ | ⟨haccepted, hfailed, left,
      hleft, hheld⟩
    · rw [haccepted]
      let session : NewSession :=
        { initialised { basket with answer := answer' } sockfd false .http11 with
          plainProxy := basket.proxied }
      refine hsocket ⟨init.acts, init.answer, some session⟩ answer' herror hsame
        ⟨iff_of_false (Option.some_ne_none session) (not_not_intro (hkept ▸ hnone)),
          fun made hsession => ?_, fun h => (by cases h)⟩
      injection hsession with hsession
      rw [← hsession]
      exact ⟨hheld, hnone,
        carries_initialised sockfd rfl (iff_of_false Bool.false_ne_true fun h => (by cases h))⟩
    · rw [haccepted]
      dsimp only
      rw [List.append_assoc]
      refine hsocket ⟨init.acts ++ _, init.answer, none⟩ answer' herror hsame
        ⟨iff_of_true rfl hfailed, fun _ h => (by cases h), fun _ => ⟨left, ?_, hleft⟩⟩
      exact heldAfter_seq hheld (freeSession_held hleft.parts false false _)

/-- An attempt is over, with `connInfo` where it asked for one, or the process
ends when it writes to what it has not got. -/
theorem attemptSession_spec {attempted : Attempted}
    (h : attemptSession calls basket = some attempted) :
    (∃ result, attempted = .returned result ∧ AttemptSpec calls basket result ∧
      (AsksConnInfo calls basket → calls.mallocConnInfo = true)) ∨
    (∃ acts, attempted = .crashed acts ∧ heldAfter [] acts = none ∧
      AsksConnInfo calls basket ∧ calls.mallocConnInfo = false) := by
  unfold attemptSession at h
  split at h
  · rename_i hplain
    cases h
    exact .inl ⟨_, rfl, createPlainHttp11Session_spec calls basket,
      fun hasks => absurd hplain hasks.1⟩
  rename_i hscheme
  rcases connectSocket_spec calls.net basket with ⟨answer, hnone, herror, hheld⟩ |
    ⟨sockfd, answer, hsome, hheld, hfirst, hsame⟩
  · rw [hnone] at h
    cases h
    refine .inl ⟨_, rfl, .of_no_socket hheld herror, fun hasks => absurd ?_ hasks.2.1⟩
    rw [hnone]
  rw [hsome] at h
  have hfound : (connectSocket calls.net basket).1 ≠ none := by
    rw [hsome]
    exact Option.some_ne_none sockfd
  obtain ⟨later, hlater, rfl⟩ := Option.map_eq_some_iff.mp h
  rcases createTlsSession_spec hlater with ⟨result, rfl, hspec, hgiven⟩ |
    ⟨rfl, hctx, hssl, hfd, hfingerprint, hmalloc⟩
  · exact .inl ⟨_, rfl, .of_socket hheld hfirst hsame hspec,
      fun ⟨_, _, hctx, hssl, hfd, hfingerprint⟩ => hgiven hctx hssl hfd hfingerprint⟩
  · refine .inr ⟨_, rfl, ?_, ⟨hscheme, hfound, hctx, hssl, hfd, hfingerprint⟩, hmalloc⟩
    rw [heldAfter_append, hheld]
    simp [heldAfter, stepHeld]

/-- Without memory for `connInfo` the process ends where it asks for it. -/
theorem attemptSession_crashed (hasks : AsksConnInfo calls basket)
    (hmalloc : calls.mallocConnInfo = false) :
    ∃ acts, attemptSession calls basket = some (.crashed acts) := by
  obtain ⟨hscheme, hfound, hctx, hssl, hfd, hfingerprint⟩ := hasks
  obtain ⟨fp, hfp⟩ := Option.ne_none_iff_exists'.mp hfingerprint
  unfold attemptSession
  rw [if_neg hscheme]
  dsimp only
  generalize connectSocket calls.net basket = connected at hfound ⊢
  obtain ⟨found, answer⟩ := connected
  cases found with
  | none => exact absurd rfl hfound
  | some sockfd => simp [createTlsSession, hctx, hssl, hfd, hfp, hmalloc, Attempted.after]

theorem createSession_spec (h : createSession calls basket = some result) :
    AttemptSpec calls basket result := by
  obtain ⟨attempted, hattempt, hresult⟩ := Option.bind_eq_some_iff.mp h
  rcases attemptSession_spec hattempt with ⟨last, rfl, hspec, -⟩ | ⟨acts, rfl, -⟩
  · cases hresult
    exact hspec
  · cases hresult

/-- `createSession` leaves a session or an error.  A session is made only if
the basket had no error and the first address of the host, or of the proxy,
connects, and it has the identity of the basket. -/
theorem createSession_outcome (h : createSession calls basket = some result) :
    (result.session = none ↔ result.answer.error ≠ none) ∧
      ∀ session, result.session = some session →
        basket.answer.error = none ∧ Reaches calls.net basket ∧
          Carries calls basket session := by
  have hspec := createSession_spec h
  exact ⟨hspec.settled, fun session hsession => (hspec.made session hsession).2⟩

/-- No resource is used or released that is not there, exactly if there is
memory for `connInfo` where it is asked for.  A session owns all that is left,
and `closeSession` gives it back; without a session nothing is left but a
session that was rejected. -/
theorem createSession_ledger {attempted : Attempted}
    (h : attemptSession calls basket = some attempted) :
    ((heldAfter [] attempted.acts).isSome ↔
      (AsksConnInfo calls basket → calls.mallocConnInfo = true)) ∧
    ∀ result, attempted = .returned result →
      (∀ session, result.session = some session →
        heldAfter [] result.acts = some session.resources ∧
          ∀ error, heldAfter [] (result.acts ++ closeSession session error) = some []) ∧
      (result.session = none → ∃ left, heldAfter [] result.acts = some left ∧ Bare left ∧
        (left ≠ [] → ¬(basket.answer.error = none ∧ Reaches calls.net basket) ∨
          calls.mallocHpackContext = false)) := by
  rcases attemptSession_spec h with
    ⟨result, rfl, hspec, hgiven⟩ | ⟨acts, rfl, hheld, hasks, hmalloc⟩
  · refine ⟨iff_of_true ?_ hgiven, fun other hother => ?_⟩
    · show (heldAfter [] result.acts).isSome
      cases hsession : result.session with
      | none =>
        obtain ⟨left, hleft, -⟩ := hspec.lost hsession
        rw [hleft]
        rfl
      | some session =>
        rw [(hspec.made session hsession).1]
        rfl
    · cases hother
      refine ⟨fun session hsession => ?_, hspec.lost⟩
      have hheld := (hspec.made session hsession).1
      exact ⟨hheld, fun error => heldAfter_seq hheld (closeSession_held session error)⟩
  · refine ⟨iff_of_false ?_ fun hgiven => ?_, fun other hother => ?_⟩
    · show ¬(heldAfter [] acts).isSome
      rw [hheld]
      exact Bool.false_ne_true
    · rw [hgiven hasks] at hmalloc
      cases hmalloc
    · cases hother

end Attempt

/-- A request for a host with two addresses. -/
def setupRequest : SetupBasket where
  answer := { proxiedRequest with proxy := ⟨[], [], [], [], []⟩ }
  scheme := ascii "https"
  host := ascii "example.com"
  port := ascii "443"
  forceHttp11 := false
  fingerprint := some ⟨CHROME_OPENING, 65536⟩
  sessionExpirationInMilliseconds := 60000

/-- What is called for it, when the first address answers `socketError`. -/
def twoAddresses (socketError : Int) : SetupCalls where
  net :=
    { silentProxy with
      getaddrinfo := fun _ _ => some
        [⟨some 5, 0, -1, SOCKET_EINPROGRESS, 1, 0, socketError⟩, ⟨some 6, 0, 0, 0, 1, 0, 0⟩] }
  sslCtxNew := true
  sslNew := true
  sslSetFd := true
  mallocConnInfo := true
  setSocketReceiveTimeout := 0
  setSocketSendTimeout := 0
  sslConnect := 1
  alpnSelected := ascii "h2"
  clearSocketReceiveTimeout := 0
  clearSocketSendTimeout := 0
  setSocketNonBlocking := 0
  sslWrites := [.wrote 24, .wrote 33, .wrote 13]
  mallocSession := true
  mallocHpackContext := true
  createReader := true

/-- What comes of it. -/
def twoAddressesResult (socketError : Int) : SetupResult :=
  (createSession (twoAddresses socketError) setupRequest).getD ⟨[], setupRequest.answer, none⟩

theorem createSession_outcome_first :
    (twoAddressesResult 0).session ≠ none ∧ (twoAddressesResult 0).answer.error = none := by
  have hrun : createSession (twoAddresses 0) setupRequest = some (twoAddressesResult 0) := by
    decide
  have hsession : (twoAddressesResult 0).session ≠ none := by decide
  exact ⟨hsession, not_not.mp fun herror => hsession ((createSession_outcome hrun).1.mpr herror)⟩

/-- The second address connects, and its session is lost. -/
theorem createSession_ledger_second :
    (heldAfter [] (twoAddressesResult SOCKET_ECONNREFUSED).acts).isSome ∧
      ∃ left, heldAfter [] (twoAddressesResult SOCKET_ECONNREFUSED).acts = some left ∧ Bare left ∧
        (left ≠ [] → ¬((setupRequest.answer.error = none ∧
          Reaches (twoAddresses SOCKET_ECONNREFUSED).net setupRequest)) ∨
            (twoAddresses SOCKET_ECONNREFUSED).mallocHpackContext = false) := by
  have hrun : attemptSession (twoAddresses SOCKET_ECONNREFUSED) setupRequest =
      some (.returned (twoAddressesResult SOCKET_ECONNREFUSED)) := by
    decide
  obtain ⟨hheld, hresult⟩ := createSession_ledger hrun
  exact ⟨hheld.mpr fun _ => rfl, (hresult _ rfl).2 (by decide)⟩

example : heldAfter [] (twoAddressesResult SOCKET_ECONNREFUSED).acts =
    some [.hpackCtx, .session] := by
  decide +kernel

end HttpRequestClient.Client.Setup
