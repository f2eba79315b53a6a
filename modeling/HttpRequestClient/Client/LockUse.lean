import HttpRequestClient.Lib.LockOrder

/-!
# The locks of the client

What each function of the client locks and unlocks on its way, in order, where
it calls the network, and which thread it starts, stops and joins.  The data
that decides the way (which sessions are reaped, which streams are in a
registry, whether memory is short) is a parameter of the function.  What the
peer sends, and when, are events: the loop of a reader and the wait for a
stream have no bound.

The locks have an order.  The lock of a target is held while its session is
made, and a session is closed under no other lock, so that the reader, which
is stopped and joined there, can come to its end.  Under the registry of
streams the lock of a stream may be taken, never the other way round:
`readerDispatch` gives back the registry once it has the stream.  The locks of
the pool, of the two request registries and of the cache of TLS sessions are
innermost.

`runClient_finishes`: whatever has happened before, no two threads hold a
mutex together and the threads never wait for each other in a circle.  Who
waits for a mutex or for a reader waits in the end for a thread that can go on
or is in a call of the network.  Once the peer is silent and the network
answers every call, all calls come to their end, and so do the readers that
are stopped; no lock is left held.

The network may keep a thread waiting for as long as it likes, under
`writeMutex` too: the time-outs of the handshake are cleared behind it.

`ResponseStream.h` asks of the callbacks that they do not call the client.
They may take locks of the caller, one at a time.

Left out: the locks of the TLS library and of the allocator.  Calls of the
network that follow one another are one.
-/

namespace HttpRequestClient.Client.Locks

open LockOrder Runs

/-- The mutexes, with the number of their session, stream or entry. -/
inductive ClientLock where
  | establishRegistry
  | establish (i : Nat)
  | sessionEstablishFallback
  | pool
  | tlsSessionCache
  | asyncRegistry
  | lock (session : Nat)
  | write (session : Nat)
  | streams (session : Nat)
  | stream (stream : Nat)
  /-- A mutex of the caller's own. -/
  | caller (n : Nat)
  deriving DecidableEq, Repr

/-- What is outside of the client. -/
inductive Outside where
  | network
  /-- `SSL_connect`, in which tickets may arrive. -/
  | handshake
  /-- The response of an HTTP/1.1 exchange. -/
  | response
  /-- The frames for the reader of a session, whose thread has this name too.
  A number stands for one session. -/
  | reader (session : Nat)
  deriving DecidableEq, Repr

abbrev Ops := List (LockOp ClientLock Outside)

/-! ## Callbacks -/

/-- What the callbacks of a contract lock, one after the other. -/
def callbacks (calls : List Nat) : Ops := calls.flatMap fun n => locked (.caller n) []

/-! ## Streams -/

def registerStream (session : Nat) : Ops := locked (.streams session) []

def unregisterStream (session stream : Nat) : Ops :=
  locked (.streams session) [] ++ locked (.stream stream) []

/-- A stream that has ended is not waited for.  A thread that wakes before it
has ended waits again. -/
def awaitStream (stream : Nat) (isEnded : Bool) : Ops :=
  if isEnded then locked (.stream stream) []
  else [.lock (.stream stream), .wait (.stream stream), .unlock (.stream stream)]

def finalizeStreamIntoBasket (stream : Nat) : Ops := locked (.stream stream) []

/-- A stream of the registry, and what its `onComplete` locks. -/
structure StreamVisit where
  stream : Nat
  calls : List Nat

def failAllStreams (session : Nat) (visits : List StreamVisit) : Ops :=
  locked (.streams session)
    (visits.flatMap fun visit => locked (.stream visit.stream) (callbacks visit.calls))

/-! ## Sessions -/

/-- A session that is closed, and the streams that are still on it. -/
structure ClosedSession where
  session : Nat
  readerStarted : Bool
  visits : List StreamVisit

/-- `readerRunning = 0`, and the reader has ended when `pthread_join` is back. -/
def stopReader (session : Nat) (readerStarted : Bool) : Ops :=
  if readerStarted then [.stop (.reader session), .join (.reader session)] else []

/-- `SSL_shutdown` writes. -/
def freeSession : Ops := [.outside .network]

def closeSession (closed : ClosedSession) : Ops :=
  stopReader closed.session closed.readerStarted ++
    failAllStreams closed.session closed.visits ++ locked (.lock closed.session) freeSession

def cleanupSessions (toClose : List ClosedSession) : Ops :=
  locked .pool [] ++ toClose.flatMap closeSession

def lookupTLSSession : Ops := locked .tlsSessionCache []

/-- `newSessionCallback`, for a ticket that arrives. -/
def cacheTLSSession : Ops := locked .tlsSessionCache []

def cleanupTLSSessionCache : Ops := locked .tlsSessionCache []

/-- How `createSession` ends: with nothing to start or to free, with what it
frees, with a reader, or with a session whose reader cannot be started. -/
inductive CreateEnd where
  | plain
  | freed
  | reader (session : Nat)
  | unstarted (closed : ClosedSession)

/-- The way through `createSession`, which connects first: whether it asks for
a ticket, comes to the handshake, and to the preface of HTTP/2. -/
structure CreatePath where
  enablePreSharedKey : Bool
  handshake : Bool
  transport : Bool
  ending : CreateEnd

def createSession (path : CreatePath) : Ops :=
  [.outside .network] ++ (if path.enablePreSharedKey then lookupTLSSession else []) ++
    (if path.handshake then [.outside .handshake] else []) ++
    (if path.transport then [.outside .network] else []) ++
    match path.ending with
    | .plain => []
    | .freed => freeSession
    | .reader session => [.create (.reader session)]
    | .unstarted closed => closeSession closed

def getSessionInfo : Ops := locked .pool []

def registerSession : Ops := locked .pool []

def markProxySessionsGoingAway : Ops := locked .pool []

/-- What comes of a session that is made. -/
inductive Created where
  | registered
  | proxyError
  | failed

/-- The way through `handleSession`.  There is no slot when the table of the
locks is full, and nothing is made when the pool has a session. -/
structure SessionPath where
  toClose : List ClosedSession
  slot : Option Nat
  created : Option (CreatePath × Created)

def acquireEstablishLock (slot : Option Nat) : Ops :=
  locked .establishRegistry [] ++ slot.toList.map fun i => .lock (.establish i)

def releaseEstablishLock (i : Nat) : Ops :=
  .unlock (.establish i) :: locked .establishRegistry []

/-- The sections between `acquireEstablishLock` and `releaseEstablishLock`. -/
def findOrCreate (path : SessionPath) : Ops :=
  getSessionInfo ++
    match path.created with
    | none => []
    | some (create, .registered) => createSession create ++ registerSession
    | some (create, .proxyError) => createSession create ++ markProxySessionsGoingAway
    | some (create, .failed) => createSession create

def handleSession (path : SessionPath) : Ops :=
  cleanupSessions path.toClose ++ acquireEstablishLock path.slot ++
    match path.slot with
    | some i => findOrCreate path ++ releaseEstablishLock i
    | none =>
      .lock .sessionEstablishFallback ::
        (findOrCreate path ++ [.unlock .sessionEstablishFallback])

/-! ## Exchanges -/

def sendControlFrame (session : Nat) : Ops := locked (.write session) [.outside .network]

def handleHttp2Request (session : Nat) : Ops := locked (.write session) [.outside .network]

def endStream (stream : Nat) (calls : List Nat) : Ops := locked (.stream stream) (callbacks calls)

def sendHttp11Request : Ops := [.outside .network]

/-- Tickets and parts of the response come in, and each part is delivered. -/
def receiveHttp11Response : Ops := [.outside .response]

/-- An exchange: whether the request was sent, and what `onComplete` locks. -/
structure ExchangePath where
  sent : Bool
  completed : List Nat

/-- `writeMutex` is held for the whole exchange. -/
def handleHttp11RequestSync (session stream : Nat) (path : ExchangePath) : Ops :=
  locked (.write session)
    (sendHttp11Request ++ (if path.sent then receiveHttp11Response else []) ++
      endStream stream path.completed)

/-- The thread takes its locks itself, if it can be started. -/
def handleHttp11RequestAsync (stream : Nat) (unstarted : Option (List Nat)) : Ops :=
  unstarted.toList.flatMap (endStream stream)

/-- How a request is sent. -/
inductive Sending where
  | http2
  | http11 (path : ExchangePath)
  | http11Async (unstarted : Option (List Nat))

def sendRequest (session stream : Nat) : Sending → Ops
  | .http2 => handleHttp2Request session
  | .http11 path => handleHttp11RequestSync session stream path
  | .http11Async unstarted => handleHttp11RequestAsync stream unstarted

/-- Where `executeRequest` returns. -/
inductive Executed where
  | noSession
  | noStream (session : Nat)
  | sendingFailed (session stream : Nat) (sending : Sending) (calls : List Nat)
  | sent (session stream : Nat) (sending : Sending)
  | awaited (session stream : Nat) (sending : Sending) (isEnded finalized : Bool)

def executeRequest (path : SessionPath) (executed : Executed) : Ops :=
  handleSession path ++
    match executed with
    | .noSession => []
    | .noStream session => registerStream session
    | .sendingFailed session stream sending calls =>
      registerStream session ++ sendRequest session stream sending ++ callbacks calls ++
        unregisterStream session stream
    | .sent session stream sending =>
      registerStream session ++ sendRequest session stream sending
    | .awaited session stream sending isEnded finalized =>
      registerStream session ++ sendRequest session stream sending ++
        awaitStream stream isEnded ++
        if finalized then finalizeStreamIntoBasket stream else []

/-! ## The calls of the interface -/

/-- An attempt of a request, and the stream that is unregistered behind it. -/
structure Attempt where
  session : SessionPath
  executed : Executed
  unregistered : Option (Nat × Nat)

def attempts (path : List Attempt) : Ops :=
  path.flatMap fun attempt =>
    executeRequest attempt.session attempt.executed ++
      attempt.unregistered.toList.flatMap fun stream => unregisterStream stream.1 stream.2

def handleRequestSync (path : List Attempt) : Ops := attempts path

/-- `asyncAllocEntry`, and if there is an entry, the attempts and its
publication. -/
def handleRequestAsync (path : Option (List Attempt)) : Ops :=
  locked .asyncRegistry [] ++
    path.toList.flatMap fun path => attempts path ++ locked .asyncRegistry []

/-- A poll: the stream of its entry, whether it is finalized, and the entry
that is claimed. -/
structure PollPath where
  stream : Option Nat
  finalized : Bool
  claimed : Option (Option (Nat × Nat))

def handleResponseAsync (path : PollPath) : Ops :=
  locked .asyncRegistry [] ++
    path.stream.toList.flatMap (fun stream =>
      locked (.stream stream) [] ++
        if path.finalized then finalizeStreamIntoBasket stream else []) ++
    path.claimed.toList.flatMap fun entry =>
      locked .asyncRegistry [] ++
        entry.toList.flatMap fun stream => unregisterStream stream.1 stream.2

def cleanupAsyncRequests (streams : List (Nat × Nat)) : Ops :=
  locked .asyncRegistry [] ++ streams.flatMap fun stream => unregisterStream stream.1 stream.2

def cleanupEnv (streams : List (Nat × Nat)) (toClose : List ClosedSession) : Ops :=
  cleanupAsyncRequests streams ++ cleanupSessions toClose ++ cleanupTLSSessionCache

/-! ## The reader -/

/-- What the reader finds.  `writes` counts the frames that are written at
once, for want of memory, or as the burst of a batch. -/
inductive ReaderStep where
  | ticket
  | streamFrame (stream : Nat) (calls : List Nat) (writes : Nat)
  | unknownStream (writes : Nat)
  | connectionFrame (writes : Nat)
  | goAway (visits : List StreamVisit)
  | flushReaderWrites (writes : Nat)

def writeFrames (session writes : Nat) : Ops :=
  (List.replicate writes (sendControlFrame session)).flatten

/-- The registry is given back once the lock of the stream is taken. -/
def readerDispatch (session : Nat) : ReaderStep → Ops
  | .ticket => cacheTLSSession
  | .streamFrame stream calls writes =>
    handedOver (.streams session) (.stream stream) (callbacks calls) ++ writeFrames session writes
  | .unknownStream writes => locked (.streams session) [] ++ writeFrames session writes
  | .connectionFrame writes => writeFrames session writes
  | .goAway visits => failAllStreams session visits
  | .flushReaderWrites writes => writeFrames session writes

/-- A pass of `readerLoop`: `SSL_read`, which blocks until a record is whole,
and the frames of the batch. -/
def readerPass (session : Nat) (steps : List ReaderStep) : Ops :=
  .outside .network :: steps.flatMap (readerDispatch session)

/-- The connection is lost: the streams that are left fail. -/
def readerLost (session : Nat) (visits : List StreamVisit) : Ops :=
  .outside .network :: failAllStreams session visits

/-! ## Threads -/

/-- What a thread of the client does.  The readers are started by
`createSession`. -/
inductive ClientThread where
  | handleRequestSync (path : List Attempt)
  | handleRequestAsync (path : Option (List Attempt))
  | handleResponseAsync (path : PollPath)
  | cleanupAsyncRequests (streams : List (Nat × Nat))
  | cleanupEnv (streams : List (Nat × Nat)) (toClose : List ClosedSession)
  | http11ExchangeThread (session stream : Nat) (path : ExchangePath)

def ClientThread.ops : ClientThread → Ops
  | .handleRequestSync path => Locks.handleRequestSync path
  | .handleRequestAsync path => Locks.handleRequestAsync path
  | .handleResponseAsync path => Locks.handleResponseAsync path
  | .cleanupAsyncRequests streams => Locks.cleanupAsyncRequests streams
  | .cleanupEnv streams toClose => Locks.cleanupEnv streams toClose
  | .http11ExchangeThread session stream path => handleHttp11RequestSync session stream path

/-- What comes in: a ticket, a part of an HTTP/1.1 response, or what a reader
reads at once. -/
inductive Arrival where
  | ticket
  | delivered (calls : List Nat)
  | batch (steps : List ReaderStep)

def Arrival.ops : Arrival → Outside → Ops
  | .ticket, .handshake | .ticket, .response => cacheTLSSession
  | .delivered calls, .response => callbacks calls
  | .batch steps, .reader session => readerPass session steps
  | _, _ => []

def lostOps (visits : List StreamVisit) : Outside → Ops
  | .reader session => readerLost session visits
  | _ => []

inductive ClientEvent where
  | start (thread : ClientThread)
  | turn (t : Nat)
  | comes (t : Nat) (arrival : Arrival)
  /-- The reader that is this thread loses its connection. -/
  | lost (t : Nat) (visits : List StreamVisit)
  /-- A thread that waits for a stream is woken before it has ended. -/
  | woken (t : Nat)

def ClientEvent.event : ClientEvent → ThreadEvent ClientLock Outside
  | .start thread => .start thread.ops
  | .turn t => .turn t
  | .comes t arrival => .comes t arrival.ops
  | .lost t visits => .breaks t (lostOps visits)
  | .woken t => .wakes t

/-- The threads after some of them were started and had their turns. -/
def runClient (events : List ClientEvent) : System ClientLock Outside :=
  run stepThreads ⟨[], []⟩ (events.map ClientEvent.event)

/-! ## The order of the locks -/

def rank : ClientLock → Nat
  | .sessionEstablishFallback | .establish _ => 0
  | .lock _ => 2
  | .write _ => 3
  | .streams _ => 4
  | .stream _ => 5
  | .establishRegistry | .pool | .tlsSessionCache | .asyncRegistry => 6
  | .caller _ => 7

/-- The locks of a reader are above its level, and so are those of what comes
in behind a call. -/
def level : Outside → Nat
  | .reader _ => 1
  | .handshake | .response => 5
  | .network => 7

section Order

variable {session stream : Nat}

theorem callbacks_section (calls : List Nat) : Section rank level 7 (callbacks calls) :=
  Section.flatMap fun _ _ => Section.nil.locked (Nat.le_refl _)

theorem registerStream_section : Section rank level 4 (registerStream session) :=
  Section.nil.locked (Nat.le_refl _)

theorem stream_section : Section rank level 5 (locked (.stream stream) []) :=
  Section.nil.locked (Nat.le_refl _)

theorem unregisterStream_section : Section rank level 4 (unregisterStream session stream) :=
  Section.append (Section.nil.locked (Nat.le_refl _)) (stream_section.mono (by decide))

theorem awaitStream_section (isEnded : Bool) :
    Section rank level 5 (awaitStream stream isEnded) := by
  unfold awaitStream
  split
  · exact stream_section
  · exact Section.waited (Nat.le_refl _)

theorem endStream_section (calls : List Nat) : Section rank level 5 (endStream stream calls) := by
  have hcalls : Section rank level 6 (callbacks calls) := (callbacks_section calls).mono (by decide)
  exact hcalls.locked (Nat.le_refl _)

theorem failAllStreams_section (visits : List StreamVisit) :
    Section rank level 4 (failAllStreams session visits) :=
  Section.locked (Section.flatMap fun visit _ => endStream_section visit.calls) (Nat.le_refl _)

/-! ### Sessions -/

theorem network_section : Section rank level 8 ([.outside .network] : Ops) :=
  Section.outside Outside.network

theorem stopReader_section (readerStarted : Bool) :
    Section rank level 1 (stopReader session readerStarted) := by
  unfold stopReader
  split
  · exact Section.joined (Outside.reader session)
  · exact Section.nil

theorem closeSession_section (closed : ClosedSession) :
    Section rank level 1 (closeSession closed) := by
  refine Section.append (Section.append (stopReader_section _) ?_) ?_
  · exact (failAllStreams_section _).mono (by decide)
  · have hshutdown : Section rank level 3 freeSession := network_section.mono (by decide)
    have hlock : Section rank level 2 (locked (.lock closed.session) freeSession) :=
      hshutdown.locked (Nat.le_refl _)
    exact hlock.mono (by decide)

theorem pool_section : Section rank level 6 (locked .pool []) := Section.nil.locked (Nat.le_refl _)

theorem tlsSessionCache_section : Section rank level 6 (locked .tlsSessionCache []) :=
  Section.nil.locked (Nat.le_refl _)

theorem asyncRegistry_section : Section rank level 6 (locked .asyncRegistry []) :=
  Section.nil.locked (Nat.le_refl _)

theorem cleanupSessions_section (toClose : List ClosedSession) :
    Section rank level 1 (cleanupSessions toClose) :=
  Section.append (pool_section.mono (by decide))
    (Section.flatMap fun closed _ => closeSession_section closed)

theorem createSession_section (path : CreatePath) :
    Section rank level 1 (createSession path) := by
  have hnetwork : Section rank level 1 ([.outside .network] : Ops) :=
    network_section.mono (by decide)
  have hhandshake : Section rank level 6 ([.outside .handshake] : Ops) :=
    Section.outside Outside.handshake
  refine Section.append (Section.append (Section.append (Section.append hnetwork ?_) ?_) ?_) ?_
  · split
    · exact tlsSessionCache_section.mono (by decide)
    · exact Section.nil
  · split
    · exact hhandshake.mono (by decide)
    · exact Section.nil
  · split
    · exact hnetwork
    · exact Section.nil
  · split
    · exact Section.nil
    · exact hnetwork
    · exact Section.create _
    · exact closeSession_section _

theorem findOrCreate_section (path : SessionPath) : Section rank level 1 (findOrCreate path) := by
  have hpool : Section rank level 1 (locked .pool []) := pool_section.mono (by decide)
  refine Section.append hpool ?_
  split
  · exact Section.nil
  · exact (createSession_section _).append hpool
  · exact (createSession_section _).append hpool
  · exact createSession_section _

/-- The lock of the target, or the fallback, is around the making of a
session. -/
theorem handleSession_eq (path : SessionPath) :
    handleSession path = cleanupSessions path.toClose ++ (locked .establishRegistry [] ++
      match path.slot with
      | some i => locked (.establish i) (findOrCreate path) ++ locked .establishRegistry []
      | none => locked .sessionEstablishFallback (findOrCreate path)) := by
  unfold handleSession acquireEstablishLock releaseEstablishLock
  cases path.slot with
  | none => simp [locked]
  | some i => simp [locked]

theorem handleSession_section (path : SessionPath) : Section rank level 0 (handleSession path) := by
  have hregistry : Section rank level 0 (locked .establishRegistry []) :=
    Section.nil.locked (Nat.zero_le _)
  rw [handleSession_eq]
  refine Section.append ((cleanupSessions_section _).mono (by decide)) (hregistry.append ?_)
  cases path.slot with
  | none => exact (findOrCreate_section path).locked (Nat.zero_le _)
  | some i => exact ((findOrCreate_section path).locked (Nat.zero_le _)).append hregistry

/-! ### Exchanges -/

/-- A write to the network under `writeMutex`. -/
theorem write_section : Section rank level 3 (locked (.write session) [.outside .network]) := by
  have hcall : Section rank level 4 ([.outside .network] : Ops) := network_section.mono (by decide)
  exact hcall.locked (Nat.le_refl _)

theorem handleHttp11RequestSync_section (path : ExchangePath) :
    Section rank level 3 (handleHttp11RequestSync session stream path) := by
  have hsend : Section rank level 4 sendHttp11Request := network_section.mono (by decide)
  have hreceive : Section rank level 4 receiveHttp11Response :=
    Section.mono (Section.outside Outside.response) (by decide)
  have hend : Section rank level 4 (endStream stream path.completed) :=
    (endStream_section _).mono (by decide)
  refine Section.locked (Section.append (Section.append hsend ?_) hend) (Nat.le_refl _)
  split
  · exact hreceive
  · exact Section.nil

theorem sendRequest_section (sending : Sending) :
    Section rank level 3 (sendRequest session stream sending) := by
  cases sending with
  | http2 => exact write_section
  | http11 path => exact handleHttp11RequestSync_section path
  | http11Async unstarted =>
    exact Section.flatMap fun calls _ => (endStream_section calls).mono (by decide)

theorem executeRequest_section (path : SessionPath) (executed : Executed) :
    Section rank level 0 (executeRequest path executed) := by
  refine Section.append (handleSession_section path) ?_
  have hregister (session : Nat) : Section rank level 0 (registerStream session) :=
    registerStream_section.mono (by decide)
  have hsend (session stream : Nat) (sending : Sending) :
      Section rank level 0 (sendRequest session stream sending) :=
    (sendRequest_section sending).mono (by decide)
  cases executed with
  | noSession => exact Section.nil
  | noStream session => exact hregister session
  | sendingFailed session stream sending calls =>
    refine Section.append (((hregister _).append (hsend _ _ _)).append ?_) ?_
    · exact (callbacks_section calls).mono (by decide)
    · exact unregisterStream_section.mono (by decide)
  | sent session stream sending => exact (hregister _).append (hsend _ _ _)
  | awaited session stream sending isEnded finalized =>
    refine Section.append (((hregister _).append (hsend _ _ _)).append ?_) ?_
    · exact (awaitStream_section isEnded).mono (by decide)
    · split
      · exact stream_section.mono (by decide)
      · exact Section.nil

theorem attempts_section (path : List Attempt) : Section rank level 0 (attempts path) :=
  Section.flatMap fun _ _ => Section.append (executeRequest_section _ _)
    (Section.flatMap fun _ _ => unregisterStream_section.mono (by decide))

theorem handleResponseAsync_section (path : PollPath) :
    Section rank level 4 (handleResponseAsync path) := by
  have hregistry : Section rank level 4 (locked .asyncRegistry []) :=
    asyncRegistry_section.mono (by decide)
  have hstream (stream : Nat) : Section rank level 4 (locked (.stream stream) []) :=
    stream_section.mono (by decide)
  refine Section.append (hregistry.append (Section.flatMap fun stream _ => ?_))
    (Section.flatMap fun entry _ => hregistry.append
      (Section.flatMap fun _ _ => unregisterStream_section))
  refine Section.append (hstream stream) ?_
  split
  · exact hstream stream
  · exact Section.nil

theorem cleanupAsyncRequests_section (streams : List (Nat × Nat)) :
    Section rank level 4 (cleanupAsyncRequests streams) :=
  Section.append (asyncRegistry_section.mono (by decide))
    (Section.flatMap fun _ _ => unregisterStream_section)

/-! ### The reader -/

theorem writeFrames_section (writes : Nat) : Section rank level 3 (writeFrames session writes) :=
  write_section.replicate writes

theorem readerDispatch_section (step : ReaderStep) :
    Section rank level 3 (readerDispatch session step) := by
  cases step with
  | ticket => exact tlsSessionCache_section.mono (by decide)
  | streamFrame stream calls writes =>
    have hcalls : Section rank level 6 (callbacks calls) :=
      (callbacks_section calls).mono (by decide)
    have hstream : Section rank level 4 (handedOver (.streams session) (.stream stream)
        (callbacks calls)) :=
      Section.handedOver hcalls (Nat.le_refl _) (Nat.lt_succ_self 4)
    exact (hstream.mono (by decide)).append (writeFrames_section writes)
  | unknownStream writes =>
    exact (registerStream_section.mono (by decide)).append (writeFrames_section writes)
  | connectionFrame writes => exact writeFrames_section writes
  | goAway visits => exact (failAllStreams_section visits).mono (by decide)
  | flushReaderWrites writes => exact writeFrames_section writes

theorem readerPass_section (steps : List ReaderStep) :
    Section rank level 2 (readerPass session steps) := by
  have hread : Section rank level 2 ([.outside .network] : Ops) := network_section.mono (by decide)
  exact hread.append (Section.flatMap fun step _ => (readerDispatch_section step).mono (by decide))

theorem readerLost_section (visits : List StreamVisit) :
    Section rank level 2 (readerLost session visits) := by
  have hread : Section rank level 2 ([.outside .network] : Ops) := network_section.mono (by decide)
  exact hread.append ((failAllStreams_section visits).mono (by decide))

/-- What comes in keeps above the level of the call. -/
theorem Arrival.ops_section (arrival : Arrival) (call : Outside) :
    Section rank level (level call + 1) (arrival.ops call) := by
  unfold Arrival.ops
  split
  · exact tlsSessionCache_section
  · exact tlsSessionCache_section
  · exact (callbacks_section _).mono (by decide)
  · exact readerPass_section _
  · exact Section.nil

theorem lostOps_section (visits : List StreamVisit) (call : Outside) :
    Section rank level (level call + 1) (lostOps visits call) := by
  unfold lostOps
  split
  · exact readerLost_section visits
  · exact Section.nil

end Order

/-! ## Runs -/

/-- Every thread takes its locks in order. -/
theorem ClientThread.ops_section (thread : ClientThread) : Section rank level 0 thread.ops := by
  cases thread with
  | handleRequestSync path => exact attempts_section path
  | handleRequestAsync path =>
    have hregistry : Section rank level 0 (locked .asyncRegistry []) :=
      asyncRegistry_section.mono (by decide)
    exact hregistry.append
      (Section.flatMap fun path _ => (attempts_section path).append hregistry)
  | handleResponseAsync path => exact (handleResponseAsync_section path).mono (by decide)
  | cleanupAsyncRequests streams => exact (cleanupAsyncRequests_section streams).mono (by decide)
  | cleanupEnv streams toClose =>
    have hrequests : Section rank level 0 (Locks.cleanupAsyncRequests streams) :=
      (cleanupAsyncRequests_section streams).mono (by decide)
    have hsessions : Section rank level 0 (cleanupSessions toClose) :=
      (cleanupSessions_section toClose).mono (by decide)
    exact (hrequests.append hsessions).append (tlsSessionCache_section.mono (by decide))
  | http11ExchangeThread session stream path =>
    exact (handleHttp11RequestSync_section path).mono (by decide)

theorem ClientEvent.inOrder (clientEvent : ClientEvent) : InOrder rank level clientEvent.event := by
  cases clientEvent with
  | start thread => exact thread.ops_section
  | turn t => trivial
  | comes t arrival => exact arrival.ops_section
  | lost t visits => exact lostOps_section visits
  | woken t => trivial

theorem runClient_inv (events : List ClientEvent) : ThreadsInv rank level (runClient events) := by
  refine run_threadsInv (fun event hevent => ?_) threadsInv_nil
  obtain ⟨clientEvent, -, rfl⟩ := List.mem_map.mp hevent
  exact clientEvent.inOrder

/-- In every state of the client, a mutex has one holder at most, no thread
waits for itself through others, and each can go on or waits in the end for
one that can.  When nothing more comes in and the network answers, all are
done after as many rounds of turns as there are steps left: they have ended
with no lock held, or they are readers that nobody has stopped. -/
theorem runClient_finishes (events : List ClientEvent) :
    Exclusive (runClient events) ∧
      (∀ i, ¬Relation.TransGen (WaitsFor (runClient events)) i i) ∧
      (∀ (i : Nat) (thread : Thread ClientLock Outside),
        (runClient events).threads[i]? = some thread → thread.todo ≠ [] →
          ∃ j, Relation.ReflTransGen (WaitsFor (runClient events)) i j ∧
            Ready (runClient events) j) ∧
      ∀ rounds : List (List Nat), Rounds (runClient events) rounds →
        remaining (runClient events) ≤ rounds.length →
        ∀ thread ∈ (run stepThreads (runClient events) (turns rounds.flatten)).threads,
          Done (run stepThreads (runClient events) (turns rounds.flatten)) thread := by
  have hinv := runClient_inv events
  refine ⟨hinv.exclusive, no_circle hinv.ordered, ?_, ?_⟩
  · intro i thread hthread htodo
    exact exists_ready hinv.ordered hthread htodo
  · intro rounds hrounds hmany
    exact run_finishes hinv hrounds hmany

/-- The reader of session 1, which a request has left, writes to the network
under `writeMutex` when a reaper stops and joins it.  A second request is in
its handshake, and a third one waits for the lock of the same target. -/
def reapedSession : List ClientEvent :=
  [.start (.handleRequestSync
      [⟨⟨[], some 0, some (⟨false, true, true, .reader 1⟩, .registered)⟩,
        .awaited 1 5 .http2 true true, some (1, 5)⟩])] ++ List.replicate 32 (.turn 0) ++
    [.comes 1 (.batch [.connectionFrame 1]), .turn 1, .turn 1,
      .start (.cleanupEnv [] [⟨1, true, []⟩])] ++ List.replicate 5 (.turn 2) ++
    [.start (.handleRequestSync
      [⟨⟨[], some 1, some (⟨true, true, false, .freed⟩, .failed)⟩, .noSession, none⟩])] ++
    List.replicate 10 (.turn 3) ++
    [.comes 3 .ticket,
      .start (.handleRequestSync
        [⟨⟨[], some 1, some (⟨true, true, false, .freed⟩, .failed)⟩, .noSession, none⟩])] ++
    List.replicate 4 (.turn 4)

theorem runClient_finishes_reaped :
    (∃ j, Relation.ReflTransGen (WaitsFor (runClient reapedSession)) 2 j ∧
        Ready (runClient reapedSession) j) ∧
      ∀ thread ∈ (run stepThreads (runClient reapedSession)
        (turns (List.replicate 32 [4, 3, 2, 1, 0]).flatten)).threads,
        Done (run stepThreads (runClient reapedSession)
          (turns (List.replicate 32 [4, 3, 2, 1, 0]).flatten)) thread := by
  obtain ⟨-, -, hchain, hdone⟩ := runClient_finishes reapedSession
  constructor
  · have hreaper : ∃ h : 2 < (runClient reapedSession).threads.length,
        (runClient reapedSession).threads[2].todo ≠ [] := by decide +kernel
    obtain ⟨hlt, htodo⟩ := hreaper
    exact hchain 2 _ (List.getElem?_eq_getElem hlt) htodo
  · exact hdone (List.replicate 32 [4, 3, 2, 1, 0]) (by decide +kernel) (by decide +kernel)

end HttpRequestClient.Client.Locks
