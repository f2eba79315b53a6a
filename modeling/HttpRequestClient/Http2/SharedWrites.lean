import HttpRequestClient.Http2.Replies
import HttpRequestClient.Http2.RequestFrames

/-!
# Writers of one connection

`sslWriteAllEx` writes a buffer with as many calls of `SSL_write` as it takes,
and gives up when one fails or its wait runs out.  Request threads and the
reader thread write to the same connection: each takes `writeMutex`, writes its
buffers one after the other, up to the first that is not written whole, and
releases the mutex.  `stepWriters` is one step of one thread: its call of
`pthread_mutex_lock`, or one round of the loop in `sslWriteAllEx`.

* `runWriters_wire`: the octets on the wire are those of the critical sections
  in the order of the mutex.
* `runWriters_frames_iff`: the peer reads the frames of the sections if and
  only if no section before the last one was cut inside a frame.  A request
  that gives up inside a frame leaves the session to others.
* `establishTransport_error`: before that, the error of `establishTransport`
  says which part of the connection preface was not written whole.
* `connection_requests`: when no write fails, the peer reads the preface, and
  then the frames of each request behind each other.
-/

namespace HttpRequestClient.Http2

open Hpack Runs

/-! ## One buffer -/

/-- What one round of the loop gets: `SSL_write` took some octets, it wants the
socket to become ready (and `select` says whether it did in time), or it
failed. -/
inductive WriteAnswer where
  | wrote (count : Nat)
  | wants (ready : Bool)
  | failed
deriving DecidableEq, Repr

/-- The `int` that is passed for the length of the rest of a buffer.  Nothing
is written for a negative one. -/
def offeredLength (rest : Bytes) : Nat :=
  let length := rest.length % 4294967296
  if length < 2147483648 then length else 0

/-- `SSL_write` takes some of what it is offered. -/
def WriteAnswer.Possible (rest : Bytes) : WriteAnswer → Prop
  | .wrote count => 0 < count ∧ count ≤ offeredLength rest
  | _ => True

instance (rest : Bytes) (answer : WriteAnswer) : Decidable (answer.Possible rest) :=
  match answer with
  | .wrote count => inferInstanceAs (Decidable (0 < count ∧ count ≤ offeredLength rest))
  | .wants _ => inferInstanceAs (Decidable True)
  | .failed => inferInstanceAs (Decidable True)

/-- How many octets a round writes; `none` when the loop gives up. -/
def writeRound (nonBlocking : Bool) : WriteAnswer → Option Nat
  | .wrote count => some count
  | .wants ready => if nonBlocking = true ∧ ready = true then some 0 else none
  | .failed => none

/-- `sslWriteAllEx` with the answers it gets: its result, what it wrote, and the
answers it did not need.  `none` while it still waits for one. -/
def sslWriteAllEx (nonBlocking : Bool) (buf : Bytes) :
    List WriteAnswer → Option (Int × Bytes × List WriteAnswer)
  | [] => if buf = [] then some (1, [], []) else none
  | answer :: answers =>
    if buf = [] then some (1, [], answer :: answers)
    else
      match writeRound nonBlocking answer with
      | none => some (-1, [], answers)
      | some count =>
        (sslWriteAllEx nonBlocking (buf.drop count) answers).map fun (result, written, later) =>
          (result, buf.take count ++ written, later)

/-! ## Several writers -/

/-- Where a thread is.  In its section it has written some octets, it is inside
a buffer, and other buffers follow. -/
inductive WriterState where
  | idle
  | waiting (buffers : List Bytes)
  | writing (buffers : List Bytes) (sent rest : Bytes) (later : List Bytes)
deriving DecidableEq, Repr

/-- A critical section: what was to be written, what was, and whether every
buffer was written whole. -/
structure WriteSection where
  buffers : List Bytes
  sent : Bytes
  ok : Bool
deriving DecidableEq, Repr

/-- The threads, the mutex, the connection, and the sections that were left, in
their order. -/
structure Writers where
  threads : Nat → WriterState
  writeMutex : Option Nat
  wire : Bytes
  sections : List WriteSection

inductive WriterEvent where
  /-- A thread has buffers to write. -/
  | wantsToWrite (thread : Nat) (buffers : List Bytes)
  | lock (thread : Nat)
  | answered (thread : Nat) (answer : WriteAnswer)

def setThread (threads : Nat → WriterState) (thread : Nat) (state : WriterState) :
    Nat → WriterState :=
  fun other => if other = thread then state else threads other

/-- `pthread_mutex_unlock` behind the last buffer. -/
def leaveSection (writers : Writers) (thread : Nat) (done : WriteSection) : Writers :=
  { writers with
    threads := setThread writers.threads thread .idle
    writeMutex := none
    sections := writers.sections ++ [done] }

/-- The loop goes on inside a buffer, or with the next one, or the section
ends.  Nothing is to be written of an empty buffer. -/
def continueSection (writers : Writers) (thread : Nat) (buffers : List Bytes) (sent rest : Bytes) :
    List Bytes → Writers
  | [] =>
    if rest = [] then leaveSection writers thread ⟨buffers, sent, true⟩
    else
      { writers with
        threads := setThread writers.threads thread (.writing buffers sent rest []) }
  | next :: later =>
    if rest = [] then continueSection writers thread buffers sent next later
    else
      { writers with
        threads := setThread writers.threads thread (.writing buffers sent rest (next :: later)) }

section Step

variable (nonBlocking : Bool)

/-- An event that cannot happen leaves everything as it is. -/
def stepWriters (writers : Writers) : WriterEvent → Writers
  | .wantsToWrite thread buffers =>
    match writers.threads thread with
    | .idle => { writers with threads := setThread writers.threads thread (.waiting buffers) }
    | _ => writers
  | .lock thread =>
    match writers.threads thread, writers.writeMutex with
    | .waiting buffers, none =>
      continueSection { writers with writeMutex := some thread } thread buffers [] [] buffers
    | _, _ => writers
  | .answered thread answer =>
    match writers.threads thread with
    | .writing buffers sent rest later =>
      if answer.Possible rest then
        match writeRound nonBlocking answer with
        | none => leaveSection writers thread ⟨buffers, sent, false⟩
        | some count =>
          continueSection { writers with wire := writers.wire ++ rest.take count } thread buffers
            (sent ++ rest.take count) (rest.drop count) later
      else writers
    | _ => writers

/-- A connection on which some octets were written before. -/
def Writers.init (wire : Bytes) : Writers := ⟨fun _ => .idle, none, wire, []⟩

def runWriters (wire : Bytes) (events : List WriterEvent) : Writers :=
  run (stepWriters nonBlocking) (Writers.init wire) events

end Step

/-- The octets that the thread with the mutex has written of its section. -/
def Writers.current (writers : Writers) : Option WriteSection :=
  match writers.writeMutex with
  | none => none
  | some thread =>
    match writers.threads thread with
    | .writing buffers sent _ _ => some ⟨buffers, sent, false⟩
    | _ => none

/-- All sections, with the one that is not left yet. -/
def Writers.allSections (writers : Writers) : List WriteSection :=
  writers.sections ++ writers.current.toList

/-! ## One buffer, again -/

/-- The result of `sslWriteAllEx` says whether everything was written; what was
written is the beginning of the buffer in any case. -/
theorem sslWriteAllEx_spec {nonBlocking : Bool} {answers : List WriteAnswer} {buf written : Bytes}
    {result : Int} {later : List WriteAnswer}
    (h : sslWriteAllEx nonBlocking buf answers = some (result, written, later)) :
    written <+: buf ∧ (result = 1 ∧ written = buf ∨ result = -1 ∧ written ≠ buf) := by
  induction answers generalizing buf written result later with
  | nil =>
    unfold sslWriteAllEx at h
    split at h
    · rename_i hnil
      cases h
      exact ⟨List.nil_prefix, .inl ⟨rfl, hnil.symm⟩⟩
    · cases h
  | cons answer answers ih =>
    unfold sslWriteAllEx at h
    split at h
    · rename_i hnil
      cases h
      exact ⟨List.nil_prefix, .inl ⟨rfl, hnil.symm⟩⟩
    · rename_i hne
      split at h
      · cases h
        exact ⟨List.nil_prefix, .inr ⟨rfl, Ne.symm hne⟩⟩
      · rename_i count _
        obtain ⟨rest, hrest, hfinal⟩ := Option.map_eq_some_iff.mp h
        obtain ⟨result', written', later'⟩ := rest
        cases hfinal
        obtain ⟨hpre, hresult⟩ := ih hrest
        have hsplit := List.take_append_drop count buf
        refine ⟨?_, ?_⟩
        · obtain ⟨more, hmore⟩ := hpre
          exact ⟨more, by rw [List.append_assoc, hmore, hsplit]⟩
        · refine hresult.imp (And.imp_right fun hall => ?_) (And.imp_right fun hpart hall => ?_)
          · rw [hall, hsplit]
          · refine hpart (List.append_cancel_left (hall.trans hsplit.symm))

/-! ## What a step does -/

section Sections

variable {writers : Writers} {thread : Nat} {buffers : List Bytes} {sent rest : Bytes}
  {later : List Bytes}

@[simp] theorem setThread_self (threads : Nat → WriterState) (thread : Nat) (state : WriterState) :
    setThread threads thread state thread = state := if_pos rfl

theorem setThread_other {threads : Nat → WriterState} {thread other : Nat} (state : WriterState)
    (h : other ≠ thread) : setThread threads thread state other = threads other := if_neg h

/-- A section goes on with octets to write, or it is left when none are. -/
theorem continueSection_cases (writers : Writers) (thread : Nat) (buffers : List Bytes)
    (sent rest : Bytes) (later : List Bytes) :
    (∃ rest' later', rest' ≠ [] ∧ rest' ++ later'.flatten = rest ++ later.flatten ∧
        continueSection writers thread buffers sent rest later =
          { writers with
            threads := setThread writers.threads thread
              (.writing buffers sent rest' later') }) ∨
      rest ++ later.flatten = [] ∧
        continueSection writers thread buffers sent rest later =
          leaveSection writers thread ⟨buffers, sent, true⟩ := by
  induction later generalizing rest with
  | nil =>
    unfold continueSection
    by_cases hrest : rest = []
    · rw [if_pos hrest]
      exact .inr ⟨by rw [hrest]; rfl, rfl⟩
    · rw [if_neg hrest]
      exact .inl ⟨rest, [], hrest, rfl, rfl⟩
  | cons next later ih =>
    unfold continueSection
    by_cases hrest : rest = []
    · rw [if_pos hrest, hrest, List.nil_append, List.flatten_cons]
      exact ih next
    · rw [if_neg hrest]
      exact .inl ⟨rest, next :: later, hrest, rfl, rfl⟩

end Sections

/-- The octets of a section that is left: the beginning of what was to be
written, and all of it exactly when no write failed. -/
structure WriteSection.Left (done : WriteSection) : Prop where
  begins : done.sent <+: done.buffers.flatten
  ok_iff : done.ok = true ↔ done.sent = done.buffers.flatten

/-- What holds between the steps of the writers. -/
structure Serial (start : Bytes) (Asked : List Bytes → Prop) (writers : Writers) : Prop where
  wire : writers.wire = start ++ writers.allSections.flatMap WriteSection.sent
  owner : ∀ thread buffers sent rest later,
    writers.threads thread = .writing buffers sent rest later → writers.writeMutex = some thread
  inside : ∀ thread, writers.writeMutex = some thread → ∃ buffers sent rest later,
    writers.threads thread = .writing buffers sent rest later ∧ Asked buffers ∧ rest ≠ [] ∧
      buffers.flatten = sent ++ (rest ++ later.flatten)
  waiting : ∀ thread buffers, writers.threads thread = .waiting buffers → Asked buffers
  left : ∀ done ∈ writers.sections, Asked done.buffers ∧ done.Left

/-- A thread inside its section, of which it has written some octets. -/
structure Holds (start : Bytes) (Asked : List Bytes → Prop) (writers : Writers) (thread : Nat)
    (buffers : List Bytes) (sent : Bytes) : Prop where
  wire : writers.wire = start ++ (writers.sections.flatMap WriteSection.sent ++ sent)
  mutex : writers.writeMutex = some thread
  alone : ∀ other buffers sent rest later, other ≠ thread →
    writers.threads other ≠ .writing buffers sent rest later
  asked : Asked buffers
  waiting : ∀ thread buffers, writers.threads thread = .waiting buffers → Asked buffers
  left : ∀ done ∈ writers.sections, Asked done.buffers ∧ done.Left

section Serial

variable {start : Bytes} {Asked : List Bytes → Prop} {writers : Writers} {thread : Nat}
  {buffers : List Bytes} {sent : Bytes}

theorem Serial.init (start : Bytes) (Asked : List Bytes → Prop) :
    Serial start Asked (Writers.init start) where
  wire := (List.append_nil start).symm
  owner _ _ _ _ _ h := nomatch h
  inside _ h := nomatch h
  waiting _ _ h := nomatch h
  left _ h := nomatch h

theorem Holds.leave (h : Holds start Asked writers thread buffers sent) {ok : Bool}
    (hleft : WriteSection.Left ⟨buffers, sent, ok⟩) :
    Serial start Asked (leaveSection writers thread ⟨buffers, sent, ok⟩) where
  wire := by
    rw [leaveSection, Writers.allSections, h.wire]
    simp [Writers.current]
  owner other buffers' sent' rest later hother := by
    by_cases hsame : other = thread
    · rw [hsame, leaveSection] at hother
      simp at hother
    · rw [leaveSection] at hother
      exact absurd ((setThread_other _ hsame).symm.trans hother) (h.alone other _ _ _ _ hsame)
  inside _ hmutex := nomatch hmutex
  waiting other buffers' hother := by
    by_cases hsame : other = thread
    · rw [hsame, leaveSection] at hother
      simp at hother
    · exact h.waiting other buffers' ((setThread_other _ hsame).symm.trans hother)
  left done hdone := by
    rcases List.mem_append.mp hdone with hold | hnew
    · exact h.left done hold
    · rw [List.mem_singleton.mp hnew]
      exact ⟨h.asked, hleft⟩

theorem Holds.stay (h : Holds start Asked writers thread buffers sent) {rest : Bytes}
    {later : List Bytes} (hrest : rest ≠ [])
    (hbuffers : buffers.flatten = sent ++ (rest ++ later.flatten)) :
    Serial start Asked { writers with
      threads := setThread writers.threads thread (.writing buffers sent rest later) } where
  wire := by
    rw [Writers.allSections, Writers.current, h.wire]
    dsimp only
    rw [h.mutex]
    dsimp only
    rw [setThread_self]
    simp
  owner other buffers' sent' rest' later' hother := by
    by_cases hsame : other = thread
    · rw [hsame]
      exact h.mutex
    · exact absurd ((setThread_other _ hsame).symm.trans hother) (h.alone other _ _ _ _ hsame)
  inside other hmutex := by
    dsimp only at hmutex
    rw [h.mutex, Option.some.injEq] at hmutex
    subst hmutex
    exact ⟨buffers, sent, rest, later, setThread_self _ _ _, h.asked, hrest, hbuffers⟩
  waiting other buffers' hother := by
    by_cases hsame : other = thread
    · rw [hsame] at hother
      simp at hother
    · exact h.waiting other buffers' ((setThread_other _ hsame).symm.trans hother)
  left := h.left

theorem Holds.continue (h : Holds start Asked writers thread buffers sent) {rest : Bytes}
    {later : List Bytes} (hbuffers : buffers.flatten = sent ++ (rest ++ later.flatten)) :
    Serial start Asked (continueSection writers thread buffers sent rest later) := by
  rcases continueSection_cases writers thread buffers sent rest later with
    ⟨rest', later', hrest, hsame, hnext⟩ | ⟨hnone, hnext⟩
  · rw [hnext]
    exact h.stay hrest (by rw [hsame]; exact hbuffers)
  · rw [hnone, List.append_nil] at hbuffers
    rw [hnext]
    exact h.leave ⟨⟨[], (List.append_nil sent).trans hbuffers.symm⟩,
      iff_of_true rfl hbuffers.symm⟩

/-- A thread that gets the free mutex. -/
theorem Serial.enter (h : Serial start Asked writers)
    (hthread : writers.threads thread = .waiting buffers) (hfree : writers.writeMutex = none) :
    Holds start Asked { writers with writeMutex := some thread } thread buffers [] where
  wire := by
    have hwire := h.wire
    rw [Writers.allSections, Writers.current, hfree] at hwire
    simpa using hwire
  mutex := rfl
  alone other buffers' sent' rest' later' _ hother := by
    have howner := h.owner other buffers' sent' rest' later' hother
    rw [hfree] at howner
    cases howner
  asked := h.waiting thread buffers hthread
  waiting := h.waiting
  left := h.left

/-- The thread in the section has written some more. -/
theorem Serial.holds (h : Serial start Asked writers) {rest : Bytes} {later : List Bytes}
    (hthread : writers.threads thread = .writing buffers sent rest later) (more : Bytes) :
    Holds start Asked { writers with wire := writers.wire ++ more } thread buffers
      (sent ++ more) where
  wire := by
    have hwire := h.wire
    rw [Writers.allSections, Writers.current, h.owner thread _ _ _ _ hthread] at hwire
    dsimp only at hwire
    rw [hthread] at hwire
    dsimp only
    rw [hwire]
    simp
  mutex := h.owner thread _ _ _ _ hthread
  alone other buffers' sent' rest' later' hne hother := by
    have howner := h.owner other _ _ _ _ hother
    rw [h.owner thread _ _ _ _ hthread, Option.some.injEq] at howner
    exact hne howner.symm
  asked := by
    obtain ⟨buffers', sent', rest', later', hwriting, hasked, -⟩ :=
      h.inside thread (h.owner thread _ _ _ _ hthread)
    rw [hthread] at hwriting
    cases hwriting
    exact hasked
  waiting := h.waiting
  left := h.left

theorem Serial.remaining (h : Serial start Asked writers) {rest : Bytes} {later : List Bytes}
    (hthread : writers.threads thread = .writing buffers sent rest later) :
    rest ≠ [] ∧ buffers.flatten = sent ++ (rest ++ later.flatten) := by
  obtain ⟨buffers', sent', rest', later', hwriting, -, hrest, hbuffers⟩ :=
    h.inside thread (h.owner thread _ _ _ _ hthread)
  rw [hthread] at hwriting
  cases hwriting
  exact ⟨hrest, hbuffers⟩

theorem Serial.wants (h : Serial start Asked writers) (hidle : writers.threads thread = .idle)
    (hasked : Asked buffers) :
    Serial start Asked
      { writers with threads := setThread writers.threads thread (.waiting buffers) } where
  wire := by
    have hwire := h.wire
    rw [Writers.allSections, Writers.current] at hwire ⊢
    cases hmutex : writers.writeMutex with
    | none =>
      rw [hmutex] at hwire
      exact hwire
    | some owner =>
      rw [hmutex] at hwire
      have hne : owner ≠ thread := by
        intro hsame
        obtain ⟨_, _, _, _, hwriting, -⟩ := h.inside owner hmutex
        rw [hsame, hidle] at hwriting
        cases hwriting
      dsimp only at hwire ⊢
      rw [setThread_other _ hne]
      exact hwire
  owner other buffers' sent' rest' later' hother := by
    by_cases hsame : other = thread
    · rw [hsame] at hother
      simp at hother
    · exact h.owner other _ _ _ _ ((setThread_other _ hsame).symm.trans hother)
  inside other hmutex := by
    obtain ⟨buffers', sent', rest', later', hwriting, hrest⟩ := h.inside other hmutex
    refine ⟨buffers', sent', rest', later', ?_, hrest⟩
    have hne : other ≠ thread := by
      intro hsame
      rw [hsame, hidle] at hwriting
      cases hwriting
    exact (setThread_other _ hne).trans hwriting
  waiting other buffers' hother := by
    by_cases hsame : other = thread
    · rw [hsame] at hother
      have hwaiting := (setThread_self _ _ _).symm.trans hother
      cases hwaiting
      exact hasked
    · exact h.waiting other buffers' ((setThread_other _ hsame).symm.trans hother)
  left := h.left

/-- What a thread may ask for. -/
def WriterEvent.Asks (Asked : List Bytes → Prop) : WriterEvent → Prop
  | .wantsToWrite _ buffers => Asked buffers
  | _ => True

theorem stepWriters_serial (nonBlocking : Bool) (event : WriterEvent)
    (h : Serial start Asked writers) (hasks : event.Asks Asked) :
    Serial start Asked (stepWriters nonBlocking writers event) := by
  cases event with
  | wantsToWrite thread buffers =>
    unfold stepWriters
    dsimp only
    split
    · rename_i hidle
      exact h.wants hidle hasks
    · exact h
  | lock thread =>
    unfold stepWriters
    dsimp only
    split
    · rename_i buffers hthread hfree
      exact (h.enter hthread hfree).continue rfl
    · exact h
  | answered thread answer =>
    unfold stepWriters
    dsimp only
    split
    · rename_i buffers sent rest later hthread
      obtain ⟨hrest, hbuffers⟩ := h.remaining hthread
      split
      · split
        · have hholds := h.holds hthread []
          rw [List.append_nil, List.append_nil] at hholds
          refine hholds.leave ⟨⟨_, hbuffers.symm⟩, iff_of_false nofun fun hall => ?_⟩
          change sent = buffers.flatten at hall
          rw [hbuffers, List.self_eq_append_right] at hall
          exact hrest (List.append_eq_nil_iff.mp hall).1
        · rename_i count _
          refine (h.holds hthread (rest.take count)).continue ?_
          rw [List.append_assoc, ← List.append_assoc (rest.take count),
            List.take_append_drop]
          exact hbuffers
      · exact h
    · exact h

theorem runWriters_serial (nonBlocking : Bool) (start : Bytes) {events : List WriterEvent}
    (hasks : ∀ event ∈ events, event.Asks Asked) :
    Serial start Asked (runWriters nonBlocking start events) := by
  induction events using List.reverseRecOn with
  | nil => exact Serial.init start Asked
  | append_singleton events event ih =>
    rw [runWriters, run_append]
    exact stepWriters_serial nonBlocking event
      (ih fun other hother => hasks other (List.mem_append_left _ hother))
      (hasks event (List.mem_append_right _ List.mem_cons_self))

end Serial

/-! ## Whole runs -/

/-- The octets on the wire behind those written before. -/
def Writers.octets (writers : Writers) (start : Bytes) : Bytes := writers.wire.drop start.length

theorem Serial.octets {start : Bytes} {Asked : List Bytes → Prop} {writers : Writers}
    (h : Serial start Asked writers) :
    writers.octets start = (writers.allSections.map WriteSection.sent).flatten := by
  rw [Writers.octets, h.wire, List.drop_left, List.flatMap_def]

/-- What a thread writes in one section: a request, or what the reader has
queued. -/
inductive WireSource where
  | ofRequest (stack : Bytes) (streamId : Nat) (request : Http2Request)
  | ofReplies (replies : List Reply)

namespace WireSource

def buffers : WireSource → List Bytes
  | .ofRequest stack streamId request =>
    (handleHttp2Request (fun _ => true) stack streamId request).1
  | .ofReplies replies => [wireOctets replies]

/-- The header block of a request. -/
def hpackBuffer (request : Http2Request) : Bytes :=
  match encodeHeaders request.headers with
  | .error _ => []
  | .ok block => block

def frames : WireSource → List Frame
  | .ofRequest _ streamId request =>
    headersFrame streamId request (hpackBuffer request) :: dataFrames streamId request
  | .ofReplies replies => replies.map Reply.frame

/-- The lengths and the numbers of what is written fit their fields. -/
def Fits : WireSource → Prop
  | .ofRequest _ streamId request =>
    streamId < 2 ^ 31 ∧ HeadersFit request (HEADERS_FRAME_SIZE - 9) ∧
      request.body.length < 2 ^ 24
  | .ofReplies replies => ∀ reply ∈ replies, reply.Fits

/-- The frames of a source are read back from its buffers. -/
theorem all_buffers {source : WireSource} (h : source.Fits) :
    frameCutter.all source.buffers.flatten = (source.frames, []) := by
  cases source with
  | ofReplies replies =>
    rw [buffers, List.flatten_cons, List.flatten_nil, List.append_nil]
    exact all_wireOctets h
  | ofRequest stack streamId request =>
    obtain ⟨hid, ⟨block, hencode, hheaders⟩, hbody⟩ := h
    have hsent : (handleHttp2Request (fun _ => true) stack streamId request).2 = none :=
      handleHttp2Request_sent hencode
    obtain ⟨block', hblock', hwire⟩ := handleHttp2Request_wire hsent
    cases hencode.symm.trans hblock'
    have hdata : frameCutter.all ((dataFrames streamId request).flatMap Frame.encode) =
        (dataFrames streamId request, []) := by
      refine (frameCutter.all_flatMap Frame.encode id fun frame hframe => ?_).trans
        (by rw [List.map_id])
      rcases dataFrames_cases streamId request with ⟨-, hnone⟩ | ⟨-, hone⟩
      · rw [hnone] at hframe
        cases hframe
      · rw [hone, List.mem_singleton] at hframe
        rw [hframe]
        exact Frame.cut_encode ⟨hbody, hid⟩
    have hroom : (headersPayload request block).length + 9 ≤ HEADERS_FRAME_SIZE :=
      Nat.add_le_of_le_sub (by decide) hheaders
    rw [buffers, hwire, all_requestWire hid hroom, hdata, frames, hpackBuffer, hencode]

end WireSource

/-- What is asked for comes from sources that fit. -/
def FromSources (buffers : List Bytes) : Prop :=
  ∃ source : WireSource, source.Fits ∧ buffers = source.buffers

theorem fromSources_replies {replies : List Reply} (h : ∀ reply ∈ replies, reply.Fits) :
    FromSources (WireSource.ofReplies replies).buffers := ⟨.ofReplies replies, h, rfl⟩

theorem fromSources_request (stack : Bytes) {streamId : Nat} {request : Http2Request}
    (hid : streamId < 2 ^ 31) (hheaders : HeadersFit request (HEADERS_FRAME_SIZE - 9))
    (hbody : request.body.length < 2 ^ 24) :
    FromSources (WireSource.ofRequest stack streamId request).buffers :=
  ⟨.ofRequest stack streamId request, ⟨hid, hheaders, hbody⟩, rfl⟩

section Read

variable {nonBlocking : Bool} {start : Bytes} {events : List WriterEvent}

/-- Whether the peer, who cuts frames off the octets, gets the frames that were
written whole, section by section. -/
def ReadsFrames (start : Bytes) (writers : Writers) : Prop :=
  frameCutter.all (writers.octets start) =
    (frameCutter.ownFrames (writers.allSections.map WriteSection.sent),
      frameCutter.lastLeft (writers.allSections.map WriteSection.sent))

/-- The reader gives up five octets into an acknowledgement, and a request
thread writes behind it. -/
def cutWrites : List WriterEvent :=
  [.wantsToWrite 0 (WireSource.ofReplies [.settingsAck]).buffers,
    .wantsToWrite 1 (WireSource.ofReplies [.rstStream 1]).buffers, .lock 0, .lock 1,
    .answered 0 (.wrote 5), .answered 0 (.wants false), .lock 1, .answered 1 (.wrote 13)]

theorem cutWrites_asks : ∀ event ∈ cutWrites, event.Asks FromSources := by
  have hack : FromSources (WireSource.ofReplies [.settingsAck]).buffers :=
    fromSources_replies (List.forall_mem_singleton.mpr trivial)
  have hreset : FromSources (WireSource.ofReplies [.rstStream 1]).buffers :=
    fromSources_replies (List.forall_mem_singleton.mpr (show 1 < 2 ^ 31 by decide))
  intro event hevent
  simp only [cutWrites, List.mem_cons, List.not_mem_nil, or_false] at hevent
  rcases hevent with rfl | rfl | rfl | rfl | rfl | rfl | rfl | rfl
  · exact hack
  · exact hreset
  all_goals trivial

theorem cutWrites_sections : (runWriters true [] cutWrites).allSections =
    [⟨[[0, 0, 0, 0x4, 0x1, 0, 0, 0, 0]], [0, 0, 0, 0x4, 0x1], false⟩,
      ⟨[[0, 0, 4, 0x3, 0, 0, 0, 0, 1, 0, 0, 0, 0x8]], [0, 0, 4, 0x3, 0, 0, 0, 0, 1, 0, 0, 0, 0x8],
        true⟩] := by
  decide

/-- The frames of sections that were written whole. -/
theorem ownFrames_sources {sections : List WriteSection}
    (h : ∀ done ∈ sections, FromSources done.buffers ∧ done.Left) (hok : ∀ done ∈ sections,
      done.ok = true) :
    ∃ sources : List WireSource, sections.map WriteSection.buffers =
        sources.map WireSource.buffers ∧
      frameCutter.all (sections.map WriteSection.sent).flatten =
        (sources.flatMap WireSource.frames, []) := by
  induction sections with
  | nil => exact ⟨[], rfl, frameCutter.all_nil⟩
  | cons done sections ih =>
    rw [List.forall_mem_cons] at h hok
    obtain ⟨sources, hbuffers, hframes⟩ := ih h.2 hok.2
    obtain ⟨⟨source, hfits, hsource⟩, -, hall⟩ := h.1
    refine ⟨source :: sources, by rw [List.map_cons, List.map_cons, hbuffers, hsource], ?_⟩
    rw [List.map_cons, List.flatten_cons, frameCutter.all_append, hall.mp hok.1, hsource,
      WireSource.all_buffers hfits, List.nil_append, hframes, List.flatMap_cons]

/-- When no write fails, the peer reads the frames of the sections. -/
theorem runWriters_requests (hasks : ∀ event ∈ events, event.Asks FromSources)
    (hfree : (runWriters nonBlocking start events).writeMutex = none)
    (hok : ∀ done ∈ (runWriters nonBlocking start events).sections, done.ok = true) :
    ∃ sources : List WireSource,
      (runWriters nonBlocking start events).sections.map WriteSection.buffers =
        sources.map WireSource.buffers ∧
      frameCutter.all ((runWriters nonBlocking start events).octets start) =
        (sources.flatMap WireSource.frames, []) := by
  have hserial : Serial start FromSources (runWriters nonBlocking start events) :=
    runWriters_serial nonBlocking start hasks
  have hsections : (runWriters nonBlocking start events).allSections =
      (runWriters nonBlocking start events).sections := by
    rw [Writers.allSections, Writers.current, hfree]
    exact List.append_nil _
  rw [hserial.octets, hsections]
  exact ownFrames_sources hserial.left hok

end Read

/-! ## The start of a connection -/

def ERR_REQUEST_UNSUPPORTED_USERAGENT : Error :=
  ⟨"2-0009", "Unsupported user-agent, Google Chrome supported only."⟩
def ERR_REQUEST_SENDING_HTTP2_PREFACE_FRAME_FAILED : Error :=
  ⟨"2-0012", "Sending http/2 preface frame failed."⟩
def ERR_REQUEST_SENDING_HTTP2_SETTINGS_FRAME_FAILED : Error :=
  ⟨"2-0013", "Sending http/2 settings frame failed."⟩
def ERR_REQUEST_SENDING_HTTP2_WINDOW_UPDATE_FRAME_FAILED : Error :=
  ⟨"2-0014", "Sending http/2 window update frame failed."⟩

def HTTP2_PREFACE : Bytes := ascii "PRI * HTTP/2.0\r\n\r\nSM\r\n\r\n"

/-- The frames of a fingerprint that open a connection. -/
structure OpeningFrames where
  settingsFrame : Bytes
  windowUpdateFrame : Bytes
deriving DecidableEq, Repr

/-- HEADER_TABLE_SIZE 65536, ENABLE_PUSH 0, INITIAL_WINDOW_SIZE 6291456 and
MAX_HEADER_LIST_SIZE 262144; and 15663105 for the window. -/
def CHROME_OPENING : OpeningFrames where
  settingsFrame := [
    0x00, 0x00, 0x18, 0x04, 0x00, 0x00, 0x00, 0x00, 0x00,
    0x00, 0x01, 0x00, 0x01, 0x00, 0x00,
    0x00, 0x02, 0x00, 0x00, 0x00, 0x00,
    0x00, 0x04, 0x00, 0x60, 0x00, 0x00,
    0x00, 0x06, 0x00, 0x04, 0x00, 0x00]
  windowUpdateFrame := [
    0x00, 0x00, 0x04, 0x08, 0x00, 0x00, 0x00, 0x00, 0x00, 0x00, 0xEF, 0x00, 0x01]

/-- ENABLE_PUSH 0, MAX_CONCURRENT_STREAMS 100, INITIAL_WINDOW_SIZE 2097152 and
NO_RFC7540_PRIORITIES 1; and 10420225 for the window. -/
def CRIOS_OPENING : OpeningFrames where
  settingsFrame := [
    0x00, 0x00, 0x18, 0x04, 0x00, 0x00, 0x00, 0x00, 0x00,
    0x00, 0x02, 0x00, 0x00, 0x00, 0x00,
    0x00, 0x03, 0x00, 0x00, 0x00, 0x64,
    0x00, 0x04, 0x00, 0x20, 0x00, 0x00,
    0x00, 0x09, 0x00, 0x00, 0x00, 0x01]
  windowUpdateFrame := [
    0x00, 0x00, 0x04, 0x08, 0x00, 0x00, 0x00, 0x00, 0x00, 0x00, 0x9F, 0x00, 0x01]

/-- Write buffers up to the first that is not written whole, each with the
error for it.  The error, and what was written. -/
def writeParts (nonBlocking : Bool) :
    List (Bytes × Error) → List WriteAnswer → Option (Option Error × Bytes)
  | [], _ => some (none, [])
  | (buf, error) :: parts, answers =>
    match sslWriteAllEx nonBlocking buf answers with
    | none => none
    | some (result, written, later) =>
      if result ≠ 1 then some (some error, written)
      else (writeParts nonBlocking parts later).map fun (error, more) => (error, written ++ more)

/-- The parts of the connection preface, and the errors for them. -/
def openingParts (opening : OpeningFrames) : List (Bytes × Error) :=
  [(HTTP2_PREFACE, ERR_REQUEST_SENDING_HTTP2_PREFACE_FRAME_FAILED),
    (opening.settingsFrame, ERR_REQUEST_SENDING_HTTP2_SETTINGS_FRAME_FAILED),
    (opening.windowUpdateFrame, ERR_REQUEST_SENDING_HTTP2_WINDOW_UPDATE_FRAME_FAILED)]

/-- A fingerprint that is missing is found out behind the preface. -/
def establishTransport (nonBlocking : Bool) (fp : Option OpeningFrames)
    (answers : List WriteAnswer) : Option (Option Error × Bytes) :=
  match fp with
  | some opening => writeParts nonBlocking (openingParts opening) answers
  | none =>
    (writeParts nonBlocking
      [(HTTP2_PREFACE, ERR_REQUEST_SENDING_HTTP2_PREFACE_FRAME_FAILED)] answers).map
        fun (error, sent) => (error.or (some ERR_REQUEST_UNSUPPORTED_USERAGENT), sent)

/-- The error of the part that ends behind some octets. -/
def partAt : List (Bytes × Error) → Nat → Option Error
  | [], _ => none
  | (buf, error) :: parts, length =>
    if length < buf.length then some error else partAt parts (length - buf.length)

/-- What was written is the beginning of the parts, and the error is that of
the part in which it ends. -/
theorem writeParts_spec {nonBlocking : Bool} {parts : List (Bytes × Error)}
    {answers : List WriteAnswer} {error : Option Error} {sent : Bytes}
    (h : writeParts nonBlocking parts answers = some (error, sent)) :
    sent <+: (parts.map Prod.fst).flatten ∧ error = partAt parts sent.length ∧
      (error = none ↔ sent = (parts.map Prod.fst).flatten) := by
  induction parts generalizing answers error sent with
  | nil =>
    cases h
    exact ⟨List.prefix_refl _, rfl, iff_of_true rfl rfl⟩
  | cons part parts ih =>
    obtain ⟨buf, partError⟩ := part
    unfold writeParts at h
    split at h
    · cases h
    · rename_i result written later hwrite
      obtain ⟨hpre, hresult⟩ := sslWriteAllEx_spec hwrite
      rw [List.map_cons, List.flatten_cons, partAt]
      dsimp only
      split at h
      · rename_i hfailed
        cases h
        obtain ⟨-, hpart⟩ := hresult.resolve_left fun hall => hfailed hall.1
        have hshort : sent.length < buf.length := by
          refine Nat.lt_of_le_of_ne hpre.length_le fun hsame => hpart ?_
          exact hpre.eq_of_length hsame
        refine ⟨hpre.trans (List.prefix_append _ _), (if_pos hshort).symm, ?_⟩
        refine iff_of_false nofun fun hall => ?_
        have hlength := congrArg List.length hall
        rw [List.length_append] at hlength
        omega
      · rename_i hone
        obtain ⟨-, rfl⟩ := hresult.resolve_right fun hpart => hone (by rw [hpart.1]; decide)
        obtain ⟨rest, hrest, hfinal⟩ := Option.map_eq_some_iff.mp h
        obtain ⟨error', more⟩ := rest
        cases hfinal
        obtain ⟨hmore, herror, hall⟩ := ih hrest
        refine ⟨(List.prefix_append_right_inj _).mpr hmore, ?_, ?_⟩
        · rw [List.length_append, if_neg (by omega), Nat.add_sub_cancel_left]
          exact herror
        · rw [hall, List.append_cancel_left_eq]

theorem openingParts_octets (opening : OpeningFrames) :
    ((openingParts opening).map Prod.fst).flatten =
      HTTP2_PREFACE ++ opening.settingsFrame ++ opening.windowUpdateFrame := by
  simp [openingParts]

/-- The error of `establishTransport` is that of the part of the preface in
which the octets on the wire end, and there is none when they are complete. -/
theorem establishTransport_error {nonBlocking : Bool} {opening : OpeningFrames}
    {answers : List WriteAnswer} {error : Option Error} {sent : Bytes}
    (h : establishTransport nonBlocking (some opening) answers = some (error, sent)) :
    sent <+: HTTP2_PREFACE ++ opening.settingsFrame ++ opening.windowUpdateFrame ∧
      error = partAt (openingParts opening) sent.length ∧
      (error = none ↔
        sent = HTTP2_PREFACE ++ opening.settingsFrame ++ opening.windowUpdateFrame) := by
  have hspec := writeParts_spec h
  rw [openingParts_octets] at hspec
  exact hspec

/-- The frames of a fingerprint as the peer reads them. -/
def OpeningFrames.frames (opening : OpeningFrames) : List Frame :=
  [⟨0x4, 0, 0, opening.settingsFrame.drop 9⟩, ⟨0x8, 0, 0, opening.windowUpdateFrame.drop 9⟩]

/-- Every profile opens a connection with SETTINGS and WINDOW_UPDATE. -/
theorem all_opening {opening : OpeningFrames}
    (h : opening = CHROME_OPENING ∨ opening = CRIOS_OPENING) :
    frameCutter.all (opening.settingsFrame ++ opening.windowUpdateFrame) =
      (opening.frames, []) := by
  have hsettings : frameCutter.cut (opening.settingsFrame ++ opening.windowUpdateFrame) =
      some (⟨0x4, 0, 0, opening.settingsFrame.drop 9⟩, opening.windowUpdateFrame) := by
    rcases h with rfl | rfl <;> decide
  have hupdate : frameCutter.cut opening.windowUpdateFrame =
      some (⟨0x8, 0, 0, opening.windowUpdateFrame.drop 9⟩, []) := by
    rcases h with rfl | rfl <;> decide
  rw [frameCutter.all_of_some hsettings, frameCutter.all_of_some hupdate, frameCutter.all_nil]
  rfl

/-- When no write fails, the peer reads the connection preface, SETTINGS and
WINDOW_UPDATE, and then the frames of every request and of every burst of the
reader without other frames between them, in the order of the mutex. -/
theorem connection_requests {nonBlocking : Bool} {opening : OpeningFrames}
    (hprofile : opening = CHROME_OPENING ∨ opening = CRIOS_OPENING)
    {answers : List WriteAnswer} {start : Bytes}
    (hopened : establishTransport nonBlocking (some opening) answers = some (none, start))
    {events : List WriterEvent} (hasks : ∀ event ∈ events, event.Asks FromSources)
    (hfree : (runWriters nonBlocking start events).writeMutex = none)
    (hok : ∀ done ∈ (runWriters nonBlocking start events).sections, done.ok = true) :
    ∃ (sources : List WireSource) (octets : Bytes),
      (runWriters nonBlocking start events).sections.map WriteSection.buffers =
        sources.map WireSource.buffers ∧
      (runWriters nonBlocking start events).wire = HTTP2_PREFACE ++ octets ∧
      frameCutter.all octets = (opening.frames ++ sources.flatMap WireSource.frames, []) := by
  have hstart : start =
      HTTP2_PREFACE ++ opening.settingsFrame ++ opening.windowUpdateFrame := by
    rw [← openingParts_octets]
    exact (writeParts_spec hopened).2.2.mp rfl
  obtain ⟨sources, hbuffers, hframes⟩ := runWriters_requests hasks hfree hok
  have hserial : Serial start FromSources (runWriters nonBlocking start events) :=
    runWriters_serial nonBlocking start hasks
  refine ⟨sources, opening.settingsFrame ++ opening.windowUpdateFrame ++
    (runWriters nonBlocking start events).octets start, hbuffers, ?_, ?_⟩
  · rw [hserial.octets, hserial.wire, List.flatMap_def]
    simp only [hstart, List.append_assoc]
  · rw [frameCutter.all_append, all_opening hprofile, List.nil_append, hframes]

/-- The preface goes out in pieces, and the socket breaks in the last one. -/
theorem establishTransport_error_lost :
    (some ERR_REQUEST_SENDING_HTTP2_WINDOW_UPDATE_FRAME_FAILED : Option Error) =
      partAt (openingParts CHROME_OPENING)
        (HTTP2_PREFACE ++ CHROME_OPENING.settingsFrame ++
          CHROME_OPENING.windowUpdateFrame.take 4).length := by
  have hlost : establishTransport true (some CHROME_OPENING)
      [.wrote 24, .wants true, .wrote 33, .wrote 4, .failed] =
        some (some ERR_REQUEST_SENDING_HTTP2_WINDOW_UPDATE_FRAME_FAILED,
          HTTP2_PREFACE ++ CHROME_OPENING.settingsFrame ++
            CHROME_OPENING.windowUpdateFrame.take 4) := by
    decide
  exact (establishTransport_error hlost).2.1

/-- A request in pieces, while the reader waits for the mutex. -/
def requestWrites : List WriterEvent :=
  [.wantsToWrite 0 (WireSource.ofReplies [.settingsAck]).buffers,
    .wantsToWrite 1 (WireSource.ofRequest zeroStack 1 (postRequest "1" [0x61])).buffers, .lock 1,
    .lock 0, .answered 1 (.wrote 20), .answered 1 (.wants true), .answered 1 (.wrote 21),
    .answered 1 (.wrote 10), .lock 0, .answered 0 (.wrote 9)]

theorem requestWrites_asks : ∀ event ∈ requestWrites, event.Asks FromSources := by
  have hack : FromSources (WireSource.ofReplies [.settingsAck]).buffers :=
    fromSources_replies (List.forall_mem_singleton.mpr trivial)
  have hrequest :
      FromSources (WireSource.ofRequest zeroStack 1 (postRequest "1" [0x61])).buffers :=
    fromSources_request zeroStack (by decide) ⟨_, rfl, by decide⟩ (by decide)
  intro event hevent
  simp only [requestWrites, List.mem_cons, List.not_mem_nil, or_false] at hevent
  rcases hevent with rfl | rfl | rfl | rfl | rfl | rfl | rfl | rfl | rfl | rfl
  · exact hack
  · exact hrequest
  all_goals trivial

theorem connection_requests_post :
    let start := HTTP2_PREFACE ++ CHROME_OPENING.settingsFrame ++ CHROME_OPENING.windowUpdateFrame
    ∃ (sources : List WireSource) (octets : Bytes),
      (runWriters true start requestWrites).sections.map WriteSection.buffers =
        sources.map WireSource.buffers ∧
      (runWriters true start requestWrites).wire = HTTP2_PREFACE ++ octets ∧
      frameCutter.all octets =
        (CHROME_OPENING.frames ++ sources.flatMap WireSource.frames, []) := by
  have hok : (runWriters true (HTTP2_PREFACE ++ CHROME_OPENING.settingsFrame ++
      CHROME_OPENING.windowUpdateFrame) requestWrites).sections.map WriteSection.ok =
        [true, true] := by
    decide
  have hopened : establishTransport true (some CHROME_OPENING)
      [.wrote 24, .wrote 33, .wrote 13] =
        some (none, HTTP2_PREFACE ++ CHROME_OPENING.settingsFrame ++
          CHROME_OPENING.windowUpdateFrame) := by
    decide
  refine connection_requests (.inl rfl) hopened requestWrites_asks (by decide)
    fun done hdone => ?_
  have hmem := List.mem_map_of_mem (f := WriteSection.ok) hdone
  rw [hok] at hmem
  simpa using hmem

end HttpRequestClient.Http2
