import HttpRequestClient.Client.Polls

/-!
# The reading deadline

`buildResponseDeadline` counts the reading timeout from the clock, in
nanoseconds.  `renewStreamDeadline` counts it from the last activity of the
stream, in full seconds: `registerStream` sets it, before the exchange waits
for its turn on the connection, and after that only a chunk of the body does.
`readerFill` renews behind every read, and `awaitStream` when its wait is over.

A `TimedReading` is the stream of an exchange with its deadline and the clock.
Between two moments the stream may change in any way.

`renewStreamDeadline_forward_iff` says when a run moves the deadline forward
only, and leaves the exchange the time it was given.
-/

namespace HttpRequestClient.Client

open Runs

/-! ## The clock -/

structure Timespec where
  tv_sec : Int
  tv_nsec : Int
  deriving Repr, DecidableEq

/-- In nanoseconds, as all readings of the clock are. -/
def Timespec.instant (timespec : Timespec) : Int :=
  timespec.tv_sec * 1000000000 + timespec.tv_nsec

def clockGettime (now : Int) : Timespec := ⟨now / 1000000000, now % 1000000000⟩

def timeInSeconds (now : Int) : Int := now / 1000000000

/-! ## The deadline -/

def buildResponseDeadline (now timeoutInMilliseconds : Int) : Timespec :=
  let deadline := clockGettime now
  let tv_sec := deadline.tv_sec + timeoutInMilliseconds.tdiv 1000
  let tv_nsec := deadline.tv_nsec + timeoutInMilliseconds.tmod 1000 * 1000000
  if tv_nsec ≥ 1000000000 then ⟨tv_sec + 1, tv_nsec - 1000000000⟩ else ⟨tv_sec, tv_nsec⟩

/-- The stream has a sink, and its last activity is not too long ago. -/
def stillActive (polled : PolledStream) (timeoutInMilliseconds now : Int) : Bool :=
  isResponseStreaming polled.stream ∧
    (timeInSeconds now - polled.lastActivityTime) * 1000 < timeoutInMilliseconds

/-- Whether the deadline is renewed, and the deadline. -/
def renewStreamDeadline (polled : PolledStream) (timeoutInMilliseconds now : Int)
    (deadline : Timespec) : Bool × Timespec :=
  if stillActive polled timeoutInMilliseconds now then
    (true, ⟨polled.lastActivityTime + timeoutInMilliseconds.tdiv 1000,
      timeoutInMilliseconds.tmod 1000 * 1000000⟩)
  else (false, deadline)

/-- A chunk is delivered to a sink that has not stopped the response, and that
is an activity. -/
def isDelivered (stream : Stream) (data : Bytes) : Bool :=
  match stream.sink with
  | none => false
  | some sink => data.length ≠ 0 ∧ ¬sink.aborted

def appendPolledPayload (lib : DecoderLib) (polled : PolledStream) (data : Bytes) (now : Int) :
    PolledStream where
  stream := (appendStreamPayload lib polled.stream data).2
  lastActivityTime :=
    if isDelivered polled.stream data then timeInSeconds now else polled.lastActivityTime

theorem buildResponseDeadline_instant (now timeoutInMilliseconds : Int) :
    (buildResponseDeadline now timeoutInMilliseconds).instant =
      now + timeoutInMilliseconds * 1000000 := by
  have hclock := Int.mul_ediv_add_emod now 1000000000
  have htimeout := Int.mul_tdiv_add_tmod timeoutInMilliseconds 1000
  unfold buildResponseDeadline clockGettime
  dsimp only
  split
  · dsimp only [Timespec.instant]
    omega
  · dsimp only [Timespec.instant]
    omega

theorem renewStreamDeadline_instant (polled : PolledStream) (timeoutInMilliseconds now : Int)
    (deadline : Timespec) :
    (renewStreamDeadline polled timeoutInMilliseconds now deadline).2.instant =
      if stillActive polled timeoutInMilliseconds now then
        polled.lastActivityTime * 1000000000 + timeoutInMilliseconds * 1000000
      else deadline.instant := by
  have htimeout := Int.mul_tdiv_add_tmod timeoutInMilliseconds 1000
  unfold renewStreamDeadline
  split
  · dsimp only [Timespec.instant]
    omega
  · rfl

/-- The last activity is never in the future. -/
theorem timeInSeconds_le (now : Int) : timeInSeconds now * 1000000000 ≤ now := by
  rw [timeInSeconds]
  omega

/-! ## Runs -/

structure TimedReading where
  polled : PolledStream
  deadline : Timespec
  clock : Int

inductive ReadingAction where
  | stream (after : Stream)
  | append (data : Bytes)
  | renew

/-- Something that happens some time after the event before it. -/
structure ReadingEvent where
  elapsed : Nat
  action : ReadingAction

/-- The stream is registered at the time `registered`.  Its exchange has its
turn some time later, and builds the deadline. -/
def startTimedReading (streamId : Nat) (sink : Option ResponseSink) (timeoutInMilliseconds : Int)
    (registered : Int) (queued : Nat) : TimedReading where
  polled := ⟨newStream streamId sink, timeInSeconds registered⟩
  deadline := buildResponseDeadline (registered + queued) timeoutInMilliseconds
  clock := registered + queued

section Reading

variable (lib : DecoderLib) (timeoutInMilliseconds : Int)

def stepTimedReading (reading : TimedReading) (event : ReadingEvent) : TimedReading :=
  let now := reading.clock + event.elapsed
  let reading := { reading with clock := now }
  match event.action with
  | .stream after => { reading with polled := { reading.polled with stream := after } }
  | .append data => { reading with polled := appendPolledPayload lib reading.polled data now }
  | .renew =>
    { reading with
      deadline :=
        (renewStreamDeadline reading.polled timeoutInMilliseconds now reading.deadline).2 }

/-- The event leaves the deadline, or moves it to a later instant. -/
def MovesForward (reading : TimedReading) (event : ReadingEvent) : Prop :=
  reading.deadline.instant ≤
    (stepTimedReading lib timeoutInMilliseconds reading event).deadline.instant

instance (reading : TimedReading) (event : ReadingEvent) :
    Decidable (MovesForward lib timeoutInMilliseconds reading event) :=
  inferInstanceAs (Decidable (_ ≤ _))

/-- A stream that is still active when its deadline is renewed has had its
last activity in a second that began at the time `built`, or later. -/
def ActiveSince (built : Int) (reading : TimedReading) (event : ReadingEvent) : Prop :=
  event.action = .renew →
    stillActive reading.polled timeoutInMilliseconds (reading.clock + event.elapsed) = true →
      built ≤ reading.polled.lastActivityTime * 1000000000

end Reading

section Invariant

variable {lib : DecoderLib} {timeoutInMilliseconds built : Int} {reading : TimedReading}
  {event : ReadingEvent}

/-- The deadline is counted from the time at which it was built, or from an
activity that was later. -/
structure CountedSince (timeoutInMilliseconds built : Int) (reading : TimedReading) : Prop where
  activity : reading.polled.lastActivityTime * 1000000000 ≤ reading.clock
  full : built + timeoutInMilliseconds * 1000000 ≤ reading.deadline.instant
  counted : reading.deadline.instant = built + timeoutInMilliseconds * 1000000 ∨
    reading.deadline.instant ≤
      reading.polled.lastActivityTime * 1000000000 + timeoutInMilliseconds * 1000000

theorem startTimedReading_countedSince (streamId : Nat) (sink : Option ResponseSink)
    (timeoutInMilliseconds registered : Int) (queued : Nat) :
    CountedSince timeoutInMilliseconds (registered + queued)
      (startTimedReading streamId sink timeoutInMilliseconds registered queued) := by
  have hbuilt := buildResponseDeadline_instant (registered + queued) timeoutInMilliseconds
  have hactivity := timeInSeconds_le registered
  refine ⟨?_, ?_, .inl hbuilt⟩
  · show timeInSeconds registered * 1000000000 ≤ registered + queued
    omega
  · exact Int.le_of_eq hbuilt.symm

/-- Every activity is at the clock. -/
theorem stepTimedReading_lastActivityTime (lib : DecoderLib) (event : ReadingEvent)
    (h : CountedSince timeoutInMilliseconds built reading) :
    reading.polled.lastActivityTime ≤
        (stepTimedReading lib timeoutInMilliseconds reading event).polled.lastActivityTime ∧
      (stepTimedReading lib timeoutInMilliseconds reading event).polled.lastActivityTime *
        1000000000 ≤ (stepTimedReading lib timeoutInMilliseconds reading event).clock := by
  have hactivity := h.activity
  have hnow := timeInSeconds_le (reading.clock + event.elapsed)
  rw [stepTimedReading]
  cases event.action with
  | stream after =>
    dsimp only
    omega
  | append data =>
    show _ ≤ (appendPolledPayload lib reading.polled data _).lastActivityTime ∧
      (appendPolledPayload lib reading.polled data _).lastActivityTime * _ ≤ _
    rw [appendPolledPayload]
    dsimp only
    split
    · refine ⟨?_, hnow⟩
      rw [timeInSeconds]
      omega
    · omega
  | renew =>
    dsimp only
    omega

/-- Only a renewal changes the deadline. -/
theorem stepTimedReading_deadline (lib : DecoderLib) (timeoutInMilliseconds : Int)
    (reading : TimedReading) (event : ReadingEvent) :
    (stepTimedReading lib timeoutInMilliseconds reading event).deadline = reading.deadline ∨
      event.action = .renew ∧
      stillActive reading.polled timeoutInMilliseconds (reading.clock + event.elapsed) = true ∧
      (stepTimedReading lib timeoutInMilliseconds reading event).deadline.instant =
        reading.polled.lastActivityTime * 1000000000 + timeoutInMilliseconds * 1000000 ∧
      (stepTimedReading lib timeoutInMilliseconds reading event).polled = reading.polled := by
  rw [stepTimedReading]
  cases event.action with
  | stream after => exact .inl rfl
  | append data => exact .inl rfl
  | renew =>
    dsimp only
    cases hactive : stillActive reading.polled timeoutInMilliseconds
        (reading.clock + event.elapsed) with
    | false =>
      refine .inl ?_
      rw [renewStreamDeadline, hactive]
      rfl
    | true =>
      refine .inr ⟨rfl, rfl, ?_, rfl⟩
      rw [renewStreamDeadline_instant, if_pos hactive]

theorem stepTimedReading_countedSince (lib : DecoderLib)
    (h : CountedSince timeoutInMilliseconds built reading)
    (hactive : ActiveSince timeoutInMilliseconds built reading event) :
    CountedSince timeoutInMilliseconds built
      (stepTimedReading lib timeoutInMilliseconds reading event) := by
  obtain ⟨hlater, hclock⟩ := stepTimedReading_lastActivityTime lib event h
  obtain hsame | ⟨hrenew, hstill, hinstant, hpolled⟩ :=
    stepTimedReading_deadline lib timeoutInMilliseconds reading event
  · have hcounted := h.counted
    refine ⟨hclock, hsame ▸ h.full, ?_⟩
    rw [hsame]
    omega
  · have hsince := hactive hrenew hstill
    refine ⟨hclock, ?_, .inr ?_⟩
    · rw [hinstant]
      omega
    · exact Int.le_of_eq (by rw [hinstant, hpolled])

theorem stepTimedReading_movesForward (h : CountedSince timeoutInMilliseconds built reading)
    (hactive : ActiveSince timeoutInMilliseconds built reading event) :
    MovesForward lib timeoutInMilliseconds reading event := by
  have hfull := (stepTimedReading_countedSince lib h hactive).full
  rw [MovesForward]
  obtain hsame | ⟨-, -, hinstant, -⟩ :=
    stepTimedReading_deadline lib timeoutInMilliseconds reading event
  · exact Int.le_of_eq (by rw [hsame])
  · have hcounted := h.counted
    omega

/-- A renewal that leaves the exchange its time counts from late enough. -/
theorem activeSince_of_full
    (h : built + timeoutInMilliseconds * 1000000 ≤
      (stepTimedReading lib timeoutInMilliseconds reading event).deadline.instant) :
    ActiveSince timeoutInMilliseconds built reading event := by
  intro hrenew hstill
  rw [stepTimedReading, hrenew] at h
  dsimp only at h
  rw [renewStreamDeadline_instant, if_pos hstill] at h
  omega

end Invariant

/-! ## The time of an exchange -/

/-- A run moves the deadline to later instants only, and leaves the exchange
its full timeout from the time at which the deadline was built, if and only if
every renewal counts from an activity since then. -/
theorem renewStreamDeadline_forward_iff (lib : DecoderLib) (streamId : Nat)
    (sink : Option ResponseSink) (timeoutInMilliseconds registered : Int) (queued : Nat)
    (events : List ReadingEvent) :
    let step := stepTimedReading lib timeoutInMilliseconds
    let start := startTimedReading streamId sink timeoutInMilliseconds registered queued
    let built := registered + queued
    let active := Meets step (ActiveSince timeoutInMilliseconds built) start events
    (Meets step (MovesForward lib timeoutInMilliseconds) start events ↔ active) ∧
    ((∀ n, built + timeoutInMilliseconds * 1000000 ≤
      (run step start (events.take n)).deadline.instant) ↔ active) := by
  intro step start built active
  have hstart : CountedSince timeoutInMilliseconds built start :=
    startTimedReading_countedSince streamId sink timeoutInMilliseconds registered queued
  have hkept : ∀ reading event, CountedSince timeoutInMilliseconds built reading →
      ActiveSince timeoutInMilliseconds built reading event →
      CountedSince timeoutInMilliseconds built (step reading event) :=
    fun reading event => stepTimedReading_countedSince lib
  refine ⟨⟨fun hforward => ?_, fun hactive => ?_⟩, ?_⟩
  · have hfull : ∀ reading event,
        built + timeoutInMilliseconds * 1000000 ≤ reading.deadline.instant →
        MovesForward lib timeoutInMilliseconds reading event →
        built + timeoutInMilliseconds * 1000000 ≤ (step reading event).deadline.instant :=
      fun reading event hfull hmoves => Int.le_trans hfull hmoves
    exact meets_of_keeps hfull
      (fun reading event hreading hmoves =>
        activeSince_of_full (hfull reading event hreading hmoves))
      hforward hstart.full
  · exact meets_of_keeps hkept (fun reading event => stepTimedReading_movesForward) hactive hstart
  · exact meets_iff_forall_take (CountedSince timeoutInMilliseconds built)
      (fun reading => built + timeoutInMilliseconds * 1000000 ≤ reading.deadline.instant)
      hkept (fun reading hreading => hreading.full)
      (fun reading event _ hfull => activeSince_of_full hfull) hstart

/-- A stream with a sink that collects, registered at the time 0.  Its exchange
waits five seconds for its turn, and has ten to read the response. -/
def queuedReading : TimedReading :=
  startTimedReading 1 (some (buildResponseSink 0 none)) 10000 0 5000000000

/-- The first read of the exchange, one second later, takes away the five
seconds that it has waited. -/
theorem renewStreamDeadline_backward :
    queuedReading.deadline = ⟨15, 0⟩ ∧
    (stepTimedReading noDecoders 10000 queuedReading ⟨1000000000, .renew⟩).deadline = ⟨10, 0⟩ ∧
    ¬Meets (stepTimedReading noDecoders 10000) (MovesForward noDecoders 10000) queuedReading
      [⟨1000000000, .renew⟩] := by
  decide

end HttpRequestClient.Client
