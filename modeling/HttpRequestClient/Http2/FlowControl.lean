import HttpRequestClient.Http2.Connection
import HttpRequestClient.Http2.Ledger

/-!
# Flow control of a connection

The counters of a session are `uint32_t`, and the updates they lead to are
octets in the queue of the reader.  `Refines` says that both are those of a
`Ledger`, which has neither: its numbers do not wrap, and its updates are
numbers.

* `replenishStreamWindow_refines` and `flushReaderWrites_refines`: the
  operations of the source do what those of the ledger do, while the ledger
  is `Sound`.
* `batchBytes_le`: the batches of `readerLoop` are small enough for that.
* `runBoth_flowInv` puts both together for every run of a connection
  whose reader actions come from `readerLoop`.

The results are about these runs: `runConnection_bounded` for the numbers,
and `runConnection_conserves` for the credit of the connection.  Bytes of a
stream that is not registered are not credited, so the second one needs
`Credited`, and `runConnection_loses_credit` is a run where it fails.
-/

namespace HttpRequestClient.Http2

open Runs

/-! ## Updates on the wire -/

def windowUpdate? (frame : Frame) : Option (Nat × Nat) :=
  if frame.type = 0x8 then some (frame.streamId, uint32At frame.payload 0) else none

/-- The WINDOW_UPDATE frames of some octets, each with its stream and its
increment. -/
def windowUpdates (octets : Bytes) : List (Nat × Nat) :=
  (frameCutter.all octets).1.filterMap windowUpdate?

/-- Whole frames, and the updates among them. -/
structure Wire (octets : Bytes) (grants : List (Nat × Nat)) : Prop where
  whole : (frameCutter.all octets).2 = []
  updates : windowUpdates octets = grants

theorem wire_nil : Wire [] [] := by
  constructor <;> simp [windowUpdates]

theorem Wire.append {octets more : Bytes} {grants : List (Nat × Nat)} {frame : Frame}
    (h : Wire octets grants) (hcut : Frame.cut more = some (frame, [])) :
    Wire (octets ++ more) (grants ++ (windowUpdate? frame).toList) := by
  have hall := frameCutter.all_append_frame h.whole hcut
  constructor
  · rw [hall]
  · rw [windowUpdates, hall, List.filterMap_append, ← h.updates, windowUpdates]
    cases hupdate : windowUpdate? frame <;> simp [hupdate]

theorem uint32At_octets31 {n : Nat} (h : n < 2 ^ 31) : uint32At (octets31 n) 0 = n := by
  obtain ⟨a, b, c, d, hoctets, -, hvalue⟩ := octets31_value h
  rw [hoctets, uint32At, List.drop_zero, List.take_of_length_le (by simp)]
  simp only [List.foldl_cons, List.foldl_nil, Nat.zero_mul, Nat.zero_add, Nat.add_mul,
    Nat.mul_assoc]
  exact hvalue

/-- A frame of four octets on a stream is read back. -/
theorem cut_controlFrame (type : UInt8) {streamId : Nat} (hid : streamId < 2 ^ 31)
    (a b c d : UInt8) :
    Frame.cut ([0, 0, 4, type, 0] ++ octets31 streamId ++ [a, b, c, d]) =
      some (⟨type, 0, streamId, [a, b, c, d]⟩, []) := by
  obtain ⟨s3, s2, s1, s0, hoctets, hhigh, hvalue⟩ := octets31_value hid
  have hmod : s3.toNat % 128 = s3.toNat := Nat.mod_eq_of_lt hhigh
  rw [hoctets]
  simp [Frame.cut, hmod, hvalue]

/-! ## The counters of a session are a ledger -/

structure Refines (sent : Bytes) (session : Session) (ledger : Ledger) : Prop where
  owed : session.pendingConnWindow = ledger.owed
  due : session.connWindowFlushDue = ledger.due
  target : session.connWindowTarget = ledger.target
  sinceGrowth : session.connWindowSinceGrowth = ledger.sinceGrowth
  streams : session.pendingStreamWindows = ledger.streams
  wire : Wire (sent ++ session.pendingWire) ledger.grants

variable {sent : Bytes} {session : Session} {ledger : Ledger}

/-- What is not about flow control differs. -/
structure SameCounters (before after : Session) : Prop where
  pendingConnWindow : after.pendingConnWindow = before.pendingConnWindow
  connWindowFlushDue : after.connWindowFlushDue = before.connWindowFlushDue
  connWindowTarget : after.connWindowTarget = before.connWindowTarget
  connWindowSinceGrowth : after.connWindowSinceGrowth = before.connWindowSinceGrowth
  pendingStreamWindows : after.pendingStreamWindows = before.pendingStreamWindows
  pendingWire : after.pendingWire = before.pendingWire

theorem SameCounters.of_handler {after : Session} (h : HandlerKeeps session after) :
    SameCounters session after :=
  ⟨h.pendingConnWindow, h.connWindowFlushDue, h.connWindowTarget, h.connWindowSinceGrowth,
    h.pendingStreamWindows, h.pendingWire⟩

theorem Refines.of_same {after : Session} (h : Refines sent session ledger)
    (hsame : SameCounters session after) : Refines sent after ledger where
  owed := hsame.pendingConnWindow.trans h.owed
  due := hsame.connWindowFlushDue.trans h.due
  target := hsame.connWindowTarget.trans h.target
  sinceGrowth := hsame.connWindowSinceGrowth.trans h.sinceGrowth
  streams := hsame.pendingStreamWindows.trans h.streams
  wire := hsame.pendingWire ▸ h.wire

theorem queueControlFrame_refines (h : Refines sent session ledger) {octets : Bytes}
    {frame : Frame} (hcut : Frame.cut octets = some (frame, [])) :
    Refines sent (queueControlFrame session octets)
      { ledger with grants := ledger.grants ++ (windowUpdate? frame).toList } where
  owed := h.owed
  due := h.due
  target := h.target
  sinceGrowth := h.sinceGrowth
  streams := h.streams
  wire := by
    show Wire (sent ++ (session.pendingWire ++ octets)) _
    rw [← List.append_assoc]
    exact h.wire.append hcut

theorem queueControlFrame_refines_of_quiet (h : Refines sent session ledger) {octets : Bytes}
    {frame : Frame} (hcut : Frame.cut octets = some (frame, []))
    (hquiet : windowUpdate? frame = none) :
    Refines sent (queueControlFrame session octets) ledger := by
  have hqueued := queueControlFrame_refines h hcut
  rw [hquiet, Option.toList_none, List.append_nil] at hqueued
  exact hqueued

/-- A queued update carries its increment. -/
theorem queueWindowUpdateFrame_refines (h : Refines sent session ledger) {streamId increment : Nat}
    (hid : streamId < 2 ^ 31) (hincrement : increment < 2 ^ 31) :
    Refines sent (queueWindowUpdateFrame session streamId increment)
      { ledger with grants := ledger.grants ++ [(streamId, increment)] } := by
  obtain ⟨a, b, c, d, hoctets, -, -⟩ := octets31_value hincrement
  have hcut := cut_controlFrame 0x8 hid a b c d
  have hqueued := queueControlFrame_refines h hcut
  rw [← hoctets] at hqueued
  simp only [windowUpdate?, if_true, uint32At_octets31 hincrement, Option.toList_some] at hqueued
  exact hqueued

theorem queueRSTStreamFrame_refines (h : Refines sent session ledger) {streamId : Nat}
    (hid : streamId < 2 ^ 31) : Refines sent (queueRSTStreamFrame session streamId) ledger :=
  queueControlFrame_refines_of_quiet h (cut_controlFrame 0x3 hid 0 0 0 0x8) rfl

theorem acknowledgeFrame_refines (h : Refines sent session ledger) (frame : Frame) :
    Refines sent (acknowledgeFrame session frame) ledger := by
  unfold acknowledgeFrame
  split
  · have hcut : Frame.cut [0, 0, 0, 0x4, 0x1, 0, 0, 0, 0] = some (⟨0x4, 0x1, 0, []⟩, []) := by
      decide
    exact queueControlFrame_refines_of_quiet h hcut rfl
  · split
    · rename_i hping
      have hcut : Frame.cut ([0, 0, 8, 0x6, 0x1, 0, 0, 0, 0] ++ frame.payload) =
          some (⟨0x6, 0x1, 0, frame.payload⟩, []) := by
        have htake : frame.payload.take 8 = frame.payload :=
          List.take_of_length_le (Nat.le_of_eq hping.2.2)
        simp [Frame.cut, hping.2.2, htake]
      exact queueControlFrame_refines_of_quiet h hcut rfl
    · exact h

theorem tuneConnectionWindow_refines (h : Refines sent session ledger) (hgrowing : ledger.Growing)
    {consumed : Nat} (hconsumed : consumed < 2 ^ 24) (howed : ledger.owed < 2 ^ 31) :
    Refines sent (tuneConnectionWindow session consumed) (ledger.grow consumed) := by
  have htarget := hgrowing.target_le
  obtain ⟨owed, due, target, sinceGrowth, streams, grants⟩ := ledger
  obtain ⟨rfl, rfl, rfl, rfl, rfl, hwire⟩ := h
  dsimp only at howed htarget
  unfold CONNECTION_WINDOW_MAX at htarget
  by_cases hmax : session.connWindowTarget ≥ CONNECTION_WINDOW_MAX
  · rw [tuneConnectionWindow, Ledger.grow, if_pos hmax, if_pos hmax]
    exact ⟨rfl, rfl, rfl, rfl, rfl, hwire⟩
  · have hsince : session.connWindowSinceGrowth < 9 * 2 ^ 24 := hgrowing.sinceGrowth_lt hmax
    have hsum : (session.connWindowSinceGrowth + consumed) % 2 ^ 32 =
        session.connWindowSinceGrowth + consumed := Nat.mod_eq_of_lt (by omega)
    have hdoubled : session.connWindowTarget * 2 % 2 ^ 32 = session.connWindowTarget * 2 :=
      Nat.mod_eq_of_lt (by omega)
    have hmin : (if session.connWindowTarget * 2 < CONNECTION_WINDOW_MAX then
        session.connWindowTarget * 2 else CONNECTION_WINDOW_MAX) =
        min (session.connWindowTarget * 2) CONNECTION_WINDOW_MAX := by
      split <;> omega
    have hgrown : (session.pendingConnWindow + (min (session.connWindowTarget * 2)
        CONNECTION_WINDOW_MAX - session.connWindowTarget)) % 2 ^ 32 =
        session.pendingConnWindow + (min (session.connWindowTarget * 2)
          CONNECTION_WINDOW_MAX - session.connWindowTarget) := by
      refine Nat.mod_eq_of_lt ?_
      unfold CONNECTION_WINDOW_MAX
      omega
    rw [tuneConnectionWindow, Ledger.grow, if_neg hmax, if_neg hmax]
    dsimp only
    rw [hsum, hdoubled, hmin, hgrown]
    split
    · exact ⟨rfl, rfl, rfl, rfl, rfl, hwire⟩
    · exact ⟨rfl, rfl, rfl, rfl, rfl, hwire⟩

theorem addConnectionCredit_refines (h : Refines sent session ledger) {batch : Nat}
    (hsound : ledger.Sound batch) (hbatch : batch ≤ Ledger.BATCH_MAX) {consumed : Nat}
    (hconsumed : consumed < 2 ^ 24) :
    Refines sent (addConnectionCredit session consumed) (ledger.consume consumed) := by
  have htarget := hsound.growing.target_le
  have howed := hsound.owed
  unfold CONNECTION_WINDOW_MAX at htarget
  unfold Ledger.BATCH_MAX at hbatch
  have hsum : (session.pendingConnWindow + consumed) % 2 ^ 32 = ledger.owed + consumed := by
    rw [h.owed]
    exact Nat.mod_eq_of_lt (by omega)
  rw [addConnectionCredit, Ledger.consume]
  split
  · have hstart : Refines sent
        { session with pendingConnWindow := (session.pendingConnWindow + consumed) % 2 ^ 32 }
        { ledger with owed := ledger.owed + consumed } :=
      ⟨hsum, h.due, h.target, h.sinceGrowth, h.streams, h.wire⟩
    have hgrowing : Ledger.Growing { ledger with owed := ledger.owed + consumed } :=
      hsound.growing
    refine tuneConnectionWindow_refines hstart hgrowing hconsumed ?_
    show ledger.owed + consumed < 2 ^ 31
    omega
  · exact h

/-- The credit of a stream at its place. -/
theorem placeCredit_refines (h : Refines sent session ledger) {streamId total : Nat}
    (hid : streamId < 2 ^ 31) (htotal : total < 2 ^ 31) (i : Nat)
    (streams : List PendingWindowUpdate) :
    Refines sent
      (if total % 2 ^ 32 ≤ STREAM_WINDOW_UPDATE_THRESHOLD then
        { session with pendingStreamWindows := streams.set i ⟨streamId, total % 2 ^ 32⟩ }
      else
        queueWindowUpdateFrame { session with pendingStreamWindows := streams.set i ⟨streamId, 0⟩ }
          streamId (total % 2 ^ 32))
      (if total ≤ STREAM_WINDOW_UPDATE_THRESHOLD then
        { ledger with streams := streams.set i ⟨streamId, total⟩ }
      else
        { ledger with
          streams := streams.set i ⟨streamId, 0⟩
          grants := ledger.grants ++ [(streamId, total)] }) := by
  rw [Nat.mod_eq_of_lt (by omega : total < 2 ^ 32)]
  split
  · exact ⟨h.owed, h.due, h.target, h.sinceGrowth, rfl, h.wire⟩
  · have hcleared : Refines sent
        { session with pendingStreamWindows := streams.set i ⟨streamId, 0⟩ }
        { ledger with streams := streams.set i ⟨streamId, 0⟩ } :=
      ⟨h.owed, h.due, h.target, h.sinceGrowth, rfl, h.wire⟩
    exact queueWindowUpdateFrame_refines hcleared hid htotal

theorem addStreamWindowCredit_refines (h : Refines sent session ledger)
    (hcredits : ∀ entry ∈ ledger.streams, entry.credit ≤ STREAM_WINDOW_UPDATE_THRESHOLD)
    {streamId consumed : Nat} (hid : streamId < 2 ^ 31) (hconsumed : consumed < 2 ^ 24) :
    Refines sent (addStreamWindowCredit session streamId consumed)
      (ledger.credit streamId consumed) := by
  have hplaced : ∀ i streams, ledger.place streamId = some (i, streams) →
      (streams.getD i ⟨streamId, 0⟩).credit + consumed < 2 ^ 31 := by
    intro i streams hplace
    have hentry := (Ledger.place_credits hcredits hplace).2
    unfold STREAM_WINDOW_UPDATE_THRESHOLD at hentry
    omega
  have hfind : ledger.streams.findIdx? (fun entry => entry.streamId = streamId) =
      findPendingWindow session streamId := by
    rw [findPendingWindow, h.streams]
  rw [addStreamWindowCredit, Ledger.credit]
  rw [Ledger.place, hfind, ← h.streams] at hplaced ⊢
  generalize findPendingWindow session streamId = found at hplaced ⊢
  cases found with
  | some i => exact placeCredit_refines h hid (hplaced i _ rfl) i _
  | none =>
    dsimp only at hplaced ⊢
    by_cases hroom : session.pendingStreamWindows.length ≥ MAX_CONCURRENT_STREAMS_PER_SESSION
    · rw [if_pos hroom]
      exact h
    · rw [if_neg hroom] at hplaced ⊢
      exact placeCredit_refines h hid (hplaced _ _ rfl) _ _

theorem discardPendingStreamWindow_refines (h : Refines sent session ledger) (streamId : Nat) :
    Refines sent (discardPendingStreamWindow session streamId) (ledger.discard streamId) := by
  obtain ⟨owed, due, target, sinceGrowth, streams, grants⟩ := ledger
  obtain ⟨rfl, rfl, rfl, rfl, rfl, hwire⟩ := h
  rw [discardPendingStreamWindow, Ledger.discard, findPendingWindow]
  cases session.pendingStreamWindows.findIdx? (fun entry => entry.streamId = streamId) with
  | none => exact ⟨rfl, rfl, rfl, rfl, rfl, hwire⟩
  | some i => exact ⟨rfl, rfl, rfl, rfl, rfl, hwire⟩

/-- Flow control after a frame of a stream. -/
theorem replenishStreamWindow_refines (h : Refines sent session ledger) {batch : Nat}
    (hsound : ledger.Sound batch) (hbatch : batch ≤ Ledger.BATCH_MAX) {streamId : Nat}
    (hid : streamId < 2 ^ 31) {reading : StreamReading}
    (hconsumed : reading.consumedBytes < 2 ^ 24) :
    Refines sent (replenishStreamWindow session streamId reading)
      (ledger.replenish streamId reading) := by
  have hconnection := addConnectionCredit_refines h hsound hbatch hconsumed
  have hcredits : ∀ entry ∈ (ledger.consume reading.consumedBytes).streams,
      entry.credit ≤ STREAM_WINDOW_UPDATE_THRESHOLD := by
    rw [(Ledger.consume_spec ledger reading.consumedBytes).2.1]
    exact hsound.credits
  have hsettle : Refines sent
      (settleStreamWindow (addConnectionCredit session reading.consumedBytes) streamId reading)
      ((ledger.consume reading.consumedBytes).settle streamId reading) := by
    rw [settleStreamWindow, Ledger.settle]
    split
    · exact discardPendingStreamWindow_refines hconnection streamId
    · split
      · exact addStreamWindowCredit_refines hconnection hcredits hid hconsumed
      · exact hconnection
  rw [replenishStreamWindow, Ledger.replenish]
  simp only [hsettle.owed]
  split
  · exact ⟨rfl, rfl, hsettle.target, hsettle.sinceGrowth, hsettle.streams, hsettle.wire⟩
  · exact hsettle

/-- The write at the end of a batch. -/
theorem flushReaderWrites_refines {connection : Connection}
    (h : Refines connection.sent connection.session ledger) {batch : Nat}
    (hsound : ledger.Sound batch) (hbatch : batch ≤ Ledger.BATCH_MAX) :
    Refines (flushReaderWrites connection).sent (flushReaderWrites connection).session
      ledger.flush := by
  have htarget := hsound.growing.target_le
  have howed := hsound.owed
  unfold CONNECTION_WINDOW_MAX at htarget
  unfold Ledger.BATCH_MAX at hbatch
  -- the queue moves to what was written
  have hwritten : ∀ {session : Session} {ledger : Ledger},
      Refines connection.sent session ledger →
      Refines (connection.sent ++ session.pendingWire) { session with pendingWire := [] } ledger :=
    fun h => ⟨h.owed, h.due, h.target, h.sinceGrowth, h.streams, by simpa using h.wire⟩
  have hquiet : Refines connection.sent { connection.session with connWindowFlushDue := false }
      { ledger with due := false } :=
    ⟨h.owed, rfl, h.target, h.sinceGrowth, h.streams, h.wire⟩
  unfold flushReaderWrites Ledger.flush
  dsimp only
  by_cases hdue : ledger.due = true
  · rw [if_pos (h.due.trans hdue), if_pos hdue]
    by_cases hpositive : ledger.owed > 0
    · have hpending : connection.session.pendingConnWindow > 0 := h.owed ▸ hpositive
      have hqueued := queueWindowUpdateFrame_refines hquiet (by decide : 0 < 2 ^ 31)
        (by omega : ledger.owed < 2 ^ 31)
      rw [← h.owed] at hqueued
      rw [if_pos hpending, if_pos hpositive, ← h.owed]
      exact hwritten ⟨rfl, hqueued.due, hqueued.target, hqueued.sinceGrowth, hqueued.streams,
        hqueued.wire⟩
    · have hpending : ¬connection.session.pendingConnWindow > 0 := h.owed ▸ hpositive
      rw [if_neg hpending, if_neg hpositive]
      exact hwritten hquiet
  · rw [if_neg (fun h' => hdue (h.due ▸ h')), if_neg hdue]
    exact hwritten h

/-! ## Batches -/

/-- The bytes dispatched since the last write, when there were some before. -/
def batchFrom : Nat → List ReaderAction → Nat
  | n, [] => n
  | n, .dispatch frame :: actions => batchFrom (n + frame.payload.length) actions
  | _, .flush :: actions => batchFrom 0 actions

def batchBytes (actions : List ReaderAction) : Nat := batchFrom 0 actions

theorem batchFrom_append (n : Nat) (actions later : List ReaderAction) :
    batchFrom n (actions ++ later) = batchFrom (batchFrom n actions) later := by
  induction actions generalizing n with
  | nil => rfl
  | cons action actions ih =>
    cases action with
    | dispatch frame => exact ih _
    | flush => exact ih _

theorem batchFrom_le {frames : List Frame} {n : Nat} {actions : List ReaderAction}
    (h : actions <+: frames.map .dispatch ++ [.flush]) :
    batchFrom n actions ≤ n + frameCutter.total frames := by
  induction frames generalizing n actions with
  | nil =>
    rcases List.prefix_cons_iff.mp h with rfl | ⟨rest, rfl, hrest⟩
    · exact Nat.le_refl n
    · rw [List.prefix_nil.mp hrest]
      exact Nat.zero_le _
  | cons frame frames ih =>
    rcases List.prefix_cons_iff.mp h with rfl | ⟨rest, rfl, hrest⟩
    · exact Nat.le_add_right n _
    · have hle := ih (n := n + frame.payload.length) hrest
      have hsize : frameCutter.size frame = 9 + frame.payload.length := rfl
      rw [batchFrom, frameCutter.total_cons, hsize]
      omega

theorem batchBytes_readerTrace (pieces : List Piece) : batchBytes (readerTrace pieces) = 0 := by
  induction pieces using List.reverseRecOn with
  | nil => rfl
  | append_singleton pieces piece ih =>
    rw [readerTrace_append, batchBytes, batchFrom_append]
    rfl

/-- An incomplete frame is shorter than the longest frame. -/
theorem length_of_cut_none {octets : Bytes} (h : Frame.cut octets = none) :
    octets.length ≤ 2 ^ 24 + 7 := by
  by_cases hlen : 9 ≤ octets.length
  · obtain ⟨l2, l1, l0, type, flags, s3, s2, s1, s0, rest, rfl⟩ := exists_header hlen
    have h2 := l2.toNat_lt
    have h1 := l1.toNat_lt
    have h0 := l0.toNat_lt
    rw [Frame.cut] at h
    dsimp only at h
    split at h
    · cases h
    · simp only [List.length_cons]
      omega
  · omega

/-- The bytes of a batch were left over or come from one read. -/
theorem batchBytes_le {pieces : List Piece} {actions : List ReaderAction}
    (h : actions <+: readerTrace pieces) : batchBytes actions ≤ Ledger.BATCH_MAX := by
  induction pieces using List.reverseRecOn with
  | nil =>
    rw [List.prefix_nil.mp h]
    exact Nat.zero_le _
  | append_singleton pieces piece ih =>
    rw [readerTrace_append, List.append_assoc] at h
    rcases List.prefix_or_prefix_of_prefix h (List.prefix_append (readerTrace pieces) _) with
      hbefore | ⟨batch, rfl⟩
    · exact ih hbefore
    · rw [List.prefix_append_right_inj] at h
      have hacc : (recordReading pieces).acc.length ≤ 2 ^ 24 + 7 := by
        apply length_of_cut_none
        rw [recordReading_acc]
        exact frameCutter.cut_all_snd _
      have htotal := frameCutter.total_all_le ((recordReading pieces).acc ++ piece.bytes)
      have hpiece := piece.fits
      have hbatch := batchFrom_le (n := 0) h
      rw [List.length_append] at htotal
      have hzero : batchFrom 0 (readerTrace pieces) = 0 := batchBytes_readerTrace pieces
      rw [batchBytes, batchFrom_append, hzero]
      unfold Ledger.BATCH_MAX
      omega

/-- What the header of a frame can hold. -/
theorem frame_bounds {pieces : List Piece} {frame : Frame}
    (h : .dispatch frame ∈ readerTrace pieces) :
    frame.payload.length < 2 ^ 24 ∧ frame.streamId < 2 ^ 31 := by
  have hmem : frame ∈ dispatchedFrames pieces := List.mem_filterMap.mpr ⟨_, h, rfl⟩
  have hall : frame ∈ (frameCutter.all (received pieces)).1 := by
    rw [← dispatchedFrames_eq]
    exact hmem
  obtain ⟨octets, rest, hcut⟩ := frameCutter.exists_cut_of_mem_all hall
  have hcut' : Frame.cut octets = some (frame, rest) := hcut
  unfold Frame.cut at hcut'
  split at hcut'
  · rename_i l2 l1 l0 type flags s3 s2 s1 s0 tail
    have h2 := l2.toNat_lt
    have h1 := l1.toNat_lt
    have h0 := l0.toNat_lt
    have hs2 := s2.toNat_lt
    have hs1 := s1.toNat_lt
    have hs0 := s0.toNat_lt
    dsimp only at hcut'
    split at hcut'
    · cases hcut'
      constructor
      · rw [List.length_take]
        omega
      · dsimp only
        omega
    · cases hcut'
  · cases hcut'

/-! ## Runs -/

def readerAction? : ConnectionEvent → Option ReaderAction
  | .reader action => some action
  | _ => none

def readerActions (events : List ConnectionEvent) : List ReaderAction :=
  events.filterMap readerAction?

/-- In a run the reader thread has got some way through `readerLoop`. -/
def Reads (pieces : List Piece) (events : List ConnectionEvent) : Prop :=
  readerActions events <+: readerTrace pieces

/-- The bytes of a DATA frame. -/
def dataBytes (frame : Frame) : Nat := if frame.type = 0x0 then frame.payload.length else 0

/-- The bytes of all DATA frames of a run. -/
def dataReceived (events : List ConnectionEvent) : Nat :=
  (((readerActions events).filterMap ReaderAction.frame?).map dataBytes).sum

section Run

variable (lib : DecoderLib)

/-- What the ledger does at an event that the connection finds. -/
def stepLedger (connection : Connection) (ledger : Ledger) : ConnectionEvent → Ledger
  | .reader (.dispatch frame) =>
    if frame.isStreamScoped then
      match findStream connection.session frame.streamId with
      | some stream =>
        ledger.replenish frame.streamId (readingAfter lib connection.session stream frame)
      | none => ledger
    else ledger
  | .reader .flush => ledger.flush
  | _ => ledger

/-- The connection and the ledger side by side. -/
def stepBoth (both : Connection × Ledger) (event : ConnectionEvent) : Connection × Ledger :=
  (stepConnection lib both.1 event, stepLedger lib both.1 both.2 event)

def runBoth (headerTableSize : Nat) (events : List ConnectionEvent) : Connection × Ledger :=
  run (stepBoth lib) (connect headerTableSize, Ledger.init) events

def runLedger (headerTableSize : Nat) (events : List ConnectionEvent) : Ledger :=
  (runBoth lib headerTableSize events).2

end Run

variable {lib : DecoderLib} {headerTableSize : Nat} {pieces : List Piece}
  {events : List ConnectionEvent} {connection : Connection}

theorem runBoth_snoc (event : ConnectionEvent) :
    runBoth lib headerTableSize (events ++ [event]) =
      stepBoth lib (runBoth lib headerTableSize events) event := by
  rw [runBoth, run_append]
  rfl

theorem runBoth_fst (events : List ConnectionEvent) :
    (runBoth lib headerTableSize events).1 = runConnection lib headerTableSize events := by
  induction events using List.reverseRecOn with
  | nil => rfl
  | append_singleton events event ih =>
    rw [runBoth_snoc, stepBoth, ih, runConnection, runConnection, run_append]
    rfl

theorem Reads.of_append {later : List ConnectionEvent} (h : Reads pieces (events ++ later)) :
    Reads pieces events := by
  rw [Reads, readerActions, List.filterMap_append] at h
  exact (List.prefix_append _ _).trans h

theorem Reads.frame_bounds {frame : Frame}
    (h : Reads pieces (events ++ [.reader (.dispatch frame)])) :
    frame.payload.length < 2 ^ 24 ∧ frame.streamId < 2 ^ 31 := by
  have hmem : .dispatch frame ∈ readerActions (events ++ [.reader (.dispatch frame)]) :=
    List.mem_filterMap.mpr ⟨.reader (.dispatch frame), by simp, rfl⟩
  exact Http2.frame_bounds (h.subset hmem)

/-- What the reader reports for a registered stream. -/
theorem readingAfter_spec (lib : DecoderLib) {session : Session} {frame : Frame} {stream : Stream}
    (h : IsRequest stream) (hfind : findStream session frame.streamId = some stream) :
    (readingAfter lib session stream frame).consumedBytes = dataBytes frame ∧
      ((readingAfter lib session stream frame).cancelStreamId = 0 ∨
        (readingAfter lib session stream frame).cancelStreamId = frame.streamId) := by
  obtain ⟨hconsumed, hcancel⟩ := endStreamReading_reading
    (streamAfter_isRequest lib session frame h).2
  refine ⟨hconsumed, hcancel.imp_right fun hid => ?_⟩
  have hkey : stream.streamId = frame.streamId := (Slots.mem_of_find hfind).2
  exact hid.trans ((streamAfter_streamId lib session stream frame).trans hkey)

/-! ## The counters are the ledger in every run -/

structure FlowInv (events : List ConnectionEvent) (both : Connection × Ledger) : Prop where
  requests : RequestsOnly both.1.session
  refines : Refines both.1.sent both.1.session both.2
  sound : both.2.Sound (batchBytes (readerActions events))

/-- A frame of a registered stream. -/
theorem readerDispatch_refines {stream : Stream} {frame : Frame} {batch : Nat}
    (hrefines : Refines sent session ledger) (hsound : ledger.Sound batch)
    (hbatch : batch ≤ Ledger.BATCH_MAX) (hscoped : frame.isStreamScoped = true)
    (hfind : findStream session frame.streamId = some stream) (hstream : IsRequest stream)
    (hbounds : frame.payload.length < 2 ^ 24 ∧ frame.streamId < 2 ^ 31) :
    Refines sent (readerDispatch lib session frame)
        (ledger.replenish frame.streamId (readingAfter lib session stream frame)) ∧
      (ledger.replenish frame.streamId (readingAfter lib session stream frame)).Sound
        (batch + frame.payload.length) := by
  obtain ⟨hconsumed, hcancel⟩ := readingAfter_spec lib hstream hfind
  have hle : dataBytes frame ≤ frame.payload.length := by
    unfold dataBytes
    split <;> omega
  have hlt : (readingAfter lib session stream frame).consumedBytes < 2 ^ 24 := by
    rw [hconsumed]
    omega
  have hid : frame.streamId ≠ 0 := by
    have hodd := hstream.1
    rw [(Slots.mem_of_find hfind).2] at hodd
    omega
  have hkeeps := handleStreamFrame_handlerKeeps lib session stream frame
  have hhandled : Refines sent (handledSession lib session stream frame) ledger :=
    (hrefines.of_same (.of_handler hkeeps)).of_same ⟨rfl, rfl, rfl, rfl, rfl, rfl⟩
  have hreplenish := replenishStreamWindow_refines hhandled hsound hbatch hbounds.2 hlt
  constructor
  · rw [readerDispatch_eq lib hscoped hfind]
    dsimp only
    split
    · rename_i hreset
      rw [hcancel.resolve_left hreset]
      exact queueRSTStreamFrame_refines hreplenish hbounds.2
    · exact hreplenish
  · refine (Ledger.replenish_sound hsound hid hlt).mono ?_
    rw [hconsumed]
    omega

/-- A frame that is not credited. -/
theorem readerDispatch_refines_other {frame : Frame} (hrefines : Refines sent session ledger)
    (h : frame.isStreamScoped = true → findStream session frame.streamId = none) :
    Refines sent (readerDispatch lib session frame) ledger := by
  have hsession := hrefines.of_same (.of_handler (handleSessionFrame_handlerKeeps session frame))
  by_cases hscoped : frame.isStreamScoped = true
  · rw [readerDispatch_unknown lib hscoped (h hscoped)]
    exact hsession
  · have hacknowledged := acknowledgeFrame_refines hsession frame
    rw [readerDispatch, if_neg hscoped]
    dsimp only
    split
    · exact hacknowledged.of_same ⟨rfl, rfl, rfl, rfl, rfl, rfl⟩
    · exact hacknowledged

theorem registerStream_refines (hrefines : Refines sent session ledger)
    (sink : Option ResponseSink) : Refines sent (registerStream session sink) ledger := by
  apply hrefines.of_same
  unfold registerStream
  dsimp only
  split <;> exact ⟨rfl, rfl, rfl, rfl, rfl, rfl⟩

theorem readerActions_snoc (events : List ConnectionEvent) (event : ConnectionEvent) :
    readerActions (events ++ [event]) = readerActions events ++ (readerAction? event).toList := by
  rw [readerActions, List.filterMap_append]
  cases h : readerAction? event <;> simp [readerActions, h]

/-- One event keeps the invariant. -/
theorem stepBoth_flowInv {both : Connection × Ledger} (h : FlowInv events both)
    {event : ConnectionEvent} (hreads : Reads pieces (events ++ [event])) :
    FlowInv (events ++ [event]) (stepBoth lib both event) := by
  have hbatch := batchBytes_le hreads.of_append
  have hquiet : readerAction? event = none →
      both.2.Sound (batchBytes (readerActions (events ++ [event]))) := by
    intro hnone
    rw [readerActions_snoc, hnone, Option.toList_none, List.append_nil]
    exact h.sound
  suffices hboth : Refines (stepBoth lib both event).1.sent (stepBoth lib both event).1.session
      (stepBoth lib both event).2 ∧
      (stepBoth lib both event).2.Sound (batchBytes (readerActions (events ++ [event]))) from
    ⟨stepConnection_requestsOnly lib h.requests event, hboth.1, hboth.2⟩
  cases event with
  | reader action =>
    have hactions : batchBytes (readerActions (events ++ [.reader action])) =
        batchFrom (batchBytes (readerActions events)) [action] := by
      rw [readerActions_snoc, batchBytes, batchFrom_append]
      rfl
    rw [hactions]
    cases action with
    | dispatch frame =>
      have hbounds := hreads.frame_bounds
      have hmore := h.sound.mono (Nat.le_add_right _ frame.payload.length)
      show Refines both.1.sent (readerDispatch lib both.1.session frame)
          (stepLedger lib both.1 both.2 (.reader (.dispatch frame))) ∧
        (stepLedger lib both.1 both.2 (.reader (.dispatch frame))).Sound
          (batchBytes (readerActions events) + frame.payload.length)
      rw [stepLedger]
      by_cases hscoped : frame.isStreamScoped = true
      · rw [if_pos hscoped]
        cases hfind : findStream both.1.session frame.streamId with
        | some stream =>
          exact readerDispatch_refines h.refines h.sound hbatch hscoped hfind
            (h.requests.streams.find hfind) hbounds
        | none => exact ⟨readerDispatch_refines_other h.refines fun _ => hfind, hmore⟩
      · rw [if_neg hscoped]
        exact ⟨readerDispatch_refines_other h.refines fun h' => absurd h' hscoped, hmore⟩
    | flush =>
      exact ⟨flushReaderWrites_refines h.refines h.sound hbatch,
        Ledger.flush_sound h.sound hbatch⟩
  | lost error => exact ⟨h.refines.of_same ⟨rfl, rfl, rfl, rfl, rfl, rfl⟩, hquiet rfl⟩
  | register decompress contract => exact ⟨registerStream_refines h.refines _, hquiet rfl⟩
  | checkCompletion slot =>
    refine ⟨?_, hquiet rfl⟩
    have hsent : (checkCompletion both.1 slot).sent = both.1.sent := by
      unfold checkCompletion
      split
      · rfl
      · split <;> rfl
    show Refines (checkCompletion both.1 slot).sent (checkCompletion both.1 slot).session both.2
    rw [hsent, checkCompletion_session]
    exact h.refines
  | finishCompletion slot =>
    refine ⟨?_, hquiet rfl⟩
    show Refines (passCompletion both.1 slot).sent (passCompletion both.1 slot).session both.2
    unfold passCompletion
    split
    · exact h.refines.of_same ⟨rfl, rfl, rfl, rfl, rfl, rfl⟩
    · exact h.refines
  | unregister slot => exact ⟨h.refines.of_same ⟨rfl, rfl, rfl, rfl, rfl, rfl⟩, hquiet rfl⟩

theorem connect_flowInv (headerTableSize : Nat) :
    FlowInv [] (connect headerTableSize, Ledger.init) where
  requests := ⟨connect_every headerTableSize, rfl⟩
  refines := ⟨rfl, rfl, rfl, rfl, rfl, wire_nil⟩
  sound := Ledger.init_sound

/-- The counters of a session and its updates are those of the ledger. -/
theorem runBoth_flowInv (lib : DecoderLib) (headerTableSize : Nat) {pieces : List Piece}
    {events : List ConnectionEvent} (hreads : Reads pieces events) :
    FlowInv events (runBoth lib headerTableSize events) := by
  induction events using List.reverseRecOn with
  | nil => exact connect_flowInv headerTableSize
  | append_singleton events event ih =>
    rw [runBoth_snoc]
    exact stepBoth_flowInv (ih hreads.of_append) hreads

/-! ## Balance of a run -/

/-- The connection has a stream for the bytes of a frame. -/
def Credited (connection : Connection) : ConnectionEvent → Prop
  | .reader (.dispatch frame) =>
    dataBytes frame > 0 → findStream connection.session frame.streamId ≠ none
  | _ => True

/-- The bytes of a DATA frame that an event brings. -/
def eventBytes : ConnectionEvent → Nat
  | .reader (.dispatch frame) => dataBytes frame
  | _ => 0

theorem dataReceived_snoc (events : List ConnectionEvent) (event : ConnectionEvent) :
    dataReceived (events ++ [event]) = dataReceived events + eventBytes event := by
  rw [dataReceived, readerActions_snoc, List.filterMap_append, List.map_append, List.sum_append]
  cases event with
  | reader action =>
    cases action with
    | dispatch frame => rfl
    | flush => rfl
  | lost error => rfl
  | register decompress contract => rfl
  | checkCompletion slot => rfl
  | finishCompletion slot => rfl
  | unregister slot => rfl

theorem dataBytes_of_not_scoped {frame : Frame} (h : ¬frame.isStreamScoped = true) :
    dataBytes frame = 0 := by
  unfold dataBytes
  split
  · rename_i hdata
    exact absurd (by simp [Frame.isStreamScoped, hdata]) h
  · rfl

/-- A registered stream does not have the id of the connection. -/
theorem streamId_ne_zero (h : RequestsOnly session) {streamId : Nat} {stream : Stream}
    (hfind : findStream session streamId = some stream) : streamId ≠ 0 := by
  have hodd := (h.streams.find hfind).1
  rw [(Slots.mem_of_find hfind).2] at hodd
  omega

/-- An event is credited with its bytes, unless their stream is unknown. -/
theorem stepLedger_balanced (hrequests : RequestsOnly connection.session) {total : Nat}
    (h : ledger.Balanced total) (event : ConnectionEvent) :
    ∃ credited, (stepLedger lib connection ledger event).Balanced (total + credited) ∧
      credited ≤ eventBytes event ∧
      (Credited connection event → credited = eventBytes event) := by
  cases event with
  | reader action =>
    cases action with
    | dispatch frame =>
      rw [stepLedger]
      by_cases hscoped : frame.isStreamScoped = true
      · rw [if_pos hscoped]
        cases hfind : findStream connection.session frame.streamId with
        | some stream =>
          have hspec := readingAfter_spec lib (hrequests.streams.find hfind) hfind
          refine ⟨dataBytes frame, ?_, Nat.le_refl _, fun _ => rfl⟩
          rw [← hspec.1]
          exact Ledger.replenish_balanced h (streamId_ne_zero hrequests hfind) _
        | none =>
          refine ⟨0, h, Nat.zero_le _, fun hcredited => ?_⟩
          by_contra hne
          exact hcredited (Nat.pos_of_ne_zero (Ne.symm hne)) hfind
      · rw [if_neg hscoped]
        exact ⟨0, h, Nat.zero_le _, fun _ => (dataBytes_of_not_scoped hscoped).symm⟩
    | flush => exact ⟨0, Ledger.flush_balanced h, Nat.le_refl _, fun _ => rfl⟩
  | lost error => exact ⟨0, h, Nat.le_refl _, fun _ => rfl⟩
  | register decompress contract => exact ⟨0, h, Nat.le_refl _, fun _ => rfl⟩
  | checkCompletion slot => exact ⟨0, h, Nat.le_refl _, fun _ => rfl⟩
  | finishCompletion slot => exact ⟨0, h, Nat.le_refl _, fun _ => rfl⟩
  | unregister slot => exact ⟨0, h, Nat.le_refl _, fun _ => rfl⟩

theorem runBoth_requestsOnly (lib : DecoderLib) (headerTableSize : Nat)
    (events : List ConnectionEvent) :
    RequestsOnly (runBoth lib headerTableSize events).1.session :=
  run_invariant (P := fun both : Connection × Ledger => RequestsOnly both.1.session)
    (fun _ event h => stepConnection_requestsOnly lib h event) events
    (connect_flowInv headerTableSize).requests

/-- The ledger of a run is balanced.  Nothing is missing when every event is
credited. -/
theorem runLedger_balanced (lib : DecoderLib) (headerTableSize : Nat)
    (events : List ConnectionEvent) :
    ∃ total, (runLedger lib headerTableSize events).Balanced total ∧
      total ≤ dataReceived events ∧
      (Meets (stepConnection lib) Credited (connect headerTableSize) events →
        total = dataReceived events) := by
  induction events using List.reverseRecOn with
  | nil => exact ⟨0, Ledger.init_balanced, Nat.le_refl _, fun _ => rfl⟩
  | append_singleton events event ih =>
    obtain ⟨total, hbalanced, hle, hall⟩ := ih
    obtain ⟨credited, hstep, hcredited, hevent⟩ := stepLedger_balanced
      (runBoth_requestsOnly lib headerTableSize events) hbalanced event
    refine ⟨total + credited, ?_, ?_, fun hmeets => ?_⟩
    · rw [runLedger, runBoth_snoc]
      exact hstep
    · rw [dataReceived_snoc]
      exact Nat.add_le_add hle hcredited
    · obtain ⟨hbefore, hlast⟩ := meets_snoc.mp hmeets
      have hlast' : Credited (runBoth lib headerTableSize events).1 event := by
        rw [runBoth_fst]
        exact hlast
      rw [dataReceived_snoc, hall hbefore, hevent hlast']

/-! ## Credit of the connection -/

/-- All octets queued for the peer so far. -/
def queuedOctets (connection : Connection) : Bytes :=
  connection.sent ++ connection.session.pendingWire

/-- The sum of the increments for the connection among some octets. -/
def connectionCredit (octets : Bytes) : Nat := (Ledger.connectionGrants (windowUpdates octets)).sum

/-- In a run that finds a stream for the bytes of every DATA frame, no credit
of the connection is lost. -/
theorem runConnection_conserves (lib : DecoderLib) (headerTableSize : Nat) {pieces : List Piece}
    {events : List ConnectionEvent} (hreads : Reads pieces events)
    (hcredited : Meets (stepConnection lib) Credited (connect headerTableSize) events) :
    let connection := runConnection lib headerTableSize events
    connectionCredit (queuedOctets connection) + connection.session.pendingConnWindow =
      dataReceived events + (connection.session.connWindowTarget - 65535) := by
  intro connection
  have hinv := runBoth_flowInv lib headerTableSize hreads
  obtain ⟨total, hbalanced, -, hall⟩ := runLedger_balanced lib headerTableSize events
  have htarget := hinv.sound.growing.target_le
  have hrefines := hinv.refines
  rw [runBoth_fst] at hrefines
  rw [hall hcredited, Ledger.Balanced, Ledger.granted, runLedger] at hbalanced
  rw [connectionCredit, queuedOctets, hrefines.wire.updates, hrefines.owed, hrefines.target]
  omega

/-- A DATA frame of five bytes, and the read it comes in. -/
def dataFrame : Frame := ⟨0x0, 0, 1, [1, 2, 3, 4, 5]⟩

def dataPiece : Piece where
  bytes := [0, 0, 5, 0x0, 0, 0, 0, 0, 1, 1, 2, 3, 4, 5]
  nonempty := by decide
  fits := by decide

theorem readerTrace_dataPiece : readerTrace [dataPiece] = [.dispatch dataFrame, .flush] := by
  have hcut : frameCutter.cut dataPiece.bytes = some (dataFrame, []) := by decide
  have htrace := readerTrace_append [] dataPiece
  rw [List.nil_append] at htrace
  have hacc : (recordReading []).acc ++ dataPiece.bytes = dataPiece.bytes := rfl
  rw [htrace, hacc, frameCutter.all_of_some hcut, frameCutter.all_nil]
  rfl

theorem runConnection_conserves_data :
    let events : List ConnectionEvent :=
      [.register 0 none, .reader (.dispatch dataFrame), .reader .flush]
    let connection := runConnection noDecoders 4096 events
    connectionCredit (queuedOctets connection) + connection.session.pendingConnWindow =
      dataReceived events + (connection.session.connWindowTarget - 65535) := by
  intro events
  have hreads : Reads [dataPiece] events := by
    rw [Reads, readerTrace_dataPiece]
    exact List.prefix_refl _
  have hfind : (findStream (runConnection noDecoders 4096 [.register 0 none]).session 1).isSome =
      true := by decide
  exact runConnection_conserves noDecoders 4096 hreads
    ⟨trivial, fun _ => Option.isSome_iff_ne_none.mp hfind, trivial, trivial⟩

/-- The frame comes after its stream was removed. -/
theorem runConnection_loses_credit :
    let events : List ConnectionEvent :=
      [.register 0 none, .unregister 0, .reader (.dispatch dataFrame), .reader .flush]
    let connection := runConnection noDecoders 4096 events
    Reads [dataPiece] events ∧
      connectionCredit (queuedOctets connection) + connection.session.pendingConnWindow ≠
        dataReceived events + (connection.session.connWindowTarget - 65535) := by
  intro events connection
  constructor
  · rw [Reads, readerTrace_dataPiece]
    exact List.prefix_refl _
  · have hqueued : queuedOctets connection = [] := by decide
    have hpending : connection.session.pendingConnWindow = 0 := by decide
    have htarget : connection.session.connWindowTarget = 65535 := by decide
    have hdata : dataReceived events = 5 := by decide
    rw [hqueued, hpending, htarget, hdata, connectionCredit, windowUpdates, frameCutter.all_nil]
    decide

/-! ## Numbers of a run -/

/-- The update that each fingerprint sends behind the connection preface. -/
def CHROME_WINDOW_UPDATE_FRAME : Bytes :=
  [0x00, 0x00, 0x04, 0x08, 0x00, 0x00, 0x00, 0x00, 0x00, 0x00, 0xEF, 0x00, 0x01]

def CRIOS_WINDOW_UPDATE_FRAME : Bytes :=
  [0x00, 0x00, 0x04, 0x08, 0x00, 0x00, 0x00, 0x00, 0x00, 0x00, 0x9F, 0x00, 0x01]

def fingerprintWindowUpdates : List Bytes :=
  [CHROME_WINDOW_UPDATE_FRAME, CRIOS_WINDOW_UPDATE_FRAME]

/-- The window of the connection as the peer counts it, after it sent some
DATA. -/
def peerWindow (preface : Bytes) (connection : Connection) (dataSent : Nat) : Int :=
  65535 + (connectionCredit preface : Int) + (connectionCredit (queuedOctets connection) : Int) -
    (dataSent : Int)

theorem connectionCredit_of_cut {octets : Bytes} (frame : Frame) {increment : Nat}
    (hcut : Frame.cut octets = some (frame, []))
    (hupdate : windowUpdate? frame = some (0, increment)) :
    connectionCredit octets = increment := by
  have hcut' : frameCutter.cut octets = some (frame, []) := hcut
  rw [connectionCredit, windowUpdates, frameCutter.all_of_some hcut', frameCutter.all_nil]
  simp [hupdate, Ledger.connectionGrants]

theorem connectionCredit_preface {preface : Bytes} (h : preface ∈ fingerprintWindowUpdates) :
    connectionCredit preface ≤ 15663105 := by
  rcases List.mem_cons.mp h with rfl | hmem
  · have hcredit : connectionCredit CHROME_WINDOW_UPDATE_FRAME = 15663105 :=
      connectionCredit_of_cut ⟨0x8, 0, 0, [0x00, 0xEF, 0x00, 0x01]⟩ (by decide) (by decide)
    rw [hcredit]
  · rw [List.mem_singleton.mp hmem]
    have hcredit : connectionCredit CRIOS_WINDOW_UPDATE_FRAME = 10420225 :=
      connectionCredit_of_cut ⟨0x8, 0, 0, [0x00, 0x9F, 0x00, 0x01]⟩ (by decide) (by decide)
    rw [hcredit]
    decide

/-- The window of the connection never shrinks along a run. -/
theorem stepLedger_target (hrequests : RequestsOnly connection.session)
    (event : ConnectionEvent) :
    ledger.target ≤ (stepLedger lib connection ledger event).target := by
  unfold stepLedger
  split
  · rename_i frame
    split
    · cases hfind : findStream connection.session frame.streamId with
      | some stream =>
        exact Ledger.target_le_replenish ledger (streamId_ne_zero hrequests hfind) _
      | none => exact Nat.le_refl _
    · exact Nat.le_refl _
  · exact Nat.le_of_eq (Ledger.target_flush ledger).symm
  · exact Nat.le_refl _

theorem runLedger_target (lib : DecoderLib) (headerTableSize : Nat)
    (events later : List ConnectionEvent) :
    (runLedger lib headerTableSize events).target ≤
      (runLedger lib headerTableSize (events ++ later)).target := by
  induction later using List.reverseRecOn with
  | nil => rw [List.append_nil]
  | append_singleton later event ih =>
    rw [← List.append_assoc]
    refine Nat.le_trans ih ?_
    rw [runLedger, runLedger, runBoth_snoc]
    exact stepLedger_target (runBoth_requestsOnly lib headerTableSize _) event

/-- Along every run no counter wraps, because each is that of the ledger with
numbers that do not wrap; the window of the connection grows up to its
greatest size; the updates carry their increments; and the peer never gets
more credit than the bytes it sent and the growth of the window. -/
theorem runConnection_bounded (lib : DecoderLib) (headerTableSize : Nat) {pieces : List Piece}
    {events : List ConnectionEvent} (hreads : Reads pieces events) :
    let connection := runConnection lib headerTableSize events
    let ledger := runLedger lib headerTableSize events
    (connection.session.pendingConnWindow = ledger.owed ∧
      connection.session.connWindowSinceGrowth = ledger.sinceGrowth ∧
      connection.session.connWindowTarget = ledger.target ∧
      connection.session.pendingStreamWindows = ledger.streams) ∧
    (∀ n, (runConnection lib headerTableSize (events.take n)).session.connWindowTarget ≤
      connection.session.connWindowTarget) ∧
    connection.session.connWindowTarget ≤ 16777216 ∧
    windowUpdates (queuedOctets connection) = ledger.grants ∧
    (∀ update ∈ windowUpdates (queuedOctets connection),
      1 ≤ update.2 ∧ update.2 ≤ 2 ^ 31 - 1) ∧
    connectionCredit (queuedOctets connection) ≤ dataReceived events + (16777216 - 65535) ∧
    (∀ preface ∈ fingerprintWindowUpdates, ∀ dataSent, dataReceived events ≤ dataSent →
      peerWindow preface connection dataSent < 2 ^ 31) := by
  intro connection ledger
  have hinv := runBoth_flowInv lib headerTableSize hreads
  have hrefines := hinv.refines
  rw [runBoth_fst] at hrefines
  have htarget := hinv.sound.growing.target_le
  unfold CONNECTION_WINDOW_MAX at htarget
  obtain ⟨total, hbalanced, hle, -⟩ := runLedger_balanced lib headerTableSize events
  rw [Ledger.Balanced, Ledger.granted, runLedger] at hbalanced
  have hcredit : connectionCredit (queuedOctets connection) ≤
      dataReceived events + (16777216 - 65535) := by
    rw [connectionCredit, queuedOctets, hrefines.wire.updates]
    omega
  refine ⟨⟨hrefines.owed, hrefines.sinceGrowth, hrefines.target, hrefines.streams⟩, fun n => ?_,
    ?_, hrefines.wire.updates, fun update hupdate => ?_, hcredit,
    fun preface hpreface dataSent hsent => ?_⟩
  · have hparts : Reads pieces (events.take n ++ events.drop n) := by
      rw [List.take_append_drop]
      exact hreads
    have hbefore := (runBoth_flowInv lib headerTableSize hparts.of_append).refines.target
    have hmono := runLedger_target lib headerTableSize (events.take n) (events.drop n)
    rw [List.take_append_drop] at hmono
    rw [runBoth_fst] at hbefore
    rw [hbefore, hrefines.target]
    exact hmono
  · rw [hrefines.target]
    exact htarget.2
  · rw [queuedOctets, hrefines.wire.updates] at hupdate
    have hgrant := hinv.sound.grants update hupdate
    omega
  · have hbegin := connectionCredit_preface hpreface
    rw [peerWindow]
    omega

/-- The end of the body, in a read of its own. -/
def lastFrame : Frame := ⟨0x0, 1, 1, [6, 7, 8]⟩

def lastPiece : Piece where
  bytes := [0, 0, 3, 0x0, 1, 0, 0, 0, 1, 6, 7, 8]
  nonempty := by decide
  fits := by decide

theorem readerTrace_twoPieces :
    readerTrace [dataPiece, lastPiece] =
      [.dispatch dataFrame, .flush, .dispatch lastFrame, .flush] := by
  have hfirst : frameCutter.cut dataPiece.bytes = some (dataFrame, []) := by decide
  have hlast : frameCutter.cut lastPiece.bytes = some (lastFrame, []) := by decide
  have htrace := readerTrace_append [dataPiece] lastPiece
  have hacc : (recordReading [dataPiece]).acc = [] := by
    have hempty : (recordReading []).acc ++ dataPiece.bytes = dataPiece.bytes := rfl
    have happend := congrArg Reading.acc (recordReading_append [] dataPiece)
    rw [hempty, frameCutter.all_of_some hfirst, frameCutter.all_nil] at happend
    exact happend
  rw [readerTrace_dataPiece, hacc, List.nil_append, frameCutter.all_of_some hlast,
    frameCutter.all_nil] at htrace
  exact htrace

/-- The credit of both frames goes back at the end of the body, in one update
of the connection. -/
theorem runConnection_bounded_data :
    let events : List ConnectionEvent :=
      [.register 0 none, .reader (.dispatch dataFrame), .reader .flush,
        .reader (.dispatch lastFrame), .reader .flush]
    let connection := runConnection noDecoders 4096 events
    connection.session.pendingConnWindow = 0 ∧ connection.session.connWindowTarget ≤ 16777216 ∧
      windowUpdates (queuedOctets connection) = [(0, 8)] ∧
      connectionCredit (queuedOctets connection) ≤ 8 + (16777216 - 65535) := by
  intro events connection
  have hreads : Reads [dataPiece, lastPiece] events := by
    rewrite [Reads, readerTrace_twoPieces]
    exact List.prefix_refl _
  obtain ⟨⟨howed, -⟩, -, htarget, hupdates, -, hcredit, -⟩ :=
    runConnection_bounded noDecoders 4096 hreads
  have hledger : (runLedger noDecoders 4096 events).owed = 0 ∧
      (runLedger noDecoders 4096 events).grants = [(0, 8)] := by
    decide +kernel
  exact ⟨howed.trans hledger.1, htarget, hupdates.trans hledger.2, hcredit⟩

end HttpRequestClient.Http2
