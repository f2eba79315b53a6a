import HttpRequestClient.Http2.Reader
import Mathlib.Tactic.IntervalCases

/-!
# The flow-control ledger

What the reader owes the peer, with numbers that do not wrap: the credit of
the connection, the credit of each stream, and the updates granted so far.
The window of the connection grows with the traffic, and the growth is owed
like received bytes.

* `Balanced`: what is granted and owed for the connection is what was
  consumed and the growth of the window.
* `Sound` bounds every number of the ledger.  It depends on the bytes
  consumed since the last `flush`, because the connection is only granted
  credit there.
* `account` is what a stream was granted and what is held for it.  Only a
  frame of the stream changes it, and credit without a place is lost.

`FlowControl.lean` shows that the counters of a session are this ledger.
-/

namespace HttpRequestClient.Http2

/-- An update has the id of its stream, or zero for the connection. -/
structure Ledger where
  owed : Nat
  due : Bool
  target : Nat
  sinceGrowth : Nat
  streams : List PendingWindowUpdate
  grants : List (Nat × Nat)

namespace Ledger

/-- The ledger of a new connection. -/
def init : Ledger := ⟨0, false, 65535, 0, [], []⟩

/-- The window doubles when a whole window was consumed. -/
def grow (ledger : Ledger) (consumed : Nat) : Ledger :=
  if ledger.target ≥ CONNECTION_WINDOW_MAX then ledger
  else if ledger.sinceGrowth + consumed < ledger.target then
    { ledger with sinceGrowth := ledger.sinceGrowth + consumed }
  else
    let target := min (ledger.target * 2) CONNECTION_WINDOW_MAX
    { ledger with
      sinceGrowth := ledger.sinceGrowth + consumed - ledger.target
      target := target
      owed := ledger.owed + (target - ledger.target)
      due := true }

/-- Consumed bytes are owed to the connection. -/
def consume (ledger : Ledger) (consumed : Nat) : Ledger :=
  if consumed > 0 then grow { ledger with owed := ledger.owed + consumed } consumed else ledger

/-- The place of the credit of a stream: its entry, or a new one when there
is room. -/
def place (ledger : Ledger) (streamId : Nat) : Option (Nat × List PendingWindowUpdate) :=
  match ledger.streams.findIdx? (fun entry => entry.streamId = streamId) with
  | some i => some (i, ledger.streams)
  | none =>
    if ledger.streams.length ≥ MAX_CONCURRENT_STREAMS_PER_SESSION then none
    else some (ledger.streams.length, ledger.streams ++ [⟨streamId, 0⟩])

/-- Consumed bytes are owed to the stream, and granted above a threshold. -/
def credit (ledger : Ledger) (streamId consumed : Nat) : Ledger :=
  match ledger.place streamId with
  | none => ledger
  | some (i, streams) =>
    let total := (streams.getD i ⟨streamId, 0⟩).credit + consumed
    if total ≤ STREAM_WINDOW_UPDATE_THRESHOLD then
      { ledger with streams := streams.set i ⟨streamId, total⟩ }
    else
      { ledger with
        streams := streams.set i ⟨streamId, 0⟩
        grants := ledger.grants ++ [(streamId, total)] }

/-- A dead stream is owed nothing. -/
def discard (ledger : Ledger) (streamId : Nat) : Ledger :=
  match ledger.streams.findIdx? (fun entry => entry.streamId = streamId) with
  | none => ledger
  | some i =>
    let last := ledger.streams.getD (ledger.streams.length - 1) ⟨streamId, 0⟩
    { ledger with streams := (ledger.streams.set i last).dropLast }

def settle (ledger : Ledger) (streamId : Nat) (reading : StreamReading) : Ledger :=
  if reading.ended ∨ reading.reset ∨ reading.cancelStreamId ≠ 0 then ledger.discard streamId
  else if reading.consumedBytes > 0 then ledger.credit streamId reading.consumedBytes
  else ledger

/-- The ledger after a frame of a stream. -/
def replenish (ledger : Ledger) (streamId : Nat) (reading : StreamReading) : Ledger :=
  let ledger := (ledger.consume reading.consumedBytes).settle streamId reading
  if reading.ended ∨ ledger.owed ≥ CONNECTION_WINDOW_UPDATE_THRESHOLD then
    { ledger with due := true }
  else ledger

/-- At the end of a batch the connection is granted what is due. -/
def flush (ledger : Ledger) : Ledger :=
  if ledger.due then
    if ledger.owed > 0 then
      { ledger with owed := 0, due := false, grants := ledger.grants ++ [(0, ledger.owed)] }
    else { ledger with due := false }
  else ledger

/-! ## Balance -/

/-- The increments granted to the connection. -/
def connectionGrants (grants : List (Nat × Nat)) : List Nat :=
  (grants.filter (fun grant => grant.1 = 0)).map Prod.snd

def granted (ledger : Ledger) : Nat := (connectionGrants ledger.grants).sum

theorem connectionGrants_append (grants : List (Nat × Nat)) (streamId increment : Nat) :
    (connectionGrants (grants ++ [(streamId, increment)])).sum =
      (connectionGrants grants).sum + if streamId = 0 then increment else 0 := by
  rw [connectionGrants, List.filter_append, List.map_append, List.sum_append]
  by_cases h : streamId = 0
  · simp [connectionGrants, h]
  · simp [connectionGrants, h]

/-- Granted and owed credit is what was consumed and what the window grew
above its initial size. -/
def Balanced (ledger : Ledger) (consumed : Nat) : Prop :=
  ledger.granted + ledger.owed + 65535 = consumed + ledger.target

theorem init_balanced : init.Balanced 0 := rfl

theorem target_le_grow (ledger : Ledger) (consumed : Nat) :
    ledger.target ≤ (ledger.grow consumed).target := by
  unfold grow
  split
  · exact Nat.le_refl _
  · split
    · exact Nat.le_refl _
    · rename_i hmax hfull
      show ledger.target ≤ min (ledger.target * 2) CONNECTION_WINDOW_MAX
      omega

theorem grow_balanced {ledger : Ledger} {total : Nat} (h : ledger.Balanced total)
    (consumed : Nat) : (ledger.grow consumed).Balanced total := by
  have hle := target_le_grow ledger consumed
  unfold grow at hle ⊢
  split
  · exact h
  · rename_i hmax
    rw [if_neg hmax] at hle
    split
    · exact h
    · rename_i hfull
      rw [if_neg hfull] at hle
      simp only [Balanced, granted] at h hle ⊢
      omega

theorem consume_balanced {ledger : Ledger} {total : Nat} (h : ledger.Balanced total)
    (consumed : Nat) : (ledger.consume consumed).Balanced (total + consumed) := by
  unfold consume
  split
  · apply grow_balanced
    simp only [Balanced, granted] at h ⊢
    omega
  · rename_i hzero
    rw [Nat.eq_zero_of_not_pos hzero]
    exact h

/-- The parts of the ledger about the connection, and what it was granted. -/
structure SameConnection (before after : Ledger) : Prop where
  owed : after.owed = before.owed
  due : after.due = before.due
  target : after.target = before.target
  sinceGrowth : after.sinceGrowth = before.sinceGrowth
  granted : after.granted = before.granted

/-- The credit of a stream is not that of the connection. -/
theorem settle_connection (ledger : Ledger) {streamId : Nat} (hid : streamId ≠ 0)
    (reading : StreamReading) : SameConnection ledger (ledger.settle streamId reading) := by
  unfold settle
  split
  · unfold discard
    split <;> exact ⟨rfl, rfl, rfl, rfl, rfl⟩
  · split
    · unfold credit
      split
      · exact ⟨rfl, rfl, rfl, rfl, rfl⟩
      · dsimp only
        split
        · exact ⟨rfl, rfl, rfl, rfl, rfl⟩
        · refine ⟨rfl, rfl, rfl, rfl, ?_⟩
          rw [granted, connectionGrants_append, if_neg hid]
          rfl
    · exact ⟨rfl, rfl, rfl, rfl, rfl⟩

theorem replenish_balanced {ledger : Ledger} {total : Nat} (h : ledger.Balanced total)
    {streamId : Nat} (hid : streamId ≠ 0) (reading : StreamReading) :
    (ledger.replenish streamId reading).Balanced (total + reading.consumedBytes) := by
  have hconsume := consume_balanced h reading.consumedBytes
  have hsame := settle_connection (ledger.consume reading.consumedBytes) hid reading
  have hsettle : ((ledger.consume reading.consumedBytes).settle streamId reading).Balanced
      (total + reading.consumedBytes) := by
    rw [Balanced, hsame.owed, hsame.target, hsame.granted]
    exact hconsume
  unfold replenish
  dsimp only
  split
  · exact hsettle
  · exact hsettle

theorem flush_balanced {ledger : Ledger} {total : Nat} (h : ledger.Balanced total) :
    ledger.flush.Balanced total := by
  unfold flush
  split
  · split
    · simp only [Balanced, granted, connectionGrants_append] at h ⊢
      simpa using h
    · exact h
  · exact h

/-! ## Bounds -/

/-- The window has its initial size doubled some times, or its greatest
size.  Each doubling takes one frame, so few frames can be ahead of it. -/
def Growing (ledger : Ledger) : Prop :=
  (∃ k, k ≤ 8 ∧ ledger.target = 65535 * 2 ^ k ∧ ledger.sinceGrowth < 2 ^ 24 * (k + 1)) ∨
    ledger.target = CONNECTION_WINDOW_MAX

theorem Growing.target_le {ledger : Ledger} (h : Growing ledger) :
    65535 ≤ ledger.target ∧ ledger.target ≤ CONNECTION_WINDOW_MAX := by
  unfold CONNECTION_WINDOW_MAX
  rcases h with ⟨k, hk, htarget, -⟩ | htarget
  · rw [htarget]
    interval_cases k <;> decide
  · rw [htarget]
    decide

/-- Below the greatest size, little was consumed since the last growth. -/
theorem Growing.sinceGrowth_lt {ledger : Ledger} (h : Growing ledger)
    (hmax : ¬ledger.target ≥ CONNECTION_WINDOW_MAX) : ledger.sinceGrowth < 9 * 2 ^ 24 := by
  rcases h with ⟨k, hk, -, hsince⟩ | htarget
  · have hle : 2 ^ 24 * (k + 1) ≤ 9 * 2 ^ 24 := by omega
    omega
  · exact absurd (Nat.le_of_eq htarget.symm) hmax

theorem grow_growing {ledger : Ledger} (h : Growing ledger) {consumed : Nat}
    (hconsumed : consumed < 2 ^ 24) : Growing (ledger.grow consumed) := by
  unfold grow
  split
  · exact h
  · rename_i hmax
    rcases h with ⟨k, hk, htarget, hsince⟩ | htarget
    · split
      · rename_i hfull
        refine .inl ⟨k, hk, htarget, ?_⟩
        have hle : ledger.target ≤ CONNECTION_WINDOW_MAX := by omega
        unfold CONNECTION_WINDOW_MAX at hle
        show ledger.sinceGrowth + consumed < 2 ^ 24 * (k + 1)
        omega
      · by_cases hlast : k = 8
        · right
          show min (ledger.target * 2) CONNECTION_WINDOW_MAX = CONNECTION_WINDOW_MAX
          rw [htarget, hlast]
          decide
        · refine .inl ⟨k + 1, by omega, ?_, ?_⟩
          · show min (ledger.target * 2) CONNECTION_WINDOW_MAX = 65535 * 2 ^ (k + 1)
            rw [htarget]
            have hk7 : k ≤ 7 := by omega
            interval_cases k <;> decide
          · show ledger.sinceGrowth + consumed - ledger.target < 2 ^ 24 * (k + 1 + 1)
            omega
    · exact absurd (Nat.le_of_eq htarget.symm) hmax

/-- The numbers of the ledger, when `batch` bytes were consumed since the
last flush. -/
structure Sound (ledger : Ledger) (batch : Nat) : Prop where
  growing : Growing ledger
  owed : ledger.owed < batch + ledger.target
  quiet : ledger.due = false → ledger.owed < CONNECTION_WINDOW_UPDATE_THRESHOLD
  credits : ∀ entry ∈ ledger.streams, entry.credit ≤ STREAM_WINDOW_UPDATE_THRESHOLD
  grants : ∀ grant ∈ ledger.grants, 0 < grant.2 ∧ grant.2 < 2 ^ 31

theorem init_sound : init.Sound 0 where
  growing := .inl ⟨0, by decide, rfl, by decide⟩
  owed := by decide
  quiet := fun _ => by decide
  credits := fun entry hentry => nomatch hentry
  grants := fun grant hgrant => nomatch hgrant

theorem Sound.mono {ledger : Ledger} {batch more : Nat} (h : ledger.Sound batch)
    (hle : batch ≤ more) : ledger.Sound more :=
  ⟨h.growing, Nat.lt_of_lt_of_le h.owed (Nat.add_le_add_right hle _), h.quiet, h.credits, h.grants⟩

/-- The growth of the window is owed and does not touch the streams. -/
theorem grow_spec (ledger : Ledger) (consumed : Nat) :
    (ledger.grow consumed).owed + ledger.target = ledger.owed + (ledger.grow consumed).target ∧
      (ledger.grow consumed).streams = ledger.streams ∧
      (ledger.grow consumed).grants = ledger.grants := by
  have hle := target_le_grow ledger consumed
  unfold grow at hle ⊢
  split
  · exact ⟨rfl, rfl, rfl⟩
  · rename_i hmax
    rw [if_neg hmax] at hle
    split
    · exact ⟨rfl, rfl, rfl⟩
    · rename_i hfull
      rw [if_neg hfull] at hle
      refine ⟨?_, rfl, rfl⟩
      simp only at hle ⊢
      omega

theorem consume_spec (ledger : Ledger) (consumed : Nat) :
    (ledger.consume consumed).owed + ledger.target =
        ledger.owed + consumed + (ledger.consume consumed).target ∧
      (ledger.consume consumed).streams = ledger.streams ∧
      (ledger.consume consumed).grants = ledger.grants := by
  unfold consume
  split
  · exact grow_spec { ledger with owed := ledger.owed + consumed } consumed
  · rename_i hzero
    rw [Nat.eq_zero_of_not_pos hzero]
    exact ⟨rfl, rfl, rfl⟩

theorem consume_growing {ledger : Ledger} (h : Growing ledger) {consumed : Nat}
    (hconsumed : consumed < 2 ^ 24) : Growing (ledger.consume consumed) := by
  unfold consume
  split
  · have hstart : Growing { ledger with owed := ledger.owed + consumed } := h
    exact grow_growing hstart hconsumed
  · exact h

/-- The credit at the place of a stream. -/
theorem place_credits {ledger : Ledger} {streamId i : Nat} {streams : List PendingWindowUpdate}
    (h : ∀ entry ∈ ledger.streams, entry.credit ≤ STREAM_WINDOW_UPDATE_THRESHOLD)
    (hplace : ledger.place streamId = some (i, streams)) :
    (∀ entry ∈ streams, entry.credit ≤ STREAM_WINDOW_UPDATE_THRESHOLD) ∧
      (streams.getD i ⟨streamId, 0⟩).credit ≤ STREAM_WINDOW_UPDATE_THRESHOLD := by
  have hstreams : ∀ entry ∈ streams, entry.credit ≤ STREAM_WINDOW_UPDATE_THRESHOLD := by
    unfold place at hplace
    split at hplace
    · cases hplace
      exact h
    · split at hplace
      · cases hplace
      · cases hplace
        intro entry hentry
        rcases List.mem_append.mp hentry with hmem | hmem
        · exact h entry hmem
        · rw [List.mem_singleton.mp hmem]
          exact Nat.zero_le _
  refine ⟨hstreams, ?_⟩
  rw [List.getD_eq_getElem?_getD]
  cases hget : streams[i]? with
  | none => exact Nat.zero_le _
  | some entry => exact hstreams entry (List.mem_of_getElem? hget)

theorem settle_streams {ledger : Ledger}
    (hcredits : ∀ entry ∈ ledger.streams, entry.credit ≤ STREAM_WINDOW_UPDATE_THRESHOLD)
    (hgrants : ∀ grant ∈ ledger.grants, 0 < grant.2 ∧ grant.2 < 2 ^ 31) (streamId : Nat)
    {reading : StreamReading} (hconsumed : reading.consumedBytes < 2 ^ 24) :
    (∀ entry ∈ (ledger.settle streamId reading).streams,
        entry.credit ≤ STREAM_WINDOW_UPDATE_THRESHOLD) ∧
      ∀ grant ∈ (ledger.settle streamId reading).grants, 0 < grant.2 ∧ grant.2 < 2 ^ 31 := by
  unfold settle
  split
  · unfold discard
    split
    · exact ⟨hcredits, hgrants⟩
    · refine ⟨fun entry hentry => ?_, hgrants⟩
      dsimp only at hentry
      rcases List.mem_or_eq_of_mem_set (List.dropLast_subset _ hentry) with hmem | heq
      · exact hcredits entry hmem
      · rw [heq, List.getD_eq_getElem?_getD]
        cases hget : ledger.streams[ledger.streams.length - 1]? with
        | none => exact Nat.zero_le _
        | some last => exact hcredits last (List.mem_of_getElem? hget)
  · split
    · unfold credit
      split
      · exact ⟨hcredits, hgrants⟩
      · rename_i i streams hplace
        obtain ⟨hstreams, hentry⟩ := place_credits hcredits hplace
        dsimp only
        generalize (streams.getD i ⟨streamId, 0⟩).credit = before at hentry
        have hset : ∀ credit ≤ STREAM_WINDOW_UPDATE_THRESHOLD,
            ∀ entry ∈ streams.set i ⟨streamId, credit⟩,
              entry.credit ≤ STREAM_WINDOW_UPDATE_THRESHOLD := by
          intro credit hcredit entry hmem
          rcases List.mem_or_eq_of_mem_set hmem with hmem | heq
          · exact hstreams entry hmem
          · rw [heq]
            exact hcredit
        split
        · rename_i hbelow
          exact ⟨hset _ hbelow, hgrants⟩
        · rename_i habove
          refine ⟨hset 0 (Nat.zero_le _), fun grant hgrant => ?_⟩
          rcases List.mem_append.mp hgrant with hmem | hmem
          · exact hgrants grant hmem
          · rw [List.mem_singleton.mp hmem]
            unfold STREAM_WINDOW_UPDATE_THRESHOLD at hentry habove
            constructor
            · show 0 < before + reading.consumedBytes
              omega
            · show before + reading.consumedBytes < 2 ^ 31
              omega
    · exact ⟨hcredits, hgrants⟩

/-- A frame of a stream keeps the ledger sound. -/
theorem replenish_sound {ledger : Ledger} {batch : Nat} (h : ledger.Sound batch) {streamId : Nat}
    (hid : streamId ≠ 0) {reading : StreamReading} (hconsumed : reading.consumedBytes < 2 ^ 24) :
    (ledger.replenish streamId reading).Sound (batch + reading.consumedBytes) := by
  obtain ⟨howed, hstreams, hgrants⟩ := consume_spec ledger reading.consumedBytes
  have hgrowing := consume_growing h.growing hconsumed
  have hsame := settle_connection (ledger.consume reading.consumedBytes) hid reading
  have hcredits : ∀ entry ∈ (ledger.consume reading.consumedBytes).streams,
      entry.credit ≤ STREAM_WINDOW_UPDATE_THRESHOLD := by
    rw [hstreams]
    exact h.credits
  have hstream := settle_streams hcredits (hgrants ▸ h.grants) streamId hconsumed
  have hbefore := h.owed
  have howed' : ((ledger.consume reading.consumedBytes).settle streamId reading).owed <
      batch + reading.consumedBytes +
        ((ledger.consume reading.consumedBytes).settle streamId reading).target := by
    rw [hsame.owed, hsame.target]
    omega
  have hgrowing' : Growing ((ledger.consume reading.consumedBytes).settle streamId reading) := by
    rw [Growing, hsame.target, hsame.sinceGrowth]
    exact hgrowing
  unfold replenish
  dsimp only
  split
  · exact ⟨hgrowing', howed', (fun hdue => nomatch hdue), hstream.1, hstream.2⟩
  · rename_i hquiet
    refine ⟨hgrowing', howed', fun _ => ?_, hstream.1, hstream.2⟩
    omega

/-- The most that one batch can consume: an incomplete frame was left over,
and one read was added to it. -/
def BATCH_MAX : Nat := 2 ^ 24 + 16391

theorem flush_sound {ledger : Ledger} {batch : Nat} (h : ledger.Sound batch)
    (hbatch : batch ≤ BATCH_MAX) : ledger.flush.Sound 0 := by
  have htarget := h.growing.target_le
  have howed := h.owed
  unfold CONNECTION_WINDOW_MAX at htarget
  unfold BATCH_MAX at hbatch
  unfold flush
  split
  · split
    · rename_i hpositive
      refine ⟨h.growing, ?_, fun _ => ?_, h.credits, fun grant hgrant => ?_⟩
      · show 0 < 0 + ledger.target
        omega
      · show 0 < CONNECTION_WINDOW_UPDATE_THRESHOLD
        decide
      · rcases List.mem_append.mp hgrant with hmem | hmem
        · exact h.grants grant hmem
        · rw [List.mem_singleton.mp hmem]
          exact ⟨hpositive, by show ledger.owed < 2 ^ 31; omega⟩
    · rename_i hzero
      have hnone : ledger.owed = 0 := Nat.eq_zero_of_not_pos hzero
      refine ⟨h.growing, ?_, fun _ => ?_, h.credits, h.grants⟩
      · show ledger.owed < 0 + ledger.target
        omega
      · show ledger.owed < 65535
        omega
  · rename_i hdue
    have hquiet := h.quiet (Bool.eq_false_iff.mpr hdue)
    unfold CONNECTION_WINDOW_UPDATE_THRESHOLD at hquiet
    exact ⟨h.growing, by omega, h.quiet, h.credits, h.grants⟩

/-- The window of the connection never shrinks. -/
theorem target_le_replenish (ledger : Ledger) {streamId : Nat} (hid : streamId ≠ 0)
    (reading : StreamReading) : ledger.target ≤ (ledger.replenish streamId reading).target := by
  have hconsume : ledger.target ≤ (ledger.consume reading.consumedBytes).target := by
    unfold consume
    split
    · exact target_le_grow { ledger with owed := ledger.owed + reading.consumedBytes } _
    · exact Nat.le_refl _
  have hsame := settle_connection (ledger.consume reading.consumedBytes) hid reading
  unfold replenish
  dsimp only
  split
  · exact hsame.target ▸ hconsume
  · exact hsame.target ▸ hconsume

@[simp] theorem target_flush (ledger : Ledger) : ledger.flush.target = ledger.target := by
  unfold flush
  split
  · split <;> rfl
  · rfl

/-! ## Credit of a stream -/

/-- The credit of one entry, if it is that of the stream. -/
def creditIn (streamId : Nat) (entry : PendingWindowUpdate) : Nat :=
  if entry.streamId = streamId then entry.credit else 0

/-- The credit that some entries hold for a stream. -/
def heldFor (streamId : Nat) (streams : List PendingWindowUpdate) : Nat :=
  (streams.map (creditIn streamId)).sum

/-- The increments granted to a stream. -/
def grantedTo (streamId : Nat) (grants : List (Nat × Nat)) : Nat :=
  ((grants.filter (fun grant => grant.1 = streamId)).map Prod.snd).sum

/-- What a stream was granted, and what the ledger holds for it. -/
def account (ledger : Ledger) (streamId : Nat) : Nat :=
  grantedTo streamId ledger.grants + heldFor streamId ledger.streams

theorem grantedTo_append (grants : List (Nat × Nat)) (streamId other increment : Nat) :
    grantedTo other (grants ++ [(streamId, increment)]) =
      grantedTo other grants + if streamId = other then increment else 0 := by
  rw [grantedTo, List.filter_append, List.map_append, List.sum_append]
  by_cases h : streamId = other
  · simp [grantedTo, h]
  · simp [grantedTo, h]

theorem heldFor_append (streamId : Nat) (streams more : List PendingWindowUpdate) :
    heldFor streamId (streams ++ more) = heldFor streamId streams + heldFor streamId more := by
  rw [heldFor, List.map_append, List.sum_append]
  rfl

/-- One entry is exchanged for another. -/
theorem heldFor_set (streamId : Nat) {streams : List PendingWindowUpdate} {i : Nat}
    {before : PendingWindowUpdate} (h : streams[i]? = some before) (after : PendingWindowUpdate) :
    heldFor streamId (streams.set i after) + creditIn streamId before =
      heldFor streamId streams + creditIn streamId after := by
  induction streams generalizing i with
  | nil => simp at h
  | cons entry streams ih =>
    cases i with
    | zero =>
      have hentry : entry = before := by simpa using h
      subst hentry
      simp only [heldFor, List.set_cons_zero, List.map_cons, List.sum_cons]
      omega
    | succ i =>
      have hrest := ih (i := i) (by simpa using h)
      simp only [heldFor, List.set_cons_succ, List.map_cons, List.sum_cons] at hrest ⊢
      omega

theorem heldFor_dropLast (streamId : Nat) {streams : List PendingWindowUpdate}
    {last : PendingWindowUpdate} (h : streams[streams.length - 1]? = some last) :
    heldFor streamId streams.dropLast + creditIn streamId last = heldFor streamId streams := by
  rw [← List.getLast?_eq_getElem?] at h
  conv_rhs => rw [← List.dropLast_append_getLast? last h, heldFor_append]
  simp [heldFor]

/-- The place of a stream has an entry with its id, and takes nothing from
any stream. -/
theorem place_spec {ledger : Ledger} {streamId i : Nat} {streams : List PendingWindowUpdate}
    (hplace : ledger.place streamId = some (i, streams)) :
    (∃ entry, streams[i]? = some entry ∧ entry.streamId = streamId) ∧
      ∀ other, heldFor other streams = heldFor other ledger.streams := by
  unfold place at hplace
  split at hplace
  · rename_i found hfound
    cases hplace
    obtain ⟨hlt, hkey, -⟩ := List.findIdx?_eq_some_iff_getElem.mp hfound
    exact ⟨⟨ledger.streams[i], List.getElem?_eq_getElem hlt, by simpa using hkey⟩, fun _ => rfl⟩
  · split at hplace
    · cases hplace
    · cases hplace
      refine ⟨⟨⟨streamId, 0⟩, List.getElem?_concat_length, rfl⟩, fun other => ?_⟩
      rw [heldFor_append]
      simp [heldFor, creditIn]

/-- Credit that has a place is put to the account of its stream. -/
theorem credit_account {ledger : Ledger} {streamId : Nat} (hplace : ledger.place streamId ≠ none)
    (consumed other : Nat) :
    (ledger.credit streamId consumed).account other =
      ledger.account other + if streamId = other then consumed else 0 := by
  obtain ⟨⟨i, streams⟩, hsome⟩ := Option.ne_none_iff_exists'.mp hplace
  obtain ⟨⟨entry, hentry, hid⟩, hheld⟩ := place_spec hsome
  have hget : streams.getD i ⟨streamId, 0⟩ = entry := by
    rw [List.getD_eq_getElem?_getD, hentry]
    rfl
  rw [credit, hsome]
  dsimp only
  rw [hget]
  split
  · have hset := heldFor_set other hentry ⟨streamId, entry.credit + consumed⟩
    rw [hheld] at hset
    simp only [account]
    simp only [creditIn, hid] at hset
    by_cases hother : streamId = other
    · simp only [if_pos hother] at hset ⊢
      omega
    · simp only [if_neg hother] at hset ⊢
      omega
  · have hset := heldFor_set other hentry ⟨streamId, 0⟩
    rw [hheld] at hset
    simp only [account, grantedTo_append]
    simp only [creditIn, hid] at hset
    by_cases hother : streamId = other
    · simp only [if_pos hother] at hset ⊢
      omega
    · simp only [if_neg hother] at hset ⊢
      omega

/-- Discarding the entry of a stream leaves the accounts of the others. -/
theorem discard_account (ledger : Ledger) {streamId other : Nat} (hne : streamId ≠ other) :
    (ledger.discard streamId).account other = ledger.account other := by
  unfold discard
  split
  · rfl
  · rename_i i hfound
    obtain ⟨hlt, hkey, -⟩ := List.findIdx?_eq_some_iff_getElem.mp hfound
    have hid : ledger.streams[i].streamId = streamId := by simpa using hkey
    have hnone : creditIn other ledger.streams[i] = 0 := by
      rw [creditIn, hid, if_neg hne]
    obtain ⟨last, hlast⟩ : ∃ last, ledger.streams[ledger.streams.length - 1]? = some last :=
      ⟨_, List.getElem?_eq_getElem (by omega)⟩
    -- the entry that is moved is also the one that is dropped
    have hmoved : (ledger.streams.set i last)[(ledger.streams.set i last).length - 1]? =
        some last := by
      rw [List.length_set, List.getElem?_set]
      split
      · rfl
      · exact hlast
    have hset := heldFor_set other (List.getElem?_eq_getElem hlt) last
    have hdrop := heldFor_dropLast other hmoved
    rw [List.getD_eq_getElem?_getD, hlast, Option.getD_some]
    simp only [account]
    omega

theorem settle_account {ledger : Ledger} {streamId other : Nat} (hne : streamId ≠ other)
    (reading : StreamReading) :
    (ledger.settle streamId reading).account other = ledger.account other := by
  unfold settle
  split
  · exact discard_account ledger hne
  · split
    · by_cases hplace : ledger.place streamId = none
      · rw [credit, hplace]
      · rw [credit_account hplace, if_neg hne, Nat.add_zero]
    · rfl

/-- A frame of another stream. -/
theorem replenish_account_other (ledger : Ledger) {streamId other : Nat} (hne : streamId ≠ other)
    (reading : StreamReading) :
    (ledger.replenish streamId reading).account other = ledger.account other := by
  obtain ⟨-, hstreams, hgrants⟩ := consume_spec ledger reading.consumedBytes
  have hsettle : ((ledger.consume reading.consumedBytes).settle streamId reading).account other =
      (ledger.consume reading.consumedBytes).account other := settle_account hne reading
  have hconsume : (ledger.consume reading.consumedBytes).account other = ledger.account other := by
    rw [account, hstreams, hgrants, account]
  rw [hconsume] at hsettle
  unfold replenish
  dsimp only
  split
  · exact hsettle
  · exact hsettle

/-- A frame of a stream that stays alive, with a place for its credit. -/
theorem replenish_account {ledger : Ledger} {streamId : Nat} {reading : StreamReading}
    (halive : ¬(reading.ended = true ∨ reading.reset = true ∨ reading.cancelStreamId ≠ 0))
    (hplace : reading.consumedBytes > 0 → ledger.place streamId ≠ none) :
    (ledger.replenish streamId reading).account streamId =
      ledger.account streamId + reading.consumedBytes := by
  obtain ⟨-, hstreams, hgrants⟩ := consume_spec ledger reading.consumedBytes
  have hconsume : (ledger.consume reading.consumedBytes).account streamId =
      ledger.account streamId := by
    rw [account, hstreams, hgrants, account]
  have hsettle : ((ledger.consume reading.consumedBytes).settle streamId reading).account streamId =
      ledger.account streamId + reading.consumedBytes := by
    rw [settle, if_neg halive]
    split
    · rename_i hpositive
      have hplace' : (ledger.consume reading.consumedBytes).place streamId ≠ none := by
        rw [place, hstreams]
        exact hplace hpositive
      rw [credit_account hplace', if_pos rfl, hconsume]
    · rename_i hzero
      rw [hconsume]
      omega
  unfold replenish
  dsimp only
  split
  · exact hsettle
  · exact hsettle

/-- The connection is granted credit at the end of a batch, not a stream. -/
theorem flush_account (ledger : Ledger) {streamId : Nat} (hid : streamId ≠ 0) :
    ledger.flush.account streamId = ledger.account streamId := by
  unfold flush
  split
  · split
    · rw [account, grantedTo_append, if_neg (Ne.symm hid), Nat.add_zero]
      rfl
    · rfl
  · rfl

/-- What a frame of a stream that stays alive does to the credit of streams. -/
theorem replenish_alive (ledger : Ledger) (streamId : Nat) {reading : StreamReading}
    (halive : ¬(reading.ended = true ∨ reading.reset = true ∨ reading.cancelStreamId ≠ 0))
    (hpositive : reading.consumedBytes > 0) :
    (ledger.replenish streamId reading).streams =
        (ledger.credit streamId reading.consumedBytes).streams ∧
      (ledger.replenish streamId reading).grants =
        (ledger.credit streamId reading.consumedBytes).grants := by
  obtain ⟨-, hstreams, hgrants⟩ := consume_spec ledger reading.consumedBytes
  have hcredit : ((ledger.consume reading.consumedBytes).credit streamId
      reading.consumedBytes).streams = (ledger.credit streamId reading.consumedBytes).streams ∧
      ((ledger.consume reading.consumedBytes).credit streamId reading.consumedBytes).grants =
        (ledger.credit streamId reading.consumedBytes).grants := by
    unfold credit place
    rw [hstreams]
    split
    · exact ⟨hstreams, hgrants⟩
    · dsimp only
      split
      · exact ⟨rfl, hgrants⟩
      · rw [hgrants]
        exact ⟨rfl, rfl⟩
  unfold replenish
  dsimp only
  rw [settle, if_neg halive, if_pos hpositive]
  split
  · exact hcredit
  · exact hcredit

/-- Little credit in a new entry. -/
theorem credit_new {ledger : Ledger} {streamId consumed : Nat}
    (hnone : ∀ entry ∈ ledger.streams, entry.streamId ≠ streamId)
    (hroom : ledger.streams.length < MAX_CONCURRENT_STREAMS_PER_SESSION)
    (hsmall : consumed ≤ STREAM_WINDOW_UPDATE_THRESHOLD) :
    ledger.credit streamId consumed =
      { ledger with streams := ledger.streams ++ [⟨streamId, consumed⟩] } := by
  have hfind : ledger.streams.findIdx? (fun entry => entry.streamId = streamId) = none :=
    List.findIdx?_eq_none_iff.mpr fun entry hentry => decide_eq_false (hnone entry hentry)
  have hplace : ledger.place streamId =
      some (ledger.streams.length, ledger.streams ++ [⟨streamId, 0⟩]) := by
    rw [place, hfind]
    exact if_neg (by omega)
  rw [credit, hplace]
  dsimp only
  rw [List.getD_append_right _ _ _ _ (Nat.le_refl _), Nat.sub_self, List.getD_cons_zero,
    List.set_append_right _ _ (Nat.le_refl _), Nat.sub_self]
  simp [hsmall]

/-- Credit without a place is lost. -/
theorem credit_full {ledger : Ledger} {streamId : Nat}
    (hnone : ∀ entry ∈ ledger.streams, entry.streamId ≠ streamId)
    (hfull : MAX_CONCURRENT_STREAMS_PER_SESSION ≤ ledger.streams.length) (consumed : Nat) :
    ledger.credit streamId consumed = ledger := by
  have hfind : ledger.streams.findIdx? (fun entry => entry.streamId = streamId) = none :=
    List.findIdx?_eq_none_iff.mpr fun entry hentry => decide_eq_false (hnone entry hentry)
  have hplace : ledger.place streamId = none := by
    rw [place, hfind]
    exact if_pos hfull
  rw [credit, hplace]

theorem grantedTo_eq_zero {streamId : Nat} {grants : List (Nat × Nat)}
    (h : ∀ grant ∈ grants, grant.1 ≠ streamId) : grantedTo streamId grants = 0 := by
  rw [grantedTo, List.filter_eq_nil_iff.mpr fun grant hgrant => by simpa using h grant hgrant]
  rfl

theorem heldFor_eq_zero {streamId : Nat} {streams : List PendingWindowUpdate}
    (h : ∀ entry ∈ streams, entry.streamId ≠ streamId) : heldFor streamId streams = 0 := by
  refine List.sum_eq_zero_iff_forall_eq_nat.mpr fun credit hcredit => ?_
  obtain ⟨entry, hentry, rfl⟩ := List.mem_map.mp hcredit
  exact if_neg (h entry hentry)

theorem flush_streams (ledger : Ledger) : ledger.flush.streams = ledger.streams := by
  unfold flush
  split
  · split <;> rfl
  · rfl

theorem mem_flush_grants {ledger : Ledger} {grant : Nat × Nat} (h : grant ∈ ledger.flush.grants) :
    grant ∈ ledger.grants ∨ grant.1 = 0 := by
  unfold flush at h
  split at h
  · split at h
    · rcases List.mem_append.mp h with hold | hnew
      · exact .inl hold
      · rw [List.mem_singleton.mp hnew]
        exact .inr rfl
    · exact .inl h
  · exact .inl h

end Ledger

end HttpRequestClient.Http2
