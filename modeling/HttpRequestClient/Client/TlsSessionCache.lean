import HttpRequestClient.CString
import HttpRequestClient.Lib.Runs
import HttpRequestClient.Lib.Slots

/-!
# The cache of TLS sessions

A table of the sessions that a connection may resume, each under the host and
the proxy that it was made with.  `cacheTLSSession` goes through the table up
to three times: for an entry of the key, for an empty slot, and for the entry
to replace.

`runTLSCache_lookup`: no key has two entries, and a lookup finds the session
cached last under its key or none, the latter only after the entry of the key
was replaced in a full table.

`tlsReferences_balanced_iff`: what the cache takes and gives back of the
references of its sessions fits its slots as long as no entry is replaced in a
full table.

An `SSL_SESSION` is a number.  A slot is `none` when its `session` is null.
-/

namespace HttpRequestClient.Client

open Runs

def MAX_TLS_SESSION_CACHE : Nat := 256

structure TLSSessionKey where
  host : Bytes
  port : Bytes
  proxyScheme : Bytes
  proxyHost : Bytes
  proxyPort : Bytes
  proxyAuthorization : Bytes
  deriving Repr, DecidableEq

structure TLSSessionCacheEntry where
  key : TLSSessionKey
  session : Nat
  createdAt : Int
  deriving Repr, DecidableEq

abbrev TLSSessionCache := List (Option TLSSessionCacheEntry)

/-- The strings fit the arrays of an entry, each with its terminator. -/
def TLSSessionKey.Fits (key : TLSSessionKey) : Prop :=
  key.host.length < 256 ∧ key.port.length < 8 ∧ key.proxyScheme.length < 16 ∧
    key.proxyHost.length < 256 ∧ key.proxyPort.length < 8 ∧ key.proxyAuthorization.length < 1024

instance (key : TLSSessionKey) : Decidable key.Fits :=
  inferInstanceAs (Decidable (_ ∧ _ ∧ _ ∧ _ ∧ _ ∧ _))

def initTLSSessionCache : TLSSessionCache := List.replicate MAX_TLS_SESSION_CACHE none

def lookupTLSSession (cache : TLSSessionCache) (key : TLSSessionKey) : Option Nat :=
  (Slots.find TLSSessionCacheEntry.key key cache).map TLSSessionCacheEntry.session

/-- The entry that is written to a slot. -/
def cacheTLSSessionFillSlot (key : TLSSessionKey) (session : Nat) (now : Int) :
    TLSSessionCacheEntry where
  key := ⟨key.host.take 255, key.port.take 7, key.proxyScheme.take 15, key.proxyHost.take 255,
    key.proxyPort.take 7, key.proxyAuthorization.take 1023⟩
  session := session
  createdAt := now

def createdAt (cache : TLSSessionCache) (i : Nat) : Int :=
  match cache[i]?.join with
  | some entry => entry.createdAt
  | none => 0

/-- The loop over the slots from 1 on that looks for the oldest. -/
def oldestIdx (cache : TLSSessionCache) : Nat :=
  (List.range' 1 (cache.length - 1)).foldl
    (fun oldest i => if createdAt cache i < createdAt cache oldest then i else oldest) 0

def cacheTLSSession (cache : TLSSessionCache) (key : TLSSessionKey) (session : Nat) (now : Int) :
    TLSSessionCache :=
  let entry := cacheTLSSessionFillSlot key session now
  match cache.findIdx? (fun slot => slot.any fun found => found.key = key) with
  | some i => cache.set i (some entry)
  | none =>
    match cache.findIdx? Option.isNone with
    | some i => cache.set i (some entry)
    | none => cache.set (oldestIdx cache) (some entry)

/-! ## Calls -/

/-- A call, with the session and the time of the clock. -/
inductive TLSCacheCall where
  | cache (key : TLSSessionKey) (session : Nat) (now : Int)
  | lookup (key : TLSSessionKey)
  deriving Repr, DecidableEq

def TLSCacheCall.key : TLSCacheCall → TLSSessionKey
  | .cache key _ _ => key
  | .lookup key => key

def stepTLSCache (cache : TLSSessionCache) : TLSCacheCall → TLSSessionCache
  | .cache key session now => cacheTLSSession cache key session now
  | .lookup _ => cache

def runTLSCache (calls : List TLSCacheCall) : TLSSessionCache :=
  run stepTLSCache initTLSSessionCache calls

/-- The session of the last call that cached one under a key. -/
def lastCached (key : TLSSessionKey) (calls : List TLSCacheCall) : Option Nat :=
  calls.foldl (fun last call =>
    match call with
    | .cache cached session _ => if cached = key then some session else last
    | .lookup _ => last) none

@[simp] theorem lastCached_nil (key : TLSSessionKey) : lastCached key [] = none := rfl

@[simp] theorem lastCached_lookup (key looked : TLSSessionKey) (calls : List TLSCacheCall) :
    lastCached key (calls ++ [.lookup looked]) = lastCached key calls := by
  rw [lastCached, List.foldl_append]
  rfl

@[simp] theorem lastCached_cache (key cached : TLSSessionKey) (session : Nat) (now : Int)
    (calls : List TLSCacheCall) :
    lastCached key (calls ++ [.cache cached session now]) =
      if cached = key then some session else lastCached key calls := by
  rw [lastCached, List.foldl_append]
  rfl

/-! ## What `cacheTLSSession` does -/

section Cache

variable {cache : TLSSessionCache} {key : TLSSessionKey}

theorem cacheTLSSessionFillSlot_key (h : key.Fits) (session : Nat) (now : Int) :
    (cacheTLSSessionFillSlot key session now).key = key := by
  obtain ⟨h1, h2, h3, h4, h5, h6⟩ := h
  simp only [cacheTLSSessionFillSlot]
  rw [List.take_of_length_le (by omega), List.take_of_length_le (by omega),
    List.take_of_length_le (by omega), List.take_of_length_le (by omega),
    List.take_of_length_le (by omega), List.take_of_length_le (by omega)]

theorem createdAt_slot {i : Nat} {entry : TLSSessionCacheEntry}
    (h : cache[i]? = some (some entry)) : createdAt cache i = entry.createdAt := by
  rw [createdAt, h]
  rfl

/-- No slot is older than the one that the loop finds. -/
theorem oldestIdx_spec (h : 0 < cache.length) :
    oldestIdx cache < cache.length ∧
      ∀ i, i < cache.length → createdAt cache (oldestIdx cache) ≤ createdAt cache i := by
  have hloop : ∀ (slots : List Nat) (oldest : Nat), oldest < cache.length →
      (∀ i ∈ slots, i < cache.length) →
      let found := slots.foldl (fun oldest i =>
        if createdAt cache i < createdAt cache oldest then i else oldest) oldest
      found < cache.length ∧ ∀ i ∈ oldest :: slots, createdAt cache found ≤ createdAt cache i := by
    intro slots
    induction slots with
    | nil =>
      intro oldest holdest _
      exact ⟨holdest, by simp⟩
    | cons i slots ih =>
      intro oldest holdest hslots
      have hi := hslots i List.mem_cons_self
      have hrest : ∀ j ∈ slots, j < cache.length := fun j hj =>
        hslots j (List.mem_cons_of_mem _ hj)
      simp only [List.foldl_cons, List.forall_mem_cons] at ih ⊢
      by_cases holder : createdAt cache i < createdAt cache oldest
      · rw [if_pos holder]
        obtain ⟨hlt, hle, hall⟩ := ih i hi hrest
        exact ⟨hlt, by omega, hle, hall⟩
      · rw [if_neg holder]
        obtain ⟨hlt, hle, hall⟩ := ih oldest holdest hrest
        exact ⟨hlt, hle, by omega, hall⟩
  obtain ⟨hlt, hall⟩ := hloop (List.range' 1 (cache.length - 1)) 0 h (by
    intro i hi
    rw [List.mem_range'_1] at hi
    omega)
  refine ⟨hlt, fun i hi => hall i ?_⟩
  rw [List.mem_cons, List.mem_range'_1]
  omega

/-- One slot is written: that of the key, or an empty one if the key has
none, or the oldest of a full table. -/
theorem cacheTLSSession_set (key : TLSSessionKey) (session : Nat) (now : Int)
    (hsize : 0 < cache.length)
    (hdistinct : Slots.Distinct TLSSessionCacheEntry.key cache) :
    ∃ i old, cache[i]? = some old ∧
      cacheTLSSession cache key session now =
        cache.set i (some (cacheTLSSessionFillSlot key session now)) ∧
      (∀ (j : Nat) (entry : TLSSessionCacheEntry), j ≠ i → cache[j]? = some (some entry) →
        entry.key ≠ key) ∧
      (old = none ∨ old.map TLSSessionCacheEntry.key = some key ∨
        (∀ slot ∈ cache, slot ≠ none) ∧
          ∀ j, j < cache.length → createdAt cache i ≤ createdAt cache j) := by
  rw [cacheTLSSession]
  cases hfind : cache.findIdx? (fun slot => slot.any fun found => found.key = key) with
  | some i =>
    obtain ⟨hlt, hany, _⟩ := List.findIdx?_eq_some_iff_getElem.mp hfind
    rw [Option.any_eq_true] at hany
    obtain ⟨found, hsome, hmatch⟩ := hany
    have hslot : cache[i]? = some (some found) := List.getElem?_eq_some_iff.mpr ⟨hlt, hsome⟩
    have hkey : found.key = key := of_decide_eq_true hmatch
    refine ⟨i, some found, hslot, rfl, ?_, .inr (.inl (by rw [Option.map_some, hkey]))⟩
    intro j entry hj hentry hsame
    exact hj (hdistinct.slot_unique hentry hslot (hsame.trans hkey.symm))
  | none =>
    have hnone := List.findIdx?_eq_none_iff.mp hfind
    have hfresh : ∀ (j : Nat) (entry : TLSSessionCacheEntry), cache[j]? = some (some entry) →
        entry.key ≠ key := by
      intro j entry hentry
      simpa using hnone _ (List.mem_of_getElem? hentry)
    cases hfree : cache.findIdx? Option.isNone with
    | some i =>
      obtain ⟨hlt, hempty, _⟩ := List.findIdx?_eq_some_iff_getElem.mp hfree
      exact ⟨i, none, List.getElem?_eq_some_iff.mpr ⟨hlt, Option.isNone_iff_eq_none.mp hempty⟩, rfl,
        fun j entry _ => hfresh j entry, .inl rfl⟩
    | none =>
      have hfull : ∀ slot ∈ cache, slot ≠ none := by
        intro slot hslot hempty
        have hisNone := List.findIdx?_eq_none_iff.mp hfree slot hslot
        rw [hempty] at hisNone
        exact Bool.noConfusion hisNone
      obtain ⟨hlt, holdest⟩ := oldestIdx_spec hsize
      exact ⟨_, _, List.getElem?_eq_getElem hlt, rfl, fun j entry _ => hfresh j entry,
        .inr (.inr ⟨hfull, holdest⟩)⟩

/-- The entry of `key` gives way to another one: every slot is taken, and no
entry is older. -/
structure Evicts (cache : TLSSessionCache) (key : TLSSessionKey) : Prop where
  full : ∀ slot ∈ cache, slot ≠ none
  oldest : ∃ (i : Nat) (entry : TLSSessionCacheEntry), cache[i]? = some (some entry) ∧
    entry.key = key ∧ ∀ other ∈ Slots.entries cache, entry.createdAt ≤ other.createdAt

theorem lookupTLSSession_of_slot (hdistinct : Slots.Distinct TLSSessionCacheEntry.key cache)
    {i : Nat} {entry : TLSSessionCacheEntry} (h : cache[i]? = some (some entry)) :
    lookupTLSSession cache entry.key = some entry.session := by
  have hmem : entry ∈ Slots.entries cache := Slots.mem_entries_iff_getElem?.mpr ⟨i, h⟩
  rw [lookupTLSSession, hdistinct.find_eq_some_iff.mpr ⟨hmem, rfl⟩]
  rfl

/-- A session is found under its own key from then on, and another key loses
its entry only if it is evicted. -/
theorem cacheTLSSession_spec (hkey : key.Fits) (session : Nat) (now : Int)
    (hsize : 0 < cache.length)
    (hdistinct : Slots.Distinct TLSSessionCacheEntry.key cache) :
    Slots.Distinct TLSSessionCacheEntry.key (cacheTLSSession cache key session now) ∧
      lookupTLSSession (cacheTLSSession cache key session now) key = some session ∧
      ∀ other, other ≠ key →
        lookupTLSSession (cacheTLSSession cache key session now) other =
            lookupTLSSession cache other ∨
          lookupTLSSession (cacheTLSSession cache key session now) other = none ∧
            Evicts cache other := by
  obtain ⟨i, old, hold, hset, hfresh, hcase⟩ := cacheTLSSession_set key session now hsize hdistinct
  have hfill := cacheTLSSessionFillSlot_key hkey session now
  have hnew : Slots.Distinct TLSSessionCacheEntry.key
      (cache.set i (some (cacheTLSSessionFillSlot key session now))) := by
    apply hdistinct.set (List.getElem?_eq_some_iff.mp hold).1
    rw [hfill]
    exact hfresh
  rw [hset]
  refine ⟨hnew, ?_, ?_⟩
  · rw [lookupTLSSession, hdistinct.find_set hold hnew, if_pos hfill]
    rfl
  · intro other hother
    have hne : (cacheTLSSessionFillSlot key session now).key ≠ other := by
      rw [hfill]
      exact Ne.symm hother
    rw [lookupTLSSession, hdistinct.find_set hold hnew, if_neg hne]
    by_cases hgone : old.map TLSSessionCacheEntry.key = some other
    · rw [if_pos hgone]
      obtain ⟨entry, rfl, hentry⟩ := Option.map_eq_some_iff.mp hgone
      rcases hcase with hempty | hsame | ⟨hfull, holdest⟩
      · exact absurd hempty (by simp)
      · exact absurd (Option.some.inj (hgone.symm.trans hsame)) hother
      · refine .inr ⟨rfl, hfull, i, entry, hold, hentry, ?_⟩
        intro found hfound
        obtain ⟨j, hj⟩ := Slots.mem_entries_iff_getElem?.mp hfound
        have hle := holdest j (List.getElem?_eq_some_iff.mp hj).1
        rwa [createdAt_slot hold, createdAt_slot hj] at hle
    · rw [if_neg hgone]
      exact .inl rfl

end Cache

/-! ## Runs -/

theorem length_cacheTLSSession (cache : TLSSessionCache) (key : TLSSessionKey) (session : Nat)
    (now : Int) : (cacheTLSSession cache key session now).length = cache.length := by
  rw [cacheTLSSession]
  split
  · exact List.length_set
  · split <;> exact List.length_set

theorem length_runTLSCache (calls : List TLSCacheCall) :
    (runTLSCache calls).length = MAX_TLS_SESSION_CACHE := by
  apply run_invariant (P := fun cache : TLSSessionCache => cache.length = MAX_TLS_SESSION_CACHE)
  · intro cache call h
    cases call with
    | cache key session now => rw [stepTLSCache, length_cacheTLSSession, h]
    | lookup key => exact h
  · exact List.length_replicate

theorem runTLSCache_snoc (calls : List TLSCacheCall) (call : TLSCacheCall) :
    runTLSCache (calls ++ [call]) = stepTLSCache (runTLSCache calls) call := by
  rw [runTLSCache, run_append]
  rfl

/-- The entry of a key was evicted by a call after the last that cached under
it. -/
def Evicted (key : TLSSessionKey) (calls : List TLSCacheCall) : Prop :=
  ∃ before call after, calls = before ++ call :: after ∧ Evicts (runTLSCache before) key ∧
    lookupTLSSession (runTLSCache before) key = lastCached key before ∧
    lookupTLSSession (runTLSCache (before ++ [call])) key = none ∧
    lastCached key (call :: after) = none

theorem Evicted.snoc {key : TLSSessionKey} {calls : List TLSCacheCall} (h : Evicted key calls)
    {call : TLSCacheCall} (hother : ∀ before, lastCached key (before ++ [call]) =
      lastCached key before) : Evicted key (calls ++ [call]) := by
  obtain ⟨before, first, after, rfl, hevicts, hlast, hgone, hnone⟩ := h
  refine ⟨before, first, after ++ [call], by simp, hevicts, hlast, hgone, ?_⟩
  rw [← List.cons_append, hother, hnone]

/-- What a run knows of a key. -/
def Remembers (key : TLSSessionKey) (calls : List TLSCacheCall) : Prop :=
  lookupTLSSession (runTLSCache calls) key = lastCached key calls ∨
    lookupTLSSession (runTLSCache calls) key = none ∧ Evicted key calls

/-- A call that does not cache under a key keeps its entry or evicts it. -/
theorem Remembers.snoc {key : TLSSessionKey} {calls : List TLSCacheCall}
    (hdistinct : Slots.Distinct TLSSessionCacheEntry.key (runTLSCache calls))
    (h : Remembers key calls) {call : TLSCacheCall}
    (hother : ∀ before, lastCached key (before ++ [call]) = lastCached key before)
    (hstep : lookupTLSSession (runTLSCache (calls ++ [call])) key =
        lookupTLSSession (runTLSCache calls) key ∨
      lookupTLSSession (runTLSCache (calls ++ [call])) key = none ∧
        Evicts (runTLSCache calls) key) : Remembers key (calls ++ [call]) := by
  rcases hstep with hsame | ⟨hgone, hevicts⟩
  · rcases h with hlast | ⟨hnone, hevicted⟩
    · exact .inl (by rw [hsame, hlast, hother])
    · exact .inr ⟨by rw [hsame, hnone], hevicted.snoc hother⟩
  · rcases h with hlast | ⟨hnone, _⟩
    · refine .inr ⟨hgone, calls, call, [], rfl, hevicts, hlast, hgone, ?_⟩
      have hfirst := hother []
      rwa [List.nil_append, lastCached_nil] at hfirst
    · -- an evicted entry was there
      obtain ⟨i, entry, hslot, rfl, _⟩ := hevicts.oldest
      rw [lookupTLSSession_of_slot hdistinct hslot] at hnone
      exact absurd hnone (by simp)

theorem runTLSCache_remembers (calls : List TLSCacheCall) (hfits : ∀ call ∈ calls, call.key.Fits) :
    Slots.Distinct TLSSessionCacheEntry.key (runTLSCache calls) ∧
      ∀ key, Remembers key calls := by
  induction calls using List.reverseRecOn with
  | nil =>
    have hempty : Slots.entries (runTLSCache []) = [] :=
      Slots.entries_replicate_none MAX_TLS_SESSION_CACHE
    refine ⟨?_, fun key => .inl ?_⟩
    · rw [Slots.Distinct, hempty]
      exact List.nodup_nil
    · rw [lookupTLSSession, Slots.find, hempty]
      rfl
  | append_singleton calls call ih =>
    obtain ⟨hdistinct, hknown⟩ := ih fun c hc => hfits c (List.mem_append_left _ hc)
    have hcall := hfits call (List.mem_append_right _ List.mem_cons_self)
    cases call with
    | lookup looked =>
      refine ⟨by rw [runTLSCache_snoc]; exact hdistinct, fun key => ?_⟩
      exact (hknown key).snoc hdistinct (fun before => lastCached_lookup key looked before)
        (.inl (by rw [runTLSCache_snoc, stepTLSCache]))
    | cache cached session now =>
      have hsize : 0 < (runTLSCache calls).length := by
        rw [length_runTLSCache]
        decide
      obtain ⟨hnew, hown, hothers⟩ :=
        cacheTLSSession_spec hcall session now hsize hdistinct
      refine ⟨by rw [runTLSCache_snoc]; exact hnew, fun key => ?_⟩
      by_cases hkey : key = cached
      · refine .inl ?_
        rw [runTLSCache_snoc, stepTLSCache, hkey, lastCached_cache, if_pos rfl]
        exact hown
      · apply (hknown key).snoc hdistinct
        · intro before
          rw [lastCached_cache, if_neg (Ne.symm hkey)]
        · rw [runTLSCache_snoc]
          exact hothers key hkey

/-- No key has two entries.  A lookup finds the session cached last under its
key, or none, and none after a call that cached one only if the entry of the
key was evicted from a full table. -/
theorem runTLSCache_lookup (calls : List TLSCacheCall) (hfits : ∀ call ∈ calls, call.key.Fits) :
    (∀ (i j : Nat) (a b : TLSSessionCacheEntry), (runTLSCache calls)[i]? = some (some a) →
      (runTLSCache calls)[j]? = some (some b) → a.key = b.key → i = j) ∧
    ∀ key,
      (lookupTLSSession (runTLSCache calls) key = none ∨
        lookupTLSSession (runTLSCache calls) key = lastCached key calls) ∧
      (lookupTLSSession (runTLSCache calls) key = none → lastCached key calls ≠ none →
        Evicted key calls) := by
  obtain ⟨hdistinct, hknown⟩ := runTLSCache_remembers calls hfits
  refine ⟨fun i j a b ha hb hkey => hdistinct.slot_unique ha hb hkey, fun key => ?_⟩
  rcases hknown key with hlast | ⟨hnone, hevicted⟩
  · exact ⟨.inr hlast, fun hnone hcached => absurd (hlast.symm.trans hnone) hcached⟩
  · exact ⟨.inl hnone, fun _ _ => hevicted⟩

def exampleKey (host : String) : TLSSessionKey := ⟨ascii host, ascii "443", [], [], [], []⟩

/-- Two sessions under one key and one under another. -/
theorem runTLSCache_lookup_two :
    let calls : List TLSCacheCall :=
      [.cache (exampleKey "a") 1 10, .cache (exampleKey "b") 2 11, .cache (exampleKey "a") 3 12]
    (∀ call ∈ calls, call.key.Fits) ∧
    lookupTLSSession (runTLSCache calls) (exampleKey "a") = some 3 ∧
    (lookupTLSSession (runTLSCache calls) (exampleKey "a") = none ∨
      lookupTLSSession (runTLSCache calls) (exampleKey "a") =
        lastCached (exampleKey "a") calls) := by
  refine ⟨by decide +kernel, by decide +kernel, ?_⟩
  exact ((runTLSCache_lookup _ (by decide +kernel)).2 (exampleKey "a")).1

/-! ## References

The cache has a reference to the session of every slot.  The one that
`lookupTLSSession` takes is its caller's. -/

inductive SslSessionCall where
  | upRef (session : Nat)
  | free (session : Nat)
  deriving Repr, DecidableEq

def SslSessionCall.isUpRef : SslSessionCall → Bool
  | .upRef _ => true
  | .free _ => false

/-- What `cacheTLSSession` does to the references of sessions.  Only an entry
of the same key is released before its slot is filled. -/
def cacheTLSSessionCalls (cache : TLSSessionCache) (key : TLSSessionKey) (session : Nat) :
    List SslSessionCall :=
  match cache.findIdx? (fun slot => slot.any fun found => found.key = key) with
  | some i => (cache[i]?.join).toList.map (fun old => .free old.session) ++ [.upRef session]
  | none => [.upRef session]

def cleanupTLSSessionCacheCalls (cache : TLSSessionCache) : List SslSessionCall :=
  (Slots.entries cache).map fun entry => .free entry.session

def cleanupTLSSessionCache (cache : TLSSessionCache) : TLSSessionCache := cache.map fun _ => none

/-- The cache, with the calls it has made so far. -/
structure TLSReferences where
  cache : TLSSessionCache
  calls : List SslSessionCall
  deriving Repr, DecidableEq

namespace TLSReferences

def step (state : TLSReferences) : TLSCacheCall → TLSReferences
  | .cache key session now =>
    ⟨cacheTLSSession state.cache key session now,
      state.calls ++ cacheTLSSessionCalls state.cache key session⟩
  | .lookup _ => state

def initial : TLSReferences := ⟨initTLSSessionCache, []⟩

def cleanup (state : TLSReferences) : TLSReferences :=
  ⟨cleanupTLSSessionCache state.cache, state.calls ++ cleanupTLSSessionCacheCalls state.cache⟩

def balance (state : TLSReferences) : Int :=
  state.calls.countP SslSessionCall.isUpRef - state.calls.countP fun call => !call.isUpRef

def occupied (state : TLSReferences) : Nat := (Slots.entries state.cache).length

/-- The key has an entry, or there is an empty slot. -/
def HasRoom (state : TLSReferences) : TLSCacheCall → Prop
  | .cache key _ _ => (∃ entry ∈ Slots.entries state.cache, entry.key = key) ∨ none ∈ state.cache
  | .lookup _ => True

instance (state : TLSReferences) : ∀ call, Decidable (state.HasRoom call)
  | .cache key _ _ => inferInstanceAs
      (Decidable ((∃ entry ∈ Slots.entries state.cache, entry.key = key) ∨ none ∈ state.cache))
  | .lookup _ => inferInstanceAs (Decidable True)

section Balance

variable {state : TLSReferences} {key : TLSSessionKey}

theorem balance_append (cache after : TLSSessionCache) (calls later : List SslSessionCall) :
    balance ⟨after, calls ++ later⟩ = balance ⟨cache, calls⟩ + balance ⟨cache, later⟩ := by
  simp only [balance, List.countP_append]
  omega

theorem balance_step_cache (state : TLSReferences) (key : TLSSessionKey) (session : Nat)
    (now : Int) :
    (state.step (.cache key session now)).balance =
      state.balance + balance ⟨state.cache, cacheTLSSessionCalls state.cache key session⟩ :=
  balance_append _ _ _ _

/-- The entry of the key is released, and the new one is counted in its place. -/
theorem step_cache_update {i : Nat} {found : TLSSessionCacheEntry}
    (hfind : state.cache.findIdx? (fun slot => slot.any fun found => found.key = key) = some i)
    (hslot : state.cache[i]? = some (some found)) (session : Nat) (now : Int) :
    (state.step (.cache key session now)).balance = state.balance ∧
      (state.step (.cache key session now)).occupied = state.occupied := by
  constructor
  · rw [balance_step_cache, cacheTLSSessionCalls, hfind]
    simp [hslot, balance, SslSessionCall.isUpRef]
  · simp only [step, occupied, cacheTLSSession, hfind]
    exact Slots.length_entries_set_taken hslot _

/-- Without an entry of the key only the new one is counted. -/
theorem balance_step_new
    (hfind : state.cache.findIdx? (fun slot => slot.any fun found => found.key = key) = none)
    (session : Nat) (now : Int) :
    (state.step (.cache key session now)).balance = state.balance + 1 := by
  rw [balance_step_cache, cacheTLSSessionCalls, hfind]
  rfl

/-- A session that is cached leaves the balance as it was against the slots,
unless it replaces one in a full table. -/
theorem balance_sub_occupied_step (hsize : 0 < state.cache.length) (key : TLSSessionKey)
    (session : Nat) (now : Int) :
    (state.step (.cache key session now)).balance - (state.step (.cache key session now)).occupied =
      state.balance - state.occupied +
        if state.HasRoom (.cache key session now) then 0 else 1 := by
  cases hfind : state.cache.findIdx? (fun slot => slot.any fun found => found.key = key) with
  | some i =>
    obtain ⟨hlt, hany, _⟩ := List.findIdx?_eq_some_iff_getElem.mp hfind
    rw [Option.any_eq_true] at hany
    obtain ⟨found, hsome, hmatch⟩ := hany
    have hslot : state.cache[i]? = some (some found) := List.getElem?_eq_some_iff.mpr ⟨hlt, hsome⟩
    have hroom : state.HasRoom (.cache key session now) :=
      .inl ⟨found, Slots.mem_entries_iff_getElem?.mpr ⟨i, hslot⟩, of_decide_eq_true hmatch⟩
    obtain ⟨hbalance, hoccupied⟩ := step_cache_update hfind hslot session now
    rw [hbalance, hoccupied, if_pos hroom, Int.add_zero]
  | none =>
    have hfresh : ¬∃ entry ∈ Slots.entries state.cache, entry.key = key := by
      rintro ⟨entry, hentry, hkey⟩
      have hnone := List.findIdx?_eq_none_iff.mp hfind (some entry) (Slots.mem_entries.mp hentry)
      simp [hkey] at hnone
    rw [balance_step_new hfind session now]
    cases hfree : state.cache.findIdx? Option.isNone with
    | some i =>
      obtain ⟨hlt, hempty, _⟩ := List.findIdx?_eq_some_iff_getElem.mp hfree
      have hslot : state.cache[i]? = some none :=
        List.getElem?_eq_some_iff.mpr ⟨hlt, Option.isNone_iff_eq_none.mp hempty⟩
      have hroom : state.HasRoom (.cache key session now) := .inr (List.mem_of_getElem? hslot)
      have hoccupied : (state.step (.cache key session now)).occupied = state.occupied + 1 := by
        simp only [step, occupied, cacheTLSSession, hfind, hfree]
        exact Slots.length_entries_set_free hslot _
      rw [if_pos hroom, hoccupied]
      omega
    | none =>
      have hfull : none ∉ state.cache := by
        intro hmem
        exact Bool.noConfusion (List.findIdx?_eq_none_iff.mp hfree none hmem)
      have hroom : ¬state.HasRoom (.cache key session now) := by
        rintro (hfound | hempty)
        · exact hfresh hfound
        · exact hfull hempty
      obtain ⟨old, hslot⟩ : ∃ old, state.cache[oldestIdx state.cache]? = some (some old) := by
        have hlt := (oldestIdx_spec hsize).1
        cases hold : state.cache[oldestIdx state.cache] with
        | none => exact absurd (hold ▸ List.getElem_mem hlt) hfull
        | some old => exact ⟨old, List.getElem?_eq_some_iff.mpr ⟨hlt, hold⟩⟩
      have hoccupied : (state.step (.cache key session now)).occupied = state.occupied := by
        simp only [step, occupied, cacheTLSSession, hfind, hfree]
        exact Slots.length_entries_set_taken hslot _
      rw [if_neg hroom, hoccupied]
      omega

theorem occupied_cleanup (state : TLSReferences) : state.cleanup.occupied = 0 := by
  have hnone : Slots.entries (cleanupTLSSessionCache state.cache) = [] := by
    simp [Slots.entries, cleanupTLSSessionCache]
  rw [occupied, cleanup, hnone]
  rfl

/-- The cleanup gives back one reference for every slot that is taken. -/
theorem balance_cleanup (state : TLSReferences) :
    state.cleanup.balance = state.balance - state.occupied := by
  have hcalls : balance ⟨state.cache, cleanupTLSSessionCacheCalls state.cache⟩ =
      -(state.occupied : Int) := by
    simp [balance, cleanupTLSSessionCacheCalls, occupied, List.countP_map, Function.comp_def,
      SslSessionCall.isUpRef]
  rw [cleanup, balance_append state.cache, hcalls]
  rfl

end Balance

end TLSReferences

def runTLSReferences (calls : List TLSCacheCall) : TLSReferences :=
  run TLSReferences.step TLSReferences.initial calls

/-- The references are kept beside the cache. -/
theorem cache_runTLSReferences (calls : List TLSCacheCall) :
    (runTLSReferences calls).cache = runTLSCache calls := by
  induction calls using List.reverseRecOn with
  | nil => rfl
  | append_singleton calls call ih =>
    rw [runTLSReferences, run_append, runTLSCache_snoc, ← ih]
    cases call <;> rfl

/-- The references that the cache has taken and not given back are those of
its slots after every call, and none are left after the cleanup, if and only
if every session that is cached finds an entry of its key or an empty slot. -/
theorem tlsReferences_balanced_iff (calls : List TLSCacheCall) :
    (∀ n, let state := runTLSReferences (calls.take n)
      state.balance = state.occupied ∧ state.cleanup.balance = 0 ∧ state.cleanup.occupied = 0) ↔
      Meets TLSReferences.step TLSReferences.HasRoom TLSReferences.initial calls := by
  have hcleanup : ∀ state : TLSReferences,
      (state.balance = state.occupied ∧ state.cleanup.balance = 0 ∧ state.cleanup.occupied = 0) ↔
        state.balance = state.occupied := by
    intro state
    rw [state.balance_cleanup, state.occupied_cleanup]
    omega
  simp only [hcleanup]
  have hsize : ∀ {state : TLSReferences}, state.cache.length = MAX_TLS_SESSION_CACHE →
      0 < state.cache.length := by
    intro state hlength
    rw [hlength]
    decide
  apply meets_iff_forall_take
    (fun state : TLSReferences =>
      state.cache.length = MAX_TLS_SESSION_CACHE ∧ state.balance = state.occupied)
    (fun state : TLSReferences => state.balance = state.occupied)
  · rintro state call ⟨hlength, hbalance⟩ hroom
    cases call with
    | lookup key => exact ⟨hlength, hbalance⟩
    | cache key session now =>
      have hstep := TLSReferences.balance_sub_occupied_step (hsize hlength) key session now
      rw [if_pos hroom] at hstep
      exact ⟨(length_cacheTLSSession _ _ _ _).trans hlength, by omega⟩
  · exact fun state h => h.2
  · rintro state call ⟨hlength, hbalance⟩ hafter
    cases call with
    | lookup key => trivial
    | cache key session now =>
      by_contra hroom
      have hstep := TLSReferences.balance_sub_occupied_step (hsize hlength) key session now
      rw [if_neg hroom] at hstep
      omega
  · exact ⟨List.length_replicate, rfl⟩

/-- A slot holds what it held or the new session. -/
theorem mem_entries_cacheTLSSession {cache : TLSSessionCache} {key : TLSSessionKey}
    {session : Nat} {now : Int} {entry : TLSSessionCacheEntry}
    (h : entry ∈ Slots.entries (cacheTLSSession cache key session now)) :
    entry = cacheTLSSessionFillSlot key session now ∨ entry ∈ Slots.entries cache := by
  have hset : ∀ i, some entry ∈ cache.set i (some (cacheTLSSessionFillSlot key session now)) →
      entry = cacheTLSSessionFillSlot key session now ∨ some entry ∈ cache := by
    intro i hmem
    rcases List.mem_or_eq_of_mem_set hmem with hold | hnew
    · exact .inr hold
    · exact .inl (Option.some.inj hnew)
  rw [Slots.mem_entries] at h ⊢
  rw [cacheTLSSession] at h
  split at h
  · exact hset _ h
  · split at h
    · exact hset _ h
    · exact hset _ h

/-- Sessions under different keys all take a reference, and none gives one
back. -/
theorem balance_distinct {keys : List TLSSessionKey} (hfits : ∀ key ∈ keys, key.Fits)
    (hnodup : keys.Nodup) (session : Nat) (now : Int) :
    (runTLSReferences (keys.map fun key => .cache key session now)).balance = keys.length ∧
      ∀ entry ∈ Slots.entries
        (runTLSReferences (keys.map fun key => .cache key session now)).cache,
          entry.key ∈ keys := by
  induction keys using List.reverseRecOn with
  | nil =>
    refine ⟨rfl, fun entry hentry => ?_⟩
    exact absurd (List.mem_replicate.mp (Slots.mem_entries.mp hentry)).2 (by simp)
  | append_singleton keys key ih =>
    rw [List.nodup_append] at hnodup
    obtain ⟨hkeys, -, hnew⟩ := hnodup
    obtain ⟨hbalance, hentries⟩ := ih (fun other hother => hfits other (by simp [hother])) hkeys
    rw [List.map_append, runTLSReferences, run_append]
    have hfind : (runTLSReferences (keys.map fun key => .cache key session now)).cache.findIdx?
        (fun slot => slot.any fun found => found.key = key) = none := by
      rw [List.findIdx?_eq_none_iff]
      intro slot hslot
      cases slot with
      | none => rfl
      | some found =>
        have hmem := hentries found (Slots.mem_entries.mpr hslot)
        simpa using hnew found.key hmem key List.mem_cons_self
    constructor
    · have hstep := TLSReferences.balance_step_new hfind session now
      rw [hbalance] at hstep
      rw [List.length_append]
      exact hstep
    · intro entry hentry
      rcases mem_entries_cacheTLSSession hentry with rfl | hold
      · rw [cacheTLSSessionFillSlot_key (hfits key (by simp))]
        simp
      · exact List.mem_append_left _ (hentries entry hold)

/-- One session for each of 257 hosts.  The last one takes the slot of another,
whose reference is never given back. -/
theorem tlsReferences_leak :
    let keys : List TLSSessionKey := (List.range 257).map fun n =>
      ⟨[UInt8.ofNat (n / 16 + 65), UInt8.ofNat (n % 16 + 65)], ascii "443", [], [], [], []⟩
    let calls : List TLSCacheCall := keys.map fun key => .cache key 1 0
    ¬∀ n, let state := runTLSReferences (calls.take n)
      state.balance = state.occupied ∧ state.cleanup.balance = 0 ∧ state.cleanup.occupied = 0 := by
  intro keys calls hall
  have hnodup : keys.Nodup := by
    refine List.Nodup.map_on (fun n hn m hm hsame => ?_) List.nodup_range
    rw [List.mem_range] at hn hm
    simp only [TLSSessionKey.mk.injEq, List.cons.injEq, and_true, ← UInt8.toNat_inj,
      UInt8.toNat_ofNat'] at hsame
    omega
  have hfits : ∀ key ∈ keys, key.Fits := by
    intro key hkey
    obtain ⟨n, -, rfl⟩ := List.mem_map.mp hkey
    simp [TLSSessionKey.Fits]
    decide
  have hbalance := (hall calls.length).1
  rw [List.take_length, (balance_distinct hfits hnodup 1 0).1] at hbalance
  have hslots : (runTLSReferences calls).occupied ≤ MAX_TLS_SESSION_CACHE := by
    rw [← length_runTLSCache calls, ← cache_runTLSReferences]
    exact List.length_filterMap_le _ _
  have hkeys : keys.length = 257 := by simp [keys]
  rw [hkeys] at hbalance
  rw [MAX_TLS_SESSION_CACHE] at hslots
  omega

end HttpRequestClient.Client
