import Mathlib.Data.List.Perm.Basic
import HttpRequestClient.Lib.Runs

/-!
# The registry of non-blocking requests

`asyncRegistry` of `HttpClient.c`.  `handleRequestAsync` reserves an entry in
one section under `asyncRegistryMutex`, keeps a pointer to it while it connects
and sends, and writes the basket into it in another section.  A poll looks its
handle up and later, when it is done, looks it up again and detaches the
entry.  `cleanupAsyncRequests` detaches every entry that is in use.

`runRegistry_sound` says that the entries are owned by one request each, that
handles are found and baskets freed once, if no cleanup runs while an entry is
reserved and its basket not published yet.

A basket is known by the number of its request, and its handle is an address
that may be used again once the basket is freed.  A step is a section under
the mutex, or the release of one basket that was detached.

Left out: the requests themselves, and `requestId` as a `long`.
-/

namespace HttpRequestClient.Client

open Runs

def MAX_ASYNC_REQUESTS : Nat := 1024

/-! ## The state -/

structure AsyncRequestEntry where
  inUse : Bool
  requestId : Nat
  basket : Option Nat
  stream : Option Nat
  startTime : Int
  deriving Repr, DecidableEq

inductive RegistryPhase where
  /-- The registry was full, and the basket was freed at once. -/
  | refused
  | reserved
  | published
  | reclaimed
  deriving Repr, DecidableEq

/-- A call of `handleRequestAsync`: the address of its basket, the entry that
it points to, and how often the basket was freed. -/
structure RegistryRequest where
  address : Nat
  requestId : Nat
  entry : Option Nat
  phase : RegistryPhase
  frees : Nat
  deriving Repr, DecidableEq

/-- A call of `handleResponseAsync` behind its first section. -/
structure RegistryPoll where
  address : Nat
  stream : Option Nat
  startTime : Int
  requestId : Nat
  deriving Repr, DecidableEq

/-- `detached` are the baskets that are out of the registry and about to be
freed. -/
structure Registry where
  entries : List AsyncRequestEntry
  nextRequestId : Nat
  requests : List RegistryRequest
  polls : List RegistryPoll
  detached : List Nat
  deriving Repr, DecidableEq

def initAsyncRegistry : Registry where
  entries := List.replicate MAX_ASYNC_REQUESTS ⟨false, 0, none, none, 0⟩
  nextRequestId := 1
  requests := []
  polls := []
  detached := []

/-- The request has an entry of its own. -/
def RegistryRequest.live (request : RegistryRequest) : Bool :=
  request.phase = .reserved ∨ request.phase = .published

namespace Registry

variable (registry : Registry)

def setPhase (k : Nat) (phase : RegistryPhase) : List RegistryRequest :=
  registry.requests.modify k fun request => { request with phase := phase }

/-! ## The entries -/

/-- The id is zero when every entry is in use. -/
def asyncAllocSlot (now : Int) : Nat × Registry :=
  match registry.entries.findIdx? fun entry => !entry.inUse with
  | none => (0, registry)
  | some i =>
    (registry.nextRequestId,
      { registry with
        entries := registry.entries.set i ⟨true, registry.nextRequestId, none, none, now⟩
        nextRequestId := registry.nextRequestId + 1 })

def asyncFindSlot (requestId : Nat) : Option Nat :=
  registry.entries.findIdx? fun entry => entry.inUse ∧ entry.requestId = requestId

def asyncAllocEntry (now : Int) : Option Nat × Registry :=
  let (requestId, registry) := registry.asyncAllocSlot now
  (if requestId ≠ 0 then registry.asyncFindSlot requestId else none, registry)

/-- The basket in an entry is at an address. -/
def holdsAddress (address : Nat) (entry : AsyncRequestEntry) : Bool :=
  entry.inUse ∧ ∃ k ∈ entry.basket, ∃ request ∈ registry.requests[k]?, request.address = address

def asyncFindSlotByBasket (address : Nat) : Option Nat :=
  registry.entries.findIdx? (registry.holdsAddress address)

def asyncDetachSlot (i : Nat) : Registry :=
  match registry.entries[i]? with
  | none => registry
  | some entry =>
    { registry with
      entries := registry.entries.set i { entry with basket := none, stream := none, inUse := false }
      requests := match entry.basket with
        | none => registry.requests
        | some k => registry.setPhase k .reclaimed
      detached := registry.detached ++ entry.basket.toList }

/-! ## The sections -/

/-- The first section of `handleRequestAsync`, for a basket at an address that
nothing else uses. -/
def allocate (address : Nat) (now : Int) : Registry :=
  if ∃ request ∈ registry.requests, request.frees = 0 ∧ request.address = address then registry
  else
    match registry.asyncAllocEntry now with
    | (none, after) =>
      { after with requests := registry.requests ++ [⟨address, 0, none, .refused, 1⟩] }
    | (some i, after) =>
      { after with
        requests := registry.requests ++
          [⟨address, (after.entries[i]?.map AsyncRequestEntry.requestId).getD 0, some i,
            .reserved, 0⟩] }

/-- The second section writes through the pointer of the first. -/
def publish (k : Nat) (stream : Option Nat) (now : Int) : Registry :=
  match registry.requests[k]? with
  | none => registry
  | some request =>
    match request.phase, request.entry with
    | .reserved, some i =>
      { registry with
        entries := registry.entries.modify i fun entry =>
          { entry with basket := some k, stream := stream, startTime := now }
        requests := registry.setPhase k .published }
    | _, _ => registry

/-- The first section of a poll. -/
def snapshot (address : Nat) : Registry :=
  match (registry.asyncFindSlotByBasket address).bind (registry.entries[·]?) with
  | none => registry
  | some entry =>
    { registry with
      polls := registry.polls ++ [⟨address, entry.stream, entry.startTime, entry.requestId⟩] }

/-- The second section of a poll that has copied its result. -/
def claim (p : Nat) : Registry :=
  match registry.polls[p]? with
  | none => registry
  | some poll =>
    let registry := { registry with polls := registry.polls.eraseIdx p }
    match registry.asyncFindSlotByBasket poll.address with
    | none => registry
    | some i => registry.asyncDetachSlot i

def detachInUse (i : Nat) : Registry :=
  if (registry.entries[i]?.map AsyncRequestEntry.inUse) = some true then registry.asyncDetachSlot i
  else registry

def cleanupAsyncRequests : Registry :=
  (List.range registry.entries.length).foldl detachInUse registry

/-- `freeBasket` of a basket that was detached. -/
def free (d : Nat) : Registry :=
  match registry.detached[d]? with
  | none => registry
  | some k =>
    { registry with
      requests := registry.requests.modify k fun request =>
        { request with frees := request.frees + 1 }
      detached := registry.detached.eraseIdx d }

end Registry

/-! ## Steps -/

inductive RegistryEvent where
  | allocate (address : Nat) (now : Int)
  | publish (k : Nat) (stream : Option Nat) (now : Int)
  | snapshot (address : Nat)
  | claim (p : Nat)
  | cleanup
  | free (d : Nat)
  deriving Repr, DecidableEq

def stepRegistry (registry : Registry) : RegistryEvent → Registry
  | .allocate address now => registry.allocate address now
  | .publish k stream now => registry.publish k stream now
  | .snapshot address => registry.snapshot address
  | .claim p => registry.claim p
  | .cleanup => registry.cleanupAsyncRequests
  | .free d => registry.free d

def runRegistry (events : List RegistryEvent) : Registry :=
  run stepRegistry initAsyncRegistry events

/-- A cleanup finds no entry that is reserved and whose basket is not
published. -/
def SparesReserved (registry : Registry) : RegistryEvent → Prop
  | .cleanup => ∀ request ∈ registry.requests, request.phase ≠ .reserved
  | _ => True

instance (registry : Registry) : ∀ event, Decidable (SparesReserved registry event)
  | .cleanup => inferInstanceAs (Decidable (∀ request ∈ registry.requests, _ ≠ _))
  | .allocate _ _ | .publish _ _ _ | .snapshot _ | .claim _ | .free _ =>
    inferInstanceAs (Decidable True)

/-! ## The invariant -/

/-- Every entry in use has an owner, and every live request its entry.  A
basket is in one place: with its request, detached, or freed. -/
structure RegistryInv (registry : Registry) : Prop where
  entryOf : ∀ (k : Nat) (request : RegistryRequest), registry.requests[k]? = some request →
    request.live = true → ∃ i entry, request.entry = some i ∧
      registry.entries[i]? = some entry ∧ entry.inUse = true ∧
      entry.requestId = request.requestId ∧
      entry.basket = if request.phase = .published then some k else none
  ownerOf : ∀ (i : Nat) (entry : AsyncRequestEntry), registry.entries[i]? = some entry →
    entry.inUse = true → ∃ (k : Nat) (request : RegistryRequest),
      registry.requests[k]? = some request ∧ request.live = true ∧ request.entry = some i
  unused : ∀ (i : Nat) (entry : AsyncRequestEntry), registry.entries[i]? = some entry →
    entry.inUse = false → entry.basket = none
  ids : ∀ (k j : Nat) (a b : RegistryRequest), registry.requests[k]? = some a →
    registry.requests[j]? = some b → a.live = true → b.live = true →
      a.requestId = b.requestId → k = j
  idsLt : ∀ (k : Nat) (request : RegistryRequest), registry.requests[k]? = some request →
    request.live = true → request.requestId < registry.nextRequestId
  nextId : 0 < registry.nextRequestId
  freed : ∀ (k : Nat) (request : RegistryRequest), registry.requests[k]? = some request →
    request.frees + registry.detached.count k = if request.live then 0 else 1
  addresses : ∀ (k j : Nat) (a b : RegistryRequest), registry.requests[k]? = some a →
    registry.requests[j]? = some b → a.frees = 0 → b.frees = 0 → a.address = b.address → k = j
  known : ∀ k ∈ registry.detached, k < registry.requests.length

section Invariant

variable {registry : Registry}

theorem initAsyncRegistry_inv : RegistryInv initAsyncRegistry where
  entryOf k request hrequest := by simp [initAsyncRegistry] at hrequest
  ownerOf i entry hentry hinUse := by
    simp only [initAsyncRegistry, List.getElem?_replicate] at hentry
    split at hentry
    · cases hentry
      cases hinUse
    · cases hentry
  unused i entry hentry _ := by
    simp only [initAsyncRegistry, List.getElem?_replicate] at hentry
    split at hentry
    · cases hentry
      rfl
    · cases hentry
  ids k j a b ha := by simp [initAsyncRegistry] at ha
  idsLt k request hrequest := by simp [initAsyncRegistry] at hrequest
  nextId := by decide
  freed k request hrequest := by simp [initAsyncRegistry] at hrequest
  addresses k j a b ha := by simp [initAsyncRegistry] at ha
  known k hk := by simp [initAsyncRegistry] at hk

/-- Two live requests do not have the same entry. -/
theorem RegistryInv.entry_unique (h : RegistryInv registry) {k j : Nat} {a b : RegistryRequest}
    (ha : registry.requests[k]? = some a) (hb : registry.requests[j]? = some b)
    (halive : a.live = true) (hblive : b.live = true) (hentry : a.entry = b.entry) : k = j := by
  obtain ⟨i, entry, hai, hget, -, haid, -⟩ := h.entryOf k a ha halive
  obtain ⟨i', entry', hbi, hget', -, hbid, -⟩ := h.entryOf j b hb hblive
  have hsame : i = i' := Option.some.inj (hai.symm.trans (hentry.trans hbi))
  rw [← hsame, hget] at hget'
  cases hget'
  exact h.ids k j a b ha hb halive hblive (haid.symm.trans hbid)

theorem RegistryRequest.live_of_published {request : RegistryRequest}
    (h : request.phase = .published) : request.live = true := by simp [live, h]

/-- The basket in an entry is that of the published request that owns it. -/
theorem RegistryInv.basket_owner (h : RegistryInv registry) {i k : Nat}
    {entry : AsyncRequestEntry} (hentry : registry.entries[i]? = some entry)
    (hbasket : entry.basket = some k) : ∃ request, registry.requests[k]? = some request ∧
      request.phase = .published ∧ request.entry = some i := by
  have hinUse : entry.inUse = true := by
    by_contra hunused
    have hnone := h.unused i entry hentry (by simpa using hunused)
    rw [hbasket] at hnone
    cases hnone
  obtain ⟨j, request, hrequest, hlive, hi⟩ := h.ownerOf i entry hentry hinUse
  obtain ⟨i', entry', hi', hentry', -, -, howned⟩ := h.entryOf j request hrequest hlive
  cases Option.some.inj (hi.symm.trans hi')
  rw [hentry] at hentry'
  cases hentry'
  rw [hbasket] at howned
  split at howned
  · rename_i hpublished
    cases howned
    exact ⟨request, hrequest, hpublished, hi⟩
  · cases howned

/-- A published basket is found by its handle. -/
theorem RegistryInv.found (h : RegistryInv registry) {k : Nat} {request : RegistryRequest}
    (hrequest : registry.requests[k]? = some request) (hpublished : request.phase = .published) :
    registry.asyncFindSlotByBasket request.address = request.entry := by
  have hlive := RegistryRequest.live_of_published hpublished
  obtain ⟨i, entry, hi, hentry, hinUse, -, hbasket⟩ := h.entryOf k request hrequest hlive
  rw [if_pos hpublished] at hbasket
  rw [hi, Registry.asyncFindSlotByBasket, List.findIdx?_eq_some_iff_getElem]
  obtain ⟨hlt, hget⟩ := List.getElem?_eq_some_iff.mp hentry
  have hunfreed : ∀ (j : Nat) (other : RegistryRequest), registry.requests[j]? = some other →
      other.live = true → other.frees = 0 := by
    intro j other hother halive
    have hfreed := h.freed j other hother
    rw [if_pos halive] at hfreed
    omega
  refine ⟨hlt, ?_, ?_⟩
  · simp [Registry.holdsAddress, hget, hinUse, hbasket, hrequest]
  · intro j hj
    by_contra hholds
    have hholds : registry.holdsAddress request.address registry.entries[j] = true := by
      simpa using hholds
    simp only [Registry.holdsAddress, decide_eq_true_eq] at hholds
    obtain ⟨-, k', hk', other, hother, haddress⟩ := hholds
    obtain ⟨owner, howner, hpublished', hj'⟩ :=
      h.basket_owner (List.getElem?_eq_getElem (by omega)) hk'
    have hother' : registry.requests[k']? = some other := hother
    rw [howner] at hother'
    cases hother'
    have hsame : k' = k := h.addresses k' k other request howner hrequest
      (hunfreed k' other howner (RegistryRequest.live_of_published hpublished'))
      (hunfreed k request hrequest hlive) haddress
    subst hsame
    rw [hrequest] at howner
    cases howner
    rw [hi] at hj'
    cases hj'
    omega

/-! ## The sections keep it -/

/-- An item among the ones of which one was changed. -/
theorem getElem?_modifyItem {α : Type} {items : List α} {k j : Nat} {f : α → α} {item : α}
    (h : (items.modify k f)[j]? = some item) :
    ∃ before, items[j]? = some before ∧ item = if k = j then f before else before := by
  rw [List.getElem?_modify] at h
  obtain ⟨before, hbefore, heq⟩ := Option.map_eq_some_iff.mp h
  exact ⟨before, hbefore, heq.symm⟩

/-- An entry among the ones of which one was exchanged. -/
theorem getElem?_setEntry {entries : List AsyncRequestEntry} {i j : Nat}
    {changed entry : AsyncRequestEntry} (h : (entries.set i changed)[j]? = some entry) :
    (i = j ∧ entry = changed) ∨ (i ≠ j ∧ entries[j]? = some entry) := by
  rw [List.getElem?_set] at h
  split at h
  · rename_i hij
    split at h
    · cases h
      exact .inl ⟨hij, rfl⟩
    · cases h
  · rename_i hij
    exact .inr ⟨hij, h⟩

/-- A request that is live after another was reclaimed is as it was. -/
theorem live_before_reclaim {k j : Nat} {request : RegistryRequest}
    (hrequest : (registry.setPhase k .reclaimed)[j]? = some request) (hlive : request.live = true) :
    j ≠ k ∧ registry.requests[j]? = some request := by
  obtain ⟨before, hbefore, rfl⟩ := getElem?_modifyItem hrequest
  by_cases hkj : k = j
  · rw [if_pos hkj] at hlive
    cases hlive
  · rw [if_neg hkj] at hlive ⊢
    exact ⟨Ne.symm hkj, hbefore⟩

/-- The basket of an entry leaves the registry with the entry. -/
theorem RegistryInv.detach (h : RegistryInv registry) {i k : Nat} {entry : AsyncRequestEntry}
    (hentry : registry.entries[i]? = some entry) (hbasket : entry.basket = some k) :
    RegistryInv (registry.asyncDetachSlot i) := by
  obtain ⟨owner, howner, hpublished, hi⟩ := h.basket_owner hentry hbasket
  have hownerLive := RegistryRequest.live_of_published hpublished
  have hdetach : registry.asyncDetachSlot i =
      { registry with
        entries := registry.entries.set i
          { entry with basket := none, stream := none, inUse := false }
        requests := registry.setPhase k .reclaimed
        detached := registry.detached ++ [k] } := by
    simp only [Registry.asyncDetachSlot, hentry, hbasket, Option.toList]
  -- the other live requests have other entries
  have hothers : ∀ (j : Nat) (request : RegistryRequest), j ≠ k →
      registry.requests[j]? = some request → request.live = true → request.entry ≠ some i := by
    intro j request hjk hrequest hlive hsame
    exact hjk (h.entry_unique hrequest howner hlive hownerLive (hsame.trans hi.symm))
  rw [hdetach]
  constructor
  · intro j request hrequest hlive
    obtain ⟨hjk, hbefore⟩ := live_before_reclaim hrequest hlive
    obtain ⟨i', entry', hi', hentry', hrest⟩ := h.entryOf j request hbefore hlive
    have hne : i ≠ i' := by
      rintro rfl
      exact hothers j request hjk hbefore hlive hi'
    refine ⟨i', entry', hi', ?_, hrest⟩
    show (registry.entries.set i _)[i']? = some entry'
    rw [List.getElem?_set_ne hne]
    exact hentry'
  · intro i' entry' hentry' hinUse
    rcases getElem?_setEntry hentry' with ⟨-, rfl⟩ | ⟨hne, hbefore⟩
    · cases hinUse
    · obtain ⟨j, request, hrequest, hlive, hi'⟩ := h.ownerOf i' entry' hbefore hinUse
      have hjk : k ≠ j := by
        rintro rfl
        rw [howner] at hrequest
        cases hrequest
        exact hne (Option.some.inj (hi.symm.trans hi'))
      refine ⟨j, request, ?_, hlive, hi'⟩
      show (registry.requests.modify k _)[j]? = some request
      rw [List.getElem?_modify, hrequest]
      simp [hjk]
  · intro i' entry' hentry' hunused
    rcases getElem?_setEntry hentry' with ⟨-, rfl⟩ | ⟨hne, hbefore⟩
    · rfl
    · exact h.unused i' entry' hbefore hunused
  · intro j j' a b ha hb halive hblive hid
    exact h.ids j j' a b (live_before_reclaim ha halive).2 (live_before_reclaim hb hblive).2 halive
      hblive hid
  · intro j request hrequest hlive
    exact h.idsLt j request (live_before_reclaim hrequest hlive).2 hlive
  · exact h.nextId
  · intro j request hrequest
    obtain ⟨before, hbefore, rfl⟩ := getElem?_modifyItem hrequest
    have hfreed := h.freed j before hbefore
    show _ + (registry.detached ++ [k]).count j = _
    rw [List.count_append, List.count_singleton]
    by_cases hkj : k = j
    · subst hkj
      rw [howner] at hbefore
      cases hbefore
      rw [if_pos hownerLive] at hfreed
      simp only [if_true, beq_self_eq_true, RegistryRequest.live]
      simp
      omega
    · simp only [if_neg hkj, beq_iff_eq, Nat.add_zero] at hfreed ⊢
      exact hfreed
  · intro j j' a b ha hb hafree hbfree haddress
    obtain ⟨a', ha', rfl⟩ := getElem?_modifyItem ha
    obtain ⟨b', hb', rfl⟩ := getElem?_modifyItem hb
    refine h.addresses j j' a' b' ha' hb' ?_ ?_ ?_
    · split at hafree <;> exact hafree
    · split at hbfree <;> exact hbfree
    · split at haddress <;> split at haddress <;> exact haddress
  · intro j hj
    show j < (registry.requests.modify k _).length
    rw [List.length_modify]
    rcases List.mem_append.mp hj with hbefore | hk
    · exact h.known j hbefore
    · rw [List.mem_singleton.mp hk]
      exact (List.getElem?_eq_some_iff.mp howner).1

/-- A poll that found its handle again takes the entry out of the registry. -/
theorem RegistryInv.claim (h : RegistryInv registry) (p : Nat) : RegistryInv (registry.claim p) := by
  unfold Registry.claim
  cases registry.polls[p]? with
  | none => exact h
  | some poll =>
    dsimp only
    have hpolled : RegistryInv { registry with polls := registry.polls.eraseIdx p } :=
      ⟨h.entryOf, h.ownerOf, h.unused, h.ids, h.idsLt, h.nextId, h.freed, h.addresses,
        h.known⟩
    split
    · exact hpolled
    · rename_i i hfound
      obtain ⟨hlt, hholds, -⟩ := List.findIdx?_eq_some_iff_getElem.mp hfound
      simp only [Registry.holdsAddress, decide_eq_true_eq] at hholds
      obtain ⟨-, k, hbasket, -⟩ := hholds
      exact hpolled.detach (List.getElem?_eq_getElem hlt) hbasket

theorem RegistryInv.snapshot (h : RegistryInv registry) (address : Nat) :
    RegistryInv (registry.snapshot address) := by
  unfold Registry.snapshot
  split
  · exact h
  · exact ⟨h.entryOf, h.ownerOf, h.unused, h.ids, h.idsLt, h.nextId, h.freed, h.addresses,
        h.known⟩

/-- No request waits for its basket to be published. -/
def Registry.Unreserved (registry : Registry) : Prop :=
  ∀ request ∈ registry.requests, request.phase ≠ .reserved

/-- An entry in use has a basket then. -/
theorem RegistryInv.detachInUse (h : RegistryInv registry) (hunreserved : registry.Unreserved)
    (i : Nat) : RegistryInv (registry.detachInUse i) ∧ (registry.detachInUse i).Unreserved := by
  unfold Registry.detachInUse
  split
  · rename_i hinUse
    obtain ⟨entry, hentry, hused⟩ := Option.map_eq_some_iff.mp hinUse
    obtain ⟨k, request, hrequest, hlive, hi⟩ := h.ownerOf i entry hentry hused
    obtain ⟨i', entry', hi', hentry', -, -, hbasket⟩ := h.entryOf k request hrequest hlive
    cases Option.some.inj (hi.symm.trans hi')
    rw [hentry] at hentry'
    cases hentry'
    have hpublished : request.phase = .published := by
      have hreserved := hunreserved request (List.mem_of_getElem? hrequest)
      simpa [RegistryRequest.live, hreserved] using hlive
    rw [if_pos hpublished] at hbasket
    refine ⟨h.detach hentry hbasket, ?_⟩
    have hrequests : (registry.asyncDetachSlot i).requests = registry.setPhase k .reclaimed := by
      simp only [Registry.asyncDetachSlot, hentry, hbasket]
    intro after hafter
    rw [hrequests] at hafter
    obtain ⟨j, hj⟩ := List.getElem?_of_mem hafter
    obtain ⟨before, hbefore, rfl⟩ := getElem?_modifyItem hj
    split
    · simp
    · exact hunreserved before (List.mem_of_getElem? hbefore)
  · exact ⟨h, hunreserved⟩

theorem RegistryInv.cleanup (h : RegistryInv registry) (hunreserved : registry.Unreserved) :
    RegistryInv registry.cleanupAsyncRequests := by
  have hfold : ∀ (slots : List Nat) (registry : Registry), RegistryInv registry →
      registry.Unreserved → RegistryInv (slots.foldl Registry.detachInUse registry) := by
    intro slots
    induction slots with
    | nil => exact fun _ h _ => h
    | cons i slots ih =>
      intro registry h hunreserved
      obtain ⟨hdetached, hstill⟩ := h.detachInUse hunreserved i
      exact ih _ hdetached hstill
  exact hfold _ registry h hunreserved

/-- A request that is live when another basket is freed is as it was, since a
live request was not detached. -/
theorem RegistryInv.live_before_free (h : RegistryInv registry) {k j : Nat}
    (hk : 0 < registry.detached.count k) {request : RegistryRequest}
    (hrequest : (registry.requests.modify k fun request =>
      { request with frees := request.frees + 1 })[j]? = some request)
    (hlive : request.live = true) : registry.requests[j]? = some request := by
  obtain ⟨before, hbefore, rfl⟩ := getElem?_modifyItem hrequest
  have hfreed := h.freed j before hbefore
  split at hlive
  · rename_i hkj
    have hbeforeLive : before.live = true := hlive
    rw [if_pos hbeforeLive, ← hkj] at hfreed
    omega
  · rename_i hkj
    rw [if_neg hkj]
    exact hbefore

/-- A basket that is freed was detached once. -/
theorem RegistryInv.free (h : RegistryInv registry) (d : Nat) : RegistryInv (registry.free d) := by
  unfold Registry.free
  cases hd : registry.detached[d]? with
  | none => exact h
  | some k =>
    dsimp only
    obtain ⟨hlt, hget⟩ := List.getElem?_eq_some_iff.mp hd
    have hcount : ∀ j, registry.detached.count j =
        (registry.detached.eraseIdx d).count j + if k = j then 1 else 0 := by
      intro j
      rw [← (List.getElem_cons_eraseIdx_perm hlt).count_eq, hget, List.count_cons]
      simp only [beq_iff_eq]
    have hpos : 0 < registry.detached.count k := by
      rw [hcount k, if_pos rfl]
      omega
    constructor
    · intro j request hrequest hlive
      exact h.entryOf j request (h.live_before_free hpos hrequest hlive) hlive
    · intro i entry hentry hinUse
      obtain ⟨j, request, hrequest, hlive, hi⟩ := h.ownerOf i entry hentry hinUse
      refine ⟨j, if k = j then { request with frees := request.frees + 1 } else request, ?_, ?_, ?_⟩
      · show (registry.requests.modify k _)[j]? = _
        rw [List.getElem?_modify, hrequest]
        rfl
      · split <;> exact hlive
      · split <;> exact hi
    · exact h.unused
    · intro j j' a b ha hb halive hblive hid
      exact h.ids j j' a b (h.live_before_free hpos ha halive) (h.live_before_free hpos hb hblive)
        halive hblive hid
    · intro j request hrequest hlive
      exact h.idsLt j request (h.live_before_free hpos hrequest hlive) hlive
    · exact h.nextId
    · intro j request hrequest
      obtain ⟨before, hbefore, rfl⟩ := getElem?_modifyItem hrequest
      have hfreed := h.freed j before hbefore
      rw [hcount j] at hfreed
      by_cases hkj : k = j
      · simp only [if_pos hkj] at hfreed ⊢
        show before.frees + 1 + (registry.detached.eraseIdx d).count j =
          if before.live then 0 else 1
        omega
      · simp only [if_neg hkj, Nat.add_zero] at hfreed ⊢
        exact hfreed
    · intro j j' a b ha hb hafree hbfree haddress
      obtain ⟨a', ha', rfl⟩ := getElem?_modifyItem ha
      obtain ⟨b', hb', rfl⟩ := getElem?_modifyItem hb
      split at hafree
      · cases hafree
      split at hbfree
      · cases hbfree
      rename_i hkj hkj'
      rw [if_neg hkj, if_neg hkj'] at haddress
      exact h.addresses j j' a' b' ha' hb' hafree hbfree haddress
    · intro j hj
      show j < (registry.requests.modify k _).length
      rw [List.length_modify]
      exact h.known j (List.mem_of_mem_eraseIdx hj)

/-- Every request is as live as before one is published. -/
theorem before_publish {k j : Nat} {owner request : RegistryRequest}
    (hk : registry.requests[k]? = some owner) (hreserved : owner.phase = .reserved)
    (hrequest : (registry.setPhase k .published)[j]? = some request) :
    ∃ before, registry.requests[j]? = some before ∧ before.live = request.live ∧
      before.entry = request.entry ∧ before.requestId = request.requestId ∧
      before.frees = request.frees ∧ before.address = request.address ∧
      request.phase = if k = j then .published else before.phase := by
  obtain ⟨before, hbefore, rfl⟩ := getElem?_modifyItem hrequest
  refine ⟨before, hbefore, ?_⟩
  by_cases hkj : k = j
  · subst hkj
    rw [hk] at hbefore
    cases hbefore
    simp [RegistryRequest.live, hreserved]
  · simp [hkj]

/-- Every live request has its entry after one was published. -/
theorem RegistryInv.entryOf_publish (h : RegistryInv registry) {k i : Nat}
    {owner : RegistryRequest} {entry : AsyncRequestEntry}
    (hk : registry.requests[k]? = some owner) (hreserved : owner.phase = .reserved)
    (hi : owner.entry = some i) (hentry : registry.entries[i]? = some entry)
    (hheld : entry.inUse = true ∧ entry.requestId = owner.requestId) (stream : Option Nat)
    (now : Int) {j : Nat} {request : RegistryRequest}
    (hrequest : (registry.setPhase k .published)[j]? = some request)
    (hlive : request.live = true) :
    ∃ i' entry', request.entry = some i' ∧
      (registry.entries.modify i fun entry =>
        { entry with basket := some k, stream := stream, startTime := now })[i']? = some entry' ∧
      entry'.inUse = true ∧ entry'.requestId = request.requestId ∧
      entry'.basket = if request.phase = .published then some j else none := by
  have hownerLive : owner.live = true := by simp [RegistryRequest.live, hreserved]
  obtain ⟨before, hbefore, hlives, hentries, hids, -, -, hphase⟩ :=
    before_publish hk hreserved hrequest
  by_cases hkj : k = j
  · subst hkj
    cases Option.some.inj (hk.symm.trans hbefore)
    rw [if_pos rfl] at hphase
    refine ⟨i, { entry with basket := some k, stream := stream, startTime := now },
      hentries.symm.trans hi, ?_, hheld.1, hheld.2.trans hids, ?_⟩
    · rw [List.getElem?_modify_eq, hentry]
      rfl
    · rw [if_pos hphase]
  · obtain ⟨i', entry', hi', hentry', hinUse', hid', hbasket'⟩ :=
      h.entryOf j before hbefore (hlives.trans hlive)
    have hne : i ≠ i' := by
      rintro rfl
      exact hkj (h.entry_unique hk hbefore hownerLive (hlives.trans hlive) (hi.trans hi'.symm))
    rw [if_neg hkj] at hphase
    refine ⟨i', entry', hentries.symm.trans hi', ?_, hinUse', hid'.trans hids, ?_⟩
    · rw [List.getElem?_modify_ne _ _ hne]
      exact hentry'
    · rw [hphase]
      exact hbasket'

/-- The basket goes to the entry that the request has kept. -/
theorem RegistryInv.publish (h : RegistryInv registry) (k : Nat) (stream : Option Nat)
    (now : Int) : RegistryInv (registry.publish k stream now) := by
  unfold Registry.publish
  cases hk : registry.requests[k]? with
  | none => exact h
  | some owner =>
    dsimp only
    split
    · rename_i i hreserved hi
      have hlive : owner.live = true := by simp [RegistryRequest.live, hreserved]
      obtain ⟨i', entry, hi', hentry, hinUse, hid, -⟩ := h.entryOf k owner hk hlive
      cases Option.some.inj (hi.symm.trans hi')
      have hsame {j : Nat} {request : RegistryRequest}
          (hrequest : (registry.setPhase k .published)[j]? = some request) :=
        before_publish hk hreserved hrequest
      constructor
      · intro j request hrequest hjlive
        exact h.entryOf_publish hk hreserved hi hentry ⟨hinUse, hid⟩ stream now hrequest hjlive
      · intro i' entry' hentry' hinUse'
        obtain ⟨before, hbefore, rfl⟩ := getElem?_modifyItem hentry'
        have hused : before.inUse = true := by
          split at hinUse' <;> exact hinUse'
        obtain ⟨j, request, hrequest, hjlive, hi'⟩ := h.ownerOf i' before hbefore hused
        refine ⟨j, if k = j then { request with phase := .published } else request, ?_, ?_, ?_⟩
        · show (registry.requests.modify k _)[j]? = _
          rw [List.getElem?_modify, hrequest]
          rfl
        · split
          · rfl
          · exact hjlive
        · split <;> exact hi'
      · intro i' entry' hentry' hunused
        obtain ⟨before, hbefore, rfl⟩ := getElem?_modifyItem hentry'
        split at hunused
        · rename_i hii'
          subst hii'
          rw [hentry] at hbefore
          cases hbefore
          rw [hinUse] at hunused
          cases hunused
        · rename_i hii'
          rw [if_neg hii']
          exact h.unused i' before hbefore hunused
      · intro j j' a b ha hb halive hblive haid
        obtain ⟨a', ha', hal, -, hai, -⟩ := hsame ha
        obtain ⟨b', hb', hbl, -, hbi, -⟩ := hsame hb
        exact h.ids j j' a' b' ha' hb' (hal.trans halive) (hbl.trans hblive)
          (hai.trans (haid.trans hbi.symm))
      · intro j request hrequest hjlive
        obtain ⟨before, hbefore, hlives, -, hids, -⟩ := hsame hrequest
        rw [← hids]
        exact h.idsLt j before hbefore (hlives.trans hjlive)
      · exact h.nextId
      · intro j request hrequest
        obtain ⟨before, hbefore, hlives, -, -, hfrees, -⟩ := hsame hrequest
        rw [← hfrees, ← hlives]
        exact h.freed j before hbefore
      · intro j j' a b ha hb hafree hbfree haddress
        obtain ⟨a', ha', -, -, -, haf, haa, -⟩ := hsame ha
        obtain ⟨b', hb', -, -, -, hbf, hba, -⟩ := hsame hb
        exact h.addresses j j' a' b' ha' hb' (haf.trans hafree) (hbf.trans hbfree)
          (haa.trans (haddress.trans hba.symm))
      · intro j hj
        show j < (registry.requests.modify k _).length
        rw [List.length_modify]
        exact h.known j hj
    · exact h

/-- A free entry is found again by its new id. -/
theorem RegistryInv.asyncAllocEntry (h : RegistryInv registry) (now : Int) :
    registry.asyncAllocEntry now = (none, registry) ∨
      ∃ i entry, registry.entries[i]? = some entry ∧ entry.inUse = false ∧
        registry.asyncAllocEntry now =
          (some i, { registry with
            entries := registry.entries.set i ⟨true, registry.nextRequestId, none, none, now⟩
            nextRequestId := registry.nextRequestId + 1 }) := by
  unfold Registry.asyncAllocEntry Registry.asyncAllocSlot
  cases hfree : registry.entries.findIdx? fun entry => !entry.inUse with
  | none => exact .inl (by simp)
  | some i =>
    obtain ⟨hlt, hunused, -⟩ := List.findIdx?_eq_some_iff_getElem.mp hfree
    have hnext : registry.nextRequestId ≠ 0 := Nat.ne_of_gt h.nextId
    refine .inr ⟨i, registry.entries[i], List.getElem?_eq_getElem hlt, by simpa using hunused, ?_⟩
    simp only [ne_eq, hnext, not_false_eq_true, if_true, Prod.mk.injEq, and_true]
    rw [Registry.asyncFindSlot, List.findIdx?_eq_some_iff_getElem]
    refine ⟨by simpa using hlt, by simp, ?_⟩
    intro j hj
    -- the entries before it are in use, with older ids
    have hold : (registry.entries.set i ⟨true, registry.nextRequestId, none, none, now⟩)[j]? =
        registry.entries[j]? := List.getElem?_set_ne (by omega)
    have hjlt : j < registry.entries.length := by omega
    rw [List.getElem?_eq_getElem (by simpa using hjlt), List.getElem?_eq_getElem hjlt,
      Option.some_inj] at hold
    rw [hold]
    simp only [decide_eq_true_eq, not_and]
    intro hinUse hid
    obtain ⟨k, request, hrequest, hlive, hi⟩ :=
      h.ownerOf j _ (List.getElem?_eq_getElem hjlt) hinUse
    obtain ⟨i', entry', hi', hentry', -, hid', -⟩ := h.entryOf k request hrequest hlive
    cases Option.some.inj (hi.symm.trans hi')
    rw [List.getElem?_eq_getElem hjlt] at hentry'
    cases hentry'
    have hlt' := h.idsLt k request hrequest hlive
    omega

/-- A request among the ones with a new one behind them. -/
theorem getElem?_newRequest {requests : List RegistryRequest} {k : Nat}
    {new request : RegistryRequest} (h : (requests ++ [new])[k]? = some request) :
    requests[k]? = some request ∨ (k = requests.length ∧ request = new) := by
  rw [List.getElem?_append] at h
  split at h
  · exact .inl h
  · rw [List.getElem?_singleton] at h
    split at h
    · cases h
      exact .inr ⟨by omega, rfl⟩
    · cases h

theorem getElem?_oldRequest {requests : List RegistryRequest} {k : Nat}
    {new request : RegistryRequest} (h : requests[k]? = some request) :
    (requests ++ [new])[k]? = some request := by
  rw [List.getElem?_append_left (List.getElem?_eq_some_iff.mp h).1]
  exact h

/-- The next request is not among the ones that were detached. -/
theorem RegistryInv.undetached (h : RegistryInv registry) :
    registry.detached.count registry.requests.length = 0 := by
  rw [List.count_eq_zero]
  exact fun hmem => Nat.lt_irrefl _ (h.known _ hmem)

/-- A request without an entry is freed at once. -/
theorem RegistryInv.addRefused (h : RegistryInv registry) (address : Nat) :
    RegistryInv { registry with
      requests := registry.requests ++ [⟨address, 0, none, .refused, 1⟩] } := by
  constructor
  · intro k request hrequest hlive
    rcases getElem?_newRequest hrequest with hbefore | ⟨-, rfl⟩
    · exact h.entryOf k request hbefore hlive
    · cases hlive
  · intro i entry hentry hinUse
    obtain ⟨k, request, hrequest, hrest⟩ := h.ownerOf i entry hentry hinUse
    exact ⟨k, request, getElem?_oldRequest hrequest, hrest⟩
  · exact h.unused
  · intro k j a b ha hb halive hblive hid
    rcases getElem?_newRequest ha with ha | ⟨-, rfl⟩
    · rcases getElem?_newRequest hb with hb | ⟨-, rfl⟩
      · exact h.ids k j a b ha hb halive hblive hid
      · cases hblive
    · cases halive
  · intro k request hrequest hlive
    rcases getElem?_newRequest hrequest with hbefore | ⟨-, rfl⟩
    · exact h.idsLt k request hbefore hlive
    · cases hlive
  · exact h.nextId
  · intro k request hrequest
    rcases getElem?_newRequest hrequest with hbefore | ⟨rfl, rfl⟩
    · exact h.freed k request hbefore
    · show 1 + registry.detached.count registry.requests.length = 1
      rw [h.undetached]
  · intro k j a b ha hb hafree hbfree haddress
    rcases getElem?_newRequest ha with ha | ⟨-, rfl⟩
    · rcases getElem?_newRequest hb with hb | ⟨-, rfl⟩
      · exact h.addresses k j a b ha hb hafree hbfree haddress
      · cases hbfree
    · cases hafree
  · intro k hk
    rw [List.length_append]
    exact Nat.lt_add_right _ (h.known k hk)

/-- A request takes an entry that is not in use, with the next id. -/
theorem RegistryInv.addReserved (h : RegistryInv registry) {address i : Nat}
    {entry : AsyncRequestEntry} (now : Int)
    (hdistinct : ∀ (k : Nat) (request : RegistryRequest), registry.requests[k]? = some request →
      request.frees = 0 → request.address ≠ address)
    (hentry : registry.entries[i]? = some entry) (hunused : entry.inUse = false) :
    RegistryInv { registry with
      entries := registry.entries.set i ⟨true, registry.nextRequestId, none, none, now⟩
      nextRequestId := registry.nextRequestId + 1
      requests := registry.requests ++
        [⟨address, registry.nextRequestId, some i, .reserved, 0⟩] } := by
  obtain ⟨hlt, hget⟩ := List.getElem?_eq_some_iff.mp hentry
  -- no live request has the entry yet
  have hothers : ∀ (k : Nat) (request : RegistryRequest), registry.requests[k]? = some request →
      request.live = true → request.entry ≠ some i := by
    intro k request hrequest hlive hi
    obtain ⟨i', entry', hi', hentry', hinUse, -⟩ := h.entryOf k request hrequest hlive
    cases Option.some.inj (hi.symm.trans hi')
    rw [hentry] at hentry'
    cases hentry'
    rw [hunused] at hinUse
    cases hinUse
  constructor
  · intro k request hrequest hlive
    rcases getElem?_newRequest hrequest with hbefore | ⟨rfl, rfl⟩
    · obtain ⟨i', entry', hi', hentry', hrest⟩ := h.entryOf k request hbefore hlive
      have hne : i ≠ i' := by
        rintro rfl
        exact hothers k request hbefore hlive hi'
      refine ⟨i', entry', hi', ?_, hrest⟩
      show (registry.entries.set i _)[i']? = some entry'
      rw [List.getElem?_set_ne hne]
      exact hentry'
    · exact ⟨i, _, rfl, List.getElem?_set_self hlt, rfl, rfl, rfl⟩
  · intro i' entry' hentry' hinUse
    rcases getElem?_setEntry hentry' with ⟨rfl, -⟩ | ⟨-, hbefore⟩
    · exact ⟨registry.requests.length, _, List.getElem?_concat_length, rfl, rfl⟩
    · obtain ⟨k, request, hrequest, hrest⟩ := h.ownerOf i' entry' hbefore hinUse
      exact ⟨k, request, getElem?_oldRequest hrequest, hrest⟩
  · intro i' entry' hentry' hunused'
    rcases getElem?_setEntry hentry' with ⟨-, rfl⟩ | ⟨-, hbefore⟩
    · rfl
    · exact h.unused i' entry' hbefore hunused'
  · intro k j a b ha hb halive hblive hid
    rcases getElem?_newRequest ha with ha | ⟨rfl, rfl⟩
    · rcases getElem?_newRequest hb with hb | ⟨rfl, rfl⟩
      · exact h.ids k j a b ha hb halive hblive hid
      · exact absurd hid (Nat.ne_of_lt (h.idsLt k a ha halive))
    · rcases getElem?_newRequest hb with hb | ⟨rfl, rfl⟩
      · exact absurd hid.symm (Nat.ne_of_lt (h.idsLt j b hb hblive))
      · rfl
  · intro k request hrequest hlive
    rcases getElem?_newRequest hrequest with hbefore | ⟨rfl, rfl⟩
    · exact Nat.lt_succ_of_lt (h.idsLt k request hbefore hlive)
    · exact Nat.lt_succ_self _
  · exact Nat.succ_pos _
  · intro k request hrequest
    rcases getElem?_newRequest hrequest with hbefore | ⟨rfl, rfl⟩
    · exact h.freed k request hbefore
    · show 0 + registry.detached.count registry.requests.length = 0
      rw [h.undetached]
  · intro k j a b ha hb hafree hbfree haddress
    rcases getElem?_newRequest ha with ha | ⟨rfl, rfl⟩
    · rcases getElem?_newRequest hb with hb | ⟨rfl, rfl⟩
      · exact h.addresses k j a b ha hb hafree hbfree haddress
      · exact absurd haddress (hdistinct k a ha hafree)
    · rcases getElem?_newRequest hb with hb | ⟨rfl, rfl⟩
      · exact absurd haddress.symm (hdistinct j b hb hbfree)
      · rfl
  · intro k hk
    rw [List.length_append]
    exact Nat.lt_add_right _ (h.known k hk)

/-- A new request, which has an entry or is refused. -/
theorem RegistryInv.allocate (h : RegistryInv registry) (address : Nat) (now : Int) :
    RegistryInv (registry.allocate address now) := by
  unfold Registry.allocate
  split
  · exact h
  · rename_i hfresh
    rcases h.asyncAllocEntry now with hfull | ⟨i, entry, hentry, hunused, halloc⟩
    · rw [hfull]
      exact h.addRefused address
    · rw [halloc]
      obtain ⟨hlt, -⟩ := List.getElem?_eq_some_iff.mp hentry
      have hadded := h.addReserved now (fun k request hrequest hfree haddress =>
        hfresh ⟨request, List.mem_of_getElem? hrequest, hfree, haddress⟩) hentry hunused
      dsimp only
      rw [List.getElem?_set_self hlt]
      exact hadded

/-! ## Runs -/

theorem stepRegistry_inv {event : RegistryEvent} (h : RegistryInv registry)
    (hspares : SparesReserved registry event) : RegistryInv (stepRegistry registry event) := by
  cases event with
  | allocate address now => exact h.allocate address now
  | publish k stream now => exact h.publish k stream now
  | snapshot address => exact h.snapshot address
  | claim p => exact h.claim p
  | cleanup => exact h.cleanup hspares
  | free d => exact h.free d

/-- Two live requests have different entries, a published basket is found by
its handle until it is reclaimed, and no basket is freed twice. -/
theorem runRegistry_sound (events : List RegistryEvent)
    (h : Meets stepRegistry SparesReserved initAsyncRegistry events) :
    let registry := runRegistry events
    (∀ (k j : Nat) (a b : RegistryRequest), registry.requests[k]? = some a →
      registry.requests[j]? = some b → a.live = true → b.live = true → a.entry = b.entry → k = j) ∧
    (∀ (k : Nat) (request : RegistryRequest), registry.requests[k]? = some request →
      request.phase = .published → ∃ i entry, request.entry = some i ∧
        registry.asyncFindSlotByBasket request.address = some i ∧
        registry.entries[i]? = some entry ∧ entry.basket = some k) ∧
    (∀ request ∈ registry.requests, request.frees ≤ 1) := by
  intro registry
  have hinv : RegistryInv registry :=
    run_keeps (fun _ _ hstate hok => stepRegistry_inv hstate hok) h initAsyncRegistry_inv
  refine ⟨fun k j a b => hinv.entry_unique, ?_, ?_⟩
  · intro k request hrequest hpublished
    obtain ⟨i, entry, hi, hentry, -, -, hbasket⟩ :=
      hinv.entryOf k request hrequest (RegistryRequest.live_of_published hpublished)
    rw [if_pos hpublished] at hbasket
    exact ⟨i, entry, hi, (hinv.found hrequest hpublished).trans hi, hentry, hbasket⟩
  · intro request hrequest
    obtain ⟨k, hk⟩ := List.getElem?_of_mem hrequest
    have hfreed := hinv.freed k request hk
    split at hfreed <;> omega

/-- Two requests, of which one is collected. -/
theorem runRegistry_sound_two :
    let events : List RegistryEvent := [.allocate 100 0, .allocate 200 0, .publish 0 none 1,
      .snapshot 100, .publish 1 none 2, .claim 0, .free 0]
    let registry := runRegistry events
    Meets stepRegistry SparesReserved initAsyncRegistry events ∧
    registry.requests.map RegistryRequest.phase = [.reclaimed, .published] ∧
    ∀ request ∈ registry.requests, request.frees ≤ 1 := by
  refine ⟨by decide +kernel, by decide +kernel, ?_⟩
  exact (runRegistry_sound _ (by decide +kernel)).2.2

theorem foldl_detachInUse_unused (slots : List Nat) (registry : Registry)
    (h : ∀ i ∈ slots, (registry.entries[i]?.map AsyncRequestEntry.inUse) ≠ some true) :
    slots.foldl Registry.detachInUse registry = registry := by
  induction slots with
  | nil => rfl
  | cons i slots ih =>
    rw [List.foldl_cons, Registry.detachInUse, if_neg (h i List.mem_cons_self)]
    exact ih fun j hj => h j (List.mem_cons_of_mem _ hj)

/-- A cleanup with one entry in use. -/
theorem cleanupAsyncRequests_first {entry : AsyncRequestEntry} {n : Nat}
    (hentries : registry.entries =
      (List.replicate (n + 1) ⟨false, 0, none, none, 0⟩).set 0 entry) :
    registry.cleanupAsyncRequests = registry.detachInUse 0 := by
  have hunused : ∀ i ∈ (List.range n).map Nat.succ,
      ((registry.detachInUse 0).entries[i]?.map AsyncRequestEntry.inUse) ≠ some true := by
    intro i hi
    obtain ⟨j, hj, rfl⟩ := List.mem_map.mp hi
    have hold : (registry.detachInUse 0).entries[j.succ]? = registry.entries[j.succ]? := by
      unfold Registry.detachInUse Registry.asyncDetachSlot
      split
      · split
        · rfl
        · exact List.getElem?_set_ne (by omega)
      · rfl
    rw [hold, hentries, List.getElem?_set_ne (by omega), List.getElem?_replicate]
    split <;> simp
  have hlen : registry.entries.length = n + 1 := by simp [hentries]
  rw [Registry.cleanupAsyncRequests, hlen, List.range_succ_eq_map, List.foldl_cons]
  exact foldl_detachInUse_unused _ _ hunused

/-- A cleanup frees the entry that a request has reserved.  The next request
takes the same entry, and the basket that the first one publishes is lost when
the second one publishes its own. -/
theorem runRegistry_sharesEntry :
    let reserved := runRegistry [.allocate 100 0, .cleanup, .allocate 200 1]
    let published := runRegistry [.allocate 100 0, .cleanup, .allocate 200 1, .publish 0 none 2,
      .publish 1 none 3]
    reserved.requests.map RegistryRequest.live = [true, true] ∧
    reserved.requests.map RegistryRequest.entry = [some 0, some 0] ∧
    published.requests.map RegistryRequest.phase = [.published, .published] ∧
    published.asyncFindSlotByBasket 100 = none := by
  have hcleanup : (initAsyncRegistry.allocate 100 0).cleanupAsyncRequests =
      (initAsyncRegistry.allocate 100 0).detachInUse 0 :=
    cleanupAsyncRequests_first (show _ = (List.replicate (1023 + 1) _).set 0
      ⟨true, 1, none, none, 0⟩ by decide +kernel)
  simp only [runRegistry, run_cons, run_nil, stepRegistry, hcleanup]
  decide +kernel

end Invariant

end HttpRequestClient.Client
