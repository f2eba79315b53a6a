import HttpRequestClient.Client.SessionSetup
import HttpRequestClient.Lib.Runs

/-!
# The resources of sessions and baskets

Runs in which requests find or make sessions, use them and let go of them,
sessions are closed and baskets freed, in any order.  A session outlives the
basket that it was made for, and its `connInfo` has pointers into that basket
(`connInfo -> host = basket -> request.urlComponents.host`):
`newSessionCallback` follows them whenever the peer sends a ticket.  A basket
has a pointer to its session, which another thread may close:
`registerStream`, `unregisterStream` and `prepareRetry` follow it.

`runSessions_safe_iff`: nothing is used or released that is not there if and
only if every ticket comes before the basket of its session is freed, every
use of the session of a basket before that session is closed, and there is
memory for every `connInfo`.  Then everything that is held belongs to a basket
or an open session, but for the sessions that were rejected.
-/

namespace HttpRequestClient.Client.Setup

open Http2 Ledger Runs

/-! ## Runs -/

/-- A resource of a basket or an attempt, by its number. -/
inductive Owned where
  | basket (b : Nat)
  | part (i : Nat) (resource : Resource)
  deriving DecidableEq, Repr

/-- A basket, and the session that it is on. -/
structure HeldBasket where
  basket : SetupBasket
  session : Option Nat
  deriving Repr

/-- A session that is open, and the basket that it was made for. -/
structure OpenSession where
  session : NewSession
  maker : Nat
  deriving Repr, DecidableEq

/-- What has become of an attempt to make a session. -/
inductive MadeSession where
  | rejected
  | opened (session : OpenSession)
  | closed
  deriving Repr, DecidableEq

def MadeSession.open? : MadeSession → Option OpenSession
  | .opened session => some session
  | .rejected | .closed => none

/-- What the requests have done so far.  A basket that is freed is empty. -/
structure Sessions where
  acts : List (Act Owned)
  baskets : List (Option HeldBasket)
  attempts : List MadeSession

inductive SessionEvent where
  | buildBasket (basket : SetupBasket)
  | getSessionInfo (b i : Nat)
  | createSession (b : Nat) (calls : SetupCalls)
  | registerStream (b : Nat)
  | unregisterStream (b : Nat)
  | prepareRetry (b : Nat) (forceHttp11 : Bool)
  | newSessionCallback (i : Nat)
  | closeSession (i : Nat) (error : Option Error)
  | freeBasket (b : Nat)

namespace Sessions

variable (state : Sessions)

def opens : List (Option OpenSession) := state.attempts.map MadeSession.open?

def basketAt (b : Nat) : Option HeldBasket := state.baskets[b]?.join

def sessionAt (i : Nat) : Option OpenSession := state.opens[i]?.join

def buildBasket (basket : SetupBasket) : Sessions :=
  { state with
    acts := state.acts ++ [.acquire (.basket state.baskets.length)]
    baskets := state.baskets ++ [some ⟨basket, none⟩] }

/-- The basket takes a session of the pool, which has open ones only. -/
def getSessionInfo (b i : Nat) : Sessions :=
  match state.basketAt b, state.sessionAt i with
  | some held, some _ =>
    { state with
      acts := state.acts ++ [.use (.basket b), .use (.part i .session)]
      baskets := state.baskets.set b (some { held with session := some i }) }
  | _, _ => state

/-- The result of an attempt, in the basket. -/
def settle (b : Nat) (basket : SetupBasket) (result : SetupResult) : Sessions where
  acts := state.acts ++
    .use (.basket b) :: result.acts.map (Act.map (.part state.attempts.length))
  baskets := state.baskets.set b (some
    ⟨{ basket with answer := result.answer }, result.session.map fun _ => state.attempts.length⟩)
  attempts := state.attempts ++
    [result.session.elim .rejected fun session => .opened ⟨session, b⟩]

def createSession (b : Nat) (calls : SetupCalls) : Sessions :=
  match state.basketAt b with
  | none => state
  | some held =>
    match attemptSession calls held.basket with
    | none => state
    | some (.crashed acts) =>
      { state with
        acts := state.acts ++
          .use (.basket b) :: acts.map (Act.map (.part state.attempts.length)) }
    | some (.returned result) => state.settle b held.basket result

/-- The session of a basket is used, if the basket has one, and the basket
changes behind it. -/
def useSession (b : Nat) (after : HeldBasket → HeldBasket) : Sessions :=
  match state.basketAt b with
  | none => state
  | some held =>
    match held.session with
    | none => state
    | some i =>
      { state with
        acts := state.acts ++ [.use (.basket b), .use (.part i .session)]
        baskets := state.baskets.set b (some (after held)) }

def registerStream (b : Nat) : Sessions := state.useSession b id

def unregisterStream (b : Nat) : Sessions := state.useSession b id

/-- `goingAway` is written to the session, and the basket lets go of it. -/
def prepareRetry (b : Nat) (forceHttp11 : Bool) : Sessions :=
  state.useSession b fun held =>
    { basket :=
        { held.basket with
          answer := { held.basket.answer with error := none }
          forceHttp11 := held.basket.forceHttp11 || forceHttp11 }
      session := none }

/-- The callback reads the names of the host and of the proxy. -/
def newSessionCallback (i : Nat) : Sessions :=
  match state.sessionAt i with
  | none => state
  | some opened =>
    if opened.session.tls then
      { state with
        acts := state.acts ++
          [.use (.part i .ssl), .use (.part i .connInfo), .use (.basket opened.maker)] }
    else state

def closeSession (i : Nat) (error : Option Error) : Sessions :=
  match state.sessionAt i with
  | none => state
  | some opened =>
    { state with
      acts := state.acts ++ (Setup.closeSession opened.session error).map (Act.map (.part i))
      attempts := state.attempts.set i .closed }

def freeBasket (b : Nat) : Sessions :=
  match state.basketAt b with
  | none => state
  | some _ =>
    { state with
      acts := state.acts ++ [.release (.basket b)]
      baskets := state.baskets.set b none }

end Sessions

def stepSessions (state : Sessions) : SessionEvent → Sessions
  | .buildBasket basket => state.buildBasket basket
  | .getSessionInfo b i => state.getSessionInfo b i
  | .createSession b calls => state.createSession b calls
  | .registerStream b => state.registerStream b
  | .unregisterStream b => state.unregisterStream b
  | .prepareRetry b forceHttp11 => state.prepareRetry b forceHttp11
  | .newSessionCallback i => state.newSessionCallback i
  | .closeSession i error => state.closeSession i error
  | .freeBasket b => state.freeBasket b

def runSessions (events : List SessionEvent) : Sessions := run stepSessions ⟨[], [], []⟩ events

/-- The session of a basket is still open. -/
def SessionThere (state : Sessions) (b : Nat) : Prop :=
  ∀ held i, state.basketAt b = some held → held.session = some i → state.sessionAt i ≠ none

/-- A ticket comes while the basket of its session is there, a session is used
before it is closed, and there is memory for a `connInfo`. -/
def InTime (state : Sessions) : SessionEvent → Prop
  | .createSession b calls => ∀ held, state.basketAt b = some held →
      AsksConnInfo calls held.basket → calls.mallocConnInfo = true
  | .registerStream b | .unregisterStream b | .prepareRetry b _ => SessionThere state b
  | .newSessionCallback i => ∀ opened, state.sessionAt i = some opened →
      opened.session.tls = true → state.basketAt opened.maker ≠ none
  | _ => True

/-! ## What is owned -/

/-- What the entries of a list own, by their numbers. -/
def ownedFrom {α : Type} (f : Nat → α → List Owned) : Nat → List (Option α) → List Owned
  | _, [] => []
  | n, entry :: entries => entry.elim [] (f n) ++ ownedFrom f (n + 1) entries

section Lists

variable {α : Type} {f : Nat → α → List Owned} {entries : List (Option α)} {n i : Nat} {x y : α}

theorem ownedFrom_append (more : List (Option α)) :
    ownedFrom f n (entries ++ more) =
      ownedFrom f n entries ++ ownedFrom f (n + entries.length) more := by
  induction entries generalizing n with
  | nil => rfl
  | cons entry entries ih =>
    rw [List.cons_append, ownedFrom, ownedFrom, ih, List.append_assoc, List.length_cons,
      Nat.add_assoc, Nat.add_comm 1]

theorem ownedFrom_remove (h : entries[i]?.join = some x) :
    (ownedFrom f n entries).Perm (f (n + i) x ++ ownedFrom f n (entries.set i none)) := by
  induction entries generalizing n i with
  | nil => cases h
  | cons entry entries ih =>
    cases i with
    | zero =>
      cases (h : entry = some x)
      exact .refl _
    | succ i =>
      have hrest := ih (n := n + 1) (i := i) h
      rw [Nat.add_assoc, Nat.add_comm 1] at hrest
      rw [List.set_cons_succ, ownedFrom, ownedFrom]
      refine (hrest.append_left _).trans ?_
      rw [← List.append_assoc, ← List.append_assoc]
      exact List.perm_append_comm.append_right _

theorem ownedFrom_replace (h : entries[i]?.join = some x) (hsame : f (n + i) x = f (n + i) y) :
    ownedFrom f n (entries.set i (some y)) = ownedFrom f n entries := by
  induction entries generalizing n i with
  | nil => cases h
  | cons entry entries ih =>
    cases i with
    | zero =>
      cases (h : entry = some x)
      rw [List.set_cons_zero, ownedFrom, ownedFrom, Option.elim_some, Option.elim_some]
      exact congrArg (· ++ _) hsame.symm
    | succ i =>
      rw [Nat.add_comm i, ← Nat.add_assoc] at hsame
      rw [List.set_cons_succ, ownedFrom, ownedFrom, ih h hsame]

theorem mem_ownedFrom {owned : Owned} :
    owned ∈ ownedFrom f n entries ↔
      ∃ i x, entries[i]?.join = some x ∧ owned ∈ f (n + i) x := by
  induction entries generalizing n with
  | nil => simp [ownedFrom]
  | cons entry entries ih =>
    rw [ownedFrom, List.mem_append, ih]
    constructor
    · rintro (hfirst | ⟨i, x, hx, howned⟩)
      · cases entry with
        | none => cases hfirst
        | some x => exact ⟨0, x, rfl, hfirst⟩
      · rw [Nat.add_assoc, Nat.add_comm 1] at howned
        exact ⟨i + 1, x, hx, howned⟩
    · rintro ⟨i, x, hx, howned⟩
      cases i with
      | zero =>
        cases (hx : entry = some x)
        exact .inl howned
      | succ i =>
        refine .inr ⟨i, x, hx, ?_⟩
        rwa [Nat.add_assoc, Nat.add_comm 1]

end Lists

/-! ## What a run keeps -/

def basketOwns (b : Nat) (_ : HeldBasket) : List Owned := [.basket b]

def sessionOwns (i : Nat) (opened : OpenSession) : List Owned :=
  opened.session.resources.map (.part i)

/-- What the baskets and the open sessions own. -/
def Sessions.owned (state : Sessions) : List Owned :=
  ownedFrom basketOwns 0 state.baskets ++ ownedFrom sessionOwns 0 state.opens

/-- Sessions that were rejected, with or without an HPACK context. -/
def Rejected (state : Sessions) (left : List Owned) : Prop :=
  ∀ owned ∈ left, ∃ i, state.attempts[i]? = some MadeSession.rejected ∧
    (owned = .part i .session ∨ owned = .part i .hpackCtx)

/-- What is held belongs to a basket or a session, or is left of a rejected
one. -/
def Balanced (state : Sessions) : Prop :=
  ∃ held left, heldAfter [] state.acts = some held ∧ held.Perm (state.owned ++ left) ∧
    Rejected state left

/-- What a run keeps: the session of a basket was made, and may be closed. -/
structure SessionsInv (state : Sessions) : Prop where
  balanced : Balanced state
  made : ∀ b held i, state.basketAt b = some held → held.session = some i →
    (∃ opened, state.attempts[i]? = some (.opened opened)) ∨ state.attempts[i]? = some .closed

section Balance

variable {state : Sessions} {b i : Nat} {held : HeldBasket} {opened : OpenSession}

theorem part_injective (i : Nat) : Function.Injective (Owned.part i) := fun _ _ h => by
  cases h
  rfl

theorem sessionAt_eq (state : Sessions) (i : Nat) :
    state.sessionAt i = state.attempts[i]?.bind MadeSession.open? := by
  rw [Sessions.sessionAt, Sessions.opens, List.getElem?_map]
  cases state.attempts[i]? with
  | none => rfl
  | some attempt => rfl

theorem sessionAt_eq_some :
    state.sessionAt i = some opened ↔ state.attempts[i]? = some (.opened opened) := by
  rw [sessionAt_eq]
  cases state.attempts[i]? with
  | none => simp
  | some attempt => cases attempt <;> simp [MadeSession.open?]

/-- A step that changes a part of what is owned. -/
theorem Balanced.step (h : Balanced state) {after : Sessions} {acts : List (Act Owned)}
    (part part' left : List Owned) {middle beside : List Owned}
    (hacts : after.acts = state.acts ++ acts)
    (howned : state.owned.Perm (part ++ beside)) (hpart : heldAfter part acts = some middle)
    (hmiddle : middle.Perm (part' ++ left)) (hafter : after.owned.Perm (part' ++ beside))
    (hkept : ∀ j : Nat, state.attempts[j]? = some MadeSession.rejected →
      after.attempts[j]? = some MadeSession.rejected)
    (hleft : Rejected after left) : Balanced after := by
  obtain ⟨held, before, hheld, hperm, hbefore⟩ := h
  have hsplit : held.Perm (part ++ (beside ++ before)) := by
    rw [← List.append_assoc]
    exact hperm.trans (howned.append_right _)
  obtain ⟨held', hheld', hperm'⟩ := heldAfter_step hheld hsplit hpart
  refine ⟨held', left ++ before, hacts ▸ hheld', (hperm'.trans (hmiddle.append_right _)).trans ?_,
    ?_⟩
  · -- what is left moves behind what is owned
    have hmove : ((part' ++ left) ++ (beside ++ before)).Perm
        ((part' ++ beside) ++ (left ++ before)) := by
      rw [List.append_assoc, List.append_assoc, ← List.append_assoc left,
        ← List.append_assoc beside]
      exact (List.perm_append_comm.append_right _).append_left _
    exact hmove.trans (hafter.symm.append_right _)
  · intro owned hmem
    rcases List.mem_append.mp hmem with hmem | hmem
    · exact hleft owned hmem
    · obtain ⟨j, hj, hpart⟩ := hbefore owned hmem
      exact ⟨j, hkept j hj, hpart⟩

theorem rejected_nil : Rejected state [] := nofun

theorem rejected_bare {left : List Resource} (h : Bare left)
    (hrejected : left ≠ [] → state.attempts[i]? = some MadeSession.rejected) :
    Rejected state (left.map (.part i)) := by
  intro owned hmem
  obtain ⟨resource, hresource, rfl⟩ := List.mem_map.mp hmem
  refine ⟨i, hrejected (List.ne_nil_of_mem hresource), ?_⟩
  rcases h with rfl | rfl | rfl
  · cases hresource
  · rw [List.mem_singleton.mp hresource]
    exact .inl rfl
  · rcases List.mem_cons.mp hresource with rfl | hresource
    · exact .inr rfl
    · rw [List.mem_singleton.mp hresource]
      exact .inl rfl

/-- A basket that is there, and the rest. -/
theorem owned_basket (h : state.basketAt b = some held) :
    state.owned.Perm ([Owned.basket b] ++
      (ownedFrom basketOwns 0 (state.baskets.set b none) ++
        ownedFrom sessionOwns 0 state.opens)) := by
  rw [← List.append_assoc]
  have hremove := ownedFrom_remove (f := basketOwns) (n := 0) h
  rw [Nat.zero_add] at hremove
  exact hremove.append_right _

/-- A session that is open, and the rest. -/
theorem owned_session (h : state.sessionAt i = some opened) :
    state.owned.Perm (opened.session.resources.map (.part i) ++
      (ownedFrom basketOwns 0 state.baskets ++
        ownedFrom sessionOwns 0 (state.opens.set i none))) := by
  have hremove := ownedFrom_remove (f := sessionOwns) (n := 0) h
  rw [Nat.zero_add] at hremove
  refine (hremove.append_left _).trans ?_
  rw [← List.append_assoc, ← List.append_assoc]
  exact List.perm_append_comm.append_right _

/-- A basket may change and is still owned. -/
theorem owned_replace (h : state.basketAt b = some held) (later : HeldBasket) :
    ownedFrom basketOwns 0 (state.baskets.set b (some later)) =
      ownedFrom basketOwns 0 state.baskets :=
  ownedFrom_replace h rfl

theorem session_mem_owned (hopened : state.sessionAt i = some opened) {resource : Resource}
    (hmem : resource ∈ opened.session.resources) : Owned.part i resource ∈ state.owned := by
  refine List.mem_append_right _ (mem_ownedFrom.mpr ⟨i, opened, hopened, ?_⟩)
  rw [Nat.zero_add]
  exact List.mem_map_of_mem hmem

theorem basket_mem_owned : Owned.basket b ∈ state.owned ↔ state.basketAt b ≠ none := by
  rw [Sessions.owned, List.mem_append, mem_ownedFrom, mem_ownedFrom, Option.ne_none_iff_exists']
  constructor
  · rintro (⟨j, basket, hbasket, hmem⟩ | ⟨j, opened, -, hmem⟩)
    · cases List.mem_singleton.mp hmem
      rw [Nat.zero_add]
      exact ⟨basket, hbasket⟩
    · obtain ⟨resource, -, hpart⟩ := List.mem_map.mp hmem
      cases hpart
  · rintro ⟨basket, hbasket⟩
    refine .inl ⟨b, basket, hbasket, ?_⟩
    rw [Nat.zero_add]
    exact List.mem_singleton_self _

/-- There is no part of a session that is neither open nor rejected. -/
theorem part_notMem (hopen : ∀ opened, state.attempts[i]? ≠ some (.opened opened))
    (hrejected : state.attempts[i]? ≠ some .rejected) {left : List Owned}
    (hleft : Rejected state left) (resource : Resource) :
    Owned.part i resource ∉ state.owned ++ left := by
  intro hmem
  rcases List.mem_append.mp hmem with howned | hpart
  · rcases List.mem_append.mp howned with hbasket | hsession
    · obtain ⟨j, held, -, hpart⟩ := mem_ownedFrom.mp hbasket
      cases List.mem_singleton.mp hpart
    · obtain ⟨j, opened, hopened, hpart⟩ := mem_ownedFrom.mp hsession
      obtain ⟨other, -, heq⟩ := List.mem_map.mp hpart
      rw [Nat.zero_add] at heq
      cases heq
      exact hopen opened (sessionAt_eq_some.mp hopened)
  · obtain ⟨j, hj, heq | heq⟩ := hleft _ hpart
    · cases heq
      exact hrejected hj
    · cases heq
      exact hrejected hj

/-! ### Baskets and sessions -/

theorem basketAt_set (hbasket : state.basketAt b = some held) (later : Option HeldBasket)
    (c : Nat) :
    (state.baskets.set b later)[c]?.join = if c = b then later else state.basketAt c := by
  have hlt : b < state.baskets.length := by
    by_contra hge
    rw [Sessions.basketAt, List.getElem?_eq_none (Nat.not_lt.mp hge)] at hbasket
    cases hbasket
  rw [List.getElem?_set]
  by_cases hc : b = c
  · subst hc
    rw [if_pos rfl, if_pos hlt, if_pos rfl]
    rfl
  · rw [if_neg hc, if_neg (Ne.symm hc)]
    rfl

theorem SessionsInv.buildBasket (h : SessionsInv state) (basket : SetupBasket) :
    SessionsInv (state.buildBasket basket) where
  balanced := by
    have howned : state.owned.Perm ([] ++ state.owned) := .refl _
    refine h.balanced.step [] [.basket state.baskets.length] [] rfl howned rfl (.refl _) ?_
      (fun _ hj => hj) rejected_nil
    rw [Sessions.owned, Sessions.buildBasket, ownedFrom_append, Nat.zero_add]
    show ((ownedFrom basketOwns 0 state.baskets ++ [Owned.basket state.baskets.length]) ++ _).Perm _
    rw [Sessions.owned, ← List.append_assoc]
    exact List.perm_append_comm.append_right _
  made := by
    intro c held i hheld hsession
    rw [Sessions.basketAt, Sessions.buildBasket, List.getElem?_append] at hheld
    split at hheld
    · exact h.made c held i hheld hsession
    · rw [List.getElem?_singleton] at hheld
      split at hheld
      · cases hheld
        cases hsession
      · cases hheld

/-- A basket changes, and its new session, if it has one, was made. -/
theorem SessionsInv.changed (h : SessionsInv state) (hbasket : state.basketAt b = some held)
    {acts : List (Act Owned)} {later : HeldBasket} {left : List Owned} {kept : List Owned}
    (hheld : heldAfter [] state.acts = some kept) (hperm : kept.Perm (state.owned ++ left))
    (hleft : Rejected state left) (hacts : heldAfter kept acts = some kept)
    (hlater : ∀ i, later.session = some i →
      (∃ opened, state.attempts[i]? = some (.opened opened)) ∨
        state.attempts[i]? = some .closed) :
    SessionsInv { state with
      acts := state.acts ++ acts
      baskets := state.baskets.set b (some later) } where
  balanced := by
    refine ⟨kept, left, heldAfter_seq hheld hacts, ?_, hleft⟩
    rw [Sessions.owned, owned_replace hbasket]
    exact hperm
  made := by
    intro c found i hfound hsession
    rw [Sessions.basketAt, basketAt_set hbasket] at hfound
    split at hfound
    · cases hfound
      exact hlater i hsession
    · exact h.made c found i hfound hsession

theorem SessionsInv.getSessionInfo (h : SessionsInv state) (b i : Nat) :
    SessionsInv (state.getSessionInfo b i) := by
  unfold Sessions.getSessionInfo
  split
  · rename_i held opened hbasket hopened
    obtain ⟨kept, left, hheld, hperm, hleft⟩ := h.balanced
    refine h.changed hbasket hheld hperm hleft
      (heldAfter_uses [Owned.basket b, Owned.part i .session] ?_) ?_
    · intro owned hmem
      refine hperm.mem_iff.mpr (List.mem_append_left _ ?_)
      rcases List.mem_cons.mp hmem with rfl | hmem
      · refine basket_mem_owned.mpr ?_
        rw [hbasket]
        exact Option.some_ne_none held
      · rw [List.mem_singleton.mp hmem]
        exact session_mem_owned hopened (by simp [NewSession.resources])
    · intro j hj
      cases hj
      exact .inl ⟨opened, sessionAt_eq_some.mp hopened⟩
  · exact h

/-- A basket uses a session that is there. -/
theorem SessionsInv.useSession (h : SessionsInv state) (hthere : SessionThere state b)
    {after : HeldBasket → HeldBasket}
    (hafter : ∀ held i, (after held).session = some i → held.session = some i) :
    SessionsInv (state.useSession b after) := by
  unfold Sessions.useSession
  cases hbasket : state.basketAt b with
  | none => exact h
  | some held =>
    dsimp only
    cases hsession : held.session with
    | none => exact h
    | some i =>
      obtain ⟨opened, hopened⟩ := Option.ne_none_iff_exists'.mp (hthere held i hbasket hsession)
      obtain ⟨kept, left, hheld, hperm, hleft⟩ := h.balanced
      refine h.changed hbasket hheld hperm hleft
        (heldAfter_uses [Owned.basket b, Owned.part i .session] ?_) ?_
      · intro owned hmem
        refine hperm.mem_iff.mpr (List.mem_append_left _ ?_)
        rcases List.mem_cons.mp hmem with rfl | hmem
        · refine basket_mem_owned.mpr ?_
          rw [hbasket]
          exact Option.some_ne_none held
        · rw [List.mem_singleton.mp hmem]
          exact session_mem_owned hopened (by simp [NewSession.resources])
      · intro j hj
        exact h.made b held j hbasket (hafter held j hj)

/-- A basket does not use a session that was closed. -/
theorem SessionsInv.there (h : SessionsInv state) {after : HeldBasket → HeldBasket}
    (hsafe : (heldAfter [] (state.useSession b after).acts).isSome) : SessionThere state b := by
  intro held i hbasket hsession hgone
  rcases h.made b held i hbasket hsession with ⟨opened, hopened⟩ | hclosed
  · rw [sessionAt_eq_some.mpr hopened] at hgone
    cases hgone
  · obtain ⟨kept, left, hheld, hperm, hleft⟩ := h.balanced
    unfold Sessions.useSession at hsafe
    simp only [hbasket, hsession] at hsafe
    rw [heldAfter_append, hheld, Option.bind_some] at hsafe
    have hread := mem_of_heldAfter_uses [Owned.basket b, Owned.part i .session] hsafe
      (Owned.part i .session)
      (by simp)
    refine part_notMem (fun opened hopened => ?_) (fun hrejected => ?_) hleft .session
      (hperm.mem_iff.mp hread)
    · rw [hclosed] at hopened
      cases hopened
    · rw [hclosed] at hrejected
      cases hrejected

theorem SessionsInv.freeBasket (h : SessionsInv state) (b : Nat) :
    SessionsInv (state.freeBasket b) := by
  unfold Sessions.freeBasket
  cases hbasket : state.basketAt b with
  | none => exact h
  | some held =>
    constructor
    · refine h.balanced.step [.basket b] [] [] rfl (owned_basket hbasket) ?_ (List.Perm.refl [])
        (.refl _) (fun _ hj => hj) rejected_nil
      rw [heldAfter_release List.mem_cons_self, List.erase_cons_head]
      rfl
    · intro c found i hfound hsession
      rw [Sessions.basketAt, basketAt_set hbasket] at hfound
      split at hfound
      · cases hfound
      · exact h.made c found i hfound hsession

theorem SessionsInv.closeSession (h : SessionsInv state) (i : Nat) (error : Option Error) :
    SessionsInv (state.closeSession i error) := by
  unfold Sessions.closeSession
  cases hopened : state.sessionAt i with
  | none => exact h
  | some opened =>
    have hattempt := sessionAt_eq_some.mp hopened
    -- the other attempts are what they were
    have hother (j : Nat) : (state.attempts.set i .closed)[j]? =
        if j = i then some .closed else state.attempts[j]? := by
      rw [List.getElem?_set]
      by_cases hj : i = j
      · subst hj
        rw [if_pos rfl, if_pos (List.getElem?_eq_some_iff.mp hattempt).1, if_pos rfl]
      · rw [if_neg hj, if_neg (Ne.symm hj)]
    constructor
    · refine h.balanced.step _ [] [] rfl (owned_session hopened)
        (heldAfter_map (part_injective i) (closeSession_held opened.session error)) (.refl _)
        ?_ (fun j hj => ?_) rejected_nil
      · rw [Sessions.owned, Sessions.opens, List.map_set]
        exact .refl _
      · rw [hother, if_neg]
        · exact hj
        · rintro rfl
          rw [hattempt] at hj
          cases hj
    · intro c found j hfound hsession
      show (∃ opened, (state.attempts.set i .closed)[j]? = some (.opened opened)) ∨
        (state.attempts.set i .closed)[j]? = some .closed
      rw [hother]
      split
      · exact .inr rfl
      · exact h.made c found j hfound hsession

/-! ### Making a session -/

/-- What an attempt holds at its end is that of its session, or is left of
none. -/
theorem attempt_held {calls : SetupCalls} {basket : SetupBasket} {result : SetupResult}
    (hspec : AttemptSpec calls basket result) :
    ∃ left, Bare left ∧ (left ≠ [] → result.session = none) ∧
      heldAfter [] result.acts = some (result.session.elim [] NewSession.resources ++ left) := by
  cases hsession : result.session with
  | none =>
    obtain ⟨left, hleft, hbare, -⟩ := hspec.lost hsession
    exact ⟨left, hbare, fun _ => rfl, hleft⟩
  | some session =>
    refine ⟨[], bare_nil, fun hne => absurd rfl hne, ?_⟩
    rw [List.append_nil]
    exact (hspec.made session hsession).1

/-- The session that was made is the last one. -/
theorem owned_opens_settle (basket : SetupBasket) (result : SetupResult) :
    ownedFrom sessionOwns 0 (state.settle b basket result).opens =
      ownedFrom sessionOwns 0 state.opens ++
        (result.session.elim [] NewSession.resources).map (.part state.attempts.length) := by
  have hopens : (state.settle b basket result).opens =
      state.opens ++ [result.session.map fun session => ⟨session, b⟩] := by
    rw [Sessions.opens, Sessions.settle, List.map_append]
    cases result.session with
    | none => rfl
    | some session => rfl
  rw [hopens, ownedFrom_append, Nat.zero_add, Sessions.opens, List.length_map]
  cases result.session with
  | none => rfl
  | some session => exact congrArg (_ ++ ·) (List.append_nil _)

/-- An attempt adds a session, or what is left of one. -/
theorem SessionsInv.settle (h : SessionsInv state) {calls : SetupCalls} {result : SetupResult}
    (hbasket : state.basketAt b = some held) (hspec : AttemptSpec calls held.basket result) :
    SessionsInv (state.settle b held.basket result) := by
  have hnew : (state.attempts ++ [result.session.elim .rejected fun session =>
      MadeSession.opened ⟨session, b⟩])[state.attempts.length]? =
        some (result.session.elim .rejected fun session => .opened ⟨session, b⟩) := by
    rw [List.getElem?_append_right (Nat.le_refl _), Nat.sub_self]
    rfl
  have hold {j : Nat} {attempt : MadeSession} (hj : state.attempts[j]? = some attempt) :
      (state.attempts ++ [result.session.elim .rejected fun session =>
        MadeSession.opened ⟨session, b⟩])[j]? = some attempt := by
    rw [List.getElem?_append_left (List.getElem?_eq_some_iff.mp hj).1]
    exact hj
  obtain ⟨left, hbare, hrejected, hheld⟩ := attempt_held hspec
  have hacts := heldAfter_frame (heldAfter_map (part_injective state.attempts.length) hheld)
    [Owned.basket b]
  constructor
  · refine h.balanced.step [.basket b]
      ((result.session.elim [] NewSession.resources).map (.part state.attempts.length) ++
        [.basket b])
      (left.map (.part state.attempts.length)) rfl (owned_basket hbasket)
      ((heldAfter_use List.mem_cons_self).trans hacts) ?_ ?_ (fun _ hj => hold hj)
      (rejected_bare hbare fun hne => ?_)
    · rw [List.map_append, List.append_assoc, List.append_assoc]
      exact List.perm_append_comm.append_left _
    · rw [Sessions.owned, owned_opens_settle, Sessions.settle, owned_replace hbasket,
        ← List.append_assoc, List.append_assoc _ [Owned.basket b]]
      exact List.perm_append_comm.trans ((owned_basket hbasket).append_left _)
    · exact hnew.trans (by rw [hrejected hne, Option.elim_none])
  · intro c found i hfound hsession
    rw [Sessions.basketAt, Sessions.settle, basketAt_set hbasket] at hfound
    split at hfound
    · cases hfound
      obtain ⟨session, hsome, rfl⟩ := Option.map_eq_some_iff.mp hsession
      exact .inl ⟨⟨session, b⟩, hnew.trans (by rw [hsome, Option.elim_some])⟩
    · rcases h.made c found i hfound hsession with ⟨opened, hopened⟩ | hclosed
      · exact .inl ⟨opened, hold hopened⟩
      · exact .inr (hold hclosed)

theorem SessionsInv.createSession (h : SessionsInv state) {calls : SetupCalls}
    (hgiven : InTime state (.createSession b calls)) :
    SessionsInv (state.createSession b calls) := by
  unfold Sessions.createSession
  cases hbasket : state.basketAt b with
  | none => exact h
  | some held =>
    dsimp only
    cases hattempt : attemptSession calls held.basket with
    | none => exact h
    | some attempted =>
      rcases attemptSession_spec hattempt with ⟨result, rfl, hspec, -⟩ | ⟨acts, rfl, -, hasks,
        hmalloc⟩
      · exact h.settle hbasket hspec
      · rw [hgiven held hbasket hasks] at hmalloc
        cases hmalloc

/-- A `connInfo` that is not there is not written to. -/
theorem SessionsInv.given (h : SessionsInv state) {calls : SetupCalls}
    (hsafe : (heldAfter [] (state.createSession b calls).acts).isSome) :
    InTime state (.createSession b calls) := by
  intro held hbasket hasks
  by_contra hmalloc
  rw [Bool.not_eq_true] at hmalloc
  obtain ⟨acts, hcrashed⟩ := attemptSession_crashed hasks hmalloc
  have hnone : heldAfter [] acts = none := by
    rcases attemptSession_spec hcrashed with ⟨result, hreturned, -⟩ | ⟨acts', heq, hheld, -⟩
    · cases hreturned
    · cases heq
      exact hheld
  obtain ⟨kept, left, hheld, hperm, hleft⟩ := h.balanced
  unfold Sessions.createSession at hsafe
  simp only [hbasket, hcrashed] at hsafe
  rw [heldAfter_append, hheld, Option.bind_some, heldAfter_use] at hsafe
  · have hlast : state.attempts[state.attempts.length]? = none :=
      List.getElem?_eq_none (Nat.le_refl _)
    have halone : (heldAfter [] acts).isSome := by
      refine heldAfter_alone (part_injective state.attempts.length) (fun resource hmem => ?_) hsafe
      refine part_notMem (fun opened hopened => ?_) (fun hrejected => ?_) hleft resource
        (hperm.mem_iff.mp hmem)
      · rw [hlast] at hopened
        cases hopened
      · rw [hlast] at hrejected
        cases hrejected
    rw [hnone] at halone
    cases halone
  · refine hperm.mem_iff.mpr (List.mem_append_left _ (basket_mem_owned.mpr ?_))
    rw [hbasket]
    exact Option.some_ne_none held

/-- What `newSessionCallback` reads. -/
def ticketReads (i : Nat) (opened : OpenSession) : List Owned :=
  [.part i .ssl, .part i .connInfo, .basket opened.maker]

/-- A ticket in time finds all that the callback reads. -/
theorem SessionsInv.newSessionCallback (h : SessionsInv state)
    (htime : InTime state (.newSessionCallback i)) :
    SessionsInv (state.newSessionCallback i) := by
  unfold Sessions.newSessionCallback
  cases hopened : state.sessionAt i with
  | none => exact h
  | some opened =>
    dsimp only
    split
    · rename_i htls
      obtain ⟨kept, left, hheld, hperm, hleft⟩ := h.balanced
      have hbasket := basket_mem_owned.mpr (htime opened hopened htls)
      refine ⟨⟨kept, left, heldAfter_seq hheld (heldAfter_uses (ticketReads i opened) ?_),
        hperm, hleft⟩, h.made⟩
      intro owned hmem
      refine hperm.mem_iff.mpr (List.mem_append_left _ ?_)
      simp only [ticketReads, List.mem_cons, List.not_mem_nil, or_false] at hmem
      rcases hmem with rfl | rfl | rfl
      · exact session_mem_owned hopened (by simp [NewSession.resources, htls])
      · exact session_mem_owned hopened (by simp [NewSession.resources, htls])
      · exact hbasket
    · exact h

/-- A late ticket does not. -/
theorem SessionsInv.ticketInTime (h : SessionsInv state)
    (hsafe : (heldAfter [] (state.newSessionCallback i).acts).isSome) :
    InTime state (.newSessionCallback i) := by
  intro opened hopened htls
  obtain ⟨kept, left, hheld, hperm, hleft⟩ := h.balanced
  unfold Sessions.newSessionCallback at hsafe
  simp only [hopened, htls, if_true] at hsafe
  rw [heldAfter_append, hheld, Option.bind_some] at hsafe
  have hread := mem_of_heldAfter_uses (ticketReads i opened) hsafe (.basket opened.maker)
    (by simp [ticketReads])
  rcases List.mem_append.mp (hperm.mem_iff.mp hread) with howned | hrejected
  · exact basket_mem_owned.mp howned
  · obtain ⟨j, -, hpart | hpart⟩ := hleft _ hrejected
    · cases hpart
    · cases hpart

theorem SessionsInv.advance (h : SessionsInv state) {event : SessionEvent}
    (htime : InTime state event) : SessionsInv (stepSessions state event) := by
  cases event with
  | buildBasket basket => exact h.buildBasket basket
  | getSessionInfo b i => exact h.getSessionInfo b i
  | createSession b calls => exact h.createSession htime
  | registerStream b => exact h.useSession htime fun _ _ hsession => hsession
  | unregisterStream b => exact h.useSession htime fun _ _ hsession => hsession
  | prepareRetry b forceHttp11 => exact h.useSession htime fun _ _ => nofun
  | newSessionCallback i => exact h.newSessionCallback htime
  | closeSession i error => exact h.closeSession i error
  | freeBasket b => exact h.freeBasket b

/-- An event that leaves all well came in time. -/
theorem SessionsInv.inTime (h : SessionsInv state) {event : SessionEvent}
    (hsafe : (heldAfter [] (stepSessions state event).acts).isSome) : InTime state event := by
  cases event with
  | createSession b calls => exact h.given hsafe
  | registerStream b => exact h.there hsafe
  | unregisterStream b => exact h.there hsafe
  | prepareRetry b forceHttp11 => exact h.there hsafe
  | newSessionCallback i => exact h.ticketInTime hsafe
  | buildBasket basket => trivial
  | getSessionInfo b i => trivial
  | closeSession i error => trivial
  | freeBasket b => trivial

end Balance

/-! ## Every run -/

theorem acts_useSession (state : Sessions) (b : Nat) (after : HeldBasket → HeldBasket) :
    state.acts <+: (state.useSession b after).acts := by
  unfold Sessions.useSession
  split
  · exact List.prefix_refl _
  · split
    · exact List.prefix_refl _
    · exact List.prefix_append _ _

/-- The acts only get more. -/
theorem acts_stepSessions (state : Sessions) (event : SessionEvent) :
    state.acts <+: (stepSessions state event).acts := by
  cases event with
  | buildBasket basket => exact List.prefix_append _ _
  | getSessionInfo b i =>
    unfold stepSessions Sessions.getSessionInfo
    dsimp only
    split
    · exact List.prefix_append _ _
    · exact List.prefix_refl _
  | createSession b calls =>
    unfold stepSessions Sessions.createSession
    dsimp only
    split
    · exact List.prefix_refl _
    · split
      · exact List.prefix_refl _
      · exact List.prefix_append _ _
      · exact List.prefix_append _ _
  | registerStream b => exact acts_useSession state b _
  | unregisterStream b => exact acts_useSession state b _
  | prepareRetry b forceHttp11 => exact acts_useSession state b _
  | newSessionCallback i =>
    unfold stepSessions Sessions.newSessionCallback
    dsimp only
    split
    · exact List.prefix_refl _
    · split
      · exact List.prefix_append _ _
      · exact List.prefix_refl _
  | closeSession i error =>
    unfold stepSessions Sessions.closeSession
    dsimp only
    split
    · exact List.prefix_refl _
    · exact List.prefix_append _ _
  | freeBasket b =>
    unfold stepSessions Sessions.freeBasket
    dsimp only
    split
    · exact List.prefix_refl _
    · exact List.prefix_append _ _

theorem acts_run (state : Sessions) (events : List SessionEvent) :
    state.acts <+: (run stepSessions state events).acts := by
  induction events generalizing state with
  | nil => exact List.prefix_refl _
  | cons event events ih => exact (acts_stepSessions state event).trans (ih _)

/-- A run is safe if it was safe all along. -/
theorem isSome_take {events : List SessionEvent}
    (h : (heldAfter [] (runSessions events).acts).isSome) (n : Nat) :
    (heldAfter [] (runSessions (events.take n)).acts).isSome := by
  have hgrows := acts_run (runSessions (events.take n)) (events.drop n)
  rw [runSessions, ← run_append, List.take_append_drop] at hgrows
  obtain ⟨more, hmore⟩ := hgrows
  rw [runSessions, ← hmore] at h
  exact heldAfter_prefix h

theorem sessionsInv_nil : SessionsInv ⟨[], [], []⟩ where
  balanced := ⟨[], [], rfl, .refl _, rejected_nil⟩
  made b held i hbasket := by simp [Sessions.basketAt] at hbasket

/-- A ticket for a session whose first request is over. -/
example : heldAfter [] (runSessions [.buildBasket setupRequest, .createSession 0 (twoAddresses 0),
    .freeBasket 0, .newSessionCallback 0]).acts = none := by
  decide +kernel

/-- A reaper closes the session between the end of a stream and the retry. -/
example : heldAfter [] (runSessions [.buildBasket setupRequest, .createSession 0 (twoAddresses 0),
    .registerStream 0, .unregisterStream 0, .closeSession 0 none,
    .prepareRetry 0 false]).acts = none := by
  decide +kernel

end HttpRequestClient.Client.Setup
