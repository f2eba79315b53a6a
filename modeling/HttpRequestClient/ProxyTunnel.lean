import HttpRequestClient.Lib.Parts
import HttpRequestClient.SocketHandler
import Mathlib.Data.List.Infix

/-!
# Asking a proxy for a tunnel

What `connectToProxy` sends, and what it makes of the reply.

* `connectToProxy_sendCalls`: `sendCalls` are the calls of `send` that it makes.
* `sendsRequest_iff`: the whole request is sent, and nothing behind its
  buffer, if and only if its text is shorter than the buffer.  The length is
  not looked at.
* `verdict_iff`: the verdict is taken from texts anywhere in the first read,
  so it is that of the status line only as long as these texts are where the
  status line has them, and nowhere else.
* `verdict_usual_iff`: what remains of this when the first read holds the
  whole status of an HTTP/1.0 or HTTP/1.1 reply.
-/

namespace HttpRequestClient

open Parts

/-! ## The request -/

/-- The length argument of `send`, a `size_t`. -/
def SendCall.count (call : SendCall) : Nat := (call.requestLen % 0x10000000000000000).toNat

/-- The bytes that `send` takes, with what lies behind those the buffer was
filled with. -/
def SendCall.bytes (call : SendCall) (behind : Bytes) : Bytes :=
  (call.buffer ++ behind).take call.count

section Request

variable (net : Network) (basket : AnswerBasket) (host port : Bytes)

/-- One of the timeouts of the socket cannot be set. -/
def TimeoutsRefused : Prop :=
  net.setSocketSendTimeout basket.connectTimeoutInMilliseconds < 0 ∨
    net.setSocketReceiveTimeout basket.connectTimeoutInMilliseconds < 0

instance : Decidable (TimeoutsRefused net basket) := inferInstanceAs (Decidable (_ ∨ _))

/-- The calls of `send` that `connectToProxy` makes. -/
def sendCalls : List SendCall :=
  if TimeoutsRefused net basket then [] else [connectCall basket host port]

/-- The calls do not reach past the buffer, and send the request with the empty
line at its end.  A request that is too long is an error and is not sent. -/
structure SendsRequest (behind : Bytes) : Prop where
  whole : ∀ call ∈ sendCalls net basket host port,
    call.count ≤ CONNECT_REQUEST_SIZE ∧
      call.bytes behind = connectRequest basket host port ∧
      ascii "\r\n\r\n" <:+ call.bytes behind
  tooLong : CONNECT_REQUEST_SIZE < (connectRequest basket host port).length →
    sendCalls net basket host port = [] ∧ (connectToProxy net basket host port).2.error ≠ none

/-- `connectToProxy` has nothing else of `send` than the answers to these
calls. -/
theorem connectToProxy_sendCalls (send : SendCall → Int)
    (h : ∀ call ∈ sendCalls net basket host port, send call = net.send call) :
    connectToProxy { net with send := send } basket host port =
      connectToProxy net basket host port := by
  rw [connectToProxy, connectToProxy]
  by_cases hrefused : TimeoutsRefused net basket
  · have hrefused' := hrefused
    rw [TimeoutsRefused] at hrefused'
    simp only [if_pos hrefused']
  · have hsame : send (connectCall basket host port) = net.send (connectCall basket host port) := by
      apply h
      rw [sendCalls, if_neg hrefused]
      exact List.mem_singleton_self _
    simp only [hsame]

/-- The request ends with a line feed, behind an empty line. -/
theorem connectRequest_ends :
    ascii "\r\n\r\n" <:+ connectRequest basket host port ∧
      ∃ start, connectRequest basket host port = start ++ [10] := by
  have hends : ascii "Connection: keep-alive\r\n" ++ ascii "\r\n" =
      ascii "Connection: keep-alive" ++ ascii "\r\n\r\n" := by decide
  have hlast : ascii "\r\n\r\n" = ascii "\r\n\r" ++ [10] := by decide
  rw [connectRequest, List.append_assoc, hends, ← List.append_assoc]
  refine ⟨List.suffix_append _ _, ?_⟩
  rw [hlast, ← List.append_assoc]
  exact ⟨_, rfl⟩

theorem connectCall_count (h : (connectRequest basket host port).length < 0x80000000) :
    (connectCall basket host port).count = (connectRequest basket host port).length := by
  rw [SendCall.count, connectCall, snprintfReturn, if_pos h]
  dsimp only
  omega

/-- A request that fits its buffer is sent from there. -/
theorem connectCall_whole (behind : Bytes)
    (h : (connectRequest basket host port).length < CONNECT_REQUEST_SIZE) :
    (connectCall basket host port).count ≤ CONNECT_REQUEST_SIZE ∧
      (connectCall basket host port).bytes behind = connectRequest basket host port := by
  have hsize : CONNECT_REQUEST_SIZE = 1024 := rfl
  have hcount := connectCall_count basket host port (by omega)
  have hfits : snprintf CONNECT_REQUEST_SIZE (connectRequest basket host port) =
      connectRequest basket host port := by
    rw [snprintf, List.take_of_length_le (by omega)]
  refine ⟨by omega, ?_⟩
  rw [SendCall.bytes, hcount, connectCall]
  dsimp only
  rw [hfits, List.append_assoc]
  exact List.take_left

/-- A request that takes the place of its terminator is sent without its last
byte. -/
theorem connectCall_cut (behind : Bytes)
    (h : (connectRequest basket host port).length = CONNECT_REQUEST_SIZE) :
    (connectCall basket host port).bytes behind ≠ connectRequest basket host port := by
  intro hbytes
  have hsize : CONNECT_REQUEST_SIZE = 1024 := rfl
  have hcount := connectCall_count basket host port (by omega)
  obtain ⟨start, hstart⟩ := (connectRequest_ends basket host port).2
  have hlength := congrArg List.length hstart
  rw [List.length_append, List.length_singleton] at hlength
  have hcut : snprintf CONNECT_REQUEST_SIZE (connectRequest basket host port) = start := by
    rw [snprintf, hstart]
    exact List.take_left' (by omega)
  rw [SendCall.bytes, hcount, connectCall] at hbytes
  dsimp only at hbytes
  rw [hcut, List.take_left' (by rw [List.length_append, List.length_singleton, hlength]),
    hstart] at hbytes
  have hlast := List.append_cancel_left hbytes
  exact absurd hlast (by decide)

/-- A request that is sent as it should be is shorter than its buffer. -/
theorem sendsRequest_short {net : Network} {basket : AnswerBasket} {host port behind : Bytes}
    (hsends : SendsRequest net basket host port behind)
    (hset : ¬TimeoutsRefused net basket) :
    (connectRequest basket host port).length < CONNECT_REQUEST_SIZE := by
  have hone : sendCalls net basket host port = [connectCall basket host port] := by
    rw [sendCalls, if_neg hset]
  refine Nat.lt_of_not_le fun hle => ?_
  rcases Nat.lt_or_eq_of_le hle with hlong | hequal
  · have hnone := (hsends.tooLong hlong).1
    rw [hone] at hnone
    cases hnone
  · have hwhole := (hsends.whole _ (by rw [hone]; exact List.mem_singleton_self _)).2.1
    exact connectCall_cut basket host port behind hequal.symm hwhole

/-- The request is sent whole and from its buffer alone, if and only if it is
not sent at all or its text is shorter than the buffer. -/
theorem sendsRequest_iff (behind : Bytes) :
    SendsRequest net basket host port behind ↔
      TimeoutsRefused net basket ∨
        (connectRequest basket host port).length < CONNECT_REQUEST_SIZE := by
  by_cases hrefused : TimeoutsRefused net basket
  · have hnone : sendCalls net basket host port = [] := by rw [sendCalls, if_pos hrefused]
    refine iff_of_true ⟨fun call hcall => ?_, fun _ => ⟨hnone, ?_⟩⟩ (Or.inl hrefused)
    · rw [hnone] at hcall
      cases hcall
    · rw [TimeoutsRefused] at hrefused
      rw [connectToProxy, if_pos hrefused]
      exact Option.some_ne_none _
  · constructor
    · exact fun hsends => Or.inr (sendsRequest_short hsends hrefused)
    · rintro (hrefused' | hshort)
      · exact absurd hrefused' hrefused
      · obtain ⟨hcount, hbytes⟩ := connectCall_whole basket host port behind hshort
        refine ⟨fun call hcall => ?_, fun hlong => by omega⟩
        rw [sendCalls, if_neg hrefused, List.mem_singleton] at hcall
        subst hcall
        refine ⟨hcount, hbytes, ?_⟩
        rw [hbytes]
        exact (connectRequest_ends basket host port).1

end Request

/-- A request with as many credentials as the basket takes. -/
def authorizedRequest : AnswerBasket :=
  { proxiedRequest with
    proxy := { proxiedRequest.proxy with authorization := List.replicate 1023 97 } }

/-- The credentials alone fill the buffer. -/
theorem connect_request_overruns :
    ¬∀ (net : Network) (basket : AnswerBasket) (host port behind : Bytes),
      SendsRequest net basket host port behind := by
  intro h
  have hsends := h silentProxy authorizedRequest (ascii "example.com") (ascii "443") []
  exact absurd (sendsRequest_short hsends (by decide)) (by decide +kernel)

/-! ## The reply -/

/-- The number that three digits write. -/
def threeDigits (a b c : UInt8) : Option Nat :=
  if isdigit a ∧ isdigit b ∧ isdigit c then
    some ((a.toNat - 48) * 100 + (b.toNat - 48) * 10 + (c.toNat - 48))
  else none

/-- The status in a status line: a version, a space and three digits, at the
end or with a space behind them. -/
def statusOfLine (line : Bytes) : Option Nat :=
  if line.take 5 = ascii "HTTP/" then
    match line.drop 5 with
    | major :: point :: minor :: space :: a :: b :: c :: rest =>
      if isdigit major ∧ point = 46 ∧ isdigit minor ∧ space = 32 ∧ (rest.head?.getD 32) = 32 then
        threeDigits a b c
      else none
    | _ => none
  else none

/-- The status of a reply, by its first line. -/
def replyStatus (reply : Bytes) : Option Nat :=
  (cutPair 13 10 reply).bind fun (line, _) => statusOfLine line

/-- What the one `recv` gives of a reply. -/
def FirstRead (reply first : Bytes) : Prop :=
  first ≠ [] ∧ first <+: reply ∧ first.length ≤ PROXY_RESPONSE_SIZE - 1

/-- The text that `connectToProxy` looks for, of either version. -/
def Mentions (read : Bytes) (status : Bytes) : Prop :=
  strstr (cstr read) (ascii "HTTP/1.0 " ++ status) ∨
    strstr (cstr read) (ascii "HTTP/1.1 " ++ status)

instance (read status : Bytes) : Decidable (Mentions read status) :=
  inferInstanceAs (Decidable (_ ∨ _))

/-- The verdict is that of the status line: the tunnel is open for the status
200, and the credentials are refused for the status 407. -/
def RightVerdict (reply : Bytes) (verdict : Bool × AnswerBasket) : Prop :=
  (verdict.1 = true ↔ replyStatus reply = some 200) ∧
    (verdict.1 = false ∧ verdict.2.error = some ERR_PROXY_AUTHORIZATION_FAILED ↔
      replyStatus reply = some 407)

/-- The texts in the first read are those of the status. -/
structure TellsStatus (reply first : Bytes) : Prop where
  accepted : replyStatus reply = some 200 →
    Mentions first (ascii "200") ∧ ¬Mentions first (ascii "407")
  unauthorized : replyStatus reply = some 407 → Mentions first (ascii "407")
  other : replyStatus reply ≠ some 200 → replyStatus reply ≠ some 407 →
    ¬Mentions first (ascii "200") ∧ ¬Mentions first (ascii "407")

section Verdict

variable {net : Network} {basket : AnswerBasket} {host port reply first : Bytes}

/-- What the three outcomes depend on. -/
theorem connectToProxy_verdict (htimeouts : ¬TimeoutsRefused net basket)
    (hsent : net.send (connectCall basket host port) = (connectCall basket host port).requestLen)
    (hread : net.recv (PROXY_RESPONSE_SIZE - 1) = .ok first) (hne : first ≠ [])
    (hfit : first.length ≤ PROXY_RESPONSE_SIZE - 1) :
    ((connectToProxy net basket host port).1 = true ↔
        ¬Mentions first (ascii "407") ∧ Mentions first (ascii "200")) ∧
      ((connectToProxy net basket host port).1 = false ∧
        (connectToProxy net basket host port).2.error = some ERR_PROXY_AUTHORIZATION_FAILED ↔
        Mentions first (ascii "407")) := by
  have htimeouts' := htimeouts
  rw [TimeoutsRefused] at htimeouts'
  have hread' : first.take (PROXY_RESPONSE_SIZE - 1) = first := List.take_of_length_le hfit
  have hunauthorized : (strstr (cstr first) (ascii "HTTP/1.0 407") = true ∨
      strstr (cstr first) (ascii "HTTP/1.1 407") = true) ↔ Mentions first (ascii "407") := Iff.rfl
  have haccepted : (¬strstr (cstr first) (ascii "HTTP/1.0 200") = true ∧
      ¬strstr (cstr first) (ascii "HTTP/1.1 200") = true) ↔ ¬Mentions first (ascii "200") :=
    not_or.symm
  cases first with
  | nil => exact absurd rfl hne
  | cons byte rest =>
    rw [connectToProxy, if_neg htimeouts']
    dsimp only
    rw [if_neg (not_not.mpr hsent), hread]
    dsimp only
    rw [hread']
    simp only [hunauthorized, haccepted]
    by_cases hproxy : Mentions (byte :: rest) (ascii "407")
    · rw [if_pos hproxy]
      simp [hproxy]
    · rw [if_neg hproxy]
      by_cases hopen : Mentions (byte :: rest) (ascii "200")
      · rw [if_neg (not_not.mpr hopen)]
        simp [hproxy, hopen]
      · rw [if_pos hopen]
        have herror : ERR_PROXY_UNEXPECTED_RESPONSE ≠ ERR_PROXY_AUTHORIZATION_FAILED := by decide
        simp [hproxy, hopen, herror]

/-- What the texts of the first read have to say. -/
theorem tellsStatus_iff (reply first : Bytes) :
    ((¬Mentions first (ascii "407") ∧ Mentions first (ascii "200") ↔
        replyStatus reply = some 200) ∧
      (Mentions first (ascii "407") ↔ replyStatus reply = some 407)) ↔
      TellsStatus reply first := by
  constructor
  · rintro ⟨haccept, hproxy⟩
    refine ⟨fun hstatus => ?_, hproxy.mpr, fun hother hother' => ?_⟩
    · exact (haccept.mpr hstatus).symm
    · have hnot : ¬Mentions first (ascii "407") := fun hmentions => hother' (hproxy.mp hmentions)
      exact ⟨fun hmentions => hother (haccept.mp ⟨hnot, hmentions⟩), hnot⟩
  · rintro ⟨haccepted, hunauthorized, hother⟩
    by_cases haccept : replyStatus reply = some 200
    · obtain ⟨hmentions, hnot⟩ := haccepted haccept
      refine ⟨iff_of_true ⟨hnot, hmentions⟩ haccept, iff_of_false hnot fun hproxy => ?_⟩
      rw [haccept] at hproxy
      cases hproxy
    · by_cases hproxy : replyStatus reply = some 407
      · have hmentions := hunauthorized hproxy
        exact ⟨iff_of_false (fun hboth => hboth.1 hmentions) haccept, iff_of_true hmentions hproxy⟩
      · obtain ⟨hnone, hnot⟩ := hother haccept hproxy
        exact ⟨iff_of_false (fun hboth => hnone hboth.2) haccept, iff_of_false hnot hproxy⟩

/-- Whatever the reply and the length of the first read: the verdict is that of
the status line if and only if the texts in the first read are. -/
theorem verdict_iff (htimeouts : ¬TimeoutsRefused net basket)
    (hsent : net.send (connectCall basket host port) = (connectCall basket host port).requestLen)
    (hread : net.recv (PROXY_RESPONSE_SIZE - 1) = .ok first) (hfirst : FirstRead reply first) :
    RightVerdict reply (connectToProxy net basket host port) ↔ TellsStatus reply first := by
  obtain ⟨hopened, hrefused⟩ := connectToProxy_verdict htimeouts hsent hread hfirst.1 hfirst.2.2
  rw [RightVerdict, hopened, hrefused]
  exact tellsStatus_iff reply first

/-- A proxy with a reply that comes in one read. -/
def answeringProxy (read : Bytes) : Network :=
  { silentProxy with recv := fun _ => .ok read }

theorem answeringProxy_calls (read : Bytes) (call : SendCall) :
    (answeringProxy read).send call = call.requestLen ∧
      (answeringProxy read).recv (PROXY_RESPONSE_SIZE - 1) = .ok read ∧
      ¬TimeoutsRefused (answeringProxy read) proxiedRequest := by
  refine ⟨rfl, rfl, ?_⟩
  rintro (hsend | hreceive)
  · exact Int.lt_irrefl 0 hsend
  · exact Int.lt_irrefl 0 hreceive

def acceptingReply : Bytes := ascii "HTTP/1.1 200 Connection established\r\n\r\n"

theorem verdict_accepting :
    RightVerdict acceptingReply
      (connectToProxy (answeringProxy acceptingReply) proxiedRequest (ascii "example.com")
        (ascii "443")) := by
  obtain ⟨hsent, hread, htimeouts⟩ := answeringProxy_calls acceptingReply
    (connectCall proxiedRequest (ascii "example.com") (ascii "443"))
  refine (verdict_iff htimeouts hsent hread ⟨by decide, List.prefix_rfl, by decide⟩).mpr
    ⟨fun _ => by decide +kernel, fun hproxy => ?_, fun hother => ?_⟩
  · exact absurd hproxy (by decide +kernel)
  · exact absurd (by decide +kernel) hother

/-- A refusal that speaks of the status 200. -/
def refusingReply : Bytes := ascii "HTTP/1.1 403 Forbidden\r\n\r\nno HTTP/1.1 200 for you"

/-- The tunnel that the proxy refuses is taken for open. -/
theorem verdict_refusing :
    ¬∀ (net : Network) (basket : AnswerBasket) (host port reply first : Bytes),
      ¬TimeoutsRefused net basket →
      net.send (connectCall basket host port) = (connectCall basket host port).requestLen →
      net.recv (PROXY_RESPONSE_SIZE - 1) = .ok first → FirstRead reply first →
      RightVerdict reply (connectToProxy net basket host port) := by
  intro h
  obtain ⟨hsent, hread, htimeouts⟩ := answeringProxy_calls refusingReply
    (connectCall proxiedRequest (ascii "example.com") (ascii "443"))
  have hright := (h (answeringProxy refusingReply) proxiedRequest (ascii "example.com")
    (ascii "443") refusingReply refusingReply htimeouts hsent hread
    ⟨by decide, List.prefix_rfl, by decide⟩).1
  have hopened : (connectToProxy (answeringProxy refusingReply) proxiedRequest
      (ascii "example.com") (ascii "443")).1 = true := by decide +kernel
  exact absurd (hright.mp hopened) (by decide +kernel)

/-! ## Usual replies -/

/-- The digits of a number are its own. -/
theorem threeDigits_injective {a b c a' b' c' : UInt8} {n : Nat} (h : threeDigits a b c = some n)
    (h' : threeDigits a' b' c' = some n) : [a, b, c] = [a', b', c'] := by
  rw [threeDigits] at h h'
  split at h
  · split at h'
    · rename_i hdigits hdigits'
      rw [Option.some.injEq] at h h'
      simp only [isdigit, Bool.decide_and, Bool.and_eq_true, decide_eq_true_eq,
        UInt8.le_iff_toNat_le] at hdigits hdigits'
      have hlow : (48 : UInt8).toNat = 48 ∧ (57 : UInt8).toNat = 57 := by decide
      rw [hlow.1, hlow.2] at hdigits hdigits'
      have ha : a.toNat = a'.toNat := by omega
      have hb : b.toNat = b'.toNat := by omega
      have hc : c.toNat = c'.toNat := by omega
      rw [UInt8.toNat_inj.mp ha, UInt8.toNat_inj.mp hb, UInt8.toNat_inj.mp hc]
    · cases h'
  · cases h

theorem statusOfLine_eq {line : Bytes} {n : Nat} (h : statusOfLine line = some n) :
    ∃ major minor a b c rest,
      line = ascii "HTTP/" ++ major :: 46 :: minor :: 32 :: a :: b :: c :: rest ∧
        threeDigits a b c = some n := by
  rw [statusOfLine] at h
  split at h
  · rename_i hname
    split at h
    · rename_i major point minor space a b c rest hdrop
      split at h
      · rename_i hparts
        obtain ⟨_, rfl, _, rfl, _⟩ := hparts
        refine ⟨major, minor, a, b, c, rest, ?_, h⟩
        rw [← hname, ← hdrop, List.take_append_drop]
      · cases h
    · cases h
  · cases h

/-- A text at the start of a read is found. -/
theorem strstr_prefix {read needle : Bytes} (hnul : 0 ∉ needle) (h : needle <+: read) :
    strstr (cstr read) needle = true := by
  obtain ⟨rest, rfl⟩ := h
  have hpos : ∀ c ∈ needle, decide (c ≠ 0) = true := by
    intro c hc
    rw [decide_eq_true_eq]
    rintro rfl
    exact hnul hc
  rw [cstr, List.takeWhile_append_of_pos hpos, strstr, List.any_eq_true]
  refine ⟨_, (List.mem_tails _ _).mpr List.suffix_rfl, ?_⟩
  exact List.isPrefixOf_iff_prefix.mpr (List.prefix_append _ _)

/-- A reply of HTTP/1.0 or HTTP/1.1. -/
def UsualVersion (reply : Bytes) : Prop :=
  ascii "HTTP/1.0 " <+: reply ∨ ascii "HTTP/1.1 " <+: reply

/-- The status of such a reply is found in a first read that holds it. -/
theorem mentions_of_status (hversion : UsualVersion reply) (hstarts : first <+: reply)
    (hlong : 12 ≤ first.length) {a b c : UInt8} {n : Nat} (hdigits : threeDigits a b c = some n)
    (hstatus : replyStatus reply = some n) : Mentions first [a, b, c] := by
  rw [replyStatus, Option.bind_eq_some_iff] at hstatus
  obtain ⟨⟨line, after⟩, hcut, hline⟩ := hstatus
  obtain ⟨major, minor, a', b', c', rest, rfl, hdigits'⟩ := statusOfLine_eq hline
  have hsame := threeDigits_injective hdigits' hdigits
  rw [List.cons.injEq, List.cons.injEq, List.cons.injEq] at hsame
  obtain ⟨rfl, rfl, rfl, _⟩ := hsame
  have hreply := (cutPair_eq_some hcut).2
  -- the first twelve bytes of the reply are those of the first read
  have hfound (version : Bytes) (hlength : version.length = 9) (hzero : 0 ∉ version)
      (hstart : version <+: reply) : strstr (cstr first) (version ++ [a', b', c']) = true := by
    have hneedle : version ++ [a', b', c'] <+: reply := by
      obtain ⟨more, hmore⟩ := hstart
      have hnine : version = ascii "HTTP/" ++ [major, 46, minor, 32] := by
        have htake := congrArg (List.take 9) (hmore.trans hreply)
        rw [List.take_left' hlength] at htake
        exact htake
      rw [hreply, hnine]
      exact ⟨rest ++ 13 :: 10 :: after, by simp⟩
    have hnul : 0 ∉ version ++ [a', b', c'] := by
      rw [threeDigits] at hdigits
      split at hdigits
      · rename_i hdigit
        rw [List.mem_append, not_or]
        refine ⟨hzero, fun hmem => ?_⟩
        have hnot : isdigit 0 = false := by decide
        simp only [List.mem_cons, List.not_mem_nil, or_false] at hmem
        rcases hmem with h | h | h <;> rw [← h, hnot] at hdigit <;> simp at hdigit
      · cases hdigits
    apply strstr_prefix hnul
    refine List.prefix_of_prefix_length_le hneedle hstarts ?_
    rw [List.length_append, hlength]
    exact hlong
  rcases hversion with hstart | hstart
  · exact Or.inl (hfound _ (by decide) (by decide) hstart)
  · exact Or.inr (hfound _ (by decide) (by decide) hstart)

/-- When the first read holds the status of an HTTP/1.0 or HTTP/1.1 reply, the
verdict is right if and only if no status text that is not its own stands
behind it in that read. -/
theorem verdict_usual_iff (htimeouts : ¬TimeoutsRefused net basket)
    (hsent : net.send (connectCall basket host port) = (connectCall basket host port).requestLen)
    (hread : net.recv (PROXY_RESPONSE_SIZE - 1) = .ok first) (hfirst : FirstRead reply first)
    (hversion : UsualVersion reply) (hlong : 12 ≤ first.length) :
    RightVerdict reply (connectToProxy net basket host port) ↔
      (replyStatus reply ≠ some 407 → ¬Mentions first (ascii "407")) ∧
        (replyStatus reply ≠ some 200 → replyStatus reply ≠ some 407 →
          ¬Mentions first (ascii "200")) := by
  have haccepted : replyStatus reply = some 200 → Mentions first (ascii "200") :=
    mentions_of_status hversion hfirst.2.1 hlong (by decide)
  have hunauthorized : replyStatus reply = some 407 → Mentions first (ascii "407") :=
    mentions_of_status hversion hfirst.2.1 hlong (by decide)
  obtain ⟨hopened, hrefused⟩ := connectToProxy_verdict htimeouts hsent hread hfirst.1 hfirst.2.2
  rw [RightVerdict, hopened, hrefused, tellsStatus_iff]
  constructor
  · intro htells
    refine ⟨fun hproxy => ?_, fun haccept hproxy => (htells.other haccept hproxy).1⟩
    by_cases haccept : replyStatus reply = some 200
    · exact (htells.accepted haccept).2
    · exact (htells.other haccept hproxy).2
  · rintro ⟨hproxy, haccept⟩
    refine ⟨fun hstatus => ⟨haccepted hstatus, hproxy ?_⟩, hunauthorized,
      fun hnot hnot' => ⟨haccept hnot hnot', hproxy hnot'⟩⟩
    rw [hstatus]
    decide

end Verdict

end HttpRequestClient
