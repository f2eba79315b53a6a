import HttpRequestClient.Http11.RequestBytes
import HttpRequestClient.Lib.Buffer

/-!
# The memory of a request

The string buffers of `utils/Common.c`, and the request builder of
`Http11RequestHandler.c` on top of them.  A `StrBuf` is an array that `realloc`
makes larger; when there is no memory the buffer is marked as failed and takes
nothing any more.  The builder looks at the mark of the request only, not at
that of the cookies, and goes on without a `Host` line when there is no memory
for the authority.

`buildHttp11Request_memory` says what is built for every way in which
allocations fail: nothing, or a message that can lack the last cookies and the
`Host` field; with memory enough, what the builder of `RequestBytes.lean` builds.
-/

namespace HttpRequestClient

open GrowBuffer

/-! ## String buffers -/

/-- Whether there was memory, for the calls of `malloc` and `realloc` in their
order.  There is behind the end. -/
abbrev Heap := List Bool

def Heap.alloc : Heap → Bool × Heap
  | [] => (true, [])
  | granted :: heap => (granted, heap)

theorem Heap.alloc_suffix {start heap : Heap} (h : heap <:+ start) : heap.alloc.2 <:+ start := by
  cases heap with
  | nil => exact h
  | cons granted heap => exact (List.suffix_cons granted heap).trans h

theorem Heap.false_mem {start heap : Heap} (h : heap <:+ start) (hfailed : heap.alloc.1 = false) :
    false ∈ start := by
  cases heap with
  | nil => cases hfailed
  | cons granted heap =>
    cases hfailed
    exact h.subset List.mem_cons_self

/-- The array has `cap` cells, `len` of them in use.  One more is there for the
NUL at the end of a string. -/
structure StrBuf where
  data : Bytes
  len : Nat
  failed : Bool
  room : len = 0 ∨ len < data.length

namespace StrBuf

def init : StrBuf := ⟨[], 0, false, Or.inl rfl⟩

def cap (sb : StrBuf) : Nat := sb.data.length

def contents (sb : StrBuf) : Bytes := sb.data.take sb.len

theorem length_contents (sb : StrBuf) : sb.contents.length = sb.len := by
  have hroom := sb.room
  rw [contents, List.length_take]
  omega

theorem room_grow (sb : StrBuf) (newCap : Nat) :
    sb.len = 0 ∨ sb.len < (grow 0 sb.data newCap).length := by
  have hroom := sb.room
  rw [grow, List.length_append]
  omega

end StrBuf

def sbReserve (sb : StrBuf) (extra : Nat) (heap : Heap) : StrBuf × Heap :=
  if sb.failed then (sb, heap)
  else if sb.len + extra + 1 ≤ sb.cap then (sb, heap)
  else
    let newCap := doubled (if sb.cap ≠ 0 then sb.cap else 1024) (sb.len + extra + 1)
    let (granted, heap) := heap.alloc
    if granted then (⟨grow 0 sb.data newCap, sb.len, false, sb.room_grow newCap⟩, heap)
    else ({ sb with failed := true }, heap)

/-- What a call of `sbReserve` leaves. -/
structure Reserved (start : Heap) (sb : StrBuf) (extra : Nat) (result : StrBuf × Heap) : Prop where
  len : result.1.len = sb.len
  contents : result.1.contents = sb.contents
  room : result.1.failed = false → sb.failed = false ∧ sb.len + extra < result.1.data.length
  blame : result.1.failed = true → sb.failed = true ∨ false ∈ start
  heap : result.2 <:+ start

theorem sbReserve_spec {start heap : Heap} (hheap : heap <:+ start) (sb : StrBuf) (extra : Nat) :
    Reserved start sb extra (sbReserve sb extra heap) := by
  unfold sbReserve
  split
  · rename_i hfailed
    exact ⟨rfl, rfl, fun h => (by rw [hfailed] at h; cases h), fun _ => Or.inl hfailed, hheap⟩
  · rename_i hok
    have hok : sb.failed = false := Bool.eq_false_iff.mpr hok
    split
    · rename_i hfits
      exact ⟨rfl, rfl, fun _ => ⟨hok, hfits⟩, fun h => Or.inl h, hheap⟩
    · have hle : sb.len + extra + 1 ≤
          doubled (if sb.cap ≠ 0 then sb.cap else 1024) (sb.len + extra + 1) := by
        refine (le_doubled ?_ _).1
        split <;> omega
      generalize doubled (if sb.cap ≠ 0 then sb.cap else 1024) (sb.len + extra + 1) = newCap at hle
      dsimp only
      cases hgranted : heap.alloc.1 with
      | true =>
        rw [if_pos rfl]
        have hroom := sb.room
        have hfront : (grow 0 sb.data newCap).take sb.len = sb.data.take sb.len :=
          List.take_append_of_le_length (by omega)
        refine ⟨rfl, hfront, fun _ => ⟨hok, ?_⟩, fun h => (by cases h), Heap.alloc_suffix hheap⟩
        simp only [grow, List.length_append, List.length_replicate]
        omega
      | false =>
        rw [if_neg Bool.false_ne_true]
        exact ⟨rfl, rfl, fun h => (by cases h), fun _ => Or.inr (Heap.false_mem hheap hgranted),
          Heap.alloc_suffix hheap⟩

/-- The data that was reserved for fits, with the NUL behind it. -/
theorem sbAppend_room {sb : StrBuf} {s : Bytes} {heap : Heap}
    (hok : (sbReserve sb s.length heap).1.failed = false) :
    (sbReserve sb s.length heap).1.len + s.length = 0 ∨
      (sbReserve sb s.length heap).1.len + s.length <
        (copyAt (sbReserve sb s.length heap).1.data (sbReserve sb s.length heap).1.len
          s).length := by
  have hreserved := sbReserve_spec (List.suffix_refl heap) sb s.length
  obtain ⟨-, hroom⟩ := hreserved.room hok
  rw [length_copyAt (by rw [hreserved.len]; omega), hreserved.len]
  exact Or.inr hroom

/-- Without memory the buffer stays as it is. -/
def sbAppend (sb : StrBuf) (s : Bytes) (heap : Heap) : StrBuf × Heap :=
  let reserved := sbReserve sb s.length heap
  if hok : reserved.1.failed = false then
    (⟨copyAt reserved.1.data reserved.1.len s, reserved.1.len + s.length, false,
      sbAppend_room hok⟩, reserved.2)
  else reserved

/-- Calls of `sbAppendStr` behind each other. -/
def sbAppends (sb : StrBuf) : List Bytes → Heap → StrBuf × Heap
  | [], heap => (sb, heap)
  | s :: pieces, heap => sbAppends (sbAppend sb s heap).1 pieces (sbAppend sb s heap).2

/-- A buffer has the text, or the part of it that was appended before an
allocation failed. -/
structure Built (start : Heap) (text : Bytes) (result : StrBuf × Heap) : Prop where
  whole : result.1.failed = false → result.1.contents = text
  part : result.1.contents <+: text
  blame : result.1.failed = true → false ∈ start
  heap : result.2 <:+ start

theorem Built.init (start : Heap) : Built start [] (StrBuf.init, start) :=
  ⟨fun _ => rfl, List.nil_prefix, fun h => (by cases h), List.suffix_refl start⟩

theorem sbAppend_built {start heap : Heap} {text : Bytes} {sb : StrBuf}
    (h : Built start text (sb, heap)) (s : Bytes) :
    Built start (text ++ s) (sbAppend sb s heap) := by
  have hreserved : Reserved start sb s.length (sbReserve sb s.length heap) :=
    sbReserve_spec h.heap sb s.length
  by_cases hok : (sbReserve sb s.length heap).1.failed = false
  · obtain ⟨hbefore, hroom⟩ := hreserved.room hok
    have hcontents : (sbAppend sb s heap).1.contents = text ++ s := by
      rw [sbAppend]
      simp only [dif_pos hok]
      rw [StrBuf.contents, take_copyAt (by rw [hreserved.len]; omega)]
      exact congrArg (· ++ s) (hreserved.contents.trans (h.whole hbefore))
    refine ⟨fun _ => hcontents, hcontents ▸ List.prefix_refl _, fun hno => ?_, ?_⟩
    · rw [sbAppend] at hno
      simp only [dif_pos hok] at hno
      cases hno
    · rw [sbAppend]
      simp only [dif_pos hok]
      exact hreserved.heap
  · rw [sbAppend]
    simp only [dif_neg hok]
    have hfailed := hok
    have hfailed := Bool.of_not_eq_false hfailed
    refine ⟨fun hok => ?_, ?_, fun _ => (hreserved.blame hfailed).elim h.blame id, hreserved.heap⟩
    · rw [hfailed] at hok
      cases hok
    · rw [hreserved.contents]
      exact h.part.trans (List.prefix_append text s)

theorem sbAppends_built {start heap : Heap} {text : Bytes} {sb : StrBuf}
    (h : Built start text (sb, heap)) (pieces : List Bytes) :
    Built start (text ++ pieces.flatten) (sbAppends sb pieces heap) := by
  induction pieces generalizing text sb heap with
  | nil =>
    rw [List.flatten_nil, List.append_nil]
    exact h
  | cons s pieces ih =>
    rw [List.flatten_cons, ← List.append_assoc, sbAppends]
    exact ih (sbAppend_built h s)

theorem Built.with_heap {start heap later : Heap} {text : Bytes} {sb : StrBuf}
    (h : Built start text (sb, heap)) (hlater : later <:+ start) : Built start text (sb, later) :=
  ⟨h.whole, h.part, h.blame, hlater⟩

theorem Built.failed_or_eq {start : Heap} {text : Bytes} {result : StrBuf × Heap}
    (h : Built start text result) : result.1.failed = true ∨ result.1.contents = text := by
  cases hfailed : result.1.failed with
  | true => exact Or.inl rfl
  | false => exact Or.inr (h.whole hfailed)

/-- A failed buffer takes nothing. -/
theorem sbAppends_failed {sb : StrBuf} (h : sb.failed = true) (pieces : List Bytes) (heap : Heap) :
    sbAppends sb pieces heap = (sb, heap) := by
  have hreserve (s : Bytes) : sbReserve sb s.length heap = (sb, heap) := by
    rw [sbReserve, if_pos h]
  induction pieces with
  | nil => rfl
  | cons s pieces ih =>
    have happend : sbAppend sb s heap = (sb, heap) := by
      rw [sbAppend]
      simp only [hreserve]
      rw [dif_neg (by rw [h]; exact Bool.noConfusion)]
    rw [sbAppends, happend]
    exact ih

/-! ## Building a request -/

namespace Http11

open Hpack Rfc9112

namespace Memory

def appendRequestLine (sb : StrBuf) (basket : Http11Basket) (target : Bytes) (heap : Heap) :
    StrBuf × Heap :=
  let line := basket.method.name ++ ascii " " ++ target ++ ascii " HTTP/1.1\r\n"
  sbAppend sb ((snprintf REQUEST_LINE_SIZE line).take line.length) heap

/-- What the loop over the headers carries. -/
structure HeaderBuffers where
  sb : StrBuf
  cookies : StrBuf
  hostEmitted : Bool
  heap : Heap

/-- One round of `appendHeaders`. -/
def appendHeader (buffers : HeaderBuffers) (h : RequestHeader) : HeaderBuffers :=
  if h.isPseudo then
    let isAuthority := strcasecmp h.name (ascii ":authority") = 0
    if isAuthority ∧ ¬buffers.hostEmitted then
      let (sb, heap) := sbAppends buffers.sb [ascii "Host: ", h.value, ascii "\r\n"] buffers.heap
      { buffers with sb := sb, hostEmitted := true, heap := heap }
    else buffers
  else if strcasecmp h.name (ascii "cookie") = 0 then
    let separator := if buffers.cookies.len > 0 then [ascii "; "] else []
    let (cookies, heap) := sbAppends buffers.cookies (separator ++ [h.value]) buffers.heap
    { buffers with cookies := cookies, heap := heap }
  else
    let (sb, heap) := sbAppends buffers.sb [h.name, ascii ": ", h.value, ascii "\r\n"] buffers.heap
    { buffers with
      sb := sb
      hostEmitted := buffers.hostEmitted || strcasecmp h.name (ascii "host") = 0
      heap := heap }

def appendHeaders (sb : StrBuf) (headers : List RequestHeader) (heap : Heap) : HeaderBuffers :=
  headers.foldl appendHeader ⟨sb, StrBuf.init, false, heap⟩

/-- There is no line without memory for the authority. -/
def appendHostFallback (lib : AddressLib) (sb : StrBuf) (url : URLComponents) (heap : Heap) :
    StrBuf × Heap :=
  let (granted, heap) := heap.alloc
  if granted then
    sbAppends sb [ascii "Host: ", getHeaderAuthority lib url.host url.port, ascii "\r\n"] heap
  else (sb, heap)

def appendCookieHeader (sb cookies : StrBuf) (heap : Heap) : StrBuf × Heap :=
  if cookies.len = 0 then (sb, heap)
  else sbAppends sb [ascii "Cookie: ", cookies.contents, ascii "\r\n"] heap

def appendProxyAuthorization (sb : StrBuf) (basket : Http11Basket) (heap : Heap) :
    StrBuf × Heap :=
  let hasCredentials := basket.proxyAuthorization.length > 0
  if ¬basket.plainProxy ∨ ¬hasCredentials then (sb, heap)
  else sbAppends sb [ascii "Proxy-Authorization: ", basket.proxyAuthorization, ascii "\r\n"] heap

/-- The bytes of the request, or null. -/
def buildHttp11Request (lib : AddressLib) (basket : Http11Basket) (heap : Heap) :
    Option Bytes × Heap :=
  let target := snprintf TARGET_SIZE basket.target
  let (sb, heap) := appendRequestLine StrBuf.init basket target heap
  let buffers := appendHeaders sb basket.request.headers heap
  let (sb, heap) :=
    if buffers.hostEmitted then (buffers.sb, buffers.heap)
    else appendHostFallback lib buffers.sb basket.request.urlComponents buffers.heap
  let (sb, heap) := appendCookieHeader sb buffers.cookies heap
  let (sb, heap) := appendProxyAuthorization sb basket heap
  let (sb, heap) := sbAppends sb (ascii "\r\n" :: basket.request.payload.toList) heap
  (if sb.failed then none else some sb.contents, heap)

end Memory

/-! ## What is built -/

/-- The buffers of the loop, beside those with memory enough. -/
structure Tracks (start : Heap) (whole : HeaderBuffers) (buffers : Memory.HeaderBuffers) :
    Prop where
  sb : Built start whole.sb (buffers.sb, buffers.heap)
  cookies : Built start whole.cookies (buffers.cookies, buffers.heap)
  hostEmitted : buffers.hostEmitted = whole.hostEmitted

/-- The cookies of one more header. -/
theorem Tracks.cookie {start : Heap} {whole : HeaderBuffers} {buffers : Memory.HeaderBuffers}
    (h : Tracks start whole buffers) (value : Bytes) :
    Built start (addCookie whole.cookies value)
      (sbAppends buffers.cookies
        ((if buffers.cookies.len > 0 then [ascii "; "] else []) ++ [value]) buffers.heap) := by
  rcases h.cookies.failed_or_eq with hfailed | hsame
  · rw [sbAppends_failed hfailed]
    have hmore : whole.cookies <+: addCookie whole.cookies value := by
      rw [addCookie]
      split
      · rw [List.append_assoc]
        exact List.prefix_append _ _
      · exact List.prefix_append _ _
    exact ⟨fun hok => (by rw [hfailed] at hok; cases hok), h.cookies.part.trans hmore,
      h.cookies.blame, h.cookies.heap⟩
  · have hlen : buffers.cookies.len = whole.cookies.length := by
      rw [← StrBuf.length_contents]
      exact congrArg List.length hsame
    have hpieces := sbAppends_built h.cookies
      ((if buffers.cookies.len > 0 then [ascii "; "] else []) ++ [value])
    have htext : whole.cookies ++
        ((if buffers.cookies.len > 0 then [ascii "; "] else []) ++ [value]).flatten =
          addCookie whole.cookies value := by
      rw [addCookie, hlen]
      split <;> simp
    rw [htext] at hpieces
    exact hpieces

theorem appendHeader_tracks {start : Heap} {whole : HeaderBuffers}
    {buffers : Memory.HeaderBuffers} (h : Tracks start whole buffers) (header : RequestHeader) :
    Tracks start (appendHeader whole header) (Memory.appendHeader buffers header) := by
  unfold appendHeader Memory.appendHeader
  simp only [h.hostEmitted]
  split
  · split
    · have hline := sbAppends_built h.sb [ascii "Host: ", header.value, ascii "\r\n"]
      refine ⟨?_, h.cookies.with_heap hline.heap, rfl⟩
      simpa using hline
    · exact h
  · split
    · have hcookies := h.cookie header.value
      exact ⟨h.sb.with_heap hcookies.heap, hcookies, rfl⟩
    · have hline := sbAppends_built h.sb [header.name, ascii ": ", header.value, ascii "\r\n"]
      refine ⟨?_, h.cookies.with_heap hline.heap, rfl⟩
      simpa using hline

theorem appendHeaders_tracks {start heap : Heap} {text : Bytes} {sb : StrBuf}
    (h : Built start text (sb, heap)) (headers : List RequestHeader) :
    Tracks start (appendHeaders text headers) (Memory.appendHeaders sb headers heap) := by
  have hstart : Tracks start ⟨text, [], false⟩ ⟨sb, StrBuf.init, false, heap⟩ :=
    ⟨h, (Built.init start).with_heap h.heap, rfl⟩
  unfold appendHeaders Memory.appendHeaders
  generalize (⟨text, [], false⟩ : HeaderBuffers) = whole at hstart
  generalize (⟨sb, StrBuf.init, false, heap⟩ : Memory.HeaderBuffers) = buffers at hstart
  induction headers generalizing whole buffers with
  | nil => exact hstart
  | cons header headers ih => exact ih _ _ (appendHeader_tracks hstart header)

/-- The message with some `Host` field and some cookies. -/
def messageWith (lib : AddressLib) (basket : Http11Basket) (host : List HeaderField)
    (cookies : Bytes) : RequestMessage :=
  { sentRequest lib basket with
    target := snprintf TARGET_SIZE basket.target
    fields := namedFields false basket.request.headers ++ host ++
      (if cookies = [] then [] else [⟨ascii "Cookie", cookies⟩]) ++
      (if basket.plainProxy ∧ basket.proxyAuthorization ≠ [] then
        [⟨ascii "Proxy-Authorization", basket.proxyAuthorization⟩]
      else []) }

/-- The `Host` field that the headers lack. -/
def fallbackFields (lib : AddressLib) (basket : Http11Basket) : List HeaderField :=
  if hasHostField basket.request.headers then []
  else [⟨ascii "Host", getHeaderAuthority lib basket.request.urlComponents.host
    basket.request.urlComponents.port⟩]

theorem messageWith_whole (lib : AddressLib) (basket : Http11Basket) :
    (messageWith lib basket (fallbackFields lib basket)
      (mergedCookies basket.request.headers)).wire = buildHttp11Request lib basket := by
  rw [buildHttp11Request_wire]
  rfl

theorem appendRequestLine_built {start : Heap} (basket : Http11Basket) (target : Bytes) :
    Built start (appendRequestLine [] basket target)
      (Memory.appendRequestLine StrBuf.init basket target start) :=
  sbAppend_built (Built.init start) _

/-- The field line that three calls append. -/
theorem sbAppends_field {start heap : Heap} {text separated : Bytes} {sb : StrBuf}
    (h : Built start text (sb, heap)) (field : HeaderField)
    (hname : separated = field.name ++ ascii ": ") :
    Built start (text ++ fieldsWire [field])
      (sbAppends sb [separated, field.value, ascii "\r\n"] heap) := by
  have hpieces := sbAppends_built h [separated, field.value, ascii "\r\n"]
  have hline : [separated, field.value, ascii "\r\n"].flatten = fieldsWire [field] := by
    have hwire := append_fieldLine [] field.name field.value
    rw [List.nil_append, List.nil_append] at hwire
    rw [fieldsWire_singleton, ← hwire, hname]
    simp
  rw [hline] at hpieces
  exact hpieces

theorem appendHostFallback_built {start heap : Heap} {text : Bytes} {sb : StrBuf}
    (h : Built start text (sb, heap)) (lib : AddressLib) (url : URLComponents) :
    ∃ host, (host = [⟨ascii "Host", getHeaderAuthority lib url.host url.port⟩] ∨
        host = [] ∧ false ∈ start) ∧
      Built start (text ++ fieldsWire host) (Memory.appendHostFallback lib sb url heap) := by
  unfold Memory.appendHostFallback
  dsimp only
  cases hgranted : heap.alloc.1 with
  | true =>
    rw [if_pos rfl]
    have hname : ascii "Host: " = ascii "Host" ++ ascii ": " := by decide
    exact ⟨_, Or.inl rfl, sbAppends_field (h.with_heap (Heap.alloc_suffix h.heap))
      ⟨ascii "Host", getHeaderAuthority lib url.host url.port⟩ hname⟩
  | false =>
    rw [if_neg Bool.false_ne_true]
    refine ⟨[], Or.inr ⟨rfl, Heap.false_mem h.heap hgranted⟩, ?_⟩
    rw [show fieldsWire [] = [] from rfl, List.append_nil]
    exact h.with_heap (Heap.alloc_suffix h.heap)

theorem appendCookieHeader_built {start heap : Heap} {text : Bytes} {sb : StrBuf}
    (h : Built start text (sb, heap)) (cookies : StrBuf) :
    Built start (text ++ fieldsWire
        (if cookies.contents = [] then [] else [⟨ascii "Cookie", cookies.contents⟩]))
      (Memory.appendCookieHeader sb cookies heap) := by
  unfold Memory.appendCookieHeader
  have hlen : cookies.len = 0 ↔ cookies.contents = [] := by
    rw [← List.length_eq_zero_iff, cookies.length_contents]
  by_cases hnil : cookies.contents = []
  · rw [if_pos hnil, if_pos (hlen.mpr hnil), show fieldsWire [] = [] from rfl, List.append_nil]
    exact h
  · have hname : ascii "Cookie: " = ascii "Cookie" ++ ascii ": " := by decide
    rw [if_neg hnil, if_neg (mt hlen.mp hnil)]
    exact sbAppends_field h ⟨ascii "Cookie", cookies.contents⟩ hname

theorem appendProxyAuthorization_built {start heap : Heap} {text : Bytes} {sb : StrBuf}
    (h : Built start text (sb, heap)) (basket : Http11Basket) :
    Built start (appendProxyAuthorization text basket)
      (Memory.appendProxyAuthorization sb basket heap) := by
  unfold appendProxyAuthorization Memory.appendProxyAuthorization
  dsimp only
  split
  · exact h
  · have hpieces := sbAppends_built h
      [ascii "Proxy-Authorization: ", basket.proxyAuthorization, ascii "\r\n"]
    simpa using hpieces

/-- The line of `Host` that there is, or the fallback. -/
theorem hostLine_built {start : Heap} (lib : AddressLib) (basket : Http11Basket) {text : Bytes}
    {buffers : Memory.HeaderBuffers} (h : Built start text (buffers.sb, buffers.heap))
    (hhost : buffers.hostEmitted = hasHostField basket.request.headers) :
    ∃ host, (host = fallbackFields lib basket ∨ host = [] ∧ false ∈ start) ∧
      Built start (text ++ fieldsWire host)
        (if buffers.hostEmitted then (buffers.sb, buffers.heap)
          else Memory.appendHostFallback lib buffers.sb basket.request.urlComponents
            buffers.heap) := by
  rw [hhost]
  unfold fallbackFields
  cases hasHostField basket.request.headers with
  | true =>
    rw [if_pos rfl, if_pos rfl]
    refine ⟨[], Or.inl rfl, ?_⟩
    rw [show fieldsWire [] = [] from rfl, List.append_nil]
    exact h
  | false =>
    rw [if_neg Bool.false_ne_true, if_neg Bool.false_ne_true]
    exact appendHostFallback_built h lib basket.request.urlComponents

/-- The request is built in its buffer with some `Host` field and some
cookies: those of the basket, or less when there is no memory. -/
theorem buildHttp11Request_built (lib : AddressLib) (basket : Http11Basket) (start : Heap) :
    ∃ (host : List HeaderField) (cookies : Bytes) (sb : StrBuf),
      (host = fallbackFields lib basket ∨ host = [] ∧ false ∈ start) ∧
      cookies <+: mergedCookies basket.request.headers ∧
      (cookies = mergedCookies basket.request.headers ∨ false ∈ start) ∧
      (sb.failed = false → sb.contents = (messageWith lib basket host cookies).wire) ∧
      (sb.failed = true → false ∈ start) ∧
      (Memory.buildHttp11Request lib basket start).1 =
        if sb.failed then none else some sb.contents := by
  have htarget : (snprintf TARGET_SIZE basket.target).length < TARGET_SIZE := by
    simp only [snprintf, List.length_take, TARGET_SIZE]
    omega
  have hline : Built start _
      (Memory.appendRequestLine StrBuf.init basket (snprintf TARGET_SIZE basket.target) start) :=
    appendRequestLine_built basket (snprintf TARGET_SIZE basket.target)
  unfold Memory.buildHttp11Request
  dsimp only
  generalize Memory.appendRequestLine StrBuf.init basket
    (snprintf TARGET_SIZE basket.target) start = first at hline
  have hheaders : Tracks start _ (Memory.appendHeaders first.1 basket.request.headers first.2) :=
    appendHeaders_tracks hline basket.request.headers
  rw [appendRequestLine_line basket htarget, appendHeaders_spec] at hheaders
  obtain ⟨host, hhost, hfirst⟩ := hostLine_built lib basket hheaders.sb hheaders.hostEmitted
  generalize Memory.appendHeaders first.1 basket.request.headers first.2 = buffers
    at hheaders hfirst
  have hsecond := appendProxyAuthorization_built
    (appendCookieHeader_built hfirst buffers.cookies) basket
  have hthird := sbAppends_built hsecond (ascii "\r\n" :: basket.request.payload.toList)
  refine ⟨host, buffers.cookies.contents, _, hhost, hheaders.cookies.part, ?_, fun hok => ?_,
    hthird.blame, rfl⟩
  · rcases hheaders.cookies.failed_or_eq with hfailed | hsame
    · exact Or.inr (hheaders.cookies.blame hfailed)
    · exact Or.inl hsame
  · rw [hthird.whole hok, appendProxyAuthorization_line]
    have hend : ascii "\r\n" = line [] := by decide
    simp only [messageWith, RequestMessage.wire, sentRequest, fieldsWire_append, hend,
      List.append_assoc]
    cases basket.request.payload <;> simp

/-- However allocations fail, a request that is built is the message of the
basket, but for cookies from some octet on and for the `Host` field that the
headers lack.  When none fails it is the whole message. -/
theorem buildHttp11Request_memory (lib : AddressLib) (basket : Http11Basket) (heap : Heap) :
    (∀ request, (Memory.buildHttp11Request lib basket heap).1 = some request →
      ∃ host cookies, (host = fallbackFields lib basket ∨ host = []) ∧
        cookies <+: mergedCookies basket.request.headers ∧
        request = (messageWith lib basket host cookies).wire) ∧
      (false ∉ heap → (Memory.buildHttp11Request lib basket heap).1 =
        some (buildHttp11Request lib basket)) := by
  obtain ⟨host, cookies, sb, hhost, hpart, hcookies, hwhole, hblame, heq⟩ :=
    buildHttp11Request_built lib basket heap
  rw [heq]
  constructor
  · intro request hrequest
    cases hfailed : sb.failed with
    | true => rw [hfailed, if_pos rfl] at hrequest; cases hrequest
    | false =>
      rw [hfailed, if_neg Bool.false_ne_true, Option.some.injEq] at hrequest
      exact ⟨host, cookies, hhost.imp_right And.left, hpart, hrequest.symm.trans (hwhole hfailed)⟩
  · intro hmemory
    have hfailed : sb.failed = false := Bool.eq_false_iff.mpr fun h => hmemory (hblame h)
    have hhost : host = fallbackFields lib basket := hhost.resolve_right fun h => hmemory h.2
    rw [hfailed, if_neg Bool.false_ne_true, hwhole hfailed, hhost,
      hcookies.resolve_right hmemory, messageWith_whole]

/-- A request with the cookie `a=1`. -/
def cookieBasket : Http11Basket :=
  { noteBasket with
    request := { noteBasket.request with headers := [⟨ascii "Cookie", ascii "a=1", false⟩] } }

/-- There is no memory for the cookie, and the request is built without it. -/
example : (Memory.buildHttp11Request AddressLib.names cookieBasket [true, false]).1 =
    some (ascii "GET / HTTP/1.1\r\nHost: a.example\r\n\r\n") := by
  decide +kernel

end Http11

end HttpRequestClient
