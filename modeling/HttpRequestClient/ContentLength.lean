import HttpRequestClient.BuiltHeaders
import HttpRequestClient.Decimal

/-!
# The length of a payload

`headerValueToString` renders a `content-length` of any scalar type, and the
builders render those of all keys.  `parsePayload` checks one of them, the first,
when it is a string, and takes it for a number with `strtol`.

* `contentLength_kept_iff`: what the caller has to write for all of them to be
  the length of the payload.
-/

namespace HttpRequestClient

open Hpack

def isContentLength (name : Bytes) : Bool := strcasecmp (ascii "content-length") name = 0

/-! ## What has to be asked for -/

/-- The members that make `content-length` headers. -/
def contentLengths (jsonRequest : JsonValue) : JsonHeaders :=
  (headersOf jsonRequest).filter fun entry => isContentLength entry.1

/-- Digits alone, without a zero in front, of a number that a `long` holds. -/
def Canonical (text : Bytes) : Prop :=
  text ≠ [] ∧ (∀ c ∈ text, isdigit c = true) ∧ (text.head? = some 48 → text = [48]) ∧
    digitsValue 10 0 text ≤ LLONG_MAX

instance instDecidableCanonical (text : Bytes) : Decidable (Canonical text) :=
  inferInstanceAs (Decidable (_ ∧ _ ∧ _ ∧ _))

/-- A value that is rendered as this number, or not at all. -/
def IsLength (length : Nat) : JsonHeaderValue → Prop
  | .string text => text = decimal length
  | .integer n => n = length
  | .real encoded => snprintf SCALAR_BUFFER_SIZE encoded = decimal length
  | .boolean _ => False
  | .other => True

instance instDecidableIsLength (length : Nat) :
    (value : JsonHeaderValue) → Decidable (IsLength length value)
  | .string text => inferInstanceAs (Decidable (text = decimal length))
  | .integer n => inferInstanceAs (Decidable (n = length))
  | .real encoded =>
    inferInstanceAs (Decidable (snprintf SCALAR_BUFFER_SIZE encoded = decimal length))
  | .boolean _ => inferInstanceAs (Decidable False)
  | .other => inferInstanceAs (Decidable True)

/-- The first value has been verified when it is a string. -/
def LengthsKept (length : Nat) : JsonHeaders → Prop
  | (_, .string text) :: later => Canonical text ∧ ∀ entry ∈ later, IsLength length entry.2
  | entries => ∀ entry ∈ entries, IsLength length entry.2

/-! ## The headers of that name -/

theorem not_special_of_contentLength {name : Bytes} (h : isContentLength name = true) :
    isPseudoName name = false ∧ strcasecmp (ascii "host") name ≠ 0 ∧
      strcasecmp (ascii "cookie") name ≠ 0 ∧ strcasecmp name (ascii "X-HeaderOrderKey") ≠ 0 := by
  rw [isContentLength, decide_eq_true_eq] at h
  have hne (other : Bytes) (hplain : 0 ∉ other)
      (hother : (ascii "content-length").map tolower ≠ other.map tolower) :
      strcasecmp other name ≠ 0 := strcasecmp_ne (by decide) hplain hother h
  refine ⟨?_, hne _ (by decide) (by decide), hne _ (by decide) (by decide), ?_⟩
  · rw [isPseudoName, decide_eq_false_iff_not, not_or, not_or, not_or]
    exact ⟨hne _ (by decide) (by decide), hne _ (by decide) (by decide),
      hne _ (by decide) (by decide), hne _ (by decide) (by decide)⟩
  · rw [Ne, strcasecmp_comm]
    exact hne _ (by decide) (by decide)

/-- A member of that name makes one header, of its own name and text. -/
theorem memberHeaders_contentLength (basket : RequestBasket) (jsonHeaders : JsonHeaders)
    {entry : Bytes × JsonHeaderValue} (hname : isContentLength entry.1 = true) :
    memberHeaders basket jsonHeaders entry =
      ((headerValueToString entry.2).map fun text => ⟨entry.1, text, false⟩).toList := by
  obtain ⟨hpseudo, hhost, hcookie, -⟩ := not_special_of_contentLength hname
  have hnames := hpseudo
  simp only [isPseudoName, decide_eq_false_iff_not, not_or] at hnames
  obtain ⟨hmethod, hauthority, hscheme, hpath⟩ := hnames
  rw [memberHeaders]
  split
  · rw [http11Headers]
    cases headerValueToString entry.2 <;> simp [hmethod, hauthority, hscheme, hpath, hhost, hcookie]
  · rw [http2Headers]
    cases headerValueToString entry.2 <;> cases containPseudoHeaders jsonHeaders <;>
      simp [hpseudo, hhost, hcookie]

/-- The `content-length` headers of a basket are those of the members. -/
theorem mem_buildHeaders_contentLength (lib : BasketLib) (basket : RequestBasket)
    {jsonHeaders : JsonHeaders} {h : RequestHeader} (hname : isContentLength h.name = true) :
    h ∈ (buildHeaders lib basket jsonHeaders).headers ↔
      ∃ entry ∈ jsonHeaders.filter fun entry => isContentLength entry.1,
        ∃ text, headerValueToString entry.2 = some text ∧ h = ⟨entry.1, text, false⟩ := by
  obtain ⟨hpseudo, -, -, -⟩ := not_special_of_contentLength hname
  rw [buildHeaders_headers, List.mem_append]
  have hleading : h ∉ leadingHeaders lib basket jsonHeaders := by
    intro hmem
    rw [(isPseudo_of_mem_leading lib hmem).2] at hpseudo
    cases hpseudo
  rw [or_iff_right hleading, List.mem_flatMap]
  refine exists_congr fun entry => ?_
  rw [List.mem_filter, and_assoc]
  refine and_congr_right fun _ => ?_
  constructor
  · intro hmem
    have hentry : isContentLength entry.1 = true := by
      rcases name_of_mem_memberHeaders hmem with heq | ⟨heq, -⟩
      · rw [← heq]
        exact hname
      · rw [heq] at hname
        exact absurd hname (by decide)
    rw [memberHeaders_contentLength _ _ hentry, Option.mem_toList,
      Option.map_eq_some_iff] at hmem
    obtain ⟨text, htext, rfl⟩ := hmem
    exact ⟨hentry, text, htext, rfl⟩
  · rintro ⟨hentry, text, htext, rfl⟩
    rw [memberHeaders_contentLength _ _ hentry, htext]
    simp

/-! ## The values -/

/-- What is rendered for a value. -/
theorem isLength_iff {value : JsonValue} {length : Nat} :
    IsLength length value.toHeaderValue ↔
      ∀ text, headerValueToString value.toHeaderValue = some text → text = decimal length := by
  cases value with
  | integer n =>
    have hwhole : snprintf SCALAR_BUFFER_SIZE (ascii (toString n.toInt)) =
        ascii (toString n.toInt) :=
      List.take_of_length_le ((length_toString_le n).trans (by decide))
    simp only [JsonValue.toHeaderValue, headerValueToString, IsLength, Option.some.injEq, hwhole,
      forall_eq']
    exact toString_eq_decimal_iff.symm
  | boolean b =>
    have hword : ∀ b : Bool, (if b then ascii "true" else ascii "false") ≠ decimal length := by
      intro b heq
      have hdigit := isdigit_decimal length
      rw [← heq] at hdigit
      cases b <;> exact absurd hdigit (by decide)
    simpa [JsonValue.toHeaderValue, headerValueToString, IsLength] using hword b
  | _ => simp [JsonValue.toHeaderValue, headerValueToString, IsLength]

/-- A text that `strtol` takes for the length is the length when it is canonical. -/
theorem canonical_iff {text : Bytes} {length : Nat} (h : strtol text 10 = length) :
    Canonical text ↔ text = decimal length := by
  constructor
  · rintro ⟨hne, hdigits, hzero, hmax⟩
    rw [strtol, strtoll_digits (by omega) hne
      (fun c hc => isDigitOf_of_isdigit (hdigits c hc)), Nat.min_eq_left hmax] at h
    rw [← decimal_digitsValue hne hdigits hzero, Int.ofNat_inj.mp h]
  · rintro rfl
    rw [strtol, strtoll_digits (by omega) (decimal_ne_nil length)
      (fun c hc => isDigitOf_of_isdigit (isdigit_decimal length c hc)), digitsValue_decimal] at h
    refine ⟨decimal_ne_nil length, isdigit_decimal length, fun h48 => ?_, ?_⟩
    · rw [head_decimal h48]
      decide
    · rw [digitsValue_decimal]
      omega

theorem exists_of_mem_headersOf {jsonRequest : JsonValue} {entry : Bytes × JsonHeaderValue}
    (h : entry ∈ headersOf jsonRequest) : ∃ value : JsonValue, entry.2 = value.toHeaderValue := by
  rw [headersOf] at h
  cases hheaders : jsonRequest.get (ascii "headers") with
  | none =>
    rw [hheaders] at h
    cases h
  | some headers =>
    rw [hheaders, Option.map_some, Option.getD_some] at h
    cases headers with
    | object fields =>
      obtain ⟨⟨key, value⟩, -, rfl⟩ := List.mem_map.mp h
      exact ⟨value, rfl⟩
    | _ => cases h

/-- The headers are those of the members, in whatever order. -/
theorem contentLength_values_iff {lib : BasketLib} {jsonRequest : JsonValue}
    {basket : RequestBasket} (hheaded : Headed lib (headersOf jsonRequest) basket) (length : Nat) :
    (∀ header ∈ basket.request.headers, isContentLength header.name = true →
        header.value = decimal length) ↔
      ∀ entry ∈ contentLengths jsonRequest, IsLength length entry.2 := by
  have hmember {entry : Bytes × JsonHeaderValue} (hentry : entry ∈ contentLengths jsonRequest) :
      ∃ value : JsonValue, entry.2 = value.toHeaderValue :=
    exists_of_mem_headersOf (List.mem_of_mem_filter hentry)
  have hkey {header : RequestHeader} (hname : isContentLength header.name = true) :
      isOrderKey header = false := by
    simp [isOrderKey, headerNameEquals, (not_special_of_contentLength hname).2.2.2]
  constructor
  · intro hvalues entry hentry
    obtain ⟨value, hvalue⟩ := hmember hentry
    rw [hvalue, isLength_iff]
    intro text htext
    have hname : isContentLength entry.1 = true := (List.mem_filter.mp hentry).2
    refine hvalues ⟨entry.1, text, false⟩ ((mem_reorderHeaders hheaded.reordered (hkey hname)).mpr ?_)
      hname
    exact (mem_buildHeaders_contentLength lib basket hname).mpr
      ⟨entry, hentry, text, hvalue ▸ htext, rfl⟩
  · intro hvalues header hheader hname
    obtain ⟨entry, hentry, text, htext, rfl⟩ := (mem_buildHeaders_contentLength lib basket
      hname).mp ((mem_reorderHeaders hheaded.reordered (hkey hname)).mp hheader)
    obtain ⟨value, hvalue⟩ := hmember hentry
    have hlength := hvalues entry hentry
    rw [hvalue] at hlength htext
    exact isLength_iff.mp hlength text htext

/-- All `content-length` headers of a basket are the length of its payload exactly
when the first value is canonical, or a number of that size, and the others are
this number. -/
theorem contentLength_kept_iff {lib : BasketLib} {jsonRequest : JsonValue} {basket : RequestBasket}
    {payload : Bytes} (h : buildBasket lib (some jsonRequest) = some basket)
    (hok : basket.error = none) (hpayload : basket.request.payload = some payload) :
    (∀ header ∈ basket.request.headers, isContentLength header.name = true →
        header.value = decimal payload.length) ↔
      LengthsKept payload.length (contentLengths jsonRequest) := by
  obtain ⟨hheaded, hpaid⟩ := buildBasket_members h hok
  rw [contentLength_values_iff hheaded]
  -- the first string has been read by `strtol`
  have hget : jsonHeaderGet (headersOf jsonRequest) (ascii "content-length") =
      ((contentLengths jsonRequest).head?).map Prod.snd := by
    rw [contentLengths, jsonHeaderGet, List.head?_filter]
    simp only [isContentLength, strcasecmp_comm]
  cases hfirst : contentLengths jsonRequest with
  | nil => rfl
  | cons first later =>
    obtain ⟨key, value⟩ := first
    cases value with
    | string text =>
      rw [hfirst, List.head?_cons, Option.map_some] at hget
      have hread := hpaid.verified payload (by rw [hpayload]; rfl) text hget
      rw [LengthsKept, List.forall_mem_cons, canonical_iff hread]
      rfl
    | _ => rfl

/-- A request with the payload `hi`. -/
def postedNote (lengths : List (Bytes × JsonValue)) : JsonValue :=
  requestWith lengths [(ascii "payload", .string (.plain (ascii "hi") (by decide)))]

/-- The first length is verified, and the second is an integer. -/
theorem contentLength_kept_plain : ∃ basket,
    buildBasket BasketLib.names (some (postedNote
      [(ascii "content-length", .string (.plain (ascii "2") (by decide))),
        (ascii "Content-Length", .integer 2)])) = some basket ∧
    ∀ header ∈ basket.request.headers, isContentLength header.name = true →
      header.value = decimal 2 := by
  have hbuilt : (buildBasket BasketLib.names (some (postedNote
      [(ascii "content-length", .string (.plain (ascii "2") (by decide))),
        (ascii "Content-Length", .integer 2)]))).map (fun basket =>
          (basket.error, basket.request.payload)) = some (none, some (ascii "hi")) := by
    decide +kernel
  obtain ⟨basket, hbasket, hfields⟩ := Option.map_eq_some_iff.mp hbuilt
  rw [Prod.mk.injEq] at hfields
  exact ⟨basket, hbasket, (contentLength_kept_iff hbasket hfields.1 hfields.2).mpr
    ⟨by decide +kernel, by decide +kernel⟩⟩

/-- `strtol` stops at the space, and the header has the whole text. -/
theorem contentLength_differs : ∃ basket,
    buildBasket BasketLib.names (some (postedNote
      [(ascii "content-length", .string (.plain (ascii "2 bytes") (by decide)))])) = some basket ∧
    basket.error = none ∧ basket.request.payload = some (ascii "hi") ∧
    ∃ header ∈ basket.request.headers, isContentLength header.name = true ∧
      header.value ≠ decimal (ascii "hi").length := by
  have hbuilt : (buildBasket BasketLib.names (some (postedNote
      [(ascii "content-length", .string (.plain (ascii "2 bytes") (by decide)))]))).map (fun basket =>
          (basket.error, basket.request.payload, decide
            (⟨ascii "content-length", ascii "2 bytes", false⟩ ∈ basket.request.headers))) =
        some (none, some (ascii "hi"), true) := by
    decide +kernel
  obtain ⟨basket, hbasket, hfields⟩ := Option.map_eq_some_iff.mp hbuilt
  simp only [Prod.mk.injEq, decide_eq_true_eq] at hfields
  exact ⟨basket, hbasket, hfields.1, hfields.2.1, _, hfields.2.2, by decide, by decide⟩

end HttpRequestClient
