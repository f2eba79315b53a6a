import HttpRequestClient.UrlParser

/-!
# Which host a URL contacts

The host and the port of a request are those that `parseUrlAuthority` takes
out of the URL.  It ends the authority at the first slash of the whole rest,
and only where there is none at a question mark or a hash; it knows no
brackets, and looks for user information in the wrong text.

* `parseUrl_sameEndpoint_iff`: when two URLs with the same beginning contact
  the same host.
* `parseUrl_storedIn_iff`: when the parts of an authority are stored as the
  grammar has them.
* `getHeaderAuthority_names_iff`: when the request tells the server the host and
  the port that it contacts.
-/

namespace HttpRequestClient.Url

open Parts

/-! ## The end of the authority -/

/-- The characters that end an authority. -/
def isDelimiter (c : UInt8) : Bool := c = 47 ∨ c = 63 ∨ c = 35

/-- Text without any of the characters belongs to what stands before them. -/
theorem upTo_append {cs : List UInt8} {before : Bytes} (h : ∀ c ∈ cs, c ∉ before) (s : Bytes) :
    upTo cs (before ++ s) = (before ++ (upTo cs s).1, (upTo cs s).2) := by
  induction cs with
  | nil => rfl
  | cons c cs ih =>
    have hc : c ∉ before := h c List.mem_cons_self
    by_cases hmem : c ∈ s
    · obtain ⟨first, after, rfl, hfirst⟩ := List.eq_append_cons_of_mem hmem
      have hboth : c ∉ before ++ first := by
        rw [List.mem_append, not_or]
        exact ⟨hc, hfirst⟩
      rw [upTo_found hfirst, ← List.append_assoc, upTo_found hboth]
    · have hboth : c ∉ before ++ s := by
        rw [List.mem_append, not_or]
        exact ⟨hc, hmem⟩
      rw [upTo_absent hboth, upTo_absent hmem]
      exact ih fun d hd => h d (List.mem_cons_of_mem _ hd)

theorem authorityPart_append {authority : Bytes} (h : ∀ c ∈ authority, isDelimiter c = false)
    (rest : Bytes) :
    authorityPart (authority ++ rest) =
      (authority ++ (authorityPart rest).1, (authorityPart rest).2) := by
  apply upTo_append
  intro c hc hmem
  have hno := h c hmem
  simp only [isDelimiter, decide_eq_false_iff_not] at hno
  simp only [List.mem_cons, List.not_mem_nil, or_false] at hc
  exact hno hc

/-- An authority with a slash behind it is found. -/
theorem authorityPart_slash {authority : Bytes} (h : ∀ c ∈ authority, isDelimiter c = false)
    (rest : Bytes) : authorityPart (authority ++ 47 :: rest) = (authority, 47 :: rest) := by
  rw [authorityPart_append h, ← List.nil_append (47 :: rest), authorityPart,
    upTo_found (List.not_mem_nil)]
  simp

/-! ## Two URLs with the same beginning -/

/-- The scheme, and the text behind it up to the first slash, question mark or
hash. -/
def urlPrefix (url : Bytes) : Option (Bytes × Bytes) :=
  (strstr (ascii "://") url).map fun (scheme, rest) =>
    (scheme, rest.takeWhile fun c => !isDelimiter c)

/-- The authority that the parser finds in a URL. -/
def authorityOf (url : Bytes) : Bytes := (authorityPart (schemePart (urlCopy url)).2).1

/-- `b` is `a` with the port that the scheme has anyway. -/
def AddsDefaultPort (scheme a b : Bytes) : Prop :=
  58 ∉ a ∧ b = a ++ 58 :: (defaultPort scheme).getD []

/-- The same text, up to a port that the scheme has anyway. -/
def SameAuthority (scheme a b : Bytes) : Prop :=
  a = b ∨ AddsDefaultPort scheme a b ∨ AddsDefaultPort scheme b a

/-- Both calls give components, with the same scheme, host, port and user. -/
def SameEndpoint (r r' : ParsedUrl) : Prop :=
  ∃ c c', r = .parsed c ∧ r' = .parsed c' ∧ c.scheme = c'.scheme ∧ c.host = c'.host ∧
    c.port = c'.port ∧ c.username = c'.username ∧ c.password = c'.password

theorem hostAndPort_of_cut {scheme authority host port : Bytes}
    (h : cut 58 authority = some (host, port)) : hostAndPort scheme authority = (host, port) := by
  rw [hostAndPort, h]
  rfl

theorem hostAndPort_of_notMem {authority : Bytes} (h : 58 ∉ authority) (scheme : Bytes) :
    hostAndPort scheme authority = (authority, (defaultPort scheme).getD []) := by
  rw [hostAndPort, cut_eq_none_iff.mpr h]
  rfl

/-- An authority with a port is split as one without it exactly when the port is
the default. -/
theorem hostAndPort_eq_of_notMem {scheme a b : Bytes} (ha : 58 ∉ a) (hb : 58 ∈ b) :
    hostAndPort scheme a = hostAndPort scheme b ↔ AddsDefaultPort scheme a b := by
  obtain ⟨host, port, rfl, hhost⟩ := List.eq_append_cons_of_mem hb
  rw [hostAndPort_of_notMem ha, hostAndPort_of_cut (cut_append hhost port), Prod.mk.injEq]
  constructor
  · rintro ⟨rfl, hport⟩
    exact ⟨ha, by rw [hport]⟩
  · rintro ⟨-, heq⟩
    have hcut : cut 58 (host ++ 58 :: port) = some (a, (defaultPort scheme).getD []) := by
      rw [heq, cut_append ha]
    rw [cut_append hhost, Option.some.injEq, Prod.mk.injEq] at hcut
    exact ⟨hcut.1.symm, hcut.2.symm⟩

theorem hostAndPort_eq_iff (scheme a b : Bytes) :
    hostAndPort scheme a = hostAndPort scheme b ↔ SameAuthority scheme a b := by
  by_cases ha : 58 ∈ a
  · by_cases hb : 58 ∈ b
    · have hneither : ¬AddsDefaultPort scheme a b ∧ ¬AddsDefaultPort scheme b a :=
        ⟨fun h => h.1 ha, fun h => h.1 hb⟩
      obtain ⟨host, port, rfl, hhost⟩ := List.eq_append_cons_of_mem ha
      obtain ⟨host', port', rfl, hhost'⟩ := List.eq_append_cons_of_mem hb
      rw [hostAndPort_of_cut (cut_append hhost port), hostAndPort_of_cut (cut_append hhost' port'),
        SameAuthority, Prod.mk.injEq]
      simp only [hneither, or_false]
      constructor
      · rintro ⟨rfl, rfl⟩
        rfl
      · intro heq
        have hcut := cut_append hhost port
        rw [heq, cut_append hhost', Option.some.injEq, Prod.mk.injEq] at hcut
        exact ⟨hcut.1.symm, hcut.2.symm⟩
    · have hne : a ≠ b := fun heq => hb (heq ▸ ha)
      have hno : ¬AddsDefaultPort scheme a b := fun h => h.1 ha
      rw [eq_comm, hostAndPort_eq_of_notMem hb ha, SameAuthority]
      simp only [hne, hno, false_or]
  · by_cases hb : 58 ∈ b
    · have hne : a ≠ b := fun heq => ha (heq ▸ hb)
      have hno : ¬AddsDefaultPort scheme b a := fun h => h.1 hb
      rw [hostAndPort_eq_of_notMem ha hb, SameAuthority]
      simp only [hne, hno, false_or, or_false]
    · have hneither : ¬AddsDefaultPort scheme a b ∧ ¬AddsDefaultPort scheme b a := by
        refine ⟨fun h => hb ?_, fun h => ha ?_⟩
        · rw [h.2]
          simp
        · rw [h.2]
          simp
      rw [hostAndPort_of_notMem ha, hostAndPort_of_notMem hb, SameAuthority]
      simp [hneither]

/-- A copy that has the whole mark has the scheme of the URL. -/
theorem strstr_urlCopy {url scheme rest : Bytes}
    (hfound : strstr (ascii "://") url = some (scheme, rest)) :
    (strstr (ascii "://") (urlCopy url)).map Prod.fst =
      if scheme.length + 3 < MAX_URL_LENGTH then some scheme else none := by
  have hmark : (ascii "://").length = 3 := by decide
  cases hcopy : strstr (ascii "://") (urlCopy url) with
  | none =>
    rw [if_neg, Option.map_none]
    intro hroom
    have hfront : (scheme ++ ascii "://").length < MAX_URL_LENGTH := by
      rw [List.length_append, hmark]
      exact hroom
    have hsplit := urlCopy_append hfront rest
    rw [← strstr_eq hfound] at hsplit
    have hsome := isSome_strstr (ascii "://") scheme
      (rest.take (MAX_URL_LENGTH - 1 - (scheme ++ ascii "://").length))
    rw [← hsplit, hcopy] at hsome
    exact Bool.false_ne_true hsome
  | some parts =>
    obtain ⟨scheme', rest'⟩ := parts
    have hwhole := strstr_take hcopy
    rw [hfound, Option.some.injEq, Prod.mk.injEq] at hwhole
    have hlength := congrArg List.length (strstr_eq hcopy)
    rw [urlCopy, List.length_take, List.length_append, List.length_append, hmark] at hlength
    rw [Option.map_some, hwhole.1, if_pos]
    unfold MAX_URL_LENGTH at *
    omega

/-- URLs that agree in their beginning have the same scheme in their copies. -/
theorem schemePart_eq_of_urlPrefix {url url' : Bytes} (hvalid : validateUrl url = true)
    (hbeginning : urlPrefix url = urlPrefix url') :
    (schemePart (urlCopy url)).1 = (schemePart (urlCopy url')).1 := by
  have hsome : (strstr (ascii "://") url).isSome = true := by
    simp only [validateUrl, decide_eq_true_eq] at hvalid
    exact hvalid.2.1
  obtain ⟨⟨scheme, rest⟩, hfound⟩ := Option.isSome_iff_exists.mp hsome
  rw [urlPrefix, urlPrefix, hfound] at hbeginning
  cases hfound' : strstr (ascii "://") url' with
  | none =>
    rw [hfound'] at hbeginning
    cases hbeginning
  | some parts =>
    obtain ⟨scheme', rest'⟩ := parts
    simp only [hfound', Option.map_some, Option.some.injEq, Prod.mk.injEq] at hbeginning
    have hcopy := strstr_urlCopy hfound
    have hcopy' := strstr_urlCopy hfound'
    rw [← hbeginning.1] at hcopy'
    have hfst (copy : Bytes) : (schemePart copy).1 =
        ((strstr (ascii "://") copy).map Prod.fst).getD [] := by
      rw [schemePart]
      cases strstr (ascii "://") copy <;> rfl
    rw [hfst, hfst, hcopy, hcopy']

/-- Two URLs with the same beginning contact the same host exactly when both can
be stored and the parser finds the same authority in both. -/
theorem parseUrl_sameEndpoint_iff {url url' : Bytes} (hvalid : validateUrl url = true)
    (hvalid' : validateUrl url' = true) (hbeginning : urlPrefix url = urlPrefix url') :
    SameEndpoint (parseUrl url) (parseUrl url') ↔
      Storable (urlCopy url) ∧ Storable (urlCopy url') ∧
        SameAuthority (schemePart (urlCopy url)).1 (authorityOf url) (authorityOf url') := by
  have hscheme := schemePart_eq_of_urlPrefix hvalid hbeginning
  constructor
  · rintro ⟨c, c', hc, hc', -, hhost, hport, -, -⟩
    obtain ⟨-, hstorable, rfl⟩ := parseUrl_eq_parsed_iff.mp hc
    obtain ⟨-, hstorable', rfl⟩ := parseUrl_eq_parsed_iff.mp hc'
    refine ⟨hstorable, hstorable', (hostAndPort_eq_iff _ _ _).mp ?_⟩
    simp only [componentsOf, ← hscheme] at hhost hport
    exact Prod.ext hhost hport
  · rintro ⟨hstorable, hstorable', hsame⟩
    have heq := (hostAndPort_eq_iff _ _ _).mpr hsame
    refine ⟨componentsOf (urlCopy url), componentsOf (urlCopy url'),
      parseUrl_eq_parsed_iff.mpr ⟨hvalid, hstorable, rfl⟩,
      parseUrl_eq_parsed_iff.mpr ⟨hvalid', hstorable', rfl⟩, hscheme, ?_, ?_, rfl, rfl⟩
    · rw [componentsOf, componentsOf, ← hscheme]
      exact congrArg Prod.fst heq
    · rw [componentsOf, componentsOf, ← hscheme]
      exact congrArg Prod.snd heq

/-- A slash in the query moves the end of the authority behind the host, and an
at sign in the path is taken for one of user information. -/
theorem parseUrl_endpoint_moves :
    validateUrl (ascii "http://a.example/q") = true ∧
      validateUrl (ascii "http://a.example?q=/") = true ∧
      validateUrl (ascii "http://a.example/@q") = true ∧
      urlPrefix (ascii "http://a.example/q") = urlPrefix (ascii "http://a.example?q=/") ∧
      urlPrefix (ascii "http://a.example/q") = urlPrefix (ascii "http://a.example/@q") ∧
      ¬SameEndpoint (parseUrl (ascii "http://a.example/q"))
        (parseUrl (ascii "http://a.example?q=/")) ∧
      ¬SameEndpoint (parseUrl (ascii "http://a.example/q"))
        (parseUrl (ascii "http://a.example/@q")) := by
  have hplain : parseUrl (ascii "http://a.example/q") = .parsed
      ⟨ascii "http", ascii "a.example", ascii "80", ascii "/q", [], [], [], []⟩ := by
    decide +kernel
  have hmoved : parseUrl (ascii "http://a.example?q=/") = .parsed
      ⟨ascii "http", ascii "a.example?q=", ascii "80", ascii "/", [], [], [], []⟩ := by
    decide +kernel
  have hat : parseUrl (ascii "http://a.example/@q") = .outOfBounds := by decide +kernel
  refine ⟨by decide +kernel, by decide +kernel, by decide +kernel, by decide +kernel,
    by decide +kernel, ?_, ?_⟩
  · rintro ⟨c, c', hc, hc', -, hhost, -⟩
    rw [hplain, ParsedUrl.parsed.injEq] at hc
    rw [hmoved, ParsedUrl.parsed.injEq] at hc'
    subst hc hc'
    exact absurd hhost (by decide)
  · rintro ⟨c, c', -, hc', -⟩
    rw [hat] at hc'
    cases hc'

/-- Other paths and queries of the usual form lead to the same host. -/
theorem parseUrl_endpoint_stays :
    SameEndpoint (parseUrl (ascii "https://a.example:8443/x"))
      (parseUrl (ascii "https://a.example:8443/y:z?q=/#f")) :=
  (parseUrl_sameEndpoint_iff (by decide +kernel) (by decide +kernel) (by decide +kernel)).mpr
    ⟨by decide +kernel, by decide +kernel, Or.inl (by decide +kernel)⟩

/-! ## The parts of an authority -/

/-- The characters of a scheme. -/
def isSchemeChar (c : UInt8) : Bool :=
  isdigit c ∨ (65 ≤ c ∧ c ≤ 90) ∨ (97 ≤ c ∧ c ≤ 122) ∨ c ∈ ascii "+-."

/-- The host of an authority: a registered name or an IPv4 address, or an IPv6
literal without its brackets. -/
inductive HostText where
  | name (text : Bytes) (h : ∀ c ∈ text, isDelimiter c = false ∧ c ∉ ascii ":@[]")
  | literal (text : Bytes) (h : ∀ c ∈ text, isDelimiter c = false ∧ c ∉ ascii "@[]")

/-- As it stands in a URL. -/
def HostText.written : HostText → Bytes
  | .name text _ => text
  | .literal text _ => ascii "[" ++ text ++ ascii "]"

/-- As it is used. -/
def HostText.stored : HostText → Bytes
  | .name text _ => text
  | .literal text _ => text

def HostText.isName : HostText → Bool
  | .name _ _ => true
  | .literal _ _ => false

/-- The user, and the password where there is one. -/
structure UserText where
  user : Bytes
  password : Option Bytes
  user_chars : ∀ c ∈ user, isDelimiter c = false ∧ c ∉ ascii ":@[]"
  password_chars : ∀ text ∈ password, ∀ c ∈ text, isDelimiter c = false ∧ c ∉ ascii "@[]"

def UserText.written (userinfo : UserText) : Bytes :=
  userinfo.user ++ (userinfo.password.elim [] fun password => 58 :: password) ++ ascii "@"

/-- An authority of the grammar. -/
structure AuthorityText where
  userinfo : Option UserText
  host : HostText
  port : Option Bytes
  port_chars : ∀ text ∈ port, ∀ c ∈ text, isdigit c = true

def AuthorityText.written (authority : AuthorityText) : Bytes :=
  (authority.userinfo.elim [] UserText.written) ++ authority.host.written ++
    authority.port.elim [] fun port => 58 :: port

/-- The parts are in the components. -/
structure StoredIn (scheme : Bytes) (authority : AuthorityText) (c : URLComponents) : Prop where
  username : c.username = authority.userinfo.elim [] UserText.user
  password : c.password = authority.userinfo.elim [] fun userinfo => userinfo.password.getD []
  host : c.host = authority.host.stored
  port : c.port = authority.port.getD ((defaultPort scheme).getD [])

/-- There is no user and no literal, and nothing that the parser takes for the
end of a user. -/
structure PlainAuthority (scheme path : Bytes) (authority : AuthorityText) : Prop where
  valid : validateUrl (scheme ++ ascii "://" ++ authority.written ++ 47 :: path) = true
  schemeRoom : scheme.length < SCHEME_SIZE
  noUser : authority.userinfo = none
  isName : authority.host.isName = true
  authorityRoom : authority.written.length < AUTHORITY_SIZE
  portRoom : (authority.port.getD []).length < PORT_SIZE
  noAtSign : 64 ∉ urlCopy (scheme ++ ascii "://" ++ authority.written ++ 47 :: path)

theorem isSchemeChar_spec {c : UInt8} (h : isSchemeChar c = true) :
    c ≠ 58 ∧ c ≠ 64 ∧ isDelimiter c = false := by
  refine ⟨?_, ?_, ?_⟩
  · rintro rfl
    exact absurd h (by decide)
  · rintro rfl
    exact absurd h (by decide)
  · rw [isDelimiter, decide_eq_false_iff_not]
    rintro (rfl | rfl | rfl) <;> exact absurd h (by decide)

theorem isdigit_spec {c : UInt8} (h : isdigit c = true) : c ≠ 64 ∧ isDelimiter c = false := by
  refine ⟨?_, ?_⟩
  · rintro rfl
    exact absurd h (by decide)
  · rw [isDelimiter, decide_eq_false_iff_not]
    rintro (rfl | rfl | rfl) <;> exact absurd h (by decide)

theorem HostText.written_chars (host : HostText) : ∀ c ∈ host.written, isDelimiter c = false := by
  intro c hc
  cases host with
  | name text h => exact (h c hc).1
  | literal text h =>
    simp only [HostText.written, List.mem_append] at hc
    rcases hc with (hc | hc) | hc
    · exact (by decide +kernel : ∀ c ∈ ascii "[", isDelimiter c = false) c hc
    · exact (h c hc).1
    · exact (by decide +kernel : ∀ c ∈ ascii "]", isDelimiter c = false) c hc

theorem UserText.written_chars (userinfo : UserText) :
    ∀ c ∈ userinfo.written, isDelimiter c = false := by
  intro c hc
  simp only [UserText.written, List.mem_append] at hc
  rcases hc with (hc | hc) | hc
  · exact (userinfo.user_chars c hc).1
  · cases hpassword : userinfo.password with
    | none =>
      rw [hpassword] at hc
      cases hc
    | some password =>
      rw [hpassword] at hc
      rcases List.mem_cons.mp hc with rfl | hc
      · decide
      · exact (userinfo.password_chars password hpassword c hc).1
  · exact (by decide +kernel : ∀ c ∈ ascii "@", isDelimiter c = false) c hc

/-- No part of an authority ends it. -/
theorem AuthorityText.written_chars (authority : AuthorityText) :
    ∀ c ∈ authority.written, isDelimiter c = false := by
  intro c hc
  simp only [AuthorityText.written, List.mem_append] at hc
  rcases hc with (hc | hc) | hc
  · cases huser : authority.userinfo with
    | none =>
      rw [huser] at hc
      cases hc
    | some userinfo =>
      rw [huser] at hc
      exact userinfo.written_chars c hc
  · exact authority.host.written_chars c hc
  · cases hport : authority.port with
    | none =>
      rw [hport] at hc
      cases hc
    | some port =>
      rw [hport] at hc
      rcases List.mem_cons.mp hc with rfl | hc
      · decide
      · exact (isdigit_spec (authority.port_chars port hport c hc)).2

/-! ### Room -/

/-- An authority that is too long for its copy is not read. -/
theorem not_readable_of_long {front : Bytes} (hchars : ∀ c ∈ front, isDelimiter c = false)
    (hlong : AUTHORITY_SIZE ≤ front.length) (rest : Bytes) : ¬Readable (front ++ rest) := by
  intro hreadable
  have hroom := hreadable.authority
  rw [authorityPart_append hchars] at hroom
  simp only [List.length_append] at hroom
  omega

/-- The parts of a copy whose scheme and authority have room. -/
theorem copy_parts {scheme authority : Bytes} (hscheme : 58 ∉ scheme)
    (hchars : ∀ c ∈ authority, isDelimiter c = false) (hroom : scheme.length < SCHEME_SIZE)
    (hroom' : authority.length < AUTHORITY_SIZE) (path : Bytes) :
    ∃ path', urlCopy (scheme ++ ascii "://" ++ authority ++ 47 :: path) =
        scheme ++ ascii "://" ++ authority ++ 47 :: path' ∧
      schemePart (urlCopy (scheme ++ ascii "://" ++ authority ++ 47 :: path)) =
        (scheme, authority ++ 47 :: path') ∧
      authorityPart (authority ++ 47 :: path') = (authority, 47 :: path') := by
  have hmark : (ascii "://").length = 3 := by decide
  have hfront : (scheme ++ ascii "://" ++ authority ++ [47]).length < MAX_URL_LENGTH := by
    simp only [List.length_append, List.length_cons, List.length_nil, hmark]
    unfold SCHEME_SIZE at hroom
    unfold AUTHORITY_SIZE at hroom'
    unfold MAX_URL_LENGTH
    omega
  have hcopy := urlCopy_append hfront path
  rw [List.append_assoc _ [47] path, List.append_assoc _ [47]] at hcopy
  refine ⟨_, hcopy, ?_, authorityPart_slash hchars _⟩
  have hmarkEq : ascii "://" = 58 :: ascii "//" := by decide
  rw [List.cons_append, List.nil_append] at hcopy
  rw [hcopy, schemePart, List.append_assoc _ authority, hmarkEq, strstr_found hscheme]
  rfl

/-- A text that starts with a long authority is not read, however much of it is
copied. -/
theorem not_readable_take {front : Bytes} (hchars : ∀ c ∈ front, isDelimiter c = false)
    (hlong : AUTHORITY_SIZE ≤ front.length) {n : Nat} (hn : AUTHORITY_SIZE ≤ n) (rest : Bytes) :
    ¬Readable ((front ++ rest).take n) := by
  have hsplit : (front ++ rest).take n =
      front.take AUTHORITY_SIZE ++
        (front.drop AUTHORITY_SIZE ++ rest).take (n - AUTHORITY_SIZE) := by
    have htake : (front.take AUTHORITY_SIZE).length = AUTHORITY_SIZE := by
      rw [List.length_take]
      omega
    conv_lhs => rw [← List.take_append_drop AUTHORITY_SIZE front]
    rw [List.append_assoc, List.take_append, htake, List.take_of_length_le (by omega)]
  rw [hsplit]
  refine not_readable_of_long (fun c hc => hchars c (List.mem_of_mem_take hc)) ?_ _
  rw [List.length_take]
  omega

/-- What can be stored has room. -/
theorem room_of_storable {scheme authority path : Bytes}
    (hscheme : ∀ c ∈ scheme, isSchemeChar c = true)
    (hchars : ∀ c ∈ authority, isDelimiter c = false)
    (h : Storable (urlCopy (scheme ++ ascii "://" ++ authority ++ 47 :: path))) :
    scheme.length < SCHEME_SIZE ∧ authority.length < AUTHORITY_SIZE := by
  have hmark : (ascii "://").length = 3 := by decide
  have hmarkEq : ascii "://" = 58 :: ascii "//" := by decide
  have hcolon : 58 ∉ scheme := fun hmem => (isSchemeChar_spec (hscheme 58 hmem)).1 rfl
  have hfound (rest : Bytes) : strstr (ascii "://") (scheme ++ ascii "://" ++ rest) =
      some (scheme, rest) := by
    rw [hmarkEq, strstr_found hcolon]
  by_cases hlong : AUTHORITY_SIZE ≤ scheme.length
  · -- the mark may be behind the copy, and then the scheme is read as an authority
    exfalso
    obtain ⟨hfits, hreadable⟩ := h
    have hurl : scheme ++ ascii "://" ++ authority ++ 47 :: path =
        scheme ++ ascii "://" ++ (authority ++ 47 :: path) := List.append_assoc _ _ _
    cases hcopy : strstr (ascii "://")
        (urlCopy (scheme ++ ascii "://" ++ authority ++ 47 :: path)) with
    | none =>
      rw [schemePart, hcopy, urlCopy, hurl, List.append_assoc] at hreadable
      refine not_readable_take (fun c hc => (isSchemeChar_spec (hscheme c hc)).2.2) hlong ?_ _
        hreadable
      decide
    | some parts =>
      have hwhole := strstr_take hcopy
      rw [hurl, hfound, Option.some.injEq, Prod.mk.injEq] at hwhole
      rw [schemePart, hcopy, Option.getD_some, ← hwhole.1] at hfits
      unfold AUTHORITY_SIZE at hlong
      unfold SCHEME_SIZE at hfits
      omega
  · have hfront : (scheme ++ ascii "://").length < MAX_URL_LENGTH := by
      rw [List.length_append, hmark]
      unfold AUTHORITY_SIZE at hlong
      unfold MAX_URL_LENGTH
      omega
    have hcopy := urlCopy_append hfront (authority ++ 47 :: path)
    rw [← List.append_assoc] at hcopy
    have hparts : schemePart (urlCopy (scheme ++ ascii "://" ++ authority ++ 47 :: path)) =
        (scheme, (authority ++ 47 :: path).take
          (MAX_URL_LENGTH - 1 - (scheme ++ ascii "://").length)) := by
      rw [hcopy, schemePart, hfound]
      rfl
    rw [Storable, hparts] at h
    refine ⟨h.1, ?_⟩
    by_contra hmany
    refine not_readable_take hchars (Nat.le_of_not_lt hmany) ?_ _ h.2
    rw [List.length_append, hmark]
    unfold AUTHORITY_SIZE at *
    unfold MAX_URL_LENGTH
    omega

/-! ### How an authority is split -/

/-- The first character is one of the host. -/
theorem hostAndPort_cons {c : UInt8} (hc : c ≠ 58) (scheme s : Bytes) :
    c ∈ (hostAndPort scheme (c :: s)).1 := by
  rw [hostAndPort, cut, if_neg hc]
  cases cut 58 s with
  | none => simp
  | some parts => simp

theorem at_notMem_stored (host : HostText) : 64 ∉ host.stored := by
  intro hmem
  cases host with
  | name text h => exact (h 64 hmem).2 (by decide)
  | literal text h => exact (h 64 hmem).2 (by decide)

theorem at_notMem_port (scheme : Bytes) (authority : AuthorityText) :
    64 ∉ authority.port.getD ((defaultPort scheme).getD []) := by
  cases hport : authority.port with
  | none =>
    rw [Option.getD_none, defaultPort]
    split_ifs <;> decide
  | some port => exact fun hmem => (isdigit_spec (authority.port_chars port hport 64 hmem)).1 rfl

/-- No user is ever stored: where there is one, the host or the port is wrong. -/
theorem userinfo_eq_none {scheme : Bytes} {authority : AuthorityText} {c : URLComponents}
    (huser : c.username = []) (hpassword : c.password = [])
    (hhost : c.host = (hostAndPort scheme authority.written).1)
    (hport : c.port = (hostAndPort scheme authority.written).2)
    (h : StoredIn scheme authority c) : authority.userinfo = none := by
  obtain ⟨husername, hpass, hhost', hport'⟩ := h
  cases hinfo : authority.userinfo with
  | none => rfl
  | some userinfo =>
    exfalso
    rw [hinfo, Option.elim_some] at husername hpass
    have hnil : userinfo.user = [] := husername.symm.trans huser
    cases hpw : userinfo.password with
    | none =>
      -- the at sign is the first character of the host
      obtain ⟨tail, hwritten⟩ : ∃ tail, authority.written = 64 :: tail := by
        rw [AuthorityText.written, hinfo, Option.elim_some, UserText.written, hnil, hpw]
        exact ⟨_, rfl⟩
      have hmem := hostAndPort_cons (c := 64) (by decide) scheme tail
      rw [← hwritten, ← hhost, hhost'] at hmem
      exact at_notMem_stored _ hmem
    | some password =>
      have hnil' : password = [] := by
        rw [hpw, Option.getD_some] at hpass
        exact hpass.symm.trans hpassword
      -- the at sign is the first character of the port
      obtain ⟨tail, hwritten⟩ : ∃ tail, authority.written = [] ++ 58 :: 64 :: tail := by
        rw [AuthorityText.written, hinfo, Option.elim_some, UserText.written, hnil, hpw, hnil']
        exact ⟨_, rfl⟩
      rw [hwritten, hostAndPort_of_cut (cut_append List.not_mem_nil _)] at hport
      apply at_notMem_port scheme authority
      rw [← hport', hport]
      exact List.mem_cons_self

/-- Nor is a literal: its bracket is a character of the host. -/
theorem isName_of_stored {scheme : Bytes} {authority : AuthorityText} {c : URLComponents}
    (hinfo : authority.userinfo = none)
    (hhost : c.host = (hostAndPort scheme authority.written).1)
    (h : StoredIn scheme authority c) : authority.host.isName = true := by
  cases hname : authority.host with
  | name text h => rfl
  | literal text hchars =>
    exfalso
    obtain ⟨tail, hwritten⟩ : ∃ tail, authority.written = 91 :: tail := by
      rw [AuthorityText.written, hinfo, hname]
      exact ⟨_, rfl⟩
    have hmem := hostAndPort_cons (c := 91) (by decide) scheme tail
    rw [← hwritten, ← hhost, h.host, hname] at hmem
    exact (hchars 91 hmem).2 (by decide)

/-- A name is split from its port. -/
theorem split_of_name {authority : AuthorityText} (hinfo : authority.userinfo = none)
    (hname : authority.host.isName = true) (scheme : Bytes) :
    hostAndPort scheme authority.written =
        (authority.host.stored, authority.port.getD ((defaultPort scheme).getD [])) ∧
      portText authority.written = authority.port.getD [] ∧ 64 ∉ authority.written := by
  cases hhost : authority.host with
  | literal text h =>
    rw [hhost] at hname
    cases hname
  | name text h =>
    have hcolon : 58 ∉ text := fun hmem => (h 58 hmem).2 (by decide)
    have hat : 64 ∉ text := fun hmem => (h 64 hmem).2 (by decide)
    cases hport : authority.port with
    | none =>
      have hwritten : authority.written = text := by
        simp [AuthorityText.written, hinfo, hhost, hport, HostText.written]
      rw [hwritten, hostAndPort_of_notMem hcolon, portText, cut_eq_none_iff.mpr hcolon]
      exact ⟨rfl, rfl, hat⟩
    | some port =>
      have hwritten : authority.written = text ++ 58 :: port := by
        simp [AuthorityText.written, hinfo, hhost, hport, HostText.written]
      have hdigits : 64 ∉ port :=
        fun hmem => (isdigit_spec (authority.port_chars port hport 64 hmem)).1 rfl
      rw [hwritten, hostAndPort_of_cut (cut_append hcolon port), portText, cut_append hcolon]
      refine ⟨rfl, rfl, ?_⟩
      simp [hat, hdigits]

/-- The parts of an authority are stored as the grammar has them exactly when it
has no user and no literal, every part has room, and no at sign follows. -/
theorem parseUrl_storedIn_iff {scheme : Bytes} (hscheme : ∀ c ∈ scheme, isSchemeChar c = true)
    (authority : AuthorityText) (path : Bytes) :
    (∃ c, parseUrl (scheme ++ ascii "://" ++ authority.written ++ 47 :: path) = .parsed c ∧
        StoredIn scheme authority c) ↔ PlainAuthority scheme path authority := by
  have hcolon : 58 ∉ scheme := fun hmem => (isSchemeChar_spec (hscheme 58 hmem)).1 rfl
  have hat : 64 ∉ scheme := fun hmem => (isSchemeChar_spec (hscheme 64 hmem)).2.1 rfl
  have hmark : 64 ∉ ascii "://" := by decide
  have hchars := authority.written_chars
  constructor
  · rintro ⟨c, hparsed, hstored⟩
    obtain ⟨hvalid, hstorable, rfl⟩ := parseUrl_eq_parsed_iff.mp hparsed
    obtain ⟨hroom, hroom'⟩ := room_of_storable hscheme hchars hstorable
    obtain ⟨path', hcopy, hparts, hauthority⟩ := copy_parts hcolon hchars hroom hroom' path
    have hreadable := hstorable.2
    rw [hparts] at hreadable
    have hhost : (componentsOf (urlCopy (scheme ++ ascii "://" ++ authority.written ++
        47 :: path))).host = (hostAndPort scheme authority.written).1 := by
      rw [componentsOf, hparts, hauthority]
    have hport : (componentsOf (urlCopy (scheme ++ ascii "://" ++ authority.written ++
        47 :: path))).port = (hostAndPort scheme authority.written).2 := by
      rw [componentsOf, hparts, hauthority]
    have hinfo := userinfo_eq_none rfl rfl hhost hport hstored
    have hname := isName_of_stored hinfo hhost hstored
    obtain ⟨-, hportText, hnoAt⟩ := split_of_name hinfo hname scheme
    refine ⟨hvalid, hroom, hinfo, hname, hroom', ?_, ?_⟩
    · have hfits := hreadable.port
      rwa [hauthority, hportText] at hfits
    · have hbehind := hreadable.atSign
      rw [hauthority] at hbehind
      rw [hcopy]
      simp only [List.mem_append, not_or]
      exact ⟨⟨⟨hat, hmark⟩, hnoAt⟩, hbehind⟩
  · rintro ⟨hvalid, hroom, hinfo, hname, hroom', hportRoom, hnoAt⟩
    obtain ⟨path', hcopy, hparts, hauthority⟩ := copy_parts hcolon hchars hroom hroom' path
    obtain ⟨hsplit, hportText, -⟩ := split_of_name hinfo hname scheme
    rw [hcopy, List.mem_append, not_or] at hnoAt
    have hstorable : Storable (urlCopy (scheme ++ ascii "://" ++ authority.written ++
        47 :: path)) := by
      rw [Storable, hparts]
      refine ⟨hroom, ?_, ?_, ?_⟩
      · rwa [hauthority]
      · rw [hauthority, hportText]
        exact hportRoom
      · rw [hauthority]
        exact hnoAt.2
    refine ⟨_, parseUrl_eq_parsed_iff.mpr ⟨hvalid, hstorable, rfl⟩, ?_, ?_, ?_, ?_⟩
    · rw [hinfo]
      rfl
    · rw [hinfo]
      rfl
    · rw [componentsOf, hparts, hauthority, hsplit]
    · rw [componentsOf, hparts, hauthority, hsplit]

/-- `a.example:8443`. -/
def plainAuthority : AuthorityText where
  userinfo := none
  host := .name (ascii "a.example") (by decide +kernel)
  port := some (ascii "8443")
  port_chars := by decide +kernel

/-- `u@a.example`. -/
def userAuthority : AuthorityText where
  userinfo := some ⟨ascii "u", none, by decide +kernel, by decide +kernel⟩
  host := .name (ascii "a.example") (by decide +kernel)
  port := none
  port_chars := by decide +kernel

/-- `[::1]:80`. -/
def literalAuthority : AuthorityText where
  userinfo := none
  host := .literal (ascii "::1") (by decide +kernel)
  port := some (ascii "80")
  port_chars := by decide +kernel

theorem parseUrl_stored_plain :
    ∃ c, parseUrl (ascii "https" ++ ascii "://" ++ plainAuthority.written ++ 47 :: ascii "x") =
        .parsed c ∧ StoredIn (ascii "https") plainAuthority c :=
  (parseUrl_storedIn_iff (by decide +kernel) plainAuthority (ascii "x")).mpr
    ⟨by decide +kernel, by decide, rfl, rfl, by decide +kernel, by decide +kernel,
      by decide +kernel⟩

/-- The user is a part of the host, and the host of a literal is its bracket. -/
theorem parseUrl_user_lost :
    (¬∃ c, parseUrl (ascii "http" ++ ascii "://" ++ userAuthority.written ++ 47 :: ascii "x") =
        .parsed c ∧ StoredIn (ascii "http") userAuthority c) ∧
      ¬∃ c, parseUrl (ascii "http" ++ ascii "://" ++ literalAuthority.written ++ 47 :: ascii "x") =
        .parsed c ∧ StoredIn (ascii "http") literalAuthority c := by
  have huser : parseUrl (ascii "http" ++ ascii "://" ++ userAuthority.written ++
      47 :: ascii "x") = .parsed
        ⟨ascii "http", ascii "u@a.example", ascii "80", ascii "/x", [], [], [], []⟩ := by
    decide +kernel
  have hliteral : parseUrl (ascii "http" ++ ascii "://" ++ literalAuthority.written ++
      47 :: ascii "x") = .parsed
        ⟨ascii "http", ascii "[", ascii ":1]:80", ascii "/x", [], [], [], []⟩ := by
    decide +kernel
  constructor
  · rintro ⟨c, hc, hstored⟩
    rw [huser, ParsedUrl.parsed.injEq] at hc
    subst hc
    exact absurd hstored.host (by decide)
  · rintro ⟨c, hc, hstored⟩
    rw [hliteral, ParsedUrl.parsed.injEq] at hc
    subst hc
    exact absurd hstored.host (by decide)

/-! ## The authority of a request -/

/-- The host as an authority writes it. -/
def writtenHost (lib : AddressLib) (host : Bytes) : Bytes :=
  if lib.inet_pton6 host then ascii "[" ++ host ++ ascii "]" else host

/-- A text that names the host and the port of a URL.  Only the port that the
scheme has by default may be left out. -/
def NamesEndpoint (lib : AddressLib) (c : URLComponents) (text : Bytes) : Prop :=
  text = writtenHost lib c.host ++ ascii ":" ++ c.port ∨
    c.port = (defaultPort c.scheme).getD [] ∧ text = writtenHost lib c.host

/-- An IPv6 address has a colon. -/
def KnowsAddresses (lib : AddressLib) : Prop :=
  ∀ host, lib.inet_pton6 host = true → 58 ∈ host

/-- The host ends at the first colon of the authority. -/
theorem colon_notMem_host {url : Bytes} {c : URLComponents} (h : parseUrl url = .parsed c) :
    58 ∉ c.host := by
  obtain ⟨_, _, rfl⟩ := parseUrl_eq_parsed_iff.mp h
  rw [componentsOf]
  dsimp only
  generalize (authorityPart (schemePart (urlCopy url)).2).1 = authority
  by_cases hcolon : 58 ∈ authority
  · obtain ⟨host, port, rfl, hhost⟩ := List.eq_append_cons_of_mem hcolon
    rw [hostAndPort_of_cut (cut_append hhost port)]
    exact hhost
  · rw [hostAndPort_of_notMem hcolon]
    exact hcolon

/-- The room for an address is that of the address, a colon and a port that is
there. -/
theorem getHeaderAuthority_address {lib : AddressLib} {host : Bytes} (port : Bytes)
    (h : lib.inet_pton4 host = true) :
    getHeaderAuthority lib host port = if port = [] then host else host ++ ascii ":" ++ port := by
  have hcolon : (ascii ":").length = 1 := by decide
  rw [getHeaderAuthority, if_pos h, snprintf]
  cases port with
  | nil =>
    rw [if_pos rfl, if_neg (by decide), List.append_nil]
    exact List.take_left
  | cons digit port =>
    rw [if_neg (List.cons_ne_nil _ _), if_pos (by rw [List.length_cons]; omega)]
    apply List.take_of_length_le
    rw [List.length_append, List.length_append, hcolon]
    omega

/-- A host without a colon is written alone unless it is an address. -/
theorem getHeaderAuthority_name {lib : AddressLib} (hlib : KnowsAddresses lib) {host : Bytes}
    (port : Bytes) (hcolon : 58 ∉ host) (h : ¬lib.inet_pton4 host = true) :
    getHeaderAuthority lib host port = host ∧ writtenHost lib host = host := by
  have hnot : ¬lib.inet_pton6 host = true := fun hliteral => hcolon (hlib host hliteral)
  rw [getHeaderAuthority, writtenHost, if_neg h, if_neg hnot, if_neg hnot]
  exact ⟨rfl, rfl⟩

/-- The text names the host and the port of the URL if and only if the host is
an IPv4 address with a port, or the port is the default of the scheme. -/
theorem getHeaderAuthority_names_iff {lib : AddressLib} (hlib : KnowsAddresses lib) {url : Bytes}
    {c : URLComponents} (h : parseUrl url = .parsed c) :
    NamesEndpoint lib c (getHeaderAuthority lib c.host c.port) ↔
      lib.inet_pton4 c.host = true ∧ c.port ≠ [] ∨
        c.port = (defaultPort c.scheme).getD [] := by
  have hcolon := colon_notMem_host h
  have hwritten : writtenHost lib c.host = c.host := by
    rw [writtenHost, if_neg fun hliteral => hcolon (hlib c.host hliteral)]
  -- a host alone is no host with a colon behind it
  have halone : c.host ≠ c.host ++ ascii ":" ++ c.port := by
    intro heq
    have hlength := congrArg List.length heq
    have hone : (ascii ":").length = 1 := by decide
    rw [List.length_append, List.length_append, hone] at hlength
    omega
  rw [NamesEndpoint, hwritten]
  by_cases haddress : lib.inet_pton4 c.host = true
  · rw [getHeaderAuthority_address c.port haddress]
    by_cases hport : c.port = []
    · rw [if_pos hport]
      constructor
      · rintro (heq | ⟨hdefault, _⟩)
        · exact absurd heq halone
        · exact Or.inr hdefault
      · rintro (⟨_, hne⟩ | hdefault)
        · exact absurd hport hne
        · exact Or.inr ⟨hdefault, rfl⟩
    · rw [if_neg hport]
      exact iff_of_true (Or.inl rfl) (Or.inl ⟨haddress, hport⟩)
  · rw [(getHeaderAuthority_name hlib c.port hcolon haddress).1]
    constructor
    · rintro (heq | ⟨hdefault, _⟩)
      · exact absurd heq halone
      · exact Or.inr hdefault
    · rintro (⟨hliteral, _⟩ | hdefault)
      · exact absurd hliteral haddress
      · exact Or.inr ⟨hdefault, rfl⟩

/-- A resolver for names alone, with one address. -/
def oneAddress : AddressLib where
  inet_pton4 host := host = ascii "10.0.0.1"
  inet_pton6 _ := false

theorem getHeaderAuthority_names_address :
    NamesEndpoint oneAddress ⟨ascii "http", ascii "10.0.0.1", ascii "8080", ascii "/", [], [], [], []⟩
      (getHeaderAuthority oneAddress (ascii "10.0.0.1") (ascii "8080")) := by
  have hparsed : parseUrl (ascii "http://10.0.0.1:8080/") = .parsed
      ⟨ascii "http", ascii "10.0.0.1", ascii "8080", ascii "/", [], [], [], []⟩ := by
    decide +kernel
  have hlib : KnowsAddresses oneAddress := fun host hliteral => by cases hliteral
  exact (getHeaderAuthority_names_iff hlib hparsed).mpr
    (Or.inl ⟨by decide +kernel, by decide⟩)

/-- The port of a name is left out whatever it is. -/
theorem getHeaderAuthority_drops_port :
    ¬∀ (lib : AddressLib) (url : Bytes) (c : URLComponents), KnowsAddresses lib →
      parseUrl url = .parsed c → NamesEndpoint lib c (getHeaderAuthority lib c.host c.port) := by
  intro h
  have hparsed : parseUrl (ascii "https://a.example:8443/") = .parsed
      ⟨ascii "https", ascii "a.example", ascii "8443", ascii "/", [], [], [], []⟩ := by
    decide +kernel
  have hlib : KnowsAddresses oneAddress := fun host hliteral => by cases hliteral
  have hnames := h oneAddress _ _ hlib hparsed
  rw [NamesEndpoint] at hnames
  revert hnames
  decide +kernel

end HttpRequestClient.Url
