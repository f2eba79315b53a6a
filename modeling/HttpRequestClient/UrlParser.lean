import HttpRequestClient.BasketHeaders

/-!
# `parseUrl`

The parser of `UrlParser.c`.  It copies the first 2047 characters of a URL and
moves one cursor over the copy: the scheme, the authority, the path, the query
and the fragment are cut off in turn, and at last the query is joined to the
path again.

A component is an array of fixed size.  The source checks none of the sizes,
so a text that does not fit is written past its array: there the model has no
components.  The at sign of user information is looked for behind the
authority, in the copy of the URL.  Where there is one, the source takes its
distance from the authority, which is another array, as a length: this too is
outside of any array.

`Readable` says of a copy that none of this happens, and `parseUrl_spec` what
the components are then.
-/

namespace HttpRequestClient.Url

open Parts

/-! ## The components -/

def MAX_URL_LENGTH : Nat := 2048

def SCHEME_SIZE : Nat := 16
def HOST_SIZE : Nat := 256
def PORT_SIZE : Nat := 8
def PATH_SIZE : Nat := 2048
def QUERY_SIZE : Nat := 2048
def FRAGMENT_SIZE : Nat := 2048

/-- The size of the copy of the authority. -/
def AUTHORITY_SIZE : Nat := 256

/-- All components of a URL.  Those that a request is made of are in
`URLComponents.sent`. -/
structure URLComponents where
  scheme : Bytes
  host : Bytes
  port : Bytes
  path : Bytes
  query : Bytes
  fragment : Bytes
  username : Bytes
  password : Bytes
  deriving Repr, DecidableEq

/-- As `memset` leaves them. -/
def URLComponents.zero : URLComponents := ⟨[], [], [], [], [], [], [], []⟩

def URLComponents.sent (components : URLComponents) : HttpRequestClient.URLComponents :=
  ⟨components.host, components.port, components.path⟩

/-- A text and its terminator in an array, none when it does not fit. -/
def store (size : Nat) (text : Bytes) : Option Bytes :=
  if text.length < size then some text else none

/-! ## Searches -/

/-- What stands before the first occurrence of a character, and the rest from
there on. -/
def strchr (c : UInt8) (s : Bytes) : Option (Bytes × Bytes) :=
  (cut c s).map fun (before, after) => (before, c :: after)

/-- What stands before the first occurrence of a text, and what behind it. -/
def strstr (needle : Bytes) : Bytes → Option (Bytes × Bytes)
  | [] => if needle = [] then some ([], []) else none
  | c :: s =>
    if needle.isPrefixOf (c :: s) then some ([], (c :: s).drop needle.length)
    else (strstr needle s).map fun (before, after) => (c :: before, after)

/-- The text up to the first `c`; where there is none, up to the first of the
next character, and at last the whole text. -/
def upTo : List UInt8 → Bytes → Bytes × Bytes
  | [], s => (s, [])
  | c :: cs, s => (strchr c s).getD (upTo cs s)

/-! ## The parser -/

def validateUrl (url : Bytes) : Bool :=
  url ≠ [] ∧ (strstr (ascii "://") url).isSome ∧ url.all isValidUrlChar

def parseUrlScheme (current : Bytes) (components : URLComponents) :
    Option (Bytes × URLComponents) :=
  match strstr (ascii "://") current with
  | some (scheme, rest) =>
    (store SCHEME_SIZE scheme).map fun scheme => (rest, { components with scheme := scheme })
  | none => some (current, components)

/-- The port of a scheme that has one. -/
def defaultPort (scheme : Bytes) : Option Bytes :=
  if scheme = ascii "https" then some (ascii "443")
  else if scheme = ascii "http" then some (ascii "80")
  else if scheme = ascii "ftp" then some (ascii "21")
  else if scheme = ascii "ssh" then some (ascii "22")
  else none

/-- The host ends at the first colon. -/
def parseHostAndPort (authority : Bytes) (components : URLComponents) : Option URLComponents :=
  match cut 58 authority with
  | some (host, port) => do
    let host ← store HOST_SIZE host
    let port ← store PORT_SIZE port
    some { components with host := host, port := port }
  | none => do
    let host ← store HOST_SIZE authority
    some { components with
      host := host
      port := (defaultPort components.scheme).getD components.port }

def parseUrlAuthority (current : Bytes) (components : URLComponents) :
    Option (Bytes × URLComponents) := do
  let (authority, current) := upTo [47, 63, 35] current
  let authority ← store AUTHORITY_SIZE authority
  -- `strchr(*current, '@')` searches what is left behind the authority, and
  -- `atSign - authority` is the distance between two arrays
  if 64 ∈ current then none
  else (parseHostAndPort authority components).map fun components => (current, components)

def parseUrlPath (current : Bytes) (components : URLComponents) :
    Option (Bytes × URLComponents) :=
  if current.head? = some 47 then
    let (path, current) := upTo [63, 35] current
    (store PATH_SIZE path).map fun path => (current, { components with path := path })
  else some (current, components)

def parseUrlQuery (current : Bytes) (components : URLComponents) :
    Option (Bytes × URLComponents) :=
  match current with
  | 63 :: current =>
    let (query, current) := upTo [35] current
    (store QUERY_SIZE query).map fun query => (current, { components with query := query })
  | _ => some (current, components)

/-- The path with the query.  Only a path that does not end with a slash gets a
question mark. -/
def joinQuery (path query : Bytes) : Bytes :=
  if query = [] then path
  else if path.length > 0 ∧ path.getLast? ≠ some 47 then path ++ ascii "?" ++ query
  else path ++ query

def appendQueryToPath (components : URLComponents) : Option URLComponents :=
  (store PATH_SIZE (joinQuery components.path components.query)).map fun path =>
    { components with path := path, query := [] }

def parseUrlFragment (current : Bytes) (components : URLComponents) : Option URLComponents :=
  match current with
  | 35 :: fragment =>
    (store FRAGMENT_SIZE fragment).map fun fragment => { components with fragment := fragment }
  | _ => some components

/-- What follows the authority. -/
def parseUrlTarget (current : Bytes) (components : URLComponents) : Option URLComponents := do
  let (current, components) ← parseUrlPath current components
  let (current, components) ← parseUrlQuery current components
  let components ← appendQueryToPath components
  parseUrlFragment current components

def parseUrlCopy (urlCopy : Bytes) : Option URLComponents := do
  let (current, components) ← parseUrlScheme urlCopy URLComponents.zero
  let (current, components) ← parseUrlAuthority current components
  parseUrlTarget current components

/-- How a call ends: with a code, with the components, or outside of an array. -/
inductive ParsedUrl where
  | rejected (code : Int)
  | parsed (components : URLComponents)
  | outOfBounds
  deriving Repr, DecidableEq

/-- The copy that is parsed. -/
def urlCopy (url : Bytes) : Bytes := url.take (MAX_URL_LENGTH - 1)

def parseUrl (url : Bytes) : ParsedUrl :=
  if ¬validateUrl url then .rejected (-2)
  else
    match parseUrlCopy (urlCopy url) with
    | some components => .parsed components
    | none => .outOfBounds

/-! ## The searches cut -/

theorem store_of_lt {size : Nat} {text : Bytes} (h : text.length < size) :
    store size text = some text := if_pos h

theorem store_of_le {size : Nat} {text : Bytes} (h : size ≤ text.length) :
    store size text = none := if_neg (by omega)

theorem strchr_append {c : UInt8} {before : Bytes} (h : c ∉ before) (after : Bytes) :
    strchr c (before ++ c :: after) = some (before, c :: after) := by
  rw [strchr, cut_append h]
  rfl

theorem strchr_eq_none_iff {c : UInt8} {s : Bytes} : strchr c s = none ↔ c ∉ s := by
  rw [strchr, Option.map_eq_none_iff, cut_eq_none_iff]

theorem upTo_found {c : UInt8} {before : Bytes} (h : c ∉ before) (cs : List UInt8)
    (after : Bytes) : upTo (c :: cs) (before ++ c :: after) = (before, c :: after) := by
  rw [upTo, strchr_append h]
  rfl

theorem upTo_absent {c : UInt8} {s : Bytes} (h : c ∉ s) (cs : List UInt8) :
    upTo (c :: cs) s = upTo cs s := by
  rw [upTo, strchr_eq_none_iff.mpr h]
  rfl

/-- Nothing is lost, and the rest is empty or starts with one of the
characters. -/
theorem upTo_spec (cs : List UInt8) (s : Bytes) :
    (upTo cs s).1 ++ (upTo cs s).2 = s ∧ ∀ c ∈ (upTo cs s).2.head?, c ∈ cs := by
  induction cs with
  | nil => simp [upTo]
  | cons c cs ih =>
    by_cases hmem : c ∈ s
    · obtain ⟨before, after, rfl, hbefore⟩ := List.eq_append_cons_of_mem hmem
      rw [upTo_found hbefore]
      simp
    · rw [upTo_absent hmem]
      exact ⟨ih.1, fun d hd => List.mem_cons_of_mem _ (ih.2 d hd)⟩

theorem strstr_append (needle rest : Bytes) : strstr needle (needle ++ rest) = some ([], rest) := by
  cases needle with
  | nil => cases rest <;> simp [strstr]
  | cons c needle => simp [strstr]

/-- A needle that starts with a character that the text before it lacks is
found where it stands. -/
theorem strstr_found {c : UInt8} {before : Bytes} (h : c ∉ before) (needle rest : Bytes) :
    strstr (c :: needle) (before ++ (c :: needle) ++ rest) = some (before, rest) := by
  induction before with
  | nil => exact strstr_append (c :: needle) rest
  | cons d before ih =>
    rw [List.mem_cons, not_or] at h
    have hpre : ((c :: needle).isPrefixOf (d :: (before ++ (c :: needle) ++ rest))) = false := by
      simp [List.isPrefixOf, h.1]
    rw [List.cons_append, List.cons_append, strstr]
    rw [if_neg (by rw [hpre]; exact Bool.false_ne_true), ih h.2]
    rfl

theorem strstr_eq {needle s before after : Bytes} (h : strstr needle s = some (before, after)) :
    s = before ++ needle ++ after := by
  induction s generalizing before with
  | nil =>
    rw [strstr] at h
    split at h
    · rename_i hnil
      cases h
      rw [hnil]
      rfl
    · cases h
  | cons c s ih =>
    rw [strstr] at h
    split at h
    · rename_i hpre
      cases h
      obtain ⟨rest, hrest⟩ := List.isPrefixOf_iff_prefix.mp hpre
      rw [← hrest]
      simp
    · obtain ⟨⟨before', after'⟩, hfound, heq⟩ := Option.map_eq_some_iff.mp h
      cases heq
      rw [ih hfound]
      rfl

theorem isSome_strstr (needle before after : Bytes) :
    (strstr needle (before ++ needle ++ after)).isSome = true := by
  induction before with
  | nil =>
    rw [List.nil_append, strstr_append]
    rfl
  | cons c before ih =>
    rw [List.cons_append, List.cons_append, strstr]
    split
    · rfl
    · rw [Option.isSome_map]
      exact ih

/-- What is found in the first characters is what is found in all. -/
theorem strstr_take {needle s before after : Bytes} {n : Nat}
    (h : strstr needle (s.take n) = some (before, after)) :
    strstr needle s = some (before, after ++ s.drop n) := by
  induction s generalizing n before with
  | nil => simpa using h
  | cons c s ih =>
    cases n with
    | zero =>
      rw [List.take_zero, strstr] at h
      split at h
      · rename_i hnil
        cases h
        rw [hnil]
        exact strstr_append [] (c :: s)
      · cases h
    | succ n =>
      rw [List.take_succ_cons, strstr] at h
      rw [strstr, List.drop_succ_cons]
      split at h
      · rename_i hpre
        cases h
        obtain ⟨rest, hrest⟩ := List.isPrefixOf_iff_prefix.mp hpre
        have hwhole : c :: s = needle ++ (rest ++ s.drop n) := by
          rw [← List.append_assoc, hrest, List.cons_append, List.take_append_drop]
        have hpre' : needle.isPrefixOf (c :: s) = true :=
          List.isPrefixOf_iff_prefix.mpr ⟨_, hwhole.symm⟩
        rw [if_pos hpre', hwhole, ← hrest]
        simp
      · rename_i hpre
        obtain ⟨⟨before', after'⟩, hfound, heq⟩ := Option.map_eq_some_iff.mp h
        cases heq
        have hpre' : ¬needle.isPrefixOf (c :: s) = true := by
          intro hwhole
          have hroom : needle.length ≤ n := by
            have hlength := congrArg List.length (strstr_eq hfound)
            simp only [List.length_take, List.length_append] at hlength
            omega
          have hwithin : needle <+: (c :: s).take (n + 1) :=
            List.prefix_take_iff.mpr ⟨List.isPrefixOf_iff_prefix.mp hwhole, by omega⟩
          rw [List.take_succ_cons] at hwithin
          exact hpre (List.isPrefixOf_iff_prefix.mpr hwithin)
        rw [if_neg hpre', ih hfound]
        rfl

/-! ## What the parser finds -/

/-- The authority and what is behind it. -/
def authorityPart (rest : Bytes) : Bytes × Bytes := upTo [47, 63, 35] rest

/-- What stands behind the first colon. -/
def portText (authority : Bytes) : Bytes := ((cut 58 authority).map Prod.snd).getD []

/-- The host and the port that an authority is split into. -/
def hostAndPort (scheme authority : Bytes) : Bytes × Bytes :=
  (cut 58 authority).getD (authority, (defaultPort scheme).getD [])

/-- The text behind the scheme has an authority that fits its arrays, and no at
sign behind it. -/
structure Readable (rest : Bytes) : Prop where
  authority : (authorityPart rest).1.length < AUTHORITY_SIZE
  port : (portText (authorityPart rest).1).length < PORT_SIZE
  atSign : 64 ∉ (authorityPart rest).2

instance decidableReadable (rest : Bytes) : Decidable (Readable rest) :=
  decidable_of_iff ((authorityPart rest).1.length < AUTHORITY_SIZE ∧
      (portText (authorityPart rest).1).length < PORT_SIZE ∧ 64 ∉ (authorityPart rest).2)
    ⟨fun h => ⟨h.1, h.2.1, h.2.2⟩, fun h => ⟨h.authority, h.port, h.atSign⟩⟩

/-- The path of the text behind the authority, and the rest. -/
def pathPart (current : Bytes) : Bytes × Bytes :=
  if current.head? = some 47 then upTo [63, 35] current else ([], current)

def queryPart (current : Bytes) : Bytes × Bytes :=
  match current with
  | 63 :: current => upTo [35] current
  | _ => ([], current)

def fragmentPart (current : Bytes) : Bytes :=
  match current with
  | 35 :: fragment => fragment
  | _ => []

/-- The path that a request gets for the text behind the authority. -/
def targetOf (current : Bytes) : Bytes :=
  joinQuery (pathPart current).1 (queryPart (pathPart current).2).1

theorem pathPart_append (current : Bytes) :
    (pathPart current).1 ++ (pathPart current).2 = current := by
  rw [pathPart]
  split
  · exact (upTo_spec _ _).1
  · rfl

theorem length_queryPart (current : Bytes) :
    (queryPart current).1.length + (queryPart current).2.length ≤ current.length ∧
      ((queryPart current).1 ≠ [] →
        (queryPart current).1.length + (queryPart current).2.length < current.length) := by
  unfold queryPart
  split
  · rename_i current
    have hlength := congrArg List.length (upTo_spec [35] current).1
    rw [List.length_append] at hlength
    simp only [List.length_cons]
    omega
  · simp

theorem length_fragmentPart (current : Bytes) : (fragmentPart current).length ≤ current.length := by
  unfold fragmentPart
  split
  · simp
  · simp

theorem length_joinQuery (path query : Bytes) :
    (joinQuery path query).length ≤ path.length + query.length +
      if query = [] then 0 else 1 := by
  have hmark : (ascii "?").length = 1 := by decide
  unfold joinQuery
  split
  · rename_i hnil
    simp [hnil]
  · split <;> simp only [List.length_append, hmark] <;> omega

/-- The host is cut off, and the port is that of the authority or of the
scheme. -/
theorem parseHostAndPort_spec {authority : Bytes} (hauthority : authority.length < AUTHORITY_SIZE)
    {components : URLComponents} (hport : components.port = []) :
    parseHostAndPort authority components =
      if (portText authority).length < PORT_SIZE then
        some { components with
          host := (hostAndPort components.scheme authority).1
          port := (hostAndPort components.scheme authority).2 }
      else none := by
  rw [parseHostAndPort, portText, hostAndPort]
  cases hcut : cut 58 authority with
  | none =>
    have hhost : store HOST_SIZE authority = some authority := store_of_lt hauthority
    simp [hhost, hport, PORT_SIZE]
  | some parts =>
    obtain ⟨host, port⟩ := parts
    obtain ⟨-, hsplit⟩ := cut_eq_some_iff.mp hcut
    have hhost : host.length < HOST_SIZE := by
      have hlength := congrArg List.length hsplit
      simp only [List.length_append, List.length_cons] at hlength
      unfold AUTHORITY_SIZE HOST_SIZE at *
      omega
    simp only [store_of_lt hhost, Option.map_some, Option.getD_some]
    by_cases hfits : port.length < PORT_SIZE
    · simp [store_of_lt hfits, hfits]
    · simp [store_of_le (Nat.le_of_not_lt hfits), hfits]

theorem parseUrlAuthority_spec (rest : Bytes) {components : URLComponents}
    (hport : components.port = []) :
    parseUrlAuthority rest components =
      if Readable rest then
        some ((authorityPart rest).2, { components with
          host := (hostAndPort components.scheme (authorityPart rest).1).1
          port := (hostAndPort components.scheme (authorityPart rest).1).2 })
      else none := by
  have hparts : upTo [47, 63, 35] rest = authorityPart rest := rfl
  rw [parseUrlAuthority, hparts]
  cases hpart : authorityPart rest with | mk authority current => ?_
  dsimp only
  by_cases hauthority : authority.length < AUTHORITY_SIZE
  · rw [store_of_lt hauthority, Option.bind_eq_bind, Option.bind_some,
      parseHostAndPort_spec hauthority hport]
    by_cases hat : 64 ∈ current
    · rw [if_pos hat, if_neg]
      exact fun h => h.atSign (by rw [hpart]; exact hat)
    · rw [if_neg hat]
      by_cases hfits : (portText authority).length < PORT_SIZE
      · rw [if_pos hfits, if_pos ⟨by rw [hpart]; exact hauthority, by rw [hpart]; exact hfits,
          by rw [hpart]; exact hat⟩]
        rfl
      · rw [if_neg hfits, if_neg]
        · rfl
        · exact fun h => hfits (by simpa [hpart] using h.port)
  · rw [store_of_le (Nat.le_of_not_lt hauthority), if_neg]
    · rfl
    · exact fun h => hauthority (by simpa [hpart] using h.authority)

/-! ### Behind the authority

The arrays are as large as the copy, so nothing can fail. -/

theorem parseUrlPath_spec {current : Bytes} (hlength : current.length < MAX_URL_LENGTH)
    {components : URLComponents} (hpath : components.path = []) :
    parseUrlPath current components =
      some ((pathPart current).2, { components with path := (pathPart current).1 }) := by
  have hsplit := congrArg List.length (pathPart_append current)
  have hroom : (pathPart current).1.length < PATH_SIZE := by
    rw [List.length_append] at hsplit
    unfold MAX_URL_LENGTH PATH_SIZE at *
    omega
  unfold pathPart at hroom ⊢
  unfold parseUrlPath
  split
  · rename_i hslash
    rw [if_pos hslash] at hroom
    simp [store_of_lt hroom]
  · simp [← hpath]

theorem parseUrlQuery_spec {current : Bytes} (hlength : current.length < MAX_URL_LENGTH)
    {components : URLComponents} (hquery : components.query = []) :
    parseUrlQuery current components =
      some ((queryPart current).2, { components with query := (queryPart current).1 }) := by
  have hle := (length_queryPart current).1
  have hroom : (queryPart current).1.length < QUERY_SIZE := by
    unfold MAX_URL_LENGTH QUERY_SIZE at *
    omega
  unfold queryPart at hroom ⊢
  unfold parseUrlQuery
  split
  · simp only at hroom
    simp [store_of_lt hroom]
  · simp [← hquery]

theorem parseUrlFragment_spec {current : Bytes} (hlength : current.length < MAX_URL_LENGTH)
    {components : URLComponents} (hfragment : components.fragment = []) :
    parseUrlFragment current components =
      some { components with fragment := fragmentPart current } := by
  have hle := length_fragmentPart current
  have hroom : (fragmentPart current).length < FRAGMENT_SIZE := by
    unfold MAX_URL_LENGTH FRAGMENT_SIZE at *
    omega
  unfold fragmentPart at hroom ⊢
  unfold parseUrlFragment
  split
  · simp only at hroom
    simp [store_of_lt hroom]
  · simp [← hfragment]

/-- The fragment that is left behind the path and the query. -/
def fragmentOf (current : Bytes) : Bytes := fragmentPart (queryPart (pathPart current).2).2

theorem parseUrlTarget_spec {current : Bytes} (hlength : current.length < MAX_URL_LENGTH)
    {components : URLComponents} (hpath : components.path = []) (hquery : components.query = [])
    (hfragment : components.fragment = []) :
    parseUrlTarget current components =
      some { components with path := targetOf current, fragment := fragmentOf current } := by
  have hsplit := congrArg List.length (pathPart_append current)
  rw [List.length_append] at hsplit
  obtain ⟨hqueryLe, hqueryLt⟩ := length_queryPart (pathPart current).2
  have hjoin : (joinQuery (pathPart current).1 (queryPart (pathPart current).2).1).length <
      PATH_SIZE := by
    have hle := length_joinQuery (pathPart current).1 (queryPart (pathPart current).2).1
    unfold MAX_URL_LENGTH PATH_SIZE at *
    split at hle
    · omega
    · rename_i hne
      have hlt := hqueryLt hne
      omega
  rw [parseUrlTarget, parseUrlPath_spec hlength hpath, Option.bind_eq_bind, Option.bind_some]
  dsimp only
  rw [parseUrlQuery_spec (by omega) (by exact hquery), Option.bind_eq_bind, Option.bind_some]
  dsimp only
  rw [appendQueryToPath, store_of_lt hjoin, Option.map_some, Option.bind_some,
    parseUrlFragment_spec (by omega) (by exact hfragment), targetOf, fragmentOf, hquery]

/-! ## The whole URL -/

/-- The scheme and the text behind it, as the parser finds them in a copy. -/
def schemePart (copy : Bytes) : Bytes × Bytes := (strstr (ascii "://") copy).getD ([], copy)

/-- The copy has a scheme and an authority that can be stored. -/
def Storable (copy : Bytes) : Prop :=
  (schemePart copy).1.length < SCHEME_SIZE ∧ Readable (schemePart copy).2

instance decidableStorable (copy : Bytes) : Decidable (Storable copy) :=
  inferInstanceAs (Decidable (_ ∧ _))

/-- The components that are made of a copy. -/
def componentsOf (copy : Bytes) : URLComponents where
  scheme := (schemePart copy).1
  host := (hostAndPort (schemePart copy).1 (authorityPart (schemePart copy).2).1).1
  port := (hostAndPort (schemePart copy).1 (authorityPart (schemePart copy).2).1).2
  path := targetOf (authorityPart (schemePart copy).2).2
  query := []
  fragment := fragmentOf (authorityPart (schemePart copy).2).2
  username := []
  password := []

theorem length_schemePart (copy : Bytes) : (schemePart copy).2.length ≤ copy.length := by
  rw [schemePart]
  cases hfound : strstr (ascii "://") copy with
  | none => simp
  | some parts =>
    have hlength := congrArg List.length (strstr_eq hfound)
    simp only [List.length_append] at hlength
    simp only [Option.getD_some]
    omega

theorem parseUrlScheme_spec (copy : Bytes) :
    parseUrlScheme copy URLComponents.zero =
      if (schemePart copy).1.length < SCHEME_SIZE then
        some ((schemePart copy).2, { URLComponents.zero with scheme := (schemePart copy).1 })
      else none := by
  rw [parseUrlScheme, schemePart]
  cases hfound : strstr (ascii "://") copy with
  | none => simp [URLComponents.zero, SCHEME_SIZE]
  | some parts =>
    simp only [Option.getD_some]
    by_cases hfits : parts.1.length < SCHEME_SIZE
    · simp [store_of_lt hfits, hfits]
    · simp [store_of_le (Nat.le_of_not_lt hfits), hfits]

theorem parseUrlCopy_spec {copy : Bytes} (hlength : copy.length < MAX_URL_LENGTH) :
    parseUrlCopy copy = if Storable copy then some (componentsOf copy) else none := by
  rw [parseUrlCopy, parseUrlScheme_spec]
  by_cases hscheme : (schemePart copy).1.length < SCHEME_SIZE
  · rw [if_pos hscheme, Option.bind_eq_bind, Option.bind_some]
    dsimp only
    rw [parseUrlAuthority_spec _ (by rfl)]
    by_cases hreadable : Readable (schemePart copy).2
    · have hbehind : (authorityPart (schemePart copy).2).2.length < MAX_URL_LENGTH := by
        have hsplit := congrArg List.length (upTo_spec [47, 63, 35] (schemePart copy).2).1
        have hle := length_schemePart copy
        rw [List.length_append] at hsplit
        rw [authorityPart]
        omega
      rw [if_pos hreadable, if_pos ⟨hscheme, hreadable⟩, Option.bind_some]
      exact parseUrlTarget_spec hbehind rfl rfl rfl
    · rw [if_neg hreadable, if_neg fun h => hreadable h.2]
      rfl
  · rw [if_neg hscheme, if_neg fun h => hscheme h.1]
    rfl

/-- A beginning that has room is copied whole. -/
theorem urlCopy_append {front : Bytes} (h : front.length < MAX_URL_LENGTH) (rest : Bytes) :
    urlCopy (front ++ rest) = front ++ rest.take (MAX_URL_LENGTH - 1 - front.length) := by
  rw [urlCopy, List.take_append, List.take_of_length_le (by omega)]

/-- A URL with valid characters has the components of its copy, unless an array
is overrun. -/
theorem parseUrl_spec {url : Bytes} (hvalid : validateUrl url = true) :
    parseUrl url =
      if Storable (urlCopy url) then .parsed (componentsOf (urlCopy url)) else .outOfBounds := by
  have hlength : (urlCopy url).length < MAX_URL_LENGTH := by
    rw [urlCopy, List.length_take, MAX_URL_LENGTH]
    omega
  rw [parseUrl, if_neg (not_not_intro hvalid), parseUrlCopy_spec hlength]
  by_cases hstorable : Storable (urlCopy url)
  · rw [if_pos hstorable, if_pos hstorable]
  · rw [if_neg hstorable, if_neg hstorable]

theorem parseUrl_eq_parsed_iff {url : Bytes} {components : URLComponents} :
    parseUrl url = .parsed components ↔
      validateUrl url = true ∧ Storable (urlCopy url) ∧ components = componentsOf (urlCopy url) := by
  by_cases hvalid : validateUrl url = true
  · rw [parseUrl_spec hvalid]
    split
    · rename_i hstorable
      simp [hvalid, hstorable, eq_comm]
    · rename_i hstorable
      simp [hstorable]
  · rw [parseUrl, if_pos hvalid]
    simp [hvalid]

end HttpRequestClient.Url
