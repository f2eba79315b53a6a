import HttpRequestClient.UrlParser

/-!
# The fingerprint of a browser

`BrowserHandler.c`: which wire profile a request gets.  The caller pins one
with a `clientHelloId`, or the user agent decides.

A profile is given by what the builder of the headers reads of it.  Left out:
its frames and its part in the TLS handshake.
-/

namespace HttpRequestClient

open Url

/-! ## Profiles -/

inductive BrowserType where
  | unknown
  | chrome
  | chromeIos
  | firefox
  | safari
  | edge
  | opera
  | ie
  deriving Repr, DecidableEq

inductive PseudoHeaderType where
  | method
  | authority
  | scheme
  | path
  deriving Repr, DecidableEq

/-- The order has each of the four pseudo headers once. -/
structure BrowserFingerprint where
  clientHelloId : Bytes
  headerValueMaxLength : Nat
  pseudoHeaderOrder : List PseudoHeaderType
  order_perm : pseudoHeaderOrder.Perm [.method, .authority, .scheme, .path]

def CHROME_PSEUDO_ORDER : List PseudoHeaderType := [.method, .authority, .scheme, .path]
def CRIOS_PSEUDO_ORDER : List PseudoHeaderType := [.method, .scheme, .authority, .path]

/-- The profiles of desktop Chrome differ in their TLS features only. -/
def chromeFingerprint (clientHelloId : Bytes) : BrowserFingerprint where
  clientHelloId := clientHelloId
  headerValueMaxLength := 4096
  pseudoHeaderOrder := CHROME_PSEUDO_ORDER
  order_perm := List.Perm.refl _

def CHROME_FINGERPRINT_150 : BrowserFingerprint := chromeFingerprint (ascii "hellochrome_150")
def CHROME_FINGERPRINT_151 : BrowserFingerprint := chromeFingerprint (ascii "hellochrome_151")
def CHROME_FINGERPRINT_152 : BrowserFingerprint := chromeFingerprint (ascii "hellochrome_152")

def CHROME_FINGERPRINT : BrowserFingerprint := CHROME_FINGERPRINT_152

def CRIOS_FINGERPRINT_150 : BrowserFingerprint where
  clientHelloId := ascii "hellocrios_150"
  headerValueMaxLength := 4096
  pseudoHeaderOrder := CRIOS_PSEUDO_ORDER
  order_perm := by decide

def CRIOS_FINGERPRINT : BrowserFingerprint := CRIOS_FINGERPRINT_150

structure BrowserProfileFamily where
  autoId : Bytes
  uaVersionMarker : Bytes
  profiles : List BrowserFingerprint
  defaultProfile : BrowserFingerprint

def CHROME_FAMILY : BrowserProfileFamily where
  autoId := ascii "hellochrome_auto"
  uaVersionMarker := ascii "Chrome/"
  profiles := [CHROME_FINGERPRINT_150, CHROME_FINGERPRINT_151, CHROME_FINGERPRINT_152]
  defaultProfile := CHROME_FINGERPRINT

def CRIOS_FAMILY : BrowserProfileFamily where
  autoId := ascii "hellocrios_auto"
  uaVersionMarker := ascii "CriOS/"
  profiles := [CRIOS_FINGERPRINT_150]
  defaultProfile := CRIOS_FINGERPRINT

def BROWSER_FAMILIES : List BrowserProfileFamily := [CHROME_FAMILY, CRIOS_FAMILY]

/-! ## Lookup -/

/-- Whether `strstr` finds the text. -/
def hasText (s needle : Bytes) : Bool := (Url.strstr needle s).isSome

def detectBrowseType (ua : Bytes) : BrowserType :=
  if hasText ua (ascii "Opr/") || hasText ua (ascii "Opera") then .opera
  else if hasText ua (ascii "Edg") then .edge
  else if hasText ua (ascii "CriOS") then .chromeIos
  else if hasText ua (ascii "Chrome") then .chrome
  else if hasText ua (ascii "Firefox") then .firefox
  else if hasText ua (ascii "Safari") then .safari
  else .unknown

/-- Null for no type: what is not known is taken for Chrome. -/
def getBrowserFingerprint : BrowserType → BrowserFingerprint
  | .chromeIos => CRIOS_FINGERPRINT
  | _ => CHROME_FINGERPRINT

/-- What `strtol` has left of a text behind blanks and a sign. -/
def behindSign (s : Bytes) : Bytes :=
  match s.dropWhile isspace with
  | 45 :: rest => rest
  | 43 :: rest => rest
  | rest => rest

/-- `strtol` converts something: `end` is not where the text starts. -/
def hasNumber (s : Bytes) : Bool := (behindSign s).head?.any isdigit

/-- The number behind the marker, -1 when there is none. -/
def uaMajorVersion (ua marker : Bytes) : Int :=
  match Url.strstr marker ua with
  | none => -1
  | some (_, version) => if hasNumber version then strtol version 10 else -1

/-- The number behind the last underscore, -1 when there is none or it does not
end the text. -/
def profileVersion (profile : BrowserFingerprint) : Int :=
  if 95 ∈ profile.clientHelloId then
    let version := (profile.clientHelloId.reverse.takeWhile (· ≠ 95)).reverse
    if hasNumber version ∧ (behindSign version).all isdigit then strtol version 10 else -1
  else -1

def findProfileByVersion (family : BrowserProfileFamily) (version : Int) :
    Option BrowserFingerprint :=
  if version < 0 then none
  else family.profiles.find? fun profile => profileVersion profile = version

def findProfileById (family : BrowserProfileFamily) (clientHelloId : Bytes) :
    Option BrowserFingerprint :=
  family.profiles.find? fun profile => strcasecmp clientHelloId profile.clientHelloId = 0

/-- The loop over the families. -/
def searchFamilies (clientHelloId ua : Bytes) : List BrowserProfileFamily → Option BrowserFingerprint
  | [] => none
  | family :: families =>
    if strcasecmp clientHelloId family.autoId = 0 then
      let matched := findProfileByVersion family (uaMajorVersion ua family.uaVersionMarker)
      some (matched.getD family.defaultProfile)
    else
      match findProfileById family clientHelloId with
      | some pinned => some pinned
      | none => searchFamilies clientHelloId ua families

def getBrowserFingerprintById (clientHelloId ua : Bytes) : Option BrowserFingerprint :=
  if clientHelloId = [] then none else searchFamilies clientHelloId ua BROWSER_FAMILIES

/-! ## The limit for header values -/

/-- All profiles of a family have the same limit. -/
def SameLimit (family : BrowserProfileFamily) : Prop :=
  family.defaultProfile.headerValueMaxLength = 4096 ∧
    ∀ profile ∈ family.profiles, profile.headerValueMaxLength = 4096

theorem sameLimit_of_mem {family : BrowserProfileFamily} (h : family ∈ BROWSER_FAMILIES) :
    SameLimit family := by
  simp only [BROWSER_FAMILIES, List.mem_cons, List.not_mem_nil, or_false] at h
  rcases h with rfl | rfl
  · refine ⟨rfl, fun profile hprofile => ?_⟩
    simp only [CHROME_FAMILY, List.mem_cons, List.not_mem_nil, or_false] at hprofile
    rcases hprofile with rfl | rfl | rfl <;> rfl
  · refine ⟨rfl, fun profile hprofile => ?_⟩
    simp only [CRIOS_FAMILY, List.mem_cons, List.not_mem_nil, or_false] at hprofile
    rcases hprofile with rfl
    rfl

theorem searchFamilies_limit {clientHelloId ua : Bytes} {families : List BrowserProfileFamily}
    (hfamilies : ∀ family ∈ families, SameLimit family) {profile : BrowserFingerprint}
    (h : searchFamilies clientHelloId ua families = some profile) :
    profile.headerValueMaxLength = 4096 := by
  induction families with
  | nil => cases h
  | cons family families ih =>
    obtain ⟨hdefault, hprofiles⟩ := hfamilies family List.mem_cons_self
    rw [searchFamilies] at h
    split at h
    · cases hmatched : findProfileByVersion family (uaMajorVersion ua family.uaVersionMarker) with
      | none =>
        rw [hmatched] at h
        cases h
        exact hdefault
      | some matched =>
        rw [hmatched] at h
        cases h
        rw [findProfileByVersion] at hmatched
        split at hmatched
        · cases hmatched
        · exact hprofiles _ (List.mem_of_find?_eq_some hmatched)
    · split at h
      · rename_i pinned hpinned
        cases h
        exact hprofiles _ (List.mem_of_find?_eq_some hpinned)
      · exact ih (fun other hother => hfamilies other (List.mem_cons_of_mem _ hother)) h

/-- A value of up to 4096 bytes is sent in one header, whatever the browser. -/
theorem getBrowserFingerprintById_limit {clientHelloId ua : Bytes} {profile : BrowserFingerprint}
    (h : getBrowserFingerprintById clientHelloId ua = some profile) :
    profile.headerValueMaxLength = 4096 := by
  rw [getBrowserFingerprintById] at h
  split at h
  · cases h
  · exact searchFamilies_limit (fun family hfamily => sameLimit_of_mem hfamily) h

theorem getBrowserFingerprint_limit (type : BrowserType) :
    (getBrowserFingerprint type).headerValueMaxLength = 4096 := by
  cases type <;> rfl

end HttpRequestClient
