import HttpRequestClient.BuiltHeaders

/-!
# The profile that follows the user agent

A request without a `clientHelloId` gets its profile by the type of the
browser, one with an `_auto` id by the version in its user agent.  Both are
said to follow the user agent.

* `searchFamilies_auto`: the `_auto` id of a family looks for its version.
* `getBrowserFingerprint_auto_iff`: the two ways agree if and only if the
  browser is Chrome on iOS, or the version is not one of the pinned ones that
  are not current.
* `parseHeaders_auto_iff`: so for whole requests.
-/

namespace HttpRequestClient

/-- The `_auto` id of the family of a browser. -/
def autoId : BrowserType → Bytes
  | .chromeIos => CRIOS_FAMILY.autoId
  | _ => CHROME_FAMILY.autoId

/-! ## Versions -/

theorem profileVersion_chrome :
    profileVersion CHROME_FINGERPRINT_150 = 150 ∧ profileVersion CHROME_FINGERPRINT_151 = 151 ∧
      profileVersion CHROME_FINGERPRINT_152 = 152 := by
  decide

/-- Only the version that is current leads to the default profile of Chrome,
and every version that has no profile. -/
theorem findProfileByVersion_chrome (version : Int) :
    (findProfileByVersion CHROME_FAMILY version).getD CHROME_FAMILY.defaultProfile =
        CHROME_FINGERPRINT ↔ version ≠ 150 ∧ version ≠ 151 := by
  obtain ⟨h150, h151, h152⟩ := profileVersion_chrome
  have hother : CHROME_FINGERPRINT_150 ≠ CHROME_FINGERPRINT ∧
      CHROME_FINGERPRINT_151 ≠ CHROME_FINGERPRINT := by
    constructor <;> intro heq <;> exact absurd (congrArg BrowserFingerprint.clientHelloId heq)
      (by decide)
  rw [findProfileByVersion]
  split
  · exact iff_of_true rfl (by omega)
  · rw [CHROME_FAMILY]
    simp only [List.find?_cons, h150, h151, h152]
    by_cases hfirst : version = 150
    · subst hfirst
      exact iff_of_false hother.1 (by omega)
    · by_cases hsecond : version = 151
      · subst hsecond
        exact iff_of_false hother.2 (by omega)
      · refine iff_of_true ?_ ⟨hfirst, hsecond⟩
        by_cases hcurrent : version = 152
        · subst hcurrent
          rfl
        · simp [Ne.symm hfirst, Ne.symm hsecond, Ne.symm hcurrent]

/-- Chrome on iOS has one profile. -/
theorem findProfileByVersion_crios (version : Int) :
    (findProfileByVersion CRIOS_FAMILY version).getD CRIOS_FAMILY.defaultProfile =
      CRIOS_FINGERPRINT := by
  rw [findProfileByVersion]
  split
  · rfl
  · cases hfound : CRIOS_FAMILY.profiles.find? fun profile => profileVersion profile = version with
    | none => rfl
    | some profile =>
      have hmem := List.mem_of_find?_eq_some hfound
      rw [CRIOS_FAMILY, List.mem_singleton] at hmem
      rw [hmem]
      rfl

/-! ## The two ways to a profile -/

theorem searchFamilies_auto (ua : Bytes) :
    getBrowserFingerprintById CHROME_FAMILY.autoId ua =
        some ((findProfileByVersion CHROME_FAMILY
          (uaMajorVersion ua CHROME_FAMILY.uaVersionMarker)).getD CHROME_FAMILY.defaultProfile) ∧
      getBrowserFingerprintById CRIOS_FAMILY.autoId ua =
        some ((findProfileByVersion CRIOS_FAMILY
          (uaMajorVersion ua CRIOS_FAMILY.uaVersionMarker)).getD CRIOS_FAMILY.defaultProfile) := by
  have hchrome : strcasecmp CHROME_FAMILY.autoId CHROME_FAMILY.autoId = 0 := by decide
  have hcrios : strcasecmp CRIOS_FAMILY.autoId CRIOS_FAMILY.autoId = 0 := by decide
  have hother : strcasecmp CRIOS_FAMILY.autoId CHROME_FAMILY.autoId ≠ 0 := by decide
  have hpinned : (findProfileById CHROME_FAMILY CRIOS_FAMILY.autoId).isNone := by decide
  rw [Option.isNone_iff_eq_none] at hpinned
  rw [getBrowserFingerprintById, getBrowserFingerprintById, BROWSER_FAMILIES, if_neg (by decide),
    if_neg (by decide), searchFamilies, if_pos hchrome, searchFamilies, if_neg hother, hpinned]
  dsimp only
  rw [searchFamilies, if_pos hcrios]
  exact ⟨rfl, rfl⟩

/-- By the type of the browser and by its `_auto` id. -/
theorem getBrowserFingerprint_auto_iff (ua : Bytes) :
    getBrowserFingerprintById (autoId (detectBrowseType ua)) ua =
        some (getBrowserFingerprint (detectBrowseType ua)) ↔
      detectBrowseType ua = .chromeIos ∨
        uaMajorVersion ua CHROME_FAMILY.uaVersionMarker ≠ 150 ∧
          uaMajorVersion ua CHROME_FAMILY.uaVersionMarker ≠ 151 := by
  obtain ⟨hchrome, hcrios⟩ := searchFamilies_auto ua
  by_cases hios : detectBrowseType ua = .chromeIos
  · rw [hios, autoId, hcrios, findProfileByVersion_crios]
    exact iff_of_true rfl (Or.inl rfl)
  · have hid : autoId (detectBrowseType ua) = CHROME_FAMILY.autoId := by
      cases htype : detectBrowseType ua with
      | chromeIos => exact absurd htype hios
      | _ => rfl
    have hdefault : getBrowserFingerprint (detectBrowseType ua) = CHROME_FINGERPRINT := by
      cases htype : detectBrowseType ua with
      | chromeIos => exact absurd htype hios
      | _ => rfl
    rw [hid, hchrome, hdefault, Option.some.injEq, findProfileByVersion_chrome]
    exact ⟨Or.inr, fun h => h.resolve_left hios⟩

/-! ## Requests -/

/-- The member `session.clientHelloId` of a request. -/
def requestedId (jsonRequest : JsonValue) : Option Bytes :=
  json_string_value ((jsonRequest.get (ascii "session")).bind
    (JsonValue.get (ascii "clientHelloId")))

/-- The fingerprint that `parseHeaders` leaves in the basket. -/
def selectedFingerprint (lib : BasketLib) (basket : RequestBasket) (jsonRequest : JsonValue) :
    Option BrowserFingerprint :=
  (parseHeaders lib basket jsonRequest).bind RequestBasket.fingerprint

theorem selectedFingerprint_eq (lib : BasketLib) (basket : RequestBasket)
    {jsonRequest headers : JsonValue} {ua : Bytes}
    (hheaders : jsonRequest.get (ascii "headers") = some headers)
    (hua : jsonHeaderGet (headerMembers headers) (ascii "user-agent") = some (.string ua))
    {fingerprint : BrowserFingerprint}
    (h : resolveFingerprint jsonRequest ua = some fingerprint) :
    selectedFingerprint lib basket jsonRequest = some fingerprint := by
  rw [selectedFingerprint, parseHeaders, hheaders]
  dsimp only
  rw [hua]
  dsimp only
  rw [h]
  rfl

/-- A request without a `clientHelloId` gets the fingerprint that the `_auto`
id of its browser gets with the same headers, if and only if the browser is
Chrome on iOS or the version behind "Chrome/" is neither 150 nor 151. -/
theorem parseHeaders_auto_iff (lib : BasketLib) (basket : RequestBasket)
    {jsonRequest autoRequest headers : JsonValue} {ua : Bytes}
    (hheaders : jsonRequest.get (ascii "headers") = some headers)
    (hsame : autoRequest.get (ascii "headers") = some headers)
    (hua : jsonHeaderGet (headerMembers headers) (ascii "user-agent") = some (.string ua))
    (hnone : requestedId jsonRequest = none)
    (hauto : requestedId autoRequest = some (autoId (detectBrowseType ua))) :
    selectedFingerprint lib basket jsonRequest = selectedFingerprint lib basket autoRequest ↔
      detectBrowseType ua = .chromeIos ∨
        uaMajorVersion ua CHROME_FAMILY.uaVersionMarker ≠ 150 ∧
          uaMajorVersion ua CHROME_FAMILY.uaVersionMarker ≠ 151 := by
  have htype : resolveFingerprint jsonRequest ua =
      some (getBrowserFingerprint (detectBrowseType ua)) := by
    rw [resolveFingerprint, ← requestedId, hnone]
  have hid : resolveFingerprint autoRequest ua =
      getBrowserFingerprintById (autoId (detectBrowseType ua)) ua := by
    rw [resolveFingerprint, ← requestedId, hauto]
  have hfound : ∃ fingerprint,
      getBrowserFingerprintById (autoId (detectBrowseType ua)) ua = some fingerprint := by
    obtain ⟨hchrome, hcrios⟩ := searchFamilies_auto ua
    cases detectBrowseType ua with
    | chromeIos => exact ⟨_, hcrios⟩
    | _ => exact ⟨_, hchrome⟩
  obtain ⟨fingerprint, hfingerprint⟩ := hfound
  rw [selectedFingerprint_eq lib basket hheaders hua htype,
    selectedFingerprint_eq lib basket hsame hua (hid.trans hfingerprint),
    ← getBrowserFingerprint_auto_iff ua, hfingerprint]
  exact eq_comm

/-- The headers of a request, with the user agent alone. -/
def agentHeaders (ua : JsonText) : JsonValue := .object [(ascii "user-agent", .string ua)]

/-- A request with a user agent and a session. -/
def agentRequest (ua : JsonText) (session : List (Bytes × JsonValue)) : JsonValue :=
  .object [(ascii "headers", agentHeaders ua), (ascii "session", .object session)]

def currentAgent : JsonText := .plain (ascii "Chrome/152.0.0.0 Safari/537.36") (by decide)

def olderAgent : JsonText := .plain (ascii "Chrome/150.0.0.0 Safari/537.36") (by decide)

/-- The session with the id of desktop Chrome. -/
def chromeAuto : List (Bytes × JsonValue) :=
  [(ascii "clientHelloId", .string (.plain (ascii "hellochrome_auto") (by decide)))]

theorem parseHeaders_auto_current :
    selectedFingerprint BasketLib.names initBasket (agentRequest currentAgent []) =
      selectedFingerprint BasketLib.names initBasket (agentRequest currentAgent chromeAuto) := by
  have hua : jsonHeaderGet (headerMembers (agentHeaders currentAgent)) (ascii "user-agent") =
      some (.string currentAgent.bytes) := rfl
  refine (parseHeaders_auto_iff BasketLib.names initBasket rfl rfl hua ?_ ?_).mpr (Or.inr ?_) <;>
    decide +kernel

/-- Chrome 150 gets the profile of 152. -/
theorem parseHeaders_older_version :
    ¬∀ (lib : BasketLib) (basket : RequestBasket) (jsonRequest autoRequest headers : JsonValue)
        (ua : Bytes),
      jsonRequest.get (ascii "headers") = some headers →
      autoRequest.get (ascii "headers") = some headers →
      jsonHeaderGet (headerMembers headers) (ascii "user-agent") = some (.string ua) →
      requestedId jsonRequest = none →
      requestedId autoRequest = some (autoId (detectBrowseType ua)) →
      selectedFingerprint lib basket jsonRequest = selectedFingerprint lib basket autoRequest := by
  intro h
  have hsame := h BasketLib.names initBasket (agentRequest olderAgent [])
    (agentRequest olderAgent chromeAuto) (agentHeaders olderAgent) olderAgent.bytes rfl rfl rfl
    (by decide +kernel) (by decide +kernel)
  have hids := congrArg (Option.map BrowserFingerprint.clientHelloId) hsame
  exact absurd hids (by decide +kernel)

end HttpRequestClient
