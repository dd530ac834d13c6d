import ArrivalRamp.Proofs.Config.Judgement
import ArrivalRamp.Proofs.Url.Reader
import ArrivalRamp.Request.Template
import Mathlib

/-!
A configuration without a fatal finding and the requests of its run. The diagnosis looks at neither
the method nor more of the address than whether there is one, so the run starts exactly when both
make a request.
-/

namespace ArrivalRamp

theorem toNat_lt_of_isTokenCharacter {character : Char} (token : isTokenCharacter character) :
    character.toNat < 128 := by
  rcases Bool.or_eq_true_iff.mp token with alphanumeric | mark
  · simp only [Char.isAlphanum, Char.isAlpha, Char.isUpper, Char.isLower, Char.isDigit,
      Bool.or_eq_true, Bool.and_eq_true, decide_eq_true_eq, UInt32.le_iff_toNat_le] at alphanumeric
    have code : character.toNat = character.val.toNat := rfl
    have lastUpper : 'Z'.val.toNat = 90 := rfl
    have lastLower : 'z'.val.toNat = 122 := rfl
    have lastDigit : '9'.val.toNat = 57 := rfl
    omega
  · rw [List.contains_iff_mem] at mark
    fin_cases mark <;> decide

/-- The upper case of a character of a token is one character of a token. -/
theorem upper_of_isTokenCharacter {character : Char} (token : isTokenCharacter character) :
    Text.upper character = [character.toUpper] ∧ isTokenCharacter character.toUpper := by
  have ascii := toNat_lt_of_isTokenCharacter token
  refine ⟨if_pos ascii, ?_⟩
  have each : ∀ code < 128,
      isTokenCharacter (Char.ofNat code) → isTokenCharacter (Char.ofNat code).toUpper := by
    decide
  have upper := each character.toNat ascii
  rw [Char.ofNat_toNat] at upper
  exact upper token

/-- The upper case of a token is a token. -/
theorem isToken_toUpper {text : String} (token : isToken text) : isToken (Text.toUpper text) := by
  obtain ⟨nonempty, characters⟩ := Bool.and_eq_true_iff.mp token
  rw [List.all_eq_true] at characters
  have upper : text.toList.flatMap Text.upper = text.toList.map Char.toUpper := by
    rw [List.flatMap_congr fun character inside =>
      (upper_of_isTokenCharacter (characters character inside)).1, List.map_eq_flatMap]
  unfold isToken Text.toUpper
  rw [upper, Bool.and_eq_true, List.all_eq_true]
  constructor
  · simpa [← String.toList_eq_nil_iff] using nonempty
  · intro character inside
    rw [String.toList_ofList, List.mem_map] at inside
    obtain ⟨lower, found, rfl⟩ := inside
    exact (upper_of_isTokenCharacter (characters lower found)).2

namespace RequestTemplate

variable [UrlParser]

theorem exists_ofSettings_iff (settings : RunSettings) :
    (∃ template, ofSettings settings = .ok template) ↔
      isToken settings.method ∧ ∃ url, UrlParser.parse settings.url = .ok url := by
  unfold ofSettings
  by_cases token : isToken settings.method
  · cases parsed : UrlParser.parse settings.url with
    | error fault => simp [token]
    | ok url => simp [token]
  · simp [token]

theorem ofSettings_of_error {settings : RunSettings} {fault : UrlFault}
    (token : isToken settings.method) (refused : UrlParser.parse settings.url = .error fault) :
    ofSettings settings = .error (.invalidUrl settings.url fault) := by
  simp [ofSettings, token, refused]

end RequestTemplate

namespace Config

/-- Strictness is no part of the settings. -/
theorem resolve_withStrict (config : Config) (strict : Bool) :
    RunSettings.resolve (config.withStrict strict) = RunSettings.resolve config := by
  cases strict <;> rfl

/-- A run without a fatal finding has the settings of its configuration. -/
theorem ofConfig_of_harmless {config : Config} {strict : Bool}
    (harmless : ∀ finding ∈ config.findings strict, ¬finding.fatal) :
    ∃ found, RunSettings.ofConfig (config.withStrict strict) =
      .ok (RunSettings.resolve config, found) := by
  have noFatal : ¬∃ finding ∈ config.findings strict, finding.fatal := by
    rintro ⟨finding, inside, fatal⟩
    exact harmless finding inside fatal
  rw [exists_fatal_finding_iff] at noFatal
  refine ⟨_, RunSettings.ofConfig_eq_ok_iff.mpr ⟨?_, config.resolve_withStrict strict, rfl⟩⟩
  intro problem inside
  rw [← Bool.not_eq_true]
  intro fatal
  exact noFatal ⟨problem, inside, fatal⟩

theorem isToken_method {config : Config} (tokens : ∀ method ∈ config.method, isToken method) :
    isToken (Text.toUpper (config.method.getD "POST")) := by
  cases given : config.method with
  | none => decide
  | some method => exact isToken_toUpper (tokens method given)

/-- A configuration without a fatal finding has settings. Its run has a template of requests exactly
when its method in upper case is a token and the parser takes its path below its address. A method
that is a token is enough for the one. Under a parser that keeps to the standard, a web address that
is complete without a path is enough for the other, and an address without a scheme is refused. -/
theorem starts_iff_of_harmless [UrlParser] (config : Config) (strict : Bool)
    (harmless : ∀ finding ∈ config.findings strict, ¬finding.fatal) :
    ∃ settings found, RunSettings.ofConfig (config.withStrict strict) = .ok (settings, found) ∧
      ((∃ template, RequestTemplate.ofSettings settings = .ok template) ↔
        isToken (Text.toUpper (config.method.getD "POST")) ∧
          ∃ url, UrlParser.parse (joinUrl (config.baseUrl.getD "") (config.path.getD "/")) =
            .ok url) ∧
      (UrlParser.IsStandard → (∀ method ∈ config.method, isToken method) →
        (∀ url, UrlParser.parse (joinUrl (config.baseUrl.getD "") "/") = .ok url →
          Url.hasAuthority url.scheme →
          ∃ template, RequestTemplate.ofSettings settings = .ok template) ∧
        (Url.scheme? (Url.counted (config.baseUrl.getD "")) = none →
          RequestTemplate.ofSettings settings = .error (.invalidUrl settings.url .relative))) := by
  obtain ⟨found, accepted⟩ := ofConfig_of_harmless harmless
  refine ⟨_, found, accepted, RequestTemplate.exists_ofSettings_iff _, ?_⟩
  intro standard tokens
  constructor
  · intro url complete web
    obtain ⟨path, joined⟩ :=
      standard.parse_joinUrl_of_complete complete web (config.path.getD "/")
    exact (RequestTemplate.exists_ofSettings_iff _).mpr ⟨isToken_method tokens, _, joined⟩
  · intro relative
    exact RequestTemplate.ofSettings_of_error (isToken_method tokens)
      (standard.parse_joinUrl_of_relative relative _)

/-- A configuration with a stage whose address and path are given. -/
def ofAddress (baseUrl path : String) : Config :=
  { Config.empty with
    baseUrl := some baseUrl
    path := some path
    stages := some [⟨"1m", 1⟩] }

theorem starts_ofAddress :
    ((∀ finding ∈ (ofAddress "http://localhost:8080" "api").findings false, ¬finding.fatal) ∧
      UrlParser.IsStandard ∧
      UrlParser.parse (joinUrl "http://localhost:8080" "/") = .ok ⟨"http", [], none, true, "/"⟩ ∧
      Url.hasAuthority "http") ∧
      ∃ settings found template,
        RunSettings.ofConfig ((ofAddress "http://localhost:8080" "api").withStrict false) =
            .ok (settings, found) ∧
          RequestTemplate.ofSettings settings = .ok template := by
  have harmless : ∀ finding ∈ (ofAddress "http://localhost:8080" "api").findings false,
      ¬finding.fatal := by
    decide +kernel
  have complete : UrlParser.parse (joinUrl "http://localhost:8080" "/") =
      .ok ⟨"http", [], none, true, "/"⟩ := by
    decide +kernel
  obtain ⟨settings, found, accepted, -, starts⟩ := starts_iff_of_harmless _ false harmless
  obtain ⟨template, made⟩ := (starts Url.ofText_isStandard nofun).1 _ complete (by decide)
  exact ⟨⟨harmless, Url.ofText_isStandard, complete, by decide⟩,
    settings, found, template, accepted, made⟩

/-- An address without a scheme is no finding, and its run does not start. -/
theorem not_starts_ofAddress :
    (ofAddress "example.com" "/").findings false = [] ∧
      ∃ settings found,
        RunSettings.ofConfig ((ofAddress "example.com" "/").withStrict false) =
            .ok (settings, found) ∧
          RequestTemplate.ofSettings settings = .error (.invalidUrl "example.com/" .relative) := by
  have clean : (ofAddress "example.com" "/").findings false = [] := by decide +kernel
  have harmless : ∀ finding ∈ (ofAddress "example.com" "/").findings false, ¬finding.fatal := by
    simp [clean]
  obtain ⟨found, accepted⟩ := ofConfig_of_harmless harmless
  have address : (RunSettings.resolve (ofAddress "example.com" "/")).url = "example.com/" := by
    decide +kernel
  have method : isToken (RunSettings.resolve (ofAddress "example.com" "/")).method := by
    decide +kernel
  have relative : UrlParser.parse (RunSettings.resolve (ofAddress "example.com" "/")).url =
      .error .relative := by
    decide +kernel
  refine ⟨clean, _, found, accepted, ?_⟩
  rw [RequestTemplate.ofSettings_of_error method relative, address]

end Config

end ArrivalRamp
