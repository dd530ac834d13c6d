import ArrivalRamp.Proofs.Json.Members
import ArrivalRamp.Proofs.Request.Identity
import ArrivalRamp.Url.Reader

/-!
What a request carries: the headers that tell where it belongs, whatever other headers are set,
every header that is set, and the payload with the identifier of the request.
-/

namespace ArrivalRamp

namespace Headers

/-- The headers that tell the application, the environment, the test and the stage. -/
def driver (settings : RunSettings) (label : StageLabel) : Headers :=
  [(appName, settings.appName), (environment, settings.env), (testName, settings.name),
    (stage, label.tag), (target, label.target)]

/-- Headers are looked up by names without their case. -/
theorem value?_congr (headers : Headers) {name other : String} (same : sameName name other) :
    headers.value? name = headers.value? other := by
  have lower : name.toList.map Char.toLower = other.toList.map Char.toLower := by
    simpa [sameName] using same
  unfold value? sameName
  rw [lower]

end Headers

/-- The payload as a request with an identifier carries it. The members of an object stand in the
order of their names, and only the identifier is put among them. -/
inductive IsCarried (requestId : String) : Json → Json → Prop
  | object {members carried : List (String × Json)} (sorted : Ledger.IsSorted carried)
      (identifier : carried.lookup RequestTemplate.requestIdName = some (.text requestId))
      (others : ∀ name, name ≠ RequestTemplate.requestIdName →
        carried.lookup name = members.lookup name) :
      IsCarried requestId (.object members) (.object carried)
  | other {payload : Json} (plain : ∀ members, payload ≠ .object members) :
      IsCarried requestId payload payload

/-- What a request for settings carries under a label and an identifier. -/
structure RequestPlan.Carries (plan : RequestPlan) (settings : RunSettings) (label : StageLabel)
    (requestId : String) : Prop where
  driver : ∀ header ∈ Headers.driver settings label, ∀ name, Headers.sameName name header.1 →
    plan.header? name = some header.2
  configured : ∀ header ∈ settings.headers, header ∈ plan.headers
  isSome_body : plan.body.isSome = settings.payload.isSome
  contents : ∀ payload, settings.payload = some payload → ∃ body carried,
    plan.body = some body ∧ Json.ofText body = .ok carried ∧ IsCarried requestId payload carried

namespace RequestTemplate

variable {settings : RunSettings} {template : RequestTemplate}

theorem ofSettings_eq_ok [UrlParser] (accepted : ofSettings settings = .ok template) :
    template.appName = settings.appName ∧ template.env = settings.env ∧
      template.name = settings.name ∧ template.headers = Ledger.ofList settings.headers ∧
      template.payload = settings.payload := by
  unfold ofSettings at accepted
  split_ifs at accepted
  split at accepted
  · cases accepted
  · cases accepted
    exact ⟨rfl, rfl, rfl, rfl, rfl⟩

/-- The driver's headers come before any other header of their names. -/
theorem value?_headersFor [UrlParser] (accepted : ofSettings settings = .ok template)
    (label : StageLabel) (hasBody : Bool) : ∀ header ∈ Headers.driver settings label,
      (template.headersFor label hasBody).value? header.1 = some header.2 := by
  obtain ⟨appName, env, name, -, -⟩ := ofSettings_eq_ok accepted
  unfold Headers.driver
  rw [← appName, ← env, ← name]
  cases hasBody <;>
    simp [headersFor, Headers.value?, Headers.sameName, Headers.contentType, Headers.appName,
      Headers.environment, Headers.testName, Headers.stage, Headers.target]

theorem mem_headersFor [UrlParser] (accepted : ofSettings settings = .ok template)
    (unique : (settings.headers.map Prod.fst).Nodup) (label : StageLabel) (hasBody : Bool) :
    ∀ header ∈ settings.headers, header ∈ template.headersFor label hasBody := by
  obtain ⟨-, -, -, headers, -⟩ := ofSettings_eq_ok accepted
  intro header inside
  unfold headersFor
  rw [headers]
  exact List.mem_append_right _ ((Ledger.ofList_perm unique).mem_iff.mpr inside)

/-- A payload that is read back from its text is read back with an identifier, too. -/
theorem ofText_identified {payload : Json}
    (readable : Json.ofText payload.compact = .ok payload) (requestId : String) :
    Json.ofText (identified requestId payload).compact = .ok (identified requestId payload) ∧
      IsCarried requestId payload (identified requestId payload) := by
  cases payload with
  | object members =>
      have sorted := Json.isSorted_of_ofText readable
      refine ⟨Json.ofText_insertMember readable _ _, .object ?_ ?_ ?_⟩
      · exact Json.isSorted_insertMember sorted _ _
      · exact Json.lookup_insertMember _ _ _
      · exact fun name different => Json.lookup_insertMember_of_ne different _ _
  | _ => exact ⟨readable, .other fun _ => nofun⟩

/-- Settings whose headers have different names and whose payload, if there is one, is read back
from its text lead to requests that carry what they say, under every label and for every unit of
work. -/
theorem plan_carries [UrlParser] (accepted : ofSettings settings = .ok template)
    (unique : (settings.headers.map Prod.fst).Nodup)
    (readable : ∀ payload, settings.payload = some payload →
      Json.ofText payload.compact = .ok payload)
    (label : StageLabel) (work : WorkUnit) (nonce : ℕ) :
    (template.plan label work nonce).Carries settings label (work.requestId nonce) := by
  obtain ⟨-, -, -, -, payload⟩ := ofSettings_eq_ok accepted
  constructor
  case driver =>
    intro header inside name same
    exact (Headers.value?_congr _ same).trans (value?_headersFor accepted label _ header inside)
  case configured => exact mem_headersFor accepted unique label _
  case isSome_body =>
    rw [← payload]
    exact Option.isSome_map
  case contents =>
    intro held set
    obtain ⟨read, carried⟩ := ofText_identified (readable held set) (work.requestId nonce)
    refine ⟨_, _, ?_, read, carried⟩
    change template.payload.map _ = _
    rw [payload, set]
    rfl

/-- Settings with a header in place of the one that tells the stage, and an identifier in the
payload. -/
def order : RunSettings :=
  { RunSettings.resolve Config.empty with
    url := "http://localhost:8080/orders"
    headers := [("x-lt-stage", "mine"), ("X-Trace", "on")]
    payload := some (.object [("items", .array [.integer (-2), .boolean true, .null]),
      ("note", .text "a\"b\n"), ("requestId", .text "old")]) }

theorem plan_carries_order :
    ∃ template, ofSettings order = .ok template ∧ (order.headers.map Prod.fst).Nodup ∧
      (∀ payload, order.payload = some payload → Json.ofText payload.compact = .ok payload) ∧
      let plan := template.plan (.known 0 5) ⟨3, 1⟩ 9
      plan.Carries order (.known 0 5) (WorkUnit.requestId ⟨3, 1⟩ 9) ∧
        plan.header? "X-LT-STAGE" = some "rps-5" ∧ ("x-lt-stage", "mine") ∈ plan.headers ∧
        plan.body = some ("\x7b\"items\":[-2,true,null],\"note\":\"a\\\"b\\n\"," ++
          "\"requestId\":\"REQ-3-1-9\"\x7d") := by
  obtain ⟨template, accepted⟩ : ∃ template, ofSettings order = .ok template := ⟨_, by cbv⟩
  have unique : (order.headers.map Prod.fst).Nodup := by decide
  have readable : ∀ payload, order.payload = some payload →
      Json.ofText payload.compact = .ok payload := by
    rintro _ ⟨rfl⟩
    rfl
  have carries := plan_carries accepted unique readable (.known 0 5) ⟨3, 1⟩ 9
  refine ⟨template, accepted, unique, readable, carries, ?_, ?_, ?_⟩
  · have told : (Headers.stage, (StageLabel.known 0 5).tag) ∈
        Headers.driver order (.known 0 5) := by
      simp [Headers.driver]
    exact carries.driver _ told "X-LT-STAGE" rfl
  · exact carries.configured _ List.mem_cons_self
  · obtain ⟨-, -, -, -, payload⟩ := ofSettings_eq_ok accepted
    change template.payload.map _ = _
    rw [payload]
    rfl

end RequestTemplate

end ArrivalRamp
