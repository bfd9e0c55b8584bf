import JibitSdk.Guarantees.Audit
import JibitSdk.Guarantees.World

/-!
# Reading 2xx bodies

`RawResponse.json` takes two exception classes of `json.loads` for an undecodable body, the engine's
reader of error bodies takes every `ValueError`.  The two differ on the bodies whose integers exceed
the interpreter's digit limit, and there a reading ends outside the SDK's hierarchy.
-/

namespace JibitSdk.Guarantees

open JibitSdk.Python JibitSdk.Reasoning JibitSdk.Sdk

/-! ## 1. What is relied on -/

/-- `json.loads` of a byte string returns or fails with one of three classes; an
    empty document is no JSON. -/
structure LoadsAsDocumented (rt : Runtime) : Prop where
  error : ∀ content e, rt.jsonLoads content = .error e →
    e = .unicodeDecodeError ∨ e = .jsonDecodeError ∨ e = .valueError
  empty : rt.jsonLoads [] = .error .jsonDecodeError

/-- `model_validate` returns or fails with a `ValidationError` or a `TypeError`. -/
def ValidatesAsDocumented {M : Type} (model : ResponseModel M) : Prop :=
  ∀ value e, model.validate value = .error (.builtin e) → e = .typeError

/-! ## 2. Clean readings -/

section Reading
variable {M : Type}

/-- The raw response with a model of its body, or the SDK's response error about it. -/
def CleanResult (raw : RawResponse) : Except PyError (APIResponse M) → Prop
  | .ok result => (∃ found, result.data = .model found) ∧ result.raw = raw
  | .error (.jibit error) => error.kind = .response ∧
      error.context.statusCode = some raw.statusCode ∧
      error.context.correlationId = some raw.correlationId
  | .error (.builtin _) => False

/-- `_body_fields` takes this body for one that is not JSON. -/
def bodyUndecodable (rt : Runtime) (content : List UInt8) : Prop :=
  content = [] ∨ ∃ e, rt.jsonLoads content = .error e ∧ e.isValueError = true

/-- `RawResponse.json` takes this body for one that is not JSON. -/
def jsonUndecodable (rt : Runtime) (raw : RawResponse) : Prop :=
  ∃ error, raw.json rt = .error (.jibit error)

/-- How a 2xx answer is read: by `parse_model_response`, by `_financial_typed`,
    and by the two decoders. -/
structure ReadsCleanly (x : PaymentGatewayService) (model : ResponseModel M)
    (response : TransportResponse) : Prop where
  parsed : ∀ id service operation method endpoint, CleanResult (rawResponse response id)
    (parseModelResponse x.rt (rawResponse response id) model service operation method endpoint)
  financial : ∀ (op : FinancialOperation) parts tr r,
    (x.financialTyped op.auditName op.spec parts model).Emits tr r →
    acceptedAnswer tr = some response →
    (∃ result, r = .ok result) ∨
      ((∃ error, r = .error (.jibit error)) ∧ auditOutcomes tr = [.unknown])
  agree : ∀ id, jsonUndecodable x.rt (rawResponse response id) ↔
    bodyUndecodable x.rt response.content

/-- The error of `parse_model_response` names the response it is about. -/
theorem contractMismatch_clean (rt : Runtime) (raw : RawResponse)
    (service operation method endpoint : String) :
    CleanResult (M := M) raw
      (.error (.jibit (contractMismatch rt raw service operation method endpoint))) :=
  ⟨rfl, rfl, rfl⟩

/-- Which exceptions of a reading escape `parse_model_response`. -/
theorem validatedModel_error {rt : Runtime} {raw : RawResponse} {model : ResponseModel M}
    {e : BuiltinError} (h : validatedModel rt raw model = .error e) :
    e ≠ .typeError ∧ ((∃ value, model.validate value = .error (.builtin e)) ∨
      rt.jsonLoads raw.content = .error e ∧ e ≠ .unicodeDecodeError ∧ e ≠ .jsonDecodeError) := by
  unfold validatedModel at h
  split at h
  · cases h
  · rename_i e' hjson
    split at h
    · cases h
    · rename_i htype
      cases h
      refine ⟨htype, .inr ?_⟩
      unfold RawResponse.json at hjson
      split at hjson
      · cases hjson
      · rename_i e'' hloads
        split at hjson
        · cases hjson
        · rename_i hother
          cases hjson
          exact ⟨hloads, fun h => hother (.inl h), fun h => hother (.inr h)⟩
  · split at h
    · cases h
    · cases h
    · rename_i value _ _ _ hvalidate
      split at h
      · cases h
      · rename_i htype
        cases h
        exact ⟨htype, .inl ⟨_, hvalidate⟩⟩

/-- The digit limit escapes. -/
theorem parseModelResponse_digitLimit {rt : Runtime} {raw : RawResponse} (model : ResponseModel M)
    (h : rt.jsonLoads raw.content = .error .valueError)
    (service operation method endpoint : String) :
    parseModelResponse rt raw model service operation method endpoint =
      .error (.builtin .valueError) := by
  have hjson : raw.json rt = .error (.builtin .valueError) := by
    rw [RawResponse.json, h]
    rfl
  rw [parseModelResponse, validatedModel, hjson]
  rfl

variable {x : PaymentGatewayService} {model : ResponseModel M} {response : TransportResponse}

theorem parsed_clean (hloads : LoadsAsDocumented x.rt) (hmodel : ValidatesAsDocumented model)
    (h : x.rt.jsonLoads response.content ≠ .error .valueError)
    (id service operation method endpoint : String) :
    CleanResult (rawResponse response id)
      (parseModelResponse x.rt (rawResponse response id) model service operation
        method endpoint) := by
  unfold parseModelResponse
  cases hread : validatedModel x.rt (rawResponse response id) model with
  | ok found => cases found with
    | some found => exact ⟨⟨found, rfl⟩, rfl⟩
    | none => exact contractMismatch_clean x.rt _ service operation method endpoint
  | error e =>
    exfalso
    obtain ⟨htype, ⟨value, hvalidate⟩ | ⟨hfailed, hunicode, hjson⟩⟩ := validatedModel_error hread
    · exact htype (hmodel value e hvalidate)
    · have hfailed : x.rt.jsonLoads response.content = .error e := hfailed
      rcases hloads.error _ _ hfailed with rfl | rfl | rfl
      · exact hunicode rfl
      · exact hjson rfl
      · exact h hfailed

/-- A rejected 2xx answer is audited once, as unknown. -/
theorem financial_clean (hloads : LoadsAsDocumented x.rt) (hmodel : ValidatesAsDocumented model)
    (h : x.rt.jsonLoads response.content ≠ .error .valueError) {op : FinancialOperation}
    {parts : RequestParts} {tr : List (Event effects)} {r : Except PyError (APIResponse M)}
    (hrun : (x.financialTyped op.auditName op.spec parts model).Emits tr r)
    (hanswer : acceptedAnswer tr = some response) :
    (∃ result, r = .ok result) ∨
      ((∃ error, r = .error (.jibit error)) ∧ auditOutcomes tr = [.unknown]) := by
  have hbody : (x.typed op.spec parts model).Only isUnaudited :=
    (authenticated_unaudited x.engine _).bind fun raw => Prog.always_ofExcept.mpr trivial
  obtain ⟨tr', hinner, hsends, haudit⟩ := auditingErrors_emits hbody hrun
  obtain ⟨r', hexec, rfl⟩ := bind_ofExcept_emits hinner
  have hagrees := authenticated_agrees hexec
  rw [acceptedAnswer, ← operationSends_congr hsends, ← acceptedAnswer, hanswer] at hagrees
  obtain ⟨id, rfl⟩ := hagrees
  -- The execution handed the answer on; what remains is its reading.
  have hclean := parsed_clean hloads hmodel h id (op.spec.options parts).service.value
    (op.spec.options parts).operation (op.spec.options parts).method (op.spec.options parts).path
  rw [haudit]
  change (∃ result, parseModelResponse x.rt (rawResponse response id) model _ _ _ _ = .ok result) ∨
    (∃ error,
      parseModelResponse x.rt (rawResponse response id) model _ _ _ _ = .error (.jibit error)) ∧
      (reportedError (parseModelResponse x.rt (rawResponse response id) model _ _ _ _)).toList = _
  cases hparse : parseModelResponse x.rt (rawResponse response id) model
      (op.spec.options parts).service.value (op.spec.options parts).operation
      (op.spec.options parts).method (op.spec.options parts).path with
  | ok result => exact .inl ⟨result, rfl⟩
  | error error =>
    rw [hparse] at hclean
    cases error with
    | builtin e => exact hclean.elim
    | jibit error =>
      refine .inr ⟨⟨error, rfl⟩, ?_⟩
      have houtcome : auditOutcome error = .unknown := if_pos (.inr (.inr (.inr hclean.1)))
      show [auditOutcome error] = _
      rw [houtcome]

theorem undecodable_agree (hloads : LoadsAsDocumented x.rt)
    (h : x.rt.jsonLoads response.content ≠ .error .valueError) (id : String) :
    jsonUndecodable x.rt (rawResponse response id) ↔ bodyUndecodable x.rt response.content := by
  unfold jsonUndecodable bodyUndecodable
  cases hread : x.rt.jsonLoads response.content with
  | ok value =>
    rw [json_of_loads hread]
    constructor
    · rintro ⟨error, herror⟩
      cases herror
    · rintro (hempty | ⟨e, he, -⟩)
      · rw [hempty, hloads.empty] at hread
        cases hread
      · cases he
  | error e =>
    rcases hloads.error _ _ hread with rfl | rfl | rfl
    · rw [json_undecodable (.inl rfl) hread]
      exact ⟨fun _ => .inr ⟨_, rfl, rfl⟩, fun _ => ⟨_, rfl⟩⟩
    · rw [json_undecodable (.inr rfl) hread]
      exact ⟨fun _ => .inr ⟨_, rfl, rfl⟩, fun _ => ⟨_, rfl⟩⟩
    · exact absurd hread h

theorem not_clean_of_digitLimit (h : x.rt.jsonLoads response.content = .error .valueError) :
    ¬ ReadsCleanly x model response := by
  intro hclean
  have hparsed := hclean.parsed "" "" "" "" ""
  rw [parseModelResponse_digitLimit model h] at hparsed
  exact hparsed

end Reading

/-! ## 3. The law -/

/-- A 2xx answer is read inside the SDK's hierarchy, and the two decoders agree on it, exactly when
    its body does not run into the digit limit. -/
theorem response_read_cleanly_iff {M : Type} (x : PaymentGatewayService) (model : ResponseModel M)
    (response : TransportResponse) (hloads : LoadsAsDocumented x.rt)
    (hmodel : ValidatesAsDocumented model) :
    ReadsCleanly x model response ↔ x.rt.jsonLoads response.content ≠ .error .valueError := by
  constructor
  · exact fun hclean hlimit => not_clean_of_digitLimit hlimit hclean
  · intro h
    exact ⟨parsed_clean hloads hmodel h, fun op parts tr r => financial_clean hloads hmodel h,
      undecodable_agree hloads h⟩

/-! ## 4. A Payment Gateway deployment -/

/-- The sample standard library with the interpreter's digit limit for documents of digits alone. -/
def digitLimitRuntime : Runtime :=
  { sampleRuntime with
    jsonLoads := fun content =>
      if 4300 < content.length ∧ content.all (fun b => 48 ≤ b && b ≤ 57) = true then
        .error .valueError
      else sampleRuntime.jsonLoads content }

theorem digitLimitRuntime_loads : LoadsAsDocumented digitLimitRuntime where
  error content e h := by
    change (if _ then _ else sampleRuntime.jsonLoads content) = _ at h
    split at h
    · cases h
      exact .inr (.inr rfl)
    · refine .inr (.inl ?_)
      unfold sampleRuntime at h
      simp only at h
      split at h
      · exact nomatch h
      · cases h
        rfl
  empty := rfl

def gatewayConfig : JibitConfig :=
  { sampleConfig with
    services := fun service => if service = .paymentGateway then some sampleService else none }

def gatewayEngine : RequestEngine where
  rt := digitLimitRuntime
  config := gatewayConfig
  retryPolicy := ⟨gatewayConfig.retry⟩
  logger := {}

def gatewayAuthenticator : ServiceAuthenticator where
  service := .paymentGateway
  config := gatewayConfig
  serviceConfig := sampleService
  spec := (authSpecs .paymentGateway).get rfl
  engine := gatewayEngine
  locks := .thread
  logger := {}
  cacheKey := "jibit:tokens:payment_gateway:31d57ac87111ea375cd3"
  documented := rfl
  configured := ⟨rfl, rfl⟩
  keyed := rfl

def sampleGateway : PaymentGatewayService := ⟨⟨gatewayEngine, gatewayAuthenticator⟩, {}⟩

theorem sampleModel_validates : ValidatesAsDocumented sampleModel := by
  intro value e h
  cases value <;> exact nomatch h

theorem response_read_cleanly_object :
    ReadsCleanly sampleGateway sampleModel (sampleResponse 200 "\x7b\x7d") := by
  have hloads :
      sampleGateway.rt.jsonLoads (sampleResponse 200 "\x7b\x7d").content = .ok (.obj []) := rfl
  refine (response_read_cleanly_iff sampleGateway sampleModel _ digitLimitRuntime_loads
    sampleModel_validates).mpr ?_
  rw [hloads]
  exact nofun

theorem digitLimit_loads {content : List UInt8} (hlong : 4300 < content.length)
    (hdigits : content.all (fun b => 48 ≤ b && b ≤ 57) = true) :
    digitLimitRuntime.jsonLoads content = .error .valueError :=
  if_pos ⟨hlong, hdigits⟩

/-- An integer of 4301 digits. -/
def digitsResponse : TransportResponse := ⟨200, [], List.replicate 4301 49⟩

theorem digits_not_read_cleanly : ¬ ReadsCleanly sampleGateway sampleModel digitsResponse := by
  apply not_clean_of_digitLimit
  apply digitLimit_loads
  · rw [digitsResponse, List.length_replicate]
    decide
  · rw [digitsResponse, List.all_replicate]
    decide

end JibitSdk.Guarantees
