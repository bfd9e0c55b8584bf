import JibitSdk.Guarantees.ForwardCompatible
import JibitSdk.Reasoning.RoundTrip
import JibitSdk.Sdk.Services.Requests

/-!
# Payloads say everything a request says

`to_payload` drops what is unset and renames the rest.  Nothing gets lost: the request's own model
reads the payload back as the instance it came from, so the wire tells any two requests apart.
-/

namespace JibitSdk.Guarantees

open JibitSdk.Python JibitSdk.Reasoning JibitSdk.Sdk JibitSdk.Sdk.ResponseModels
  JibitSdk.Sdk.RequestModels

/-! ## 1. The request models -/

/-- The classes whose payloads the facades send. -/
def payloadClasses : List ModelClass :=
  [plainClass submitBatchRequest, selectorClass, filterClass, plainClass dailyUsageRequest,
    plainClass batchGeneratorRequest, plainClass createSettlementRequest,
    plainClass batchInquiryRequest,
    plainClass pagination, mandateClass, plainClass collectRequest, plainClass blueBankCallback,
    plainClass simpleSmsRequest, plainClass patternSmsRequest, bulkClass,
    plainClass page, inboundClass,
    plainClass initiateContractRequest, matchingClass, similarityClass, purchaseClass, reverseClass,
    refundClass, plainClass refundActionRequest, purchaseFilterClass, plainClass settlementFilter]

theorem payloadClasses_invertible : payloadClasses.all (fun m => Invertible m.schema) = true := by
  decide +kernel

/-- They are records with nothing to do before validation. -/
theorem payloadClasses_record {m : ModelClass} (hm : m ∈ payloadClasses) :
    m.before = .ok ∧ ∃ fields, m.schema = jibitRequestModel fields := by
  simp only [payloadClasses, List.mem_cons, List.not_mem_nil, or_false] at hm
  rcases hm with rfl | rfl | rfl | rfl | rfl | rfl | rfl | rfl | rfl | rfl | rfl | rfl
    | rfl | rfl | rfl |
    rfl | rfl | rfl | rfl | rfl | rfl | rfl | rfl | rfl | rfl
  all_goals exact ⟨rfl, _, rfl⟩

section
variable {c : Coercions} {m : ModelClass}

/-- `to_payload` of a validated request succeeds, and the model reads the
    payload as the same request. -/
theorem payload_roundTrip (hm : m ∈ payloadClasses) {value self : Obj}
    (hself : m.modelValidate c value = .ok (some self)) (hlegible : Legible c m.schema self) :
    ∃ payload, payloadOf c m self = .ok payload ∧
      m.modelValidate c (.obj (Obj.ofFields payload)) = .ok (some self) := by
  obtain ⟨hbefore, fields, hschema⟩ := payloadClasses_record hm
  obtain ⟨read, -, hread, hafter⟩ := modelValidate_eq_some_iff.mp hself
  have hinv : Invertible m.schema = true := List.all_eq_true.mp payloadClasses_invertible m hm
  obtain ⟨j, hdump, -, hagain⟩ := dump_validate m.schema read self hinv hread hlegible
  rw [hschema, jibitRequestModel, Schema.dump] at hdump
  cases hfields : dumpFields c fields self with
  | error e =>
    rw [hfields] at hdump
    cases hdump
  | ok payload =>
    rw [hfields] at hdump
    cases hdump
    refine ⟨payload, ?_, ?_⟩
    · rw [payloadOf, hschema]
      exact congrArg uncaught hfields
    · rw [modelValidate_eq_some_iff, hbefore]
      exact ⟨_, rfl, hagain, hafter⟩

/-- A parser of one UUID. -/
def uuidCoercions : Coercions :=
  { plainCoercions with
    uuidOf := fun text => if text = "5f0c7cb2-6a52-4f0e-9d7c-5c6d2f3a9b10" then
    some text else none }

/-- A settlement with its track id as text and nothing optional. -/
def settlementValues : List (String × Obj) :=
  [("record_track_id", .str "5f0c7cb2-6a52-4f0e-9d7c-5c6d2f3a9b10"),
    ("destination_iban", .str "IR062960000000100324200001"), ("amount", .int 1000),
    ("transfer_reason", .null)]

/-- The settlement that comes of it. -/
def settlement : Obj :=
  .obj [("record_track_id", .uuid "5f0c7cb2-6a52-4f0e-9d7c-5c6d2f3a9b10"),
    ("destination_iban", .str "IR062960000000100324200001"), ("amount", .int 1000),
    ("transfer_type", .null),
    ("transfer_reason", .null), ("source_iban", .null), ("payment_id", .null),
    ("request_description", .null)]

theorem settlement_validated :
    (plainClass createSettlementRequest).modelValidate uuidCoercions (.obj settlementValues) =
      .ok (some settlement) := rfl

theorem settlement_legible : Legible uuidCoercions createSettlementRequest settlement :=
  ⟨.inr rfl, .inr trivial, .inr trivial, .inl rfl, .inl rfl, .inl rfl, .inl rfl, .inl rfl, trivial⟩

theorem payload_roundTrip_settlement :
    ∃ payload,
      payloadOf uuidCoercions (plainClass createSettlementRequest) settlement = .ok payload ∧
      (plainClass createSettlementRequest).modelValidate uuidCoercions
        (.obj (Obj.ofFields payload)) = .ok (some settlement) :=
  payload_roundTrip (by simp [payloadClasses]) settlement_validated settlement_legible

/-- Two requests with the same payload are the same request. -/
theorem payload_injective (hm : m ∈ payloadClasses) {value value' self self' : Obj}
    (hself : m.modelValidate c value = .ok (some self))
    (hself' : m.modelValidate c value' = .ok (some self'))
    (hlegible : Legible c m.schema self) (hlegible' : Legible c m.schema self')
    (hpayload : payloadOf c m self = payloadOf c m self') : self = self' := by
  obtain ⟨payload, hp, hread⟩ := payload_roundTrip hm hself hlegible
  obtain ⟨payload', hp', hread'⟩ := payload_roundTrip hm hself' hlegible'
  rw [hp, hp'] at hpayload
  cases hpayload
  rw [hread] at hread'
  cases hread'
  rfl

end

end JibitSdk.Guarantees
