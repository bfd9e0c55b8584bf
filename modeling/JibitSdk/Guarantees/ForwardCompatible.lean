import JibitSdk.Reasoning.Extension
import JibitSdk.Sdk.Services.ResponseModels

/-!
# Provider data with more fields

Response models keep keys they do not know, so an extended body is read like the body it extends.
Two readers use request models, which refuse such keys: the generated batch and the Blue Bank
callback.
-/

namespace JibitSdk.Guarantees

open JibitSdk.Python JibitSdk.Reasoning JibitSdk.Sdk JibitSdk.Sdk.ResponseModels

/-! ## 1. Bodies -/

/-- The second body is the first with undeclared keys added, in the form the
    fields are read from. -/
def ExtendsBody (m : ModelClass) (value value' : Obj) : Prop :=
  ∃ read read', m.before value = .ok read ∧ m.before value' = .ok read' ∧
    Extends m.schema read read'

/-- Objects of forbidding models in the body hold declared keys only. -/
def DeclaredBody (m : ModelClass) (value : Obj) : Prop :=
  ∀ read, m.before value = .ok read → DeclaredOnly m.schema read

/-- Readers whose model is a request model. -/
def ReadsRequestModel (reader : Reader) : Prop :=
  reader = .wrapped (.transfer .generateBatch) ∨ reader = .blueBankCallback

section
variable {c : Coercions} {loads : String → Except BuiltinError Obj} {m : ModelClass}
  {reader : Reader}

theorem modelValidate_extends_iff {value value' : Obj} {found : Obj}
    (hfound : m.modelValidate c value = .ok (some found)) (hext : ExtendsBody m value value') :
    m.modelValidate c value' = .ok (some found) ↔ DeclaredBody m value' := by
  obtain ⟨read, read', hread, hread', hfields⟩ := hext
  obtain ⟨read'', hread'', hvalid, hafter⟩ := modelValidate_eq_some_iff.mp hfound
  rw [hread] at hread''
  rw [← Except.ok.inj hread''] at hvalid
  rw [modelValidate_eq_some_iff, hread', DeclaredBody, hread']
  have hiff := validate_extends_iff m.schema read read' found hvalid hfields
  constructor
  · intro h read'' hread''
    obtain ⟨again, hagain, hvalid', -⟩ := h
    rw [← Except.ok.inj hagain, hiff] at hvalid'
    rw [← Except.ok.inj hread'']
    exact hvalid'
  · intro h
    exact ⟨read', rfl, hiff.mpr (h read' rfl), hafter⟩

/-- All other readers use response models throughout. -/
theorem open_of_responseModel (hm : reader.model loads = some m) (h : ¬ ReadsRequestModel reader) :
    Open m.schema = true := by
  cases reader with
  | wrapped op =>
    cases op with
    | transfer op =>
      by_cases hgenerate : op = .generateBatch
      · exact absurd (.inl (by rw [hgenerate])) h
      · cases op <;> cases hm <;> first | rfl | exact absurd rfl hgenerate
    | cobank op => cases op <;> cases hm <;> rfl
    | directDebit op => cases op <;> cases hm <;> rfl
    | sms op => cases op <;> cases hm <;> rfl
    | contract op => cases op <;> cases hm <;> rfl
    | identicator op => cases op <;> cases hm <;> rfl
    | kyc op => cases hm; rfl
  | financial op => cases op <;> cases hm <;> rfl
  | inquiry op => cases op <;> cases hm <;> rfl
  | paymentCallback => cases hm; rfl
  | blueBankCallback => exact absurd (.inr rfl) h

end

/-! ## 2. Extended bodies are read as before -/

/-- A body with more fields is read as before, with the same values, unless a request model reads it
    and one of that model's objects has received a key. -/
theorem extension_read_iff (c : Coercions) (loads : String → Except BuiltinError Obj)
    (reader : Reader) (m : ModelClass) (hm : reader.model loads = some m) (value value' : Obj)
    (found : Obj) (hfound : m.modelValidate c value = .ok (some found))
    (hext : ExtendsBody m value value') :
    m.modelValidate c value' = .ok (some found) ↔
      ¬ ReadsRequestModel reader ∨ DeclaredBody m value' := by
  rw [modelValidate_extends_iff hfound hext]
  constructor
  · exact .inr
  · intro h
    rcases h with hresponse | hdeclared
    · exact fun read _ => declaredOnly_of_open _ read (open_of_responseModel hm hresponse)
    · exact hdeclared

/-! ## 3. Two bodies -/

/-- The conversions, for texts that need none. -/
def plainCoercions : Coercions where
  intOfStr _ := none
  floatOfStr _ := none
  boolOfStr _ := none
  datetimeOf _ := none
  uuidOf _ := none
  httpUrlOf _ := none
  ipOf _ := none
  other _ _ := none
  holds pattern text :=
    pattern == "^IR\\d\x7b24\x7d$" && text.length == 26 && text.toList.take 2 == ['I', 'R'] &&
      (text.toList.drop 2).all Char.isDigit
  isoformat _ := ""
  dumpAny _ := .ok .null

/-- A text without JSON in it. -/
def noJson (_ : String) : Except BuiltinError Obj := .error .jsonDecodeError

/-- A generated batch of one transfer. -/
def generatedBatch : List (String × Obj) :=
  [("batchID", .str "b-1"), ("transfers", .arr [.obj [("transferID", .str "t-1"),
    ("destination", .str "IR062960000000100324200001"), ("amount", .int 1000),
    ("description", .str "Settlement")]])]

def blueBankBody : List (String × Obj) :=
  [("requestId", .str "r-1"), ("additionalInformation", .str ""), ("eventType", .str "MANDATE"),
    ("mandateNumber", .str "m-1"), ("mandateStatus", .str "ACTIVE"),
    ("eventCategory", .str "STATUS")]

/-- A purchase callback with a field its model does not know. -/
def futureCallback : List (String × Obj) := [("purchaseId", .int 1)]

theorem extension_read_iff_callback :
    (plainClass paymentCallback).modelValidate plainCoercions
        (.obj (futureCallback ++ [("futureProviderField", .str "accepted")])) =
      .ok (some (.obj [("purchase_id", .int 1),
        ("client_reference_number", .null)])) ↔
      ¬ ReadsRequestModel .paymentCallback ∨ DeclaredBody (plainClass paymentCallback)
        (.obj (futureCallback ++ [("futureProviderField", .str "accepted")])) :=
  extension_read_iff plainCoercions noJson .paymentCallback (plainClass paymentCallback) rfl
    (.obj futureCallback) _ _ rfl ⟨_, _, rfl, rfl, extends_append_key _ _ (by decide) (by decide)⟩

/-- A generated batch and a Blue Bank callback are refused for one field more. -/
theorem request_models_refuse :
    (Reader.wrapped (.transfer .generateBatch)).model noJson =
        some (plainClass submitBatchRequest) ∧
      Reader.blueBankCallback.model noJson = some (plainClass blueBankCallback) ∧
      (∃ found, (plainClass submitBatchRequest).modelValidate plainCoercions (.obj generatedBatch) =
        .ok (some found)) ∧
      ExtendsBody (plainClass submitBatchRequest) (.obj generatedBatch)
        (.obj (generatedBatch ++ [("batchCount", .int 1)])) ∧
      (plainClass submitBatchRequest).modelValidate plainCoercions
        (.obj (generatedBatch ++ [("batchCount", .int 1)])) = .ok none ∧
      (∃ found, (plainClass blueBankCallback).modelValidate plainCoercions (.obj blueBankBody) =
        .ok (some found)) ∧
      ExtendsBody (plainClass blueBankCallback) (.obj blueBankBody)
        (.obj (blueBankBody ++ [("channel", .str "MOBILE")])) ∧
      (plainClass blueBankCallback).modelValidate plainCoercions
        (.obj (blueBankBody ++ [("channel", .str "MOBILE")])) = .ok none := by
  have hbatch :
      (submitBatchRequest.validate plainCoercions (.obj generatedBatch)).isSome = true := by
    decide +kernel
  have hbatch' : (submitBatchRequest.validate plainCoercions
      (.obj (generatedBatch ++ [("batchCount", .int 1)]))).isNone = true := by decide +kernel
  have hbody : (blueBankCallback.validate plainCoercions (.obj blueBankBody)).isSome = true := by
    decide +kernel
  have hbody' : (blueBankCallback.validate plainCoercions
      (.obj (blueBankBody ++ [("channel", .str "MOBILE")]))).isNone = true := by decide +kernel
  obtain ⟨batch, hbatch⟩ := Option.isSome_iff_exists.mp hbatch
  obtain ⟨body, hbody⟩ := Option.isSome_iff_exists.mp hbody
  refine ⟨rfl, rfl, ⟨batch, congrArg Except.ok hbatch⟩, ⟨_, _, rfl, rfl, ?_⟩,
    congrArg Except.ok (Option.isNone_iff_eq_none.mp hbatch'), ⟨body, congrArg Except.ok hbody⟩,
    ⟨_, _, rfl, rfl, ?_⟩, congrArg Except.ok (Option.isNone_iff_eq_none.mp hbody')⟩
  · exact extends_append_key _ _ (by decide +kernel) (by decide +kernel)
  · exact extends_append_key _ _ (by decide +kernel) (by decide +kernel)

end JibitSdk.Guarantees
