import JibitSdk.Sdk.Services.ResponseModels
import JibitSdk.Sdk.Tokens

/-!
# Request models

The Pydantic models that facade methods build from their arguments: those of
`jibit/services/*/models.py` and the private ones of `jibit/services/*/service.py`, with their
validators.
-/

namespace JibitSdk.Sdk.RequestModels

open JibitSdk.Python JibitSdk.Sdk JibitSdk.Sdk.ResponseModels

/-! ## 1. Transferor -/

def batchGeneratorRequest : Schema :=
  jibitRequestModel [defaulting "submission_mode" (.plain submissionMode) (.str "BATCH"),
    required "transfer_mode" (.plain transferMode),
    required "destination" (.plain (.str 0 none (some "^IR\\d\x7b24\x7d$"))),
    required "amount" (.plain (.int (some 1))),
    defaulting "currency" (.plain transferCurrency) (.str "IRR"),
    optional "description" (.plain (.str 0 (some 250))),
    optional "metadata" (.plain (.str 0 (some 2000))),
    optionalAs "notify_url" (.plain .httpUrl) "notifyURL",
    defaulting "cancellable" (.plain .bool) (.bool true),
    optionalAs "payment_id" (.plain (.str 0 none (some "^\\d+$"))) "paymentID"]

def transferSelector : Schema :=
  jibitRequestModel [optionalAs "batch_id" (.plain (.str 1)) "batchID",
    optionalAs "transfer_id" (.plain (.str 1)) "transferID"]

def filterValidation : Schema :=
  jibitRequestModel [optional "state" (.plain transferState),
    optionalAs "from_time" (.plain .awareDatetime) "from",
    optionalAs "to_time" (.plain .awareDatetime) "to", required "page" (.plain (.int (some 1))),
    required "size" (.plain (.int (some 1) (some 250)))]

def dailyUsageRequest : Schema :=
  jibitRequestModel [required "year_month_day" (.plain (.str 0 none (some "^\\d\x7b6\x7d$")))]

/-! ## 2. Cobank -/

def transferReason : FieldType :=
  .enum ["VARIZ_HOGHOUGH", "TADIE_DOYOUN", "MOAMELAT_MANGHOUL", "MOAMELAT_GHEIR_MANGHOUL",
    "MODIRIAT_NAGHDINEGI", "MODIRIRAT_NAGHDINEGI", "KHARID_KALA", "KHARID_KHADAMAT"]

def createSettlementRequest : Schema :=
  jibitRequestModel [required "record_track_id" (.plain .uuid),
    required "destination_iban" (.plain (.str 0 none (some "^IR\\d\x7b24\x7d$"))),
    required "amount" (.plain (.int (some 1))),
    optional "transfer_type" (.plain cobankTransferType),
    optional "transfer_reason" (.plain transferReason),
    optional "source_iban" (.plain (.str 0 none (some "^IR\\d\x7b24\x7d$"))),
    optional "payment_id" (.plain (.str 0 (some 100) (some "^\\d+$"))),
    optional "request_description" (.plain (.str 0 (some 250)))]

def batchInquiryRequest : Schema :=
  jibitRequestModel [required "track_ids" (.list 1 (some 10000) (.plain .uuid))]

def pagination : Schema :=
  jibitRequestModel [defaulting "page_number" (.plain (.int (some 0))) (.int 0),
    defaulting "page_size" (.plain (.int (some 1) (some 250))) (.int 50)]

def reference : Schema :=
  jibitRequestModel [required "value" (.plain (.str 1 (some 200) (some "^[A-Za-z0-9._-]+$")))]

/-! ## 3. Direct Debit -/

def periodUnit : FieldType :=
  .enum ["DAY", "WEEK", "MONTH", "YEAR"]

def createMandateRequest : Schema :=
  jibitRequestModel [
    requiredAs "creditor_mandate_reference" (.plain (.str 10 (some 50)))
      "creditor_mandate_reference",
    requiredAs "debtor_bank" (.plain (.str 1)) "debtor_bank",
    requiredAs "maximum_amount" (.plain (.int (some 1))) "maximum_amount",
    requiredAs "period" (.plain (.int (some 1))) "period",
    requiredAs "period_unit" (.plain periodUnit) "period_unit",
    requiredAs "start_date" (.plain (.str 0 none (some "^\\d\x7b4\x7d-\\d\x7b2\x7d-\\d\x7b2\x7d$")))
      "start_date",
    requiredAs "expire_date"
      (.plain (.str 0 none (some "^\\d\x7b4\x7d-\\d\x7b2\x7d-\\d\x7b2\x7d$")))
      "expire_date",
    optionalAs "mandate_reason" (.plain .str) "mandate_reason",
    optionalAs "debtor_firstname" (.plain .str) "debtor_firstname",
    optionalAs "debtor_lastname" (.plain .str) "debtor_lastname",
    optionalAs "debtor_national_code" (.plain (.str 0 none (some "^\\d\x7b10\x7d$")))
      "debtor_national_code",
    optionalAs "debtor_id_number" (.plain .str) "debtor_id_number",
    optionalAs "debtor_mobile_number" (.plain .str) "debtor_mobile_number",
    optionalAs "debtor_postal_code" (.plain .str) "debtor_postal_code",
    optionalAs "debtor_birthdate" (.plain .str) "debtor_birthdate",
    optionalAs "debtor_deposit_number" (.plain .str) "debtor_deposit_number",
    optionalAs "debtor_iban" (.plain (.str 0 none (some "^IR\\d\x7b24\x7d$"))) "debtor_iban",
    optionalAs "otp_requirement_status" (.plain .str) "otp_requirement_status",
    optionalAs "otp_condition" (.plain .str) "otp_condition",
    optionalAs "frequency" (.plain (.int (some 1))) "frequency",
    optionalAs "retry" (.plain .bool) "retry"]

def collectRequest : Schema :=
  jibitRequestModel [
    requiredAs "creditor_transaction_no" (.plain (.str 1 (some 100))) "creditor_transaction_no",
    requiredAs "mandate_reference" (.plain (.str 10 (some 50))) "mandate_reference",
    requiredAs "amount" (.plain (.int (some 1))) "amount",
    optionalAs "otp" (.plain (.str 1)) "otp"]

/-! ## 4. Pulse SMS -/

def simpleSmsRequest : Schema :=
  jibitRequestModel [requiredAs "receptor" (.plain (.str 10 (some 20))) "receptor",
    requiredAs "message" (.plain (.str 1 (some 2000))) "message",
    optionalAs "sender" (.plain (.str 1 (some 50))) "sender",
    optionalAs "client_message_id" (.plain (.str 1 (some 100))) "client_message_id"]

def patternSmsRequest : Schema :=
  jibitRequestModel [requiredAs "receptor" (.plain (.str 10 (some 20))) "receptor",
    requiredAs "template" (.plain (.str 1 (some 100))) "template",
    defaultingAs "params" (.plain .dictOfStr) (.obj []) "params",
    optionalAs "sender" (.plain (.str 1 (some 50))) "sender",
    optionalAs "client_message_id" (.plain (.str 1 (some 100))) "client_message_id"]

def createBulkRequest : Schema :=
  jibitRequestModel [requiredAs "bulk_name" (.plain (.str 1 (some 200))) "bulk_name",
    requiredAs "sender" (.plain (.str 1 (some 50))) "sender",
    requiredAs "receptors" (.list 1 (some 1000) (.plain .str)) "receptors",
    optionalAs "message" (.plain (.str 0 (some 2000))) "message",
    optionalAs "predefined_message_id" (.plain .uuid) "predefined_message_id",
    optionalAs "client_bulk_reference" (.plain (.str 0 (some 100))) "client_bulk_reference"]

def inboundQuery : Schema :=
  jibitRequestModel [requiredAs "from_date" (.plain .datetime) "from_date",
    requiredAs "to_date" (.plain .datetime) "to_date",
    defaultingAs "page" (.plain (.int (some 0))) (.int 0) "page"]

def page : Schema :=
  jibitRequestModel [defaultingAs "page" (.plain (.int (some 0))) (.int 0) "page",
    defaultingAs "page_size" (.plain (.int (some 1) (some 1000))) (.int 20) "page_size"]

/-! ## 5. MzaHub -/

/-- `Signer.validate_legal_dependency`: both legal-entity fields or neither. -/
def validateLegalDependency (self : Obj) : Bool :=
  (self.attr "dependent_legal_national_code").isNull = (self.attr "dependent_legal_name").isNull

/-- `base64.b64decode(value, validate=True)`. -/
def b64decode (value : String) : Except BuiltinError (List UInt8) :=
  let data := value.toList.map fun c => UInt8.ofNat c.toNat
  let padding := data.reverse.takeWhile (· = 61)
  if value.toList.all (fun c => c.toNat < 128) ∧ padding.length ≤ 2 ∧
      (data.reverse.dropWhile (· = 61)).all (fun b => (base64Value b).isSome) then
    a2bBase64 0 0 0 data
  else .error .binasciiError

/-- `InitiateContractRequest.require_valid_pdf`; what decoding raises is turned into a
    `ValueError`. -/
def requireValidPdf : Obj → Bool
  | .str value =>
    match b64decode value with
    | .ok decoded => [37, 80, 68, 70, 45].isPrefixOf decoded
    | .error _ => false
  | _ => false

def signer : Schema :=
  .checked
    (jibitRequestModel [required "national_code" (.plain (.str 0 none (some "^\\d\x7b10\x7d$"))),
    required "birth_date" (.plain (.str 1)), optional "mobile_number" (.plain .str),
    optional "priority" (.plain (.int (some 0))), optional "x1" (.plain (.int (some 0))),
    optional "x2" (.plain (.int (some 0))), optional "y1" (.plain (.int (some 0))),
    optional "y2" (.plain (.int (some 0))), optional "page_sign_selection" (.plain .str),
    optional "dependent_legal_national_code" (.plain .str),
    optional "dependent_legal_name" (.plain .str)]) validateLegalDependency

def initiateContractRequest : Schema :=
  jibitRequestModel [required "track_id" (.plain (.str 1 (some 200) (some "^[A-Za-z0-9_-]+$"))),
    required "base64_file" (.checked (.plain (.str 1 (some 14000000))) requireValidPdf),
    required "redirect_url" (.plain .httpUrl), required "signers" (.list 1 (some 10) signer),
    optional "expire_at" (.plain .datetime), optional "description" (.plain (.str 0 (some 1000))),
    optional "signature_appearance" (.plain .str)]

def realIp : Schema :=
  jibitRequestModel [required "value" (.plain .ip)]

/-! ## 6. Identicator -/

def matchingRequest : Schema :=
  jibitRequestModel [optional "iban" (.plain .str), optional "card_number" (.plain .str),
    optional "bank" (.plain .str), optional "deposit_number" (.plain .str),
    optional "national_code" (.plain .str), optional "legal_national_code" (.plain .str),
    optional "birth_date" (.plain .str), optional "name" (.plain .str),
    optional "mobile_number" (.plain .str), optional "fida" (.plain .str),
    optional "passport_number" (.plain .str)]

def identitySimilarityRequest : Schema :=
  jibitRequestModel [required "national_code" (.plain (.str 10 (some 10))),
    required "birth_date" (.plain (.str 8 (some 10))), optional "first_name" (.plain .str),
    optional "last_name" (.plain .str), optional "full_name" (.plain .str),
    optional "father_name" (.plain .str)]

/-! ## 7. Payment Gateway -/

def terminalSwitching : Schema :=
  jibitRequestModel [required "terminal_ids" (.list 1 none (.plain .str)),
    defaulting "auto_switching" (.plain .bool) (.bool true)]

def createPurchaseRequest : Schema :=
  jibitRequestModel [required "amount" (.plain (.int (some 5000))),
    required "callback_url" (.plain (.httpUrl (some 1024))),
    required "client_reference_number" (.plain (.str 1 (some 50))),
    defaulting "wage" (.plain (.int (some 0))) (.int 0),
    defaulting "currency" (.plain currency) (.str "IRR"),
    optional "payer_mobile_number" (.plain .str),
    defaulting "check_payer_mobile_number" (.plain .bool) (.bool false),
    optional "payer_card_number" (.plain .str),
    optional "payer_card_numbers" (.list 0 none (.plain .str)),
    optional "payer_national_code" (.plain .str),
    optional "description" (.plain (.str 0 (some 256))), optional "switching" terminalSwitching,
    optional "additional_data" (.plain .dict),
    optional "user_identifier" (.plain (.str 0 (some 50)))]

def purchaseIdentifierRequestFields : List (Field × Schema) :=
  [optional "client_reference_number" (.plain (.str 1 (some 50))),
    optional "purchase_id" (.plain (.int (some 1)))]

def purchaseIdentifierRequest : Schema := jibitRequestModel purchaseIdentifierRequestFields

def reversePurchaseRequest : Schema := purchaseIdentifierRequest

def refundPurchaseRequest : Schema :=
  jibitRequestModel (purchaseIdentifierRequestFields ++ [optional "amount" (.plain (.int (some 1))),
    defaulting "cancellable" (.plain .bool) (.bool false)])

def refundActionRequest : Schema :=
  jibitRequestModel [optional "transfer_id" (.plain (.str 1))]

def purchaseFilter : Schema :=
  jibitRequestModel [optional "purchase_id" (.plain (.int (some 1))),
    optional "status" (.plain purchaseState), optional "client_reference_number" (.plain .str),
    optional "psp_reference_number" (.plain .str), optional "psp_rrn" (.plain .str),
    optional "psp_trace_number" (.plain .str), optional "user_identifier" (.plain .str),
    optionalAs "from_" (.plain .datetime) "from", optional "to" (.plain .datetime),
    optional "page" (.plain (.int (some 1) (some 20))),
    optional "size" (.plain (.int (some 1) (some 250)))]

def settlementFilter : Schema :=
  jibitRequestModel [optional "settlement_id" (.plain (.int (some 1))),
    optional "page" (.plain (.int (some 1) (some 20))),
    optional "size" (.plain (.int (some 1) (some 250)))]

/-! ## 8. Operators in validators -/

/-- `raise ValueError(...)`, if so. -/
def raiseIf (wrong : Bool) : Except BuiltinError Unit :=
  if wrong then .error .valueError else .ok ()

/-- `a > b`. -/
def greater : Obj → Obj → Except BuiltinError Bool
  | .datetime a, .datetime b => a.gt b
  | .str a, .str b => .ok (decide (b < a))
  | .int a, .int b => .ok (decide (b < a))
  | _, _ => .error .typeError

/-- An operand of integer arithmetic. -/
def operand : Obj → Except BuiltinError ℤ
  | .int n => .ok n
  | .bool b => .ok (if b then 1 else 0)
  | _ => .error .typeError

/-- `bool(value)`. -/
def truthy : Obj → Bool
  | .null => false
  | .bool b => b
  | .int n => n != 0
  | .str s => s != ""
  | .arr items => !items.isEmpty
  | .obj entries => !entries.isEmpty
  | _ => true

/-! ## 9. Validators -/

/-- `_FilterValidation.validate_time_range`. -/
def validateTimeRange (self : Obj) : Except BuiltinError Unit :=
  if (self.attr "from_time").isNull ∨ (self.attr "to_time").isNull then .ok ()
  else do raiseIf (← greater (self.attr "from_time") (self.attr "to_time"))

/-- `TransferSelector.require_reference`. -/
def requireReference (self : Obj) : Except BuiltinError Unit :=
  raiseIf ((self.attr "batch_id").isNull && (self.attr "transfer_id").isNull)

/-- `CreateMandateRequest.validate_date_range`. -/
def validateDateRange (self : Obj) : Except BuiltinError Unit := do
  raiseIf (← greater (self.attr "start_date") (self.attr "expire_date"))

/-- `CreateBulkRequest.require_message_source`. -/
def requireMessageSource (self : Obj) : Except BuiltinError Unit :=
  raiseIf ((self.attr "message").isNull = (self.attr "predefined_message_id").isNull)

/-- `_InboundQuery.validate_range`. -/
def validateRange (self : Obj) : Except BuiltinError Unit := do
  raiseIf (← greater (self.attr "from_date") (self.attr "to_date"))

/-- The combinations `validate_documented_combination` allows. -/
def allowedCombinations : List (List String) :=
  [["iban", "name"], ["iban", "national_code"], ["iban", "national_code", "birth_date"],
    ["iban", "legal_national_code"], ["card_number", "name"], ["card_number", "national_code"],
    ["card_number", "national_code", "birth_date"], ["deposit_number", "bank", "name"],
    ["deposit_number", "bank", "national_code"],
    ["deposit_number", "bank", "national_code", "birth_date"], ["national_code", "mobile_number"],
    ["fida", "passport_number"]]

/-- The names of the fields of `MatchingRequest`. -/
def matchingFields : List String :=
  ["iban", "card_number", "bank", "deposit_number", "national_code", "legal_national_code",
    "birth_date", "name", "mobile_number", "fida", "passport_number"]

/-- `MatchingRequest.validate_documented_combination`. -/
def validateDocumentedCombination (self : Obj) : Except BuiltinError Unit :=
  let present := matchingFields.filter fun name => !(self.attr name).isNull
  raiseIf (!allowedCombinations.any fun allowed =>
    allowed.all (present.contains ·) && present.all (allowed.contains ·))

/-- `IdentitySimilarityRequest.require_name`. -/
def requireName (self : Obj) : Except BuiltinError Unit :=
  raiseIf !(List.any ["first_name", "last_name", "full_name", "father_name"] fun name =>
    truthy (self.attr name))

/-- The texts of a list of strings. -/
def texts : Obj → List String
  | .arr items => items.map fun item => match item with
    | .str s => s
    | _ => ""
  | _ => []

/-- `CreatePurchaseRequest.validate_purchase_constraints`. -/
def validatePurchaseConstraints (self : Obj) : Except BuiltinError Unit := do
  let wage ← operand (self.attr "wage")
  let amount ← operand (self.attr "amount")
  raiseIf (amount * 15 < wage * 100)
  raiseIf (truthy (self.attr "check_payer_mobile_number") &&
    !truthy (self.attr "payer_mobile_number"))
  raiseIf (truthy (self.attr "payer_card_number") && truthy (self.attr "payer_card_numbers"))
  raiseIf (truthy (self.attr "payer_card_numbers") &&
    (texts (self.attr "payer_card_numbers")).dedup.length !=
      (texts (self.attr "payer_card_numbers")).length)

/-- `_PurchaseIdentifierRequest.require_purchase_identifier`. -/
def requirePurchaseIdentifier (self : Obj) : Except BuiltinError Unit :=
  raiseIf ((self.attr "client_reference_number").isNull && (self.attr "purchase_id").isNull)

/-- `PurchaseFilter.validate_date_range`. -/
def validatePurchaseDates (self : Obj) : Except BuiltinError Unit :=
  if (self.attr "from_").isNull ∨ (self.attr "to").isNull then .ok ()
  else do
    -- `from_ >= to`
    raiseIf !(← greater (self.attr "to") (self.attr "from_"))

/-! ## 10. Classes -/

/-- A class with an `after` validator. -/
def checkedClass (schema : Schema) (after : Obj → Except BuiltinError Unit) : ModelClass :=
  ⟨.ok, schema, after⟩

def selectorClass : ModelClass := checkedClass transferSelector requireReference
def filterClass : ModelClass := checkedClass filterValidation validateTimeRange
def mandateClass : ModelClass := checkedClass createMandateRequest validateDateRange
def bulkClass : ModelClass := checkedClass createBulkRequest requireMessageSource
def inboundClass : ModelClass := checkedClass inboundQuery validateRange
def matchingClass : ModelClass := checkedClass matchingRequest validateDocumentedCombination
def similarityClass : ModelClass := checkedClass identitySimilarityRequest requireName
def purchaseClass : ModelClass := checkedClass createPurchaseRequest validatePurchaseConstraints
def reverseClass : ModelClass := checkedClass reversePurchaseRequest requirePurchaseIdentifier
def refundClass : ModelClass := checkedClass refundPurchaseRequest requirePurchaseIdentifier
def purchaseFilterClass : ModelClass := checkedClass purchaseFilter validatePurchaseDates

end JibitSdk.Sdk.RequestModels
