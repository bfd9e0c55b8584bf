import JibitSdk.Reasoning.Url
import JibitSdk.Sdk.Services.Facade

/-!
# References in paths

The checks a facade makes of a caller's reference before it becomes a path segment
(`DirectDebitService._reference`, `CobankService._reference`, `PulseSmsService._reference`), and the
operations that use one.
-/

namespace JibitSdk.Sdk

open JibitSdk.Python JibitSdk.Reasoning

/-! ## 1. The checks -/

/-- `str.isalnum` of one character: `\w` is these and the underscore. -/
def isalnum (u : CharClasses) (c : Char) : Bool := u.isWord c && c != '_'

/-- `request_validation_error`, also the error of `validate_request`. -/
def requestValidationError (rt : Runtime) (service : ServiceName)
    (operation method endpoint message : String) : PyError :=
  .jibit (.new rt .validation message
    { service := some service.value, operation := some operation, method := some method,
      endpoint := some endpoint })

/-- `DirectDebitService._reference`. -/
def directDebitReference (rt : Runtime) (operation value : String) : Except PyError String :=
  if value = "" ∨ ¬ value.toList.all fun c => isalnum rt.chars c || "-_.".toList.contains c then
    .error (requestValidationError rt .directDebit operation "POST" "/directdebit/api/v1"
      "reference contains invalid characters")
  else .ok value

/-- `Field(min_length=1, max_length=200, pattern=r"^[A-Za-z0-9._-]+$")`. -/
def referenceField (value : String) : Bool :=
  1 ≤ value.length && value.length ≤ 200 &&
    value.toList.all fun c => c.isAlphanum || "._-".toList.contains c

/-- `CobankService._reference`. -/
def cobankReference (rt : Runtime) (operation value : String) : Except PyError String :=
  if referenceField value then .ok value
  else .error (requestValidationError rt .cobank operation "PUT"
    "/cobank/v2/orders/settlement/\x7breference\x7d/receipt-link"
    "The request parameters are invalid")

/-- `PulseSmsService._reference`. -/
def smsReference (rt : Runtime) (operation value : String) : Except PyError String :=
  if referenceField value then .ok value
  else .error (requestValidationError rt .sms operation "GET" "/pulse/api/v1/message/sms"
    "The request parameters are invalid")

/-! ## 2. The operations -/

/-- A facade call with the references its caller supplies. -/
inductive ReferenceCall where
  | sendOtp (mandateNumber : String)
  | inquireTransaction (creditorTransactionNo : String)
  | listSubscriptionTransactions (mandateNumber : String)
  | inquireMandate (mandateReference : String)
  | inquireCreditorMandate (creditorReference : String)
  | setSettlementReceipt (referenceNumber : String)
  | setRecordReceipt (referenceNumber recordReferenceNumber : String)
  | getStatusByClientId (clientMessageId : String)

namespace ReferenceCall

/-- The references checked, and the operation with the values the checks return. -/
def checked (rt : Runtime) : ReferenceCall → Except PyError WrappedOperation
  | .sendOtp value => do
    let reference ← directDebitReference rt "send_otp" value
    pure (.directDebit (.sendOtp reference))
  | .inquireTransaction value => do
    let reference ← directDebitReference rt "inquire_transaction" value
    pure (.directDebit (.inquireTransaction reference))
  | .listSubscriptionTransactions value => do
    let reference ← directDebitReference rt "list_subscription_transactions" value
    pure (.directDebit (.listSubscriptionTransactions reference))
  | .inquireMandate value => do
    let reference ← directDebitReference rt "inquire_mandate" value
    pure (.directDebit (.inquireMandate reference))
  | .inquireCreditorMandate value => do
    let reference ← directDebitReference rt "inquire_creditor_mandate" value
    pure (.directDebit (.inquireCreditorMandate reference))
  | .setSettlementReceipt value => do
    let reference ← cobankReference rt "set_settlement_receipt" value
    pure (.cobank (.setSettlementReceipt reference))
  | .setRecordReceipt value record => do
    let reference ← cobankReference rt "set_record_receipt" value
    let recordReference ← cobankReference rt "set_record_receipt" record
    pure (.cobank (.setRecordReceipt reference recordReference))
  | .getStatusByClientId value => do
    let reference ← smsReference rt "get_status_by_client_id" value
    pure (.sms (.getStatusByClientId reference))

/-- The facade method, from its raw arguments on. -/
def run {M : Type} (call : ReferenceCall) (x : AuditedRequestExecutor) (parts : RequestParts)
    (model : ResponseModel M) : Py (APIResponse M) := do
  let op ← Prog.ofExcept (call.checked x.rt)
  wrappedCall x op parts model

/-- The references of a call. -/
def references : ReferenceCall → List String
  | .sendOtp value | .inquireTransaction value | .listSubscriptionTransactions value
  | .inquireMandate value | .inquireCreditorMandate value | .setSettlementReceipt value
  | .getStatusByClientId value => [value]
  | .setRecordReceipt value record => [value, record]

/-- The segments of the call's endpoint: the fixed words of its template, and every reference as
    one segment. -/
def segments : ReferenceCall → List Segment
  | .sendOtp value => ["directdebit".toList, "api".toList, "v1".toList, "transaction".toList,
      "otp".toList, value.toList]
  | .inquireTransaction value => ["directdebit".toList, "api".toList, "v1".toList,
      "transaction".toList, value.toList]
  | .listSubscriptionTransactions value => ["directdebit".toList, "api".toList, "v1".toList,
      "subscription-mandate".toList, value.toList, "transactions".toList]
  | .inquireMandate value => ["directdebit".toList, "api".toList, "v1".toList, "mandates".toList,
      "mandate-reference".toList, value.toList]
  | .inquireCreditorMandate value => ["directdebit".toList, "api".toList, "v1".toList,
      "mandates".toList, "creditor-mandate-reference".toList, value.toList]
  | .setSettlementReceipt value => ["cobank".toList, "v2".toList, "orders".toList,
      "settlement".toList, value.toList, "receipt-link".toList]
  | .setRecordReceipt value record => ["cobank".toList, "v2".toList, "orders".toList,
      "settlement".toList, value.toList, "records".toList, record.toList, "receipt-link".toList]
  | .getStatusByClientId value => ["pulse".toList, "api".toList, "v1".toList, "message".toList,
      "sms".toList, "status".toList, "client-message-id".toList, value.toList]

end ReferenceCall

/-! ## 3. Base URLs -/

/-- A validated `HttpUrl`, as its `str()` shows it: the authority is not empty, the path has at
    least the root slash, its dot segments are gone, and a query or a fragment may follow. -/
structure HttpUrl where
  scheme : List Char
  authority : List Char
  path : List Segment
  rest : List Char
  scheme_http : scheme = "http".toList ∨ scheme = "https".toList
  authority_ne : authority ≠ []
  authority_plain : ∀ c ∈ authority, endsAuthority c = false
  path_ne : path ≠ []
  path_plain : ∀ s ∈ path, ∀ c ∈ s, endsAuthority c = false
  path_normal : ∀ s ∈ path, ¬ s.isDot
  rest_delimited : ∀ c ∈ rest.head?, endsPath c = true

/-- `str(url)`. -/
def HttpUrl.text (u : HttpUrl) : String :=
  String.ofList (Url.text ⟨u.scheme, u.authority, joinSegments u.path, u.rest⟩)

/-- The path segments that `rstrip('/')` leaves of a URL without query and fragment. -/
def HttpUrl.prefixSegments (u : HttpUrl) : List Segment := u.path.rdropWhile (·.isEmpty)

/-- The base URL a service's requests are built on. -/
def RequestEngine.configuredBaseUrl (e : RequestEngine) (service : ServiceName) : String :=
  match e.config.services service with
  | some serviceConfig => serviceConfig.baseUrl.getD e.config.baseUrl
  | none => e.config.baseUrl

end JibitSdk.Sdk
