import JibitSdk.Sdk.Services.References
import JibitSdk.Sdk.Services.RequestModels

/-!
# Facade methods up to the executor

What the facade methods of `jibit/services/*/service.py` that build a request model do before they
call their executor: the checks of their own, the validation, the payload.
-/

namespace JibitSdk.Sdk

open JibitSdk.Python JibitSdk.Reasoning JibitSdk.Sdk.ResponseModels JibitSdk.Sdk.RequestModels

/-! ## 1. Validation and payload -/

/-- Where an input error is reported. -/
structure CallContext where
  service : ServiceName
  operation : String
  method : String
  endpoint : String

/-- The context that names an operation itself. -/
def OperationSpec.context (spec : OperationSpec) : CallContext :=
  ⟨spec.service, spec.operation, spec.method, spec.path⟩

/-- `request_validation_error`, and the `_invalid` and `_validation_error`
    helpers of the facades. -/
def CallContext.error (rt : Runtime) (context : CallContext) (message : String) : PyError :=
  requestValidationError rt context.service context.operation context.method
    context.endpoint message

/-- Exceptions nobody has caught. -/
def uncaught {α : Type} : Except BuiltinError α → Except PyError α
  | .ok a => .ok a
  | .error e => .error (.builtin e)

section
variable (rt : Runtime) (c : Coercions)

/-- `validate_request`, and `_request` of the Payment Gateway. -/
def validateRequest (m : ModelClass) (values : List (String × Obj)) (context : CallContext) :
    Except PyError Obj := do
  match ← uncaught (m.modelValidate c (.obj values)) with
  | some self => .ok self
  | none => .error (context.error rt "The request parameters are invalid")

/-- `request.to_payload()`, which is `request.to_query()`. -/
def payloadOf (m : ModelClass) (self : Obj) : Except PyError (List (String × Json)) :=
  match m.schema with
  | .record _ fields => uncaught (dumpFields c fields self)
  | _ => .ok []

/-- The text of an integer in an f-string. -/
def intText (n : ℤ) : Except BuiltinError String :=
  if n.natAbs < 10 ^ 4300 then .ok (toString n) else .error .valueError

/-- A string argument that may be `None`. -/
def optStr : Option String → Obj
  | some s => .str s
  | none => .null

/-- An integer argument that may be `None`. -/
def optInt : Option ℤ → Obj
  | some n => .int n
  | none => .null

/-- `base64.b64encode(data).decode("ascii")`. -/
def b64encode : List UInt8 → List Char
  | [] => []
  | [a] => [b64Char (a.toNat / 4), b64Char (a.toNat % 4 * 16), '=', '=']
  | [a, b] => [b64Char (a.toNat / 4), b64Char (a.toNat % 4 * 16 + b.toNat / 16),
      b64Char (b.toNat % 16 * 4), '=']
  | a :: b :: c :: rest => b64Char (a.toNat / 4) :: b64Char (a.toNat % 4 * 16 + b.toNat / 16) ::
      b64Char (b.toNat % 16 * 4 + c.toNat / 64) :: b64Char (c.toNat % 64) :: b64encode rest
where
  /-- The character of a 6-bit value. -/
  b64Char (n : ℕ) : Char :=
    "ABCDEFGHIJKLMNOPQRSTUVWXYZabcdefghijklmnopqrstuvwxyz0123456789+/".toList.getD n '='

/-! ## 2. Transferor -/

def transferContext (operation method : String) : CallContext :=
  ⟨.transfers, operation, method, "/trf/v2/transfers"⟩

/-- `_selector`. -/
def selector (batchId transferId : Option String) (operation method : String) :
    Except PyError Obj :=
  validateRequest rt c selectorClass
    [("batch_id", optStr batchId), ("transfer_id", optStr transferId)]
    (transferContext operation method)

/-- The operations of `TransferService` that build a request. -/
inductive TransferCall where
  | submitBatch (batchId : String) (transfers submissionMode : Obj)
  | inquire (batchId transferId : Option String)
  | cancel (batchId transferId : Option String)
  | retryFailed (batchId transferId : Option String)
  | filterTransfers (state fromTime toTime : Obj) (page size : ℤ)
  | setReceiptEnabled (enabled : Bool) (batchId transferId : Option String)
  | getDailyUsageReport (yearMonthDay : String)
  | generateBatch (values : List (String × Obj))

def TransferCall.prepare : TransferCall → Except PyError RequestOptions
  | .submitBatch batchId transfers submissionMode => do
    let spec := TransferOperation.submitBatch.spec
    let m := plainClass submitBatchRequest
    let request ← validateRequest rt c m [("batch_id", .str batchId),
      ("submission_mode", submissionMode), ("transfers", transfers)] spec.context
    return spec.options { json := some (.obj (← payloadOf c m request)) }
  | .inquire batchId transferId => do
    let request ← selector rt c batchId transferId "inquire" "GET"
    return TransferOperation.inquire.spec.options
      { params := some (← payloadOf c selectorClass request) }
  | .cancel batchId transferId => do
    let request ← selector rt c batchId transferId "cancel" "DELETE"
    return TransferOperation.cancel.spec.options
      { params := some (← payloadOf c selectorClass request) }
  | .retryFailed batchId transferId => do
    let request ← selector rt c batchId transferId "retry_failed" "PATCH"
    return TransferOperation.retryFailed.spec.options
      { params := some (← payloadOf c selectorClass request),
        json := some (.obj [("state", .str "RETRY")]) }
  | .filterTransfers state fromTime toTime page size => do
    let spec := TransferOperation.filterTransfers.spec
    let request ← validateRequest rt c filterClass [("state", state), ("from_time", fromTime),
      ("to_time", toTime), ("page", .int page), ("size", .int size)] spec.context
    return spec.options { params := some (← payloadOf c filterClass request) }
  | .setReceiptEnabled enabled batchId transferId => do
    let request ← selector rt c batchId transferId "set_receipt_enabled" "POST"
    let body ← payloadOf c selectorClass request
    return TransferOperation.setReceiptEnabled.spec.options { json := some (.obj (body ++
      [("newEnablementStatus", .str (if enabled then "true" else "false"))])) }
  | .getDailyUsageReport yearMonthDay => do
    let spec := TransferOperation.getDailyUsageReport.spec
    let m := plainClass dailyUsageRequest
    let request ← validateRequest rt c m [("year_month_day", .str yearMonthDay)] spec.context
    return spec.options { params := some (← payloadOf c m request) }
  | .generateBatch values => do
    let spec := TransferOperation.generateBatch.spec
    let m := plainClass batchGeneratorRequest
    let request ← validateRequest rt c m values spec.context
    return spec.options { json := some (.obj (← payloadOf c m request)) }

/-! ## 3. Cobank -/

/-- `_track_id`. -/
def trackId (value : Obj) (operation : String) : Except PyError Obj := do
  let request ← validateRequest rt c (plainClass batchInquiryRequest) [("track_ids", .arr [value])]
    ⟨.cobank, operation, "GET", "/cobank/v1/orders/settlement"⟩
  match request.attr "track_ids" with
  | .arr (track :: _) => .ok track
  | _ => .error (.builtin (.other "IndexError"))

/-- The text of a UUID, or of a validated string. -/
def textOf : Obj → String
  | .str s => s
  | .uuid text => text
  | .ip text => text
  | _ => ""

/-- `_reference`, through its request model. -/
def cobankReferenceOf (value operation : String) : Except PyError String := do
  let request ← validateRequest rt c (plainClass reference) [("value", .str value)]
    ⟨.cobank, operation, "PUT", "/cobank/v2/orders/settlement/\x7breference\x7d/receipt-link"⟩
  return textOf (request.attr "value")

/-- The body of the receipt operations. -/
def receiptBody (active : Bool) : Json :=
  .obj [("state", .str (if active then "ACTIVE" else "INACTIVE"))]

/-- The operations of `CobankService` that build a request. -/
inductive CobankCall where
  | createSettlement (recordTrackId : Obj) (destinationIban : String) (amount : ℤ)
      (transferType transferReason : Obj) (sourceIban paymentId requestDescription : Option String)
  | inquireSettlement (track : Obj) (showArchive : Bool)
  | batchInquireSettlements (trackIds : Obj) (showArchive : Bool)
  | listSettlements (pageNumber pageSize : ℤ)
  | setSettlementReceipt (referenceNumber : String) (active : Bool)
  | setRecordReceipt (referenceNumber recordReferenceNumber : String) (active : Bool)

def CobankCall.prepare : CobankCall → Except PyError RequestOptions
  | .createSettlement recordTrackId destinationIban amount transferType transferReason sourceIban
      paymentId requestDescription => do
    let spec := CobankOperation.createSettlement.spec
    let m := plainClass createSettlementRequest
    let request ← validateRequest rt c m [("record_track_id", recordTrackId),
      ("destination_iban", .str destinationIban), ("amount", .int amount),
      ("transfer_type", transferType), ("transfer_reason", transferReason),
      ("source_iban", optStr sourceIban), ("payment_id", optStr paymentId),
      ("request_description", optStr requestDescription)] spec.context
    return spec.options { json := some (.obj (← payloadOf c m request)) }
  | .inquireSettlement track showArchive => do
    let track ← trackId rt c track "inquire_settlement"
    return (CobankOperation.inquireSettlement (textOf track)).spec.options
      { params := some [("showArchive", .bool showArchive)] }
  | .batchInquireSettlements trackIds showArchive => do
    let spec := CobankOperation.batchInquireSettlements.spec
    let m := plainClass batchInquiryRequest
    let request ← validateRequest rt c m [("track_ids", trackIds)] spec.context
    return spec.options { params := some [("showArchive", .bool showArchive)],
                          json := some (.obj (← payloadOf c m request)) }
  | .listSettlements pageNumber pageSize => do
    let spec := CobankOperation.listSettlements.spec
    let m := plainClass pagination
    let request ← validateRequest rt c m
      [("page_number", .int pageNumber), ("page_size", .int pageSize)] spec.context
    return spec.options { params := some (← payloadOf c m request) }
  | .setSettlementReceipt referenceNumber active => do
    let reference ← cobankReferenceOf rt c referenceNumber "set_settlement_receipt"
    return (CobankOperation.setSettlementReceipt reference).spec.options
      { json := some (receiptBody active) }
  | .setRecordReceipt referenceNumber recordReferenceNumber active => do
    let reference ← cobankReferenceOf rt c referenceNumber "set_record_receipt"
    let recordReference ← cobankReferenceOf rt c recordReferenceNumber "set_record_receipt"
    return (CobankOperation.setRecordReceipt reference recordReference).spec.options
      { json := some (receiptBody active) }

/-! ## 4. Direct Debit -/

/-- `MandateType(value)`. -/
def mandateTypeOf : Obj → Option MandateType
  | .str "time-frame" => some .timeFrame
  | .str "subscription" => some .subscription
  | .str "one-tap" => some .oneTap
  | _ => none

/-- `_invalid`. -/
def directDebitInvalid (operation message : String) : PyError :=
  requestValidationError rt .directDebit operation "POST" "/directdebit/api/v1" message

/-- The fields a mandate type does not take. -/
def incompatibleFields : MandateType → List String
  | .timeFrame => ["frequency", "retry"]
  | .subscription => ["frequency", "otp_requirement_status", "otp_condition"]
  | .oneTap => ["retry"]

/-- The fields a mandate type requires, with the message when one is missing. -/
def requiredMandateFields : MandateType → List (String × String)
  | .timeFrame =>
    [("otp_requirement_status", "otp_requirement_status is required for this mandate type")]
  | .subscription => [("retry", "retry is required for subscription mandates")]
  | .oneTap => [("frequency", "frequency is required for one-tap mandates"),
      ("otp_requirement_status", "otp_requirement_status is required for this mandate type")]

/-- `create_mandate`, once its type is known. -/
def createMandateOfType (mandateType : MandateType) (values : List (String × Obj)) :
    Except PyError RequestOptions := do
  let spec := (DirectDebitOperation.createMandate mandateType).spec
  let request ← validateRequest rt c mandateClass values spec.context
  let missing := (requiredMandateFields mandateType).find? fun field =>
    (request.attr field.1).isNull
  missing.elim
    (do
      let payload ← payloadOf c mandateClass request
      return spec.options { json := some (.obj (payload.filter fun entry =>
        !(incompatibleFields mandateType).contains entry.1)) })
    fun field => .error (directDebitInvalid rt "create_mandate" field.2)

/-- The operations of `DirectDebitService` that build a request. -/
inductive DirectDebitCall where
  | createMandate (mandateType : Obj) (values : List (String × Obj))
  | collect (creditorTransactionNo mandateReference : String) (amount : ℤ) (otp : Option String)
  | acceptBlueBankCallback (payload : List (String × Obj))

def DirectDebitCall.prepare : DirectDebitCall → Except PyError RequestOptions
  | .createMandate mandateType values =>
    (mandateTypeOf mandateType).elim
      (.error (directDebitInvalid rt "create_mandate" "mandate_type is not supported"))
      fun mandateType => createMandateOfType rt c mandateType values
  | .collect creditorTransactionNo mandateReference amount otp => do
    let spec := DirectDebitOperation.collect.spec
    let m := plainClass collectRequest
    let request ← validateRequest rt c m [("creditor_transaction_no", .str creditorTransactionNo),
      ("mandate_reference", .str mandateReference), ("amount", .int amount), ("otp", optStr otp)]
      spec.context
    return spec.options { json := some (.obj (← payloadOf c m request)) }
  | .acceptBlueBankCallback payload => do
    let spec := DirectDebitOperation.acceptBlueBankCallback.spec
    let m := plainClass blueBankCallback
    let callback ← validateRequest rt c m payload spec.context
    return spec.options { json := some (.obj (← payloadOf c m callback)) }

/-! ## 5. Pulse SMS -/

/-- `_uuid`, with its local `_UUIDValue`. -/
def smsUuid (value : Obj) (operation : String) : Except PyError String := do
  let request ← validateRequest rt c
    (plainClass (jibitRequestModel [required "value" (.plain .uuid)])) [("value", value)]
    ⟨.sms, operation, "GET", "/pulse/api/v1/message/sms"⟩
  return textOf (request.attr "value")

/-- `_reference`, with its local `_Reference`. -/
def smsReferenceOf (value operation : String) : Except PyError String := do
  let request ← validateRequest rt c (plainClass (jibitRequestModel
    [required "value" (.plain (.str 1 (some 200) (some "^[A-Za-z0-9._-]+$")))]))
    [("value", .str value)] ⟨.sms, operation, "GET", "/pulse/api/v1/message/sms"⟩
  return textOf (request.attr "value")

/-- The operations of `PulseSmsService` that build a request. -/
inductive SmsCall where
  | send (receptor message : String) (sender clientMessageId : Option String)
  | sendPattern (receptor template : String) (params : List (String × String))
      (sender clientMessageId : Option String)
  | createBulk (bulkName sender : String) (receptors : List String) (message : Option String)
      (predefinedMessageId : Obj) (clientBulkReference : Option String)
  | getStatus (messageId : Obj)
  | getStatusByClientId (clientMessageId : String)
  | getBulk (bulkId : Obj) (page pageSize : ℤ)
  | fetchInbound (fromDate toDate : DateTime) (page : ℤ)

def SmsCall.prepare : SmsCall → Except PyError RequestOptions
  | .send receptor message sender clientMessageId => do
    let spec := SmsOperation.send.spec
    let m := plainClass simpleSmsRequest
    let request ← validateRequest rt c m [("receptor", .str receptor), ("message", .str message),
      ("sender", optStr sender), ("client_message_id", optStr clientMessageId)] spec.context
    return spec.options { json := some (.obj (← payloadOf c m request)) }
  | .sendPattern receptor template params sender clientMessageId => do
    let spec := SmsOperation.sendPattern.spec
    let m := plainClass patternSmsRequest
    let request ← validateRequest rt c m [("receptor", .str receptor),
      ("template", .str template),
      ("params", .obj (params.map fun param => (param.1, .str param.2))),
      ("sender", optStr sender), ("client_message_id", optStr clientMessageId)] spec.context
    return spec.options { json := some (.obj (← payloadOf c m request)) }
  | .createBulk bulkName sender receptors message predefinedMessageId clientBulkReference => do
    let spec := SmsOperation.createBulk.spec
    let request ← validateRequest rt c bulkClass [("bulk_name", .str bulkName),
      ("sender", .str sender), ("receptors", .arr (receptors.map .str)),
      ("message", optStr message), ("predefined_message_id", predefinedMessageId),
      ("client_bulk_reference", optStr clientBulkReference)] spec.context
    return spec.options { json := some (.obj (← payloadOf c bulkClass request)) }
  | .getStatus messageId => do
    return (SmsOperation.getStatus (← smsUuid rt c messageId "get_status")).spec.options {}
  | .getStatusByClientId clientMessageId => do
    return (SmsOperation.getStatusByClientId
      (← smsReferenceOf rt c clientMessageId "get_status_by_client_id")).spec.options {}
  | .getBulk bulkId page pageSize => do
    let spec := (SmsOperation.getBulk (← smsUuid rt c bulkId "get_bulk")).spec
    let m := plainClass RequestModels.page
    let request ← validateRequest rt c m [("page", .int page), ("page_size", .int pageSize)]
      spec.context
    return spec.options { params := some (← payloadOf c m request) }
  | .fetchInbound fromDate toDate page => do
    let spec := SmsOperation.fetchInbound.spec
    let query ← validateRequest rt c inboundClass [("from_date", .datetime fromDate),
      ("to_date", .datetime toDate), ("page", .int page)] spec.context
    return spec.options { params := some (← payloadOf c inboundClass query) }

/-! ## 6. MzaHub -/

/-- `_real_ip`. -/
def realIpHeader (value operation : String) : Except PyError (List (String × String)) := do
  let request ← validateRequest rt c (plainClass realIp) [("value", .str value)]
    ⟨.contracts, operation, "POST", "/mzahub/v1/contracts"⟩
  return [("X-REAL-IP", textOf (request.attr "value"))]

/-- `_track_id`, with its local `_TrackId`. -/
def contractTrackId (value operation : String) : Except PyError String := do
  let request ← validateRequest rt c (plainClass (jibitRequestModel
    [required "value" (.plain (.str 1 (some 200) (some "^[A-Za-z0-9_-]+$")))]))
    [("value", .str value)] ⟨.contracts, operation, "GET", "/mzahub/v1/contracts"⟩
  return textOf (request.attr "value")

/-- `Signer.to_provider_payload`, of the signer's own payload. -/
def signerPayload (natural : List (String × Json)) : Json :=
  let rest := natural.filter fun entry =>
    entry.1 ≠ "dependentLegalNationalCode" ∧ entry.1 ≠ "dependentLegalName"
  match natural.lookup "dependentLegalNationalCode", natural.lookup "dependentLegalName" with
  | some code, some name => .obj [("naturalSigner", .obj rest),
      ("dependentTo", .obj [("nationalCode", code), ("legalName", name)])]
  | _, _ => .obj [("naturalSigner", .obj rest)]

/-- `InitiateContractRequest.to_provider_payload`: the signers of the payload
    in the provider's form. -/
def providerPayload (payload : List (String × Json)) : Json :=
  .obj (payload.map fun entry => match entry with
    | ("signers", .arr signers) => ("signers", .arr (signers.map fun signer => match signer with
      | .obj natural => signerPayload natural
      | other => other))
    | entry => entry)

/-- The operations of `ContractService`. -/
inductive ContractCall where
  | initiate (trackId : String) (pdf : List UInt8) (redirectUrl : String) (signers : List Obj)
      (realIp : String) (expireAt : Option DateTime)
      (description signatureAppearance : Option String)
  | inquire (trackId realIp : String)
  | cancel (trackId realIp : String)
  | downloadSigned (trackId realIp : String)

def ContractCall.prepare : ContractCall → Except PyError RequestOptions
  | .initiate trackId pdf redirectUrl signers realIp expireAt description signatureAppearance => do
    let spec := ContractOperation.initiate.spec
    let m := plainClass initiateContractRequest
    let request ← validateRequest rt c m [("track_id", .str trackId),
      ("base64_file", .str (String.ofList (b64encode pdf))), ("redirect_url", .str redirectUrl),
      ("signers", .arr signers), ("expire_at", expireAt.elim .null .datetime),
      ("description", optStr description), ("signature_appearance", optStr signatureAppearance)]
      spec.context
    let payload ← payloadOf c m request
    let headers ← realIpHeader rt c realIp "initiate"
    return spec.options { headers, json := some (providerPayload payload) }
  | .inquire track realIp => do
    let track ← contractTrackId rt c track "inquire"
    let headers ← realIpHeader rt c realIp "inquire"
    return ContractOperation.inquire.spec.options
      { headers, params := some [("trackId", .str track)] }
  | .cancel track realIp => do
    let track ← contractTrackId rt c track "cancel"
    let headers ← realIpHeader rt c realIp "cancel"
    return ContractOperation.cancel.spec.options
      { headers, params := some [("trackId", .str track)] }
  | .downloadSigned track realIp => do
    let track ← contractTrackId rt c track "download_signed"
    let headers ← realIpHeader rt c realIp "download_signed"
    return ContractOperation.downloadSigned.spec.options
      { headers, params := some [("trackId", .str track)] }

/-! ## 7. Identicator -/

/-- `_track_header`. -/
def trackHeader : Option String → List (String × String)
  | some track => [("X-TRACK-ID", track)]
  | none => []

/-- The operations of `IdenticatorService` that build a request. -/
inductive IdenticatorCall where
  | matchIdentifiers (identifiers : List (String × Obj)) (trackId : Option String)
  | compareIdentityNames (identity : List (String × Obj)) (trackId : Option String)

def IdenticatorCall.prepare : IdenticatorCall → Except PyError RequestOptions
  | .matchIdentifiers identifiers trackId => do
    let spec := IdenticatorOperation.matchIdentifiers.spec
    let request ← validateRequest rt c matchingClass identifiers spec.context
    return spec.options { headers := trackHeader trackId,
                          json := some (.obj (← payloadOf c matchingClass request)) }
  | .compareIdentityNames identity trackId => do
    let spec := IdenticatorOperation.compareIdentityNames.spec
    let request ← validateRequest rt c similarityClass identity spec.context
    return spec.options { headers := trackHeader trackId,
                          json := some (.obj (← payloadOf c similarityClass request)) }

/-! ## 8. Payment Gateway -/

/-- The arguments of `create_purchase`. -/
structure PurchaseArguments where
  amount : ℤ
  callbackUrl : String
  clientReferenceNumber : String
  wage : ℤ := 0
  currency : String := "IRR"
  payerMobileNumber : Option String := none
  checkPayerMobileNumber : Bool := false
  payerCardNumber : Option String := none
  payerCardNumbers : Option (List String) := none
  payerNationalCode : Option String := none
  description : Option String := none
  switching : Obj := .null
  additionalData : Option (List (String × Obj)) := none
  userIdentifier : Option String := none

/-- The values `create_purchase` validates. -/
def PurchaseArguments.values (a : PurchaseArguments) : List (String × Obj) :=
  [("amount", .int a.amount), ("callback_url", .str a.callbackUrl),
    ("client_reference_number", .str a.clientReferenceNumber), ("wage", .int a.wage),
    ("currency", .str a.currency), ("payer_mobile_number", optStr a.payerMobileNumber),
    ("check_payer_mobile_number", .bool a.checkPayerMobileNumber),
    ("payer_card_number", optStr a.payerCardNumber),
    ("payer_card_numbers", a.payerCardNumbers.elim .null fun cards => .arr (cards.map .str)),
    ("payer_national_code", optStr a.payerNationalCode), ("description", optStr a.description),
    ("switching", a.switching), ("additional_data", a.additionalData.elim .null .obj),
    ("user_identifier", optStr a.userIdentifier)]

/-- The operations of `PaymentGatewayService` that build a request; the two filters without criteria
    build an empty one. -/
inductive PaymentCall where
  | createPurchase (arguments : PurchaseArguments)
  | filterPurchases
  | inquirePurchase (purchaseId : Option ℤ) (clientReferenceNumber : Option String)
  | reversePurchase (purchaseId : Option ℤ) (clientReferenceNumber : Option String)
  | refundPurchase (purchaseId : Option ℤ) (clientReferenceNumber : Option String)
      (amount : Option ℤ) (cancellable : Bool)
  | refundAction (action : RefundAction) (refundId : ℤ) (transferId : Option String)
  | filterSettlements

/-- A read operation of the Payment Gateway. -/
def paymentRead (operation path : String) : OperationSpec :=
  ⟨.paymentGateway, operation, "GET", path, .readOnly, .typed⟩

/-- `filter_purchases`, from its criteria on. -/
def filteredPurchases (criteria : Obj) : Except PyError RequestOptions := do
  return (paymentRead "filter_purchases" "/ppg/v3/purchases").options
    { params := some (← payloadOf c purchaseFilterClass criteria) }

/-- A model called as a constructor: its validation error goes to the caller. -/
def construct (m : ModelClass) (values : List (String × Obj)) : Except PyError Obj := do
  match ← uncaught (m.modelValidate c (.obj values)) with
  | some self => .ok self
  | none => .error (.builtin (.other "ValidationError"))

def PaymentCall.prepare : PaymentCall → Except PyError RequestOptions
  | .createPurchase arguments => do
    let spec := FinancialOperation.createPurchase.spec
    let request ← validateRequest rt c purchaseClass arguments.values spec.context
    return spec.options { json := some (.obj (← payloadOf c purchaseClass request)) }
  | .filterPurchases => do filteredPurchases c (← construct c purchaseFilterClass [])
  | .inquirePurchase purchaseId clientReferenceNumber =>
    let spec := paymentRead "inquire_purchase" "/ppg/v3/purchases"
    if purchaseId.isNone ∧ clientReferenceNumber.isNone then
      .error (spec.context.error rt
        "purchase_id or client_reference_number is required")
    else do
      let criteria ← validateRequest rt c purchaseFilterClass [("purchase_id", optInt purchaseId),
        ("client_reference_number", optStr clientReferenceNumber), ("size", .int 1)] spec.context
      filteredPurchases c criteria
  | .reversePurchase purchaseId clientReferenceNumber => do
    let spec := FinancialOperation.reversePurchase.spec
    let request ← validateRequest rt c reverseClass [("purchase_id", optInt purchaseId),
      ("client_reference_number", optStr clientReferenceNumber)] spec.context
    return spec.options { json := some (.obj (← payloadOf c reverseClass request)) }
  | .refundPurchase purchaseId clientReferenceNumber amount cancellable => do
    let spec := FinancialOperation.refundPurchase.spec
    let request ← validateRequest rt c refundClass [("purchase_id", optInt purchaseId),
      ("client_reference_number", optStr clientReferenceNumber), ("amount", optInt amount),
      ("cancellable", .bool cancellable)] spec.context
    return spec.options { json := some (.obj (← payloadOf c refundClass request)) }
  | .refundAction action refundId transferId => do
    let text ← uncaught (intText refundId)
    let path := "/ppg/v3/purchases/refunds/" ++ text ++ "/" ++ action.names.2
    let spec : OperationSpec := ⟨.paymentGateway, action.names.1, "POST", path, .unsafeOp, .status⟩
    if refundId ≤ 0 then
      .error (spec.context.error rt "refund_id must be positive")
    else do
      let m := plainClass refundActionRequest
      let request ← validateRequest rt c m [("transfer_id", optStr transferId)] spec.context
      return spec.options { json := some (.obj (← payloadOf c m request)) }
  | .filterSettlements => do
    let m := plainClass settlementFilter
    let criteria ← construct c m []
    return (paymentRead "filter_settlements" "/ppg/v3/settlements").options
      { params := some (← payloadOf c m criteria) }

end

/-! ## 9. Every call -/

/-- A call of a facade operation that builds its request model. -/
inductive FacadeCall where
  | transfer (call : TransferCall)
  | cobank (call : CobankCall)
  | directDebit (call : DirectDebitCall)
  | sms (call : SmsCall)
  | contract (call : ContractCall)
  | identicator (call : IdenticatorCall)
  | payment (call : PaymentCall)

/-- What the call hands to its executor, or raises before. -/
def FacadeCall.prepare (rt : Runtime) (c : Coercions) : FacadeCall → Except PyError RequestOptions
  | .transfer call => call.prepare rt c
  | .cobank call => call.prepare rt c
  | .directDebit call => call.prepare rt c
  | .sms call => call.prepare rt c
  | .contract call => call.prepare rt c
  | .identicator call => call.prepare rt c
  | .payment call => call.prepare rt c

/-- The call up to its raw response. -/
def FacadeCall.run (rt : Runtime) (c : Coercions) (executor : RequestExecutor) (call : FacadeCall) :
    Py RawResponse :=
  match call.prepare rt c with
  | .ok options => executor.execute options
  | .error e => .throw e

end JibitSdk.Sdk
