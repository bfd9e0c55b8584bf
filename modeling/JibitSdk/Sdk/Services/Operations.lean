import JibitSdk.Sdk.Engine

/-!
# The operations of the wrapped services

One row for each facade method of the services behind `AuditedRequestExecutor`: operation name,
HTTP method, path, safety class, and what becomes of a 2xx response.  Path arguments are the
references and identifiers the facade has already validated.
-/

namespace JibitSdk.Sdk

/-- How a facade turns a 2xx response into its result. -/
inductive ResponseKind where
  | typed
  | status
  | document
  deriving DecidableEq, Repr

structure OperationSpec where
  service : ServiceName
  operation : String
  method : String
  path : String
  safety : OperationSafety
  kind : ResponseKind := .typed

inductive TransferOperation where
  | submitBatch
  | inquire
  | cancel
  | retryFailed
  | filterTransfers
  | setReceiptEnabled
  | getBalances
  | getDailyUsageReport
  | getSupportedNormalBanks
  | getActiveNormalBanks
  | generateBatch

def TransferOperation.spec : TransferOperation → OperationSpec
  | .submitBatch => ⟨.transfers, "submit_batch", "POST", "/trf/v2/transfers", .unsafeOp, .typed⟩
  | .inquire => ⟨.transfers, "inquire", "GET", "/trf/v2/transfers", .readOnly, .typed⟩
  | .cancel => ⟨.transfers, "cancel", "DELETE", "/trf/v2/transfers", .unsafeOp, .status⟩
  | .retryFailed => ⟨.transfers, "retry_failed", "PATCH", "/trf/v2/transfers", .unsafeOp, .status⟩
  | .filterTransfers =>
    ⟨.transfers, "filter_transfers", "GET", "/trf/v2/transfers/filter", .readOnly, .typed⟩
  | .setReceiptEnabled =>
    ⟨.transfers, "set_receipt_enabled", "POST", "/trf/v2/receipts", .unsafeOp, .typed⟩
  | .getBalances => ⟨.transfers, "get_balances", "GET", "/trf/v2/balances", .readOnly, .typed⟩
  | .getDailyUsageReport =>
    ⟨.transfers, "get_daily_usage_report", "GET", "/trf/v2/reports/daily", .readOnly, .typed⟩
  | .getSupportedNormalBanks =>
    ⟨.transfers, "get_supported_normal_banks", "GET", "/trf/v2/banks/normal", .readOnly, .typed⟩
  | .getActiveNormalBanks =>
    ⟨.transfers, "get_active_normal_banks", "GET", "/trf/v2/banks/status", .readOnly, .typed⟩
  | .generateBatch =>
    ⟨.transfers, "generate_batch", "POST", "/trf/v2/batch/generate", .idempotent, .typed⟩

inductive CobankOperation where
  | createSettlement
  | inquireSettlement (trackId : String)
  | batchInquireSettlements
  | listSettlements
  | getMerchantAccounts
  | setSettlementReceipt (reference : String)
  | setRecordReceipt (reference recordReference : String)

def CobankOperation.spec : CobankOperation → OperationSpec
  | .createSettlement =>
    ⟨.cobank, "create_settlement", "POST", "/cobank/v1/orders/settlement", .unsafeOp, .typed⟩
  | .inquireSettlement trackId =>
    ⟨.cobank, "inquire_settlement", "GET", s!"/cobank/v1/orders/settlement/{trackId}", .readOnly,
      .typed⟩
  | .batchInquireSettlements =>
    ⟨.cobank, "batch_inquire_settlements", "POST", "/cobank/v1/orders/settlement/batch-inquiry",
      .idempotent, .typed⟩
  | .listSettlements =>
    ⟨.cobank, "list_settlements", "GET", "/cobank/v1/orders/settlement/list", .readOnly, .typed⟩
  | .getMerchantAccounts =>
    ⟨.cobank, "get_merchant_accounts", "GET", "/cobank/v1/accounts/", .readOnly, .typed⟩
  | .setSettlementReceipt reference =>
    ⟨.cobank, "set_settlement_receipt", "PUT",
      s!"/cobank/v2/orders/settlement/{reference}/receipt-link", .idempotent, .typed⟩
  | .setRecordReceipt reference recordReference =>
    ⟨.cobank, "set_record_receipt", "PUT",
      s!"/cobank/v2/orders/settlement/{reference}/records/{recordReference}/receipt-link",
      .idempotent, .typed⟩

inductive MandateType where
  | timeFrame
  | subscription
  | oneTap

/-- `MandateType.value`. -/
def MandateType.value : MandateType → String
  | .timeFrame => "time-frame"
  | .subscription => "subscription"
  | .oneTap => "one-tap"

inductive DirectDebitOperation where
  | createMandate (mandateType : MandateType)
  | collect
  | revokeMandate
  | enableMandate
  | disableMandate
  | sendOtp (reference : String)
  | acceptBlueBankCallback
  | inquireTransaction (reference : String)
  | listSubscriptionTransactions (reference : String)
  | inquireMandate (reference : String)
  | inquireCreditorMandate (reference : String)
  | getActiveBanks

def DirectDebitOperation.spec : DirectDebitOperation → OperationSpec
  | .createMandate mandateType =>
    ⟨.directDebit, "create_mandate", "POST", s!"/directdebit/api/v1/mandate/{mandateType.value}",
      .unsafeOp, .typed⟩
  | .collect =>
    ⟨.directDebit, "collect", "POST", "/directdebit/api/v1/transaction/collect", .unsafeOp, .typed⟩
  | .revokeMandate =>
    ⟨.directDebit, "revoke_mandate", "PUT", "/directdebit/api/v1/mandate/revoke",
      .unsafeOp, .status⟩
  | .enableMandate =>
    ⟨.directDebit, "enable_mandate", "PUT", "/directdebit/api/v1/mandate/enable",
      .unsafeOp, .status⟩
  | .disableMandate =>
    ⟨.directDebit, "disable_mandate", "PUT", "/directdebit/api/v1/mandate/disable", .unsafeOp,
      .status⟩
  | .sendOtp reference =>
    ⟨.directDebit, "send_otp", "POST", s!"/directdebit/api/v1/transaction/otp/{reference}",
      .unsafeOp, .status⟩
  | .acceptBlueBankCallback =>
    ⟨.directDebit, "accept_blue_bank_callback", "POST", "/directdebit/api/v1/blue-bank-callback",
      .unsafeOp, .status⟩
  | .inquireTransaction reference =>
    ⟨.directDebit, "inquire_transaction", "GET", s!"/directdebit/api/v1/transaction/{reference}",
      .readOnly, .typed⟩
  | .listSubscriptionTransactions reference =>
    ⟨.directDebit, "list_subscription_transactions", "GET",
      s!"/directdebit/api/v1/subscription-mandate/{reference}/transactions", .readOnly, .typed⟩
  | .inquireMandate reference =>
    ⟨.directDebit, "inquire_mandate", "GET",
      s!"/directdebit/api/v1/mandates/mandate-reference/{reference}", .readOnly, .typed⟩
  | .inquireCreditorMandate reference =>
    ⟨.directDebit, "inquire_creditor_mandate", "GET",
      s!"/directdebit/api/v1/mandates/creditor-mandate-reference/{reference}", .readOnly, .typed⟩
  | .getActiveBanks =>
    ⟨.directDebit, "get_active_banks", "GET", "/directdebit/api/v1/creditor/active-banks",
      .readOnly, .typed⟩

inductive SmsOperation where
  | send
  | sendPattern
  | createBulk
  | getStatus (messageId : String)
  | getStatusByClientId (reference : String)
  | getBulk (bulkId : String)
  | fetchInbound

def SmsOperation.spec : SmsOperation → OperationSpec
  | .send => ⟨.sms, "send", "POST", "/pulse/api/v1/message/sms/send", .unsafeOp, .typed⟩
  | .sendPattern =>
    ⟨.sms, "send_pattern", "POST", "/pulse/api/v1/message/sms/pattern/send", .unsafeOp, .typed⟩
  | .createBulk =>
    ⟨.sms, "create_bulk", "POST", "/pulse/api/v1/message/sms/bulk", .unsafeOp, .typed⟩
  | .getStatus messageId =>
    ⟨.sms, "get_status", "GET", s!"/pulse/api/v1/message/sms/status/{messageId}", .readOnly, .typed⟩
  | .getStatusByClientId reference =>
    ⟨.sms, "get_status_by_client_id", "GET",
      s!"/pulse/api/v1/message/sms/status/client-message-id/{reference}", .readOnly, .typed⟩
  | .getBulk bulkId =>
    ⟨.sms, "get_bulk", "GET", s!"/pulse/api/v1/message/sms/bulk/{bulkId}", .readOnly, .typed⟩
  | .fetchInbound =>
    ⟨.sms, "fetch_inbound", "GET", "/pulse/api/v1/message/sms/mo-messages", .readOnly, .typed⟩

inductive ContractOperation where
  | initiate
  | inquire
  | cancel
  | downloadSigned

def ContractOperation.spec : ContractOperation → OperationSpec
  | .initiate => ⟨.contracts, "initiate", "POST", "/mzahub/v1/contracts", .unsafeOp, .typed⟩
  | .inquire => ⟨.contracts, "inquire", "GET", "/mzahub/v1/contracts", .readOnly, .typed⟩
  | .cancel => ⟨.contracts, "cancel", "POST", "/mzahub/v1/contracts/cancel", .unsafeOp, .typed⟩
  | .downloadSigned =>
    ⟨.contracts, "download_signed", "GET", "/mzahub/v1/contracts/download-signed", .readOnly,
      .document⟩

inductive IdenticatorOperation where
  | inquireDeposit
  | inquireIban
  | inquireCard
  | matchIdentifiers
  | inquirePostalAddress
  | inquirePostalCoordinates
  | inquireIdentity
  | compareIdentityNames
  | inquireForeignerIdentity
  | inquireLegalIdentity
  | inquireLegalSignHolders
  | inquireMilitaryQualification
  | inquireSana
  | inquireCorporation
  | inquireCheque
  | getBalances
  | getDailyUsageReport
  | serviceAvailability
  | health

/-- `IdenticatorService._get`. -/
def identicatorGet (operation path : String) : OperationSpec :=
  ⟨.identicator, operation, "GET", path, .readOnly, .typed⟩

def IdenticatorOperation.spec : IdenticatorOperation → OperationSpec
  | .inquireDeposit => identicatorGet "inquire_deposit" "/ide/v1/deposits"
  | .inquireIban => identicatorGet "inquire_iban" "/ide/v1/ibans"
  | .inquireCard => identicatorGet "inquire_card" "/ide/v1/cards"
  | .matchIdentifiers =>
    ⟨.identicator, "match", "POST", "/ide/v1/services/matching", .idempotent, .typed⟩
  | .inquirePostalAddress => identicatorGet "inquire_postal_address" "/ide/v1/services/postal"
  | .inquirePostalCoordinates =>
    identicatorGet "inquire_postal_coordinates" "/ide/v1/services/postal/wgs"
  | .inquireIdentity => identicatorGet "inquire_identity" "/ide/v1/services/identity"
  | .compareIdentityNames =>
    ⟨.identicator, "compare_identity_names", "POST", "/ide/v1/services/identity/similarity",
      .idempotent, .typed⟩
  | .inquireForeignerIdentity =>
    identicatorGet "inquire_foreigner_identity" "/ide/v1/services/foreigners/identity"
  | .inquireLegalIdentity =>
    identicatorGet "inquire_legal_identity" "/ide/v1/services/identity/legal"
  | .inquireLegalSignHolders =>
    identicatorGet "inquire_legal_sign_holders" "/ide/v1/services/identity/legal/sign-holders"
  | .inquireMilitaryQualification =>
    identicatorGet "inquire_military_qualification" "/ide/v1/services/social/msq"
  | .inquireSana => identicatorGet "inquire_sana" "/ide/v1/services/social/sana"
  | .inquireCorporation =>
    identicatorGet "inquire_corporation" "/ide/v1/services/corporation/identity"
  | .inquireCheque => identicatorGet "inquire_cheque" "/ide/v1/services/cheque/inquiry"
  | .getBalances => identicatorGet "get_balances" "/ide/v1/balances"
  | .getDailyUsageReport => identicatorGet "get_daily_usage_report" "/ide/v1/reports/daily"
  | .serviceAvailability =>
    identicatorGet "service_availability" "/ide/v1/services/availability"
  | .health => identicatorGet "health" "/ide/health"

inductive KycOperation where
  | verifyVideo
  | verifyPhoto
  | ocrNationalCard
  | ocrCheque
  | ocrBankCard

/-- `KycService._execute`. -/
def kycPost (operation path : String) : OperationSpec :=
  ⟨.kyc, operation, "POST", path, .unsafeOp, .typed⟩

def KycOperation.spec : KycOperation → OperationSpec
  | .verifyVideo => kycPost "verify_video" "/alpha/v2/kyc"
  | .verifyPhoto => kycPost "verify_photo" "/alpha/v2/authorization"
  | .ocrNationalCard => kycPost "ocr_national_card" "/alpha/ocr"
  | .ocrCheque => kycPost "ocr_cheque" "/alpha/cheque"
  | .ocrBankCard => kycPost "ocr_bank_card" "/alpha/bank/card"

/-- Every operation behind an `AuditedRequestExecutor`. -/
inductive WrappedOperation where
  | transfer (op : TransferOperation)
  | cobank (op : CobankOperation)
  | directDebit (op : DirectDebitOperation)
  | sms (op : SmsOperation)
  | contract (op : ContractOperation)
  | identicator (op : IdenticatorOperation)
  | kyc (op : KycOperation)

def WrappedOperation.spec : WrappedOperation → OperationSpec
  | .transfer op => op.spec
  | .cobank op => op.spec
  | .directDebit op => op.spec
  | .sms op => op.spec
  | .contract op => op.spec
  | .identicator op => op.spec
  | .kyc op => op.spec

/-- The audit event name `JibitClient` gives the service's executor. -/
def WrappedOperation.eventName : WrappedOperation → String
  | .transfer _ => "jibit.transfer.operation"
  | .cobank _ => "jibit.cobank.operation"
  | .directDebit _ => "jibit.direct_debit.operation"
  | .sms _ => "jibit.sms.operation"
  | .contract _ => "jibit.contract.operation"
  | .identicator _ => "jibit.identicator.operation"
  | .kyc _ => "jibit.kyc.operation"

/-- The request data a facade derives from its validated arguments. -/
structure RequestParts where
  headers : List (String × String) := []
  params : Option (List (String × Python.Json)) := none
  json : Option Python.Json := none
  multipart : Option (List MultipartPart) := none

/-- The options a facade hands to its executor. -/
def OperationSpec.options (spec : OperationSpec) (parts : RequestParts) : RequestOptions :=
  { service := spec.service, operation := spec.operation, method := spec.method,
    path := spec.path, safety := spec.safety, headers := parts.headers, params := parts.params,
    json := parts.json, multipart := parts.multipart }

end JibitSdk.Sdk
