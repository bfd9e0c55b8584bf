import JibitSdk.Python.Pydantic
import JibitSdk.Sdk.Models
import JibitSdk.Sdk.Services.Facade

/-!
# Response and callback models

The Pydantic models that provider data is read into: the response models of
`jibit/services/*/models.py` with the models nested in them, the callback models, and the model each
typed facade method asks for.
-/

namespace JibitSdk.Sdk.ResponseModels

open JibitSdk.Python JibitSdk.Sdk

/-! ## 1. Transferor -/

def transferMode : FieldType :=
  .enum ["ACH", "NORMAL", "RTGS"]

def transferState : FieldType :=
  .enum ["INITIALIZED", "FEE_COMPUTED", "CORE_SUBMITTED", "ON_HOLD", "DESTINATION_IDENTIFIED",
    "CANCELLING", "CANCELLED", "IN_PROGRESS", "TRANSFERRED", "FAILED", "RETRYING",
    "ON_HOLD_BALANCES_NOT_ENOUGH", "ON_HOLD_WAIT_FOR_MANUAL_SUBMISSION",
    "ON_HOLD_WAIT_FOR_VERIFY", "MANUALLY_FAILED"]

def transferRecord : Schema :=
  jibitModel [optionalAs "transfer_id" (.plain .str) "transferID",
    optional "transfer_mode" (.plain transferMode), optional "destination" (.plain .str),
    optional "destination_first_name" (.plain .str),
    optional "destination_last_name" (.plain .str), optional "amount" (.plain .int),
    optional "currency" (.plain .str), optional "description" (.plain .str),
    optional "metadata" (.plain .str), optionalAs "notify_url" (.plain .str) "notifyURL",
    optional "cancellable" (.plain .bool), optionalAs "payment_id" (.plain .str) "paymentID",
    optionalAs "bank_transfer_id" (.plain .str) "bankTransferID",
    optional "state" (.plain transferState), optional "fail_reason" (.plain .str),
    optional "channel_manager_processing_type" (.plain transferMode),
    optional "bank_submitted_time" (.plain .datetime), optional "fee_currency" (.plain .str),
    optional "fee_amount" (.plain .int), optional "created_at" (.plain .datetime),
    optional "modified_at" (.plain .datetime)]

def submitBatchResult : Schema :=
  jibitModel [defaulting "submitted_count" (.plain .int) (.int 0),
    defaulting "total_amount_transferred" (.plain .int) (.int 0),
    defaulting "rejections" (.list 0 none transferRecord) (.arr [])]

def transferInquiryResult : Schema :=
  jibitModel [optionalAs "batch_id" (.plain .str) "batchID",
    defaulting "transfers" (.list 0 none transferRecord) (.arr [])]

def transferFilterResult : Schema :=
  jibitModel [defaulting "transfers" (.list 0 none transferRecord) (.arr []),
    optional "page" (.plain .int), optional "size" (.plain .int), optional "total" (.plain .int)]

def receiptResult : Schema :=
  jibitModel [required "public_link" (.plain .str)]

def balanceEntry : Schema :=
  jibitModel [required "balance_type" (.plain .str), required "currency" (.plain .str),
    required "amount" (.plain .int)]

def balanceResult : Schema :=
  jibitModel [optional "balance" (.plain .int), optional "settleable_balance" (.plain .int),
    defaulting "balances" (.list 0 none balanceEntry) (.arr [])]

def usageReportEntry : Schema :=
  jibitModel [required "state" (.plain .str), required "currency" (.plain .str),
    required "sum" (.plain .int), required "count" (.plain .int)]

def usageReportResult : Schema :=
  jibitModel [defaulting "report" (.list 0 none usageReportEntry) (.arr [])]

def bankList : Schema := .list 0 none (.plain .str)

def submissionMode : FieldType :=
  .enum ["BATCH", "TRANSFER"]

def transferCurrency : FieldType :=
  .enum ["IRR", "RIALS", "TOMAN"]

def transferItemRequest : Schema :=
  jibitRequestModel [requiredAs "transfer_id" (.plain (.str 1 (some 100))) "transferID",
    defaulting "transfer_mode" (.plain transferMode) (.str "ACH"),
    required "destination" (.plain (.str 0 none (some "^IR\\d\x7b24\x7d$"))),
    optional "destination_first_name" (.plain (.str 0 (some 100))),
    optional "destination_last_name" (.plain (.str 0 (some 100))),
    required "amount" (.plain (.int (some 1))),
    defaulting "currency" (.plain transferCurrency) (.str "IRR"),
    required "description" (.plain (.str 1 (some 250))),
    optional "metadata" (.plain (.str 0 (some 2000))),
    optionalAs "notify_url" (.plain .httpUrl) "notifyURL",
    defaulting "cancellable" (.plain .bool) (.bool true),
    optionalAs "payment_id" (.plain (.str 0 none (some "^\\d+$"))) "paymentID"]

def submitBatchRequest : Schema :=
  jibitRequestModel [requiredAs "batch_id" (.plain (.str 1 (some 100))) "batchID",
    defaulting "submission_mode" (.plain submissionMode) (.str "BATCH"),
    required "transfers" (.list 1 none transferItemRequest)]

/-! ## 2. Cobank -/

def cobankTransferType : FieldType :=
  .enum ["NORMAL", "ACH", "RTGS"]

def settlementRecord : Schema :=
  jibitModel [optional "reference_number" (.plain .str),
    optional "bank_reference_number" (.plain .str), optional "track_id" (.plain .str),
    optional "record_type" (.plain .str), optional "source_account_iban" (.plain .str),
    optional "destination_iban" (.plain .str),
    optional "destination_account_number" (.plain .str),
    optional "destination_first_name" (.plain .str),
    optional "destination_last_name" (.plain .str), optional "amount" (.plain .int),
    optional "pay_id" (.plain .str), optional "transfer_type" (.plain cobankTransferType),
    optional "request_channel" (.plain .str), optional "process_mode" (.plain .str),
    optional "state" (.plain .str), optional "state_updated_at" (.plain .datetime),
    optional "fail_reason" (.plain .str), optional "fee_amount" (.plain .int),
    optional "fee_status" (.plain .str), optional "last_submit_success_at" (.plain .datetime),
    optional "archived_record_reference_number" (.plain .str),
    optional "estimated_settle_at" (.plain .datetime), optional "created_at" (.plain .datetime),
    optional "updated_at" (.plain .datetime)]

def settlementResult : Schema :=
  jibitModel [optional "reference_number" (.plain .str), optional "track_id" (.plain .str),
    optional "owner_code" (.plain .str), optional "request_channel" (.plain .str),
    optional "type" (.plain .str), optional "source_iban" (.plain .str),
    optional "destination_iban" (.plain .str), optional "total_amount" (.plain .int),
    optional "prime_count" (.plain .int), optional "created_at" (.plain .datetime),
    optional "updated_at" (.plain .datetime),
    defaulting "records" (.list 0 none settlementRecord) (.arr [])]

def settlementBatchResult : Schema := .list 0 none settlementResult

def settlementSummary : Schema :=
  jibitModel [optional "reference_number" (.plain .str), optional "track_id" (.plain .str),
    optional "owner_code" (.plain .str), optional "request_channel" (.plain .str),
    optional "type" (.plain .str), optional "source_iban" (.plain .str),
    optional "destination_iban" (.plain .str), optional "total_amount" (.plain .int),
    optional "prime_count" (.plain .int), optional "created_at" (.plain .datetime),
    optional "updated_at" (.plain .datetime)]

def settlementPage : Schema :=
  jibitModel [defaulting "page_number" (.plain .int) (.int 0),
    defaulting "size" (.plain .int) (.int 0),
    defaulting "number_of_elements" (.plain .int) (.int 0),
    defaulting "has_next" (.plain .bool) (.bool false),
    defaulting "has_previous" (.plain .bool) (.bool false),
    defaulting "elements" (.list 0 none settlementSummary) (.arr []),
    defaulting "metadata" (.plain .dict) (.obj [])]

def merchantAccountList : Schema := .list 0 none (.plain .dict)

def receiptState : FieldType :=
  .enum ["ACTIVE", "INACTIVE"]

def receiptLinkResult : Schema :=
  jibitModel [optional "receipt_link" (.plain .str), required "state" (.plain receiptState)]

/-! ## 3. Direct Debit -/

def initiateMandateResult : Schema :=
  jibitModel [optional "mandate_reference" (.plain .str), optional "redirect_url" (.plain .str)]

def transactionResult : Schema :=
  jibitModel [optional "transaction_no" (.plain .str),
    optional "creditor_transaction_no" (.plain .str), optional "mandate_reference" (.plain .str),
    optional "bank" (.plain .str), optional "amount" (.plain .str),
    optional "currency" (.plain .str), optional "status" (.plain .str),
    optional "collection_date_time" (.plain .str), optional "created_date_time" (.plain .str),
    optional "transaction_type" (.plain .str), optional "payment_type" (.plain .str),
    optional "debtor_deposit" (.plain .str), optional "destination_deposit" (.plain .str),
    optional "wage" (.plain .str), optional "vat" (.plain .str),
    optional "wage_pay_method" (.plain .str), optional "description" (.plain .str)]

def transactionList : Schema := .list 0 none transactionResult

def mandateResult : Schema :=
  jibitModel [optional "mandate_reference" (.plain .str),
    optional "creditor_mandate_reference" (.plain .str), optional "status" (.plain .str),
    optional "maximum_amount" (.plain .int), optional "period" (.plain .int),
    optional "period_unit" (.plain .str), optional "frequency" (.plain .int),
    optional "start_date" (.plain .str), optional "expiration_date" (.plain .str),
    optional "debtor_bank" (.plain .str), optional "debtor_iban" (.plain .str)]

def activeBank : Schema :=
  jibitModel [optional "name" (.plain .str), optional "persian_name" (.plain .str)]

def activeBankList : Schema := .list 0 none activeBank

def blueBankCallback : Schema :=
  jibitRequestModel [required "request_id" (.plain .str),
    required "additional_information" (.plain .str), required "event_type" (.plain .str),
    required "mandate_number" (.plain .str), required "mandate_status" (.plain .str),
    required "event_category" (.plain .str), optional "transaction_status" (.plain .str),
    optional "amount" (.plain .int), optional "core_reference_no" (.plain .str),
    optional "core_transaction_time" (.plain .str)]

/-! ## 4. Pulse SMS -/

def smsOrderFields : List (Field × Schema) :=
  [optional "message_id" (.union [.uuid, .str]), optional "message" (.plain .str),
    optional "status" (.plain .str), optional "status_text" (.plain .str),
    optional "segment_count" (.plain .int), optional "sender" (.plain .str),
    optional "receptor" (.plain .str)]

def smsOrder : Schema := jibitModel smsOrderFields

def smsOrderResult : Schema :=
  jibitModel [defaulting "sms_orders" (.list 0 none smsOrder) (.arr [])]

def patternSmsResult : Schema := smsOrder

def smsStatusResult : Schema :=
  jibitModel [optional "message_id" (.plain .str), optional "status" (.plain .str),
    optional "status_text" (.plain .str)]

def bulkResult : Schema :=
  jibitModel [optional "bulk_id" (.union [.uuid, .str]), optional "bulk_name" (.plain .str),
    optional "client_bulk_reference" (.plain .str), optional "message" (.plain .str),
    optional "sender" (.plain .str), optional "status" (.plain .str),
    optional "status_text" (.plain .str), optional "total_recipients" (.plain .int),
    optional "scheduled_time" (.plain .datetime), optional "created_on" (.plain .datetime),
    defaulting "sms_list" (.list 0 none smsOrder) (.arr []), optional "page" (.plain .int),
    optional "page_size" (.plain .int), optional "total_elements" (.plain .int),
    optional "has_next" (.plain .bool)]

def inboundMessage : Schema :=
  jibitModel [optional "id" (.union [.uuid, .str]), optional "sender" (.plain .str),
    optional "receptor" (.plain .str), optional "message" (.plain .str),
    optional "received_date_time" (.plain .datetime)]

def inboundMessageResult : Schema :=
  jibitModel [defaulting "result" (.list 0 none inboundMessage) (.arr [])]

/-! ## 5. MzaHub -/

def contractStatus : FieldType :=
  .enum ["NOT_SIGNED", "SIGNED_BY_ALL_SIGNERS", "SUSPENDED_WAITING_FOR_BALANCE", "CANCELLED",
    "EXPIRED", "REJECTED"]

def contractSummaryFields : List (Field × Schema) :=
  [optional "id" (.plain .int), optional "track_id" (.plain .str),
    optional "short_track_id" (.plain .str), optional "status" (.plain contractStatus),
    optional "receipt_code" (.plain .str), optional "initiator" (.plain .str),
    optional "expire_at" (.plain .datetime), optional "redirect_url" (.plain .str),
    optional "signature_appearance" (.plain .str), optional "description" (.plain .str),
    optional "created_at" (.plain .datetime), optional "updated_at" (.plain .datetime),
    optional "version" (.plain .int)]

def contractSummary : Schema := jibitModel contractSummaryFields

def initiateContractResult : Schema :=
  jibitModel [optional "link" (.plain .str), optional "contract" contractSummary]

def contractResult : Schema :=
  jibitModel (contractSummaryFields ++ [
    defaulting "signs" (.list 0 none (.plain .dict)) (.arr [])])

/-! ## 6. Identicator -/

def depositToIbanInfo : Schema :=
  jibitModel [optional "bank" (.plain .str), optional "iban" (.plain .str)]

def ibanOwner : Schema :=
  jibitModel [optional "first_name" (.plain .str), optional "last_name" (.plain .str)]

def ibanInfo : Schema :=
  jibitModel [optional "bank" (.plain .str), optional "deposit_number" (.plain .str),
    optional "iban" (.plain .str), optional "status" (.plain .str),
    defaulting "owners" (.list 0 none ibanOwner) (.arr [])]

def depositInquiryResponse : Schema :=
  jibitModel [required "number" (.plain .str),
    optionalAs "deposit_to_iban_info" depositToIbanInfo "depositToIBANInfo",
    optionalAs "iban_info" ibanInfo "ibanInfo"]

def ibanInquiryResponse : Schema :=
  jibitModel [required "value" (.plain .str), optionalAs "iban_info" ibanInfo "ibanInfo"]

def cardInfo : Schema :=
  jibitModel [optional "bank" (.plain .str), optional "type" (.plain .str),
    optional "owner_name" (.plain .str), defaulting "owners" (.list 0 none ibanOwner) (.arr []),
    optional "deposit_number" (.plain .str), optional "iban" (.plain .str),
    optional "status" (.plain .str)]

def depositInfo : Schema :=
  jibitModel [optional "bank" (.plain .str), optional "deposit_number" (.plain .str),
    optional "card_info" cardInfo]

def cardInquiryResponse : Schema :=
  jibitModel [required "number" (.plain .str), optional "type" (.plain .str),
    optional "card_info" cardInfo, optional "deposit_info" depositInfo,
    optionalAs "iban_info" ibanInfo "ibanInfo"]

def matchingResponse : Schema :=
  jibitModel [required "matched" (.plain .bool)]

def addressInfo : Schema :=
  jibitModel [optional "postal_code" (.plain .str), optional "address" (.plain .str),
    optional "province" (.plain .str), optional "district" (.plain .str),
    optional "city" (.plain .str), optional "street" (.plain .str),
    optional "floor" (.plain .str), optional "number" (.plain .str)]

def postalResponse : Schema :=
  jibitModel [required "code" (.plain .str), optional "address_info" addressInfo]

def wgsInfo : Schema :=
  jibitModel [optional "postal_code" (.plain .str), optional "latitude" (.plain .float),
    optional "longitude" (.plain .float)]

def wgsResponse : Schema :=
  jibitModel [required "code" (.plain .str), optional "wgs_info" wgsInfo]

def identityInfo : Schema :=
  jibitModel [optional "national_code" (.plain .str), optional "birth_date" (.plain .str),
    optional "first_name" (.plain .str), optional "last_name" (.plain .str),
    optional "father_name" (.plain .str), optional "gender" (.plain .str),
    optional "identification_number" (.plain .int),
    optional "identification_serial_code" (.plain .str),
    optional "identification_serial_number" (.plain .int),
    optional "birth_place_code" (.plain .int), optional "birth_place" (.plain .str),
    optional "alive" (.plain .bool), optional "death_date" (.plain .str),
    optional "provider_tracker_id" (.plain .str), optional "photo" (.plain .str)]

def identityResponse : Schema :=
  jibitModel [required "national_code" (.plain .str), required "birth_date" (.plain .str),
    optional "identity_info" identityInfo]

def identitySimilarityResponse : Schema :=
  jibitModel [optional "first_name_similarity_percentage" (.plain (.int (some 0) (some 100))),
    optional "last_name_similarity_percentage" (.plain (.int (some 0) (some 100))),
    optional "full_name_similarity_percentage" (.plain (.int (some 0) (some 100))),
    optional "father_name_similarity_percentage" (.plain (.int (some 0) (some 100)))]

def flexibleInquiryResponse : Schema :=
  jibitModel [optional "national_code" (.plain .str), optional "fida" (.plain .str),
    optional "code" (.plain .str), optional "registered" (.plain .bool),
    optional "legal_identity_info" (.plain .dict),
    optional "foreigner_identity_info" (.plain .dict),
    optional "military_service_qualification_info" (.plain .dict),
    optional "corporation_identity_info" (.plain .dict), optional "cheque_info" (.plain .dict)]

def identicatorBalance : Schema :=
  jibitModel [required "balance_type" (.plain .str), required "amount" (.plain .int),
    required "currency" (.plain .str)]

def balancesResponse : Schema :=
  jibitModel [defaulting "balances" (.list 0 none identicatorBalance) (.arr [])]

def dailyUsageReportResponse : Schema :=
  jibitModel [defaulting "report" (.list 0 none (.plain .dict)) (.arr [])]

def serviceAvailabilityResponse : Schema :=
  jibitModel [defaulting "availability_report" (.plain .dict) (.obj [])]

def identicatorHealthResponse : Schema :=
  jibitModel [required "outcome" (.plain .str),
    defaulting "checks" (.list 0 none (.plain .dict)) (.arr [])]

/-! ## 7. KYC -/

def kycResponse : Schema :=
  jibitModel [optional "error_code" (.union [.str, .int]), optional "error_message" (.plain .str),
    optional "data" (.union [.dict, .anyList, .str])]

/-! ## 8. Payment Gateway -/

def currency : FieldType :=
  .enum ["IRR"]

def balance : Schema :=
  jibitModel [required "balance_type" (.plain .str), required "amount" (.plain .int),
    required "currency" (.plain currency)]

def clientBalances : Schema :=
  jibitModel [defaulting "balances" (.list 0 none balance) (.arr [])]

def createPurchaseResult : Schema :=
  jibitModel [required "purchase_id" (.plain .int), optional "purchase_id_str" (.plain .str),
    required "client_reference_number" (.plain .str),
    required "psp_switching_url" (.plain .httpUrl), optional "fee" (.plain .int),
    optional "affiliate_fee" (.plain .int), optional "shaparak_fee" (.plain .int),
    optional "net_amount" (.plain .int), optional "payable_amount" (.plain .int),
    defaulting "currency" (.plain currency) (.str "IRR")]

def healthStatus : FieldType :=
  .enum ["UP", "DOWN", "NOT_IMPLEMENTED"]

def healthResult : Schema :=
  jibitModel [required "status" (.plain healthStatus),
    defaulting "psp_status_map" (.plain (.dictOf ["UP", "DOWN", "NOT_IMPLEMENTED"])) (.obj [])]

def purchaseState : FieldType :=
  .enum ["MANUALLY_SUCCESS", "SUCCESS", "REVERSED", "FAILED", "UNKNOWN", "EXPIRED",
    "IN_PROGRESS", "READY_TO_VERIFY"]

def detailedPurchaseHistory : Schema :=
  jibitModel [required "purchase_id" (.plain .int),
    optionalAs "client_reference_number" (.plain .str) "clientRefNum",
    required "new_state" (.plain purchaseState), required "created_at" (.plain .datetime)]

def purchaseHistoryPage : Schema :=
  jibitModel [required "size" (.plain .int), optional "total_count" (.plain .int),
    required "has_next" (.plain .bool), optional "next_page_id" (.plain .str),
    defaulting "elements" (.list 0 none detailedPurchaseHistory) (.arr [])]

def pspFailReason : Schema :=
  jibitModel [optional "code" (.plain .int), optional "description" (.plain .str),
    optional "psp_error" (.plain .str)]

def refundTransfer : Schema :=
  jibitModel [optional "refund_id" (.plain .int), optional "partial_refund_index" (.plain .int),
    optional "transfer_mode" (.plain .str), optional "destination" (.plain .str),
    optional "destination_first_name" (.plain .str),
    optional "destination_last_name" (.plain .str), optional "amount" (.plain .int),
    optional "currency" (.plain .str), optional "description" (.plain .str),
    optional "metadata" (.plain .str), optional "cancellable" (.plain .bool),
    optional "state" (.plain .str), optional "fail_reason" (.plain .str),
    optional "fee_currency" (.plain .str), optional "fee_amount" (.plain .int),
    optional "created_at" (.plain .datetime), optional "modified_at" (.plain .datetime),
    optionalAs "notify_url" (.plain .str) "notifyURL",
    optionalAs "payment_id" (.plain .str) "paymentID",
    optionalAs "bank_transfer_id" (.plain .str) "bankTransferID",
    optionalAs "transfer_id" (.plain .str) "transferID"]

def refundInquiryResult : Schema :=
  jibitModel [defaulting "transfers" (.list 0 none refundTransfer) (.arr []),
    optionalAs "batch_id" (.plain .str) "batchID", optional "refunded_amount" (.plain .int)]

def detailedPurchase : Schema :=
  jibitModel [required "purchase_id" (.plain .int), optional "purchase_id_str" (.plain .str),
    optional "client_code" (.plain .str), optional "amount" (.plain .int),
    optional "wage" (.plain .int), optional "fee" (.plain .int),
    optional "fee_payment_type" (.plain .str), optional "shaparak_fee" (.plain .int),
    optional "reseller_code" (.plain .str), optional "affiliate_fee" (.plain .int),
    optional "net_amount" (.plain .int), optional "currency" (.plain currency),
    optional "callback_url" (.plain .str), optional "state" (.plain purchaseState),
    optional "client_reference_number" (.plain .str), optional "psp_name" (.plain .str),
    optional "psp_rrn" (.plain .str), optional "psp_reference_number" (.plain .str),
    optional "psp_trace_number" (.plain .str), optional "expiration_date" (.plain .datetime),
    optional "user_identifier" (.plain .str), optional "payer_mobile_number" (.plain .str),
    optional "payer_card_number" (.plain .str), optional "payer_national_code" (.plain .str),
    optional "description" (.plain .str), optional "additional_data" (.plain .dict),
    optional "psp_masked_card_number" (.plain .str),
    optional "psp_hashed_card_number" (.plain .str), optional "psp_card_owner" (.plain .str),
    optional "psp_fail_reason" (.plain .str),
    defaulting "psp_fail_reasons" (.list 0 none pspFailReason) (.arr []),
    optional "init_payer_ip" (.plain .str), optional "redirect_payer_ip" (.plain .str),
    optional "psp_settled" (.plain .bool), optional "refunded" (.plain .bool),
    optional "refund_inquiry_result" refundInquiryResult,
    optional "refundable_amount" (.plain .int), optional "created_at" (.plain .datetime),
    optional "billing_date" (.plain .datetime), optional "verified_at" (.plain .datetime),
    optional "psp_settled_at" (.plain .datetime), optional "settlement_id" (.plain .int),
    optional "has_contradiction" (.plain .bool)]

def purchasePage : Schema :=
  jibitModel [required "page_number" (.plain .int), required "size" (.plain .int),
    required "number_of_elements" (.plain .int), required "has_next" (.plain .bool),
    required "has_previous" (.plain .bool),
    defaulting "elements" (.list 0 none detailedPurchase) (.arr [])]

def refundPurchaseResult : Schema :=
  jibitModel [required "refund_id" (.plain .int), optional "partial_refund_index" (.plain .int),
    optional "batch_id" (.plain .str), optional "transfer_id" (.plain .str)]

def reverseStatus : FieldType :=
  .enum ["SUCCESSFUL", "ALREADY_REVERSED", "NOT_REVERSIBLE", "FAILED", "UNKNOWN"]

def reversePurchaseResult : Schema :=
  jibitModel [required "status" (.plain reverseStatus)]

def settlementState : FieldType :=
  .enum ["IN_PROGRESS", "FAILED", "SETTLED", "OBSOLETE", "EARLY_SETTLED"]

def detailedSettlement : Schema :=
  jibitModel [optional "client_code" (.plain .str), optional "client_name" (.plain .str),
    required "settlement_id" (.plain .int), optional "terminal_id" (.plain .uuid),
    optional "file_name" (.plain .str), optional "state" (.plain settlementState),
    optional "amount" (.plain .int), optional "wage" (.plain .int),
    optional "direct_settlement" (.plain .bool), optional "currency" (.plain currency),
    optional "cutoff" (.plain .str), optional "acceptor_code" (.plain .str),
    optional "ledger_account" (.plain .str), optional "iin" (.plain .int),
    optional "payment_facilitator_iban" (.plain .str), optional "settlement_iban" (.plain .str),
    optional "reseller_code" (.plain .str), optional "affiliate_fee" (.plain .int),
    optional "shaparak_fail_reason" (.plain .str),
    optional "shaparak_reference_number" (.plain .str),
    optional "shaparak_tracking_number" (.plain .str),
    optional "shaparak_transaction_id" (.plain .str), optional "variance" (.plain .int),
    optional "created_at" (.plain .datetime), optional "modified_at" (.plain .datetime),
    optional "settled_at" (.plain .datetime)]

def paymentSettlementPage : Schema :=
  jibitModel [required "page_number" (.plain .int), required "size" (.plain .int),
    required "number_of_elements" (.plain .int), required "has_next" (.plain .bool),
    required "has_previous" (.plain .bool),
    defaulting "elements" (.list 0 none detailedSettlement) (.arr [])]

def terminalType : FieldType :=
  .enum ["NORMAL", "PAYMENT_FACILITATION", "AUTO_SETTLING_PF"]

def terminal : Schema :=
  jibitModel [required "natural_id" (.plain .str), optional "client_code" (.plain .str),
    optional "client_name" (.plain .str), optional "psp_name" (.plain .str),
    optional "psp_terminal_id" (.plain .str), optional "psp_merchant_number" (.plain .str),
    optional "type" (.plain terminalType), optional "direct_settlement" (.plain .bool),
    optional "priority" (.plain .int), optional "is_auto_verify_enabled" (.plain .bool),
    optional "is_check_payer_mobile_number_active" (.plain .bool),
    optional "is_check_payer_national_code_active" (.plain .bool),
    optional "is_single_card_freeze_active" (.plain .bool),
    optional "created_at" (.plain .datetime)]

def terminalCollection : Schema :=
  jibitModel [defaulting "elements" (.list 0 none terminal) (.arr [])]

def verifyStatus : FieldType :=
  .enum ["SUCCESSFUL", "ALREADY_VERIFIED", "NOT_VERIFIABLE", "FAILED", "UNKNOWN"]

def verifyPurchaseResult : Schema :=
  jibitModel [required "status" (.plain verifyStatus)]

/-! ## 9. Callbacks -/

/-- `PaymentCallback`, with its own choices of keys. -/
def paymentCallback : Schema :=
  jibitModel [
    (⟨"purchase_id", ["purchaseId", "purchase_id"], none⟩, .plain (.int (some 1))),
    (⟨"client_reference_number", ["clientReferenceNumber", "client_reference_number"],
      some .null⟩, .nullable (.plain .str))]

/-! ## 10. Validators that run first -/

/-- `TransferFilterResult.accept_list_response`. -/
def acceptListResponse : Obj → Except BuiltinError Obj
  | .arr items => .ok (.obj [("transfers", .arr items)])
  | value => .ok value

/-- `KycResponse.normalize_string_contract`; `loads` is `json.loads` of text. -/
def normalizeStringContract (loads : String → Except BuiltinError Obj) :
    Obj → Except BuiltinError Obj
  | .str value =>
    match loads value with
    | .error .jsonDecodeError => .ok (.obj [("data", .str value)])
    | .error e => .error e
    | .ok (.obj fields) => .ok (.obj fields)
    | .ok decoded => .ok (.obj [("data", decoded)])
  | value => .ok value

/-- A class without validators. -/
def plainClass (schema : Schema) : ModelClass := ⟨.ok, schema, fun _ => .ok ()⟩

def transferFilterClass : ModelClass := ⟨acceptListResponse, transferFilterResult, fun _ => .ok ()⟩

def kycClass (loads : String → Except BuiltinError Obj) : ModelClass :=
  ⟨normalizeStringContract loads, kycResponse, fun _ => .ok ()⟩

/-! ## 11. The model of each operation -/

def transferModel : TransferOperation → Option ModelClass
  | .submitBatch => some (plainClass submitBatchResult)
  | .inquire => some (plainClass transferInquiryResult)
  | .cancel => none
  | .retryFailed => none
  | .filterTransfers => some transferFilterClass
  | .setReceiptEnabled => some (plainClass receiptResult)
  | .getBalances => some (plainClass balanceResult)
  | .getDailyUsageReport => some (plainClass usageReportResult)
  | .getSupportedNormalBanks => some (plainClass bankList)
  | .getActiveNormalBanks => some (plainClass bankList)
  | .generateBatch => some (plainClass submitBatchRequest)

def cobankModel : CobankOperation → Option ModelClass
  | .createSettlement => some (plainClass settlementResult)
  | .inquireSettlement _ => some (plainClass settlementResult)
  | .batchInquireSettlements => some (plainClass settlementBatchResult)
  | .listSettlements => some (plainClass settlementPage)
  | .getMerchantAccounts => some (plainClass merchantAccountList)
  | .setSettlementReceipt _ => some (plainClass receiptLinkResult)
  | .setRecordReceipt _ _ => some (plainClass receiptLinkResult)

def directDebitModel : DirectDebitOperation → Option ModelClass
  | .createMandate _ => some (plainClass initiateMandateResult)
  | .collect => some (plainClass transactionResult)
  | .revokeMandate => none
  | .enableMandate => none
  | .disableMandate => none
  | .sendOtp _ => none
  | .acceptBlueBankCallback => none
  | .inquireTransaction _ => some (plainClass transactionResult)
  | .listSubscriptionTransactions _ => some (plainClass transactionList)
  | .inquireMandate _ => some (plainClass mandateResult)
  | .inquireCreditorMandate _ => some (plainClass mandateResult)
  | .getActiveBanks => some (plainClass activeBankList)

def smsModel : SmsOperation → Option ModelClass
  | .send => some (plainClass smsOrderResult)
  | .sendPattern => some (plainClass patternSmsResult)
  | .createBulk => some (plainClass bulkResult)
  | .getStatus _ => some (plainClass smsStatusResult)
  | .getStatusByClientId _ => some (plainClass smsStatusResult)
  | .getBulk _ => some (plainClass bulkResult)
  | .fetchInbound => some (plainClass inboundMessageResult)

def contractModel : ContractOperation → Option ModelClass
  | .initiate => some (plainClass initiateContractResult)
  | .inquire => some (plainClass contractResult)
  | .cancel => some (plainClass contractSummary)
  | .downloadSigned => none

def identicatorModel : IdenticatorOperation → ModelClass
  | .inquireDeposit => plainClass depositInquiryResponse
  | .inquireIban => plainClass ibanInquiryResponse
  | .inquireCard => plainClass cardInquiryResponse
  | .matchIdentifiers => plainClass matchingResponse
  | .inquirePostalAddress => plainClass postalResponse
  | .inquirePostalCoordinates => plainClass wgsResponse
  | .inquireIdentity => plainClass identityResponse
  | .compareIdentityNames => plainClass identitySimilarityResponse
  | .inquireForeignerIdentity => plainClass flexibleInquiryResponse
  | .inquireLegalIdentity => plainClass flexibleInquiryResponse
  | .inquireLegalSignHolders => plainClass flexibleInquiryResponse
  | .inquireMilitaryQualification => plainClass flexibleInquiryResponse
  | .inquireSana => plainClass flexibleInquiryResponse
  | .inquireCorporation => plainClass flexibleInquiryResponse
  | .inquireCheque => plainClass flexibleInquiryResponse
  | .getBalances => plainClass balancesResponse
  | .getDailyUsageReport => plainClass dailyUsageReportResponse
  | .serviceAvailability => plainClass serviceAvailabilityResponse
  | .health => plainClass identicatorHealthResponse

/-- The model a wrapped operation reads its response into; status and document
    operations have none. -/
def wrappedModel (loads : String → Except BuiltinError Obj) :
    WrappedOperation → Option ModelClass
  | .transfer op => transferModel op
  | .cobank op => cobankModel op
  | .directDebit op => directDebitModel op
  | .sms op => smsModel op
  | .contract op => contractModel op
  | .identicator op => some (identicatorModel op)
  | .kyc _ => some (kycClass loads)

def financialModel : FinancialOperation → ModelClass
  | .createPurchase => plainClass createPurchaseResult
  | .verifyPurchase _ => plainClass verifyPurchaseResult
  | .reversePurchase => plainClass reversePurchaseResult
  | .refundPurchase => plainClass refundPurchaseResult

/-- The Payment Gateway methods that only read. -/
inductive PaymentInquiry where
  | filterPurchases
  | inquirePurchase
  | inquireRefund
  | listTerminals
  | filterSettlements
  | filterPurchaseHistories
  | getBalances
  | health

def inquiryModel : PaymentInquiry → ModelClass
  | .filterPurchases => plainClass purchasePage
  | .inquirePurchase => plainClass purchasePage
  | .inquireRefund => plainClass refundInquiryResult
  | .listTerminals => plainClass terminalCollection
  | .filterSettlements => plainClass paymentSettlementPage
  | .filterPurchaseHistories => plainClass purchaseHistoryPage
  | .getBalances => plainClass clientBalances
  | .health => plainClass healthResult

/-- Everything provider data is read by. -/
inductive Reader where
  | wrapped (op : WrappedOperation)
  | financial (op : FinancialOperation)
  | inquiry (op : PaymentInquiry)
  | paymentCallback
  | blueBankCallback

def Reader.model (loads : String → Except BuiltinError Obj) : Reader → Option ModelClass
  | .wrapped op => wrappedModel loads op
  | .financial op => some (financialModel op)
  | .inquiry op => some (inquiryModel op)
  | .paymentCallback => some (plainClass ResponseModels.paymentCallback)
  | .blueBankCallback => some (plainClass ResponseModels.blueBankCallback)

end JibitSdk.Sdk.ResponseModels
