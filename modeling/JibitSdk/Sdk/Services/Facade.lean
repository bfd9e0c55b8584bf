import JibitSdk.Sdk.Services.Base
import JibitSdk.Sdk.Services.Operations

/-!
# Facade calls

A call of a wrapped service once its arguments are validated, the financial operations of
`jibit/services/payment_gateway/service.py`, which audit on their own, and its reads, which do not.
-/

namespace JibitSdk.Sdk

open JibitSdk.Python JibitSdk.Reasoning

variable {M : Type}

/-! ## 1. Wrapped services -/

/-- The facade method of a wrapped operation, from its validated arguments on. -/
def wrappedCall (x : AuditedRequestExecutor) (op : WrappedOperation) (parts : RequestParts)
    (model : ResponseModel M) : Py (APIResponse M) :=
  match op.spec.kind with
  | .typed => typedRequest x (op.spec.options parts) model
  | .status => statusRequest x (op.spec.options parts)
  | .document => documentRequest x (op.spec.options parts)

/-! ## 2. Payment Gateway financial operations -/

/-- The operations that go through `_financial_typed`. -/
inductive FinancialOperation where
  | createPurchase
  | verifyPurchase (purchaseId : ℕ)
  | reversePurchase
  | refundPurchase

/-- The operations that go through `_refund_action`. -/
inductive RefundAction where
  | verifyRefund
  | retryRefund
  | cancelRefund
  | ignoreRefundCancellableDelay

def FinancialOperation.spec : FinancialOperation → OperationSpec
  | .createPurchase =>
    ⟨.paymentGateway, "create_purchase", "POST", "/ppg/v3/purchases", .unsafeOp, .typed⟩
  | .verifyPurchase purchaseId =>
    ⟨.paymentGateway, "verify_purchase", "POST", s!"/ppg/v3/purchases/{purchaseId}/verify",
      .idempotent, .typed⟩
  | .reversePurchase =>
    ⟨.paymentGateway, "reverse_purchase", "POST", "/ppg/v3/purchases/reverse", .idempotent, .typed⟩
  | .refundPurchase =>
    ⟨.paymentGateway, "refund_purchase", "POST", "/ppg/v3/purchases/refund", .unsafeOp, .typed⟩

/-- `audit_name`. -/
def FinancialOperation.auditName : FinancialOperation → String
  | .createPurchase => "jibit.payment.purchase_created"
  | .verifyPurchase _ => "jibit.payment.purchase_verified"
  | .reversePurchase => "jibit.payment.purchase_reversed"
  | .refundPurchase => "jibit.payment.refund_submitted"

/-- Operation name and URL action. -/
def RefundAction.names : RefundAction → String × String
  | .verifyRefund => ("verify_refund", "verify")
  | .retryRefund => ("retry_refund", "retry")
  | .cancelRefund => ("cancel_refund", "cancel")
  | .ignoreRefundCancellableDelay => ("ignore_refund_cancellable_delay", "ignore-cancellable")

def RefundAction.spec (action : RefundAction) (refundId : ℕ) : OperationSpec :=
  ⟨.paymentGateway, action.names.1, "POST",
    s!"/ppg/v3/purchases/refunds/{refundId}/{action.names.2}", .unsafeOp, .status⟩

structure PaymentGatewayService where
  engine : AuthenticatedRequestEngine
  logger : StructuredLogger

namespace PaymentGatewayService

variable (x : PaymentGatewayService)

def rt : Runtime := x.engine.engine.rt

/-- `_typed`. -/
def typed (spec : OperationSpec) (parts : RequestParts) (model : ResponseModel M) :
    Py (APIResponse M) := do
  let options := spec.options parts
  let raw ← x.engine.execute options
  Prog.ofExcept (parseModelResponse x.rt raw model options.service.value options.operation
    options.method options.path)

/-- `_emit_audit`. -/
def emitAudit (name correlationId operation : String) (outcome : AuditOutcome)
    (metadata : List (String × PyVal)) : Py Unit :=
  emitAuditEvent x.rt x.logger
    (.new x.rt name correlationId ServiceName.paymentGateway.value operation outcome metadata)

/-- `_audit`. -/
def audit (name operation : String) (result : APIResponse M) (metadata : List (String × PyVal)) :
    Py Unit :=
  x.emitAudit name result.raw.correlationId operation .succeeded metadata

/-- `_audit_error`. -/
def auditError (name operation : String) (error : JibitError) : Py Unit :=
  x.emitAudit name (auditCorrelationId error) operation (auditOutcome error)
    (failureMetadata error)

/-- `try: ... except JibitError as exc: self._audit_error(...); raise`. -/
def auditingErrors {α : Type} (name operation : String) (body : Py α) : Py α := do
  match ← body.attempt with
  | .ok result => pure result
  | .error (.jibit error) =>
    x.auditError name operation error
    Py.raise error
  | .error (.builtin e) => .throw (.builtin e)

/-- `_financial_typed`. -/
def financialTyped (auditName : String) (spec : OperationSpec) (parts : RequestParts)
    (model : ResponseModel M) : Py (APIResponse M) :=
  x.auditingErrors auditName spec.operation (x.typed spec parts model)

/-- The facade method of a financial operation, from its validated arguments on; `metadata` is
    what it reports of the result. -/
def financial (op : FinancialOperation) (parts : RequestParts) (model : ResponseModel M)
    (metadata : APIResponse M → List (String × PyVal)) : Py (APIResponse M) := do
  let result ← x.financialTyped op.auditName op.spec parts model
  x.audit op.auditName op.spec.operation result (metadata result)
  pure result

/-- `_refund_action`, from its validated arguments on. -/
def refundAction (action : RefundAction) (refundId : ℕ) (parts : RequestParts)
    (metadata : List (String × PyVal)) : Py (APIResponse M) := do
  let spec := action.spec refundId
  let name := "jibit.payment." ++ spec.operation
  let raw ← x.auditingErrors name spec.operation (x.engine.execute (spec.options parts))
  let result : APIResponse M :=
    ⟨.status ⟨true, raw.statusCode, if raw.content = [] then none else some raw.content⟩, raw⟩
  x.audit name spec.operation result metadata
  pure result

end PaymentGatewayService

/-! ## 3. Every audited call -/

/-- An audited facade call with its validated arguments. -/
inductive AuditedCall (M : Type) where
  | wrapped (x : AuditedRequestExecutor) (op : WrappedOperation) (parts : RequestParts)
      (model : ResponseModel M)
  | financial (x : PaymentGatewayService) (op : FinancialOperation) (parts : RequestParts)
      (model : ResponseModel M) (metadata : APIResponse M → List (String × PyVal))
  | refund (x : PaymentGatewayService) (action : RefundAction) (refundId : ℕ)
      (parts : RequestParts) (metadata : List (String × PyVal))

namespace AuditedCall

/-- The call itself. -/
def run : AuditedCall M → Py (APIResponse M)
  | .wrapped x op parts model => wrappedCall x op parts model
  | .financial x op parts model metadata => x.financial op parts model metadata
  | .refund x action refundId parts metadata => x.refundAction action refundId parts metadata

def spec : AuditedCall M → OperationSpec
  | .wrapped _ op _ _ => op.spec
  | .financial _ op _ _ _ => op.spec
  | .refund _ action refundId _ _ => action.spec refundId

/-- The executor a call runs on. -/
def executor : AuditedCall M → RequestExecutor
  | .wrapped x _ _ _ => x.executor
  | .financial x _ _ _ _ => .authenticated x.engine
  | .refund x _ _ _ _ => .authenticated x.engine

/-- The options a call hands to its executor. -/
def options : AuditedCall M → RequestOptions
  | .wrapped _ op parts _ => op.spec.options parts
  | .financial _ op parts _ _ => op.spec.options parts
  | .refund _ action refundId parts _ => (action.spec refundId).options parts

/-- A status-only result. -/
def statusResponse (raw : RawResponse) : APIResponse M :=
  ⟨.status ⟨true, raw.statusCode, if raw.content = [] then none else some raw.content⟩, raw⟩

/-- A downloaded document. -/
def documentResponse (rt : Runtime) (raw : RawResponse) : APIResponse M :=
  ⟨.document ⟨raw.content, contentType rt raw.headers⟩, raw⟩

/-- What a call makes of its raw response. -/
def finish : AuditedCall M → RawResponse → Except PyError (APIResponse M)
  | .wrapped x op parts model, raw =>
    match op.spec.kind with
    | .typed => parseModelResponse x.rt raw model (op.spec.options parts).service.value
        (op.spec.options parts).operation (op.spec.options parts).method
        (op.spec.options parts).path
    | .status => .ok (statusResponse raw)
    | .document => .ok (documentResponse x.rt raw)
  | .financial x op parts model _, raw =>
    parseModelResponse x.rt raw model (op.spec.options parts).service.value
      (op.spec.options parts).operation (op.spec.options parts).method (op.spec.options parts).path
  | .refund _ _ _ _ _, raw => .ok (statusResponse raw)

/-- The call is audited by its executor. -/
def isWrapped : AuditedCall M → Bool
  | .wrapped _ _ _ _ => true
  | _ => false

end AuditedCall

/-! ## 4. Payment Gateway reads -/

/-- The operations that go straight through `_typed`; `inquire_purchase` ends in
    `filter_purchases`. -/
inductive GatewayRead where
  | filterPurchases
  | inquireRefund (refundId : ℕ)
  | listTerminals
  | filterSettlements
  | filterPurchaseHistories
  | getBalances
  | health

def GatewayRead.spec : GatewayRead → OperationSpec
  | .filterPurchases =>
    ⟨.paymentGateway, "filter_purchases", "GET", "/ppg/v3/purchases", .readOnly, .typed⟩
  | .inquireRefund refundId =>
    ⟨.paymentGateway, "inquire_refund", "GET", s!"/ppg/v3/purchases/refunds/{refundId}",
      .readOnly, .typed⟩
  | .listTerminals =>
    ⟨.paymentGateway, "list_terminals", "GET", "/ppg/v3/terminals/list", .readOnly, .typed⟩
  | .filterSettlements =>
    ⟨.paymentGateway, "filter_settlements", "GET", "/ppg/v3/settlements", .readOnly, .typed⟩
  | .filterPurchaseHistories =>
    ⟨.paymentGateway, "filter_purchase_histories", "GET", "/ppg/v3/purchases/histories",
      .readOnly, .typed⟩
  | .getBalances =>
    ⟨.paymentGateway, "get_balances", "GET", "/ppg/v3/balances", .readOnly, .typed⟩
  | .health => ⟨.paymentGateway, "health", "GET", "/ppg/v3/app/health", .readOnly, .typed⟩

/-- A facade call of any service, with its validated arguments. -/
inductive ServiceCall (M : Type) where
  | audited (call : AuditedCall M)
  | read (x : PaymentGatewayService) (op : GatewayRead) (parts : RequestParts)
      (model : ResponseModel M)

namespace ServiceCall

/-- The call itself. -/
def run : ServiceCall M → Py (APIResponse M)
  | .audited call => call.run
  | .read x op parts model => x.typed op.spec parts model

/-- The executor a call runs on. -/
def executor : ServiceCall M → RequestExecutor
  | .audited call => call.executor
  | .read x _ _ _ => .authenticated x.engine

/-- The options a call hands to its executor. -/
def options : ServiceCall M → RequestOptions
  | .audited call => call.options
  | .read _ op parts _ => op.spec.options parts

end ServiceCall

end JibitSdk.Sdk
