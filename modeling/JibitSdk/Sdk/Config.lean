import Mathlib.Algebra.Order.Ring.Rat
import Mathlib.Tactic.NormNum

/-!
# Configuration

`jibit/types.py` and `jibit/config.py`.  A configuration that the Pydantic models reject cannot be
built here either: the bounds and the cross-field validators are fields of the structures.
-/

namespace JibitSdk.Sdk

/-! ## 1. Services -/

inductive ServiceName where
  | paymentGateway
  | transfers
  | cobank
  | identicator
  | kyc
  | directDebit
  | sms
  | contracts
  deriving DecidableEq, Repr

/-- `ServiceName.value`. -/
def ServiceName.value : ServiceName → String
  | .paymentGateway => "payment_gateway"
  | .transfers => "transfers"
  | .cobank => "cobank"
  | .identicator => "identicator"
  | .kyc => "kyc"
  | .directDebit => "direct_debit"
  | .sms => "sms"
  | .contracts => "contracts"

/-! ## 2. Transport, retry and token settings -/

structure TimeoutConfig where
  connect : ℚ := 5
  read : ℚ := 30
  write : ℚ := 30
  pool : ℚ := 5
  connect_pos : 0 < connect := by norm_num
  read_pos : 0 < read := by norm_num
  write_pos : 0 < write := by norm_num
  pool_pos : 0 < pool := by norm_num

structure RetryConfig where
  maxAttempts : ℕ := 3
  baseDelay : ℚ := 1 / 4
  maxDelay : ℚ := 4
  jitterRatio : ℚ := 1 / 10
  one_le_maxAttempts : 1 ≤ maxAttempts := by norm_num
  maxAttempts_le : maxAttempts ≤ 10 := by norm_num
  baseDelay_nonneg : 0 ≤ baseDelay := by norm_num
  maxDelay_nonneg : 0 ≤ maxDelay := by norm_num
  jitterRatio_nonneg : 0 ≤ jitterRatio := by norm_num
  jitterRatio_le_one : jitterRatio ≤ 1 := by norm_num
  /-- `validate_delay_bounds`. -/
  baseDelay_le_maxDelay : baseDelay ≤ maxDelay := by norm_num

structure AuthConfig where
  expiryLeewaySeconds : ℕ := 60
  unknownAccessTokenTtlSeconds : Option ℕ := none
  cacheKeyPrefix : String := "jibit:tokens"
  expiryLeeway_le : expiryLeewaySeconds ≤ 3600 := by decide
  unknownTtl_ge : ∀ ttl, unknownAccessTokenTtlSeconds = some ttl → 60 ≤ ttl := by simp
  cacheKeyPrefix_length : 1 ≤ cacheKeyPrefix.length ∧ cacheKeyPrefix.length ≤ 100 := by decide

/-! ## 3. Credentials and services -/

/-- `require_a_complete_credential_pair`: exactly one credential method, complete. -/
def completeCredentials (apiKey secretKey username password accessToken : Option String) : Bool :=
  match apiKey, secretKey, username, password, accessToken with
  | some _, some _, none, none, none => true
  | none, none, some _, some _, none => true
  | none, none, none, none, some _ => true
  | _, _, _, _, _ => false

structure ServiceCredentials where
  apiKey : Option String := none
  secretKey : Option String := none
  username : Option String := none
  password : Option String := none
  accessToken : Option String := none
  complete : completeCredentials apiKey secretKey username password accessToken = true

structure ServiceConfig where
  credentials : ServiceCredentials
  /-- `str()` of the validated URL. -/
  baseUrl : Option String := none
  enabled : Bool := true
  scopes : List String := []

structure JibitConfig where
  baseUrl : String := "https://napi.jibit.ir/"
  timeout : TimeoutConfig := {}
  retry : RetryConfig := {}
  auth : AuthConfig := {}
  loggingEnabled : Bool := true
  services : ServiceName → Option ServiceConfig := fun _ => none

end JibitSdk.Sdk
