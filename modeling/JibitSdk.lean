import JibitSdk.Sdk.Redaction
import JibitSdk.Reasoning.Program
import JibitSdk.Sdk.Config
import JibitSdk.Sdk.Exceptions
import JibitSdk.Sdk.Effects
import JibitSdk.Sdk.Engine
import JibitSdk.Sdk.Auth.Executors
import JibitSdk.Sdk.Services.Base
import JibitSdk.Sdk.Services.Operations
import JibitSdk.Sdk.Services.Facade
import JibitSdk.Guarantees.Traces
import JibitSdk.Guarantees.RetryLoop
import JibitSdk.Guarantees.Submission
import JibitSdk.Guarantees.Answers
import JibitSdk.Guarantees.Audit
import JibitSdk.Guarantees.Uncertainty
import JibitSdk.Reasoning.Contract
import JibitSdk.Guarantees.EngineContract
import JibitSdk.Guarantees.TokenContract
import JibitSdk.Guarantees.Fallback
import JibitSdk.Guarantees.RefreshExpiry
import JibitSdk.Guarantees.Rejection
import JibitSdk.Guarantees.SharedWorld
import JibitSdk.Guarantees.LostToken
import JibitSdk.Guarantees.SingleFlight
import JibitSdk.Guarantees.Recovery
import JibitSdk.Guarantees.Protection
import JibitSdk.Guarantees.SinkIndifference
import JibitSdk.Guarantees.ResponseReading
import JibitSdk.Guarantees.CallbackGate
import JibitSdk.Guarantees.References
import JibitSdk.Guarantees.Correlation
import JibitSdk.Guarantees.Interchange
import JibitSdk.Guarantees.Healing
import JibitSdk.Guarantees.Exclusion
import JibitSdk.Guarantees.Backoff
import JibitSdk.Guarantees.RetrySpec
import JibitSdk.Guarantees.StructuralRedaction
import JibitSdk.Guarantees.KeySpelling
import JibitSdk.Guarantees.CacheKeys
import JibitSdk.Guarantees.KycStrings
import JibitSdk.Guarantees.LocalValidation
import JibitSdk.Guarantees.RedactedTwice
import JibitSdk.Guarantees.Spans
import JibitSdk.Guarantees.Places
import JibitSdk.Guarantees.Printed
import JibitSdk.Guarantees.SelectedCards
import JibitSdk.Guarantees.Coverage
import JibitSdk.Guarantees.JwtRoundTrip
import JibitSdk.Guarantees.MandateDates
import JibitSdk.Guarantees.DiagnosticSecrecy
import JibitSdk.Reasoning.Protocol
import JibitSdk.Reasoning.Locking
import JibitSdk.Guarantees.LockProtocol
import JibitSdk.Guarantees.Waiting
import JibitSdk.Reasoning.Atomic
import JibitSdk.Guarantees.CallContract
import JibitSdk.Guarantees.Provenance
import JibitSdk.Sdk.Settings
import JibitSdk.Guarantees.Settings
import JibitSdk.Sdk.Django
import JibitSdk.Guarantees.Django
import JibitSdk.Sdk.Services.Kyc
import JibitSdk.Guarantees.Kyc
import JibitSdk.Reasoning.Methods
import JibitSdk.Sdk.Client
import JibitSdk.Guarantees.Client
import JibitSdk.Reasoning.RoundTrip
import JibitSdk.Guarantees.Payloads
import JibitSdk.Guarantees.Loading
