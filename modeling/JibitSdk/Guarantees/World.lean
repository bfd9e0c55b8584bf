import JibitSdk.Guarantees.Traces
import JibitSdk.Reasoning.History
import Mathlib.Logic.Function.Basic

/-!
# Worlds to run in

A run is played by a handler that answers every operation.  `inWorld` leaves everything but the
token store to an arbitrary environment; the store itself answers what was last written.
-/

namespace JibitSdk.Guarantees

open JibitSdk.Python JibitSdk.Reasoning JibitSdk.Sdk

/-! ## 1. The token store -/

/-- What a cache key holds: a token state, or bytes whose decoding raises. -/
inductive Stored where
  | token (state : TokenState)
  | malformed (error : BuiltinError)
  deriving DecidableEq

/-- The store's contents. -/
abbrev Store : Type := String → Option Stored

/-- `store.get(key)`. -/
def Store.get (store : Store) (key : String) : Except BuiltinError (Option TokenState) :=
  match store key with
  | none => .ok none
  | some (.token state) => .ok (some state)
  | some (.malformed error) => .error error

theorem Store.get_ok {store : Store} {key : String} {cached : Option TokenState}
    (h : store.get key = .ok cached) : store key = cached.map .token := by
  unfold Store.get at h
  split at h
  · rename_i hstored
    cases h
    exact hstored
  · rename_i hstored
    cases h
    exact hstored
  · exact nomatch h

theorem Store.get_error {store : Store} {key : String} {e : BuiltinError}
    (h : store.get key = .error e) : store key = some (.malformed e) := by
  unfold Store.get at h
  split at h
  · exact nomatch h
  · exact nomatch h
  · rename_i hstored
    cases h
    exact hstored

/-- Answers for everything the SDK reaches, from an environment with its own state. -/
abbrev Handler (σ : Type) : Type := (o : Effect) → σ → Effect.Answer o × σ

/-- The store beside an arbitrary environment. -/
def inWorld {σ : Type} (env : Handler σ) : Handler (Store × σ)
  | .storeGet key, w => (w.1.get key, w)
  | .storeSet key token, w => ((), (Function.update w.1 key (some (.token token)), w.2))
  | .storeDelete key, w => ((), (Function.update w.1 key none, w.2))
  | o, w => ((env o w.2).1, (w.1, (env o w.2).2))

/-- The machine of a world that remembers its events. -/
def worldLog {σ : Type} (env : Handler σ) : Machine effects ((Store × σ) × List (Event effects)) :=
  (Machine.ofHandler (inWorld env)).logged

/-! ## 2. A small deployment

One service with credentials, a provider that answers from a script, a clock that stands still. -/

/-- ASCII text as bytes. -/
def ascii (text : String) : List UInt8 := text.toList.map fun c => .ofNat c.toNat

/-- The JSON documents of the script. -/
def sampleBodies : List (String × Json) :=
  [("\x7b\x7d", .obj []),
    ("\x7b\"accessToken\":\"T1\",\"refreshToken\":\"R1\"\x7d",
      .obj [("accessToken", .str "T1"), ("refreshToken", .str "R1")]),
    ("\x7b\"accessToken\":\"T2\",\"refreshToken\":\"R2\"\x7d",
      .obj [("accessToken", .str "T2"), ("refreshToken", .str "R2")])]

theorem toUpper_capital {c : Char} (h : c.isUpper = true) : c.toUpper = c := by
  have h : 'A'.val ≤ c.val ∧ c.val ≤ 'Z'.val := of_decide_eq_true h
  have hbelow : ¬ ('a'.val ≤ c.val ∧ c.val ≤ 'z'.val) := by
    simp only [UInt32.le_iff_toNat_le] at h ⊢
    simp at h ⊢
    omega
  exact dif_neg hbelow

theorem toUpper_capitals {s : String} (h : ∀ c ∈ s.toList, c.isUpper = true) :
    String.ofList (s.toList.map Char.toUpper) = s := by
  rw [List.map_congr_left fun c hc => toUpper_capital (h c hc), List.map_id', String.ofList_toList]

/-- The standard library on ASCII text and on these documents. -/
def sampleRuntime : Runtime where
  chars := .ascii
  jsonLoads content :=
    match sampleBodies.find? fun body => ascii body.1 = content with
    | some body => .ok body.2
    | none => .error .jsonDecodeError
  str
    | .str s => s
    | _ => ""
  str_str _ := rfl
  strVal
    | .str s => s
    | _ => ""
  strVal_str _ := rfl
  floatOfStr _ := none
  upper text := String.ofList (text.toList.map Char.toUpper)
  upper_capitals _ h := toUpper_capitals h
  lower text := String.ofList (text.toList.map Char.toLower)
  urlsplit _ := .ok ("", "")
  urlsplit_path _ _ _ _ := rfl
  sha256Hex _ := "31d57ac87111ea375cd3b5e414ff0578af678930136805640c5a117d21581b59"

def sampleService : ServiceConfig where
  credentials := { apiKey := some "key", secretKey := some "secret", complete := rfl }

def sampleConfig : JibitConfig where
  services service := if service = .transfers then some sampleService else none

def sampleEngine : RequestEngine where
  rt := sampleRuntime
  config := sampleConfig
  retryPolicy := ⟨sampleConfig.retry⟩
  logger := {}

def sampleAuthenticator : ServiceAuthenticator where
  service := .transfers
  config := sampleConfig
  serviceConfig := sampleService
  spec := (authSpecs .transfers).get rfl
  engine := sampleEngine
  locks := .thread
  logger := {}
  cacheKey := "jibit:tokens:transfers:31d57ac87111ea375cd3"
  documented := rfl
  configured := ⟨rfl, rfl⟩
  keyed := rfl

def sampleExecutor : AuthenticatedRequestEngine := ⟨sampleEngine, sampleAuthenticator⟩

/-- The environment of the deployment: transport outcomes are taken from a list, times are zero. -/
def scripted : Handler (List TransportOutcome)
  | .send _ _, [] => (.networkError, [])
  | .send _ _, outcome :: rest => (outcome, rest)
  | .sleep _, s => ((), s)
  | .monotonic, s | .clock, s | .random, s => ((0 : ℚ), s)
  | .newCorrelationId, s => ("correlation", s)
  | .log _, s => ((), s)
  | .storeGet _, s => (.ok none, s)
  | .storeSet _ _, s | .storeDelete _, s => ((), s)
  | .guardAcquire, s | .guardRelease, s => ((), s)
  | .setdefaultLock _, s => (0, s)
  | .lockAcquire _, s | .lockRelease _, s => ((), s)
  | .redisAcquire _ _ _, s | .redisRelease _, s => (none, s)
  | .emitAudit _, s => (none, s)

/-- The same environment with a clock that moves by a second whenever it is read. -/
def ticking : Handler (List TransportOutcome × ℚ)
  | .clock, s => (s.2, (s.1, s.2 + 1))
  | o, s => ((scripted o s.1).1, ((scripted o s.1).2, s.2))

/-- A request of the deployment's application. -/
def sampleOptions (safety : OperationSafety) : RequestOptions :=
  { service := .transfers, operation := "submit_batch", method := "POST",
    path := "/trf/v2/transfers", safety }

/-- A model every JSON object fits. -/
def sampleModel : ResponseModel Unit where
  validate
    | .obj _ => .ok ()
    | _ => .error .validationError

/-- A facade call of the wrapped transfer service. -/
def sampleCall (op : TransferOperation) : AuditedCall Unit :=
  .wrapped
    ⟨sampleRuntime, .authenticated sampleExecutor, {}, (WrappedOperation.transfer op).eventName⟩
    (.transfer op) {} sampleModel

/-- A response with a JSON body. -/
def sampleResponse (status : ℤ) (body : String) : TransportResponse := ⟨status, [], ascii body⟩

/-- The provider answers with this response. -/
def answer (status : ℤ) (body : String) : TransportOutcome := .response (sampleResponse status body)

/-- The body that issues the access token `T1`. -/
def bodyT1 : String := "\x7b\"accessToken\":\"T1\",\"refreshToken\":\"R1\"\x7d"

/-- The body that issues the access token `T2`. -/
def bodyT2 : String := "\x7b\"accessToken\":\"T2\",\"refreshToken\":\"R2\"\x7d"

def issueT1 : TransportOutcome := answer 200 bodyT1

def issueT2 : TransportOutcome := answer 200 bodyT2

/-- The state cached once `T1` was issued at time zero. -/
def sampleToken : TokenState :=
  { accessToken := "T1", refreshToken := some "R1", expiresAt := some (.finite 86400),
    refreshExpiresAt := some (.finite 172800) }

end JibitSdk.Guarantees
