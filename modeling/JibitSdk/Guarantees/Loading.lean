import JibitSdk.Guarantees.LocalValidation
import JibitSdk.Guarantees.Settings
import JibitSdk.Reasoning.RoundTrip
import JibitSdk.Sdk.Client

/-!
# What is loaded is a configuration

The engine works on configurations that carry their bounds as proofs.  `from_mapping` returns what
Pydantic has validated.  Every loaded configuration whose floats are numbers is such a
configuration: the validators establish every bound the engine relies on, and both look services up
alike.
-/

namespace JibitSdk.Guarantees

open JibitSdk.Python JibitSdk.Reasoning JibitSdk.Sdk JibitSdk.Sdk.ConfigModels

/-! ## 1. The configuration behind the fields -/

/-- The text of a secret. -/
def textOf : Obj → Option String
  | .str s => some s
  | _ => none

/-- A float that is a number. -/
def finiteOf : Obj → Option ℚ
  | .float (.finite q) => some q
  | _ => none

def integerOf : Obj → Option ℤ
  | .int n => some n
  | _ => none

def flagOf : Obj → Option Bool
  | .bool b => some b
  | _ => none

def addressOf : Obj → Option String
  | .url text => some text
  | _ => none

/-- The texts of a list of strings. -/
def listOf : Obj → Option (List String)
  | .arr items => items.mapM textOf
  | _ => none

/-- A value that may be `None`. -/
def absentOr {α : Type} (read : Obj → Option α) : Obj → Option (Option α)
  | .null => some none
  | value => (read value).map some

def timeoutOf (self : Obj) : Option TimeoutConfig := do
  let connect ← finiteOf (self.attr "connect")
  let read ← finiteOf (self.attr "read")
  let write ← finiteOf (self.attr "write")
  let pool ← finiteOf (self.attr "pool")
  if h : (0 < connect ∧ 0 < read) ∧ 0 < write ∧ 0 < pool then
    some { connect, read, write, pool, connect_pos := h.1.1, read_pos := h.1.2, write_pos := h.2.1
           pool_pos := h.2.2 }
  else none

def retryOf (self : Obj) : Option RetryConfig := do
  let maxAttempts ← integerOf (self.attr "max_attempts")
  let baseDelay ← finiteOf (self.attr "base_delay")
  let maxDelay ← finiteOf (self.attr "max_delay")
  let jitterRatio ← finiteOf (self.attr "jitter_ratio")
  if h : (1 ≤ maxAttempts.toNat ∧ maxAttempts.toNat ≤ 10) ∧ (0 ≤ baseDelay ∧ 0 ≤ maxDelay) ∧
      (0 ≤ jitterRatio ∧ jitterRatio ≤ 1) ∧ baseDelay ≤ maxDelay then
    some { maxAttempts := maxAttempts.toNat, baseDelay, maxDelay, jitterRatio
           one_le_maxAttempts := h.1.1, maxAttempts_le := h.1.2
           baseDelay_nonneg := h.2.1.1, maxDelay_nonneg := h.2.1.2
           jitterRatio_nonneg := h.2.2.1.1, jitterRatio_le_one := h.2.2.1.2
           baseDelay_le_maxDelay := h.2.2.2 }
  else none

def authOf (self : Obj) : Option AuthConfig := do
  let leeway ← integerOf (self.attr "expiry_leeway_seconds")
  let ttl ← absentOr integerOf (self.attr "unknown_access_token_ttl_seconds")
  let cacheKeyPrefix ← textOf (self.attr "cache_key_prefix")
  if h : leeway.toNat ≤ 3600 ∧ (∀ seconds, ttl.map Int.toNat = some seconds → 60 ≤ seconds) ∧
      1 ≤ cacheKeyPrefix.length ∧ cacheKeyPrefix.length ≤ 100 then
    some { expiryLeewaySeconds := leeway.toNat, unknownAccessTokenTtlSeconds := ttl.map Int.toNat
           cacheKeyPrefix, expiryLeeway_le := h.1, unknownTtl_ge := h.2.1
           cacheKeyPrefix_length := h.2.2 }
  else none

def credentialsOf (self : Obj) : Option ServiceCredentials :=
  if h : completeCredentials (textOf (self.attr "api_key")) (textOf (self.attr "secret_key"))
      (textOf (self.attr "username")) (textOf (self.attr "password"))
      (textOf (self.attr "access_token")) = true then
    some { apiKey := textOf (self.attr "api_key"), secretKey := textOf (self.attr "secret_key")
           username := textOf (self.attr "username"), password := textOf (self.attr "password")
           accessToken := textOf (self.attr "access_token"), complete := h }
  else none

def serviceOf (self : Obj) : Option ServiceConfig := do
  let credentials ← credentialsOf (self.attr "credentials")
  let baseUrl ← absentOr addressOf (self.attr "base_url")
  let enabled ← flagOf (self.attr "enabled")
  let scopes ← listOf (self.attr "scopes")
  some { credentials, baseUrl, enabled, scopes }

/-- The services under their names. -/
def servicesOf (services : List (String × Obj)) : Option (List (String × ServiceConfig)) :=
  services.mapM fun entry => (serviceOf entry.2).map fun service => (entry.1, service)

/-- What the engine works on. -/
def configOf (config : LoadedConfig) : Option JibitConfig := do
  let self := Obj.obj config.fields
  let baseUrl ← addressOf (self.attr "base_url")
  let timeout ← timeoutOf (self.attr "timeout")
  let retry ← retryOf (self.attr "retry")
  let auth ← authOf (self.attr "auth")
  let loggingEnabled ← flagOf ((self.attr "logging").attr "enabled")
  let services ← servicesOf config.services
  some { baseUrl, timeout, retry, auth, loggingEnabled, services := fun name =>
    services.lookup name.value }

/-- Every float of a configuration is a number, neither infinite nor `nan`. -/
def finiteFloats (config : LoadedConfig) : Bool :=
  let self := Obj.obj config.fields
  (["connect", "read", "write", "pool"].all fun name =>
    (finiteOf ((self.attr "timeout").attr name)).isSome) &&
    ["base_delay", "max_delay", "jitter_ratio"].all fun name =>
      (finiteOf ((self.attr "retry").attr name)).isSome

/-! ## 2. Values of validated fields -/

section
variable {c : Coercions}

/-- A validated field has what its default and all values of its type have. -/
theorem attr_holds (P : Obj → Prop) {fields : List (Field × Schema)} {value self : Obj}
    {field : Field × Schema} (h : (settings fields).validate c value = some self)
    (hnames : (fields.map fun field => field.1.name).Nodup) (hfield : field ∈ fields)
    (hdefault : ∀ default, field.1.default = some default → P default)
    (htype : ∀ read found, field.2.validate c read = some found → P found) :
    P (self.attr field.1.name) := by
  obtain ⟨entries, values, rfl, hvalues, rfl⟩ := validate_record_eq_some h
  have hattr := attr_of_validate hvalues hnames hfield
  cases hfind : field.1.find entries with
  | none =>
    rw [hfind] at hattr
    exact hdefault _ hattr
  | some found =>
    rw [hfind] at hattr
    exact htype _ _ hattr

theorem checked_holds {type : Schema} {check : Obj → Bool} {read found : Obj}
    (h : (Schema.checked type check).validate c read = some found) : check found = true := by
  rw [Schema.validate, Option.filter_eq_some_iff] at h
  exact h.2

theorem checked_inner {type : Schema} {check : Obj → Bool} {read found : Obj}
    (h : (Schema.checked type check).validate c read = some found) :
    type.validate c read = some found := by
  rw [Schema.validate, Option.filter_eq_some_iff] at h
  exact h.1

theorem int_holds {least most : Option ℤ} {read found : Obj}
    (h : (Schema.plain (.int least most)).validate c read = some found) :
    ∃ n, found = .int n ∧ least.all (· ≤ n) = true ∧ most.all (n ≤ ·) = true := by
  rw [Schema.validate] at h
  obtain ⟨found, -, h⟩ := FieldType.lax_eq_some_iff.mp h
  rw [FieldType.convert, Option.map_eq_some_iff] at h
  obtain ⟨n, hread, rfl⟩ := h
  rw [Option.filter_eq_some_iff, Bool.and_eq_true] at hread
  exact ⟨n, rfl, hread.2⟩

theorem str_holds {least : ℕ} {most : Option ℕ} {read found : Obj}
    (h : (Schema.plain (.str least most)).validate c read = some found) :
    ∃ text, found = .str text ∧ least ≤ text.length ∧ most.all (text.length ≤ ·) = true := by
  rw [Schema.validate] at h
  obtain ⟨value, -, h⟩ := FieldType.lax_eq_some_iff.mp h
  cases value with
  | str text =>
    rw [FieldType.convert] at h
    split at h
    · rename_i hfits
      cases h
      exact ⟨text, rfl, hfits.1, hfits.2.1⟩
    · cases h
  | _ => cases h

theorem secret_holds {read found : Obj} (h : (Schema.plain .secret).validate c read = some found) :
    ∃ text, found = .str text := by
  rw [Schema.validate] at h
  obtain ⟨value, -, h⟩ := FieldType.lax_eq_some_iff.mp h
  cases value with
  | str text => exact ⟨text, (Option.some.inj h).symm⟩
  | _ => cases h

theorem bool_holds {read found : Obj} (h : (Schema.plain .bool).validate c read = some found) :
    (flagOf found).isSome = true := by
  obtain ⟨b, rfl⟩ := lax_bool h
  rfl

theorem nullable_holds {inner : Schema} {read found : Obj}
    (h : (Schema.nullable inner).validate c read = some found) :
    found = .null ∨ inner.validate c read = some found := by
  rw [Schema.validate] at h
  split at h
  · exact .inl (Option.some.inj h).symm
  · exact .inr h

/-! ## 3. The sections of a configuration -/

theorem pos_of_isPositive {value : Obj} {q : ℚ} (h : isPositive value = true)
    (hq : finiteOf value = some q) :
    0 < q := by
  cases value with
  | float x =>
    cases x with
    | finite q' =>
      cases hq
      simpa [isPositive, PyFloat.lt] using h
    | _ => cases hq
  | _ => cases hq

theorem nonneg_of_isNonNegative {value : Obj} {q : ℚ} (h : isNonNegative value = true)
    (hq : finiteOf value = some q) : 0 ≤ q := by
  cases value with
  | float x =>
    cases x with
    | finite q' =>
      cases hq
      have hsign : 0 < q ∨ q = 0 := by simpa [isNonNegative, PyFloat.lt] using h
      exact hsign.elim le_of_lt ge_of_eq
    | _ => cases hq
  | _ => cases hq

theorem le_one_of_isAtMostOne {value : Obj} {q : ℚ} (h : isAtMostOne value = true)
    (hq : finiteOf value = some q) : q ≤ 1 := by
  cases value with
  | float x =>
    cases x with
    | finite q' =>
      cases hq
      have hone : q < 1 ∨ q = 1 := by simpa [isAtMostOne, PyFloat.lt] using h
      exact hone.elim le_of_lt le_of_eq
    | _ => cases hq
  | _ => cases hq

theorem finiteOf_eq {value : Obj} {q : ℚ} (h : finiteOf value = some q) :
    value = .float (.finite q) := by
  cases value with
  | float x =>
    cases x with
    | finite q' =>
      cases h
      rfl
    | _ => cases h
  | _ => cases h

theorem timeout_loads {value self : Obj} (h : (settings timeoutFields).validate c value = some self)
    (hfinite : ∀ name ∈ ["connect", "read", "write", "pool"],
      (finiteOf (self.attr name)).isSome = true) :
    (timeoutOf self).isSome = true := by
  have hpositive : ∀ field ∈ timeoutFields, isPositive (self.attr field.1.name) = true := by
    intro field hfield
    rcases List.mem_map.mp hfield with ⟨named, hnamed, rfl⟩
    refine attr_holds (isPositive · = true) h (by decide) hfield (fun default hdefault => ?_)
      fun _ _ => checked_holds
    cases hdefault
    simp only [List.mem_cons, List.not_mem_nil, or_false] at hnamed
    rcases hnamed with rfl | rfl | rfl | rfl <;> decide
  obtain ⟨connect, hconnect⟩ := Option.isSome_iff_exists.mp (hfinite "connect" (by simp))
  obtain ⟨read, hread⟩ := Option.isSome_iff_exists.mp (hfinite "read" (by simp))
  obtain ⟨write, hwrite⟩ := Option.isSome_iff_exists.mp (hfinite "write" (by simp))
  obtain ⟨pool, hpool⟩ := Option.isSome_iff_exists.mp (hfinite "pool" (by simp))
  have hbounds : (0 < connect ∧ 0 < read) ∧ 0 < write ∧ 0 < pool :=
    ⟨⟨pos_of_isPositive (hpositive _ (.head _)) hconnect,
      pos_of_isPositive (hpositive _ (.tail _ (.head _))) hread⟩,
      pos_of_isPositive (hpositive _ (.tail _ (.tail _ (.head _)))) hwrite,
      pos_of_isPositive (hpositive _ (.tail _ (.tail _ (.tail _ (.head _))))) hpool⟩
  simp [timeoutOf, hconnect, hread, hwrite, hpool, hbounds]

theorem retry_loads {value self : Obj}
    (h : (Schema.checked (settings retryFields) validateDelayBounds).validate c value = some self)
    (hfinite : ∀ name ∈ ["base_delay", "max_delay", "jitter_ratio"],
      (finiteOf (self.attr name)).isSome = true) : (retryOf self).isSome = true := by
  have hdelays := checked_holds h
  have hfields := checked_inner h
  have hattempts : ∃ n, self.attr "max_attempts" = .int n ∧ 1 ≤ n ∧ n ≤ 10 := by
    refine attr_holds (fun value => ∃ n, value = .int n ∧ 1 ≤ n ∧ n ≤ 10) hfields
      (by decide) (.head _)
      (fun default hdefault => ?_) fun read found hread => ?_
    · cases hdefault
      exact ⟨3, rfl, by decide, by decide⟩
    · obtain ⟨n, rfl, hleast, hmost⟩ := int_holds hread
      exact ⟨n, rfl, by simpa using hleast, by simpa using hmost⟩
  have hbase : isNonNegative (self.attr "base_delay") = true :=
    attr_holds (isNonNegative · = true) hfields (by decide) (.tail _ (.head _))
      (fun default hdefault => by cases hdefault; decide +kernel) fun _ _ => checked_holds
  have hmax : isNonNegative (self.attr "max_delay") = true :=
    attr_holds (isNonNegative · = true) hfields (by decide) (.tail _ (.tail _ (.head _)))
      (fun default hdefault => by cases hdefault; decide +kernel) fun _ _ => checked_holds
  have hjitter : isNonNegative (self.attr "jitter_ratio") = true ∧
      isAtMostOne (self.attr "jitter_ratio") = true :=
    attr_holds (fun value => isNonNegative value = true ∧ isAtMostOne value = true)
      hfields (by decide)
      (.tail _ (.tail _ (.tail _ (.head _))))
      (fun default hdefault => by cases hdefault; decide +kernel)
      fun _ _ hread => ⟨checked_holds (checked_inner hread), checked_holds hread⟩
  obtain ⟨n, hn, hleast, hmost⟩ := hattempts
  obtain ⟨base, hbaseDelay⟩ := Option.isSome_iff_exists.mp (hfinite "base_delay" (by simp))
  obtain ⟨max, hmaxDelay⟩ := Option.isSome_iff_exists.mp (hfinite "max_delay" (by simp))
  obtain ⟨jitter, hjitterRatio⟩ := Option.isSome_iff_exists.mp (hfinite "jitter_ratio" (by simp))
  have hordered : base ≤ max := by
    rw [validateDelayBounds, finiteOf_eq hbaseDelay, finiteOf_eq hmaxDelay] at hdelays
    simpa [PyFloat.lt] using hdelays
  have hbounds : (1 ≤ n.toNat ∧ n.toNat ≤ 10) ∧ (0 ≤ base ∧ 0 ≤ max) ∧ (0 ≤ jitter ∧ jitter ≤ 1) ∧
      base ≤ max :=
    ⟨⟨by omega, by omega⟩,
      ⟨nonneg_of_isNonNegative hbase hbaseDelay, nonneg_of_isNonNegative hmax hmaxDelay⟩,
      ⟨nonneg_of_isNonNegative hjitter.1 hjitterRatio,
        le_one_of_isAtMostOne hjitter.2 hjitterRatio⟩, hordered⟩
  simp only [retryOf, hn, integerOf, hbaseDelay, hmaxDelay, hjitterRatio, Option.bind_eq_bind,
    Option.bind_some]
  rw [dif_pos hbounds]
  rfl

theorem logging_loads {value self : Obj}
    (h : (settings loggingFields).validate c value = some self) :
    (flagOf (self.attr "enabled")).isSome = true :=
  attr_holds (fun value => (flagOf value).isSome = true) h (by decide) (.tail _ (.head _))
    (fun _ hdefault => by cases hdefault; rfl) fun _ _ => bool_holds

theorem auth_loads {value self : Obj} (h : (settings authFields).validate c value = some self) :
    (authOf self).isSome = true := by
  have hleeway : ∃ n, self.attr "expiry_leeway_seconds" = .int n ∧ n ≤ 3600 := by
    refine attr_holds (fun value => ∃ n, value = .int n ∧ n ≤ 3600) h (by decide) (.head _)
      (fun default hdefault => ?_) fun read found hread => ?_
    · cases hdefault
      exact ⟨60, rfl, by decide⟩
    · obtain ⟨n, rfl, -, hmost⟩ := int_holds hread
      exact ⟨n, rfl, by simpa using hmost⟩
  have httl : self.attr "unknown_access_token_ttl_seconds" = .null ∨
      ∃ n, self.attr "unknown_access_token_ttl_seconds" = .int n ∧ 60 ≤ n := by
    refine attr_holds (fun value => value = .null ∨ ∃ n, value = .int n ∧ 60 ≤ n) h (by decide)
      (.tail _ (.head _)) (fun default hdefault => ?_) fun read found hread => ?_
    · cases hdefault
      exact .inl rfl
    · rcases nullable_holds hread with hnull | hread
      · exact .inl hnull
      · obtain ⟨n, rfl, hleast, -⟩ := int_holds hread
        exact .inr ⟨n, rfl, by simpa using hleast⟩
  have hprefix : ∃ text, self.attr "cache_key_prefix" = .str text ∧ 1 ≤ text.length ∧
      text.length ≤ 100 := by
    refine attr_holds
      (fun value => ∃ text, value = .str text ∧ 1 ≤ text.length ∧ text.length ≤ 100) h
      (by decide) (.tail _ (.tail _ (.head _))) (fun default hdefault => ?_)
      fun read found hread => ?_
    · cases hdefault
      exact ⟨_, rfl, by decide, by decide⟩
    · obtain ⟨text, rfl, hleast, hmost⟩ := str_holds hread
      exact ⟨text, rfl, hleast, by simpa using hmost⟩
  obtain ⟨leeway, hleeway, hmost⟩ := hleeway
  obtain ⟨text, hprefix, hlength⟩ := hprefix
  have hseconds : leeway.toNat ≤ 3600 := by omega
  rcases httl with httl | ⟨n, httl, hleast⟩
  · simp only [authOf, hleeway, httl, hprefix, integerOf, absentOr, textOf, Option.bind_eq_bind,
      Option.bind_some]
    rw [dif_pos ⟨hseconds, fun _ hnone => (by cases hnone), hlength⟩]
    rfl
  · simp only [authOf, hleeway, httl, hprefix, integerOf, absentOr, textOf, Option.bind_eq_bind,
      Option.bind_some, Option.map_some]
    rw [dif_pos ⟨hseconds, fun seconds hsome => (by cases hsome; omega), hlength⟩]
    rfl

/-! ## 4. Services -/

/-- `null` or a text. -/
def isSecret : Obj → Bool
  | .null | .str _ => true
  | _ => false

theorem isSecret_cases {value : Obj} (h : isSecret value = true) :
    value = .null ∨ ∃ text, value = .str text := by
  cases value with
  | null => exact .inl rfl
  | str text => exact .inr ⟨text, rfl⟩
  | _ => cases h

/-- The checks, one after another, find exactly the credentials with one complete method. -/
theorem requireACompleteCredentialPair_eq {apiKey secretKey username password accessToken : Obj}
    (h₁ : isSecret apiKey = true) (h₂ : isSecret secretKey = true) (h₃ : isSecret username = true)
    (h₄ : isSecret password = true) (h₅ : isSecret accessToken = true) :
    requireACompleteCredentialPair (.obj [("api_key", apiKey), ("secret_key", secretKey),
        ("username", username), ("password", password), ("access_token", accessToken)]) =
      completeCredentials (textOf apiKey) (textOf secretKey) (textOf username) (textOf password)
        (textOf accessToken) := by
  rcases isSecret_cases h₁ with rfl | ⟨_, rfl⟩ <;> rcases isSecret_cases h₂ with rfl | ⟨_, rfl⟩ <;>
    rcases isSecret_cases h₃ with rfl | ⟨_, rfl⟩ <;>
    rcases isSecret_cases h₄ with rfl | ⟨_, rfl⟩ <;>
      rcases isSecret_cases h₅ with rfl | ⟨_, rfl⟩ <;> rfl

theorem credentials_load {value self : Obj} (h : serviceCredentials.validate c value = some self) :
    (credentialsOf self).isSome = true := by
  have hpair := checked_holds h
  have hfields := checked_inner h
  have hsecret : ∀ key ∈ credentialKeys, isSecret (self.attr key) = true := by
    intro key hkey
    have hfield : setting key (.nullable (.plain .secret)) (some .null) ∈ credentialFields :=
      List.mem_map_of_mem hkey
    refine attr_holds (isSecret · = true) hfields (by decide) hfield (fun default hdefault => ?_)
      fun read found hread => ?_
    · cases hdefault
      rfl
    · rcases nullable_holds hread with rfl | hread
      · rfl
      · obtain ⟨text, rfl⟩ := secret_holds hread
        rfl
  have hcomplete := requireACompleteCredentialPair_eq (hsecret "api_key" (by decide))
    (hsecret "secret_key" (by decide)) (hsecret "username" (by decide))
    (hsecret "password" (by decide)) (hsecret "access_token" (by decide))
  rw [show requireACompleteCredentialPair (.obj _) = requireACompleteCredentialPair self from rfl,
    hpair] at hcomplete
  rw [credentialsOf, dif_pos hcomplete.symm]
  rfl

theorem texts_load {items selves : List Obj}
    (h : items.mapM (fun value => (Schema.plain .str).validate c value) = some selves) :
    (selves.mapM textOf).isSome = true := by
  induction items generalizing selves with
  | nil =>
    cases h
    rfl
  | cons value items ih =>
    rw [List.mapM_cons] at h
    obtain ⟨self, hself, h⟩ := Option.bind_eq_some_iff.mp h
    obtain ⟨rest, hrest, h⟩ := Option.bind_eq_some_iff.mp h
    cases h
    obtain ⟨text, rfl, -⟩ := str_holds hself
    obtain ⟨texts, htexts⟩ := Option.isSome_iff_exists.mp (ih hrest)
    rw [List.mapM_cons, htexts]
    rfl

theorem strings_load {read found : Obj}
    (h : (Schema.list 0 none (.plain .str)).validate c read = some found) :
    (listOf found).isSome = true := by
  cases read with
  | arr items =>
    rw [Schema.validate] at h
    split at h
    · obtain ⟨selves, hitems, rfl⟩ := Option.map_eq_some_iff.mp h
      exact texts_load hitems
    · cases h
  | _ =>
    rw [Schema.validate] at h
    · cases h
    · simp

theorem service_loads {value self : Obj} (h : serviceConfig.validate c value = some self) :
    (serviceOf self).isSome = true := by
  have hcredentials : (credentialsOf (self.attr "credentials")).isSome = true :=
    attr_holds (fun value => (credentialsOf value).isSome = true) h (by decide) (.head _)
      (fun _ hdefault => by cases hdefault) fun _ _ => credentials_load
  have hbaseUrl : (absentOr addressOf (self.attr "base_url")).isSome = true := by
    refine attr_holds (fun value => (absentOr addressOf value).isSome = true) h (by decide)
      (.tail _ (.head _))
      (fun default hdefault => ?_) fun read found hread => ?_
    · cases hdefault
      rfl
    · rcases nullable_holds hread with rfl | hread
      · rfl
      · obtain ⟨text, rfl, -⟩ := lax_httpUrl hread
        rfl
  have henabled : (flagOf (self.attr "enabled")).isSome = true :=
    attr_holds (fun value => (flagOf value).isSome = true) h (by decide)
      (.tail _ (.tail _ (.head _)))
      (fun _ hdefault => by cases hdefault; rfl) fun _ _ => bool_holds
  have hscopes : (listOf (self.attr "scopes")).isSome = true :=
    attr_holds (fun value => (listOf value).isSome = true) h (by decide)
      (.tail _ (.tail _ (.tail _ (.head _)))) (fun _ hdefault => by cases hdefault; rfl)
      fun _ _ => strings_load
  obtain ⟨credentials, hcredentials⟩ := Option.isSome_iff_exists.mp hcredentials
  obtain ⟨baseUrl, hbaseUrl⟩ := Option.isSome_iff_exists.mp hbaseUrl
  obtain ⟨enabled, henabled⟩ := Option.isSome_iff_exists.mp henabled
  obtain ⟨scopes, hscopes⟩ := Option.isSome_iff_exists.mp hscopes
  simp [serviceOf, hcredentials, hbaseUrl, henabled, hscopes]

theorem services_load {entries found : List (String × Obj)}
    (h : entries.mapM (validateService c) = some found) :
    (∀ name entry, found.lookup name = some entry → (serviceOf entry).isSome = true) ∧
      ∃ services, servicesOf found = some services ∧
        ∀ name, services.lookup name = (found.lookup name).bind serviceOf := by
  induction entries generalizing found with
  | nil =>
    cases h
    exact ⟨fun _ _ hentry => (by cases hentry), [], rfl, fun _ => rfl⟩
  | cons entry entries ih =>
    rw [List.mapM_cons] at h
    obtain ⟨first, hfirst, h⟩ := Option.bind_eq_some_iff.mp h
    obtain ⟨rest, hrest, h⟩ := Option.bind_eq_some_iff.mp h
    cases h
    have hservice : (serviceOf first.2).isSome = true := by
      unfold validateService at hfirst
      split at hfirst
      · obtain ⟨config, hconfig, rfl⟩ := Option.map_eq_some_iff.mp hfirst
        exact service_loads hconfig
      · cases hfirst
    obtain ⟨hloads, services, hservices, hlookup⟩ := ih hrest
    constructor
    · intro name entry hentry
      rw [List.lookup_cons] at hentry
      split at hentry
      · cases hentry
        exact hservice
      · exact hloads name entry hentry
    obtain ⟨service, hservice⟩ := Option.isSome_iff_exists.mp hservice
    refine ⟨(first.1, service) :: services, ?_, fun name => ?_⟩
    · rw [servicesOf] at hservices ⊢
      rw [List.mapM_cons, hservice, hservices]
      rfl
    · rw [List.lookup_cons, List.lookup_cons, hlookup]
      cases name == first.1 with
      | true => exact hservice.symm
      | false => rfl

/-! ## 5. Loading -/

/-- What a mapping that is accepted was validated as. -/
theorem fromMapping_validated {dictOfOther : Obj → Except BuiltinError (List (String × Obj))}
    {value : List (String × Obj)} {config : LoadedConfig}
    (h : fromMapping c dictOfOther value = .ok config) :
    ∃ raw, modelValidate c raw = some config := by
  unfold fromMapping at h
  split at h
  · cases h
  · dsimp only at h
    split at h
    · rename_i hmodel
      cases h
      exact ⟨_, hmodel⟩
    · cases h

theorem serviceOf_enabled {self : Obj} {service : ServiceConfig}
    (h : serviceOf self = some service) :
    self.attr "enabled" = .bool service.enabled := by
  rw [serviceOf] at h
  obtain ⟨credentials, -, h⟩ := Option.bind_eq_some_iff.mp h
  obtain ⟨baseUrl, -, h⟩ := Option.bind_eq_some_iff.mp h
  obtain ⟨enabled, henabled, h⟩ := Option.bind_eq_some_iff.mp h
  obtain ⟨scopes, -, h⟩ := Option.bind_eq_some_iff.mp h
  cases h
  cases hvalue : self.attr "enabled" with
  | bool b =>
    rw [hvalue] at henabled
    cases henabled
    rfl
  | _ =>
    rw [hvalue] at henabled
    cases henabled

/-- Both configurations find a service, or both miss it. -/
theorem service_agrees {config : LoadedConfig} {j : JibitConfig}
    (hservices : ∀ name, j.services name = (config.services.lookup name.value).bind serviceOf)
    (hloads : ∀ name entry, config.services.lookup name = some entry →
      (serviceOf entry).isSome = true)
    (rt : Runtime) (name : ServiceName) :
    (config.service rt name).map serviceOf = (j.service rt name).map some := by
  rw [LoadedConfig.service, JibitConfig.service, hservices]
  cases hentry : config.services.lookup name.value with
  | none => rfl
  | some entry =>
    obtain ⟨service, hservice⟩ := Option.isSome_iff_exists.mp (hloads _ _ hentry)
    rw [Option.bind_some, hservice]
    dsimp only
    rw [serviceOf_enabled hservice]
    cases service.enabled with
    | true => exact congrArg Except.ok hservice
    | false => rfl

/-- A mapping that is accepted, with floats that are numbers, gives a configuration within every
    bound the engine relies on; and both find, or miss, the same services. -/
theorem fromMapping_configures {dictOfOther : Obj → Except BuiltinError (List (String × Obj))}
    {value : List (String × Obj)} {config : LoadedConfig}
    (h : fromMapping c dictOfOther value = .ok config) (hfinite : finiteFloats config = true) :
    ∃ j, configOf config = some j ∧
      ∀ rt name, (config.service rt name).map serviceOf = (j.service rt name).map some := by
  obtain ⟨raw, hmodel⟩ := fromMapping_validated h
  obtain ⟨hfields, hread⟩ := modelValidate_ok hmodel
  rw [finiteFloats, Bool.and_eq_true, List.all_eq_true, List.all_eq_true] at hfinite
  have hbaseUrl : (addressOf ((Obj.obj config.fields).attr "base_url")).isSome = true := by
    refine attr_holds (fun value => (addressOf value).isSome = true) hfields (by decide) (.head _)
      (fun _ hdefault => by cases hdefault; rfl) fun read found hread => ?_
    obtain ⟨text, rfl, -⟩ := lax_httpUrl hread
    rfl
  have htimeout : (timeoutOf ((Obj.obj config.fields).attr "timeout")).isSome = true :=
    attr_holds (fun value => (∀ name ∈ ["connect", "read", "write", "pool"],
        (finiteOf (value.attr name)).isSome = true) →
        (timeoutOf value).isSome = true) hfields (by decide)
      (.tail _ (.head _)) (fun _ hdefault _ => by cases hdefault; decide +kernel)
      (fun _ _ => timeout_loads)
      hfinite.1
  have hretry : (retryOf ((Obj.obj config.fields).attr "retry")).isSome = true :=
    attr_holds (fun value => (∀ name ∈ ["base_delay", "max_delay", "jitter_ratio"],
        (finiteOf (value.attr name)).isSome = true) →
        (retryOf value).isSome = true) hfields (by decide)
      (.tail _ (.tail _ (.head _))) (fun _ hdefault _ => by cases hdefault; decide +kernel)
      (fun _ _ => retry_loads) hfinite.2
  have hauth : (authOf ((Obj.obj config.fields).attr "auth")).isSome = true :=
    attr_holds (fun value => (authOf value).isSome = true) hfields (by decide)
      (.tail _ (.tail _ (.tail _ (.head _)))) (fun _ hdefault => by cases hdefault; decide +kernel)
      fun _ _ => auth_loads
  have hlogging :
      (flagOf (((Obj.obj config.fields).attr "logging").attr "enabled")).isSome = true :=
    attr_holds (fun value => (flagOf (value.attr "enabled")).isSome = true) hfields (by decide)
      (.tail _ (.tail _ (.tail _ (.tail _ (.head _)))))
      (fun _ hdefault => by cases hdefault; decide +kernel)
      fun _ _ => logging_loads
  obtain ⟨entries, hentries⟩ : ∃ entries : List (String × Obj),
      entries.mapM (validateService c) = some config.services := by
    unfold validateServices at hread
    split at hread
    · exact ⟨_, hread⟩
    · cases hread
  obtain ⟨hloads, services, hservices, hlookup⟩ := services_load hentries
  obtain ⟨baseUrl, hbaseUrl⟩ := Option.isSome_iff_exists.mp hbaseUrl
  obtain ⟨timeout, htimeout⟩ := Option.isSome_iff_exists.mp htimeout
  obtain ⟨retry, hretry⟩ := Option.isSome_iff_exists.mp hretry
  obtain ⟨auth, hauth⟩ := Option.isSome_iff_exists.mp hauth
  obtain ⟨loggingEnabled, hlogging⟩ := Option.isSome_iff_exists.mp hlogging
  refine ⟨{ baseUrl, timeout, retry, auth, loggingEnabled,
            services := fun name => services.lookup name.value }, ?_, fun rt name => ?_⟩
  · simp [configOf, hbaseUrl, htimeout, hretry, hauth, hlogging, hservices]
  · exact service_agrees (fun name => hlookup name.value) hloads rt name

end

theorem fromMapping_configures_transfers : ∃ config j,
    fromMapping plainCoercions noDict shortSpelling = .ok config ∧ configOf config = some j ∧
      ∀ rt name, (config.service rt name).map serviceOf = (j.service rt name).map some := by
  have hloads :
      (fromMapping plainCoercions noDict shortSpelling).toOption.any finiteFloats = true := by
    decide +kernel
  obtain ⟨config, hconfig, hfinite⟩ := (Option.any_eq_true _ _).mp hloads
  cases hmapping : fromMapping plainCoercions noDict shortSpelling with
  | error e =>
    rw [hmapping] at hconfig
    cases hconfig
  | ok found =>
    rw [hmapping] at hconfig
    cases hconfig
    obtain ⟨j, hj, hagrees⟩ := fromMapping_configures hmapping hfinite
    exact ⟨config, j, rfl, hj, hagrees⟩

end JibitSdk.Guarantees
