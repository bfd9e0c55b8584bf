import JibitSdk.Guarantees.Traces
import JibitSdk.Reasoning.Coupling
import Mathlib.Data.Option.Basic

/-!
# Two runs that differ in secrets

What the worlds of two runs have to share when keys, tokens, payloads and the provider's free text
differ, and the functions of the SDK that read these.
-/

namespace JibitSdk.Guarantees

open JibitSdk.Python JibitSdk.Reasoning JibitSdk.Sdk

/-! ## 1. Tokens -/

/-- Which token of one run stands for which of the other. -/
structure TokenPairing (rt : Runtime) where
  pairs : String → String → Prop
  expiry : ∀ {t t' : String}, pairs t t' → jwtExpiry rt t = jwtExpiry rt t'
  empty_iff : ∀ {t t' : String}, pairs t t' → (t = "" ↔ t' = "")
  eq_iff : ∀ {t t' u u' : String}, pairs t t' → pairs u u' → (t = u ↔ t' = u')

variable {rt : Runtime} {T : TokenPairing rt}

/-- Token states that differ in their strings only. -/
structure SameToken (T : TokenPairing rt) (t t' : TokenState) : Prop where
  access : T.pairs t.accessToken t'.accessToken
  refresh : Option.Rel T.pairs t.refreshToken t'.refreshToken
  expiresAt : t.expiresAt = t'.expiresAt
  refreshExpiresAt : t.refreshExpiresAt = t'.refreshExpiresAt

/-- `filter` keeps related values related. -/
theorem rel_filter {α β : Type} {r : α → β → Prop} {p : α → Bool} {q : β → Bool} {a : Option α}
    {b : Option β} (h : Option.Rel r a b) (hpq : ∀ x y, r x y → p x = q y) :
    Option.Rel r (a.filter p) (b.filter q) := by
  cases h with
  | none => exact .none
  | some h =>
    rw [Option.filter_some, Option.filter_some, hpq _ _ h]
    split
    · exact .some h
    · exact .none

theorem rel_or {α β : Type} {r : α → β → Prop} {a a₁ : Option α} {b b₁ : Option β}
    (h : Option.Rel r a b) (h₁ : Option.Rel r a₁ b₁) : Option.Rel r (a.or a₁) (b.or b₁) := by
  cases h with
  | none => exact h₁
  | some h => exact .some h

theorem isSome_of_rel {α β : Type} {r : α → β → Prop} {a : Option α} {b : Option β}
    (h : Option.Rel r a b) : a.isSome = b.isSome := by
  cases h with
  | none => rfl
  | some h => rfl

/-- Optional tokens are equal in one run exactly if they are in the other. -/
theorem TokenPairing.rel_eq_iff {a b a' b' : Option String} (ha : Option.Rel T.pairs a a')
    (hb : Option.Rel T.pairs b b') : a = b ↔ a' = b' := by
  cases ha with
  | none => cases hb with
    | none => exact iff_of_true rfl rfl
    | some hb => exact iff_of_false nofun nofun
  | some ha => cases hb with
    | none => exact iff_of_false nofun nofun
    | some hb => rw [Option.some_inj, Option.some_inj, T.eq_iff ha hb]

namespace SameToken

variable {t t' : TokenState}

theorem refreshValue (h : SameToken T t t') :
    Option.Rel T.pairs t.refreshValue t'.refreshValue := by
  apply rel_filter h.refresh
  intro u u' hu
  have hempty := T.empty_iff hu
  by_cases h : u = ""
  · rw [h, hempty.mp h]
  · rw [bne_iff_ne.mpr h, bne_iff_ne.mpr fun h' => h (hempty.mpr h')]

theorem isAccessValid (h : SameToken T t t') (now : ℚ) (leeway : ℕ) :
    t.isAccessValid now leeway = t'.isAccessValid now leeway := by
  unfold TokenState.isAccessValid
  rw [h.expiresAt]

theorem isRefreshValid (h : SameToken T t t') (now : ℚ) (leeway : ℕ) :
    t.isRefreshValid now leeway = t'.isRefreshValid now leeway := by
  unfold TokenState.isRefreshValid
  rw [h.refreshExpiresAt, isSome_of_rel h.refresh]

end SameToken

/-! ## 2. Bodies -/

/-- A string that is not empty. -/
def IsText (v : Json) : Prop := ∃ s, v = .str s ∧ s ≠ ""

/-- Equal values, or any two texts. -/
def SameText (v v' : Json) : Prop := v = v' ∨ IsText v ∧ IsText v'

/-- The fields in which a provider writes free text. -/
def freeText : List String := ["message", "detail", "description"]

/-- The two values of a field: equal, or texts where free text stands. -/
def SameField (key : String) (v v' : Json) : Prop :=
  if key ∈ freeText then SameText v v' else v = v'

/-- Objects that differ in free text only. -/
def SameEntry (b b' : List (String × Json)) : Prop :=
  ∀ key, SameField key (Json.get b key) (Json.get b' key)

/-- Error bodies that differ in free text only, at the top level or in the
    first entry of `errors`. -/
structure SameErrorBody (b b' : List (String × Json)) : Prop where
  fields : ∀ key, key ≠ "errors" → SameField key (Json.get b key) (Json.get b' key)
  errors : Json.get b "errors" = Json.get b' "errors" ∨
    ∃ first first' rest, Json.get b "errors" = .arr (.obj first :: rest) ∧
      Json.get b' "errors" = .arr (.obj first' :: rest) ∧ SameEntry first first'

theorem SameText.truthy_eq {v v' : Json} (h : SameText v v') : v.truthy = v'.truthy := by
  rcases h with rfl | ⟨⟨s, rfl, hs⟩, ⟨s', rfl, hs'⟩⟩
  · rfl
  · show (s != "") = (s' != "")
    rw [bne_iff_ne.mpr hs, bne_iff_ne.mpr hs']

theorem SameText.pyOr {v v' w w' : Json} (h : SameText v v') (hw : SameText w w') :
    SameText (v.pyOr w) (v'.pyOr w') := by
  unfold Json.pyOr
  rw [h.truthy_eq]
  split
  · exact h
  · exact hw

namespace SameField

variable {key : String} {v v' : Json}

theorem text (h : SameField key v v') : SameText v v' := by
  unfold SameField at h
  split at h
  · exact h
  · exact .inl h

theorem eq_of_notMem (h : SameField key v v') (hkey : key ∉ freeText) : v = v' := by
  unfold SameField at h
  rw [if_neg hkey] at h
  exact h

theorem refl (key : String) (v : Json) : SameField key v v := by
  unfold SameField
  split
  · exact .inl rfl
  · rfl

end SameField

namespace SameErrorBody

variable {b b' : List (String × Json)}

theorem text (h : SameErrorBody b b') (key : String) (hkey : key ≠ "errors") :
    SameText (Json.get b key) (Json.get b' key) := (h.fields key hkey).text

theorem get_eq (h : SameErrorBody b b') (key : String) (hkey : key ≠ "errors")
    (hfree : key ∉ freeText) : Json.get b key = Json.get b' key :=
  (h.fields key hkey).eq_of_notMem hfree

theorem firstError (h : SameErrorBody b b') :
    SameEntry (RequestEngine.firstError b) (RequestEngine.firstError b') := by
  unfold RequestEngine.firstError
  rcases h.errors with herrors | ⟨first, first', rest, hfirst, hfirst', hentry⟩
  · rw [herrors]
    exact fun key => .refl key _
  · rw [hfirst, hfirst']
    exact hentry

theorem refl (b : List (String × Json)) : SameErrorBody b b := ⟨fun key _ => .refl key _, .inl rfl⟩

end SameErrorBody

/-- What two contents decode to: related objects, or the same value or exception. -/
def SameDocument (bodies : List (String × Json) → List (String × Json) → Prop) :
    Except BuiltinError Json → Except BuiltinError Json → Prop
  | .ok (.obj b), .ok (.obj b') => bodies b b'
  | x, x' => x = x'

/-- Contents of error responses. -/
structure SameErrorContent (rt : Runtime) (content content' : List UInt8) : Prop where
  empty_iff : content = [] ↔ content' = []
  document : SameDocument SameErrorBody (rt.jsonLoads content) (rt.jsonLoads content')

/-! ## 3. Error mapping -/

/-- The request as diagnostics know it: headers, parameters and bodies are free, of the idempotency
    key only the presence counts. -/
structure SameOptions (o o' : RequestOptions) : Prop where
  service : o.service = o'.service
  operation : o.operation = o'.operation
  method : o.method = o'.method
  path : o.path = o'.path
  safety : o.safety = o'.safety
  idempotencyKey : o.idempotencyKey.isSome = o'.idempotencyKey.isSome
  correlationId : o.correlationId = o'.correlationId

/-- Engines that differ in their configuration only, of which no diagnostic speaks. -/
structure SameEngine (rt : Runtime) (e e' : RequestEngine) : Prop where
  runtime : e.rt = rt
  runtime' : e'.rt = rt
  retryPolicy : e'.retryPolicy = e.retryPolicy
  logger : e'.logger = e.logger

theorem SameEngine.exists_config {e e' : RequestEngine} (h : SameEngine rt e e') :
    ∃ config, e' = { e with config := config } := by
  obtain ⟨rt₁, config, policy, logger⟩ := e
  obtain ⟨rt₂, config', policy', logger'⟩ := e'
  obtain ⟨rfl, rfl, rfl, rfl⟩ := h
  exact ⟨config', rfl⟩

section Mapping

variable {e : RequestEngine} {o o' : RequestOptions}

theorem context_same (e : RequestEngine) (ho : SameOptions o o') (correlationId endpoint : String) :
    e.context o correlationId endpoint = e.context o' correlationId endpoint := by
  unfold RequestEngine.context
  rw [ho.service, ho.operation, ho.method]

theorem retryableStatus_same (ho : SameOptions o o') (status : ℤ) :
    RequestEngine.retryableStatus o status = RequestEngine.retryableStatus o' status := by
  unfold RequestEngine.retryableStatus
  rw [ho.safety, ho.idempotencyKey]

theorem optionalStr_text {v v' : Json} (h : SameText v v') :
    (e.optionalStr v).map (fun _ => REDACTED) = (e.optionalStr v').map fun _ => REDACTED := by
  rcases h with rfl | ⟨⟨s, rfl, -⟩, ⟨s', rfl, -⟩⟩
  · rfl
  · rfl

/-- The free text decides no more than whether there is an upstream message. -/
theorem mapErrorFields_same {b b' : List (String × Json)} {r r' : TransportResponse}
    (ho : SameOptions o o') (hstatus : r.statusCode = r'.statusCode)
    (hheaders : r.headers = r'.headers)
    (hb : SameErrorBody b b') (correlationId endpoint : String) :
    e.mapErrorFields o correlationId endpoint r b =
      e.mapErrorFields o' correlationId endpoint r' b' := by
  have hfirst := hb.firstError
  have hcode : Json.get (RequestEngine.firstError b) "code" =
      Json.get (RequestEngine.firstError b') "code" := (hfirst "code").eq_of_notMem (by decide)
  have hmessage := optionalStr_text (e := e)
    (((((hb.text "message" (by decide)).pyOr (hb.text "detail" (by decide))).pyOr
      (hb.text "description" (by decide))).pyOr (hfirst "message").text).pyOr
      (hfirst "description").text)
  unfold RequestEngine.mapErrorFields
  simp only [context_same e ho, retryableStatus_same ho, hstatus, hheaders, hcode, hmessage,
    hb.get_eq "code" (by decide) (by decide),
    hb.get_eq "errorCode" (by decide) (by decide),
    hb.get_eq "error" (by decide) (by decide),
    hb.get_eq "fingerprint" (by decide) (by decide),
    hb.get_eq "referenceNumber" (by decide) (by decide),
    hb.get_eq "reference_number" (by decide) (by decide),
    hb.get_eq "requestId" (by decide) (by decide),
    hb.get_eq "request_id" (by decide) (by decide)]

theorem bodyFields_same {r r' : TransportResponse}
    (h : SameErrorContent e.rt r.content r'.content) :
    Outcomes SameErrorBody (e.bodyFields r) (e.bodyFields r') := by
  have hdocument := h.document
  unfold RequestEngine.bodyFields
  by_cases hempty : r.content = []
  · rw [if_pos hempty, if_pos (h.empty_iff.mp hempty)]
    exact .refl []
  · rw [if_neg hempty, if_neg fun hempty' => hempty (h.empty_iff.mpr hempty')]
    generalize e.rt.jsonLoads r.content = x at hdocument
    generalize e.rt.jsonLoads r'.content = x' at hdocument
    unfold SameDocument at hdocument
    split at hdocument
    · exact hdocument
    · cases hdocument
      exact .rfl SameErrorBody.refl _

theorem mapError_same {r r' : TransportResponse} (ho : SameOptions o o')
    (hstatus : r.statusCode = r'.statusCode) (hheaders : r.headers = r'.headers)
    (hcontent : SameErrorContent e.rt r.content r'.content) (correlationId endpoint : String) :
    e.mapError o correlationId endpoint r = e.mapError o' correlationId endpoint r' := by
  have hbody := bodyFields_same hcontent
  unfold RequestEngine.mapError
  generalize e.bodyFields r = x at hbody
  generalize e.bodyFields r' = x' at hbody
  cases x with
  | ok b => cases x' with
    | ok b' =>
      exact congrArg Except.ok
        (mapErrorFields_same ho hstatus hheaders hbody correlationId endpoint)
    | error error => exact hbody.elim
  | error error => cases x' with
    | ok b' => exact hbody.elim
    | error error' =>
      cases hbody
      rfl

end Mapping

/-! ## 4. Token responses -/

/-- A field that holds a token: the two tokens stand for each other; what is
    no string is the same. -/
def SameTokenField (T : TokenPairing rt) : Json → Json → Prop
  | .str s, .str s' => T.pairs s s'
  | v, v' => v = v'

/-- Token responses that differ in their tokens only. -/
structure SameTokenBody (T : TokenPairing rt) (spec : AuthSpec)
    (b b' : List (String × Json)) : Prop where
  access : SameTokenField T (Json.get b spec.accessResponseField)
    (Json.get b' spec.accessResponseField)
  refresh : SameTokenField T (Json.get b spec.refreshResponseField)
    (Json.get b' spec.refreshResponseField)
  rest : ∀ key, key ≠ spec.accessResponseField → key ≠ spec.refreshResponseField →
    Json.get b key = Json.get b' key

/-- Authenticators that differ in their keys only, and in what no diagnostic depends on. -/
structure SameAuthenticator (rt : Runtime) (a a' : ServiceAuthenticator) : Prop where
  service : a.service = a'.service
  engine : SameEngine rt a.engine a'.engine
  locks : a.locks = a'.locks
  logger : a.logger = a'.logger
  auth : a.config.auth = a'.config.auth
  apiKey : a.serviceConfig.credentials.apiKey.isSome = a'.serviceConfig.credentials.apiKey.isSome
  secretKey : a.serviceConfig.credentials.secretKey.isSome =
    a'.serviceConfig.credentials.secretKey.isSome

namespace SameAuthenticator

variable {a a' : ServiceAuthenticator}

theorem rt_eq (h : SameAuthenticator rt a a') : a.rt = rt ∧ a'.rt = rt :=
  ⟨h.engine.runtime, h.engine.runtime'⟩

theorem spec_eq (h : SameAuthenticator rt a a') : a.spec = a'.spec := by
  have hdocumented := a.documented
  rw [h.service, a'.documented] at hdocumented
  exact (Option.some.inj hdocumented).symm

theorem leeway_eq (h : SameAuthenticator rt a a') : a.leeway = a'.leeway := by
  unfold ServiceAuthenticator.leeway
  rw [h.auth]

end SameAuthenticator

/-- Lifetimes stand in other fields than tokens. -/
theorem lifetime_fields {service : ServiceName} {spec : AuthSpec}
    (h : authSpecs service = some spec) :
    ∀ key, spec.expiresInField = some key ∨ spec.refreshExpiresInField = some key →
      key ≠ spec.accessResponseField ∧ key ≠ spec.refreshResponseField := by
  intro key hkey
  cases service <;> cases h <;> rcases hkey with hkey | hkey <;> cases hkey <;> decide

section Reading

variable {a a' : ServiceAuthenticator} {b b' : List (String × Json)}

theorem stringField_same {key : String} (h : SameTokenField T (Json.get b key) (Json.get b' key)) :
    Option.Rel T.pairs (ServiceAuthenticator.stringField b key)
      (ServiceAuthenticator.stringField b' key) := by
  unfold ServiceAuthenticator.stringField
  generalize Json.get b key = v at h
  generalize Json.get b' key = v' at h
  unfold SameTokenField at h
  split at h
  · rename_i s s'
    have hempty := T.empty_iff h
    show Option.Rel T.pairs (if s = "" then none else some s) (if s' = "" then none else some s')
    by_cases hs : s = ""
    · rw [if_pos hs, if_pos (hempty.mp hs)]
      exact .none
    · rw [if_neg hs, if_neg fun hs' => hs (hempty.mpr hs')]
      exact .some h
  · rename_i hstr
    subst h
    split
    · rename_i s
      exact absurd rfl (hstr s s rfl)
    · exact .none

theorem integerField_same (hb : SameTokenBody T a.spec b b') {field : Option String}
    (hfield : ∀ key, field = some key → key ≠ a.spec.accessResponseField ∧
      key ≠ a.spec.refreshResponseField) :
    ServiceAuthenticator.integerField b field = ServiceAuthenticator.integerField b' field := by
  unfold ServiceAuthenticator.integerField
  cases field with
  | none => rfl
  | some key =>
    obtain ⟨haccess, hrefresh⟩ := hfield key rfl
    rw [Option.map_some, Option.map_some, hb.rest key haccess hrefresh]

theorem accessExpiry_same (h : SameAuthenticator rt a a') (hb : SameTokenBody T a.spec b b')
    {access access' : String} (haccess : T.pairs access access') (now : ℚ) :
    a.accessExpiry b access now = a'.accessExpiry b' access' now := by
  have hinteger := integerField_same (a := a) hb fun key hkey =>
    lifetime_fields a.documented key (.inl hkey)
  unfold ServiceAuthenticator.accessExpiry ServiceAuthenticator.accessTtl
  rw [h.rt_eq.1, h.rt_eq.2, T.expiry haccess, ← h.spec_eq, ← h.auth, hinteger]

theorem refreshTtl_same (h : SameAuthenticator rt a a') (hb : SameTokenBody T a.spec b b') :
    a.refreshTtl b = a'.refreshTtl b' := by
  have hinteger := integerField_same (a := a) hb fun key hkey =>
    lifetime_fields a.documented key (.inr hkey)
  unfold ServiceAuthenticator.refreshTtl
  rw [← h.spec_eq, hinteger]

variable {previous previous' : Option TokenState}

theorem previousRefresh_same (hprevious : Option.Rel (SameToken T) previous previous') :
    Option.Rel T.pairs (previous.bind TokenState.refreshValue)
      (previous'.bind TokenState.refreshValue) := by
  cases hprevious with
  | none => exact .none
  | some hprevious => exact hprevious.refreshValue

theorem responseRefresh_same (h : SameAuthenticator rt a a') (hb : SameTokenBody T a.spec b b')
    (hprevious : Option.Rel (SameToken T) previous previous') :
    Option.Rel T.pairs (a.responseRefresh b previous) (a'.responseRefresh b' previous') := by
  unfold ServiceAuthenticator.responseRefresh
  rw [← h.spec_eq]
  exact rel_or (stringField_same hb.refresh) (previousRefresh_same hprevious)

/-- Whether the refresh token is the previous one is the same question in both runs. -/
theorem refreshExpiry_same (h : SameAuthenticator rt a a') (hb : SameTokenBody T a.spec b b')
    (hprevious : Option.Rel (SameToken T) previous previous') (now : ℚ) :
    a.refreshExpiry b previous now = a'.refreshExpiry b' previous' now := by
  have hresponse := responseRefresh_same h hb hprevious
  unfold ServiceAuthenticator.refreshExpiry
  rw [← refreshTtl_same h hb]
  cases a.refreshTtl b with
  | some ttl => rfl
  | none => cases hprevious with
    | none => rfl
    | some hprevious =>
      simp only [T.rel_eq_iff hresponse hprevious.refreshValue, hprevious.refreshExpiresAt]

theorem parsedToken_same (h : SameAuthenticator rt a a') (hb : SameTokenBody T a.spec b b')
    (hprevious : Option.Rel (SameToken T) previous previous') {access access' : String}
    (haccess : T.pairs access access') (now : ℚ) :
    Outcomes (SameToken T) (a.parsedToken b previous access now)
      (a'.parsedToken b' previous' access' now) := by
  unfold ServiceAuthenticator.parsedToken
  rw [← accessExpiry_same h hb haccess, ← refreshExpiry_same h hb hprevious]
  refine (Outcomes.rfl (V := Eq) (fun _ => rfl) _).bind fun expiresAt _ hexpiresAt => ?_
  cases hexpiresAt
  refine (Outcomes.rfl (V := Eq) (fun _ => rfl) _).bind
    fun refreshExpiresAt _ hrefreshExpiresAt => ?_
  cases hrefreshExpiresAt
  exact ⟨haccess, responseRefresh_same h hb hprevious, rfl, rfl⟩

theorem tokenOptions_same (h : SameAuthenticator rt a a') (operation path : String)
    (body body' : Json) :
    SameOptions (a.tokenOptions operation path body) (a'.tokenOptions operation path body') :=
  ⟨h.service, rfl, rfl, rfl, rfl, rfl, rfl⟩

theorem generationBody_same (h : SameAuthenticator rt a a') :
    Outcomes (fun _ _ => True) a.generationBody a'.generationBody := by
  have hkey := h.apiKey
  have hsecret := h.secretKey
  unfold ServiceAuthenticator.generationBody
  rw [h.rt_eq.1, h.rt_eq.2, ← h.spec_eq]
  generalize a.serviceConfig.credentials.apiKey = apiKey at hkey ⊢
  generalize a'.serviceConfig.credentials.apiKey = apiKey' at hkey ⊢
  generalize a.serviceConfig.credentials.secretKey = secretKey at hsecret ⊢
  generalize a'.serviceConfig.credentials.secretKey = secretKey' at hsecret ⊢
  cases apiKey <;> cases apiKey' <;> cases hkey <;> cases secretKey <;>
    cases secretKey' <;> cases hsecret
  · exact rfl
  · exact rfl
  · exact rfl
  · generalize a.spec.scopesField = field
    generalize a.serviceConfig.scopes = scopes
    generalize a'.serviceConfig.scopes = scopes'
    cases field <;> cases scopes <;> cases scopes' <;> exact trivial

/-- Both token requests are built, or neither for the same reason. -/
theorem tokenRequest_same (h : SameAuthenticator rt a a')
    (hprevious : Option.Rel (SameToken T) previous previous') :
    Outcomes SameOptions (a.tokenRequest previous) (a'.tokenRequest previous') := by
  unfold ServiceAuthenticator.tokenRequest
  rw [← h.spec_eq]
  cases hprevious with
  | none =>
    have hbody := generationBody_same h
    generalize a.generationBody = x at hbody ⊢
    generalize a'.generationBody = x' at hbody ⊢
    cases x <;> cases x'
    · exact hbody
    · exact hbody.elim
    · exact hbody.elim
    · exact tokenOptions_same h _ _ _ _
  | some hprevious =>
    rename_i token token'
    have hvalue := hprevious.refreshValue
    rw [h.rt_eq.1, h.rt_eq.2]
    dsimp only
    generalize token.refreshValue = value at hvalue ⊢
    generalize token'.refreshValue = value' at hvalue ⊢
    cases hvalue with
    | none => exact rfl
    | some _ => exact tokenOptions_same h _ _ _ _

end Reading

end JibitSdk.Guarantees
