import JibitSdk.Sdk.Auth.Provider

/-!
# The token endpoints

Where a token request goes: every service has one path for credentials and one for refreshes, both
pass the endpoint check, and their URLs differ.
-/

namespace JibitSdk.Guarantees

open JibitSdk.Python JibitSdk.Sdk

/-! ## 1. Paths -/

/-- A path of plain characters below one slash. -/
def plainPath (path : String) : Bool :=
  match path.toList with
  | '/' :: c :: rest =>
    c != '/' && (c :: rest).all fun d => d.isAlphanum || d == '/' || d == '-' || d == '_'
  | _ => false

theorem validatedEndpoint_plain {e : RequestEngine} {path : String} (h : plainPath path = true) :
    e.validatedEndpoint path = .ok path := by
  unfold plainPath at h
  split at h
  · rename_i c rest hpath
    simp only [Bool.and_eq_true, bne_iff_ne, ne_eq, List.all_eq_true, Bool.or_eq_true,
      beq_iff_eq] at h
    have hsplit : e.rt.urlsplit path = .ok ("", "") := by
      have := e.rt.urlsplit_path c rest h.1 fun d hd => by
        have := h.2 d hd
        tauto
      rw [← hpath, String.ofList_toList] at this
      exact this
    rw [RequestEngine.validatedEndpoint, hsplit]
    simp [hpath]
  · exact nomatch h

/-- Both token paths of every service pass the endpoint check, and they differ. -/
theorem tokenPaths {service : ServiceName} {spec : AuthSpec} (h : authSpecs service = some spec) :
    plainPath spec.generatePath = true ∧ plainPath spec.refreshPath = true ∧
      lstrip spec.generatePath '/' ≠ lstrip spec.refreshPath '/' := by
  cases service <;> cases h <;> decide

theorem buildUrl_injective {e : RequestEngine} {service : ServiceName} {p q : String}
    (h : e.buildUrl service p = e.buildUrl service q) : lstrip p '/' = lstrip q '/' := by
  unfold RequestEngine.buildUrl at h
  exact (String.append_right_inj _).mp h

/-- The URL a refresh goes to. -/
def refreshUrl (a : ServiceAuthenticator) : String :=
  a.engine.buildUrl a.service a.spec.refreshPath

/-! ## 2. Requests -/

section Requests
variable {a : ServiceAuthenticator}

theorem tokenRequest_service {refresh : Option TokenState} {options : RequestOptions}
    (h : a.tokenRequest refresh = .ok options) : options.service = a.service := by
  cases refresh with
  | none =>
    change a.generationBody.map (a.tokenOptions "generate_token" a.spec.generatePath) = _ at h
    cases hbody : a.generationBody with
    | error e =>
      rw [hbody] at h
      exact nomatch h
    | ok body =>
      rw [hbody] at h
      cases h
      rfl
  | some c =>
    unfold ServiceAuthenticator.tokenRequest at h
    cases hvalue : c.refreshValue with
    | none =>
      simp only [hvalue] at h
      exact nomatch h
    | some value =>
      simp only [hvalue] at h
      cases h
      rfl

theorem tokenRequest_none {options : RequestOptions} (h : a.tokenRequest none = .ok options) :
    options.path = a.spec.generatePath := by
  change a.generationBody.map (a.tokenOptions "generate_token" a.spec.generatePath) = _ at h
  cases hbody : a.generationBody with
  | error e =>
    rw [hbody] at h
    exact nomatch h
  | ok body =>
    rw [hbody] at h
    cases h
    rfl

theorem tokenRequest_some {c : TokenState} {options : RequestOptions}
    (h : a.tokenRequest (some c) = .ok options) : options.path = a.spec.refreshPath := by
  unfold ServiceAuthenticator.tokenRequest at h
  cases hvalue : c.refreshValue with
  | none =>
    simp only [hvalue] at h
    exact nomatch h
  | some value =>
    simp only [hvalue] at h
    cases h
    rfl

/-- The URL of a token request is that of its path. -/
theorem transportRequest_url {path endpoint : String} {options : RequestOptions}
    {correlationId : String} (hservice : options.service = a.service) (hpath : options.path = path)
    (hplain : plainPath path = true)
    (hendpoint : a.engine.validatedEndpoint options.path = .ok endpoint) :
    (a.engine.transportRequest options correlationId endpoint).url =
      a.engine.buildUrl a.service path := by
  rw [hpath, validatedEndpoint_plain hplain] at hendpoint
  cases hendpoint
  show a.engine.buildUrl options.service _ = _
  rw [hservice]

/-- A token request goes to the refresh URL just when it is a refresh. -/
theorem transportRequest_refreshes {refresh : Option TokenState} {options : RequestOptions}
    {correlationId endpoint : String} (h : a.tokenRequest refresh = .ok options)
    (hendpoint : a.engine.validatedEndpoint options.path = .ok endpoint) :
    (a.engine.transportRequest options correlationId endpoint).url = refreshUrl a ↔
      refresh.isSome = true := by
  rcases tokenPaths a.documented with ⟨hgenerate, hrefresh, hdistinct⟩
  cases refresh with
  | none =>
    rw [transportRequest_url (tokenRequest_service h) (tokenRequest_none h) hgenerate hendpoint]
    exact ⟨fun hurl => absurd (buildUrl_injective hurl) hdistinct, fun hnone => nomatch hnone⟩
  | some c =>
    rw [transportRequest_url (tokenRequest_service h) (tokenRequest_some h) hrefresh hendpoint]
    exact ⟨fun _ => rfl, fun _ => rfl⟩

end Requests

end JibitSdk.Guarantees
