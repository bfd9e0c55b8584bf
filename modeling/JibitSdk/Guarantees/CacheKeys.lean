import JibitSdk.Guarantees.World
import Mathlib.Data.String.Basic

/-!
# Whose tokens a cache key holds

A cache key hashes the account's parts joined by NUL characters.  The parts are unrestricted
strings, so the joined text determines them only as far as it can be cut apart again.
-/

namespace JibitSdk.Guarantees

open JibitSdk.Python JibitSdk.Reasoning JibitSdk.Sdk

/-! ## 1. Joined parts -/

section Join
variable {α : Type} [BEq α] [LawfulBEq α] {x : α}

/-- Cutting a joined text cuts every part of it. -/
theorem splitOn_joined {parts : List (List α)} (hne : parts ≠ []) :
    ([x].intercalate parts).splitOn x = parts.flatMap (·.splitOn x) := by
  induction parts with
  | nil => exact absurd rfl hne
  | cons part parts ih =>
    cases parts with
    | nil => simp
    | cons next parts =>
      rw [List.intercalate_cons_cons, List.append_assoc, List.singleton_append,
        List.splitOn_append_cons_self, ih (List.cons_ne_nil _ _)]
      simp only [List.flatMap_cons]

/-- Two joined texts are the same exactly when their parts are cut into the same pieces. -/
theorem joined_eq_iff {parts parts' : List (List α)} (hne : parts ≠ []) (hne' : parts' ≠ []) :
    [x].intercalate parts = [x].intercalate parts' ↔
      parts.flatMap (·.splitOn x) = parts'.flatMap (·.splitOn x) := by
  rw [← splitOn_joined hne, ← splitOn_joined hne']
  constructor
  · exact fun h => by rw [h]
  · intro h
    have hleft : [x].intercalate (([x].intercalate parts).splitOn x) = [x].intercalate parts :=
      List.intercalate_splitOn x
    have hright : [x].intercalate (([x].intercalate parts').splitOn x) = [x].intercalate parts' :=
      List.intercalate_splitOn x
    rw [← hleft, h, hright]

/-- A part without the separator is one piece. -/
theorem flatMap_splitOn_of_notMem {parts : List (List α)} (h : ∀ part ∈ parts, x ∉ part) :
    parts.flatMap (·.splitOn x) = parts := by
  induction parts with
  | nil => rfl
  | cons part parts ih =>
    have hpart : part.splitOn x = [part] :=
      List.splitOn_eq_singleton (h part List.mem_cons_self)
    have hparts := ih fun other hother => h other (List.mem_cons_of_mem _ hother)
    rw [List.flatMap_cons, hpart, hparts]
    rfl

omit [BEq α] [LawfulBEq α] in
/-- What stands before and after the first separator is determined by the text. -/
theorem append_separator_inj {front front' back back' : List α} (hfront : x ∉ front)
    (hfront' : x ∉ front') (h : front ++ x :: back = front' ++ x :: back') :
    front = front' ∧ back = back' := by
  induction front generalizing front' with
  | nil =>
    cases front' with
    | nil => exact ⟨rfl, (List.cons.inj h).2⟩
    | cons c rest => exact absurd (List.cons.inj h).1 (fun hc => hfront' (hc ▸ List.mem_cons_self))
  | cons c rest ih =>
    cases front' with
    | nil => exact absurd (List.cons.inj h).1 (fun hc => hfront (hc ▸ List.mem_cons_self))
    | cons c' rest' =>
      rw [List.mem_cons, not_or] at hfront hfront'
      have hrest := ih hfront.2 hfront'.2 (List.cons.inj h).2
      rw [(List.cons.inj h).1, hrest.1]
      exact ⟨rfl, hrest.2⟩

end Join

/-! ## 2. Sorted scopes -/

/-- Sorting keeps exactly the multiset. -/
theorem sorted_eq_iff {scopes scopes' : List String} :
    (scopes.mergeSort fun a b => a ≤ b) = (scopes'.mergeSort fun a b => a ≤ b) ↔
      scopes.Perm scopes' := by
  constructor
  · intro h
    have hperm := List.mergeSort_perm scopes fun a b => a ≤ b
    rw [h] at hperm
    exact hperm.symm.trans (List.mergeSort_perm scopes' fun a b => a ≤ b)
  · intro h
    have htrans : ∀ a b c : String, decide (a ≤ b) = true → decide (b ≤ c) = true →
        decide (a ≤ c) = true := by
      intro a b c hab hbc
      exact decide_eq_true ((of_decide_eq_true hab).trans (of_decide_eq_true hbc))
    have htotal : ∀ a b : String, (decide (a ≤ b) || decide (b ≤ a)) = true := by
      intro a b
      rw [Bool.or_eq_true, decide_eq_true_eq, decide_eq_true_eq]
      exact le_total a b
    have hperm := ((List.mergeSort_perm scopes fun a b => a ≤ b).trans h).trans
      (List.mergeSort_perm scopes' fun a b => a ≤ b).symm
    apply List.Perm.eq_of_pairwise _ (List.pairwise_mergeSort htrans htotal scopes)
      (List.pairwise_mergeSort htrans htotal scopes') hperm
    intro a b _ _ hab hba
    exact le_antisymm (of_decide_eq_true hab) (of_decide_eq_true hba)

/-! ## 3. Identities -/

section Identity
variable (a b : ServiceAuthenticator)

/-- The account: the API key, or the user name. -/
def accountIdentifier : Option String := a.serviceConfig.credentials.identifier

/-- The service's own base URL or the SDK's, without trailing slashes. -/
def effectiveBaseUrl : String := rstrip (a.serviceConfig.baseUrl.getD a.config.baseUrl) '/'

/-- What is joined: account, environment and the sorted scopes. -/
def identityParts : List String :=
  (accountIdentifier a).getD "" :: effectiveBaseUrl a ::
    a.serviceConfig.scopes.mergeSort fun s t => s ≤ t

/-- The text that is hashed. -/
def cacheIdentity : String := "\x00".intercalate (identityParts a)

/-- The part of the key that stands for the identity. -/
def cacheDigest (rt : Runtime) (identity : String) : List Char :=
  (rt.sha256Hex identity).toList.take 20

/-- The parts, cut again wherever they hold a NUL themselves. -/
def identityPieces : List (List Char) :=
  (identityParts a).flatMap fun part => part.toList.splitOn '\x00'

/-- The same tokens are meant: service, account, environment and granted scopes. -/
def SameGrant : Prop :=
  a.service = b.service ∧ accountIdentifier a = accountIdentifier b ∧
    effectiveBaseUrl a = effectiveBaseUrl b ∧ a.serviceConfig.scopes.Perm b.serviceConfig.scopes

/-- Different parts of one service whose NULs make them the same pieces. -/
def Ambiguous : Prop :=
  a.service = b.service ∧ identityPieces a = identityPieces b ∧ identityParts a ≠ identityParts b

end Identity

variable {a b : ServiceAuthenticator}

/-- An authenticator with a cache key has an account. -/
theorem accountIdentifier_isSome : (accountIdentifier a).isSome = true := by
  have hkeyed := a.keyed
  unfold buildCacheKey at hkeyed
  unfold accountIdentifier
  split at hkeyed
  · cases hkeyed
  · rename_i hidentifier
    rw [hidentifier]
    rfl

theorem buildCacheKey_of_identifier {rt : Runtime} {config : JibitConfig} {service : ServiceName}
    {serviceConfig : ServiceConfig} {identifier : String}
    (h : serviceConfig.credentials.identifier = some identifier) :
    buildCacheKey rt config service serviceConfig = .ok (config.auth.cacheKeyPrefix ++ ":" ++
      service.value ++ ":" ++ String.ofList (cacheDigest rt ("\x00".intercalate (identifier ::
        rstrip (serviceConfig.baseUrl.getD config.baseUrl) '/' ::
          serviceConfig.scopes.mergeSort fun s t => s ≤ t)))) := by
  unfold buildCacheKey
  rw [h]
  rfl

theorem cacheKey_toList : a.cacheKey.toList =
    a.config.auth.cacheKeyPrefix.toList ++ ':' :: (a.service.value.toList ++
      ':' :: cacheDigest a.rt (cacheIdentity a)) := by
  obtain ⟨identifier, hidentifier⟩ :=
    Option.isSome_iff_exists.mp (accountIdentifier_isSome (a := a))
  have hkeyed := a.keyed
  rw [buildCacheKey_of_identifier hidentifier] at hkeyed
  unfold cacheIdentity identityParts effectiveBaseUrl
  rw [hidentifier, ← Except.ok.inj hkeyed]
  simp only [String.toList_append, String.toList_ofList, List.append_assoc]
  rfl

/-- Two identities are one text exactly when they are cut into the same pieces. -/
theorem cacheIdentity_eq_iff :
    cacheIdentity a = cacheIdentity b ↔ identityPieces a = identityPieces b := by
  have hjoined : ∀ c : ServiceAuthenticator,
      (cacheIdentity c).toList = ['\x00'].intercalate ((identityParts c).map String.toList) := by
    intro c
    unfold cacheIdentity
    rw [String.toList_intercalate]
    rfl
  have hpieces : ∀ c : ServiceAuthenticator, identityPieces c =
      ((identityParts c).map String.toList).flatMap (·.splitOn '\x00') := by
    intro c
    rw [List.flatMap_map]
    rfl
  rw [← String.toList_inj, hjoined a, hjoined b, hpieces a, hpieces b]
  exact joined_eq_iff (List.cons_ne_nil _ _) (List.cons_ne_nil _ _)

/-- The parts say all of the grant but its service. -/
theorem identityParts_eq_iff : identityParts a = identityParts b ↔
    accountIdentifier a = accountIdentifier b ∧ effectiveBaseUrl a = effectiveBaseUrl b ∧
      a.serviceConfig.scopes.Perm b.serviceConfig.scopes := by
  have haccount : (accountIdentifier a).getD "" = (accountIdentifier b).getD "" ↔
      accountIdentifier a = accountIdentifier b := by
    have hsome := accountIdentifier_isSome (a := a)
    have hsome' := accountIdentifier_isSome (a := b)
    rw [Option.isSome_iff_exists] at hsome hsome'
    obtain ⟨account, haccount⟩ := hsome
    obtain ⟨account', haccount'⟩ := hsome'
    rw [haccount, haccount', Option.getD_some, Option.getD_some, Option.some_inj]
  unfold identityParts
  rw [List.cons.injEq, List.cons.injEq, haccount, sorted_eq_iff]

theorem service_value_noColon (service : ServiceName) : ':' ∉ service.value.toList := by
  cases service <;> decide

theorem service_value_injective {service service' : ServiceName}
    (h : service.value = service'.value) : service = service' := by
  cases service <;> cases service' <;> first | rfl | exact absurd h (by decide)

/-- Under one prefix, two keys are the same exactly when service and digest are. -/
theorem cacheKey_eq_iff (hsame : a.config.auth.cacheKeyPrefix = b.config.auth.cacheKeyPrefix) :
    a.cacheKey = b.cacheKey ↔ a.service = b.service ∧
      cacheDigest a.rt (cacheIdentity a) = cacheDigest b.rt (cacheIdentity b) := by
  rw [← String.toList_inj, cacheKey_toList, cacheKey_toList, hsame, List.append_cancel_left_eq,
    List.cons.injEq]
  constructor
  · intro h
    -- The service's name ends at the first colon.
    have hparts := append_separator_inj (service_value_noColon a.service)
      (service_value_noColon b.service) h.2
    exact ⟨service_value_injective (String.toList_inj.mp hparts.1), hparts.2⟩
  · intro h
    rw [h.1, h.2]
    exact ⟨rfl, rfl⟩

/-! ## 4. Isolation -/

/-- Where no account, URL or scope holds a NUL, nothing is ambiguous. -/
theorem not_ambiguous_of_noNul (ha : ∀ part ∈ identityParts a, '\x00' ∉ part.toList)
    (hb : ∀ part ∈ identityParts b, '\x00' ∉ part.toList) : ¬ Ambiguous a b := by
  have hpieces : ∀ c : ServiceAuthenticator, (∀ part ∈ identityParts c, '\x00' ∉ part.toList) →
      identityPieces c = (identityParts c).map String.toList := by
    intro c hc
    have hmapped : ∀ part ∈ (identityParts c).map String.toList, '\x00' ∉ part := by
      intro part hpart
      obtain ⟨text, htext, rfl⟩ := List.mem_map.mp hpart
      exact hc text htext
    rw [← flatMap_splitOn_of_notMem hmapped, List.flatMap_map]
    rfl
  intro h
  have hparts := h.2.1
  rw [hpieces a ha, hpieces b hb] at hparts
  exact h.2.2 ((List.map_injective_iff.mpr fun _ _ => String.toList_inj.mp) hparts)

/-- Two authenticators share a cache key exactly when they stand for the same grant, unless the NULs
in their parts make different grants the same text. -/
theorem cacheKey_isolates_iff (a b : ServiceAuthenticator) (hrt : a.rt = b.rt)
    (hsame : a.config.auth.cacheKeyPrefix = b.config.auth.cacheKeyPrefix)
    (hdigest : cacheDigest a.rt (cacheIdentity a) = cacheDigest a.rt (cacheIdentity b) →
      cacheIdentity a = cacheIdentity b) :
    (a.cacheKey = b.cacheKey ↔ SameGrant a b) ↔ ¬ Ambiguous a b := by
  have hkey : a.cacheKey = b.cacheKey ↔
      a.service = b.service ∧ identityPieces a = identityPieces b := by
    rw [cacheKey_eq_iff hsame, ← hrt, ← cacheIdentity_eq_iff]
    exact and_congr_right fun _ => ⟨hdigest, fun h => by rw [h]⟩
  have hgrant : SameGrant a b ↔ a.service = b.service ∧ identityParts a = identityParts b := by
    rw [SameGrant, identityParts_eq_iff]
  have hpieces : identityParts a = identityParts b → identityPieces a = identityPieces b :=
    fun h => by rw [identityPieces, h, identityPieces]
  rw [hkey, hgrant, Ambiguous]
  by_cases hservice : a.service = b.service
  · by_cases hparts : identityParts a = identityParts b
    · have hsame := hpieces hparts
      simp only [hservice, hparts, hsame, ne_eq, not_true, and_false, not_false_iff]
    · simp only [hservice, hparts, true_and, iff_false, ne_eq, not_false_iff, and_true]
  · simp only [hservice, false_and, not_false_iff]

/-! ## 5. Two grants of one account -/

/-- The standard library of the deployment, with the digest of the identity that has two scopes. -/
def scopedRuntime : Runtime :=
  { sampleRuntime with
    sha256Hex := fun text =>
      if text = "key\x00https://napi.jibit.ir\x00s\x00t" then
        "adc142abe4d2ea13290e7b59415c2c0e4ca10632d765435ee8c8bc1e65818957"
      else sampleRuntime.sha256Hex text }

/-- The deployment's service with these scopes. -/
def scopedService (scopes : List String) : ServiceConfig where
  credentials := sampleService.credentials
  scopes := scopes

def scopedConfig (scopes : List String) : JibitConfig :=
  { sampleConfig with
    services := fun service => if service = .transfers then some (scopedService scopes) else none }

/-- What is hashed for the deployment's account with sorted scopes. -/
def scopedIdentity (scopes : List String) : String :=
  "\x00".intercalate ("key" :: "https://napi.jibit.ir" :: scopes)

def scopedKey (scopes : List String) : String :=
  "jibit:tokens" ++ ":" ++ "transfers" ++ ":" ++
    String.ofList (cacheDigest scopedRuntime (scopedIdentity scopes))

theorem rstrip_sampleUrl : rstrip "https://napi.jibit.ir/" '/' = "https://napi.jibit.ir" := by
  decide +kernel

theorem scopedKey_built {scopes : List String} (h : scopes.Pairwise fun s t => decide (s ≤ t)) :
    buildCacheKey scopedRuntime (scopedConfig scopes) .transfers (scopedService scopes) =
      .ok (scopedKey scopes) := by
  have hkey : (scopedService scopes).credentials.identifier = some "key" := rfl
  have hscopes : (scopedService scopes).scopes.mergeSort (fun s t => s ≤ t) = scopes :=
    List.mergeSort_of_pairwise h
  have hurl : rstrip ((scopedService scopes).baseUrl.getD (scopedConfig scopes).baseUrl) '/' =
      "https://napi.jibit.ir" := rstrip_sampleUrl
  rw [buildCacheKey_of_identifier hkey, hscopes, hurl]
  rfl

def scopedAuthenticator (scopes : List String)
    (sorted : scopes.Pairwise fun s t => decide (s ≤ t)) : ServiceAuthenticator :=
  { sampleAuthenticator with
    config := scopedConfig scopes
    serviceConfig := scopedService scopes
    engine := { sampleEngine with rt := scopedRuntime, config := scopedConfig scopes }
    cacheKey := scopedKey scopes
    configured := ⟨rfl, rfl⟩
    keyed := scopedKey_built sorted }

theorem cacheIdentity_scoped {scopes : List String}
    (h : scopes.Pairwise fun s t => decide (s ≤ t)) :
    cacheIdentity (scopedAuthenticator scopes h) = scopedIdentity scopes := by
  have hurl : effectiveBaseUrl (scopedAuthenticator scopes h) = "https://napi.jibit.ir" :=
    rstrip_sampleUrl
  have hscopes : (scopedAuthenticator scopes h).serviceConfig.scopes.mergeSort
      (fun s t => s ≤ t) = scopes := List.mergeSort_of_pairwise h
  unfold cacheIdentity identityParts
  rw [hurl, hscopes]
  rfl

/-- Nothing is granted. -/
def unscoped : ServiceAuthenticator := scopedAuthenticator [] (by decide)

/-- Two scopes are granted. -/
def twoScopes : ServiceAuthenticator := scopedAuthenticator ["s", "t"] (by decide)

/-- One scope with a NUL is granted. -/
def oneScope : ServiceAuthenticator := scopedAuthenticator ["s\x00t"] (by decide)

theorem cacheKey_isolates_iff_scopes :
    (unscoped.cacheKey = twoScopes.cacheKey ↔ SameGrant unscoped twoScopes) ↔
      ¬ Ambiguous unscoped twoScopes := by
  apply cacheKey_isolates_iff unscoped twoScopes rfl rfl
  intro h
  rw [unscoped, twoScopes, cacheIdentity_scoped, cacheIdentity_scoped] at h
  have hdiffer : cacheDigest scopedRuntime (scopedIdentity []) ≠
      cacheDigest scopedRuntime (scopedIdentity ["s", "t"]) := by decide +kernel
  exact absurd h hdiffer

/-- Two grants of one account share their tokens, and no digest is to blame: one text is hashed. -/
theorem scopes_share_cacheKey :
    twoScopes.cacheKey = oneScope.cacheKey ∧ cacheIdentity twoScopes = cacheIdentity oneScope ∧
      ¬ SameGrant twoScopes oneScope := by
  have htext : scopedIdentity ["s", "t"] = scopedIdentity ["s\x00t"] := by decide +kernel
  have hidentity : cacheIdentity twoScopes = cacheIdentity oneScope := by
    rw [twoScopes, oneScope, cacheIdentity_scoped, cacheIdentity_scoped, htext]
  have hkey : twoScopes.cacheKey = oneScope.cacheKey := by
    show scopedKey _ = scopedKey _
    rw [scopedKey, htext, scopedKey]
  have hlength : ["s", "t"].length ≠ ["s\x00t"].length := by decide
  exact ⟨hkey, hidentity, fun h => hlength h.2.2.2.length_eq⟩

end JibitSdk.Guarantees
