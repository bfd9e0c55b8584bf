import JibitSdk.Sdk.Settings
import JibitSdk.Guarantees.ForwardCompatible

/-!
# Spellings of a configuration

`from_mapping` takes a service under its name or under `services`, and its credentials beside the
other settings or gathered under `credentials`.  What a mapping means is what it says of every
service and of every other setting; how it spells this makes no difference.
-/

namespace JibitSdk.Guarantees

open JibitSdk.Python JibitSdk.Reasoning JibitSdk.Sdk JibitSdk.Sdk.ConfigModels

/-! ## 1. Dicts with the same items -/

/-- The same values under the same keys, in whatever order. -/
def SameItems (d d' : List (String × Obj)) : Prop := ∀ key, d.lookup key = d'.lookup key

section Records
variable {c : Coercions} {d d' : List (String × Obj)}

/-- The keys alone decide whether some key is of a kind. -/
theorem any_key_congr (h : ∀ key, (d.lookup key).isSome = (d'.lookup key).isSome)
    (p : String → Bool) :
    d.any (fun entry => p entry.1) = d'.any fun entry => p entry.1 := by
  have keys {e e' : List (String × Obj)}
    (he : ∀ key, (e.lookup key).isSome = (e'.lookup key).isSome)
      (hany : e.any (fun entry => p entry.1) = true) : e'.any (fun entry => p entry.1) = true := by
    rcases List.any_eq_true.mp hany with ⟨entry, hentry, hp⟩
    have hkey : entry.1 ∈ e'.map Prod.fst := by
      rw [← lookup_isSome_iff_mem, ← he, lookup_isSome_iff_mem]
      exact List.mem_map.mpr ⟨entry, hentry, rfl⟩
    rcases List.mem_map.mp hkey with ⟨entry', hentry', heq⟩
    rw [← heq] at hp
    exact List.any_eq_true.mpr ⟨entry', hentry', hp⟩
  rw [Bool.eq_iff_iff]
  exact ⟨keys h, keys fun key => (h key).symm⟩

/-- The key a field is read from is the first of its keys that is there. -/
theorem find_key (field : Field) (d : List (String × Obj)) :
    (field.find d).map Prod.fst = field.keys.find? fun key => (d.lookup key).isSome := by
  unfold Field.find
  induction field.keys with
  | nil => rfl
  | cons key keys ih =>
    rw [List.findSome?_cons, List.find?_cons]
    cases d.lookup key with
    | none => exact ih
    | some value => rfl

theorem refusesKeys_congr
    (h : ∀ key, (d.lookup key).isSome = (d'.lookup key).isSome) (extra : Extra)
    (fields : List (Field × Schema)) :
    refusesKeys extra fields d = refusesKeys extra fields d' := by
  have hused : usedKeys fields d = usedKeys fields d' := by
    unfold usedKeys
    congr 1
    funext field
    rw [find_key, find_key]
    congr 1
    funext key
    rw [h key]
  unfold refusesKeys
  rw [hused, any_key_congr h fun key => !(usedKeys fields d').contains key]

/-- What is read for a field. -/
def readField (c : Coercions) (field : Field × Schema) (d : List (String × Obj)) : Option Obj :=
  (field.1.find d).elim field.1.default fun found => field.2.validate c found.2

theorem validateFields_congr {fields : List (Field × Schema)}
    (h : ∀ field ∈ fields, readField c field d = readField c field d') :
    validateFields c fields d = validateFields c fields d' := by
  induction fields with
  | nil => rfl
  | cons field fields ih =>
    have hfirst := h field List.mem_cons_self
    have hrest := ih fun other hother => h other (List.mem_cons_of_mem _ hother)
    rw [readField, readField] at hfirst
    rw [validateFields, validateFields, hfirst, hrest]

theorem record_congr {extra : Extra} {fields : List (Field × Schema)}
    (hkeys : ∀ key, (d.lookup key).isSome = (d'.lookup key).isSome)
    (h : ∀ field ∈ fields, readField c field d = readField c field d') :
    (Schema.record extra fields).validate c (.obj d) =
      (Schema.record extra fields).validate c (.obj d') := by
  rw [Schema.validate, Schema.validate, refusesKeys_congr hkeys, validateFields_congr h]

/-- A model does not see the order of the keys. -/
theorem SameItems.record (h : SameItems d d') (extra : Extra) (fields : List (Field × Schema)) :
    (Schema.record extra fields).validate c (.obj d) =
      (Schema.record extra fields).validate c (.obj d') := by
  apply record_congr
  · intro key
    rw [h key]
  · intro field _
    have hfind : field.1.find d = field.1.find d' := by
      unfold Field.find
      congr 1
      funext key
      rw [h key]
    rw [readField, readField, hfind]

end Records

/-! ## 2. Services -/

/-- Two values a service may be given: the same, or dicts with the same items whose credentials may
    be dicts with the same items. -/
inductive SameService : Obj → Obj → Prop
  | same (value : Obj) : SameService value value
  | dicts {d d' credentials credentials' : List (String × Obj)}
      (hothers : ∀ key, key ≠ "credentials" → d.lookup key = d'.lookup key)
      (hcredentials : d.lookup "credentials" = some (.obj credentials))
      (hcredentials' : d'.lookup "credentials" = some (.obj credentials'))
      (hsame : SameItems credentials credentials') : SameService (.obj d) (.obj d')

theorem SameService.symm {value value' : Obj} (h : SameService value value') :
    SameService value' value := by
  cases h with
  | same => exact .same value
  | dicts hothers hcredentials hcredentials' hsame =>
    exact .dicts (fun key hkey => (hothers key hkey).symm) hcredentials' hcredentials
      fun key => (hsame key).symm

section Services
variable {c : Coercions}

/-- A field with one key is read from it. -/
theorem readField_setting (name : String) (type : Schema) (default : Option Obj)
    (d : List (String × Obj)) :
    readField c (setting name type default) d = (d.lookup name).elim default (type.validate c) := by
  unfold readField setting Field.find
  rw [List.findSome?_cons]
  cases d.lookup name <;> rfl

theorem SameService.validate {value value' : Obj} (h : SameService value value') :
    serviceConfig.validate c value = serviceConfig.validate c value' := by
  cases h with
  | same => rfl
  | @dicts d d' credentials credentials' hothers hcredentials hcredentials' hsame =>
    have hread : serviceCredentials.validate c (.obj credentials) =
        serviceCredentials.validate c (.obj credentials') :=
      congrArg (Option.filter requireACompleteCredentialPair)
        (hsame.record .forbid credentialFields)
    apply record_congr
    · intro key
      by_cases hkey : key = "credentials"
      · rw [hkey, hcredentials, hcredentials']
        rfl
      · rw [hothers key hkey]
    · unfold serviceFields
      rw [List.forall_mem_cons]
      constructor
      · rw [readField_setting, readField_setting, hcredentials, hcredentials']
        exact hread
      · intro field hfield
        simp only [List.mem_cons, List.not_mem_nil, or_false] at hfield
        rcases hfield with rfl | rfl | rfl
        · rw [readField_setting, readField_setting, hothers _ (by decide)]
        · rw [readField_setting, readField_setting, hothers _ (by decide)]
        · rw [readField_setting, readField_setting, hothers _ (by decide)]

theorem SameService.validateService {value value' : Obj} (h : SameService value value')
    (name : String) :
    validateService c (name, value) = validateService c (name, value') := by
  unfold ConfigModels.validateService
  rw [h.validate]

/-- A service keeps its name. -/
theorem validateService_name {entry out : String × Obj} (h : validateService c entry = some out) :
    out.1 = entry.1 := by
  unfold validateService at h
  split at h
  · rcases Option.map_eq_some_iff.mp h with ⟨config, -, rfl⟩
    rfl
  · cases h

/-- What is found under a name is what was read there. -/
theorem validateServices_lookup {entries out : List (String × Obj)}
    (h : validateServices c (.obj entries) = some out) (name : String) :
    out.lookup name =
      (entries.lookup name).bind fun value => (validateService c (name, value)).map Prod.snd := by
  change entries.mapM (validateService c) = some out at h
  induction entries generalizing out with
  | nil =>
    cases h
    rfl
  | cons entry entries ih =>
    rw [List.mapM_cons] at h
    rcases Option.bind_eq_some_iff.mp h with ⟨first, hfirst, h⟩
    rcases Option.bind_eq_some_iff.mp h with ⟨rest, hrest, h⟩
    cases h
    rw [List.lookup_cons, List.lookup_cons, validateService_name hfirst, ih hrest]
    by_cases hname : name = entry.1
    · subst hname
      rw [beq_self_eq_true]
      exact (congrArg (Option.map Prod.snd) hfirst).symm
    · rw [beq_eq_false_iff_ne.mpr hname]

/-- All services are read if each of them is. -/
theorem validateServices_isSome {entries : List (String × Obj)} :
    (validateServices c (.obj entries)).isSome = true ↔
      ∀ entry ∈ entries, (validateService c entry).isSome = true := by
  show (entries.mapM (validateService c)).isSome = true ↔ _
  induction entries with
  | nil => simp
  | cons entry entries ih =>
    rw [List.mapM_cons, List.forall_mem_cons, ← ih]
    cases validateService c entry with
    | none => simp
    | some first => cases entries.mapM (validateService c) <;> simp

/-- What two dicts hold for a service: nothing, or values that are the same to the service. -/
inductive SameSaid : Option Obj → Option Obj → Prop
  | nothing : SameSaid none none
  | value {value value' : Obj} (h : SameService value value') : SameSaid (some value) (some value')

theorem SameSaid.symm {x y : Option Obj} (h : SameSaid x y) : SameSaid y x := by
  cases h with
  | nothing => exact .nothing
  | value h => exact .value h.symm

/-- Dicts that hold the same for every name. -/
def SameServices (d d' : List (String × Obj)) : Prop :=
  ∀ name, SameSaid (d.lookup name) (d'.lookup name)

theorem SameSaid.validateService {x y : Option Obj} (h : SameSaid x y) (name : String) :
    (x.bind fun value => (validateService c (name, value)).map Prod.snd) =
      y.bind fun value => (validateService c (name, value)).map Prod.snd := by
  cases h with
  | nothing => rfl
  | value h => rw [Option.bind_some, Option.bind_some, h.validateService]

theorem SameServices.validate {d d' : List (String × Obj)} (hd : (d.map Prod.fst).Nodup)
    (hd' : (d'.map Prod.fst).Nodup) (h : SameServices d d') {out : List (String × Obj)}
    (hout : validateServices c (.obj d) = some out) :
    ∃ out', validateServices c (.obj d') = some out' ∧ SameItems out out' := by
  have hall : (validateServices c (.obj d')).isSome = true := by
    rw [validateServices_isSome]
    intro entry hentry
    have hsaid := h entry.1
    rw [(mem_iff_lookup hd' entry.1 entry.2).mp hentry] at hsaid
    generalize hvalue : d.lookup entry.1 = found at hsaid
    cases hsaid with
    | @value value _ hsame =>
      have hread := validateServices_isSome.mp (Option.isSome_of_eq_some hout) (entry.1, value)
        ((mem_iff_lookup hd entry.1 value).mpr hvalue)
      rw [hsame.validateService] at hread
      exact hread
  rcases Option.isSome_iff_exists.mp hall with ⟨out', hout'⟩
  refine ⟨out', hout', fun name => ?_⟩
  rw [validateServices_lookup hout, validateServices_lookup hout']
  exact (h name).validateService name

end Services

/-! ## 3. What a mapping says -/

section Spellings

/-- The names of the services. -/
def isServiceName (name : String) : Bool := (serviceNames.map ServiceName.value).contains name

/-- What a mapping says of a service: under its own name, which counts first, or under `services`,
    given by `nested`; with the credentials gathered. -/
def said (value nested : List (String × Obj)) (name : String) : Option Obj :=
  ((if isServiceName name then value.lookup name else none).or (nested.lookup name)).map
    gatherCredentials

theorem lookup_popKey (d : List (String × Obj)) (key k : String) :
    (popKey d key).lookup k = if k = key then none else d.lookup k := by
  rw [popKey, lookup_filter_keys fun k => k ≠ key]
  by_cases hk : k = key
  · simp [hk]
  · simp [hk]

/-- What the loop over the service names leaves at the top level, and what it
    makes of the services. -/
theorem moveServices_lookup (names : List ServiceName)
    (hnames : (names.map ServiceName.value).Nodup)
    (raw services : List (String × Obj)) (k : String) :
    (moveServices raw services names).1.lookup k =
        (if k ∈ names.map ServiceName.value then none else raw.lookup k) ∧
      (moveServices raw services names).2.lookup k =
        (if k ∈ names.map ServiceName.value then raw.lookup k else none).or
        (services.lookup k) := by
  induction names generalizing raw services with
  | nil => exact ⟨rfl, rfl⟩
  | cons name names ih =>
    rw [List.map_cons, List.nodup_cons] at hnames
    rw [List.map_cons, moveServices]
    cases hfound : raw.lookup name.value with
    | none =>
      rcases ih hnames.2 raw services with ⟨hraw, hservices⟩
      by_cases hk : k = name.value
      · subst hk
        rw [hraw, hservices, if_neg hnames.1, if_neg hnames.1, if_pos List.mem_cons_self,
          if_pos List.mem_cons_self, hfound]
        exact ⟨rfl, rfl⟩
      · have hmem : k ∈ name.value :: names.map ServiceName.value ↔
            k ∈ names.map ServiceName.value := by
          rw [List.mem_cons, or_iff_right hk]
        simp only [hmem]
        exact ⟨hraw, hservices⟩
    | some value =>
      rcases ih hnames.2 (popKey raw name.value) (setItem services name.value value) with
        ⟨hraw, hservices⟩
      rw [hraw, hservices, lookup_popKey, lookup_setItem]
      by_cases hk : k = name.value
      · subst hk
        simp [hnames.1, hfound]
      · simp [hk]

theorem serviceNames_nodup : (serviceNames.map ServiceName.value).Nodup := by decide

/-- The services keep different keys. -/
theorem moveServices_nodup (names : List ServiceName) {raw services : List (String × Obj)}
    (h : (services.map Prod.fst).Nodup) :
    ((moveServices raw services names).2.map Prod.fst).Nodup := by
  induction names generalizing raw services with
  | nil => exact h
  | cons name names ih =>
    rw [moveServices]
    cases raw.lookup name.value with
    | none => exact ih h
    | some value => exact ih (setItem_nodup name.value value h)

end Spellings

/-! ## 4. Loading -/

section Loading
variable {c : Coercions} {dictOfOther : Obj → Except BuiltinError (List (String × Obj))}

/-- The same configuration, the order of its services apart. -/
structure SameConfig (a b : LoadedConfig) : Prop where
  fields : a.fields = b.fields
  services : SameItems a.services b.services

/-- The same configuration, or the same error. -/
inductive SameLoad : Except PyError LoadedConfig → Except PyError LoadedConfig → Prop
  | ok {a b : LoadedConfig} (h : SameConfig a b) : SameLoad (.ok a) (.ok b)
  | error (e : PyError) : SameLoad (.error e) (.error e)

/-- The parts of a validated document. -/
theorem modelValidate_ok {raw : List (String × Obj)} {config : LoadedConfig}
    (h : modelValidate c raw = some config) :
    (settings configFields).validate c (.obj (popKey raw "services")) = some (.obj config.fields) ∧
      validateServices c ((raw.lookup "services").getD (.obj [])) = some config.services := by
  unfold modelValidate at h
  rcases Option.bind_eq_some_iff.mp h with ⟨fields, hfields, h⟩
  rcases Option.bind_eq_some_iff.mp h with ⟨services, hservices, h⟩
  cases fields with
  | obj fields =>
    cases h
    exact ⟨hfields, hservices⟩
  | _ => cases h

theorem modelValidate_alike {raw raw' services services' : List (String × Obj)}
    (hothers : ∀ key, key ≠ "services" → raw.lookup key = raw'.lookup key)
    (hraw : raw.lookup "services" = some (.obj services))
    (hraw' : raw'.lookup "services" = some (.obj services'))
    (hn : (services.map Prod.fst).Nodup) (hn' : (services'.map Prod.fst).Nodup)
    (hsame : SameServices services services') {config : LoadedConfig}
    (h : modelValidate c raw = some config) :
    ∃ config', modelValidate c raw' = some config' ∧ SameConfig config config' := by
  rcases modelValidate_ok h with ⟨hfields, hservices⟩
  rw [hraw, Option.getD_some] at hservices
  rcases hsame.validate hn hn' hservices with ⟨out', hout', hitems⟩
  have hpopped : SameItems (popKey raw "services") (popKey raw' "services") := by
    intro key
    rw [lookup_popKey, lookup_popKey]
    by_cases hkey : key = "services"
    · rw [if_pos hkey, if_pos hkey]
    · rw [if_neg hkey, if_neg hkey, hothers key hkey]
  have hfields' : (settings configFields).validate c (.obj (popKey raw' "services")) =
      some (.obj config.fields) := by
    rw [settings, ← hpopped.record]
    exact hfields
  refine ⟨⟨config.fields, out'⟩, ?_, rfl, hitems⟩
  unfold modelValidate
  rw [hfields', hraw', Option.getD_some, hout']
  rfl

/-- The services as `from_mapping` hands them to the model. -/
def normalServices (value nested : List (String × Obj)) : List (String × Obj) :=
  (moveServices (popKey value "services") nested serviceNames).2.map
    fun entry => (entry.1, gatherCredentials entry.2)

/-- The document that `from_mapping` hands to the model. -/
def normalized (value nested : List (String × Obj)) : List (String × Obj) :=
  (moveServices (popKey value "services") nested serviceNames).1 ++
    [("services", .obj (normalServices value nested))]

theorem fromMapping_eq {value nested : List (String × Obj)}
    (h : asDict dictOfOther ((value.lookup "services").getD (.obj [])) = .ok nested) :
    fromMapping c dictOfOther value = match modelValidate c (normalized value nested) with
      | some config => .ok config
      | none => .error (.builtin (.other "ValidationError")) := by
  unfold fromMapping
  rw [h]
  rfl

theorem popped_serviceName (value : List (String × Obj)) {name : String}
    (h : isServiceName name = true) :
    (popKey value "services").lookup name = value.lookup name := by
  rw [lookup_popKey, if_neg]
  intro heq
  subst heq
  exact absurd h (by decide)

theorem isServiceName_iff (name : String) :
    isServiceName name = true ↔ name ∈ serviceNames.map ServiceName.value := List.contains_iff_mem

/-- At the top level the document holds the other settings. -/
theorem normalized_lookup (value nested : List (String × Obj)) {key : String}
    (hkey : key ≠ "services") :
    (normalized value nested).lookup key =
      if isServiceName key then none else value.lookup key := by
  have hmoved :=
    (moveServices_lookup serviceNames serviceNames_nodup (popKey value "services")
      nested key).1
  rw [normalized, List.lookup_append, hmoved, List.lookup_cons, beq_eq_false_iff_ne.mpr hkey,
    List.lookup_nil, Option.or_none, lookup_popKey, if_neg hkey]
  by_cases hname : isServiceName key = true
  · rw [if_pos hname, if_pos ((isServiceName_iff key).mp hname)]
  · rw [if_neg hname, if_neg (mt (isServiceName_iff key).mpr hname)]

theorem normalized_services (value nested : List (String × Obj)) :
    (normalized value nested).lookup "services" = some (.obj (normalServices value nested)) := by
  have hmoved :=
    (moveServices_lookup serviceNames serviceNames_nodup (popKey value "services")
      nested "services").1
  rw [normalized, List.lookup_append, hmoved, lookup_popKey, if_pos rfl, ite_self, Option.none_or,
    List.lookup_cons_self]

/-- The services are what the mapping says of each. -/
theorem normalServices_lookup (value nested : List (String × Obj)) (name : String) :
    (normalServices value nested).lookup name = said value nested name := by
  have hmoved :=
    (moveServices_lookup serviceNames serviceNames_nodup (popKey value "services")
      nested name).2
  rw [normalServices, lookup_mapValues, hmoved, said]
  by_cases hname : isServiceName name = true
  · rw [if_pos hname, if_pos ((isServiceName_iff name).mp hname), popped_serviceName value hname]
  · rw [if_neg hname, if_neg (mt (isServiceName_iff name).mpr hname)]

theorem normalServices_nodup (value : List (String × Obj)) {nested : List (String × Obj)}
    (h : (nested.map Prod.fst).Nodup) : ((normalServices value nested).map Prod.fst).Nodup := by
  rw [normalServices, List.map_map]
  exact moveServices_nodup serviceNames h

variable {value value' nested nested' : List (String × Obj)}

/-- Mappings that say the same of every service and of every other setting load alike, however they
    spell it. -/
theorem fromMapping_alike
    (h : asDict dictOfOther ((value.lookup "services").getD (.obj [])) = .ok nested)
    (h' : asDict dictOfOther ((value'.lookup "services").getD (.obj [])) = .ok nested')
    (hn : (nested.map Prod.fst).Nodup) (hn' : (nested'.map Prod.fst).Nodup)
    (hothers : ∀ key, key ≠ "services" → isServiceName key = false →
      value.lookup key = value'.lookup key)
    (hsaid : ∀ name, SameSaid (said value nested name) (said value' nested' name)) :
    SameLoad (fromMapping c dictOfOther value) (fromMapping c dictOfOther value') := by
  have hservices := normalized_services value nested
  have hservices' := normalized_services value' nested'
  have hkeys := normalServices_nodup value hn
  have hkeys' := normalServices_nodup value' hn'
  have htop : ∀ key, key ≠ "services" →
      (normalized value nested).lookup key = (normalized value' nested').lookup key := by
    intro key hkey
    rw [normalized_lookup value nested hkey, normalized_lookup value' nested' hkey]
    by_cases hname : isServiceName key = true
    · rw [if_pos hname, if_pos hname]
    · rw [if_neg hname, if_neg hname, hothers key hkey (Bool.eq_false_iff.mpr hname)]
  have hsame : SameServices (normalServices value nested) (normalServices value' nested') := by
    intro name
    rw [normalServices_lookup, normalServices_lookup]
    exact hsaid name
  rw [fromMapping_eq h, fromMapping_eq h']
  cases hmodel : modelValidate c (normalized value nested) with
  | some config =>
    rcases modelValidate_alike htop hservices hservices' hkeys hkeys' hsame hmodel with
      ⟨config', hmodel', hconfig⟩
    rw [hmodel']
    exact .ok hconfig
  | none =>
    cases hmodel' : modelValidate c (normalized value' nested') with
    | none => exact .error _
    | some config' =>
      -- what loads in the second spelling loads in the first
      rcases modelValidate_alike (fun key hkey => (htop key hkey).symm) hservices' hservices
        hkeys' hkeys (fun name => (hsame name).symm) hmodel' with ⟨config, hfound, -⟩
      rw [hmodel] at hfound
      cases hfound

end Loading

/-- The credentials in place, under the name of the service. -/
def shortSpelling : List (String × Obj) :=
  [("transfers",
    .obj [("api_key", .str "key"), ("secret_key", .str "secret"), ("enabled", .bool true)]),
    ("verify_ssl", .bool true)]

/-- The nesting of the model itself. -/
def longSpelling : List (String × Obj) :=
  [("verify_ssl", .bool true), ("services", .obj [("transfers", .obj [("enabled", .bool true),
    ("credentials", .obj [("secret_key", .str "secret"), ("api_key", .str "key")])])])]

/-- `dict(value)` of a value that is no mapping. -/
def noDict (_ : Obj) : Except BuiltinError (List (String × Obj)) := .error .typeError

theorem transfers_alike : SameService
    (.obj [("enabled", .bool true),
      ("credentials", .obj [("api_key", .str "key"), ("secret_key", .str "secret")])])
    (.obj [("enabled", .bool true),
      ("credentials", .obj [("secret_key", .str "secret"), ("api_key", .str "key")])]) := by
  refine .dicts (fun key hkey => ?_) rfl rfl (lookup_perm (List.Perm.swap ..) (by decide))
  have hother := beq_eq_false_iff_ne.mpr hkey
  rw [List.lookup_cons, List.lookup_cons, List.lookup_cons, List.lookup_cons, hother]

theorem fromMapping_alike_transfers :
    (fromMapping plainCoercions noDict shortSpelling).toBool = true ∧
      SameLoad (fromMapping plainCoercions noDict shortSpelling)
        (fromMapping plainCoercions noDict longSpelling) := by
  refine ⟨by decide +kernel, fromMapping_alike rfl rfl (by decide) (by decide) ?_ fun name => ?_⟩
  · intro key hkey hname
    have htransfers : (key == "transfers") = false := by
      apply beq_eq_false_iff_ne.mpr
      intro heq
      subst heq
      exact absurd hname (by decide)
    simp [shortSpelling, longSpelling, List.lookup_cons, htransfers, beq_eq_false_iff_ne.mpr hkey]
  · by_cases hname : isServiceName name = true
    · have hmem := (isServiceName_iff name).mp hname
      simp only [serviceNames, List.map_cons, List.map_nil, ServiceName.value, List.mem_cons,
        List.not_mem_nil, or_false] at hmem
      rcases hmem with rfl | rfl | rfl | rfl | rfl | rfl | rfl | rfl <;>
        first | exact .nothing | exact .value transfers_alike
    · have htransfers : (name == "transfers") = false := by
        apply beq_eq_false_iff_ne.mpr
        intro heq
        subst heq
        exact hname (by decide)
      have hnothing : ∀ value nested : List (String × Obj), nested.lookup name = none →
          said value nested name = none := by
        intro value nested hnested
        rw [said, if_neg hname, hnested]
        rfl
      rw [hnothing shortSpelling [] rfl, hnothing longSpelling _
        (by rw [List.lookup_cons, htransfers]; rfl)]
      exact .nothing

end JibitSdk.Guarantees
