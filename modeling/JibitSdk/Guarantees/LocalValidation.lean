import JibitSdk.Guarantees.ForwardCompatible
import JibitSdk.Guarantees.World
import JibitSdk.Sdk.Services.Requests

/-!
# Calls that fail before they send

A facade method that builds its request ends with a request for the executor or with a validation
error of the SDK.  What could come between are the exceptions Pydantic lets through: those of a
validator that are no `ValueError`, and those of a dump.
-/

namespace JibitSdk.Guarantees

open JibitSdk.Python JibitSdk.Reasoning JibitSdk.Sdk JibitSdk.Sdk.ResponseModels
  JibitSdk.Sdk.RequestModels

/-! ## 1. Outcomes inside the hierarchy -/

/-- A result, or a validation error of the SDK. -/
def Contained {α : Type} : Except PyError α → Prop
  | .ok _ => True
  | .error (.jibit e) => e.kind = .validation
  | .error (.builtin _) => False

section
variable {α β : Type} {x : Except PyError α} {f : α → Except PyError β}

theorem contained_bind (hx : Contained x) (hf : ∀ a, x = .ok a → Contained (f a)) :
    Contained (x >>= f) := by
  cases x with
  | ok a => exact hf a rfl
  | error e => cases e <;> exact hx

theorem contained_of_bind (h : Contained (x >>= f)) : Contained x := by
  cases x with
  | ok a => trivial
  | error e => cases e <;> exact h

end

/-! ## 2. Fields of a validated request -/

section
variable {c : Coercions} {rt : Runtime}

/-- A field of a validated record was validated from its key, or is its default. -/
theorem attr_of_validate {fields : List (Field × Schema)} {entries values : List (String × Obj)}
    (h : validateFields c fields entries = some values)
    (hnames : (fields.map fun field => field.1.name).Nodup) {field : Field × Schema}
    (hfield : field ∈ fields) :
    (field.1.find entries).elim field.1.default (fun found => field.2.validate c found.2) =
      some ((Obj.obj values).attr field.1.name) := by
  induction fields generalizing values with
  | nil => exact absurd hfield List.not_mem_nil
  | cons first fields ih =>
    obtain ⟨value, rest, hvalue, hrest, rfl⟩ := validateFields_cons_iff.mp h
    rw [List.map_cons, List.nodup_cons] at hnames
    rcases List.mem_cons.mp hfield with heq | hmem
    · rw [heq, hvalue]
      show some value = some (((first.1.name, value) :: rest).lookup first.1.name |>.getD .null)
      rw [List.lookup_cons_self]
      rfl
    · have hne : field.1.name ≠ first.1.name := by
        intro hname
        exact hnames.1 (hname ▸ List.mem_map_of_mem hmem)
      rw [ih hrest hnames.2 hmem]
      show some ((rest.lookup field.1.name).getD .null) =
        some (((first.1.name, value) :: rest).lookup field.1.name |>.getD .null)
      rw [List.lookup_cons, beq_false_of_ne hne]

/-- A validated record is read from a dict its policy accepts. -/
theorem validate_record {extra : Extra} {fields : List (Field × Schema)}
    {entries : List (String × Obj)} {self : Obj}
    (h : (Schema.record extra fields).validate c (.obj entries) = some self) :
    ∃ values, self = .obj values ∧ validateFields c fields entries = some values := by
  rw [Schema.validate] at h
  by_cases hrefused : refusesKeys extra fields entries = true
  · rw [if_pos hrefused] at h
    cases h
  · rw [if_neg hrefused] at h
    obtain ⟨values, hvalues, hself⟩ := Option.map_eq_some_iff.mp h
    exact ⟨values, hself.symm, hvalues⟩

/-! ## 3. Dumps -/

mutual

/-- No value of type `Any` occurs. -/
def Dumpable : Schema → Bool
  | .plain .dict => false
  | .plain .anyList => false
  | .plain _ => true
  | .union _ => true
  | .nullable inner => Dumpable inner
  | .list _ _ item => Dumpable item
  | .record _ fields => DumpableFields fields
  | .checked inner _ => Dumpable inner

def DumpableFields : List (Field × Schema) → Bool
  | [] => true
  | (_, type) :: fields => Dumpable type && DumpableFields fields

end

theorem mapM_ok {ε α β : Type} {f : α → Except ε β} (h : ∀ item, ∃ out, f item = .ok out)
    (items : List α) : ∃ outs, items.mapM f = .ok outs := by
  induction items with
  | nil => exact ⟨[], rfl⟩
  | cons item items ih =>
    obtain ⟨out, hout⟩ := h item
    obtain ⟨outs, houts⟩ := ih
    rw [List.mapM_cons, hout]
    exact ⟨out :: outs, by show (items.mapM f >>= _) = _; rw [houts]; rfl⟩

/-- A record is dumped exactly when each of its present fields is. -/
theorem dumpFields_ok_iff (fields : List (Field × Schema)) (self : Obj) :
    (∃ payload, dumpFields c fields self = .ok payload) ↔
      ∀ field ∈ fields, (self.attr field.1.name).isNull = true ∨
        ∃ out, field.2.dump c (self.attr field.1.name) = .ok out := by
  -- the first field whose dump raises ends the loop
  induction fields with
  | nil => exact ⟨fun _ _ h => absurd h List.not_mem_nil, fun _ => ⟨[], rfl⟩⟩
  | cons first fields ih =>
    rw [List.forall_mem_cons, ← ih, dumpFields]
    by_cases hnull : (self.attr first.1.name).isNull = true
    · rw [if_pos hnull]
      exact ⟨fun h => ⟨.inl hnull, h⟩, fun h => h.2⟩
    · rw [if_neg hnull]
      cases hfirst : first.2.dump c (self.attr first.1.name) with
      | error e =>
        constructor
        · intro h
          obtain ⟨payload, hpayload⟩ := h
          cases hpayload
        · intro h
          rcases h.1 with hnull' | ⟨out, hout⟩
          · exact absurd hnull' hnull
          · cases hout
      | ok out =>
        cases dumpFields c fields self with
        | error e =>
          constructor
          · intro h
            obtain ⟨payload, hpayload⟩ := h
            cases hpayload
          · intro h
            obtain ⟨payload, hpayload⟩ := h.2
            cases hpayload
        | ok payload => exact ⟨fun _ => ⟨.inr ⟨out, rfl⟩, payload, rfl⟩, fun _ => ⟨_, rfl⟩⟩

mutual

-- by the schema; only values of type `Any` can fail to be dumped
theorem dump_ok : ∀ (schema : Schema) (value : Obj), Dumpable schema = true →
    ∃ out, schema.dump c value = .ok out
  | .plain type, value, h => by
    cases type <;> first | exact ⟨_, rfl⟩ | cases h
  | .union _, value, _ => ⟨_, rfl⟩
  | .nullable inner, value, h => by
    rw [Dumpable] at h
    rw [Schema.dump]
    cases value.isNull
    · exact dump_ok inner value h
    · exact ⟨_, rfl⟩
  | .list _ _ item, value, h => by
    rw [Dumpable] at h
    cases value with
    | arr items =>
      obtain ⟨outs, houts⟩ := mapM_ok (fun value => dump_ok item value h) items
      rw [Schema.dump, houts]
      exact ⟨_, rfl⟩
    | _ => exact ⟨_, rfl⟩
  | .record _ fields, value, h => by
    rw [Dumpable] at h
    obtain ⟨payload, hpayload⟩ := (dumpFields_ok_iff fields value).mpr
      fun field hfield => .inr (dumpField_ok fields h field hfield _)
    rw [Schema.dump, hpayload]
    exact ⟨_, rfl⟩
  | .checked inner _, value, h => by
    rw [Dumpable] at h
    rw [Schema.dump]
    exact dump_ok inner value h

theorem dumpField_ok : ∀ (fields : List (Field × Schema)), DumpableFields fields = true →
    ∀ field ∈ fields, ∀ value, ∃ out, field.2.dump c value = .ok out
  | [], _, _, hfield, _ => absurd hfield List.not_mem_nil
  | (_, type) :: fields, h, field, hfield, value => by
    rw [DumpableFields, Bool.and_eq_true] at h
    rcases List.mem_cons.mp hfield with heq | hmem
    · rw [heq]
      exact dump_ok type value h.1
    · exact dumpField_ok fields h.2 field hmem value

end

/-! ## 4. Validation -/

/-- Validating these values ends with an instance or with a validation error. -/
def Settled (c : Coercions) (m : ModelClass) (values : List (String × Obj)) : Prop :=
  ∀ e, m.modelValidate c (.obj values) ≠ .error e

theorem validateRequest_contained_iff {m : ModelClass} {values : List (String × Obj)}
    {context : CallContext} :
    Contained (validateRequest rt c m values context) ↔ Settled c m values := by
  unfold validateRequest Settled
  cases hvalidate : m.modelValidate c (.obj values) with
  | error e => exact ⟨fun h => absurd h not_false, fun h => absurd rfl (h e)⟩
  | ok found =>
    have hok : ∀ e, (Except.ok found : Except BuiltinError (Option Obj)) ≠ .error e := by
      intro e h
      cases h
    cases found with
    | none => exact ⟨fun _ => hok, fun _ => rfl⟩
    | some self => exact ⟨fun _ => hok, fun _ => trivial⟩

theorem validateRequest_eq_ok_iff {m : ModelClass} {values : List (String × Obj)}
    {context : CallContext} {self : Obj} :
    validateRequest rt c m values context = .ok self ↔
      m.modelValidate c (.obj values) = .ok (some self) := by
  unfold validateRequest
  cases m.modelValidate c (.obj values) with
  | error e => exact ⟨fun h => (by cases h), fun h => (by cases h)⟩
  | ok found =>
    cases found with
    | none => exact ⟨fun h => (by cases h), fun h => (by cases h)⟩
    | some found => exact ⟨fun h => (by cases h; rfl), fun h => (by cases h; rfl)⟩

/-- A validation is unsettled by what its `after` validator raises besides `ValueError`s. -/
theorem checkedClass_settled_iff {schema : Schema} {after : Obj → Except BuiltinError Unit}
    {values : List (String × Obj)} : Settled c (checkedClass schema after) values ↔
      ∀ self, schema.validate c (.obj values) = some self → ∀ e, after self = .error e →
        e.isValueError = true := by
  have hmodel : (checkedClass schema after).modelValidate c (.obj values) =
      (schema.validate c (.obj values)).elim (.ok none)
        fun self => validated self (after self) := rfl
  unfold Settled
  rw [hmodel]
  -- the validators run on what the fields validated to
  cases schema.validate c (.obj values) with
  | none =>
    constructor
    · intro _ self h
      cases h
    · intro _ e h
      cases h
  | some self =>
    rw [Option.elim_some]
    have hvalidated : (∀ e, validated self (after self) ≠ .error e) ↔
        ∀ e, after self = .error e → e.isValueError = true := by
      cases after self with
      | ok _ => exact ⟨fun _ e h => (by cases h), fun _ e h => (by cases h)⟩
      | error raised =>
        rw [validated, validatorError]
        -- Pydantic turns a `ValueError` into its own error and lets the others pass
        cases hraised : raised.isValueError
        · constructor
          · exact fun h => absurd rfl (h raised)
          · intro h
            have htrue := h raised rfl
            rw [hraised] at htrue
            cases htrue
        · constructor
          · intro _ e h
            rw [← Except.error.inj h]
            exact hraised
          · intro _ e h
            cases h
    rw [hvalidated]
    constructor
    · intro h found hfound
      rw [← Option.some.inj hfound]
      exact h
    · exact fun h => h self rfl

theorem raiseIf_error {wrong : Bool} {e : BuiltinError} (h : raiseIf wrong = .error e) :
    e.isValueError = true := by
  cases wrong <;> cases h
  rfl

theorem settled_of_raiseIf {schema : Schema} {after : Obj → Except BuiltinError Unit}
    (h : ∀ self, ∃ wrong, after self = raiseIf wrong) (values : List (String × Obj)) :
    Settled c (checkedClass schema after) values := by
  rw [checkedClass_settled_iff]
  intro self _ e he
  obtain ⟨wrong, hwrong⟩ := h self
  rw [hwrong] at he
  exact raiseIf_error he

theorem plainClass_settled (schema : Schema) (values : List (String × Obj)) :
    Settled c (plainClass schema) values := by
  apply settled_of_raiseIf
  exact fun _ => ⟨false, rfl⟩

/-! ## 5. Requests -/

theorem payloadOf_contained {m : ModelClass} (h : Dumpable m.schema = true) (self : Obj) :
    Contained (payloadOf c m self) := by
  unfold payloadOf
  cases hschema : m.schema with
  | record extra fields =>
    rw [hschema, Dumpable] at h
    obtain ⟨payload, hpayload⟩ := (dumpFields_ok_iff (c := c) fields self).mpr
      fun field hfield => .inr (dumpField_ok fields h field hfield _)
    show Contained (uncaught (dumpFields c fields self))
    rw [hpayload]
    trivial
  | _ => trivial

/-- Validate, dump, go on with the payload. -/
theorem submitted {α : Type} {m : ModelClass} {values : List (String × Obj)}
    {context : CallContext} (hsettled : Settled c m values) (hdump : Dumpable m.schema = true)
    (finish : List (String × Json) → α) :
    Contained (validateRequest rt c m values context >>= fun request =>
      payloadOf c m request >>= fun payload => pure (finish payload)) := by
  apply contained_bind (validateRequest_contained_iff.mpr hsettled)
  intro request _
  apply contained_bind (payloadOf_contained hdump request)
  exact fun payload _ => trivial

/-- Validate, go on with the instance. -/
theorem asked {α : Type} {m : ModelClass} {values : List (String × Obj)} {context : CallContext}
    (hsettled : Settled c m values) (finish : Obj → α) :
    Contained (validateRequest rt c m values context >>= fun request => pure (finish request)) := by
  apply contained_bind (validateRequest_contained_iff.mpr hsettled)
  exact fun request _ => trivial

/-! ## 6. Validators that compare -/

/-- No exception but a `ValueError`. -/
def OnlyValueErrors {α : Type} (x : Except BuiltinError α) : Prop :=
  ∀ e, x = .error e → e.isValueError = true

theorem onlyValueErrors_ok {α : Type} (a : α) :
    OnlyValueErrors (.ok a : Except BuiltinError α) := by
  intro e h
  cases h

theorem onlyValueErrors_raiseIf (wrong : Bool) : OnlyValueErrors (raiseIf wrong) :=
  fun _ h => raiseIf_error h

theorem onlyValueErrors_bind {α β : Type} {x : Except BuiltinError α}
    {f : α → Except BuiltinError β} (hx : OnlyValueErrors x) (hf : ∀ a, OnlyValueErrors (f a)) :
    OnlyValueErrors (x >>= f) := by
  cases x with
  | ok a => exact hf a
  | error raised =>
    intro e h
    cases h
    exact hx raised rfl

/-- Naive and aware do not compare, all else does. -/
theorem gt_eq_ok_iff (a b : DateTime) :
    (∃ later, a.gt b = .ok later) ↔ a.isAware = b.isAware := by
  unfold DateTime.gt DateTime.isAware
  -- comparing an aware with a naive datetime is the `TypeError`
  cases a.zone with
  | none =>
    cases b.zone with
    | none => exact ⟨fun _ => rfl, fun _ => ⟨_, rfl⟩⟩
    | some zone =>
      constructor
      · intro h
        obtain ⟨later, hlater⟩ := h
        cases hlater
      · intro h
        cases h
  | some zone =>
    cases b.zone with
    | none =>
      constructor
      · intro h
        obtain ⟨later, hlater⟩ := h
        cases hlater
      · intro h
        cases h
    | some zone' =>
      constructor
      · exact fun _ => rfl
      · intro _
        by_cases hzone : zone.1 = zone'.1
        · exact ⟨_, if_pos hzone⟩
        · exact ⟨_, if_neg hzone⟩

theorem gt_error {a b : DateTime} (h : a.isAware ≠ b.isAware) : a.gt b = .error .typeError := by
  unfold DateTime.gt
  unfold DateTime.isAware at h
  cases hzone : a.zone <;> cases hzone' : b.zone
  · rw [hzone, hzone'] at h
    exact absurd rfl h
  · rfl
  · rfl
  · rw [hzone, hzone'] at h
    exact absurd rfl h

theorem lax_str {minLength : ℕ} {maxLength : Option ℕ} {pattern : Option String} {value out : Obj}
    (h : (FieldType.str minLength maxLength pattern).lax c value = some out) :
    ∃ s, out = .str s := by
  obtain ⟨read, -, h⟩ := FieldType.lax_eq_some_iff.mp h
  cases read with
  | str s =>
    rw [FieldType.convert] at h
    obtain ⟨-, hout⟩ := Option.ite_none_right_eq_some.mp h
    exact ⟨s, (Option.some.inj hout).symm⟩
  | _ => cases h

theorem lax_int {least most : Option ℤ} {value out : Obj}
    (h : (FieldType.int least most).lax c value = some out) : ∃ n, out = .int n := by
  obtain ⟨read, -, h⟩ := FieldType.lax_eq_some_iff.mp h
  rw [FieldType.convert] at h
  obtain ⟨n, -, hout⟩ := Option.map_eq_some_iff.mp h
  exact ⟨n, hout.symm⟩

theorem lax_awareDatetime {value out : Obj} (h : FieldType.awareDatetime.lax c value = some out) :
    ∃ t, out = .datetime t ∧ t.isAware = true := by
  obtain ⟨read, -, h⟩ := FieldType.lax_eq_some_iff.mp h
  rw [FieldType.convert] at h
  obtain ⟨t, ht, hout⟩ := Option.map_eq_some_iff.mp h
  exact ⟨t, hout.symm, (Option.filter_eq_some_iff.mp ht).2⟩

/-- A field whose type is checked by these facts, read or defaulted. -/
theorem attr_cases {extra : Extra} {fields : List (Field × Schema)} {entries : List (String × Obj)}
    {self : Obj} (h : (Schema.record extra fields).validate c (.obj entries) = some self)
    (hnames : (fields.map fun field => field.1.name).Nodup) {field : Field × Schema}
    (hfield : field ∈ fields) :
    field.1.default = some (self.attr field.1.name) ∨
      ∃ value, field.2.validate c value = some (self.attr field.1.name) := by
  obtain ⟨values, hself, hvalues⟩ := validate_record h
  have hattr := attr_of_validate hvalues hnames hfield
  rw [hself]
  cases hfind : field.1.find entries with
  | none =>
    rw [hfind] at hattr
    exact .inl hattr
  | some found =>
    rw [hfind] at hattr
    exact .inr ⟨found.2, hattr⟩

theorem nullable_cases {inner : Schema} {value out : Obj}
    (h : (Schema.nullable inner).validate c value = some out) :
    out.isNull = true ∨ inner.validate c value = some out := by
  rw [Schema.validate] at h
  by_cases hnull : value.isNull = true
  · rw [if_pos hnull] at h
    rw [← Option.some.inj h]
    exact .inl rfl
  · rw [if_neg hnull] at h
    exact .inr h

/-- An optional field that is given holds what its type makes of a value. -/
theorem optional_attr {extra : Extra} {fields : List (Field × Schema)}
    {entries : List (String × Obj)} {self : Obj} {name key : String} {type : FieldType}
    (h : (Schema.record extra fields).validate c (.obj entries) = some self)
    (hnames : (fields.map fun field => field.1.name).Nodup)
    (hfield : optionalAs name (.plain type) key ∈ fields) :
    (self.attr name).isNull = true ∨ ∃ value, type.lax c value = some (self.attr name) := by
  rcases attr_cases h hnames hfield with hdefault | ⟨value, hvalue⟩
  · have hnull : Obj.null = self.attr name := Option.some.inj hdefault
    rw [← hnull]
    exact .inl rfl
  · rcases nullable_cases hvalue with hnull | hvalue
    · exact .inl hnull
    · exact .inr ⟨value, hvalue⟩

theorem filterClass_settled (values : List (String × Obj)) : Settled c filterClass values := by
  unfold filterClass
  rw [checkedClass_settled_iff]
  intro self hself
  have hfrom : (self.attr "from_time").isNull = true ∨
      ∃ value, FieldType.awareDatetime.lax c value = some (self.attr "from_time") :=
    optional_attr hself (by decide) (.tail _ (.head _))
  have hto : (self.attr "to_time").isNull = true ∨
      ∃ value, FieldType.awareDatetime.lax c value = some (self.attr "to_time") :=
    optional_attr hself (by decide) (.tail _ (.tail _ (.head _)))
  show OnlyValueErrors (validateTimeRange self)
  unfold validateTimeRange
  by_cases hnull : (self.attr "from_time").isNull = true ∨ (self.attr "to_time").isNull = true
  · rw [if_pos hnull]
    exact onlyValueErrors_ok ()
  · rw [if_neg hnull]
    obtain ⟨a, ha, haware⟩ :=
      lax_awareDatetime (hfrom.resolve_left fun h => hnull (.inl h)).choose_spec
    obtain ⟨b, hb, haware'⟩ :=
      lax_awareDatetime (hto.resolve_left fun h => hnull (.inr h)).choose_spec
    obtain ⟨later, hlater⟩ := (gt_eq_ok_iff a b).mpr (haware.trans haware'.symm)
    rw [ha, hb, greater, hlater]
    exact onlyValueErrors_raiseIf later

theorem mandateClass_settled (values : List (String × Obj)) : Settled c mandateClass values := by
  unfold mandateClass
  rw [checkedClass_settled_iff]
  intro self hself
  have hstart : ∃ s, self.attr "start_date" = .str s := by
    rcases attr_cases hself (by decide)
      (.tail _ (.tail _ (.tail _ (.tail _ (.tail _ (.head _)))))) with hdefault | ⟨value, hvalue⟩
    · cases hdefault
    · exact lax_str hvalue
  have hexpire : ∃ s, self.attr "expire_date" = .str s := by
    rcases attr_cases hself (by decide)
      (.tail _ (.tail _ (.tail _ (.tail _ (.tail _ (.tail _ (.head _))))))) with
      hdefault | ⟨value, hvalue⟩
    · cases hdefault
    · exact lax_str hvalue
  obtain ⟨start, hstart⟩ := hstart
  obtain ⟨expire, hexpire⟩ := hexpire
  show OnlyValueErrors (validateDateRange self)
  rw [validateDateRange, hstart, hexpire]
  exact onlyValueErrors_raiseIf _

theorem purchaseClass_settled (values : List (String × Obj)) : Settled c purchaseClass values := by
  unfold purchaseClass
  rw [checkedClass_settled_iff]
  intro self hself
  have hamount : ∃ n, self.attr "amount" = .int n := by
    rcases attr_cases hself (by decide) (.head _) with hdefault | ⟨value, hvalue⟩
    · cases hdefault
    · exact lax_int hvalue
  have hwage : ∃ n, self.attr "wage" = .int n := by
    rcases attr_cases hself (by decide) (.tail _ (.tail _ (.tail _ (.head _)))) with
      hdefault | ⟨value, hvalue⟩
    · exact ⟨0, (Option.some.inj hdefault).symm⟩
    · exact lax_int hvalue
  obtain ⟨amount, hamount⟩ := hamount
  obtain ⟨wage, hwage⟩ := hwage
  show OnlyValueErrors (validatePurchaseConstraints self)
  rw [validatePurchaseConstraints, hamount, hwage]
  apply onlyValueErrors_bind (onlyValueErrors_raiseIf _)
  intro _
  apply onlyValueErrors_bind (onlyValueErrors_raiseIf _)
  intro _
  apply onlyValueErrors_bind (onlyValueErrors_raiseIf _)
  exact fun _ => onlyValueErrors_raiseIf _

/-- Purchases are filtered without dates. -/
theorem purchaseFilterClass_settled {values : List (String × Obj)}
    (hdates : values.lookup "from" = none ∧ values.lookup "from_" = none) :
    Settled c purchaseFilterClass values := by
  unfold purchaseFilterClass
  rw [checkedClass_settled_iff]
  intro self hself
  obtain ⟨found, hfound, hvalues⟩ := validate_record hself
  have hfrom := attr_of_validate hvalues (by decide)
    (.tail _ (.tail _ (.tail _ (.tail _ (.tail _ (.tail _ (.tail _ (.head _))))))))
  have hfind : (optionalAs "from_" (.plain .datetime) "from").1.find values = none := by
    show List.findSome? _ ["from", "from_"] = none
    rw [List.findSome?_cons, List.findSome?_cons, hdates.1, hdates.2]
    rfl
  rw [hfind, ← hfound] at hfrom
  have hnull : Obj.null = self.attr "from_" := Option.some.inj hfrom
  show OnlyValueErrors (validatePurchaseDates self)
  rw [validatePurchaseDates, ← hnull]
  exact onlyValueErrors_ok ()

/-! ## 7. Service by service -/

theorem selectorClass_settled (values : List (String × Obj)) : Settled c selectorClass values := by
  apply settled_of_raiseIf
  exact fun self => ⟨_, rfl⟩

theorem transferCall_contained (call : TransferCall) : Contained (call.prepare rt c) := by
  cases call with
  | submitBatch => exact submitted (plainClass_settled _ _) rfl _
  | inquire => exact submitted (selectorClass_settled _) rfl _
  | cancel => exact submitted (selectorClass_settled _) rfl _
  | retryFailed => exact submitted (selectorClass_settled _) rfl _
  | filterTransfers => exact submitted (filterClass_settled _) rfl _
  | setReceiptEnabled => exact submitted (selectorClass_settled _) rfl _
  | getDailyUsageReport => exact submitted (plainClass_settled _ _) rfl _
  | generateBatch => exact submitted (plainClass_settled _ _) rfl _

theorem mapM_some_length {α β : Type} {f : α → Option β} {items : List α} {outs : List β}
    (h : items.mapM f = some outs) : outs.length = items.length := by
  induction items generalizing outs with
  | nil =>
    cases h
    rfl
  | cons item items ih =>
    rw [List.mapM_cons] at h
    obtain ⟨out, -, h⟩ := Option.bind_eq_some_iff.mp h
    obtain ⟨rest, hrest, h⟩ := Option.bind_eq_some_iff.mp h
    rw [← Option.some.inj h, List.length_cons, List.length_cons, ih hrest]

/-- A validated list has its minimal length. -/
theorem list_validate {minLength : ℕ} {maxLength : Option ℕ} {item : Schema} {value out : Obj}
    (h : (Schema.list minLength maxLength item).validate c value = some out) :
    ∃ items, out = .arr items ∧ minLength ≤ items.length := by
  cases value with
  | arr items =>
    rw [Schema.validate] at h
    by_cases hlength : minLength ≤ items.length ∧ maxLength.all (items.length ≤ ·)
    · rw [if_pos hlength] at h
      obtain ⟨outs, houts, hout⟩ := Option.map_eq_some_iff.mp h
      exact ⟨outs, hout.symm, (mapM_some_length houts).symm ▸ hlength.1⟩
    · rw [if_neg hlength] at h
      cases h
  | _ =>
    rw [Schema.validate] at h
    · cases h
    · simp

theorem trackId_contained (value : Obj) (operation : String) :
    Contained (trackId rt c value operation) := by
  apply contained_bind (validateRequest_contained_iff.mpr (plainClass_settled _ _))
  intro request hrequest
  obtain ⟨read, hread, hvalidate, -⟩ :=
    modelValidate_eq_some_iff.mp (validateRequest_eq_ok_iff.mp hrequest)
  rw [← Except.ok.inj hread] at hvalidate
  have htracks : ∃ items, request.attr "track_ids" = .arr items ∧ 1 ≤ items.length := by
    rcases attr_cases hvalidate (by decide) (.head _) with hdefault | ⟨value, hvalue⟩
    · cases hdefault
    · exact list_validate hvalue
  obtain ⟨items, hitems, hlength⟩ := htracks
  rw [hitems]
  cases items with
  | nil => cases hlength
  | cons track items => trivial

theorem cobankReference_contained (value operation : String) :
    Contained (cobankReferenceOf rt c value operation) :=
  asked (plainClass_settled _ _) _

theorem cobankCall_contained (call : CobankCall) : Contained (call.prepare rt c) := by
  cases call with
  | createSettlement => exact submitted (plainClass_settled _ _) rfl _
  | inquireSettlement track _ =>
    apply contained_bind (trackId_contained track _)
    exact fun _ _ => trivial
  | batchInquireSettlements => exact submitted (plainClass_settled _ _) rfl _
  | listSettlements => exact submitted (plainClass_settled _ _) rfl _
  | setSettlementReceipt number _ =>
    apply contained_bind (cobankReference_contained number _)
    exact fun _ _ => trivial
  | setRecordReceipt number recordNumber _ =>
    apply contained_bind (cobankReference_contained number _)
    intro reference _
    apply contained_bind (cobankReference_contained recordNumber _)
    exact fun _ _ => trivial

theorem createMandate_contained (mandateType : MandateType) (values : List (String × Obj)) :
    Contained (createMandateOfType rt c mandateType values) := by
  apply contained_bind (validateRequest_contained_iff.mpr (mandateClass_settled _))
  intro request _
  cases (requiredMandateFields mandateType).find? fun field => (request.attr field.1).isNull with
  | some field => exact (rfl : JibitErrorKind.validation = _)
  | none =>
    apply contained_bind (payloadOf_contained rfl request)
    exact fun _ _ => trivial

theorem directDebitCall_contained (call : DirectDebitCall) : Contained (call.prepare rt c) := by
  cases call with
  | createMandate mandateType values =>
    show Contained ((mandateTypeOf mandateType).elim _ _)
    cases mandateTypeOf mandateType with
    | none => exact (rfl : JibitErrorKind.validation = _)
    | some mandateType => exact createMandate_contained mandateType values
  | collect => exact submitted (plainClass_settled _ _) rfl _
  | acceptBlueBankCallback => exact submitted (plainClass_settled _ _) rfl _

theorem smsUuid_contained (value : Obj) (operation : String) :
    Contained (smsUuid rt c value operation) :=
  asked (plainClass_settled _ _) _

theorem contractCall_contained (call : ContractCall) : Contained (call.prepare rt c) := by
  have hreference : ∀ track realIp operation (finish : String → List (String × String) →
      RequestOptions), Contained (contractTrackId rt c track operation >>= fun track =>
        realIpHeader rt c realIp operation >>= fun headers => pure (finish track headers)) := by
    intro track realIp operation finish
    apply contained_bind (asked (plainClass_settled _ _) _)
    intro track _
    apply contained_bind (asked (plainClass_settled _ _) _)
    exact fun _ _ => trivial
  cases call with
  | initiate =>
    apply contained_bind (validateRequest_contained_iff.mpr (plainClass_settled _ _))
    intro request _
    apply contained_bind (payloadOf_contained rfl request)
    intro payload _
    apply contained_bind (asked (plainClass_settled _ _) _)
    exact fun _ _ => trivial
  | inquire => exact hreference _ _ _ _
  | cancel => exact hreference _ _ _ _
  | downloadSigned => exact hreference _ _ _ _

theorem identicatorCall_contained (call : IdenticatorCall) : Contained (call.prepare rt c) := by
  cases call with
  | matchIdentifiers => exact submitted (settled_of_raiseIf (fun _ => ⟨_, rfl⟩) _) rfl _
  | compareIdentityNames => exact submitted (settled_of_raiseIf (fun _ => ⟨_, rfl⟩) _) rfl _

/-! ## 8. The calls that may raise more -/

/-- The validated query of `fetch_inbound`. -/
theorem inboundQuery_validate (fromDate toDate : DateTime) (page : ℤ) :
    inboundQuery.validate c (.obj [("from_date", .datetime fromDate), ("to_date", .datetime toDate),
      ("page", .int page)]) =
    if 0 ≤ page then some (.obj [("from_date", .datetime fromDate), ("to_date", .datetime toDate),
      ("page", .int page)]) else none := by
  have hlax : (FieldType.int (some 0)).lax c (.int page) =
      if 0 ≤ page then some (.int page) else none := by
    by_cases hpage : 0 ≤ page <;>
      simp [FieldType.lax, FieldType.readAs, FieldType.convert, FieldType.integer,
        Option.filter, hpage]
  show Option.map Obj.obj (Option.bind (some (.datetime fromDate)) fun x =>
    Option.bind (Option.bind (some (.datetime toDate)) fun y =>
      Option.bind (Option.bind ((FieldType.int (some 0)).lax c (.int page)) fun z =>
        Option.bind (some []) fun rest => some (("page", z) :: rest)) fun rest =>
          some (("to_date", y) :: rest)) fun rest => some (("from_date", x) :: rest)) = _
  rw [hlax]
  by_cases hpage : 0 ≤ page <;> simp [hpage]

theorem fetchInbound_contained_iff (fromDate toDate : DateTime) (page : ℤ) :
    Contained ((SmsCall.fetchInbound fromDate toDate page).prepare rt c) ↔
      fromDate.isAware = toDate.isAware ∨ page < 0 := by
  have hsettled : Settled c inboundClass [("from_date", .datetime fromDate),
      ("to_date", .datetime toDate), ("page", .int page)] ↔
        fromDate.isAware = toDate.isAware ∨ page < 0 := by
    unfold inboundClass
    rw [checkedClass_settled_iff, inboundQuery_validate]
    -- a page below zero is refused by its field, before the dates are compared
    by_cases hpage : 0 ≤ page
    · rw [if_pos hpage]
      have hrange : ∀ self, some (Obj.obj [("from_date", .datetime fromDate),
          ("to_date", .datetime toDate), ("page", .int page)]) = some self →
            validateRange self = (fromDate.gt toDate >>= fun later => raiseIf later) := by
        intro self hself
        rw [← Option.some.inj hself]
        rfl
      by_cases haware : fromDate.isAware = toDate.isAware
      · obtain ⟨later, hlater⟩ := (gt_eq_ok_iff fromDate toDate).mpr haware
        constructor
        · exact fun _ => .inl haware
        · intro _ self hself
          rw [hrange self hself, hlater]
          exact onlyValueErrors_raiseIf later
      · constructor
        · intro h
          -- the comparison raises a `TypeError`, which no clause turns into the SDK's error
          have hraises := hrange _ rfl
          rw [gt_error haware] at hraises
          exact absurd (h _ rfl .typeError hraises) (by decide)
        · intro h
          exact absurd (h.resolve_left haware) (not_lt.mpr hpage)
    · rw [if_neg hpage]
      constructor
      · exact fun _ => .inr (not_le.mp hpage)
      · intro _ self hself
        cases hself
  rw [← hsettled]
  constructor
  · intro h
    exact validateRequest_contained_iff.mp (contained_of_bind h)
  · exact fun h => submitted h rfl _

theorem smsCall_contained (call : SmsCall)
    (h : ∀ fromDate toDate page, call ≠ .fetchInbound fromDate toDate page) :
    Contained (call.prepare rt c) := by
  cases call with
  | send => exact submitted (plainClass_settled _ _) rfl _
  | sendPattern => exact submitted (plainClass_settled _ _) rfl _
  | createBulk => exact submitted (settled_of_raiseIf (fun _ => ⟨_, rfl⟩) _) rfl _
  | getStatus messageId =>
    apply contained_bind (smsUuid_contained messageId _)
    exact fun _ _ => trivial
  | getStatusByClientId =>
      exact contained_bind (asked (plainClass_settled _ _) _) fun _ _ => trivial
  | getBulk bulkId =>
    apply contained_bind (smsUuid_contained bulkId _)
    exact fun _ _ => submitted (plainClass_settled _ _) rfl _
  | fetchInbound fromDate toDate page => exact absurd rfl (h fromDate toDate page)

/-- The additional data of a validated purchase is the argument. -/
theorem purchase_additionalData {arguments : PurchaseArguments} {self : Obj}
    (h : createPurchaseRequest.validate c (.obj arguments.values) = some self) :
    self.attr "additional_data" = arguments.additionalData.elim .null .obj := by
  obtain ⟨values, hself, hvalues⟩ := validate_record h
  have hattr := attr_of_validate hvalues (by decide) (.tail _ (.tail _ (.tail _ (.tail _
    (.tail _ (.tail _ (.tail _ (.tail _ (.tail _ (.tail _ (.tail _ (.tail _ (.head _)))))))))))))
  rw [hself]
  have hfind : (optional "additional_data" (.plain .dict)).1.find arguments.values =
      some ("additional_data", arguments.additionalData.elim .null .obj) := rfl
  rw [hfind] at hattr
  cases hdata : arguments.additionalData with
  | none =>
    rw [hdata] at hattr
    exact (Option.some.inj hattr).symm
  | some data =>
    rw [hdata] at hattr
    exact (Option.some.inj hattr).symm

theorem contained_validationError {α : Type} (context : CallContext) (message : String) :
    Contained (.error (context.error rt message) : Except PyError α) :=
  rfl

theorem contained_uncaught_iff {α : Type} {x : Except BuiltinError α} :
    Contained (uncaught x) ↔ ∃ a, x = .ok a := by
  cases x with
  | ok a => exact ⟨fun _ => ⟨a, rfl⟩, fun _ => trivial⟩
  | error e =>
    constructor
    · intro h
      exact absurd h not_false
    · intro h
      obtain ⟨a, ha⟩ := h
      cases ha

/-- The one field of a purchase that takes any object. -/
theorem purchase_fields {extra : Extra} {fields : List (Field × Schema)}
    (hfields : createPurchaseRequest = .record extra fields) :
    optional "additional_data" (.plain .dict) ∈ fields ∧ ∀ field ∈ fields,
      Dumpable field.2 = true ∨ field = optional "additional_data" (.plain .dict) := by
  have hmem : optional "additional_data" (.plain .dict) ∈ fields := by
    cases hfields
    exact .tail _ (.tail _ (.tail _ (.tail _ (.tail _ (.tail _ (.tail _ (.tail _ (.tail _ (.tail _
      (.tail _ (.tail _ (.head _))))))))))))
  have hnames : (fields.map fun field => field.1.name).Nodup := by
    cases hfields
    decide
  have hall : (fields.all fun field =>
      Dumpable field.2 || decide (field.1.name = "additional_data")) = true := by
    cases hfields
    decide
  refine ⟨hmem, fun field hfield => ?_⟩
  have hfield' := List.all_eq_true.mp hall field hfield
  rw [Bool.or_eq_true, decide_eq_true_iff] at hfield'
  exact hfield'.imp_right fun hname => List.inj_on_of_nodup_map hnames hfield hmem hname

/-- What a validated purchase needs to be dumped. -/
theorem purchase_payload_contained_iff {arguments : PurchaseArguments} {self : Obj}
    (h : createPurchaseRequest.validate c (.obj arguments.values) = some self) :
    Contained (payloadOf c purchaseClass self) ↔
      ∀ data, arguments.additionalData = some data → ∃ out, c.dumpAny (.obj data) = .ok out := by
  have hdata := purchase_additionalData h
  obtain ⟨hmem, hfields⟩ := purchase_fields rfl
  show Contained (uncaught (dumpFields c _ self)) ↔ _
  rw [contained_uncaught_iff, dumpFields_ok_iff]
  -- the free dictionary is the only field whose dump can raise
  have hdump : ∀ value, (optional "additional_data" (.plain .dict)).2.dump c value =
      if value.isNull = true then .ok .null else c.dumpAny value := fun _ => rfl
  constructor
  · intro hdumped data hsome
    rw [hsome] at hdata
    rcases hdumped _ hmem with hnull | ⟨out, hout⟩
    · change (self.attr "additional_data").isNull = true at hnull
      rw [hdata] at hnull
      cases hnull
    · rw [hdump] at hout
      change (if (self.attr "additional_data").isNull = true then _ else
        c.dumpAny (self.attr "additional_data")) = _ at hout
      rw [hdata] at hout
      exact ⟨out, hout⟩
  -- every other field can be dumped whatever its value
  · intro hdumped field hfield
    rcases hfields field hfield with hdumpable | rfl
    · exact .inr (dump_ok field.2 _ hdumpable)
    · change (self.attr "additional_data").isNull = true ∨
        ∃ out, _ = Except.ok out
      rw [hdump]
      change _ ∨ ∃ out, (if (self.attr "additional_data").isNull = true then _ else
        c.dumpAny (self.attr "additional_data")) = _
      rw [hdata]
      cases hsome : arguments.additionalData with
      | none => exact .inl rfl
      | some data => exact .inr (hdumped data hsome)

theorem createPurchase_contained_iff (arguments : PurchaseArguments) :
    Contained ((PaymentCall.createPurchase arguments).prepare rt c) ↔
      ∀ data, arguments.additionalData = some data →
        (∃ self, purchaseClass.modelValidate c (.obj arguments.values) = .ok (some self)) →
          ∃ out, c.dumpAny (.obj data) = .ok out := by
  have hsettled := purchaseClass_settled (c := c) arguments.values
  have hread : ∀ self, purchaseClass.modelValidate c (.obj arguments.values) = .ok (some self) →
      createPurchaseRequest.validate c (.obj arguments.values) = some self := by
    intro self hself
    obtain ⟨read, hread, hvalidate, -⟩ := modelValidate_eq_some_iff.mp hself
    rw [← Except.ok.inj hread] at hvalidate
    exact hvalidate
  constructor
  -- an accepted request is dumped next, and the dump decides
  · intro h data hdata haccepted
    obtain ⟨self, hself⟩ := haccepted
    have hpayload : Contained (payloadOf c purchaseClass self) := by
      change Contained (validateRequest rt c purchaseClass arguments.values _ >>= _) at h
      rw [validateRequest_eq_ok_iff.mpr hself] at h
      exact contained_of_bind h
    exact (purchase_payload_contained_iff (hread self hself)).mp hpayload data hdata
  · intro h
    apply contained_bind (validateRequest_contained_iff.mpr hsettled)
    intro self hself
    rw [validateRequest_eq_ok_iff] at hself
    apply contained_bind
    · rw [purchase_payload_contained_iff (hread self hself)]
      exact fun data hdata => h data hdata ⟨self, hself⟩
    · exact fun _ _ => trivial

theorem refundAction_contained_iff (action : RefundAction) (refundId : ℤ)
    (transferId : Option String) :
    Contained ((PaymentCall.refundAction action refundId transferId).prepare rt c) ↔
      refundId.natAbs < 10 ^ 4300 := by
  have htext : Contained (uncaught (intText refundId)) ↔ refundId.natAbs < 10 ^ 4300 := by
    rw [contained_uncaught_iff, intText]
    by_cases hsmall : refundId.natAbs < 10 ^ 4300
    · rw [if_pos hsmall]
      exact ⟨fun _ => hsmall, fun _ => ⟨_, rfl⟩⟩
    · rw [if_neg hsmall]
      constructor
      · intro h
        obtain ⟨text, htext⟩ := h
        cases htext
      · exact fun h => absurd h hsmall
  rw [← htext, PaymentCall.prepare]
  -- only the outcome of the text matters from here
  generalize uncaught (intText refundId) = text
  constructor
  · exact contained_of_bind
  · intro h
    apply contained_bind h
    intro text _
    by_cases hpositive : refundId ≤ 0
    · show Contained (if refundId ≤ 0 then _ else _)
      rw [if_pos hpositive]
      exact contained_validationError _ _
    · show Contained (if refundId ≤ 0 then _ else _)
      rw [if_neg hpositive]
      exact submitted (plainClass_settled _ _) rfl _

/-- A filter without criteria is an instance without values. -/
theorem filterPurchases_contained :
    Contained (PaymentCall.filterPurchases.prepare rt c) := by
  have hconstruct : Contained (construct c purchaseFilterClass []) := trivial
  apply contained_bind hconstruct
  intro criteria _
  apply contained_bind (payloadOf_contained rfl criteria)
  exact fun _ _ => trivial

theorem filterSettlements_contained :
    Contained (PaymentCall.filterSettlements.prepare rt c) := by
  have hconstruct : Contained (construct c (plainClass settlementFilter) []) := trivial
  apply contained_bind hconstruct
  intro criteria _
  apply contained_bind (payloadOf_contained rfl criteria)
  exact fun _ _ => trivial

theorem inquirePurchase_contained (purchaseId : Option ℤ) (clientReferenceNumber : Option String) :
    Contained ((PaymentCall.inquirePurchase purchaseId clientReferenceNumber).prepare rt c) := by
  rw [PaymentCall.prepare]
  by_cases hnone : purchaseId.isNone ∧ clientReferenceNumber.isNone
  · rw [if_pos hnone]
    exact contained_validationError _ _
  · rw [if_neg hnone]
    apply contained_bind
      (validateRequest_contained_iff.mpr (purchaseFilterClass_settled ⟨rfl, rfl⟩))
    intro criteria _
    apply contained_bind (payloadOf_contained rfl criteria)
    exact fun _ _ => trivial

/-! ## 9. Every call -/

/-- What a call must bring along to stay inside the hierarchy: datetimes that compare, additional
    data that can be dumped, a refund id that can be written out. -/
def Orderly (c : Coercions) : FacadeCall → Prop
  | .sms (.fetchInbound fromDate toDate page) => fromDate.isAware = toDate.isAware ∨ page < 0
  | .payment (.createPurchase arguments) => ∀ data, arguments.additionalData = some data →
      (∃ self, purchaseClass.modelValidate c (.obj arguments.values) = .ok (some self)) →
        ∃ out, c.dumpAny (.obj data) = .ok out
  | .payment (.refundAction _ refundId _) => refundId.natAbs < 10 ^ 4300
  | _ => True

theorem smsCall_contained_iff (call : SmsCall) :
    Contained (call.prepare rt c) ↔ Orderly c (.sms call) := by
  cases call with
  | fetchInbound fromDate toDate page => exact fetchInbound_contained_iff fromDate toDate page
  | _ =>
    apply iff_of_true _ trivial
    apply smsCall_contained
    intro _ _ _ h
    cases h

theorem paymentCall_contained_iff (call : PaymentCall) :
    Contained (call.prepare rt c) ↔ Orderly c (.payment call) := by
  cases call with
  | createPurchase arguments => exact createPurchase_contained_iff arguments
  | refundAction action refundId transferId =>
    exact refundAction_contained_iff action refundId transferId
  | filterPurchases => exact iff_of_true filterPurchases_contained trivial
  | inquirePurchase id number => exact iff_of_true (inquirePurchase_contained id number) trivial
  | reversePurchase =>
    exact iff_of_true (submitted (settled_of_raiseIf (fun _ => ⟨_, rfl⟩) _) rfl _) trivial
  | refundPurchase =>
    exact iff_of_true (submitted (settled_of_raiseIf (fun _ => ⟨_, rfl⟩) _) rfl _) trivial
  | filterSettlements => exact iff_of_true filterSettlements_contained trivial

theorem facadeCall_contained_iff (call : FacadeCall) :
    Contained (call.prepare rt c) ↔ Orderly c call := by
  cases call with
  | transfer call => exact iff_of_true (transferCall_contained call) trivial
  | cobank call => exact iff_of_true (cobankCall_contained call) trivial
  | directDebit call => exact iff_of_true (directDebitCall_contained call) trivial
  | sms call => exact smsCall_contained_iff call
  | contract call => exact iff_of_true (contractCall_contained call) trivial
  | identicator call => exact iff_of_true (identicatorCall_contained call) trivial
  | payment call => exact paymentCall_contained_iff call

/-- The request goes to the executor, or a validation error of the SDK to the caller. -/
def FailsInside (rt : Runtime) (c : Coercions) (executor : RequestExecutor) (call : FacadeCall) :
    Prop :=
  (∃ options, call.prepare rt c = .ok options ∧ call.run rt c executor = executor.execute options) ∨
    ∃ e : JibitError, e.kind = .validation ∧ call.run rt c executor = .throw (.jibit e)

theorem failsInside_iff_contained {executor : RequestExecutor} {call : FacadeCall} :
    FailsInside rt c executor call ↔ Contained (call.prepare rt c) := by
  unfold FailsInside FacadeCall.run
  cases call.prepare rt c with
  | ok options => exact ⟨fun _ => trivial, fun _ => .inl ⟨options, rfl, rfl⟩⟩
  | error raised =>
    constructor
    · intro h
      rcases h with ⟨_, hok, _⟩ | ⟨e, hkind, hthrow⟩
      · cases hok
      · cases hthrow
        exact hkind
    · intro h
      cases raised with
      | jibit e => exact .inr ⟨e, h, rfl⟩
      | builtin e => exact absurd h not_false

end

/-- Outside these conditions an exception of Python or Pydantic reaches the caller. -/
theorem call_failsInside_iff (rt : Runtime) (c : Coercions) (executor : RequestExecutor)
    (call : FacadeCall) : FailsInside rt c executor call ↔ Orderly c call :=
  failsInside_iff_contained.trans (facadeCall_contained_iff call)

/-- A range from a naive datetime to an aware one. -/
def mixedInbound : FacadeCall :=
  .sms (.fetchInbound ⟨0, none⟩ ⟨86400000000, some ("UTC", 0)⟩ 0)

/-- The comparison in the validator raises past the validation. -/
theorem mixedInbound_raises_typeError :
    mixedInbound.run sampleRuntime plainCoercions (.authenticated sampleExecutor) =
        .throw (.builtin .typeError) ∧
      ¬ FailsInside sampleRuntime plainCoercions (.authenticated sampleExecutor) mixedInbound := by
  constructor
  · rfl
  · rw [failsInside_iff_contained]
    exact not_false

end JibitSdk.Guarantees
