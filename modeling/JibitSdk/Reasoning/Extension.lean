import JibitSdk.Python.Pydantic
import Mathlib.Data.List.Basic
import Mathlib.Data.List.Forall2

/-!
# Documents with more fields

A document extends another when it adds keys that no field of the model there names, at any depth
the schema describes.  Whether an accepted document stays accepted is then a matter of the policies:
an extension is read as before exactly when no object of a forbidding model received a key.
-/

namespace JibitSdk.Reasoning

open JibitSdk.Python

/-! ## 1. Extension -/

/-- The keys some field is read from. -/
def declaredKeys (fields : List (Field × Schema)) : List String :=
  fields.flatMap fun field => field.1.keys

/-- Both absent, or both present and related. -/
def Carried (related : Obj → Obj → Prop) : Option Obj → Option Obj → Prop
  | none, none => True
  | some value, some value' => related value value'
  | _, _ => False

mutual

/-- The second document is the first with undeclared keys added to objects that a model types. -/
def Extends : Schema → Obj → Obj → Prop
  | .plain _, value, value' => value' = value
  | .union _, value, value' => value' = value
  | .nullable inner, value, value' => value'.isNull = value.isNull ∧ Extends inner value value'
  | .list _ _ item, .arr items, value' => ∃ items', value' = .arr items' ∧
      List.Forall₂ (fun value value' => Extends item value value') items items'
  | .list _ _ _, value, value' => value' = value
  | .record _ fields, .obj entries, value' => ∃ entries', value' = .obj entries' ∧
      (∀ entry ∈ entries, entry.1 ∉ declaredKeys fields →
        entries'.lookup entry.1 = entries.lookup entry.1) ∧
      ExtendsFields fields entries entries'
  | .record _ _, value, value' => value' = value
  | .checked inner _, value, value' => Extends inner value value'

/-- Every declared key has what it had, extended. -/
def ExtendsFields : List (Field × Schema) → List (String × Obj) → List (String × Obj) → Prop
  | [], _, _ => True
  | (field, type) :: fields, entries, entries' =>
      (∀ key ∈ field.keys, Carried (fun value value' => Extends type value value')
        (entries.lookup key) (entries'.lookup key)) ∧
      ExtendsFields fields entries entries'

end

mutual

/-- The objects of forbidding models hold declared keys only. -/
def DeclaredOnly : Schema → Obj → Prop
  | .plain _, _ => True
  | .union _, _ => True
  | .nullable inner, value => value.isNull = true ∨ DeclaredOnly inner value
  | .list _ _ item, .arr items => ∀ value ∈ items, DeclaredOnly item value
  | .list _ _ _, _ => True
  | .record extra fields, .obj entries =>
      (extra = .forbid → ∀ entry ∈ entries, entry.1 ∈ declaredKeys fields) ∧
      DeclaredFields fields entries
  | .record _ _, _ => True
  | .checked inner _, value => DeclaredOnly inner value

/-- The values the fields are read from hold declared keys only where they have to. -/
def DeclaredFields : List (Field × Schema) → List (String × Obj) → Prop
  | [], _ => True
  | (field, type) :: fields, entries =>
      (∀ found, field.find entries = some found → DeclaredOnly type found.2) ∧
      DeclaredFields fields entries

end

mutual

/-- No model of the schema forbids. -/
def Open : Schema → Bool
  | .plain _ => true
  | .union _ => true
  | .nullable inner => Open inner
  | .list _ _ item => Open item
  | .record extra fields => extra = .allow && OpenFields fields
  | .checked inner _ => Open inner

def OpenFields : List (Field × Schema) → Bool
  | [] => true
  | (_, type) :: fields => Open type && OpenFields fields

end

/-! ## 2. Adding one key -/

theorem Carried.refl {related : Obj → Obj → Prop} {found : Option Obj}
    (h : ∀ value, found = some value → related value value) : Carried related found found := by
  cases found with
  | none => trivial
  | some value => exact h value rfl

mutual

theorem extends_refl : ∀ (schema : Schema) (value : Obj), Extends schema value value
  | .plain _, _ => by rw [Extends]
  | .union _, _ => by rw [Extends]
  | .nullable inner, value => by
    rw [Extends]
    exact ⟨rfl, extends_refl inner value⟩
  | .list _ _ item, value => by
    cases value with
    | arr items =>
      rw [Extends]
      exact ⟨items, rfl, List.forall₂_same.mpr fun value _ => extends_refl item value⟩
    | _ => simp [Extends]
  | .record _ fields, value => by
    cases value with
    | obj entries =>
      rw [Extends]
      refine ⟨entries, rfl, fun _ _ _ => rfl, extendsFields_of_lookup fields entries entries ?_⟩
      exact fun _ _ => rfl
    | _ => simp [Extends]
  | .checked inner _, value => by
    rw [Extends]
    exact extends_refl inner value

theorem extendsFields_of_lookup : ∀ (fields : List (Field × Schema))
    (entries entries' : List (String × Obj)),
    (∀ key ∈ declaredKeys fields, entries'.lookup key = entries.lookup key) →
      ExtendsFields fields entries entries'
  | [], _, _, _ => by rw [ExtendsFields]; trivial
  | (field, type) :: fields, entries, entries', h => by
    rw [ExtendsFields]
    constructor
    · intro key hkey
      rw [h key (List.mem_append_left _ hkey)]
      exact Carried.refl fun value _ => extends_refl type value
    · exact extendsFields_of_lookup fields entries entries' fun key hkey =>
        h key (List.mem_append_right _ hkey)

end

/-- An undeclared key at the end. -/
theorem extends_append_key {extra : Extra} {fields : List (Field × Schema)} {key : String}
    (entries : List (String × Obj)) (value : Obj) (hkey : key ∉ declaredKeys fields)
    (hnew : entries.lookup key = none) :
    Extends (.record extra fields) (.obj entries) (.obj (entries ++ [(key, value)])) := by
  have hlookup : ∀ other, other ≠ key →
      (entries ++ [(key, value)]).lookup other = entries.lookup other := by
    intro other hother
    rw [List.lookup_append, List.lookup_cons, beq_false_of_ne hother, List.lookup_nil]
    exact Option.or_none
  rw [Extends]
  refine ⟨_, rfl, ?_, ?_⟩
  · intro entry hentry _
    apply hlookup
    intro heq
    have hpresent : (entries.lookup key).isSome = true :=
      List.lookup_isSome_iff.mpr ⟨entry, hentry, beq_iff_eq.mpr heq.symm⟩
    rw [hnew] at hpresent
    cases hpresent
  · apply extendsFields_of_lookup
    intro other hother
    exact hlookup other fun heq => hkey (heq ▸ hother)

/-! ## 3. The keys of an extension -/

section
variable {related : Obj → Obj → Prop} {entries entries' : List (String × Obj)}
  {fields : List (Field × Schema)}

theorem Carried.isSome_eq {found found' : Option Obj} (h : Carried related found found') :
    found.isSome = found'.isSome := by
  cases found <;> cases found'
  · rfl
  · exact absurd h not_false
  · exact absurd h not_false
  · rfl

/-- A field is read from the same key of both documents. -/
theorem find_carried {field : Field}
    (h : ∀ key ∈ field.keys, Carried related (entries.lookup key) (entries'.lookup key)) :
    (field.find entries = none ∧ field.find entries' = none) ∨
      ∃ key value value', field.find entries = some (key, value) ∧
        field.find entries' = some (key, value') ∧ related value value' := by
  unfold Field.find
  revert h
  induction field.keys with
  | nil => exact fun _ => .inl ⟨rfl, rfl⟩
  | cons key keys ih =>
    intro h
    have hkey := h key List.mem_cons_self
    have hkeys := ih fun other hother => h other (List.mem_cons_of_mem _ hother)
    rw [List.findSome?_cons, List.findSome?_cons]
    cases hfound : entries.lookup key <;> cases hfound' : entries'.lookup key
    · exact hkeys
    · rw [hfound, hfound'] at hkey
      exact absurd hkey not_false
    · rw [hfound, hfound'] at hkey
      exact absurd hkey not_false
    · rw [hfound, hfound'] at hkey
      exact .inr ⟨key, _, _, rfl, rfl, hkey⟩

theorem ExtendsFields.carried (h : ExtendsFields fields entries entries') :
    ∀ field ∈ fields, ∀ key ∈ field.1.keys,
      Carried (Extends field.2) (entries.lookup key) (entries'.lookup key) := by
  induction fields with
  | nil => exact fun _ hfield => absurd hfield List.not_mem_nil
  | cons first fields ih =>
    rw [ExtendsFields] at h
    intro field hfield
    rcases List.mem_cons.mp hfield with heq | hmem
    · rw [heq]
      exact h.1
    · exact ih h.2 field hmem

theorem usedKeys_extends (h : ExtendsFields fields entries entries') :
    usedKeys fields entries' = usedKeys fields entries := by
  apply List.filterMap_congr
  intro field hfield
  rcases find_carried (h.carried field hfield) with ⟨hnone, hnone'⟩ | ⟨key, _, _, hsome, hsome', -⟩
  · rw [hnone, hnone']
  · rw [hsome, hsome']
    rfl

theorem usedKeys_subset : usedKeys fields entries ⊆ declaredKeys fields := by
  intro key hkey
  obtain ⟨field, hfield, hfound⟩ := List.mem_filterMap.mp hkey
  obtain ⟨found, hfind, hname⟩ := Option.map_eq_some_iff.mp hfound
  obtain ⟨from_, hmem, hlookup⟩ := List.exists_of_findSome?_eq_some hfind
  obtain ⟨value, -, hpair⟩ := Option.map_eq_some_iff.mp hlookup
  rw [← hname, ← hpair]
  exact List.mem_flatMap.mpr ⟨field, hfield, hmem⟩

theorem refusesKeys_eq_false_iff {extra : Extra} : refusesKeys extra fields entries = false ↔
    (extra = .forbid → ∀ entry ∈ entries, entry.1 ∈ usedKeys fields entries) := by
  unfold refusesKeys
  rw [Bool.and_eq_false_iff, decide_eq_false_iff_not, List.any_eq_false]
  simp only [Bool.not_eq_true', List.contains_eq_mem, decide_eq_false_iff_not, not_not]
  exact imp_iff_not_or.symm

/-- An accepted object's extension is refused for its keys exactly when an
    undeclared one was added. -/
theorem refusesKeys_extends_iff {extra : Extra}
    (haccepted : refusesKeys extra fields entries = false)
    (h : ExtendsFields fields entries entries') :
    refusesKeys extra fields entries' = false ↔
      (extra = .forbid → ∀ entry ∈ entries', entry.1 ∈ declaredKeys fields) := by
  rw [refusesKeys_eq_false_iff] at haccepted ⊢
  constructor
  · exact fun hused hextra entry hentry => usedKeys_subset (hused hextra entry hentry)
  · intro hdeclared hextra entry hentry
    -- A declared key of the extension was a key of the original, where all keys are used.
    obtain ⟨field, hfield, hkey⟩ := List.mem_flatMap.mp (hdeclared hextra entry hentry)
    have hpresent : (entries'.lookup entry.1).isSome = true :=
      List.lookup_isSome_iff.mpr ⟨entry, hentry, beq_self_eq_true _⟩
    rw [← (h.carried field hfield entry.1 hkey).isSome_eq] at hpresent
    obtain ⟨original, horiginal, hname⟩ := List.lookup_isSome_iff.mp hpresent
    rw [usedKeys_extends h, beq_iff_eq.mp hname]
    exact haccepted hextra original horiginal

end

/-! ## 4. Reading an extension -/

section
variable {c : Coercions}

/-- Item by item, an extended list is read as before exactly when every item may be. -/
theorem mapM_extends_iff {read : Obj → Option Obj} {related : Obj → Obj → Prop}
    {holds : Obj → Prop} {items items' : List Obj} {found : List Obj}
    (hitems : List.Forall₂ related items items') (hfound : items.mapM read = some found)
    (hread : ∀ value value' validated, related value value' → read value = some validated →
      (read value' = some validated ↔ holds value')) :
    items'.mapM read = some found ↔ ∀ value ∈ items', holds value := by
  induction hitems generalizing found with
  | nil => simpa using hfound
  | @cons value value' items items' hvalue hitems ih =>
    rw [List.mapM_cons] at hfound ⊢
    obtain ⟨first, hfirst, hfound⟩ := Option.bind_eq_some_iff.mp hfound
    obtain ⟨rest, hrest, hfound⟩ := Option.bind_eq_some_iff.mp hfound
    have hsame : found = first :: rest := (Option.some.inj hfound).symm
    rw [List.forall_mem_cons, ← hread value value' first hvalue hfirst, ← ih hrest, hsame]
    constructor
    · intro h
      obtain ⟨first', hfirst', h⟩ := Option.bind_eq_some_iff.mp h
      obtain ⟨rest', hrest', h⟩ := Option.bind_eq_some_iff.mp h
      have hcons := List.cons.inj (Option.some.inj h)
      rw [hfirst', hrest', hcons.1, hcons.2]
      exact ⟨rfl, rfl⟩
    · intro h
      rw [h.1, h.2]
      rfl

theorem validateFields_cons_iff {field : Field} {type : Schema} {fields : List (Field × Schema)}
    {entries : List (String × Obj)} {found : List (String × Obj)} :
    validateFields c ((field, type) :: fields) entries = some found ↔ ∃ value rest,
      (field.find entries).elim field.default (fun found => type.validate c found.2) = some value ∧
        validateFields c fields entries = some rest ∧ found = (field.name, value) :: rest := by
  rw [validateFields]
  simp only [Option.bind_eq_bind, Option.bind_eq_some_iff, Option.some.injEq]
  constructor
  · intro h
    obtain ⟨value, hvalue, rest, hrest, hfound⟩ := h
    exact ⟨value, rest, hvalue, hrest, hfound.symm⟩
  · intro h
    obtain ⟨value, rest, hvalue, hrest, hfound⟩ := h
    exact ⟨value, hvalue, rest, hrest, hfound.symm⟩

mutual

theorem validate_extends_iff : ∀ (schema : Schema) (value value' : Obj) (found : Obj),
    schema.validate c value = some found → Extends schema value value' →
      (schema.validate c value' = some found ↔ DeclaredOnly schema value')
  | .plain _, value, value', found, hfound, h => by
    rw [Extends] at h
    rw [h, hfound]
    simp [DeclaredOnly]
  | .union _, value, value', found, hfound, h => by
    rw [Extends] at h
    rw [h, hfound]
    simp [DeclaredOnly]
  | .nullable inner, value, value', found, hfound, h => by
    rw [Extends] at h
    rw [Schema.validate] at hfound ⊢
    rw [DeclaredOnly, h.1]
    by_cases hnull : value.isNull = true
    · rw [if_pos hnull] at hfound ⊢
      simp [hfound, hnull]
    · rw [if_neg hnull] at hfound ⊢
      simp [hnull, validate_extends_iff inner value value' found hfound h.2]
  | .list minLength maxLength item, value, value', found, hfound, h => by
    cases value with
    | arr items =>
      rw [Extends] at h
      obtain ⟨items', hvalue', hitems⟩ := h
      rw [Schema.validate] at hfound
      by_cases hlength : minLength ≤ items.length ∧ maxLength.all (items.length ≤ ·)
      · rw [if_pos hlength] at hfound
        obtain ⟨found, hmap, rfl⟩ := Option.map_eq_some_iff.mp hfound
        have hread := mapM_extends_iff hitems hmap fun value value' found hext hvalue =>
          validate_extends_iff item value value' found hvalue hext
        rw [hvalue', Schema.validate, DeclaredOnly, ← hitems.length_eq, if_pos hlength, ← hread,
          Option.map_eq_some_iff]
        simp only [Obj.arr.injEq, exists_eq_right]
      · rw [if_neg hlength] at hfound
        cases hfound
    | _ =>
      rw [Schema.validate] at hfound
      · cases hfound
      · simp
  | .record extra fields, value, value', found, hfound, h => by
    cases value with
    | obj entries =>
      rw [Extends] at h
      obtain ⟨entries', hvalue', -, hfields⟩ := h
      rw [Schema.validate] at hfound
      by_cases hrefused : refusesKeys extra fields entries = true
      · rw [if_pos hrefused] at hfound
        cases hfound
      · rw [if_neg hrefused] at hfound
        obtain ⟨found, hread, rfl⟩ := Option.map_eq_some_iff.mp hfound
        have hkeys := refusesKeys_extends_iff (Bool.eq_false_of_not_eq_true hrefused) hfields
        have hvalues := validateFields_extends_iff fields entries entries' found hread hfields
        rw [hvalue', Schema.validate, DeclaredOnly, ← hkeys, ← hvalues]
        cases refusesKeys extra fields entries' <;> simp
    | _ =>
      rw [Schema.validate] at hfound
      · cases hfound
      · simp
  | .checked inner check, value, value', found, hfound, h => by
    rw [Extends] at h
    rw [Schema.validate, Option.filter_eq_some_iff] at hfound ⊢
    rw [DeclaredOnly, validate_extends_iff inner value value' found hfound.1 h]
    exact and_iff_left hfound.2

theorem validateFields_extends_iff : ∀ (fields : List (Field × Schema))
    (entries entries' : List (String × Obj)) (found : List (String × Obj)),
    validateFields c fields entries = some found → ExtendsFields fields entries entries' →
      (validateFields c fields entries' = some found ↔ DeclaredFields fields entries')
  | [], entries, entries', found, hfound, _ => by
    simpa [validateFields, DeclaredFields] using hfound
  | (field, type) :: fields, entries, entries', found, hfound, h => by
    rw [ExtendsFields] at h
    rw [DeclaredFields]
    obtain ⟨value, rest, hvalue, hrest, rfl⟩ := validateFields_cons_iff.mp hfound
    rw [validateFields_cons_iff,
      ← validateFields_extends_iff fields entries entries' rest hrest h.2]
    have hfield : (field.find entries').elim field.default (fun found => type.validate c found.2) =
        some value ↔ ∀ found, field.find entries' = some found → DeclaredOnly type found.2 := by
      rcases find_carried h.1 with ⟨hnone, hnone'⟩ | ⟨key, before, after, hsome, hsome', hext⟩
      · rw [hnone] at hvalue
        rw [hnone']
        simpa using hvalue
      · rw [hsome] at hvalue
        rw [hsome']
        simpa using validate_extends_iff type before after value hvalue hext
    rw [← hfield]
    simp

end

end

theorem validatorError_ne_some (e : BuiltinError) (found : Obj) :
    validatorError e ≠ .ok (some found) := by
  unfold validatorError
  cases e.isValueError <;> simp

theorem validated_eq_some_iff {self found : Obj} {outcome : Except BuiltinError Unit} :
    validated self outcome = .ok (some found) ↔ self = found ∧ outcome = .ok () := by
  cases outcome with
  | error e => simp [validated, validatorError_ne_some]
  | ok _ => simp [validated]

/-- A class accepts what passes its validators and its fields. -/
theorem modelValidate_eq_some_iff {m : ModelClass} {value found : Obj} :
    m.modelValidate c value = .ok (some found) ↔ ∃ read, m.before value = .ok read ∧
      m.schema.validate c read = some found ∧ m.after found = .ok () := by
  have hread : ∀ read, m.validateRead c read = .ok (some found) ↔
      m.schema.validate c read = some found ∧ m.after found = .ok () := by
    intro read
    rw [ModelClass.validateRead]
    cases m.schema.validate c read with
    | none => simp
    | some self =>
      rw [Option.elim_some, validated_eq_some_iff, Option.some.injEq]
      exact and_congr_right fun hself => by rw [hself]
  unfold ModelClass.modelValidate
  cases m.before value with
  | error e => simp [validatorError_ne_some]
  | ok read => simp [hread]

/-! ## 5. Open schemas -/

mutual

/-- Where no model forbids, nothing can be undeclared. -/
theorem declaredOnly_of_open : ∀ (schema : Schema) (value : Obj), Open schema = true →
    DeclaredOnly schema value
  | .plain _, _, _ => by simp [DeclaredOnly]
  | .union _, _, _ => by simp [DeclaredOnly]
  | .nullable inner, value, h => by
    rw [Open] at h
    rw [DeclaredOnly]
    exact .inr (declaredOnly_of_open inner value h)
  | .list _ _ item, value, h => by
    rw [Open] at h
    cases value with
    | arr items =>
      rw [DeclaredOnly]
      exact fun value _ => declaredOnly_of_open item value h
    | _ => simp [DeclaredOnly]
  | .record extra fields, value, h => by
    rw [Open, Bool.and_eq_true, decide_eq_true_eq] at h
    cases value with
    | obj entries =>
      rw [DeclaredOnly, h.1]
      constructor
      · intro hforbid
        cases hforbid
      · exact declaredFields_of_open fields entries h.2
    | _ => simp [DeclaredOnly]
  | .checked inner _, value, h => by
    rw [Open] at h
    rw [DeclaredOnly]
    exact declaredOnly_of_open inner value h

theorem declaredFields_of_open : ∀ (fields : List (Field × Schema))
    (entries : List (String × Obj)), OpenFields fields = true → DeclaredFields fields entries
  | [], _, _ => by simp [DeclaredFields]
  | (_, type) :: fields, entries, h => by
    rw [OpenFields, Bool.and_eq_true] at h
    rw [DeclaredFields]
    exact ⟨fun found _ => declaredOnly_of_open type found.2 h.1,
      declaredFields_of_open fields entries h.2⟩

end

end JibitSdk.Reasoning
