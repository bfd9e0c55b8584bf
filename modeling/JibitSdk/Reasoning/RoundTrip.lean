import JibitSdk.Reasoning.Dict
import JibitSdk.Reasoning.Extension

/-!
# Dumps that are read again

What a model writes under its aliases it reads again as the same instance.  That takes three things:
no alias is a key of another field, what is left out of the dump is what a missing key stands for,
and the values whose text is written read their own text.
-/

namespace JibitSdk.Reasoning

open JibitSdk.Python

/-! ## 1. Schemas -/

/-- The type has `None` among its values. -/
def mayBeNull : Schema → Bool
  | .nullable _ => true
  | .checked inner _ => mayBeNull inner
  | _ => false

/-- A default that is a value of its type as it stands. -/
def settledDefault : Schema → Obj → Bool
  | .plain (.int least most), .int n => least.all (· ≤ n) && most.all (n ≤ ·)
  | .plain (.enum values), .str s => values.contains s
  | .plain .bool, .bool _ => true
  | .plain .dictOfStr, .obj [] => true
  | _, _ => false

/-- A value that is left out of the dump is the default, and every other default is a value. -/
def settledField (field : Field) (type : Schema) : Bool :=
  match field.default with
  | none => !mayBeNull type
  | some .null => true
  | some value => !mayBeNull type && settledDefault type value

/-- The key a field is written under. -/
def writtenKey (field : Field) : String := field.keys.headD field.name

/-- Neither field is read from the key of the other. -/
def apart (field other : Field × Schema) : Bool :=
  !other.1.keys.contains (writtenKey field.1) && !field.1.keys.contains (writtenKey other.1)

mutual

/-- A schema whose dumps can be read again. -/
def Invertible : Schema → Bool
  | .plain .anyList => false
  | .plain .secret => false
  | .plain _ => true
  | .union _ => false
  | .nullable inner => Invertible inner
  | .list _ _ item => Invertible item
  | .record _ fields => InvertibleFields fields &&
      decide (fields.map fun field => field.1.name).Nodup
  | .checked inner _ => Invertible inner

def InvertibleFields : List (Field × Schema) → Bool
  | [] => true
  | (field, type) :: fields =>
    Invertible type && settledField field type && !field.keys.isEmpty &&
      fields.all (apart (field, type)) &&
      InvertibleFields fields

end

mutual

/-- The parts of an instance that are written as texts read as themselves, and a value of type
    `dict[str, Any]` is JSON. -/
def Legible (c : Coercions) : Schema → Obj → Prop
  | .plain .datetime, .datetime t => c.datetimeOf (.str (c.isoformat t)) = some t
  | .plain .awareDatetime, .datetime t => c.datetimeOf (.str (c.isoformat t)) = some t
  | .plain .uuid, .uuid text => c.uuidOf text = some text
  | .plain (.httpUrl _), .url text => c.httpUrlOf text = some text
  | .plain .ip, .ip text => c.ipOf (.str text) = some text
  | .plain .dict, value => ∃ fields, value = Obj.ofJson (.obj fields) ∧
      c.dumpAny value = .ok (.obj fields)
  | .plain _, _ => True
  | .union _, _ => True
  | .nullable inner, value => value.isNull = true ∨ Legible c inner value
  | .list _ _ item, .arr items => ∀ value ∈ items, Legible c item value
  | .list _ _ _, _ => True
  | .record _ fields, value => LegibleFields c fields value
  | .checked inner _, value => Legible c inner value

def LegibleFields (c : Coercions) : List (Field × Schema) → Obj → Prop
  | [], _ => True
  | (field, type) :: fields, self =>
    ((self.attr field.name).isNull = true ∨ Legible c type (self.attr field.name)) ∧
      LegibleFields c fields self

end

/-! ## 2. Reading what was written -/

section
variable {c : Coercions}

theorem ofJson_arr {js : List Json} : Obj.ofJson (.arr js) = .arr (Obj.ofItems js) := rfl

theorem ofJson_obj {js : List (String × Json)} :
    Obj.ofJson (.obj js) = .obj (Obj.ofFields js) := rfl

theorem lookup_ofFields (js : List (String × Json)) (key : String) :
    (Obj.ofFields js).lookup key = (js.lookup key).map Obj.ofJson := by
  induction js with
  | nil => rfl
  | cons entry js ih =>
    rcases entry with ⟨name, j⟩
    rw [Obj.ofFields, List.lookup_cons, List.lookup_cons]
    cases key == name with
    | true => rfl
    | false => exact ih

theorem mem_ofFields {js : List (String × Json)} {entry : String × Obj}
    (h : entry ∈ Obj.ofFields js) :
    ∃ written ∈ js, entry.1 = written.1 := by
  induction js with
  | nil => exact absurd h List.not_mem_nil
  | cons written js ih =>
    rcases List.mem_cons.mp h with rfl | h
    · exact ⟨written, List.mem_cons_self, rfl⟩
    · obtain ⟨other, hother, hkey⟩ := ih h
      exact ⟨other, List.mem_cons_of_mem _ hother, hkey⟩

/-- The fields of an instance and the entries they are written as: `None` is left out, any other
    value reads back. -/
inductive Written (c : Coercions) :
    List (Field × Schema) → List (String × Obj) → List (String × Json) → Prop
  | nil : Written c [] [] []
  | absent {field : Field} {type : Schema} {fields : List (Field × Schema)}
      {values : List (String × Obj)}
      {js : List (String × Json)} (hdefault : field.default = some .null)
      (rest : Written c fields values js) :
      Written c ((field, type) :: fields) ((field.name, .null) :: values) js
  | present {field : Field} {type : Schema} {fields : List (Field × Schema)}
      {values : List (String × Obj)}
      {js : List (String × Json)} {value : Obj} {j : Json}
      (hread : type.validate c (.ofJson j) = some value)
      (rest : Written c fields values js) :
      Written c ((field, type) :: fields) ((field.name, value) :: values)
      ((writtenKey field, j) :: js)

theorem Written.keys {fields : List (Field × Schema)} {values : List (String × Obj)}
    {js : List (String × Json)} (h : Written c fields values js) {entry : String × Json}
    (hentry : entry ∈ js) :
    ∃ field ∈ fields, entry.1 = writtenKey field.1 := by
  induction h with
  | nil => exact absurd hentry List.not_mem_nil
  | absent _ _ ih =>
    rcases ih hentry with ⟨field, hfield, hkey⟩
    exact ⟨field, List.mem_cons_of_mem _ hfield, hkey⟩
  | present _ _ ih =>
    rcases List.mem_cons.mp hentry with rfl | hentry
    · exact ⟨_, List.mem_cons_self, rfl⟩
    · rcases ih hentry with ⟨field, hfield, hkey⟩
      exact ⟨field, List.mem_cons_of_mem _ hfield, hkey⟩

theorem find_eq_none {field : Field} {js : List (String × Json)}
    (h : ∀ entry ∈ js, entry.1 ∉ field.keys) : field.find (Obj.ofFields js) = none := by
  rw [Field.find, List.findSome?_eq_none_iff]
  intro key hkey
  rw [lookup_ofFields, Option.map_map, Option.map_eq_none_iff, List.lookup_eq_none_iff]
  intro entry hentry
  rw [bne_iff_ne, ne_eq]
  intro heq
  exact h entry hentry (heq ▸ hkey)

theorem find_eq_written {field : Field} {js : List (String × Json)} {j : Json}
    (hkeys : field.keys.isEmpty = false) (h : js.lookup (writtenKey field) = some j) :
    field.find (Obj.ofFields js) = some (writtenKey field, .ofJson j) := by
  unfold Field.find
  unfold writtenKey at h ⊢
  cases hfield : field.keys with
  | nil =>
    rw [hfield] at hkeys
    cases hkeys
  | cons key keys =>
    rw [hfield, List.headD_cons] at h
    rw [List.headD_cons, List.findSome?_cons, lookup_ofFields, h]
    rfl

theorem writtenKey_mem {field : Field} (hkeys : field.keys.isEmpty = false) :
    writtenKey field ∈ field.keys := by
  unfold writtenKey
  cases hfield : field.keys with
  | nil =>
    rw [hfield] at hkeys
    cases hkeys
  | cons key keys => exact List.mem_cons_self

theorem apart_keys {field other : Field × Schema} {fields : List (Field × Schema)}
    (h : fields.all (apart field) = true) (hother : other ∈ fields) :
    writtenKey field.1 ∉ other.1.keys ∧ writtenKey other.1 ∉ field.1.keys := by
  have hapart := List.all_eq_true.mp h other hother
  unfold apart at hapart
  simpa using hapart

/-- The fields read their own entries, wherever these stand among others that are not theirs. -/
theorem Written.read {fields : List (Field × Schema)} {values : List (String × Obj)}
    {js : List (String × Json)} (h : Written c fields values js)
    (hfields : InvertibleFields fields = true) (before : List (String × Json))
    (hbefore : ∀ entry ∈ before, ∀ field ∈ fields, entry.1 ∉ field.1.keys) :
    validateFields c fields (Obj.ofFields (before ++ js)) = some values ∧
      ∀ entry ∈ js, entry.1 ∈ usedKeys fields (Obj.ofFields (before ++ js)) := by
  induction h generalizing before with
  | nil => exact ⟨rfl, fun entry hentry => absurd hentry List.not_mem_nil⟩
  | @absent field type fields values js hdefault rest ih =>
    rw [InvertibleFields] at hfields
    simp only [Bool.and_eq_true] at hfields
    have hnone : field.find (Obj.ofFields (before ++ js)) = none := by
      apply find_eq_none
      intro entry hentry
      rcases List.mem_append.mp hentry with hentry | hentry
      · exact hbefore entry hentry (field, type) List.mem_cons_self
      · rcases rest.keys hentry with ⟨other, hother, hkey⟩
        rw [hkey]
        exact (apart_keys hfields.1.2 hother).2
    have hrest := ih hfields.2 before fun entry hentry other hother =>
      hbefore entry hentry other (List.mem_cons_of_mem _ hother)
    constructor
    · rw [validateFields_cons_iff]
      refine ⟨.null, values, ?_, hrest.1, rfl⟩
      rw [hnone]
      exact hdefault
    · intro entry hentry
      rw [usedKeys, List.filterMap_cons, hnone]
      exact hrest.2 entry hentry
  | @present field type fields values js value j hread rest ih =>
    rw [InvertibleFields] at hfields
    simp only [Bool.and_eq_true, Bool.not_eq_true'] at hfields
    have hfound : field.find (Obj.ofFields (before ++ (writtenKey field, j) :: js)) =
        some (writtenKey field, .ofJson j) := by
      apply find_eq_written hfields.1.1.2
      have hbefore_none : before.lookup (writtenKey field) = none := by
        rw [List.lookup_eq_none_iff]
        intro entry hentry
        rw [bne_iff_ne, ne_eq]
        intro heq
        apply hbefore entry hentry (field, type) List.mem_cons_self
        rw [← heq]
        exact writtenKey_mem hfields.1.1.2
      rw [List.lookup_append, hbefore_none, List.lookup_cons_self]
      rfl
    have hrest :=
      ih hfields.2 (before ++ [(writtenKey field, j)]) fun entry hentry other hother => by
      rcases List.mem_append.mp hentry with hentry | hentry
      · exact hbefore entry hentry other (List.mem_cons_of_mem _ hother)
      · rw [List.mem_singleton.mp hentry]
        exact (apart_keys hfields.1.2 hother).1
    rw [List.append_assoc, List.singleton_append] at hrest
    constructor
    · rw [validateFields_cons_iff]
      refine ⟨value, values, ?_, hrest.1, rfl⟩
      rw [hfound]
      exact hread
    · intro entry hentry
      rw [usedKeys, List.filterMap_cons, hfound]
      rcases List.mem_cons.mp hentry with rfl | hentry
      · exact List.mem_cons_self
      · exact List.mem_cons_of_mem _ (hrest.2 entry hentry)

/-! ## 3. Values -/

theorem convert_ne_null {type : FieldType} {value : Obj} : type.convert c value ≠ some .null := by
  unfold FieldType.convert
  split <;> try split_ifs
  all_goals simp

theorem lax_ne_null {type : FieldType} {value : Obj} : type.lax c value ≠ some .null := by
  intro hnull
  obtain ⟨read, -, hread⟩ := FieldType.lax_eq_some_iff.mp hnull
  exact convert_ne_null hread

theorem strict_ne_null {type : FieldType} {value : Obj} : type.strict c value ≠ some .null := by
  unfold FieldType.strict
  split
  all_goals first | exact convert_ne_null | simp

theorem union_ne_null {members : List FieldType} {value : Obj} :
    FieldType.union c members value ≠ some .null := by
  unfold FieldType.union
  rw [ne_eq, Option.or_eq_some_iff]
  rintro (hstrict | ⟨-, hconvert⟩)
  · rcases List.exists_of_findSome?_eq_some hstrict with ⟨type, -, hnull⟩
    exact strict_ne_null hnull
  · rcases List.exists_of_findSome?_eq_some hconvert with ⟨type, -, hnull⟩
    exact convert_ne_null hnull

theorem validate_list_eq_some {minLength : ℕ} {maxLength : Option ℕ} {item : Schema}
    {value self : Obj} (h : (Schema.list minLength maxLength item).validate c value = some self) :
    ∃ items selves, value = .arr items ∧
    (minLength ≤ items.length ∧ maxLength.all (items.length ≤ ·)) ∧
      (items.mapM fun value => item.validate c value) = some selves ∧ self = .arr selves := by
  cases value with
  | arr items =>
    rw [Schema.validate, Option.ite_none_right_eq_some, Option.map_eq_some_iff] at h
    obtain ⟨hlength, selves, hread, hself⟩ := h
    exact ⟨items, selves, rfl, hlength, hread, hself.symm⟩
  | _ =>
    rw [Schema.validate] at h
    · cases h
    · simp

theorem validate_record_eq_some {extra : Extra} {fields : List (Field × Schema)} {value self : Obj}
    (h : (Schema.record extra fields).validate c value = some self) :
    ∃ entries values, value = .obj entries ∧ validateFields c fields entries = some values ∧
      self = .obj values := by
  cases value with
  | obj entries =>
    rw [Schema.validate, Option.ite_none_left_eq_some, Option.map_eq_some_iff] at h
    obtain ⟨-, values, hread, hself⟩ := h
    exact ⟨entries, values, rfl, hread, hself.symm⟩
  | _ =>
    rw [Schema.validate] at h
    · cases h
    · simp

theorem validate_ne_null : ∀ (schema : Schema) (value : Obj), mayBeNull schema = false →
    schema.validate c value ≠ some .null
  | .plain _, _, _ => by
    rw [Schema.validate]
    exact lax_ne_null
  | .union _, _, _ => by
    rw [Schema.validate]
    exact union_ne_null
  | .nullable _, _, h => by cases h
  | .list _ _ _, _, _ => by
    intro hnull
    obtain ⟨items, selves, -, -, -, hself⟩ := validate_list_eq_some hnull
    cases hself
  | .record _ _, _, _ => by
    intro hnull
    obtain ⟨entries, values, -, -, hself⟩ := validate_record_eq_some hnull
    cases hself
  | .checked inner _, value, h => by
    rw [Schema.validate, ne_eq, Option.filter_eq_some_iff]
    exact fun hnull => validate_ne_null inner value h hnull.1

/-- A value of the type reads as itself. -/
theorem readAs_self {type : FieldType} {value : Obj} (h : FieldType.isStr value = true) :
    FieldType.readAs c type value = some value := by
  cases value with
  | str s => rfl
  | _ => cases h

theorem readEntries_self {type : FieldType} {ofType : Obj → Bool} {entries : List (String × Obj)}
    (hstr : ∀ value, ofType value = true → FieldType.isStr value = true)
    (h : ∀ entry ∈ entries, ofType entry.2 = true) :
    FieldType.readEntries c type ofType entries = some entries := by
  induction entries with
  | nil => rfl
  | cons entry entries ih =>
    rw [List.forall_mem_cons] at h
    have hrest := ih h.2
    rw [FieldType.readEntries] at hrest
    rw [FieldType.readEntries, List.mapM_cons, hrest, readAs_self (hstr _ h.1), Option.filter_some,
      if_pos h.1]
    rfl

theorem readEntries_ofType {type : FieldType} {ofType : Obj → Bool}
    {entries out : List (String × Obj)}
    (h : FieldType.readEntries c type ofType entries = some out) :
    ∀ entry ∈ out, ofType entry.2 = true := by
  induction entries generalizing out with
  | nil =>
    cases h
    exact fun entry hentry => absurd hentry List.not_mem_nil
  | cons entry entries ih =>
    rw [FieldType.readEntries, List.mapM_cons] at h
    obtain ⟨first, hfirst, h⟩ := Option.bind_eq_some_iff.mp h
    obtain ⟨rest, hrest, h⟩ := Option.bind_eq_some_iff.mp h
    cases h
    obtain ⟨value, hvalue, rfl⟩ := Option.map_eq_some_iff.mp hfirst
    rw [List.forall_mem_cons]
    exact ⟨(Option.filter_eq_some_iff.mp hvalue).2, ih hrest⟩

theorem isStr_of_isValue {values : List String} (value : Obj)
    (h : FieldType.isValue values value = true) : FieldType.isStr value = true := by
  cases value with
  | str s => rfl
  | _ => cases h

theorem settledDefault_validate {schema : Schema} {value : Obj}
    (h : settledDefault schema value = true) :
    schema.validate c value = some value := by
  unfold settledDefault at h
  split at h
  · rename_i least most n
    show (((some n).filter _).map Obj.int) = _
    rw [Option.filter_some, if_pos h]
    rfl
  · exact if_pos h
  · rfl
  · rfl
  · cases h

/-- A dictionary of strings is JSON. -/
theorem ofJson_strings {entries : List (String × Obj)}
    (h : ∀ entry ∈ entries, FieldType.isStr entry.2 = true) :
    Obj.ofJson (dumpLeaf c (.obj entries)) = .obj entries := by
  rw [dumpLeaf, Obj.ofJson, Obj.obj.injEq]
  induction entries with
  | nil => rfl
  | cons entry entries ih =>
    rw [List.forall_mem_cons] at h
    rcases entry with ⟨key, value⟩
    cases value with
    | str s =>
      rw [List.map_cons, Obj.ofFields, ih h.2]
      rfl
    | _ => cases h.1

theorem lax_float {value self : Obj} (h : FieldType.float.lax c value = some self) :
    ∃ x, self = .float x := by
  obtain ⟨read, -, h⟩ := FieldType.lax_eq_some_iff.mp h
  cases read <;>
    simp only [FieldType.convert, reduceCtorEq, Option.some.injEq, Option.map_eq_some_iff] at h
  all_goals grind

theorem lax_bool {value self : Obj} (h : FieldType.bool.lax c value = some self) :
    ∃ b, self = .bool b := by
  obtain ⟨read, -, h⟩ := FieldType.lax_eq_some_iff.mp h
  cases read <;>
    simp only [FieldType.convert, reduceCtorEq, Option.some.injEq, Option.map_eq_some_iff] at h
  all_goals grind

theorem lax_uuid {value self : Obj} (h : FieldType.uuid.lax c value = some self) :
    ∃ text, self = .uuid text := by
  obtain ⟨read, -, h⟩ := FieldType.lax_eq_some_iff.mp h
  cases read <;>
    simp only [FieldType.convert, reduceCtorEq, Option.some.injEq, Option.map_eq_some_iff] at h
  all_goals grind

theorem lax_ip {value self : Obj} (h : FieldType.ip.lax c value = some self) :
    ∃ text, self = .ip text := by
  obtain ⟨read, -, h⟩ := FieldType.lax_eq_some_iff.mp h
  cases read <;> simp only [FieldType.convert, Option.some.injEq, Option.map_eq_some_iff] at h
  all_goals grind

theorem lax_httpUrl {maxLength : Option ℕ} {value self : Obj}
    (h : (FieldType.httpUrl maxLength).lax c value = some self) :
    ∃ text, self = .url text ∧ maxLength.all (text.length ≤ ·) = true := by
  obtain ⟨read, -, h⟩ := FieldType.lax_eq_some_iff.mp h
  cases read <;> simp only [FieldType.convert, reduceCtorEq, Option.map_eq_some_iff,
    Option.filter_eq_some_iff] at h
  all_goals grind

/-- What a type without parts has read, it reads again from its dump. -/
theorem lax_dump : ∀ (type : FieldType) (value self : Obj), Invertible (.plain type) = true →
    type.lax c value = some self → Legible c (.plain type) self →
      ∃ j, Schema.dump c (.plain type) self = .ok j ∧ (Obj.ofJson j).isNull = self.isNull ∧
        type.lax c (.ofJson j) = some self := by
  intro type value self hinv hself hlegible
  obtain ⟨read, -, hread⟩ := FieldType.lax_eq_some_iff.mp hself
  cases type with
  | str minLength maxLength pattern =>
    cases read <;> simp only [FieldType.convert, reduceCtorEq] at hread
    rename_i s
    split at hread
    · rename_i hfits
      cases hread
      exact ⟨.str s, rfl, rfl, if_pos hfits⟩
    · cases hread
  | secret => cases hinv
  | int least most =>
    rw [FieldType.convert, Option.map_eq_some_iff] at hread
    obtain ⟨n, hn, rfl⟩ := hread
    rw [Option.filter_eq_some_iff] at hn
    refine ⟨.int n, rfl, rfl, ?_⟩
    show ((some n).filter _).map Obj.int = _
    rw [Option.filter_some, if_pos hn.2]
    rfl
  | float =>
    obtain ⟨x, rfl⟩ := lax_float hself
    exact ⟨.float x, rfl, rfl, rfl⟩
  | bool =>
    obtain ⟨b, rfl⟩ := lax_bool hself
    exact ⟨.bool b, rfl, rfl, rfl⟩
  | enum values =>
    cases read <;> simp only [FieldType.convert, reduceCtorEq] at hread
    rename_i s
    split at hread
    · rename_i hmem
      cases hread
      exact ⟨.str s, rfl, rfl, if_pos hmem⟩
    · cases hread
  | datetime =>
    rw [FieldType.convert, Option.map_eq_some_iff] at hread
    obtain ⟨t, -, rfl⟩ := hread
    rw [Legible] at hlegible
    refine ⟨.str (c.isoformat t), rfl, rfl, ?_⟩
    show (c.datetimeOf (.str (c.isoformat t))).map Obj.datetime = _
    rw [hlegible]
    rfl
  | awareDatetime =>
    rw [FieldType.convert, Option.map_eq_some_iff] at hread
    obtain ⟨t, ht, rfl⟩ := hread
    rw [Legible] at hlegible
    rw [Option.filter_eq_some_iff] at ht
    refine ⟨.str (c.isoformat t), rfl, rfl, ?_⟩
    show ((c.datetimeOf (.str (c.isoformat t))).filter DateTime.isAware).map Obj.datetime = _
    rw [hlegible, Option.filter_some, if_pos ht.2]
    rfl
  | uuid =>
    obtain ⟨text, rfl⟩ := lax_uuid hself
    rw [Legible] at hlegible
    refine ⟨.str text, rfl, rfl, ?_⟩
    show (c.uuidOf text).map Obj.uuid = _
    rw [hlegible]
    rfl
  | httpUrl maxLength =>
    obtain ⟨text, rfl, hlength⟩ := lax_httpUrl hself
    rw [Legible] at hlegible
    refine ⟨.str text, rfl, rfl, ?_⟩
    show ((c.httpUrlOf text).filter fun text => maxLength.all (text.length ≤ ·)).map Obj.url = _
    rw [hlegible, Option.filter_some, if_pos hlength]
    rfl
  | ip =>
    obtain ⟨text, rfl⟩ := lax_ip hself
    rw [Legible] at hlegible
    refine ⟨.str text, rfl, rfl, ?_⟩
    show (c.ipOf (.str text)).map Obj.ip = _
    rw [hlegible]
    rfl
  | dict =>
    rw [Legible] at hlegible
    obtain ⟨fields, rfl, hdump⟩ := hlegible
    exact ⟨.obj fields, hdump, rfl, rfl⟩
  | dictOfStr =>
    cases read <;> simp only [FieldType.convert, reduceCtorEq, Option.map_eq_some_iff] at hread
    obtain ⟨entries, hentries, rfl⟩ := hread
    have hall := readEntries_ofType hentries
    refine ⟨dumpLeaf c (.obj entries), rfl, rfl, ?_⟩
    rw [ofJson_strings hall]
    show (FieldType.readEntries c .str FieldType.isStr entries).map Obj.obj = _
    rw [readEntries_self (fun _ h => h) hall]
    rfl
  | dictOf values =>
    cases read <;> simp only [FieldType.convert, reduceCtorEq, Option.map_eq_some_iff] at hread
    obtain ⟨entries, hentries, rfl⟩ := hread
    have hall := readEntries_ofType hentries
    refine ⟨dumpLeaf c (.obj entries), rfl, rfl, ?_⟩
    rw [ofJson_strings fun entry hentry => isStr_of_isValue _ (hall entry hentry)]
    show (FieldType.readEntries c (.enum values) (FieldType.isValue values) entries).map Obj.obj = _
    rw [readEntries_self isStr_of_isValue hall]
    rfl
  | anyList => cases hinv

/-! ## 4. Models -/

/-- Item by item, what was read is written and read again. -/
theorem mapM_dump {read : Obj → Option Obj} {write : Obj → Except BuiltinError Json}
    {legible : Obj → Prop} (hitem : ∀ value self, read value = some self → legible self →
      ∃ j, write self = .ok j ∧ read (.ofJson j) = some self)
    {items selves : List Obj} (hread : items.mapM read = some selves)
    (hlegible : ∀ self ∈ selves, legible self) :
    ∃ js, selves.mapM write = .ok js ∧ (Obj.ofItems js).mapM read = some selves := by
  induction items generalizing selves with
  | nil =>
    cases hread
    exact ⟨[], rfl, rfl⟩
  | cons value items ih =>
    rw [List.mapM_cons] at hread
    obtain ⟨self, hself, hread⟩ := Option.bind_eq_some_iff.mp hread
    obtain ⟨rest, hrest, hread⟩ := Option.bind_eq_some_iff.mp hread
    cases hread
    rw [List.forall_mem_cons] at hlegible
    obtain ⟨j, hwrite, hagain⟩ := hitem value self hself hlegible.1
    obtain ⟨js, hwrites, hagains⟩ := ih hrest hlegible.2
    refine ⟨j :: js, ?_, ?_⟩
    · rw [List.mapM_cons, hwrite, hwrites]
      rfl
    · rw [Obj.ofItems, List.mapM_cons, hagain, hagains]
      rfl

theorem mapM_length {read : Obj → Option Obj} {items selves : List Obj}
    (h : items.mapM read = some selves) :
    selves.length = items.length := by
  induction items generalizing selves with
  | nil =>
    cases h
    rfl
  | cons value items ih =>
    rw [List.mapM_cons] at h
    obtain ⟨self, -, h⟩ := Option.bind_eq_some_iff.mp h
    obtain ⟨rest, hrest, h⟩ := Option.bind_eq_some_iff.mp h
    cases h
    rw [List.length_cons, List.length_cons, ih hrest]

theorem validateFields_names {fields : List (Field × Schema)} {entries values : List (String × Obj)}
    (h : validateFields c fields entries = some values) :
    values.map Prod.fst = fields.map fun field => field.1.name := by
  induction fields generalizing values with
  | nil =>
    cases h
    rfl
  | cons field fields ih =>
    obtain ⟨value, rest, -, hrest, rfl⟩ := validateFields_cons_iff.mp h
    rw [List.map_cons, List.map_cons, ih hrest]

/-- The attributes of an instance. -/
theorem attr_of_mem {values : List (String × Obj)} (hnames : (values.map Prod.fst).Nodup)
    {entry : String × Obj} (hentry : entry ∈ values) : (Obj.obj values).attr entry.1 = entry.2 := by
  rw [Obj.attr, (mem_iff_lookup hnames entry.1 entry.2).mp hentry]
  rfl

theorem isNull_iff {value : Obj} : value.isNull = true ↔ value = .null := by
  cases value <;> simp [Obj.isNull]

/-- Where the value of a field comes from. -/
theorem settledField_value {field : Field} {type : Schema}
    {entries : List (String × Obj)} {value : Obj} (hsettled : settledField field type = true)
    (h : (field.find entries).elim field.default
      (fun found => type.validate c found.2) = some value) :
    (value.isNull = true → field.default = some .null) ∧
      (value.isNull = false → ∃ read, type.validate c read = some value) := by
  unfold settledField at hsettled
  cases hfind : field.find entries with
  | some found =>
    rw [hfind, Option.elim_some] at h
    refine ⟨fun hnull => ?_, fun _ => ⟨found.2, h⟩⟩
    rw [isNull_iff.mp hnull] at h
    split at hsettled
    · exact absurd h (validate_ne_null type found.2 (Bool.not_eq_true' _ ▸ hsettled))
    · assumption
    · exact absurd h
        (validate_ne_null type found.2 (Bool.not_eq_true' _ ▸ (Bool.and_eq_true _ _ ▸ hsettled).1))
  | none =>
    rw [hfind, Option.elim_none] at h
    refine ⟨fun hnull => isNull_iff.mp hnull ▸ h, fun hvalue => ⟨value, ?_⟩⟩
    split at hsettled
    · rename_i hdefault
      rw [hdefault] at h
      cases h
    · rename_i hdefault
      rw [hdefault] at h
      cases h
      cases hvalue
    · rename_i hdefault
      rw [hdefault] at h
      cases h
      exact settledDefault_validate (Bool.and_eq_true _ _ ▸ hsettled).2

mutual

/-- What a schema has read, it reads again from its dump. -/
theorem dump_validate : ∀ (schema : Schema) (value self : Obj), Invertible schema = true →
    schema.validate c value = some self → Legible c schema self →
      ∃ j, schema.dump c self = .ok j ∧ (Obj.ofJson j).isNull = self.isNull ∧
        schema.validate c (.ofJson j) = some self
  | .plain type, value, self, hinv, hself, hlegible => lax_dump type value self hinv hself hlegible
  | .union _, _, _, hinv, _, _ => by cases hinv
  | .nullable inner, value, self, hinv, hself, hlegible => by
    rw [Invertible] at hinv
    rw [Legible] at hlegible
    by_cases hnull : self.isNull = true
    · rw [isNull_iff.mp hnull]
      exact ⟨.null, rfl, rfl, rfl⟩
    · rw [Schema.validate] at hself
      have hvalue : ¬ value.isNull = true := by
        intro hvalue
        rw [if_pos hvalue] at hself
        cases hself
        exact hnull rfl
      rw [if_neg hvalue] at hself
      obtain ⟨j, hdump, hj, hagain⟩ :=
        dump_validate inner value self hinv hself (hlegible.resolve_left hnull)
      refine ⟨j, ?_, hj, ?_⟩
      · rw [Schema.dump, if_neg hnull, hdump]
      · rw [Schema.validate, hj, if_neg hnull, hagain]
  | .list minLength maxLength item, value, self, hinv, hself, hlegible => by
    rw [Invertible] at hinv
    obtain ⟨items, selves, rfl, hlength, hread, rfl⟩ := validate_list_eq_some hself
    rw [Legible] at hlegible
    obtain ⟨js, hdump, hagain⟩ := mapM_dump (fun value self hvalue hself => by
      obtain ⟨j, hdump, -, hagain⟩ := dump_validate item value self hinv hvalue hself
      exact ⟨j, hdump, hagain⟩) hread hlegible
    have hsame : (Obj.ofItems js).length = items.length := by
      rw [← mapM_length hagain, mapM_length hread]
    refine ⟨.arr js, ?_, rfl, ?_⟩
    · rw [Schema.dump, hdump]
      rfl
    · rw [ofJson_arr, Schema.validate, hsame, if_pos hlength, hagain]
      rfl
  | .record extra fields, value, self, hinv, hself, hlegible => by
    rw [Invertible, Bool.and_eq_true, decide_eq_true_eq] at hinv
    obtain ⟨entries, values, rfl, hread, rfl⟩ := validate_record_eq_some hself
    rw [Legible] at hlegible
    have hnames : (values.map Prod.fst).Nodup := by
      rw [validateFields_names hread]
      exact hinv.2
    obtain ⟨js, hdump, hwritten⟩ :=
      dumpFields_written fields entries values (.obj values) hinv.1 hread
        (fun entry hentry => attr_of_mem hnames hentry) hlegible
    have hagain := hwritten.read hinv.1 [] fun entry hentry => absurd hentry List.not_mem_nil
    rw [List.nil_append] at hagain
    -- every written key is the key of a field, so a model that forbids extra keys takes the dump
    have hused : refusesKeys extra fields (Obj.ofFields js) = false := by
      rw [refusesKeys_eq_false_iff]
      intro _ entry hentry
      obtain ⟨written, hmem, hkey⟩ := mem_ofFields hentry
      rw [hkey]
      exact hagain.2 written hmem
    refine ⟨.obj js, ?_, rfl, ?_⟩
    · rw [Schema.dump, hdump]
      rfl
    · rw [ofJson_obj, Schema.validate, hused, hagain.1]
      rfl
  | .checked inner check, value, self, hinv, hself, hlegible => by
    rw [Invertible] at hinv
    rw [Legible] at hlegible
    rw [Schema.validate, Option.filter_eq_some_iff] at hself
    obtain ⟨j, hdump, hj, hagain⟩ := dump_validate inner value self hinv hself.1 hlegible
    refine ⟨j, ?_, hj, ?_⟩
    · rw [Schema.dump, hdump]
    · rw [Schema.validate, hagain, Option.filter_some, if_pos hself.2]

theorem dumpFields_written :
    ∀ (fields : List (Field × Schema)) (entries values : List (String × Obj))
    (self : Obj), InvertibleFields fields = true → validateFields c fields entries = some values →
      (∀ entry ∈ values, self.attr entry.1 = entry.2) → LegibleFields c fields self →
        ∃ js, dumpFields c fields self = .ok js ∧ Written c fields values js
  | [], _, values, _, _, hvalues, _, _ => by
    cases hvalues
    exact ⟨[], rfl, .nil⟩
  | (field, type) :: fields, entries, values, self, hinv, hvalues, hattr, hlegible => by
    rw [InvertibleFields] at hinv
    simp only [Bool.and_eq_true] at hinv
    rw [LegibleFields] at hlegible
    obtain ⟨value, rest, hvalue, hrest, rfl⟩ := validateFields_cons_iff.mp hvalues
    rw [List.forall_mem_cons] at hattr
    obtain ⟨js, hdumps, hwritten⟩ :=
      dumpFields_written fields entries rest self hinv.2 hrest hattr.2 hlegible.2
    have hsource := settledField_value hinv.1.1.1.2 hvalue
    rw [hattr.1] at hlegible
    rw [dumpFields, hattr.1]
    cases hnull : value.isNull with
    | true =>
      rw [if_pos rfl, isNull_iff.mp hnull]
      exact ⟨js, hdumps, .absent (hsource.1 hnull) hwritten⟩
    | false =>
      obtain ⟨read, hread⟩ := hsource.2 hnull
      rw [hnull] at hlegible
      obtain ⟨j, hdump, -, hagain⟩ :=
        dump_validate type read value hinv.1.1.1.1 hread
          (hlegible.1.resolve_left Bool.false_ne_true)
      refine ⟨(writtenKey field, j) :: js, ?_, .present hagain hwritten⟩
      rw [hdump, hdumps]
      rfl

end

end

end JibitSdk.Reasoning
