import JibitSdk.Python.Values

/-!
# Pydantic models

What `model_validate` makes of Python objects: field types with their lax and strict conversions,
model classes with aliases, defaults, a policy for other keys and validators, and `model_dump`.
-/

namespace JibitSdk.Python

/-! ## 1. Objects -/

/-- `datetime`: its wall clock in microseconds and, if it is aware, its zone
    with the offset there. -/
structure DateTime where
  wall : ℤ
  zone : Option (String × ℤ) := none
  deriving DecidableEq, Repr

namespace DateTime

def isAware (t : DateTime) : Bool := t.zone.isSome

/-- `a > b`: in one zone, or without zones, by the wall clocks. -/
def gt (a b : DateTime) : Except BuiltinError Bool :=
  match a.zone, b.zone with
  | none, none => .ok (decide (b.wall < a.wall))
  | some za, some zb =>
    if za.1 = zb.1 then .ok (decide (b.wall < a.wall))
    else .ok (decide (b.wall - zb.2 < a.wall - za.2))
  | _, _ => .error .typeError

end DateTime

/-- Python objects as Pydantic tells them apart.  The first seven are what `json.loads` returns; a
    tuple or set stands with the lists, another mapping with the dicts, a member of a string
    enumeration with the strings, and a model instance is the dict of its fields. -/
inductive Obj where
  | null
  | bool (b : Bool)
  | int (n : ℤ)
  | float (x : PyFloat)
  | str (s : String)
  | arr (items : List Obj)
  | obj (entries : List (String × Obj))
  | datetime (t : DateTime)
  | uuid (text : String)
  | url (text : String)
  | ip (text : String)
  | other (text : String)

/-- `value is None`. -/
def Obj.isNull : Obj → Bool
  | .null => true
  | _ => false

mutual

def Obj.ofJson : Json → Obj
  | .null => .null
  | .bool b => .bool b
  | .int n => .int n
  | .float x => .float x
  | .str s => .str s
  | .arr items => .arr (Obj.ofItems items)
  | .obj fields => .obj (Obj.ofFields fields)

def Obj.ofItems : List Json → List Obj
  | [] => []
  | item :: items => Obj.ofJson item :: Obj.ofItems items

def Obj.ofFields : List (String × Json) → List (String × Obj)
  | [] => []
  | (key, value) :: fields => (key, Obj.ofJson value) :: Obj.ofFields fields

end

/-! ## 2. Field types -/

/-- Types of fields that are no models. -/
inductive FieldType where
  | str (minLength : ℕ := 0) (maxLength : Option ℕ := none) (pattern : Option String := none)
  /-- `SecretStr`, as the text it holds. -/
  | secret
  | int (least : Option ℤ := none) (most : Option ℤ := none)
  | float
  | bool
  | enum (values : List String)
  | datetime
  | awareDatetime
  | uuid
  | httpUrl (maxLength : Option ℕ := none)
  | ip
  /-- `dict[str, Any]`. -/
  | dict
  /-- `dict[str, str]`. -/
  | dictOfStr
  /-- A mapping of strings to these values. -/
  | dictOf (values : List String)
  /-- `list[Any]`. -/
  | anyList

/-- The conversions of text, numbers and patterns, and the texts of values, taken as they come. -/
structure Coercions where
  /-- An integer written as text. -/
  intOfStr : String → Option ℤ
  /-- A float written as text. -/
  floatOfStr : String → Option PyFloat
  /-- A boolean written as text. -/
  boolOfStr : String → Option Bool
  /-- A date and time, from text or a timestamp. -/
  datetimeOf : Obj → Option DateTime
  uuidOf : String → Option String
  httpUrlOf : String → Option String
  /-- An address, from text or a number. -/
  ipOf : Obj → Option String
  /-- A search for this pattern. -/
  holds : String → String → Bool
  isoformat : DateTime → String
  /-- What a field of this type reads an object of another kind as: bytes, a `Decimal`, a secret. -/
  other : FieldType → String → Option Obj
  /-- The dump of a value of type `Any`. -/
  dumpAny : Obj → Except BuiltinError Json

namespace FieldType

/-- The integers Pydantic reads: integers, booleans, floats of 64 bits without fraction, text. -/
def integer (c : Coercions) : Obj → Option ℤ
  | .int n => some n
  | .bool b => some (if b then 1 else 0)
  | .float (.finite q) => if q.den = 1 ∧ q.num.natAbs < 2 ^ 63 then some q.num else none
  | .str s => c.intOfStr s
  | _ => none

/-- A date and time as it is, or read from text or a number. -/
def instant (c : Coercions) : Obj → Option DateTime
  | .datetime t => some t
  | value => c.datetimeOf value

/-- Text is one of these values. -/
def isValue (values : List String) : Obj → Bool
  | .str s => values.contains s
  | _ => false

def isStr : Obj → Bool
  | .str _ => true
  | _ => false

/-- The object itself, or what it is read as. -/
def readAs (c : Coercions) (type : FieldType) : Obj → Option Obj
  | .other text => c.other type text
  | value => some value

/-- The entries of a dict, with values of this type. -/
def readEntries (c : Coercions) (type : FieldType) (ofType : Obj → Bool)
    (entries : List (String × Obj)) :
    Option (List (String × Obj)) :=
  entries.mapM fun entry =>
    ((readAs c type entry.2).filter ofType).map fun value => (entry.1, value)

/-- Validation with conversions, of the kinds of objects that are told apart. -/
def convert (c : Coercions) : FieldType → Obj → Option Obj
  | .str minLength maxLength pattern, .str s =>
    if minLength ≤ s.length ∧ maxLength.all (s.length ≤ ·) ∧ pattern.all (c.holds · s) then
      some (.str s) else none
  | .secret, .str s => some (.str s)
  | .int least most, value =>
    ((integer c value).filter fun n => least.all (· ≤ n) && most.all (n ≤ ·)).map .int
  | .float, .float x => some (.float x)
  | .float, .int n => (PyFloat.ofInt n).toOption.map .float
  | .float, .bool b => some (.float (.finite (if b then 1 else 0)))
  | .float, .str s => (c.floatOfStr s).map .float
  | .bool, .bool b => some (.bool b)
  | .bool, .int n => if n = 0 then some (.bool false) else if n = 1 then some (.bool true) else none
  | .bool, .float x =>
    if x = .finite 0 then some (.bool false) else if x = .finite 1 then some (.bool true) else none
  | .bool, .str s => (c.boolOfStr s).map .bool
  | .enum values, .str s => if values.contains s then some (.str s) else none
  | .datetime, value => (instant c value).map .datetime
  | .awareDatetime, value => ((instant c value).filter DateTime.isAware).map .datetime
  | .uuid, .uuid text => some (.uuid text)
  | .uuid, .str s => (c.uuidOf s).map .uuid
  | .httpUrl maxLength, .str s =>
    ((c.httpUrlOf s).filter fun text => maxLength.all (text.length ≤ ·)).map .url
  | .httpUrl maxLength, .url text =>
      if maxLength.all (text.length ≤ ·) then some (.url text) else none
  | .ip, .ip text => some (.ip text)
  | .ip, value => (c.ipOf value).map .ip
  | .dict, .obj entries => some (.obj entries)
  | .dictOfStr, .obj entries => (readEntries c .str isStr entries).map .obj
  | .dictOf values, .obj entries => (readEntries c (.enum values) (isValue values) entries).map .obj
  | .anyList, .arr items => some (.arr items)
  | _, _ => none

/-- Validation with conversions. -/
def lax (c : Coercions) (type : FieldType) (value : Obj) : Option Obj :=
  (readAs c type value).bind (convert c type)

/-- What is accepted was converted, from the object itself or from what it is read as. -/
theorem lax_eq_some_iff {c : Coercions} {type : FieldType} {value self : Obj} :
    type.lax c value = some self ↔ ∃ read, readAs c type value = some read ∧
    type.convert c read = some self :=
  Option.bind_eq_some_iff

/-- Values that are of the type already. -/
def strict (c : Coercions) : FieldType → Obj → Option Obj
  | .str minLength maxLength pattern, .str s =>
      convert c (.str minLength maxLength pattern) (.str s)
  | .int least most, .int n => convert c (.int least most) (.int n)
  | .float, .float x => some (.float x)
  | .float, .int n => convert c .float (.int n)
  | .bool, .bool b => some (.bool b)
  | .uuid, .uuid text => some (.uuid text)
  | .dict, .obj entries => some (.obj entries)
  | .anyList, .arr items => some (.arr items)
  | _, _ => none

/-- A union: the first member that fits as it stands, else the first that fits by conversion.
    Unions stand in models of JSON bodies, and these hold no objects of another kind. -/
def union (c : Coercions) (members : List FieldType) (value : Obj) : Option Obj :=
  (members.findSome? (strict c · value)).or (members.findSome? (convert c · value))

end FieldType

/-! ## 3. Model classes -/

/-- `extra`: what becomes of keys no field takes. -/
inductive Extra where
  | allow
  | forbid
  deriving DecidableEq, Repr

/-- A field: its name, the keys it is read from, in this order, and its default. -/
structure Field where
  name : String
  keys : List String
  default : Option Obj

/-- The key of the field in a dict, its first, with the value there. -/
def Field.find (field : Field) (entries : List (String × Obj)) : Option (String × Obj) :=
  field.keys.findSome? fun key => (entries.lookup key).map fun value => (key, value)

/-- What a field or a whole document may be.  A validated record is the dict of its fields under
    their names; what `extra="allow"` keeps beside them is no field. -/
inductive Schema where
  | plain (type : FieldType)
  | union (members : List FieldType)
  /-- `X | None`. -/
  | nullable (inner : Schema)
  | list (minLength : ℕ) (maxLength : Option ℕ) (item : Schema)
  | record (extra : Extra) (fields : List (Field × Schema))
  /-- A validator of the value that raises a `ValueError` unless the check holds. -/
  | checked (inner : Schema) (check : Obj → Bool)

/-- The keys the fields are read from in this dict. -/
def usedKeys (fields : List (Field × Schema)) (entries : List (String × Obj)) : List String :=
  fields.filterMap fun field => (field.1.find entries).map (·.1)

/-- Whether the policy refuses a key of the dict. -/
def refusesKeys (extra : Extra) (fields : List (Field × Schema)) (entries : List (String × Obj)) :
    Bool :=
  extra = .forbid && entries.any fun entry => !(usedKeys fields entries).contains entry.1

mutual

def Schema.validate (c : Coercions) : Schema → Obj → Option Obj
  | .plain type, value => type.lax c value
  | .union members, value => FieldType.union c members value
  | .nullable inner, value => if value.isNull then some .null else inner.validate c value
  | .list minLength maxLength item, .arr items =>
    if minLength ≤ items.length ∧ maxLength.all (items.length ≤ ·) then
      (items.mapM fun value => item.validate c value).map .arr
    else none
  | .list _ _ _, _ => none
  | .record extra fields, .obj entries =>
    if refusesKeys extra fields entries then none
    else (validateFields c fields entries).map .obj
  | .record _ _, _ => none
  | .checked inner check, value => (inner.validate c value).filter check

def validateFields (c : Coercions) :
    List (Field × Schema) → List (String × Obj) → Option (List (String × Obj))
  | [], _ => some []
  | (field, type) :: fields, entries => do
    let value ← (field.find entries).elim field.default fun found => type.validate c found.2
    let rest ← validateFields c fields entries
    some ((field.name, value) :: rest)

end

/-- A model class: its `before` validator, its fields, and its `after` validator, which gets the
    fields.  Validators may raise. -/
structure ModelClass where
  before : Obj → Except BuiltinError Obj := .ok
  schema : Schema
  after : Obj → Except BuiltinError Unit := fun _ => .ok ()

/-- What a validator raises: a `ValueError` is a validation error. -/
def validatorError (e : BuiltinError) : Except BuiltinError (Option Obj) :=
  if e.isValueError then .ok none else .error e

/-- The instance, unless its `after` validator has raised. -/
def validated (self : Obj) : Except BuiltinError Unit → Except BuiltinError (Option Obj)
  | .error e => validatorError e
  | .ok () => .ok (some self)

/-- The fields and the `after` validator. -/
def ModelClass.validateRead (c : Coercions) (m : ModelClass) (value : Obj) :
    Except BuiltinError (Option Obj) :=
  (m.schema.validate c value).elim (.ok none) fun self => validated self (m.after self)

/-- `model_validate`; `none` is its validation error. -/
def ModelClass.modelValidate (c : Coercions) (m : ModelClass) (value : Obj) :
    Except BuiltinError (Option Obj) :=
  match m.before value with
  | .error e => validatorError e
  | .ok value => m.validateRead c value

/-! ## 4. Dumps -/

/-- The dump of a value whose type is no model, not `Any`, and no list. -/
def dumpLeaf (c : Coercions) : Obj → Json
  | .bool b => .bool b
  | .int n => .int n
  | .float x => .float x
  | .str s => .str s
  | .datetime t => .str (c.isoformat t)
  | .uuid text => .str text
  | .url text => .str text
  | .ip text => .str text
  | .obj entries => .obj (entries.map fun entry => match entry.2 with
    | .str s => (entry.1, .str s)
    | _ => (entry.1, .null))
  | _ => .null

/-- A secret is dumped as asterisks. -/
def maskSecret : Obj → Json
  | .str s => .str (if s = "" then "" else "**********")
  | _ => .null

/-- `self.name`. -/
def Obj.attr (self : Obj) (name : String) : Obj :=
  match self with
  | .obj values => (values.lookup name).getD .null
  | _ => .null

mutual

/-- `model_dump(by_alias=True, exclude_none=True, mode="json")` of a validated value. -/
def Schema.dump (c : Coercions) : Schema → Obj → Except BuiltinError Json
  | .plain .dict, value => c.dumpAny value
  | .plain .anyList, value => c.dumpAny value
  | .plain .secret, value => .ok (maskSecret value)
  | .plain _, value => .ok (dumpLeaf c value)
  | .union _, value => .ok (dumpLeaf c value)
  | .nullable inner, value => if value.isNull then .ok .null else inner.dump c value
  | .list _ _ item, .arr items => (items.mapM fun value => item.dump c value).map .arr
  | .list _ _ _, _ => .ok .null
  | .record _ fields, value => (dumpFields c fields value).map .obj
  | .checked inner _, value => inner.dump c value

def dumpFields (c : Coercions) :
    List (Field × Schema) → Obj → Except BuiltinError (List (String × Json))
  | [], _ => .ok []
  | (field, type) :: fields, self =>
    if (self.attr field.name).isNull then dumpFields c fields self
    else do
      let value ← type.dump c (self.attr field.name)
      let rest ← dumpFields c fields self
      .ok ((field.keys.headD field.name, value) :: rest)

end

end JibitSdk.Python
