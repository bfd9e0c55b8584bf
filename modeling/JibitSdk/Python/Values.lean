import Mathlib.Algebra.Order.Ring.Rat
import Mathlib.Data.Bool.AllAny

/-!
# Python values

The dynamic values the SDK inspects: what `json.loads` returns, what a log field may hold, and the
built-in exceptions that cross the SDK's `except` clauses.  Floats are exact rationals together
with the three special values; rounding is not modelled.  The parts of the standard library whose
tables or grammars are not spelled out here (`json.loads`, `str`, `float` of a string, `urlsplit`,
Unicode case and character classes, SHA-256) are the fields of a `Runtime`, over which every
definition and theorem is quantified.
-/

namespace JibitSdk.Python

/-! ## 1. Built-in exceptions -/

/-- The built-in exception classes the SDK's code can meet. -/
inductive BuiltinError where
  | valueError
  | unicodeDecodeError
  | unicodeEncodeError
  | jsonDecodeError
  | binasciiError
  | typeError
  | overflowError
  | recursionError
  | attributeError
  | other (name : String)
  deriving DecidableEq, Repr

/-- `isinstance(exc, ValueError)`: the class itself and its subclasses. -/
def BuiltinError.isValueError : BuiltinError → Bool
  | .valueError | .unicodeDecodeError | .unicodeEncodeError | .jsonDecodeError
  | .binasciiError => true
  | _ => false

/-! ## 2. Floats -/

inductive PyFloat where
  | finite (q : ℚ)
  | posInf
  | negInf
  | nan
  deriving DecidableEq, Repr

namespace PyFloat

/-- `a < b` on floats: false as soon as one side is `nan`. -/
def lt : PyFloat → PyFloat → Bool
  | .finite a, .finite b => decide (a < b)
  | .finite _, .posInf => true
  | .negInf, .finite _ => true
  | .negInf, .posInf => true
  | _, _ => false

/-- The least integer whose conversion to a double rounds past the largest finite one. -/
def intLimit : ℕ := 2 ^ 1024 - 2 ^ 970

/-- `float(n)`, also the implicit conversion of mixed arithmetic. -/
def ofInt (n : Int) : Except BuiltinError PyFloat :=
  if n.natAbs < intLimit then .ok (.finite n) else .error .overflowError

/-- `x + n` for a finite float and an integer. -/
def addInt (x : ℚ) (n : Int) : Except BuiltinError PyFloat :=
  if n.natAbs < intLimit then .ok (.finite (x + n)) else .error .overflowError

end PyFloat

/-! ## 3. JSON values -/

/-- What `json.loads` returns.  A dict is the list of its items, keys unique. -/
inductive Json where
  | null
  | bool (b : Bool)
  | int (n : Int)
  | float (x : PyFloat)
  | str (s : String)
  | arr (items : List Json)
  | obj (fields : List (String × Json))

namespace Json

/-- `bool(value)`. -/
def truthy : Json → Bool
  | .null => false
  | .bool b => b
  | .int n => n != 0
  | .float x => x != .finite 0
  | .str s => s != ""
  | .arr items => !items.isEmpty
  | .obj fields => !fields.isEmpty

/-- `a or b`. -/
def pyOr (a b : Json) : Json := if a.truthy then a else b

/-- `d.get(key)`; `None` is `null`. -/
def get (fields : List (String × Json)) (key : String) : Json := (fields.lookup key).getD .null

end Json

/-! ## 4. Values of log fields and metadata -/

/-- Values as `redact` tells them apart.  `object` is any other object, with its `str()`. -/
inductive PyVal where
  | none
  | bool (b : Bool)
  | int (n : Int)
  | float (x : PyFloat)
  | str (s : String)
  | bytes (data : List UInt8)
  | byteArray (data : List UInt8)
  | memoryView (data : List UInt8)
  | mapping (items : List (PyVal × PyVal))
  | sequence (items : List PyVal)
  | object (text : String)

namespace PyVal

/-- An optional string field. -/
def ofOption : Option String → PyVal
  | .none => .none
  | .some s => .str s

/-- Keyword arguments as the mapping the callee sees. -/
def kwargs (fields : List (String × PyVal)) : PyVal :=
  .mapping (fields.map fun f => (.str f.1, f.2))

end PyVal

/-! ## 5. The runtime -/

/-- The character classes of `str` patterns, with what the SDK's patterns rely on. -/
structure CharClasses where
  /-- `\d`: a Unicode decimal digit. -/
  isDecimal : Char → Bool
  /-- `\w`: a Unicode word character. -/
  isWord : Char → Bool
  decimal_of_ascii : ∀ c, c.isDigit = true → isDecimal c = true
  word_of_decimal : ∀ c, isDecimal c = true → isWord c = true
  word_of_alpha : ∀ c, c.isAlpha = true → isWord c = true
  decimal_not_alpha : ∀ c, c.isAlpha = true → isDecimal c = false
  /-- `I` with dot and `i` without, which `re.IGNORECASE` identifies with `i`. -/
  turkish_i : ∀ c, c = 'İ' ∨ c = 'ı' → isWord c = true ∧ isDecimal c = false
  punctuation : ∀ c ∈ [' ', '-', '+', '*', '[', ']', ':', '.', '/'],
    isWord c = false ∧ isDecimal c = false

/-- The ASCII fragment of the classes. -/
def CharClasses.ascii : CharClasses where
  isDecimal c := c.isDigit
  isWord c := c.isAlphanum || c == '_' || c == 'İ' || c == 'ı'
  decimal_of_ascii _ h := h
  word_of_decimal c h := by simp [Char.isAlphanum, h]
  word_of_alpha c h := by simp [Char.isAlphanum, h]
  decimal_not_alpha c h := by
    change (decide ('A'.val ≤ c.val ∧ c.val ≤ 'Z'.val) ||
      (decide ('a'.val ≤ c.val) && decide (c.val ≤ 'z'.val))) = true at h
    show (decide ('0'.val ≤ c.val) && decide (c.val ≤ '9'.val)) = false
    simp only [Bool.or_eq_true, Bool.and_eq_true, decide_eq_true_eq, Bool.and_eq_false_iff,
      decide_eq_false_iff_not, UInt32.le_iff_toNat_le] at *
    simp at *
    omega
  turkish_i c h := by rcases h with rfl | rfl <;> decide
  punctuation := List.all_iff_forall_prop.mp (by decide)

/-- Standard-library functions taken as they come. -/
structure Runtime where
  chars : CharClasses
  /-- `json.loads` of a byte string. -/
  jsonLoads : List UInt8 → Except BuiltinError Json
  /-- `str()` of a JSON value. -/
  str : Json → String
  str_str : ∀ s, str (.str s) = s
  /-- `str()` of a log value. -/
  strVal : PyVal → String
  strVal_str : ∀ s, strVal (.str s) = s
  /-- `float(s)` of a string; `none` is its `ValueError`. -/
  floatOfStr : String → Option PyFloat
  /-- `str.upper`. -/
  upper : String → String
  /-- ASCII capitals stay as they are. -/
  upper_capitals : ∀ s, (∀ c ∈ s.toList, c.isUpper = true) → upper s = s
  /-- `str.lower`. -/
  lower : String → String
  /-- Scheme and network location of `urllib.parse.urlsplit`. -/
  urlsplit : String → Except BuiltinError (String × String)
  /-- A path of plain characters below a single slash has neither. -/
  urlsplit_path : ∀ c rest, c ≠ '/' →
    (∀ d ∈ c :: rest, d.isAlphanum = true ∨ d = '/' ∨ d = '-' ∨ d = '_') →
      urlsplit (String.ofList ('/' :: c :: rest)) = .ok ("", "")
  /-- `hashlib.sha256(s.encode()).hexdigest()`. -/
  sha256Hex : String → String

/-- `float(value)` of a JSON value, with its exceptions. -/
def Runtime.float (rt : Runtime) : Json → Except BuiltinError PyFloat
  | .bool b => .ok (.finite (if b then 1 else 0))
  | .int n => PyFloat.ofInt n
  | .float x => .ok x
  | .str s => match rt.floatOfStr s with
    | some x => .ok x
    | none => .error .valueError
  | .null | .arr _ | .obj _ => .error .typeError

end JibitSdk.Python
