import JibitSdk.Python.Values
import JibitSdk.Reasoning.Dict
import JibitSdk.Reasoning.Pattern

/-!
# Redaction

`jibit/redaction.py`: sensitive key names, the four identifier patterns, and the recursive copy
that log fields and audit metadata go through.
-/

namespace JibitSdk.Sdk

open JibitSdk.Python JibitSdk.Reasoning

def REDACTED : String := "[REDACTED]"

/-! ## 1. Sensitive keys -/

/-- `_SENSITIVE_KEY_PARTS`. -/
def sensitiveKeyParts : List String :=
  ["access_token", "authorization", "account", "birth_date", "batch_id", "card", "client_secret",
    "credential", "cvv", "identity", "message", "iban", "image", "kyc", "national_id",
    "national_code", "fida", "face", "file", "media", "mobile", "receptor", "payment_id", "otp",
    "password", "refresh_token", "secret", "signed_document", "signer", "signature",
    "transfer_id", "token", "video"]

/-- `part in text`. -/
def occursIn (part text : List Char) : Bool := text.tails.any part.isPrefixOf

/-- `(?<!^)(?=[A-Z])`: before every capital but the first character. -/
def capitalBoundary : Pattern Char := .seq .notStart (.ahead Char.isUpper)

/-- `_normalize_key`, of the key's `str()`. -/
def normalizeKey (rt : Runtime) (key : String) : String :=
  let spaced := String.ofList (capitalBoundary.sub (fun _ => ['_']) key.toList)
  (rt.lower spaced).map fun c => if c = '-' then '_' else c

def isSensitiveKey (rt : Runtime) (key : PyVal) : Bool :=
  let normalized := normalizeKey rt (rt.strVal key)
  sensitiveKeyParts.any fun part => occursIn part.toList normalized.toList

/-! ## 2. Identifiers in free text -/

section Patterns
variable (u : CharClasses)

/-- `\bIR\d{24}\b`, ignoring case. -/
def ibanRe : Pattern Char :=
  .seq (.boundary u.isWord) (.seq (.one fun c => c == 'I' || c == 'i' || c == 'İ' || c == 'ı')
    (.seq (.one fun c => c == 'R' || c == 'r')
      (.seq ((Pattern.one u.isDecimal).times 24) (.boundary u.isWord))))

/-- `(?<!\d)(?:\d[ -]?){16}(?!\d)`. -/
def cardRe : Pattern Char :=
  .seq (.notBehind u.isDecimal)
    (.seq ((Pattern.seq (.one u.isDecimal) (.opt (.one fun c => c == ' ' || c == '-'))).times 16)
      (.notAhead u.isDecimal))

/-- `(?<!\d)(?:\+98|0098|0)?9\d{9}(?!\d)`. -/
def mobileRe : Pattern Char :=
  .seq (.notBehind u.isDecimal)
    (.seq (.opt (.alt (.lit ['+', '9', '8']) (.alt (.lit ['0', '0', '9', '8']) (.lit ['0']))))
      (.seq (.lit ['9']) (.seq ((Pattern.one u.isDecimal).times 9) (.notAhead u.isDecimal))))

/-- `(?<!\d)\d{10}(?!\d)`. -/
def nationalIdRe : Pattern Char :=
  .seq (.notBehind u.isDecimal)
    (.seq ((Pattern.one u.isDecimal).times 10) (.notAhead u.isDecimal))

/-- `'*' * n` followed by `text[-4:]`. -/
def starred (n : Nat) (text : List Char) : List Char :=
  List.replicate n '*' ++ text.drop (text.length - 4)

def maskIban (m : List Char) : List Char := 'I' :: 'R' :: starred 20 m

/-- `_digits`. -/
def digits (text : List Char) : List Char := text.filter u.isDecimal

def maskCard (m : List Char) : List Char := starred 12 (digits u m)

def maskMobile (m : List Char) : List Char := starred 7 m

def maskNationalId (m : List Char) : List Char := starred 6 m

/-- `redact_text`: the four substitutions, each on the text the one before left. -/
def redactText (value : List Char) : List Char :=
  let value := (ibanRe u).sub maskIban value
  let value := (cardRe u).sub (maskCard u) value
  let value := (mobileRe u).sub maskMobile value
  (nationalIdRe u).sub maskNationalId value

end Patterns

/-- `redact_text` on strings. -/
def redactStr (rt : Runtime) (value : String) : String :=
  String.ofList (redactText rt.chars value.toList)

/-! ## 3. Structural redaction -/

/-- The summary that stands for a binary value. -/
def binarySummary (data : List UInt8) : PyVal := .str s!"[BINARY:{data.length} bytes]"

mutual

/-- `redact(value)` without a key. -/
def redact (rt : Runtime) : PyVal → PyVal
  | .none => .none
  | .bool b => .bool b
  | .int n => .int n
  | .float x => .float x
  | .str s => .str (redactStr rt s)
  | .bytes data => binarySummary data
  -- The dict comprehension: of keys with one `str()` the last value stays.
  | .mapping items => .mapping ((dictOf (redactItems rt items)).map fun i => (.str i.1, i.2))
  | .sequence items => .sequence (redactAll rt items)
  -- `bytearray` and `memoryview` are registered as `Sequence`: a list of their integers.
  | .byteArray data => .sequence (data.map fun b => .int b.toNat)
  | .memoryView data => .sequence (data.map fun b => .int b.toNat)
  | .object text => .str (redactStr rt text)

/-- The items of a mapping, each value redacted under its key. -/
def redactItems (rt : Runtime) : List (PyVal × PyVal) → List (String × PyVal)
  | [] => []
  | (key, value) :: items =>
      (rt.strVal key, if isSensitiveKey rt key then .str REDACTED else redact rt value)
        :: redactItems rt items

/-- The items of a sequence. -/
def redactAll (rt : Runtime) : List PyVal → List PyVal
  | [] => []
  | value :: items => redact rt value :: redactAll rt items

end

end JibitSdk.Sdk
