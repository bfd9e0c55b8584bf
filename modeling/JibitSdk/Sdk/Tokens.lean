import JibitSdk.Python.Values

/-!
# Token state and expiry discovery

`jibit/auth/tokens.py`, with the base64 decoder it calls.
-/

namespace JibitSdk.Sdk

open JibitSdk.Python

/-! ## 1. Token state -/

structure TokenState where
  accessToken : String
  refreshToken : Option String := none
  expiresAt : Option PyFloat := none
  refreshExpiresAt : Option PyFloat := none
  tokenType : String := "Bearer"
  scopes : List String := []
  deriving DecidableEq

namespace TokenState

def accessValue (t : TokenState) : String := t.accessToken

/-- `refresh_value`: an empty secret is falsy, so it reads as absent. -/
def refreshValue (t : TokenState) : Option String := t.refreshToken.filter (· != "")

/-- `expires_at is None or now + leeway < expires_at`. -/
def notExpired (now : ℚ) (leeway : ℕ) : Option PyFloat → Bool
  | none => true
  | some expiry => PyFloat.lt (.finite (now + leeway)) expiry

def isAccessValid (t : TokenState) (now : ℚ) (leeway : ℕ) : Bool :=
  notExpired now leeway t.expiresAt

def isRefreshValid (t : TokenState) (now : ℚ) (leeway : ℕ) : Bool :=
  t.refreshToken.isSome && notExpired now leeway t.refreshExpiresAt

end TokenState

/-! ## 2. Base64 -/

/-- The 6-bit value of a character of the standard alphabet. -/
def base64Value (b : UInt8) : Option ℕ :=
  let n := b.toNat
  if 65 ≤ n ∧ n ≤ 90 then some (n - 65)
  else if 97 ≤ n ∧ n ≤ 122 then some (n - 71)
  else if 48 ≤ n ∧ n ≤ 57 then some (n + 4)
  else if n = 43 then some 62
  else if n = 47 then some 63
  else none

/-- The loop of `binascii.a2b_base64` outside strict mode: `quad` characters of the current group
    are read, `left` holds their unwritten bits, `pads` counts the `=` since the last of them.
    Characters outside the alphabet are skipped. -/
def a2bBase64 : (quad left pads : ℕ) → List UInt8 → Except BuiltinError (List UInt8)
  | quad, _, _, [] => if quad = 0 then .ok [] else .error .binasciiError
  | quad, left, pads, b :: bs =>
    if b = 61 then
      if 2 ≤ quad ∧ 4 ≤ quad + (pads + 1) then .ok []
      else a2bBase64 quad left (if 2 ≤ quad then pads + 1 else pads) bs
    else match base64Value b with
      | none => a2bBase64 quad left pads bs
      | some v => match quad with
        | 0 => a2bBase64 1 v 0 bs
        | 1 => return .ofNat (left * 4 + v / 16) :: (← a2bBase64 2 (v % 16) 0 bs)
        | 2 => return .ofNat (left * 16 + v / 4) :: (← a2bBase64 3 (v % 4) 0 bs)
        | _ => return .ofNat (left * 64 + v) :: (← a2bBase64 0 0 0 bs)

/-- `base64.urlsafe_b64decode`. -/
def urlsafeB64decode (data : List UInt8) : Except BuiltinError (List UInt8) :=
  a2bBase64 0 0 0 (data.map fun b => if b = 45 then 43 else if b = 95 then 47 else b)

/-- `text.encode("ascii")`. -/
def encodeAscii (text : List Char) : Except BuiltinError (List UInt8) :=
  if text.all fun c => c.toNat < 128 then .ok (text.map fun c => .ofNat c.toNat)
  else .error .unicodeEncodeError

/-! ## 3. JWT expiry -/

/-- The `exp` claim of a JWT payload, with every exception its decoding can raise. -/
def payloadExpiry (rt : Runtime) (payload : List Char) :
    Except BuiltinError (Option PyFloat) := do
  let padded := payload ++ List.replicate ((4 - payload.length % 4) % 4) '='
  let decoded ← rt.jsonLoads (← urlsafeB64decode (← encodeAscii padded))
  match decoded with
  | .obj fields => match Json.get fields "exp" with
    | .null => return none
    | expiry => return some (← rt.float expiry)
  | _ => return none

/-- `jwt_expiry`.  An `OverflowError` of `float(exp)` is not among the classes caught. -/
def jwtExpiry (rt : Runtime) (token : String) : Except BuiltinError (Option PyFloat) :=
  match token.toList.splitOn '.' with
  | [_, payload, _] => match payloadExpiry rt payload with
    | .ok expiry => .ok expiry
    | .error e => if e.isValueError || e = .typeError then .ok none else .error e
  | _ => .ok none

end JibitSdk.Sdk
