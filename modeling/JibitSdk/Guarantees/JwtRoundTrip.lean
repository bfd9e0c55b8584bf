import JibitSdk.Guarantees.Decoding
import JibitSdk.Guarantees.World
import JibitSdk.Reasoning.Base64

/-!
# The expiry of an encoded token

The encoder of JWT payloads, unpadded base64url, and `jwt_expiry` as its inverse: the padding is
recomputed from the length, the decoder gives the bytes back, and `json.loads` the claims.
-/

namespace JibitSdk.Guarantees

open JibitSdk.Python JibitSdk.Reasoning JibitSdk.Sdk

/-! ## 1. The encoder -/

/-- The character of a 6-bit value in the URL-safe alphabet. -/
def urlsafeChar (v : ℕ) : Char :=
  if v < 26 then .ofNat (v + 65)
  else if v < 52 then .ofNat (v + 71)
  else if v < 62 then .ofNat (v - 4)
  else if v = 62 then '-' else '_'

/-- `base64.urlsafe_b64encode(data).rstrip(b"=")`. -/
def urlsafeB64encode (data : List UInt8) : List Char := (Base64.sextets data).map urlsafeChar

/-- The byte of a 6-bit value once `urlsafe_b64decode` has replaced `-` and `_`. -/
def standardByte (v : ℕ) : UInt8 :=
  let b := UInt8.ofNat (urlsafeChar v).toNat
  if b = 45 then 43 else if b = 95 then 47 else b

theorem urlsafeChar_plain : ∀ v < 64, (urlsafeChar v).toNat < 128 ∧ urlsafeChar v ≠ '.' := by
  decide

theorem base64Value_standardByte :
    ∀ v < 64, standardByte v ≠ 61 ∧ base64Value (standardByte v) = some v := by
  decide

/-! ## 2. The decoder on encoded text -/

section Steps

variable {b : UInt8} {v : ℕ} {bs out : List UInt8} (left pads : ℕ)

theorem a2bBase64_first (hb : b ≠ 61) (hv : base64Value b = some v) :
    a2bBase64 0 left pads (b :: bs) = a2bBase64 1 v 0 bs := by
  rw [a2bBase64, if_neg hb, hv]
  rfl

theorem a2bBase64_second (hb : b ≠ 61) (hv : base64Value b = some v)
    (h : a2bBase64 2 (v % 16) 0 bs = .ok out) :
    a2bBase64 1 left pads (b :: bs) = .ok (.ofNat (left * 4 + v / 16) :: out) := by
  rw [a2bBase64, if_neg hb, hv]
  simp only [h]
  rfl

theorem a2bBase64_third (hb : b ≠ 61) (hv : base64Value b = some v)
    (h : a2bBase64 3 (v % 4) 0 bs = .ok out) :
    a2bBase64 2 left pads (b :: bs) = .ok (.ofNat (left * 16 + v / 4) :: out) := by
  rw [a2bBase64, if_neg hb, hv]
  simp only [h]
  rfl

theorem a2bBase64_fourth (hb : b ≠ 61) (hv : base64Value b = some v)
    (h : a2bBase64 0 0 0 bs = .ok out) :
    a2bBase64 3 left pads (b :: bs) = .ok (.ofNat (left * 64 + v) :: out) := by
  rw [a2bBase64, if_neg hb, hv]
  simp only [h]
  rfl

end Steps

/-- The padding that `"=" * (-len(parts[1]) % 4)` adds. -/
def paddingFor (length : ℕ) : ℕ := (4 - length % 4) % 4

/-- Padded to a multiple of four, the decoder reads any 6-bit values back, in groups of four.  A
    single value left over is no encoding of bytes. -/
theorem a2bBase64_octets (vs : List ℕ) (hlt : ∀ v ∈ vs, v < 64) (hlength : vs.length % 4 ≠ 1) :
    a2bBase64 0 0 0 (vs.map standardByte ++ List.replicate (paddingFor vs.length) 61) =
      .ok (Base64.octets vs) := by
  induction vs using Base64.octets.induct with
  | case1 v w x y rest ih =>
    have hv := base64Value_standardByte v (hlt v (by simp))
    have hw := base64Value_standardByte w (hlt w (by simp))
    have hx := base64Value_standardByte x (hlt x (by simp))
    have hy := base64Value_standardByte y (hlt y (by simp))
    have hpadding : paddingFor (v :: w :: x :: y :: rest).length = paddingFor rest.length := by
      simp only [paddingFor, List.length_cons]
      omega
    have hrest :=
      ih (fun z hz => hlt z (by simp [hz])) (by simp only [List.length_cons] at hlength; omega)
    rw [hpadding, List.map_cons, List.map_cons, List.map_cons, List.map_cons, List.cons_append,
      List.cons_append, List.cons_append, List.cons_append,
      a2bBase64_first 0 0 hv.1 hv.2, Base64.octets]
    apply a2bBase64_second v 0 hw.1 hw.2
    apply a2bBase64_third (w % 16) 0 hx.1 hx.2
    exact a2bBase64_fourth (x % 4) 0 hy.1 hy.2 hrest
  | case2 v w x =>
    have hv := base64Value_standardByte v (hlt v (by simp))
    have hw := base64Value_standardByte w (hlt w (by simp))
    have hx := base64Value_standardByte x (hlt x (by simp))
    have htext : [v, w, x].map standardByte ++ List.replicate (paddingFor [v, w, x].length) 61 =
        [standardByte v, standardByte w, standardByte x, 61] := rfl
    rw [htext, a2bBase64_first 0 0 hv.1 hv.2, Base64.octets]
    apply a2bBase64_second v 0 hw.1 hw.2
    exact a2bBase64_third (w % 16) 0 hx.1 hx.2 rfl
  | case3 v w =>
    have hv := base64Value_standardByte v (hlt v (by simp))
    have hw := base64Value_standardByte w (hlt w (by simp))
    have htext : [v, w].map standardByte ++ List.replicate (paddingFor [v, w].length) 61 =
        [standardByte v, standardByte w, 61, 61] := rfl
    rw [htext, a2bBase64_first 0 0 hv.1 hv.2, Base64.octets]
    exact a2bBase64_second v 0 hw.1 hw.2 rfl
  | case4 vs hfour hthree htwo =>
    rcases vs with _ | ⟨v, _ | ⟨w, _ | ⟨x, _ | ⟨y, rest⟩⟩⟩⟩
    · rfl
    · exact absurd rfl hlength
    · exact absurd rfl (htwo v w)
    · exact absurd rfl (hthree v w x)
    · exact absurd rfl (hfour v w x y rest)

theorem encodeAscii_ok {text : List Char} (h : ∀ c ∈ text, c.toNat < 128) :
    encodeAscii text = .ok (text.map fun c => .ofNat c.toNat) := by
  unfold encodeAscii
  rw [if_pos]
  exact List.all_eq_true.mpr fun c hc => decide_eq_true (h c hc)

/-- `urlsafe_b64decode` on the padded text of any bytes. -/
theorem urlsafeB64decode_padded (data : List UInt8) :
    encodeAscii (urlsafeB64encode data ++
        List.replicate (paddingFor (urlsafeB64encode data).length) '=') >>= urlsafeB64decode =
      .ok data := by
  have hlt := Base64.sextets_lt data
  have hcount := Base64.length_sextets data
  have hlength : (urlsafeB64encode data).length = (Base64.sextets data).length := List.length_map _
  have hascii : ∀ c ∈ urlsafeB64encode data ++
      List.replicate (paddingFor (urlsafeB64encode data).length) '=', c.toNat < 128 := by
    intro c hc
    rcases List.mem_append.mp hc with hc | hc
    · obtain ⟨v, hv, rfl⟩ := List.mem_map.mp hc
      exact (urlsafeChar_plain v (hlt v hv)).1
    · rw [List.eq_of_mem_replicate hc]
      decide
  rw [encodeAscii_ok hascii]
  show urlsafeB64decode _ = _
  unfold urlsafeB64decode urlsafeB64encode
  rw [List.map_append, List.map_append, List.map_map, List.map_map, List.map_replicate,
    List.map_replicate, List.length_map]
  have hdecode := a2bBase64_octets (Base64.sextets data) hlt (by omega)
  rw [Base64.octets_sextets] at hdecode
  exact hdecode

/-! ## 3. The token -/

theorem dot_notMem_urlsafeB64encode (data : List UInt8) : '.' ∉ urlsafeB64encode data := by
  intro hdot
  obtain ⟨v, hv, hchar⟩ := List.mem_map.mp hdot
  exact (urlsafeChar_plain v (Base64.sextets_lt data v hv)).2 hchar

/-- `header.payload.signature` with this payload. -/
def encodedToken (header signature : String) (data : List UInt8) : String :=
  header ++ "." ++ String.ofList (urlsafeB64encode data) ++ "." ++ signature

theorem jwtPayload_encodedToken {header signature : String} (data : List UInt8)
    (hheader : '.' ∉ header.toList) (hsignature : '.' ∉ signature.toList) :
    jwtPayload (encodedToken header signature data) = some (urlsafeB64encode data) := by
  have htext : (encodedToken header signature data).toList =
      header.toList ++ '.' :: (urlsafeB64encode data ++ '.' :: signature.toList) := by
    simp [encodedToken]
  unfold jwtPayload
  rw [htext, List.splitOn_append_cons_self_of_not_mem hheader,
    List.splitOn_append_cons_self_of_not_mem (dot_notMem_urlsafeB64encode data),
    List.splitOn_eq_singleton hsignature]

theorem decodedPayload_encoded (rt : Runtime) (data : List UInt8) :
    decodedPayload rt (urlsafeB64encode data) = rt.jsonLoads data := by
  have hdecode := urlsafeB64decode_padded data
  unfold decodedPayload
  show encodeAscii (urlsafeB64encode data ++
    List.replicate (paddingFor (urlsafeB64encode data).length) '=') >>=
      (fun ascii => urlsafeB64decode ascii >>= rt.jsonLoads) = _
  rw [← bind_assoc, hdecode]
  rfl

theorem jwtPayload_none {token : String} (h : (token.toList.splitOn '.').length ≠ 3) :
    jwtPayload token = none := by
  unfold jwtPayload
  split
  · rename_i hparts
    rw [hparts] at h
    exact absurd rfl h
  · rfl

/-- The expiry of a token whose payload is a claims object. -/
theorem jwtExpiry_of_claims {rt : Runtime} {token : String} {payload : List Char}
    {claims : List (String × Json)} (hpayload : jwtPayload token = some payload)
    (hclaims : decodedPayload rt payload = .ok (.obj claims)) :
    jwtExpiry rt token = expiryOrNone (claimExpiry rt (Json.get claims "exp")) := by
  have hexp : expClaim rt payload = Json.get claims "exp" := by
    unfold expClaim
    rw [hclaims]
  rw [jwtExpiry_of_payload hpayload, payloadExpiry_eq, hclaims, hexp]
  rfl

/-! ## 4. Integers among the doubles -/

/-- An integer that is a double: a significand below `2 ** 53` times a power of two. -/
def IsDouble (n : ℤ) : Prop := ∃ m : ℤ, ∃ e : ℕ, m.natAbs < 2 ^ 53 ∧ e ≤ 971 ∧ n = m * 2 ^ e

/-- Significands of 53 bits leave one unit of the 54th bit free. -/
theorem significand_lt {m : ℤ} {e k : ℕ} (hm : m.natAbs < 2 ^ 53) (he : e ≤ k + 1) :
    (m * 2 ^ e).natAbs < 2 ^ (k + 54) - 2 ^ k := by
  have hpower : (2 : ℕ) ^ e ≤ 2 ^ (k + 1) := Nat.pow_le_pow_right (by decide) he
  have hbound : (m * 2 ^ e).natAbs ≤ (2 ^ 53 - 1) * 2 ^ (k + 1) := by
    rw [Int.natAbs_mul, Int.natAbs_pow]
    exact Nat.mul_le_mul (by omega) hpower
  have hpos : 0 < 2 ^ k := Nat.two_pow_pos k
  rw [pow_succ] at hbound
  rw [pow_add]
  omega

theorem IsDouble.lt_intLimit {n : ℤ} (h : IsDouble n) : n.natAbs < PyFloat.intLimit := by
  obtain ⟨m, e, hm, he, rfl⟩ := h
  rw [PyFloat.intLimit, show (1024 : ℕ) = 970 + 54 from rfl]
  exact significand_lt hm he

theorem claimExpiry_double (rt : Runtime) {n : ℤ} (h : IsDouble n) :
    claimExpiry rt (.int n) = .ok (some (.finite n)) := by
  show (PyFloat.ofInt n).map some = _
  rw [PyFloat.ofInt, if_pos h.lt_intLimit]
  rfl

/-! ## 5. `jwt_expiry` and the encoder -/

/-- The bytes are a JSON text of this object. -/
def Serialises (rt : Runtime) (data : List UInt8) (claims : List (String × Json)) : Prop :=
  rt.jsonLoads data = .ok (.obj claims)

/-- An encoded token gives back its `exp`; a text that is no three-part token, or whose claims have
    no `exp`, gives `None`. -/
theorem jwtExpiry_encoded (rt : Runtime) :
    (∀ (header signature : String) (data : List UInt8) (claims : List (String × Json)) (exp : ℤ),
      '.' ∉ header.toList → '.' ∉ signature.toList → Serialises rt data claims →
      claims.lookup "exp" = some (.int exp) → IsDouble exp →
      jwtExpiry rt (header ++ "." ++ String.ofList (urlsafeB64encode data) ++ "." ++ signature) =
        .ok (some (.finite exp))) ∧
    (∀ token : String, (token.toList.splitOn '.').length ≠ 3 → jwtExpiry rt token = .ok none) ∧
    (∀ (token : String) (payload : List Char) (claims : List (String × Json)),
      jwtPayload token = some payload → decodedPayload rt payload = .ok (.obj claims) →
      claims.lookup "exp" = none → jwtExpiry rt token = .ok none) := by
  refine ⟨?_, ?_, ?_⟩
  · intro header signature data claims exp hheader hsignature hdata hexp hdouble
    have hpayload := jwtPayload_encodedToken data hheader hsignature
    have hclaims : decodedPayload rt (urlsafeB64encode data) = .ok (.obj claims) := by
      rw [decodedPayload_encoded, hdata]
    have hget : Json.get claims "exp" = .int exp := by
      rw [Json.get, hexp]
      rfl
    show jwtExpiry rt (encodedToken header signature data) = _
    rw [jwtExpiry_of_claims hpayload hclaims, hget, claimExpiry_double rt hdouble]
    rfl
  · intro token hparts
    exact jwtExpiry_of_none (jwtPayload_none hparts)
  · intro token payload claims hpayload hclaims hexp
    have hget : Json.get claims "exp" = .null := by
      rw [Json.get, hexp]
      rfl
    rw [jwtExpiry_of_claims hpayload hclaims, hget]
    rfl

/-- What `json.dumps` writes for an expiry, and for an empty object. -/
def expiryDocuments : List (String × Json) :=
  [("\x7b\"exp\": 1800000000\x7d", .obj [("exp", .int 1800000000)]), ("\x7b\x7d", .obj [])]

/-- The standard library on these documents. -/
def expiryRuntime : Runtime :=
  { sampleRuntime with
    jsonLoads := fun content =>
      match expiryDocuments.find? fun document => ascii document.1 = content with
      | some document => .ok document.2
      | none => .error .jsonDecodeError }

theorem jwtExpiry_encoded_sample :
    jwtExpiry expiryRuntime "header.eyJleHAiOiAxODAwMDAwMDAwfQ.signature" =
      .ok (some (.finite (1800000000 : ℤ))) ∧
    jwtExpiry expiryRuntime "opaque-token" = .ok none ∧
    jwtExpiry expiryRuntime "header.e30.signature" = .ok none :=
  ⟨(jwtExpiry_encoded expiryRuntime).1 "header" "signature" (ascii "\x7b\"exp\": 1800000000\x7d")
      [("exp", .int 1800000000)] 1800000000 (by decide) (by decide) rfl rfl
      ⟨1800000000, 0, by decide, by decide, by decide⟩,
    (jwtExpiry_encoded expiryRuntime).2.1 "opaque-token" (by decide),
    (jwtExpiry_encoded expiryRuntime).2.2 "header.e30.signature" ['e', '3', '0'] []
    (by decide) rfl rfl⟩

end JibitSdk.Guarantees
