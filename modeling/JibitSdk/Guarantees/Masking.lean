import JibitSdk.Sdk.Redaction

/-!
# What the identifier patterns change

A mask keeps at most four digits, and every match has at least ten: the free-text redaction leaves
exactly those texts alone in which none of its four patterns occurs.
-/

namespace JibitSdk.Guarantees

open JibitSdk.Python JibitSdk.Reasoning JibitSdk.Sdk

variable (u : CharClasses)

/-- Some identifier pattern occurs in the text. -/
def holdsIdentifier (s : List Char) : Bool :=
  (ibanRe u).occurs s || (cardRe u).occurs s || (mobileRe u).occurs s || (nationalIdRe u).occurs s

theorem star_not_decimal : u.isDecimal '*' = false := (u.punctuation '*' (by decide)).2

theorem starred_digits (n : ℕ) (text : List Char) : (starred n text).countP u.isDecimal ≤ 4 := by
  rw [starred, List.countP_append, List.countP_replicate, star_not_decimal,
    if_neg nofun, Nat.zero_add]
  have hlength := List.countP_le_length (p := u.isDecimal) (l := text.drop (text.length - 4))
  rw [List.length_drop] at hlength
  omega

theorem maskIban_digits (m : List Char) : (maskIban m).countP u.isDecimal ≤ 4 := by
  have hI : u.isDecimal 'I' = false := u.decimal_not_alpha 'I' (by decide)
  have hR : u.isDecimal 'R' = false := u.decimal_not_alpha 'R' (by decide)
  rw [maskIban, List.countP_cons_of_neg (by simp [hI]), List.countP_cons_of_neg (by simp [hR])]
  exact starred_digits u 20 m

/-- A run of digits. -/
theorem digit_atLeast : Pattern.AtLeast u.isDecimal 1 (.one u.isDecimal) :=
  Pattern.atLeast_one fun _ h => h

theorem ibanRe_digits : Pattern.AtLeast u.isDecimal 24 (ibanRe u) :=
  (Pattern.atLeast_zero _).seq <| (Pattern.atLeast_zero _).seq <| (Pattern.atLeast_zero _).seq <|
    ((digit_atLeast u).times 24).seq (Pattern.atLeast_zero _)

theorem cardRe_digits : Pattern.AtLeast u.isDecimal 16 (cardRe u) :=
  (Pattern.atLeast_zero _).seq <|
    (((digit_atLeast u).seq (Pattern.atLeast_zero _)).times 16).seq (Pattern.atLeast_zero _)

theorem mobileRe_digits : Pattern.AtLeast u.isDecimal 9 (mobileRe u) :=
  (Pattern.atLeast_zero _).seq <| (Pattern.atLeast_zero _).seq <| (Pattern.atLeast_zero _).seq <|
    ((digit_atLeast u).times 9).seq (Pattern.atLeast_zero _)

theorem nationalIdRe_digits : Pattern.AtLeast u.isDecimal 10 (nationalIdRe u) :=
  (Pattern.atLeast_zero _).seq <| ((digit_atLeast u).times 10).seq (Pattern.atLeast_zero _)

/-- Masks lose digits. -/
theorem lightens_of_digits {r : Pattern Char} {mask : List Char → List Char} {k : ℕ} (hk : 4 < k)
    (hr : Pattern.AtLeast u.isDecimal k r) (hmask : ∀ m, (mask m).countP u.isDecimal ≤ 4) :
    Pattern.Lightens u.isDecimal r mask := by
  intro prev s n hn
  have hmatch := hr prev s n hn
  have hkept := hmask (s.take n)
  omega

theorem ibanRe_lightens : Pattern.Lightens u.isDecimal (ibanRe u) maskIban :=
  lightens_of_digits u (by decide) (ibanRe_digits u) (maskIban_digits u)

theorem cardRe_lightens : Pattern.Lightens u.isDecimal (cardRe u) (maskCard u) :=
  lightens_of_digits u (by decide) (cardRe_digits u) fun _ => starred_digits u 12 _

theorem mobileRe_lightens : Pattern.Lightens u.isDecimal (mobileRe u) maskMobile :=
  lightens_of_digits u (by decide) (mobileRe_digits u) fun _ => starred_digits u 7 _

theorem nationalIdRe_lightens : Pattern.Lightens u.isDecimal (nationalIdRe u) maskNationalId :=
  lightens_of_digits u (by decide) (nationalIdRe_digits u) fun _ => starred_digits u 6 _

/-- Redaction changes exactly the texts in which an identifier pattern occurs. -/
theorem redactText_eq_self_iff (s : List Char) :
    redactText u s = s ↔ holdsIdentifier u s = false := by
  have hiban := (ibanRe_lightens u).sub_le s
  have hcard := (cardRe_lightens u).sub_le ((ibanRe u).sub maskIban s)
  have hmobile :=
    (mobileRe_lightens u).sub_le ((cardRe u).sub (maskCard u) ((ibanRe u).sub maskIban s))
  have hnational := (nationalIdRe_lightens u).sub_le
    ((mobileRe u).sub maskMobile ((cardRe u).sub (maskCard u) ((ibanRe u).sub maskIban s)))
  constructor
  · intro h
    unfold redactText at h
    simp only at h
    rw [h] at hnational
    -- No step may lose a digit, so no step finds a match, from the first one on.
    have h₁ := (ibanRe_lightens u).not_occurs (s := s) (by omega)
    have e₁ : (ibanRe u).sub maskIban s = s := Pattern.subFrom_of_not_occurs _ h₁
    rw [e₁] at h hcard hmobile hnational
    have h₂ := (cardRe_lightens u).not_occurs (s := s) (by omega)
    have e₂ : (cardRe u).sub (maskCard u) s = s := Pattern.subFrom_of_not_occurs _ h₂
    rw [e₂] at h hmobile hnational
    have h₃ := (mobileRe_lightens u).not_occurs (s := s) (by omega)
    have e₃ : (mobileRe u).sub maskMobile s = s := Pattern.subFrom_of_not_occurs _ h₃
    rw [e₃] at h
    have h₄ := (nationalIdRe_lightens u).not_occurs (s := s) (by rw [h])
    rw [holdsIdentifier, h₁, h₂, h₃, h₄]
    rfl
  · intro h
    simp only [holdsIdentifier, Bool.or_eq_false_iff] at h
    obtain ⟨⟨⟨h₁, h₂⟩, h₃⟩, h₄⟩ := h
    have e₁ : (ibanRe u).sub maskIban s = s := Pattern.subFrom_of_not_occurs _ h₁
    have e₂ : (cardRe u).sub (maskCard u) s = s := Pattern.subFrom_of_not_occurs _ h₂
    have e₃ : (mobileRe u).sub maskMobile s = s := Pattern.subFrom_of_not_occurs _ h₃
    have e₄ : (nationalIdRe u).sub maskNationalId s = s := Pattern.subFrom_of_not_occurs _ h₄
    simp only [redactText, e₁, e₂, e₃, e₄]

theorem redactStr_eq_self_iff (rt : Runtime) (text : String) :
    redactStr rt text = text ↔ holdsIdentifier rt.chars text.toList = false := by
  rw [← redactText_eq_self_iff, redactStr]
  constructor
  · intro h
    have := congrArg String.toList h
    rwa [String.toList_ofList] at this
  · intro h
    rw [h, String.ofList_toList]

/-- The items of a record's fields. -/
theorem redactItems_kwargs (rt : Runtime) (fields : List (String × PyVal)) :
    redactItems rt (fields.map fun f => (.str f.1, f.2)) = fields.map fun f =>
      (f.1, if isSensitiveKey rt (.str f.1) then .str REDACTED else redact rt f.2) := by
  induction fields with
  | nil => rfl
  | cons field fields ih => rw [List.map_cons, redactItems, rt.strVal_str, ih, List.map_cons]

end JibitSdk.Guarantees
