import JibitSdk.Guarantees.ForwardCompatible

/-!
# KYC bodies that are strings

A string body is decoded once more and what comes out becomes the `data` of the response.  That
field holds objects, lists, strings and nothing; a number or a boolean is none of these.
-/

namespace JibitSdk.Guarantees

open JibitSdk.Python JibitSdk.Reasoning JibitSdk.Sdk JibitSdk.Sdk.ResponseModels

/-! ## 1. The response around one value -/

/-- The response whose only content is its data. -/
def dataResponse (data : Obj) : Obj :=
  .obj [("error_code", .null), ("error_message", .null), ("data", data)]

/-- `data` of a validated response. -/
def responseData (response : Obj) : Obj := response.attr "data"

/-- Values the `data` field takes. -/
def isData : Obj → Bool
  | .null | .str _ | .arr _ | .obj _ => true
  | _ => false

/-- Nothing of the body is lost in the data: a text that is no JSON stands there itself, `null` is
    nothing, and any other JSON is there or can be decoded from there. -/
def KeepsBody (loads : String → Except BuiltinError Obj) (body : String) (data : Obj) : Prop :=
  (loads body = .error .jsonDecodeError ∧ data = .str body) ∨
    ∃ decoded, loads body = .ok decoded ∧ (decoded = .null → data = .null) ∧
      (data = decoded ∨ ∃ text, data = .str text ∧ loads text = .ok decoded)

section
variable {c : Coercions} {loads : String → Except BuiltinError Obj} {body : String}

theorem kycResponse_data (data : Obj) : kycResponse.validate c (.obj [("data", data)]) =
    if isData data then some (dataResponse data) else none := by
  cases data <;> rfl

theorem kycClass_read (data : Obj) : (kycClass loads).validateRead c (.obj [("data", data)]) =
    .ok (if isData data then some (dataResponse data) else none) := by
  have hdata : (kycClass loads).schema.validate c (.obj [("data", data)]) =
      if isData data then some (dataResponse data) else none := kycResponse_data data
  rw [ModelClass.validateRead, hdata]
  cases isData data <;> rfl

/-- A text that is no JSON is the data. -/
theorem modelValidate_text (h : loads body = .error .jsonDecodeError) :
    (kycClass loads).modelValidate c (.str body) = .ok (some (dataResponse (.str body))) := by
  have hbefore : (kycClass loads).before (.str body) = .ok (.obj [("data", .str body)]) := by
    show normalizeStringContract loads (.str body) = _
    rw [normalizeStringContract, h]
  rw [ModelClass.modelValidate, hbefore]
  exact kycClass_read (.str body)

/-- JSON other than an object is the data, where the field takes it. -/
theorem modelValidate_decoded {decoded : Obj} (h : loads body = .ok decoded)
    (hobj : ∀ fields, decoded ≠ .obj fields) :
    (kycClass loads).modelValidate c (.str body) =
      .ok (if isData decoded then some (dataResponse decoded) else none) := by
  have hbefore : (kycClass loads).before (.str body) = .ok (.obj [("data", decoded)]) := by
    show normalizeStringContract loads (.str body) = _
    rw [normalizeStringContract, h]
    cases decoded with
    | obj fields => exact absurd rfl (hobj fields)
    | _ => rfl
  rw [ModelClass.modelValidate, hbefore]
  exact kycClass_read decoded

/-- What else decoding raises is no response. -/
theorem modelValidate_raising {e : BuiltinError} (h : loads body = .error e)
    (he : e ≠ .jsonDecodeError) (response : Obj) :
    (kycClass loads).modelValidate c (.str body) ≠ .ok (some response) := by
  have hbefore : (kycClass loads).before (.str body) = .error e := by
    show normalizeStringContract loads (.str body) = _
    rw [normalizeStringContract, h]
    cases e with
    | jsonDecodeError => exact absurd rfl he
    | _ => rfl
  rw [ModelClass.modelValidate, hbefore]
  exact validatorError_ne_some e response

end

/-! ## 2. Accepted strings -/

/-- A string body that holds no object is accepted, with nothing lost, exactly when it is no JSON or
    its JSON is no number and no boolean. -/
theorem string_accepted_iff (c : Coercions) (loads : String → Except BuiltinError Obj)
    (body : String) (hobj : ∀ fields, loads body ≠ .ok (.obj fields)) :
    (∃ response data, (kycClass loads).modelValidate c (.str body) = .ok (some response) ∧
        responseData response = data ∧ KeepsBody loads body data) ↔
      loads body = .error .jsonDecodeError ∨
        ∃ decoded, loads body = .ok decoded ∧ isData decoded = true := by
  cases hloads : loads body with
  | error e =>
    by_cases he : e = .jsonDecodeError
    · rw [he] at hloads
      have haccepted := modelValidate_text (c := c) hloads
      constructor
      · exact fun _ => .inl (congrArg Except.error he)
      · exact fun _ => ⟨_, _, haccepted, rfl, .inl ⟨hloads, rfl⟩⟩
    · constructor
      · intro h
        obtain ⟨response, _, haccepted, -⟩ := h
        exact absurd haccepted (modelValidate_raising hloads he response)
      · intro h
        rcases h with hjson | ⟨decoded, hdecoded, -⟩
        · exact absurd (Except.error.inj hjson) he
        · cases hdecoded
  | ok decoded =>
    have hvalidate := modelValidate_decoded (c := c) hloads
      fun fields heq => hobj fields (hloads.trans (congrArg Except.ok heq))
    by_cases hdata : isData decoded = true
    · rw [if_pos hdata] at hvalidate
      constructor
      · exact fun _ => .inr ⟨decoded, rfl, hdata⟩
      · exact fun _ => ⟨_, _, hvalidate, rfl, .inr ⟨decoded, hloads, id, .inl rfl⟩⟩
    · rw [if_neg hdata] at hvalidate
      constructor
      · intro h
        obtain ⟨response, _, haccepted, -⟩ := h
        rw [hvalidate] at haccepted
        cases haccepted
      · intro h
        rcases h with hjson | ⟨decoded', hdecoded, hdata'⟩
        · cases hjson
        · rw [Except.ok.inj hdecoded] at hdata
          exact absurd hdata' hdata

theorem string_accepted_iff_text :
    (∃ response data, (kycClass noJson).modelValidate plainCoercions (.str "unreadable image") =
        .ok (some response) ∧ responseData response = data ∧
          KeepsBody noJson "unreadable image" data) ↔
      noJson "unreadable image" = .error .jsonDecodeError ∨
        ∃ decoded, noJson "unreadable image" = .ok decoded ∧ isData decoded = true := by
  apply string_accepted_iff plainCoercions noJson "unreadable image"
  intro fields h
  cases h

/-- Decoding, for a text that is one number. -/
def chequeNumber (text : String) : Except BuiltinError Obj :=
  if text = "10298374" then .ok (.int 10298374) else .error .jsonDecodeError

/-- A cheque number is refused. -/
theorem cheque_number_refused :
    (∀ fields, chequeNumber "10298374" ≠ .ok (.obj fields)) ∧
      (kycClass chequeNumber).modelValidate plainCoercions (.str "10298374") = .ok none := by
  constructor
  · intro fields h
    cases h
  · rfl

end JibitSdk.Guarantees
