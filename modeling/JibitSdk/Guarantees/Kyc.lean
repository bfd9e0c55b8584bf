import JibitSdk.Guarantees.Answers
import JibitSdk.Guarantees.Audit
import JibitSdk.Guarantees.DiagnosticSecrecy
import JibitSdk.Guarantees.References
import JibitSdk.Guarantees.TokenEndpoints
import JibitSdk.Reasoning.Dict
import JibitSdk.Sdk.Services.Kyc

/-!
# Identity data stays in its form

A KYC call submits its form once or does nothing; the form tells the call apart from every other;
and what stands in it shows neither in log records nor in audit events nor in errors.
-/

namespace JibitSdk.Guarantees

open JibitSdk.Python JibitSdk.Reasoning JibitSdk.Sdk

/-! ## 1. Forms -/

section Forms
variable {rt : Runtime} {isdigit : Char → Bool} {call call' : KycCall} {form : List MultipartPart}

/-- The values of a call's form by their names, `None` included. -/
def formValues : KycCall → List (String × PyVal)
  | .verifyVideo a => a.fields
  | .verifyPhoto a => a.fields
  | .ocrNationalCard _ isBack tryRotate =>
    [("is_back", isBack.elim .none .bool), ("try_rotate", tryRotate.elim .none .bool)]
  | .ocrCheque _ => []
  | .ocrBankCard _ => []

/-- The files of a call's form by their names. -/
def formFiles : KycCall → List (String × MediaFile)
  | .verifyVideo a => [("video_file", a.video)]
  | .verifyPhoto a => ("live_face", a.liveFace) ::
      (a.referenceFace.map fun face => ("api_face", face)).toList
  | .ocrNationalCard image _ _ => [("file", image)]
  | .ocrCheque image => [("file", image)]
  | .ocrBankCard image => [("file", image)]

theorem form_parts (h : call.form rt isdigit = .ok form) :
    form = formFields rt (formValues call) ++
      (formFiles call).map fun file => formFile file.1 file.2 := by
  cases call with
  | verifyVideo a =>
    unfold KycCall.form at h
    dsimp only at h
    split_ifs at h
    obtain ⟨_, -, hform⟩ := bind_eq_ok h
    exact (Except.ok.inj hform).symm
  | verifyPhoto a =>
    unfold KycCall.form at h
    dsimp only at h
    split_ifs at h
    obtain ⟨_, -, hface⟩ := bind_eq_ok h
    cases hreference : a.referenceFace with
    | none =>
      rw [hreference] at hface
      simp only [formFiles, hreference]
      exact (Except.ok.inj hface).symm
    | some face =>
      rw [hreference] at hface
      simp only [formFiles, hreference]
      obtain ⟨_, -, hform⟩ := bind_eq_ok hface
      exact (Except.ok.inj hform).symm
  | ocrNationalCard image isBack tryRotate =>
    obtain ⟨_, -, hform⟩ := bind_eq_ok h
    exact (Except.ok.inj hform).symm
  | ocrCheque image =>
    obtain ⟨_, -, hform⟩ := bind_eq_ok h
    exact (Except.ok.inj hform).symm
  | ocrBankCard image =>
    obtain ⟨_, -, hform⟩ := bind_eq_ok h
    exact (Except.ok.inj hform).symm

/-- The texts of a form by their names. -/
def formTexts : List MultipartPart → List (String × String)
  | [] => []
  | part :: form => match part.value with
    | .text text => (part.name, text) :: formTexts form
    | .data _ => formTexts form

/-- The file parts of a form. -/
def fileParts (form : List MultipartPart) : List MultipartPart :=
  form.filter fun part => part.kind = .file

theorem formTexts_parts (values : List (String × PyVal)) (files : List (String × MediaFile)) :
    formTexts (formFields rt values ++ files.map fun file => formFile file.1 file.2) =
      (values.filter fun v => isGiven v.2).map fun v => (v.1, fieldText rt v.2) := by
  unfold formFields
  generalize values.filter (fun v => isGiven v.2) = given
  induction given with
  | nil =>
    induction files with
    | nil => rfl
    | cons file files ih => exact ih
  | cons v given ih => exact congrArg (List.cons (v.1, fieldText rt v.2)) ih

theorem fileParts_parts (values : List (String × PyVal)) (files : List (String × MediaFile)) :
    fileParts (formFields rt values ++ files.map fun file => formFile file.1 file.2) =
      files.map fun file => formFile file.1 file.2 := by
  unfold fileParts formFields
  rw [List.filter_append, List.filter_eq_nil_iff.mpr, List.filter_eq_self.mpr, List.nil_append]
  · intro part hpart
    obtain ⟨file, -, rfl⟩ := List.mem_map.mp hpart
    rfl
  · intro part hpart
    obtain ⟨v, -, rfl⟩ := List.mem_map.mp hpart
    exact fun h => by cases of_decide_eq_true h

/-- A form holds one value for each name. -/
theorem formValues_nodup (call : KycCall) : ((formValues call).map Prod.fst).Nodup := by
  cases call <;> simp [formValues, VideoArguments.fields, PhotoArguments.fields]

/-- Reading a form: the text under a name is that of the value given for it. -/
theorem formTexts_lookup (h : call.form rt isdigit = .ok form) (name : String) :
    (formTexts form).lookup name =
      (((formValues call).lookup name).filter isGiven).map (fieldText rt) := by
  rw [form_parts h, formTexts_parts, lookup_mapValues, lookup_filter_values (formValues_nodup call)]

/-- `int` and `float`. -/
def isNumber : PyVal → Bool
  | .int _ | .float _ => true
  | _ => false

/-- `str` tells the numbers of two calls apart. -/
def NumbersTold (rt : Runtime) (call call' : KycCall) : Prop :=
  ∀ name v v', (formValues call).lookup name = some v → (formValues call').lookup name = some v' →
    isNumber v = true → isNumber v' = true → rt.strVal v = rt.strVal v' → v = v'

/-- Values of a kind that are given, and told apart by their texts. -/
structure Told {α : Type} (rt : Runtime) (value : α → PyVal) : Prop where
  given : ∀ a, isGiven (value a) = true
  inj : ∀ a b, fieldText rt (value a) = fieldText rt (value b) → a = b

theorem told_str : Told rt PyVal.str where
  given _ := rfl
  inj a b h := by
    have ha : fieldText rt (.str a) = a := rt.strVal_str a
    have hb : fieldText rt (.str b) = b := rt.strVal_str b
    rw [← ha, ← hb, h]

theorem told_bool : Told rt PyVal.bool where
  given _ := rfl
  inj a b h := by
    cases a <;> cases b
    · rfl
    · exact absurd h (by decide : "false" ≠ "true")
    · exact absurd h (by decide : "true" ≠ "false")
    · rfl

theorem fieldText_number {v : PyVal} (h : isNumber v = true) : fieldText rt v = rt.strVal v := by
  cases v with
  | bool b => cases h
  | _ => rfl

/-- What a form says of an argument that may be left out. -/
theorem text_of_argument {α : Type} {value : α → PyVal} (hgiven : ∀ a, isGiven (value a) = true)
    (h : call.form rt isdigit = .ok form) (name : String) {a : Option α}
    (ha : (formValues call).lookup name = some (a.elim PyVal.none value)) :
    (formTexts form).lookup name = a.map fun a => fieldText rt (value a) := by
  rw [formTexts_lookup h name, ha]
  cases a with
  | none => rfl
  | some a =>
    rw [Option.elim_some, Option.filter_some, if_pos (hgiven a)]
    rfl

/-- Two calls with one form were given the same argument under a name. -/
theorem argument_eq {α : Type} {value : α → PyVal} (hvalue : Told rt value)
    (h : call.form rt isdigit = .ok form) (h' : call'.form rt isdigit = .ok form) (name : String)
    {a b : Option α} (ha : (formValues call).lookup name = some (a.elim PyVal.none value))
    (hb : (formValues call').lookup name = some (b.elim PyVal.none value)) : a = b := by
  have hread := text_of_argument hvalue.given h name ha
  rw [text_of_argument hvalue.given h' name hb] at hread
  exact (Option.map_injective hvalue.inj hread).symm

/-- The same for a number. -/
theorem number_eq {α : Type} {value : α → PyVal} (hvalue : Function.Injective value)
    (hnumber : ∀ a, isNumber (value a) = true) (htold : NumbersTold rt call call')
    (h : call.form rt isdigit = .ok form) (h' : call'.form rt isdigit = .ok form) (name : String)
    {a b : Option α} (ha : (formValues call).lookup name = some (a.elim PyVal.none value))
    (hb : (formValues call').lookup name = some (b.elim PyVal.none value)) : a = b := by
  have hgiven (a : α) : isGiven (value a) = true := by
    have hnumber := hnumber a
    cases hv : value a with
    | none =>
      rw [hv] at hnumber
      cases hnumber
    | _ => rfl
  have hread := text_of_argument hgiven h name ha
  rw [text_of_argument hgiven h' name hb] at hread
  cases a with
  | none => cases b with
    | none => rfl
    | some b => cases hread
  | some a => cases b with
    | none => cases hread
    | some b =>
      have htext : fieldText rt (value b) = fieldText rt (value a) := Option.some.inj hread
      rw [fieldText_number (hnumber b), fieldText_number (hnumber a)] at htext
      have hsame := htold name (value a) (value b) ha hb (hnumber a) (hnumber b) htext.symm
      exact congrArg some (hvalue hsame)

theorem formFile_inj {name name' : String} {media media' : MediaFile}
    (h : formFile name media = formFile name' media') : media = media' := by
  unfold formFile at h
  simp only [MultipartPart.mk.injEq, PartValue.data.injEq, Option.some.injEq] at h
  ext1
  · exact h.2.2.1
  · exact h.2.2.2.1
  · exact h.2.2.2.2

/-- The files of two calls with one form. -/
theorem files_eq (h : call.form rt isdigit = .ok form) (h' : call'.form rt isdigit = .ok form) :
    ((formFiles call).map fun file => formFile file.1 file.2) =
      (formFiles call').map fun file => formFile file.1 file.2 := by
  rw [← fileParts_parts (formValues call), ← form_parts h, form_parts h', fileParts_parts]

/-- No two calls of an operation submit the same form. -/
theorem form_determines_call (htold : NumbersTold rt call call')
    (hop : call.operation = call'.operation)
    (h : call.form rt isdigit = .ok form) (h' : call'.form rt isdigit = .ok form) :
    call = call' := by
  have hfiles := files_eq h h'
  have hint : Function.Injective PyVal.int := fun _ _ => PyVal.int.inj
  have hfloat : Function.Injective PyVal.float := fun _ _ => PyVal.float.inj
  cases call with
  | verifyVideo a => cases call' with
    | verifyVideo a' =>
      apply congrArg KycCall.verifyVideo
      have hvideo : a.video = a'.video := formFile_inj (List.cons.inj hfiles).1
      ext1
      · exact Option.some.inj (argument_eq told_str h h' "national_id" rfl rfl)
      · exact hvideo
      · exact Option.some.inj (argument_eq told_str h h' "line" rfl rfl)
      · exact argument_eq told_str h h' "birth_date" rfl rfl
      · exact argument_eq told_str h h' "national_card_serial" rfl rfl
      · exact argument_eq told_str h h' "spec_words" rfl rfl
      · exact number_eq hint (fun _ => rfl) htold h h' "max_accepted_dist" rfl rfl
      · exact number_eq hfloat (fun _ => rfl) htold h h' "asr_threshold" rfl rfl
      · exact number_eq hfloat (fun _ => rfl) htold h h' "liveness_threshold" rfl rfl
      · exact number_eq hfloat (fun _ => rfl) htold h h' "verification_threshold" rfl rfl
      · exact argument_eq told_bool h h' "check_liveness" rfl rfl
    | _ => cases hop
  | verifyPhoto a => cases call' with
    | verifyPhoto a' =>
      apply congrArg KycCall.verifyPhoto
      have hface : a.liveFace = a'.liveFace := formFile_inj (List.cons.inj hfiles).1
      have hreference : a.referenceFace = a'.referenceFace := by
        have hrest := (List.cons.inj hfiles).2
        cases hone : a.referenceFace <;> cases htwo : a'.referenceFace
        · rfl
        · rw [hone, htwo] at hrest
          cases hrest
        · rw [hone, htwo] at hrest
          cases hrest
        · rw [hone, htwo] at hrest
          exact congrArg some (formFile_inj (List.cons.inj hrest).1)
      ext1
      · exact Option.some.inj (argument_eq told_str h h' "ssn" rfl rfl)
      · exact hface
      · exact argument_eq told_str h h' "birth_date" rfl rfl
      · exact argument_eq told_str h h' "serial" rfl rfl
      · exact hreference
      · exact number_eq hfloat (fun _ => rfl) htold h h' "liveness_threshold" rfl rfl
      · exact number_eq hfloat (fun _ => rfl) htold h h' "verification_threshold" rfl rfl
    | _ => cases hop
  | ocrNationalCard image isBack tryRotate => cases call' with
    | ocrNationalCard image' isBack' tryRotate' =>
      have himage : image = image' := formFile_inj (List.cons.inj hfiles).1
      have hback : isBack = isBack' := argument_eq told_bool h h' "is_back" rfl rfl
      have hrotate : tryRotate = tryRotate' := argument_eq told_bool h h' "try_rotate" rfl rfl
      rw [himage, hback, hrotate]
    | _ => cases hop
  | ocrCheque image => cases call' with
    | ocrCheque image' => exact congrArg KycCall.ocrCheque (formFile_inj (List.cons.inj hfiles).1)
    | _ => cases hop
  | ocrBankCard image => cases call' with
    | ocrBankCard image' =>
        exact congrArg KycCall.ocrBankCard (formFile_inj (List.cons.inj hfiles).1)
    | _ => cases hop

end Forms

/-- A video of two bytes, and a challenge. -/
def sampleVideo : VideoArguments where
  nationalId := "0013547891"
  video :=
    { content := [1, 2]
      filename := "verify.mp4"
      contentType := "video/mp4"
      content_ne := by decide
      filename_ne := by decide
      contentType_ne := by decide }
  line := "challenge"
  maxAcceptedDist := some 5
  checkLiveness := some true

/-- The form of this call tells it from every other. -/
theorem form_determines_call_video : ∃ form,
    (KycCall.verifyVideo sampleVideo).form sampleRuntime Char.isDigit = .ok form ∧
      KycCall.verifyVideo sampleVideo = KycCall.verifyVideo sampleVideo := by
  have hform : (KycCall.verifyVideo sampleVideo).form sampleRuntime Char.isDigit =
      .ok (postForm sampleRuntime sampleVideo.fields "video_file" sampleVideo.video) := rfl
  have htold : NumbersTold sampleRuntime (.verifyVideo sampleVideo) (.verifyVideo sampleVideo) := by
    intro name v v' hv hv' _ _ _
    rw [hv] at hv'
    exact Option.some.inj hv'
  exact ⟨_, hform, form_determines_call htold rfl hform hform⟩

/-! ## 2. Submissions -/

/-- The executor `JibitClient.kyc` runs on. -/
def kycExecutor (logger : StructuredLogger) (y : StaticBearerRequestEngine) :
    AuditedRequestExecutor :=
  ⟨y.engine.rt, .staticBearer y, logger, "jibit.kyc.operation"⟩

/-- The options of an accepted call. -/
def kycOptions (op : KycOperation) (form : List MultipartPart) : RequestOptions :=
  op.spec.options { multipart := some form }

section Submissions
variable {M : Type} {isdigit : Char → Bool} {logger : StructuredLogger}
  {y : StaticBearerRequestEngine}
  {call : KycCall} {model : ResponseModel M} {form : List MultipartPart} {tr : List (Event effects)}

theorem run_accepted (hform : call.form y.engine.rt isdigit = .ok form) :
    call.run isdigit (kycExecutor logger y) model =
      typedRequest (kycExecutor logger y) (kycOptions call.operation form) model := by
  unfold KycCall.run
  rw [show call.form (kycExecutor logger y).rt isdigit = _ from hform]
  cases call <;> rfl

theorem run_refused {e : PyError} (hform : call.form y.engine.rt isdigit = .error e) :
    call.run isdigit (kycExecutor logger y) model = .throw e := by
  unfold KycCall.run
  rw [show call.form (kycExecutor logger y).rt isdigit = _ from hform]

/-- The paths of the KYC operations pass the endpoint check. -/
theorem kyc_endpoint (e : RequestEngine) (op : KycOperation) :
    e.validatedEndpoint op.spec.path = .ok op.spec.path := by
  cases op <;> exact validatedEndpoint_plain (by decide)

/-- What a KYC call does: sends with its token, local operations, audit events. -/
def isSubmission (accessToken : String) : Effect → Prop
  | .emitAudit _ => True
  | o => isRequest (.operation accessToken) o

theorem isSubmission_of_isRequest {accessToken : String} {o : Effect}
    (h : isRequest (.operation accessToken) o) : isSubmission accessToken o := by
  cases o <;> first | exact h | exact h.elim

theorem emitAuditEvent_submission (rt : Runtime) (accessToken : String) (event : AuditEvent) :
    (emitAuditEvent rt logger event).Only (isSubmission accessToken) := by
  refine ⟨trivial, fun raised => ?_⟩
  cases raised with
  | none => exact trivial
  | some errorType =>
    exact (emit_always logger rt _ _ _).only.mono fun o ho =>
      isSubmission_of_isRequest (isRequest_of_isLocal ho)

theorem auditedKyc_only (options : RequestOptions) :
    ((kycExecutor logger y).execute options).Only (isSubmission y.accessToken) := by
  have hexecute :=
    execute_only y.engine (.operation y.accessToken) (authorize options "Bearer" y.accessToken)
  apply Prog.Only.bind (hexecute.mono fun o ho => isSubmission_of_isRequest ho).attempt
  intro r
  cases r with
  | ok response => exact (emitAuditEvent_submission _ _ _).bind fun _ => trivial
  | error e => cases e with
    | jibit error => exact (emitAuditEvent_submission _ _ _).bind fun _ => trivial
    | builtin e => exact trivial

theorem run_only (call : KycCall) :
    (call.run isdigit (kycExecutor logger y) model).Only (isSubmission y.accessToken) := by
  cases hform : call.form y.engine.rt isdigit with
  | error e =>
    rw [run_refused hform]
    exact trivial
  | ok form =>
    rw [run_accepted hform]
    refine (auditedKyc_only _).bind fun raw => ?_
    exact Prog.always_ofExcept.mpr trivial

/-- A request that submits this form, and nothing else, with the token of the executor. -/
structure Submits (y : StaticBearerRequestEngine) (op : KycOperation) (form : List MultipartPart)
    (request : TransportRequest) : Prop where
  method : request.method = "POST"
  url : request.url = y.engine.buildUrl .kyc op.spec.path
  multipart : request.multipart = some form
  bare : request.json = none ∧ request.content = none ∧ request.params = none
  authorization : request.headers.lookup "Authorization" = some ("Bearer" ++ " " ++ y.accessToken)

theorem kyc_service (op : KycOperation) : op.spec.service = .kyc := by cases op <;> rfl

theorem kyc_method (op : KycOperation) : op.spec.method = "POST" := by cases op <;> rfl

theorem kyc_submits (op : KycOperation) (form : List MultipartPart) (id : String) :
    Submits y op form
      (y.engine.transportRequest (authorize (kycOptions op form) "Bearer" y.accessToken) id
        op.spec.path) where
  method := (congrArg y.engine.rt.upper (kyc_method op)).trans
    (y.engine.rt.upper_capitals "POST"
      (List.all_eq_true.mp (by decide : "POST".toList.all Char.isUpper = true)))
  url := congrArg (fun service => y.engine.buildUrl service op.spec.path) (kyc_service op)
  multipart := rfl
  bare := ⟨rfl, rfl, rfl⟩
  authorization :=
    sent_authorization y.engine (kycOptions op form) "Bearer" y.accessToken id op.spec.path

/-- A refused call is without effect.  An accepted one sends once, whatever comes of it, and the
    outcome decides its result. -/
def Submitted (y : StaticBearerRequestEngine) (op : KycOperation) (model : ResponseModel M) :
    Except PyError (List MultipartPart) → List (Event effects) →
    Except PyError (APIResponse M) → Prop
  | .error e, tr, r => tr = [] ∧ r = .error e
  | .ok form, tr, r => ∃ sent raw, sends tr = [sent] ∧ Submits y op form sent.request ∧
      Agrees (accepted sent.outcome) raw ∧
      r = raw.bind fun raw => parseModelResponse y.engine.rt raw model ServiceName.kyc.value
        op.spec.operation op.spec.method op.spec.path

/-- Every KYC call, with whatever arguments and in whatever world. -/
theorem kyc_submits_once {σ : Type} (isdigit : Char → Bool) (logger : StructuredLogger)
    (y : StaticBearerRequestEngine) (model : ResponseModel M) (call : KycCall)
    (handler : Handler σ) (s : σ) :
    (∀ ev ∈ ((call.run isdigit (kycExecutor logger y) model).exec (S := effects) handler s).1,
        isSubmission y.accessToken ev.op) ∧
      Submitted y call.operation model (call.form y.engine.rt isdigit)
        ((call.run isdigit (kycExecutor logger y) model).exec (S := effects) handler s).1
        ((call.run isdigit (kycExecutor logger y) model).exec (S := effects) handler s).2.2 := by
  have hrun :=
    Prog.exec_emits (S := effects) handler (call.run isdigit (kycExecutor logger y) model) s
  refine ⟨(run_only call).events hrun, ?_⟩
  generalize ((call.run isdigit (kycExecutor logger y) model).exec (S := effects) handler s).1 = tr
    at hrun ⊢
  generalize ((call.run isdigit (kycExecutor logger y) model).exec (S := effects) handler s).2.2 = r
    at hrun ⊢
  cases hform : call.form y.engine.rt isdigit with
  | error e =>
    rw [run_refused hform] at hrun
    exact ⟨hrun.1, hrun.2⟩
  | ok form =>
    rw [run_accepted hform] at hrun
    obtain ⟨raw, hraw, hr⟩ := bind_ofExcept_emits hrun
    obtain ⟨tr', hexecute, hsends, -⟩ := auditedExecute_emits hraw
    have hagrees := executor_agrees hexecute
    rcases execute_emits hexecute with ⟨e, hpath, -, -⟩
      | ⟨id, endpoint, _, outcomes, hpath, hloop, hsent⟩
    · have hsame := (kyc_endpoint y.engine call.operation).symm.trans hpath
      cases hsame
    · obtain ⟨outcome, rfl⟩ := hloop.single (by cases call <;> rfl)
      obtain rfl := validatedEndpoint_ok hpath
      rw [acceptedAnswer, operationSends, hsent] at hagrees
      refine ⟨_, raw, hsends.trans hsent, kyc_submits call.operation form id, hagrees, ?_⟩
      rw [hr, ← kyc_service call.operation]
      rfl

end Submissions

/-! ## 3. Refusals -/

section Refusals
variable {rt : Runtime} {isdigit : Char → Bool} {call : KycCall} {e : PyError}

/-- The size limit of an operation's files. -/
def mediaLimit : KycOperation → ℕ
  | .verifyVideo => maxVideoBytes
  | .verifyPhoto => maxImageBytes
  | .ocrNationalCard | .ocrCheque | .ocrBankCard => maxOcrBytes

/-- Everything an operation can raise before it sends. -/
def kycRefusals (rt : Runtime) (op : KycOperation) : List PyError :=
  ["max_accepted_dist must be between 1 and 10", "national_id must contain 10 digits",
    "line must not be empty", s!"media exceeds the documented {mediaLimit op} byte limit",
    "media content_type is not supported for this operation"].map (op.invalid rt)

theorem refusal_of_media {media : MediaFile} {starts : List String} {op : KycOperation}
    (h : validateMedia rt media (mediaLimit op) starts op = .error e) : e ∈ kycRefusals rt op := by
  unfold validateMedia at h
  split_ifs at h
  · cases h
    simp [kycRefusals]
  · cases h
    simp [kycRefusals]

/-- A check and a step that cannot fail: the error is that of the check. -/
theorem error_of_check {α β : Type} {x : Except PyError α} {b : β}
    (h : (x >>= fun _ => pure b) = .error e) : x = .error e := by
  cases x with
  | ok a => cases h
  | error error =>
    cases h
    rfl

/-- What is refused is reported in texts of the operation, without a value of the call. -/
theorem refusal_mem (h : call.form rt isdigit = .error e) : e ∈ kycRefusals rt call.operation := by
  cases call with
  | verifyVideo a =>
    unfold KycCall.form at h
    dsimp only at h
    split at h
    · cases h
      simp [kycRefusals, KycCall.operation]
    · split at h
      · cases h
        simp [kycRefusals, KycCall.operation]
      · split at h
        · cases h
          simp [kycRefusals, KycCall.operation]
        · exact refusal_of_media (error_of_check h)
  | verifyPhoto a =>
    unfold KycCall.form at h
    dsimp only at h
    split at h
    · cases h
      simp [kycRefusals, KycCall.operation]
    · cases hface : validateMedia rt a.liveFace maxImageBytes ["image/"] .verifyPhoto with
      | error error =>
        rw [hface] at h
        cases h
        exact refusal_of_media hface
      | ok _ =>
        rw [hface] at h
        cases hreference : a.referenceFace with
        | none =>
          rw [hreference] at h
          cases h
        | some face =>
          rw [hreference] at h
          exact refusal_of_media (error_of_check h)
  | ocrNationalCard image isBack tryRotate => exact refusal_of_media (error_of_check h)
  | ocrCheque image => exact refusal_of_media (error_of_check h)
  | ocrBankCard image => exact refusal_of_media (error_of_check h)

end Refusals

/-! ## 4. Diagnostics -/

/-- No tokens are exchanged for KYC calls, so none need to correspond. -/
def noTokens (rt : Runtime) : TokenPairing rt where
  pairs _ _ := False
  expiry h := h.elim
  empty_iff h := h.elim
  eq_iff h := h.elim

/-- Who reads the diagnostics of two KYC calls; there is no token answer, so
    any specification does. -/
def kycReader (rt : Runtime) : Onlooker effects (LogRecord ⊕ AuditEvent) :=
  reader (noTokens rt) sampleAuthenticator.spec

theorem kyc_records (rt : Runtime) (tr : List (Event effects)) :
    records tr = ((kycReader rt).seen tr).filterMap Sum.getLeft? := records_seen tr

theorem kyc_audits (rt : Runtime) (tr : List (Event effects)) :
    audits tr = ((kycReader rt).seen tr).filterMap Sum.getRight? := audits_seen tr

section Isolation
variable {rt : Runtime} {M : Type} {isdigit : Char → Bool} {logger : StructuredLogger}
  {y y' : StaticBearerRequestEngine} {o o' : RequestOptions}

theorem staticExecute_coupled (h : SameEngine rt y.engine y'.engine) (ho : SameOptions o o') :
    Prog.Coupled (kycReader rt) SameResult (y.execute o) (y'.execute o') := by
  have hauthorized : SameOptions (authorize o "Bearer" y.accessToken)
      (authorize o' "Bearer" y'.accessToken) :=
    ⟨ho.service, ho.operation, ho.method, ho.path, ho.safety, ho.idempotencyKey, ho.correlationId⟩
  have hsend : Prog.Coupled (kycReader rt)
      (SameRaw (noTokens rt) sampleAuthenticator.spec (.operation y.accessToken)) (y.execute o)
      (y'.execute o') := execute_coupled h hauthorized rfl
  exact hsend.mono fun _ _ hraw => ⟨hraw.statusCode, hraw.correlationId⟩

theorem auditedKyc_coupled (h : SameEngine rt y.engine y'.engine) (ho : SameOptions o o') :
    Prog.Coupled (kycReader rt) SameResult ((kycExecutor logger y).execute o)
      ((kycExecutor logger y').execute o') := by
  have hrt : (kycExecutor logger y).rt = rt := h.runtime
  have hrt' : (kycExecutor logger y').rt = rt := h.runtime'
  refine (staticExecute_coupled h ho).attempt_bind ?_ ?_
  · intro raw raw' hraw
    dsimp only [AuditedRequestExecutor.emit]
    rw [hrt, hrt', ho.service, ho.operation, hraw.1, hraw.2]
    exact (emitAuditEvent_coupled logger _).bind fun _ _ _ => .ret hraw
  · intro error
    cases error with
    | builtin error => exact .throw _
    | jibit error =>
      dsimp only [AuditedRequestExecutor.emit]
      rw [hrt, hrt', ho.service, ho.operation]
      exact (emitAuditEvent_coupled logger _).bind fun _ _ _ => .throw _

/-- What the typed method makes of its raw response. -/
def kycResult (rt : Runtime) (model : ResponseModel M) (op : KycOperation) (raw : RawResponse) :
    Except PyError (APIResponse M) :=
  parseModelResponse rt raw model op.spec.service.value op.spec.operation
    op.spec.method op.spec.path

/-- How two calls end: with errors that name no value of theirs, with the same error, or with what
    the response model says of two responses of one status and correlation id. -/
def SameVerdict (rt : Runtime) (op : KycOperation) (model : ResponseModel M)
    (r r' : Except PyError (APIResponse M)) : Prop :=
  (∃ e ∈ kycRefusals rt op, ∃ e' ∈ kycRefusals rt op, r = .error e ∧ r' = .error e') ∨
    ∃ raw raw', Outcomes SameResult raw raw' ∧ r = raw.bind (kycResult rt model op) ∧
      r' = raw'.bind (kycResult rt model op)

/-- Two calls of one KYC operation that both pass their checks or both do not, with whatever
    identity data, media and tokens, in worlds that answer alike: nothing in the log, in the audit
    events and in the errors tells one from the other. -/
theorem kyc_payload_isolated (h : SameEngine rt y.engine y'.engine) {call call' : KycCall}
    (hop : call.operation = call'.operation)
    (haccepted : (call.form rt isdigit).isOk = (call'.form rt isdigit).isOk)
    (model : ResponseModel M)
    {tr tr' : List (Event effects)} {r r' : Except PyError (APIResponse M)}
    (hrun : (call.run isdigit (kycExecutor logger y) model).Emits tr r)
    (hrun' : (call'.run isdigit (kycExecutor logger y') model).Emits tr' r')
    (hanswers : (kycReader rt).InStep tr tr') :
    records tr = records tr' ∧ audits tr = audits tr' ∧
    SameVerdict rt call.operation model r r' := by
  have hrt : y.engine.rt = rt := h.runtime
  have hrt' : y'.engine.rt = rt := h.runtime'
  cases hform : call.form rt isdigit with
  | error e => cases hform' : call'.form rt isdigit with
    | ok form =>
      rw [hform, hform'] at haccepted
      cases haccepted
    | error e' =>
      rw [run_refused (by rw [hrt]; exact hform)] at hrun
      rw [run_refused (by rw [hrt']; exact hform')] at hrun'
      obtain ⟨rfl, rfl⟩ := hrun
      obtain ⟨rfl, rfl⟩ := hrun'
      exact ⟨rfl, rfl, .inl ⟨e, refusal_mem hform, e', hop ▸ refusal_mem hform', rfl, rfl⟩⟩
  | ok form => cases hform' : call'.form rt isdigit with
    | error e =>
      rw [hform, hform'] at haccepted
      cases haccepted
    | ok form' =>
      rw [run_accepted (by rw [hrt]; exact hform)] at hrun
      rw [run_accepted (by rw [hrt']; exact hform')] at hrun'
      obtain ⟨raw, hraw, hr⟩ := bind_ofExcept_emits hrun
      obtain ⟨raw', hraw', hr'⟩ := bind_ofExcept_emits hrun'
      have ho : SameOptions (kycOptions call.operation form)
          (kycOptions call'.operation form') := by
        rw [hop]
        exact ⟨rfl, rfl, rfl, rfl, rfl, rfl, rfl⟩
      obtain ⟨hseen, hresult⟩ := (auditedKyc_coupled h ho).run hraw hraw' hanswers
      refine ⟨?_, ?_, .inr ⟨raw, raw', hresult, ?_, ?_⟩⟩
      · rw [kyc_records rt, kyc_records rt, hseen]
      · rw [kyc_audits rt, kyc_audits rt, hseen]
      · rw [hr, show (kycExecutor logger y).rt = rt from hrt]
        rfl
      · rw [hr', show (kycExecutor logger y').rt = rt from hrt', hop]
        rfl

end Isolation

/-- A cheque of one byte. -/
def chequeImage (byte : UInt8) : MediaFile where
  content := [byte]
  filename := "cheque.png"
  contentType := "image/png"
  content_ne := List.cons_ne_nil _ _
  filename_ne := by decide
  contentType_ne := by decide

/-- A provider that refuses every operation with this body. -/
def refusingKyc (refused : String) : Handler Unit
  | .send _ _, s => (answer 400 refused, s)
  | .storeGet _, s => (.ok none, s)
  | o, s => ((scripted o []).1, s)

/-- The body of the first run, and of the second. -/
def firstRefusal : String := "\x7b\"code\":\"auth.failed\",\"message\":\"T1 is revoked\"\x7d"

def secondRefusal : String := "\x7b\"code\":\"auth.failed\",\"message\":\"who is U1\"\x7d"

/-- The KYC engine of a deployment with this token. -/
def chequeEngine (accessToken : String) : StaticBearerRequestEngine :=
  ⟨secretEngine "" "", accessToken⟩

/-- The recognition of a cheque, with this token and this refusal. -/
def chequeRun (accessToken : String) (byte : UInt8) (refused : String) :
    List (Event effects) × Unit × Except PyError (APIResponse Json) :=
  ((KycCall.ocrCheque (chequeImage byte)).run Char.isDigit
    (kycExecutor {} (chequeEngine accessToken))
    ⟨.ok⟩).exec (S := effects) (refusingKyc refused) ()

theorem chequeRun_emits (accessToken : String) (byte : UInt8) (refused : String) :
    ((KycCall.ocrCheque (chequeImage byte)).run Char.isDigit
      (kycExecutor {} (chequeEngine accessToken)) ⟨.ok⟩).Emits
      (chequeRun accessToken byte refused).1
      (chequeRun accessToken byte refused).2.2 := Prog.exec_emits _ _ _

theorem cheques_agree (o o' : Effect) (s s' : Unit) :
    SameAnswer (noTokens secretRuntime) sampleAuthenticator.spec o o'
      (refusingKyc firstRefusal o s).1 (refusingKyc secondRefusal o' s').1 := by
  cases o with
  | send purpose request => cases o' with
    | send purpose' request' =>
      intro _
      have hbody : SameErrorContent secretRuntime (ascii firstRefusal) (ascii secondRefusal) := by
        constructor
        · exact iff_of_false (by decide) (by decide)
        · exact refusals_same (by decide) (by decide)
      exact ⟨rfl, rfl, fun h => absurd h.2 (by decide), fun _ => hbody⟩
    | _ => trivial
  | storeGet key => cases o' with
    | storeGet key' => exact .none
    | _ => trivial
  | _ => cases o' <;> trivial

theorem cheque_accepted (rt : Runtime) (isdigit : Char → Bool) (byte : UInt8) :
    ((KycCall.ocrCheque (chequeImage byte)).form rt isdigit).isOk = true := by
  have hsize : ¬ (chequeImage byte).content.length > maxOcrBytes := by
    show ¬ 1 > 4 * 1024 * 1024
    omega
  have htype :
    ["image/"].any (fun start => start.toList.isPrefixOf "image/png".toList) = true := by decide
  have hmedia : validateMedia rt (chequeImage byte) maxOcrBytes ["image/"] .ocrCheque = .ok () := by
    unfold validateMedia
    rw [if_neg hsize]
    exact if_neg (not_not.mpr htype)
  show Except.isOk
    (validateMedia rt (chequeImage byte) maxOcrBytes ["image/"] .ocrCheque >>= _) = true
  rw [hmedia]
  rfl

theorem cheques_inStep : (kycReader secretRuntime).InStep (chequeRun "K1" 0 firstRefusal).1
    (chequeRun "K2" 1 secondRefusal).1 := by
  apply Prog.inStep_exec
  exact cheques_agree

/-- Two cheques, two tokens, two refusals. -/
theorem kyc_payload_isolated_cheques :
    records (chequeRun "K1" 0 firstRefusal).1 = records (chequeRun "K2" 1 secondRefusal).1 ∧
      audits (chequeRun "K1" 0 firstRefusal).1 = audits (chequeRun "K2" 1 secondRefusal).1 ∧
      SameVerdict secretRuntime .ocrCheque ⟨.ok⟩ (chequeRun "K1" 0 firstRefusal).2.2
        (chequeRun "K2" 1 secondRefusal).2.2 := by
  have hone := chequeRun_emits "K1" 0 firstRefusal
  have htwo := chequeRun_emits "K2" 1 secondRefusal
  have hanswers := cheques_inStep
  have haccepted : ((KycCall.ocrCheque (chequeImage 0)).form secretRuntime Char.isDigit).isOk =
      ((KycCall.ocrCheque (chequeImage 1)).form secretRuntime Char.isDigit).isOk :=
    (cheque_accepted _ _ 0).trans (cheque_accepted _ _ 1).symm
  have hengine : SameEngine secretRuntime (chequeEngine "K1").engine (chequeEngine "K2").engine :=
    ⟨rfl, rfl, rfl, rfl⟩
  have hop : (KycCall.ocrCheque (chequeImage 0)).operation =
      (KycCall.ocrCheque (chequeImage 1)).operation := rfl
  exact kyc_payload_isolated hengine hop haccepted ⟨.ok⟩ hone htwo hanswers

end JibitSdk.Guarantees
