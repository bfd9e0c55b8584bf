import JibitSdk.Sdk.Services.Facade
import JibitSdk.Sdk.Services.Requests

/-!
# KYC operations

`jibit/services/kyc/service.py`, with the `MediaFile` of `jibit/services/kyc/models.py`: the checks
of each operation and the form it submits.
-/

namespace JibitSdk.Sdk

open JibitSdk.Python JibitSdk.Reasoning

/-! ## 1. Media -/

/-- `MediaFile`: what `__init__` refuses is empty. -/
@[ext]
structure MediaFile where
  content : List UInt8
  filename : String
  contentType : String
  content_ne : content ≠ []
  filename_ne : filename ≠ ""
  contentType_ne : contentType ≠ ""

/-- `MediaFile.__init__`. -/
def MediaFile.new (rt : Runtime) (content : List UInt8) (filename contentType : String) :
    Except PyError MediaFile :=
  if hcontent : content = [] then
    .error (.jibit (.new rt .validation "Media content must not be empty"))
  else if hfilename : filename = "" then
    .error (.jibit (.new rt .validation "Media filename must not be empty"))
  else if htype : contentType = "" then
    .error (.jibit (.new rt .validation "Media content_type must not be empty"))
  else .ok ⟨content, filename, contentType, hcontent, hfilename, htype⟩

/-- `_MAX_IMAGE_BYTES`, `_MAX_OCR_BYTES` and `_MAX_VIDEO_BYTES`. -/
def maxImageBytes : ℕ := 10 * 1024 * 1024
def maxOcrBytes : ℕ := 4 * 1024 * 1024
def maxVideoBytes : ℕ := 40 * 1024 * 1024

/-! ## 2. Forms -/

section
variable (rt : Runtime)

/-- `value is not None`. -/
def isGiven : PyVal → Bool
  | .none => false
  | _ => true

/-- `str(value).lower() if isinstance(value, bool) else str(value)`. -/
def fieldText : PyVal → String
  | .bool b => if b then "true" else "false"
  | value => rt.strVal value

/-- `_fields`. -/
def formFields (values : List (String × PyVal)) : List MultipartPart :=
  (values.filter fun v => isGiven v.2).map fun v =>
    { name := v.1, kind := .field, value := .text (fieldText rt v.2) }

/-- `_file`. -/
def formFile (name : String) (media : MediaFile) : MultipartPart where
  name
  kind := .file
  value := .data media.content
  filename := some media.filename
  contentType := some media.contentType

/-- The form `_post` builds. -/
def postForm (fields : List (String × PyVal)) (fileName : String) (media : MediaFile) :
    List MultipartPart := formFields rt fields ++ [formFile fileName media]

/-! ## 3. Checks -/

/-- `_invalid`. -/
def KycOperation.invalid (op : KycOperation) (message : String) : PyError :=
  op.spec.context.error rt message

/-- `_validate_media`. -/
def validateMedia (media : MediaFile) (limit : ℕ) (starts : List String) (op : KycOperation) :
    Except PyError Unit :=
  if media.content.length > limit then
    .error (op.invalid rt s!"media exceeds the documented {limit} byte limit")
  else if ¬ starts.any fun start => start.toList.isPrefixOf media.contentType.toList then
    .error (op.invalid rt "media content_type is not supported for this operation")
  else .ok ()

/-- `len(national_id) != 10 or not national_id.isdigit()` fails. -/
def isNationalId (isdigit : Char → Bool) (text : String) : Bool :=
  text.length = 10 && text.toList.all isdigit

/-! ## 4. Operations -/

/-- The arguments of `verify_video`. -/
@[ext]
structure VideoArguments where
  nationalId : String
  video : MediaFile
  line : String
  birthDate : Option String := none
  nationalCardSerial : Option String := none
  specWords : Option String := none
  maxAcceptedDist : Option ℤ := none
  asrThreshold : Option PyFloat := none
  livenessThreshold : Option PyFloat := none
  verificationThreshold : Option PyFloat := none
  checkLiveness : Option Bool := none

def VideoArguments.fields (a : VideoArguments) : List (String × PyVal) :=
  [("national_id", .str a.nationalId), ("line", .str a.line),
    ("birth_date", a.birthDate.elim .none .str),
    ("national_card_serial", a.nationalCardSerial.elim .none .str),
    ("spec_words", a.specWords.elim .none .str),
    ("max_accepted_dist", a.maxAcceptedDist.elim .none .int),
    ("asr_threshold", a.asrThreshold.elim .none .float),
    ("liveness_threshold", a.livenessThreshold.elim .none .float),
    ("verification_threshold", a.verificationThreshold.elim .none .float),
    ("check_liveness", a.checkLiveness.elim .none .bool)]

/-- The arguments of `verify_photo`. -/
@[ext]
structure PhotoArguments where
  nationalId : String
  liveFace : MediaFile
  birthDate : Option String := none
  serial : Option String := none
  referenceFace : Option MediaFile := none
  livenessThreshold : Option PyFloat := none
  verificationThreshold : Option PyFloat := none

def PhotoArguments.fields (a : PhotoArguments) : List (String × PyVal) :=
  [("ssn", .str a.nationalId), ("birth_date", a.birthDate.elim .none .str),
    ("serial", a.serial.elim .none .str),
    ("liveness_threshold", a.livenessThreshold.elim .none .float),
    ("verification_threshold", a.verificationThreshold.elim .none .float)]

/-- The calls of `KycService`. -/
inductive KycCall where
  | verifyVideo (arguments : VideoArguments)
  | verifyPhoto (arguments : PhotoArguments)
  | ocrNationalCard (image : MediaFile) (isBack tryRotate : Option Bool)
  | ocrCheque (image : MediaFile)
  | ocrBankCard (image : MediaFile)

namespace KycCall

def operation : KycCall → KycOperation
  | .verifyVideo _ => .verifyVideo
  | .verifyPhoto _ => .verifyPhoto
  | .ocrNationalCard _ _ _ => .ocrNationalCard
  | .ocrCheque _ => .ocrCheque
  | .ocrBankCard _ => .ocrBankCard

/-- The form of a call, or what it raises before.  `isdigit` are the characters
    `str.isdigit` accepts. -/
def form (isdigit : Char → Bool) : KycCall → Except PyError (List MultipartPart)
  | .verifyVideo a =>
    let op := KycOperation.verifyVideo
    if ¬ a.maxAcceptedDist.all fun dist => 1 ≤ dist && dist ≤ 10 then
      .error (op.invalid rt "max_accepted_dist must be between 1 and 10")
    else if ¬ isNationalId isdigit a.nationalId then
      .error (op.invalid rt "national_id must contain 10 digits")
    else if a.line = "" then .error (op.invalid rt "line must not be empty")
    else do
      validateMedia rt a.video maxVideoBytes ["video/"] op
      return postForm rt a.fields "video_file" a.video
  | .verifyPhoto a =>
    let op := KycOperation.verifyPhoto
    if ¬ isNationalId isdigit a.nationalId then
      .error (op.invalid rt "national_id must contain 10 digits")
    else do
      validateMedia rt a.liveFace maxImageBytes ["image/"] op
      match a.referenceFace with
      | none => return formFields rt a.fields ++ [formFile "live_face" a.liveFace]
      | some face =>
        validateMedia rt face maxImageBytes ["image/"] op
        return formFields rt a.fields ++ [formFile "live_face" a.liveFace, formFile "api_face" face]
  | .ocrNationalCard image isBack tryRotate => do
    validateMedia rt image maxOcrBytes ["image/"] .ocrNationalCard
    return postForm rt
      [("is_back", isBack.elim .none .bool), ("try_rotate", tryRotate.elim .none .bool)]
      "file" image
  | .ocrCheque image => do
    validateMedia rt image maxOcrBytes ["image/"] .ocrCheque
    return postForm rt [] "file" image
  | .ocrBankCard image => do
    validateMedia rt image maxOcrBytes ["image/"] .ocrBankCard
    return postForm rt [] "file" image

/-- The method of `KycService` over its executor. -/
def run {M : Type} (isdigit : Char → Bool) (x : AuditedRequestExecutor) (model : ResponseModel M)
    (call : KycCall) : Py (APIResponse M) :=
  match call.form x.rt isdigit with
  | .ok parts => wrappedCall x (.kyc call.operation) { multipart := some parts } model
  | .error e => .throw e

end KycCall

end

end JibitSdk.Sdk
