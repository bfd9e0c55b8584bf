import JibitSdk.Guarantees.Audit
import JibitSdk.Guarantees.Protection
import JibitSdk.Sdk.Services.References

/-!
# Caller references and endpoints

A caller's reference becomes one segment of the request path.  The checks keep delimiters out of it;
whether the request still goes to the operation's endpoint is decided once the client has removed
the dot segments of the URL.
-/

namespace JibitSdk.Guarantees

open JibitSdk.Python JibitSdk.Reasoning JibitSdk.Sdk

/-! ## 1. The request URL -/

/-- The engine below an executor. -/
def executorEngine : RequestExecutor → RequestEngine
  | .authenticated x => x.engine
  | .staticBearer x => x.engine

theorem validatedEndpoint_ok {e : RequestEngine} {path endpoint : String}
    (h : e.validatedEndpoint path = .ok endpoint) : endpoint = path := by
  unfold RequestEngine.validatedEndpoint at h
  split at h
  · cases h
  · split at h
    · cases h
    · exact (Except.ok.inj h).symm

/-- Every send for the operation goes to the URL of its path. -/
theorem executor_url {x : RequestExecutor} {options : RequestOptions} {tr : List (Event effects)}
    {r : Except PyError RawResponse} (h : (x.execute options).Emits tr r) :
    ∀ s ∈ operationSends tr,
      s.request.url = (executorEngine x).buildUrl options.service options.path := by
  intro s hs
  cases x with
  | authenticated x =>
    obtain ⟨token, id, endpoint, hpath, hreq⟩ := operationSends_request h s hs
    rw [hreq, validatedEndpoint_ok hpath]
    rfl
  | staticBearer x =>
    have hall : operationSends tr = sends tr := operationSends_execute h
    rw [hall] at hs
    rcases execute_emits h with ⟨error, -, -, hsends⟩
      | ⟨id, endpoint, _, outcomes, hpath, -, hsends⟩
    · rw [hsends] at hs
      exact absurd hs List.not_mem_nil
    · rw [hsends] at hs
      obtain ⟨outcome, -, rfl⟩ := List.mem_map.mp hs
      rw [validatedEndpoint_ok hpath]
      rfl

/-- `_build_url` on characters. -/
theorem buildUrl_toList (e : RequestEngine) (service : ServiceName) {endpoint : String}
    {segments : List Segment} (hpath : endpoint.toList = joinSegments segments)
    (hfirst : ∃ c cs rest, segments = (c :: cs) :: rest ∧ c ≠ '/') :
    (e.buildUrl service endpoint).toList =
      (e.configuredBaseUrl service).toList.rdropWhile (· = '/') ++ joinSegments segments := by
  obtain ⟨c, cs, rest, rfl, hc⟩ := hfirst
  show (rstrip (e.configuredBaseUrl service) '/' ++ "/" ++ lstrip endpoint '/').toList = _
  rw [String.toList_append, String.toList_append, lstrip, rstrip, String.toList_ofList,
    String.toList_ofList, hpath]
  simp [List.rdropWhile, hc]

/-! ## 2. Base URLs -/

section Base
variable (base : HttpUrl)

theorem base_slash : ∀ s ∈ base.path, '/' ∉ s := fun s hs hmem =>
  absurd (base.path_plain s hs '/' hmem) (by decide)

theorem base_scheme : ':' ∉ base.scheme := by
  rcases base.scheme_http with h | h <;> rw [h] <;> decide

/-- A path without delimiters in its segments ends where the URL's path ends. -/
theorem joinSegments_plain {segments : List Segment}
    (h : ∀ s ∈ segments, ∀ c ∈ s, endsAuthority c = false) :
    ∀ c ∈ joinSegments segments, endsPath c = false := by
  intro c hc
  obtain ⟨s, hs, hmem⟩ := List.mem_flatMap.mp hc
  rcases List.mem_cons.mp hmem with rfl | hmem
  · decide
  · have hplain := h s hs c hmem
    simp only [endsAuthority, Bool.or_eq_false_iff] at hplain
    rw [endsPath, hplain.1.2, hplain.2]
    rfl

/-- Stripping leaves the authority alone. -/
theorem rdropWhile_authority (a : List Char) (ha : a ≠ []) (hlast : a.getLast ha ≠ '/')
    (b : List Char) : (a ++ b).rdropWhile (· = '/') = a ++ b.rdropWhile (· = '/') := by
  induction b using List.reverseRecOn with
  | nil => simpa [List.rdropWhile_eq_self_iff, ha] using hlast
  | append_singleton b c ih =>
    rw [← List.append_assoc, List.rdropWhile_concat, List.rdropWhile_concat, ih]
    split_ifs <;> simp

/-- The text of a URL from its last component that is not empty on. -/
theorem strip_rest (hrest : base.rest ≠ []) :
    ∃ rest, base.text.toList.rdropWhile (· = '/') =
        Url.text ⟨base.scheme, base.authority, joinSegments base.path, rest⟩ ∧
      ∃ c tail, rest = c :: tail ∧ endsPath c = true := by
  obtain ⟨c, tail, hc⟩ := List.exists_cons_of_ne_nil hrest
  have hdelim : endsPath c = true := base.rest_delimited c (by rw [hc]; rfl)
  have hslash : c ≠ '/' := fun h => absurd hdelim (by rw [h]; decide)
  refine ⟨c :: tail.rdropWhile (· = '/'), ?_, c, _, rfl, hdelim⟩
  rw [HttpUrl.text, String.toList_ofList, Url.text, Url.text, hc]
  have := rdropWhile_authority (base.scheme ++ ':' :: '/' :: '/' ::
    (base.authority ++ joinSegments base.path ++ [c])) (by simp) (by simpa using hslash) tail
  simpa using this

theorem strip_path (hrest : base.rest = []) :
    base.text.toList.rdropWhile (· = '/') =
      Url.text ⟨base.scheme, base.authority, joinSegments base.prefixSegments, []⟩ := by
  have hlast : base.authority.getLast base.authority_ne ≠ '/' := fun h =>
    absurd (base.authority_plain _ (List.getLast_mem base.authority_ne)) (by rw [h]; decide)
  rw [HttpUrl.text, String.toList_ofList, Url.text, Url.text, hrest, HttpUrl.prefixSegments,
    ← rdropWhile_joinSegments (base_slash base)]
  have := rdropWhile_authority (base.scheme ++ ':' :: '/' :: '/' :: base.authority) (by simp)
    (by simpa [List.getLast_append, List.getLast_cons, base.authority_ne] using hlast)
    (joinSegments base.path)
  simpa using this

end Base

/-! ## 3. The endpoint that is reached -/

/-- The fixed words of the paths. -/
def templateWords : List Segment :=
  ["directdebit", "api", "v1", "transaction", "otp", "subscription-mandate",
    "transactions", "mandates",
    "mandate-reference", "creditor-mandate-reference", "cobank", "v2", "orders", "settlement",
    "receipt-link", "records", "pulse", "message", "sms", "status",
    "client-message-id"].map String.toList

/-- A segment is a fixed word or a reference. -/
theorem mem_segments (call : ReferenceCall) : ∀ s ∈ call.segments,
    s ∈ templateWords ∨ ∃ reference ∈ call.references, s = reference.toList := by
  cases call <;> simp only [ReferenceCall.segments, List.forall_mem_cons] <;>
    refine ⟨?_, ?_, ?_, ?_, ?_, ?_⟩ <;> and_intros <;>
    first
    | exact .inl (by decide)
    | exact .inr ⟨_, by simp [ReferenceCall.references], rfl⟩
    | exact fun _ h => absurd h List.not_mem_nil

theorem reference_mem_segments {call : ReferenceCall} {reference : String}
    (h : reference ∈ call.references) : reference.toList ∈ call.segments := by
  cases call <;> simp [ReferenceCall.references] at h
  case setRecordReceipt value record =>
    rcases h with rfl | rfl <;> simp [ReferenceCall.segments]
  all_goals
    subst h
    simp [ReferenceCall.segments]

/-- The words hold no delimiter and are no dot segments. -/
theorem templateWords_plain : ∀ s ∈ templateWords,
    (∀ c ∈ s, endsAuthority c = false) ∧ ¬ s.isDot := by
  intro s hs
  have hword : (s.all fun c => decide (endsAuthority c = false)) = true ∧ ¬ s.isDot :=
    List.all_iff_forall_prop.mp (by decide : (templateWords.all fun s : Segment => decide
      ((s.all fun c => decide (endsAuthority c = false)) = true ∧ ¬ s.isDot)) = true) s hs
  exact ⟨List.all_iff_forall_prop.mp hword.1, hword.2⟩

/-- Every path starts with a word. -/
theorem segments_first (call : ReferenceCall) :
    ∃ c cs rest, call.segments = (c :: cs) :: rest ∧ c ≠ '/' := by
  cases call <;> exact ⟨_, _, _, rfl, by decide⟩

/-- The two checks refuse the delimiters. -/
theorem directDebitReference_ok {rt : Runtime} {operation value reference : String}
    (hdelims : ∀ c ∈ ['/', '?', '#'], rt.chars.isWord c = false)
    (h : directDebitReference rt operation value = .ok reference) :
    reference = value ∧ ∀ c ∈ value.toList, endsAuthority c = false := by
  unfold directDebitReference at h
  split at h
  · exact nomatch h
  · rename_i hvalid
    refine ⟨(Except.ok.inj h).symm, fun c hc => ?_⟩
    have hall := (not_or.mp hvalid).2
    rw [not_not, List.all_eq_true] at hall
    have hchar := hall c hc
    by_contra hdelim
    have hmem : c ∈ ['/', '?', '#'] := by
      simpa [endsAuthority, or_iff_not_imp_left] using hdelim
    have hword := hdelims c hmem
    rw [isalnum, hword] at hchar
    simp only [List.mem_cons, List.not_mem_nil, or_false] at hmem
    rcases hmem with rfl | rfl | rfl <;> exact absurd hchar (by decide)

theorem referenceField_plain {value : String} (h : referenceField value = true) :
    ∀ c ∈ value.toList, endsAuthority c = false := by
  intro c hc
  have hall := (Bool.and_eq_true _ _).mp h
  have hchar := List.all_eq_true.mp hall.2 c hc
  by_contra hdelim
  have hmem : c = '/' ∨ c = '?' ∨ c = '#' := by
    simpa [endsAuthority, or_iff_not_imp_left] using hdelim
  rcases hmem with rfl | rfl | rfl <;> exact absurd hchar (by decide)

theorem cobankReference_ok {rt : Runtime} {operation value reference : String}
    (h : cobankReference rt operation value = .ok reference) :
    reference = value ∧ ∀ c ∈ value.toList, endsAuthority c = false := by
  unfold cobankReference at h
  split at h
  · rename_i hvalid
    exact ⟨(Except.ok.inj h).symm, referenceField_plain hvalid⟩
  · exact nomatch h

theorem smsReference_ok {rt : Runtime} {operation value reference : String}
    (h : smsReference rt operation value = .ok reference) :
    reference = value ∧ ∀ c ∈ value.toList, endsAuthority c = false := by
  unfold smsReference at h
  split at h
  · rename_i hvalid
    exact ⟨(Except.ok.inj h).symm, referenceField_plain hvalid⟩
  · exact nomatch h

/-- The operation of a call whose references passed. -/
def calledOperation : ReferenceCall → WrappedOperation
  | .sendOtp value => .directDebit (.sendOtp value)
  | .inquireTransaction value => .directDebit (.inquireTransaction value)
  | .listSubscriptionTransactions value => .directDebit (.listSubscriptionTransactions value)
  | .inquireMandate value => .directDebit (.inquireMandate value)
  | .inquireCreditorMandate value => .directDebit (.inquireCreditorMandate value)
  | .setSettlementReceipt value => .cobank (.setSettlementReceipt value)
  | .setRecordReceipt value record => .cobank (.setRecordReceipt value record)
  | .getStatusByClientId value => .sms (.getStatusByClientId value)

/-- Its path is the path of the call's segments. -/
theorem calledOperation_path (call : ReferenceCall) :
    (calledOperation call).spec.path.toList = joinSegments call.segments := by
  cases call <;>
    simp [calledOperation, WrappedOperation.spec, DirectDebitOperation.spec, CobankOperation.spec,
      SmsOperation.spec, toString, ReferenceCall.segments]

theorem bind_eq_ok {α β : Type} {x : Except PyError α} {f : α → Except PyError β} {b : β}
    (h : x >>= f = .ok b) : ∃ a, x = .ok a ∧ f a = .ok b := by
  cases x with
  | ok a => exact ⟨a, rfl, h⟩
  | error error => exact nomatch h

/-- An accepted call runs its operation, and no reference holds a delimiter. -/
theorem checked_ok {rt : Runtime} {call : ReferenceCall} {op : WrappedOperation}
    (hdelims : ∀ c ∈ ['/', '?', '#'], rt.chars.isWord c = false) (h : call.checked rt = .ok op) :
    op = calledOperation call ∧
      ∀ reference ∈ call.references, ∀ c ∈ reference.toList, endsAuthority c = false := by
  cases call with
  | setRecordReceipt value record =>
    obtain ⟨reference, hreference, h₁⟩ := bind_eq_ok h
    obtain ⟨recordReference, hrecord, hop⟩ := bind_eq_ok h₁
    obtain ⟨rfl, hplain⟩ := cobankReference_ok hreference
    obtain ⟨rfl, hrecordPlain⟩ := cobankReference_ok hrecord
    refine ⟨(Except.ok.inj hop).symm, ?_⟩
    simpa [ReferenceCall.references] using ⟨hplain, hrecordPlain⟩
  | setSettlementReceipt value =>
    obtain ⟨reference, hreference, hop⟩ := bind_eq_ok h
    obtain ⟨rfl, hplain⟩ := cobankReference_ok hreference
    exact ⟨(Except.ok.inj hop).symm, by simpa [ReferenceCall.references] using hplain⟩
  | getStatusByClientId value =>
    obtain ⟨reference, hreference, hop⟩ := bind_eq_ok h
    obtain ⟨rfl, hplain⟩ := smsReference_ok hreference
    exact ⟨(Except.ok.inj hop).symm, by simpa [ReferenceCall.references] using hplain⟩
  | _ value =>
    obtain ⟨reference, hreference, hop⟩ := bind_eq_ok h
    obtain ⟨rfl, hplain⟩ := directDebitReference_ok hdelims hreference
    exact ⟨(Except.ok.inj hop).symm, by simpa [ReferenceCall.references] using hplain⟩

theorem segments_plain {call : ReferenceCall}
    (hplain : ∀ reference ∈ call.references, ∀ c ∈ reference.toList, endsAuthority c = false) :
    ∀ s ∈ call.segments, ∀ c ∈ s, endsAuthority c = false := by
  intro s hs
  rcases mem_segments call s hs with hword | ⟨reference, hreference, rfl⟩
  · exact (templateWords_plain s hword).1
  · exact hplain reference hreference

/-- The dot segments of a path come from references. -/
theorem segments_normal_iff (call : ReferenceCall) :
    (∀ s ∈ call.segments, ¬ s.isDot) ↔
      ∀ reference ∈ call.references, ¬ Segment.isDot reference.toList := by
  constructor
  · intro h reference hreference
    exact h _ (reference_mem_segments hreference)
  · intro h s hs
    rcases mem_segments call s hs with hword | ⟨reference, hreference, rfl⟩
    · exact (templateWords_plain s hword).2
    · exact h reference hreference

/-- The URL keeps scheme and authority of the base URL and, once its dot segments are removed, has
    exactly these segments below the base path. -/
def Confined (base : HttpUrl) (segments : List Segment) (url : String) : Prop :=
  ∃ u, Url.parse url.toList = some u ∧ u.scheme = base.scheme ∧ u.authority = base.authority ∧
    removeDotSegments (pathSegments u.path) = base.prefixSegments ++ segments

theorem confined_iff {base : HttpUrl} {segments : List Segment} {url : String} {u : Url}
    (h : Url.parse url.toList = some u) (hscheme : u.scheme = base.scheme)
    (hauthority : u.authority = base.authority) :
    Confined base segments url ↔
      removeDotSegments (pathSegments u.path) = base.prefixSegments ++ segments := by
  constructor
  · rintro ⟨v, hv, -, -, hsegments⟩
    rw [Option.some.inj (h.symm.trans hv)]
    exact hsegments
  · intro hsegments
    exact ⟨u, h, hscheme, hauthority, hsegments⟩

/-- A base URL with a query or a fragment swallows the endpoint. -/
theorem not_confined_of_rest {base : HttpUrl} {segments : List Segment} {url : String}
    (hrest : base.rest ≠ []) (hurl : url.toList =
      base.text.toList.rdropWhile (· = '/') ++ joinSegments segments)
    (hfirst : ∃ c cs rest, segments = (c :: cs) :: rest ∧ c ≠ '/') :
    ¬ Confined base segments url := by
  obtain ⟨rest, hstrip, c, tail, rfl, hdelim⟩ := strip_rest base hrest
  obtain ⟨s, path, hpath⟩ := List.exists_cons_of_ne_nil base.path_ne
  have hparse := Url.parse_text (u := ⟨base.scheme, base.authority, joinSegments base.path,
    c :: tail ++ joinSegments segments⟩)
    { scheme := base_scheme base
      authority := base.authority_plain
      path := joinSegments_plain base.path_plain
      path_slash := ⟨s ++ joinSegments path, by rw [hpath]; rfl⟩
      rest := by simpa using hdelim }
  have hsame : url.toList = Url.text ⟨base.scheme, base.authority, joinSegments base.path,
      c :: tail ++ joinSegments segments⟩ := by
    rw [hurl, hstrip, Url.text, Url.text]
    simp
  rw [← hsame] at hparse
  rw [confined_iff hparse rfl rfl, pathSegments_joinSegments base.path_ne (base_slash base),
    (removeDotSegments_eq_self_iff _).mpr base.path_normal]
  -- What stripping removes of the base path is empty, the endpoint's first segment is not.
  obtain ⟨empties, hsplit, hempties⟩ := eq_rdropWhile_append base.path
  obtain ⟨d, ds, others, rfl, -⟩ := hfirst
  intro heq
  rw [hsplit] at heq
  have : empties = (d :: ds) :: others := List.append_cancel_left heq
  exact absurd (hempties (d :: ds) (by rw [this]; exact List.mem_cons_self)) (by simp)

/-- A base URL that ends with its path keeps the endpoint, up to its dot segments. -/
theorem confined_of_path {base : HttpUrl} {segments : List Segment} {url : String}
    (hrest : base.rest = []) (hurl : url.toList =
      base.text.toList.rdropWhile (· = '/') ++ joinSegments segments)
    (hfirst : ∃ c cs rest, segments = (c :: cs) :: rest ∧ c ≠ '/')
    (hplain : ∀ s ∈ segments, ∀ c ∈ s, endsAuthority c = false) :
    Confined base segments url ↔ ∀ s ∈ segments, ¬ s.isDot := by
  obtain ⟨d, ds, others, rfl, -⟩ := hfirst
  have hkept : ∀ s ∈ base.prefixSegments, s ∈ base.path := fun s hs =>
    (List.rdropWhile_prefix _ _).subset hs
  have hall : ∀ s ∈ base.prefixSegments ++ (d :: ds) :: others, ∀ c ∈ s,
      endsAuthority c = false := by
    intro s hs
    rcases List.mem_append.mp hs with hs | hs
    · exact base.path_plain s (hkept s hs)
    · exact hplain s hs
  have hslash : ∀ s ∈ base.prefixSegments ++ (d :: ds) :: others, '/' ∉ s := fun s hs hmem =>
    absurd (hall s hs '/' hmem) (by decide)
  have hne : base.prefixSegments ++ (d :: ds) :: others ≠ [] := by simp
  have hstart : ∃ path,
      joinSegments (base.prefixSegments ++ (d :: ds) :: others) = '/' :: path := by
    obtain ⟨s, rest, heq⟩ := List.exists_cons_of_ne_nil hne
    exact ⟨s ++ joinSegments rest, by rw [heq]; rfl⟩
  have hparse := Url.parse_text (u := ⟨base.scheme, base.authority,
    joinSegments (base.prefixSegments ++ (d :: ds) :: others), []⟩)
    { scheme := base_scheme base
      authority := base.authority_plain
      path := joinSegments_plain hall
      path_slash := hstart
      rest := by simp }
  have hsame : url.toList = Url.text ⟨base.scheme, base.authority,
      joinSegments (base.prefixSegments ++ (d :: ds) :: others), []⟩ := by
    rw [hurl, strip_path base hrest, Url.text, Url.text]
    simp
  rw [← hsame] at hparse
  rw [confined_iff hparse rfl rfl, pathSegments_joinSegments hne hslash,
    removeDotSegments_eq_self_iff]
  constructor
  · intro h s hs
    exact h s (List.mem_append_right _ hs)
  · intro h s hs
    rcases List.mem_append.mp hs with hs | hs
    · exact base.path_normal s (hkept s hs)
    · exact h s hs

/-- An accepted call is sent to its own endpoint exactly when the base URL ends with its path and no
    reference is a dot segment. -/
theorem reference_confined_iff (x : AuditedRequestExecutor) (call : ReferenceCall) (base : HttpUrl)
    {op : WrappedOperation} (hchecked : call.checked x.rt = .ok op)
    (hbase : (executorEngine x.executor).configuredBaseUrl op.spec.service = base.text)
    (hdelims : ∀ c ∈ ['?', '#'], x.rt.chars.isWord c = false) :
    (∀ {M : Type} (parts : RequestParts) (model : ResponseModel M) (tr : List (Event effects))
        (r : Except PyError (APIResponse M)), (call.run x parts model).Emits tr r →
        ∀ s ∈ operationSends tr,
          s.request.url = (executorEngine x.executor).buildUrl op.spec.service op.spec.path) ∧
      (Confined base call.segments
          ((executorEngine x.executor).buildUrl op.spec.service op.spec.path) ↔
        base.rest = [] ∧ ∀ reference ∈ call.references, ¬ Segment.isDot reference.toList) := by
  have hslash : x.rt.chars.isWord '/' = false := (x.rt.chars.punctuation '/' (by decide)).1
  obtain ⟨rfl, hplain⟩ := checked_ok (by simpa using ⟨hslash, by simpa using hdelims⟩) hchecked
  have hurl := buildUrl_toList (executorEngine x.executor) (calledOperation call).spec.service
    (calledOperation_path call) (segments_first call)
  rw [hbase] at hurl
  constructor
  · intro M parts model tr r hrun s hs
    have hwrapped : (AuditedCall.wrapped x (calledOperation call) parts model).run.Emits tr r := by
      unfold ReferenceCall.run at hrun
      rw [hchecked] at hrun
      exact hrun
    obtain ⟨tr', r', hinner, hsends, -, -⟩ := call_emits hwrapped
    rw [operationSends_congr hsends] at hs
    exact executor_url hinner s hs
  · by_cases hrest : base.rest = []
    · rw [confined_of_path hrest hurl (segments_first call) (segments_plain hplain),
        segments_normal_iff]
      exact ⟨fun h => ⟨hrest, h⟩, And.right⟩
    · exact ⟨fun h => absurd h (not_confined_of_rest hrest hurl (segments_first call)),
        fun h => absurd h.1 hrest⟩

/-- The default base URL. -/
def sampleBase : HttpUrl where
  scheme := "https".toList
  authority := "napi.jibit.ir".toList
  path := [[]]
  rest := []
  scheme_http := .inr rfl
  authority_ne := by decide
  authority_plain := List.all_iff_forall_prop.mp (by decide)
  path_ne := by decide
  path_plain s hs c hc := by
    rw [List.mem_singleton.mp hs] at hc
    exact absurd hc List.not_mem_nil
  path_normal := by decide
  rest_delimited _ hc := nomatch hc

/-- A facade of the deployment. -/
def sampleFacade : AuditedRequestExecutor :=
  ⟨sampleRuntime, .authenticated sampleExecutor, {}, "jibit.direct_debit.operation"⟩

theorem reference_confined_plain :
    (∀ {M : Type} (parts : RequestParts) (model : ResponseModel M) (tr : List (Event effects))
        (r : Except PyError (APIResponse M)),
        ((ReferenceCall.inquireTransaction "TX-1").run sampleFacade parts model).Emits tr r →
        ∀ s ∈ operationSends tr, s.request.url =
          sampleEngine.buildUrl .directDebit "/directdebit/api/v1/transaction/TX-1") ∧
      Confined sampleBase (ReferenceCall.inquireTransaction "TX-1").segments
        (sampleEngine.buildUrl .directDebit "/directdebit/api/v1/transaction/TX-1") := by
  have hchecked : (ReferenceCall.inquireTransaction "TX-1").checked sampleRuntime =
      .ok (.directDebit (.inquireTransaction "TX-1")) := by rfl
  have h := reference_confined_iff sampleFacade _ sampleBase hchecked (by decide)
    (List.all_iff_forall_prop.mp (by decide))
  exact ⟨h.1, h.2.mpr (by decide)⟩

/-- Two dots pass the check, and the request leaves the transaction endpoint. -/
theorem dots_leave_endpoint :
    (ReferenceCall.inquireTransaction "..").checked sampleRuntime =
        .ok (.directDebit (.inquireTransaction "..")) ∧
      ¬ Confined sampleBase (ReferenceCall.inquireTransaction "..").segments
        (sampleEngine.buildUrl .directDebit "/directdebit/api/v1/transaction/..") := by
  have hparse : Url.parse
      (sampleEngine.buildUrl .directDebit "/directdebit/api/v1/transaction/..").toList =
      some ⟨"https".toList, "napi.jibit.ir".toList,
        "/directdebit/api/v1/transaction/..".toList, []⟩ := by
    decide +kernel
  refine ⟨by rfl, ?_⟩
  rw [confined_iff hparse rfl rfl]
  decide

end JibitSdk.Guarantees
