import JibitSdk.Guarantees.Residue
import JibitSdk.Guarantees.StructuralRedaction
import JibitSdk.Sdk.Diagnostics

/-!
# Redacting again

A second redaction changes a text exactly where the first has left a card, and a structure exactly
where it changes one of its texts.
-/

namespace JibitSdk.Guarantees

open JibitSdk.Python JibitSdk.Reasoning JibitSdk.Reasoning.Pattern JibitSdk.Sdk

/-! ## 1. Texts -/

section
variable {rt : Runtime}

/-- A text whose masks do not rejoin with what follows them. -/
def SteadyText (rt : Runtime) (text : String) : Prop := ¬ Rejoins (identified rt.chars text.toList)

theorem redactStr_toList (rt : Runtime) (text : String) :
    (redactStr rt text).toList = redactText rt.chars text.toList := String.toList_ofList

theorem redactStr_clean_iff (text : String) :
    holdsIdentifier rt.chars (redactStr rt text).toList = false ↔ SteadyText rt text := by
  rw [redactStr_toList, SteadyText, ← holdsIdentifier_redactText_iff, Bool.not_eq_true]

theorem redactStr_redactStr_iff (text : String) :
    redactStr rt (redactStr rt text) = redactStr rt text ↔ SteadyText rt text := by
  rw [redactStr_eq_self_iff, redactStr_clean_iff]

theorem subFrom_ne_nil {r : Pattern Char} {repl : List Char → List Char} (hrepl : ∀ m, repl m ≠ [])
    {s : List Char} (hs : s ≠ []) (prev : Option Char) : r.subFrom repl 0 prev s ≠ [] := by
  cases s with
  | nil => exact absurd rfl hs
  | cons c s =>
    rw [subFrom]
    cases r.first prev (c :: s) with
    | none => exact List.cons_ne_nil _ _
    | some n =>
      cases n with
      | zero => exact fun h => List.cons_ne_nil _ _ (List.append_eq_nil_iff.mp h).2
      | succ n => exact fun h => hrepl _ (List.append_eq_nil_iff.mp h).1

theorem starred_ne_nil {stars : ℕ} (hstars : 0 < stars) (m : List Char) : starred stars m ≠ [] := by
  intro h
  have hempty := (List.append_eq_nil_iff.mp h).1
  rw [List.replicate_eq_nil_iff] at hempty
  omega

/-- Something is left of every text. -/
theorem redactText_ne_nil {s : List Char} (hs : s ≠ []) : redactText rt.chars s ≠ [] := by
  apply subFrom_ne_nil (starred_ne_nil (by decide))
  apply subFrom_ne_nil (starred_ne_nil (by decide))
  apply subFrom_ne_nil (fun m => starred_ne_nil (by decide) _)
  apply subFrom_ne_nil (fun m => List.cons_ne_nil _ _)
  exact hs

theorem messageOr_ne_empty (message : Option String) : messageOr message ≠ "" := by
  cases message with
  | none => decide
  | some message =>
    rw [messageOr]
    by_cases hempty : message = ""
    · rw [if_pos hempty]
      decide
    · rw [if_neg hempty]
      exact hempty

/-- The message of an error is redacted again with its context. -/
theorem withContext_message (kind : JibitErrorKind) (message : Option String)
    (context : ErrorContext) (changes : ErrorContext → ErrorContext) :
    ((JibitError.init rt kind message context).withContext rt changes).message =
      redactStr rt (redactStr rt (messageOr message)) := by
  have hne : redactStr rt (messageOr message) ≠ "" := by
    intro h
    have hlist := redactStr_toList rt (messageOr message)
    rw [h] at hlist
    apply redactText_ne_nil _ hlist.symm
    intro hempty
    exact messageOr_ne_empty message (String.toList_eq_nil_iff.mp hempty)
  show redactStr rt (messageOr (some (redactStr rt (messageOr message)))) = _
  rw [messageOr, if_neg hne]

/-! ## 2. Structures -/

/-- The text that stands for binary data. -/
def summaryText (data : List UInt8) : String := s!"[BINARY:{data.length} bytes]"

mutual

/-- Outside of sensitive keys every text is steady, and no summary of binary
    data holds an identifier. -/
def Steady (rt : Runtime) : PyVal → Prop
  | .str s => SteadyText rt s
  | .object s => SteadyText rt s
  | .bytes data => holdsIdentifier rt.chars (summaryText data).toList = false
  | .mapping items => ∀ item ∈ dictOf (steadyItems rt items), item.2
  | .sequence items => SteadyAll rt items
  | _ => True

def steadyItems (rt : Runtime) : List (PyVal × PyVal) → List (String × Prop)
  | [] => []
  | (key, value) :: items =>
      (rt.strVal key, isSensitiveKey rt key = true ∨ Steady rt value) :: steadyItems rt items

def SteadyAll (rt : Runtime) : List PyVal → Prop
  | [] => True
  | value :: items => Steady rt value ∧ SteadyAll rt items

end

theorem steadyItems_eq (items : List (PyVal × PyVal)) :
    steadyItems rt items = (keyedItems rt items).map fun item =>
      (item.1, isSensitiveKey rt item.2.1 = true ∨ Steady rt item.2.2) := by
  induction items with
  | nil => rfl
  | cons item items ih => rw [steadyItems, ih]; rfl

theorem isSensitiveKey_strVal (key : PyVal) :
    isSensitiveKey rt (.str (rt.strVal key)) = isSensitiveKey rt key := by
  rw [isSensitiveKey, isSensitiveKey, rt.strVal_str]

theorem redactAll_ints (data : List UInt8) :
    redactAll rt (data.map fun b => .int b.toNat) = data.map fun b => .int b.toNat := by
  induction data with
  | nil => rfl
  | cons b data ih => rw [List.map_cons, redactAll, redact, ih]

/-- A mapping is redacted again item by item. -/
theorem redact_mapping_again (items : List (PyVal × PyVal)) :
    redact rt (redact rt (.mapping items)) = .mapping ((dictOf (redactItems rt items)).map fun i =>
      (.str i.1, if isSensitiveKey rt (.str i.1) then .str REDACTED else redact rt i.2)) := by
  have hitems : redactItems rt ((dictOf (redactItems rt items)).map fun i => (.str i.1, i.2)) =
      (dictOf (redactItems rt items)).map fun i =>
        (i.1, if isSensitiveKey rt (.str i.1) then .str REDACTED else redact rt i.2) := by
    induction dictOf (redactItems rt items) with
    | nil => rfl
    | cons i d ih => rw [List.map_cons, redactItems, ih, rt.strVal_str]; rfl
  have hnodup : ((((dictOf (redactItems rt items)).map fun i =>
      (i.1, if isSensitiveKey rt (.str i.1) then .str REDACTED else redact rt i.2))).map
        Prod.fst).Nodup := by
    rw [List.map_map]
    exact dictOf_nodup (redactItems rt items)
  rw [redact, redact, hitems, dictOf_eq_self hnodup, List.map_map]
  rfl

theorem mapping_steady_iff {items : List (PyVal × PyVal)}
    (h : ∀ item ∈ items, redact rt (redact rt item.2) = redact rt item.2 ↔ Steady rt item.2) :
    redact rt (redact rt (.mapping items)) = redact rt (.mapping items) ↔
      Steady rt (.mapping items) := by
  rw [redact_mapping_again, redact, PyVal.mapping.injEq, Steady, steadyItems_eq, redactItems_eq,
    dictOf_map (fun _ (item : PyVal × PyVal) =>
      if isSensitiveKey rt item.1 then PyVal.str REDACTED else redact rt item.2),
    dictOf_map (fun _ (item : PyVal × PyVal) =>
      isSensitiveKey rt item.1 = true ∨ Steady rt item.2),
    List.map_map, List.map_map, List.map_inj_left, List.forall_mem_map]
  apply forall₂_congr
  intro item hitem
  obtain ⟨hkey, hmem⟩ := mem_keyedItems hitem
  show (PyVal.str item.1, if isSensitiveKey rt (.str item.1) then PyVal.str REDACTED
    else redact rt (if isSensitiveKey rt item.2.1 then _ else _)) = (PyVal.str item.1, _) ↔ _
  rw [hkey, isSensitiveKey_strVal, Prod.mk.injEq]
  show _ ∧ _ = (if isSensitiveKey rt item.2.1 then _ else _) ↔
    isSensitiveKey rt item.2.1 = true ∨ Steady rt item.2.2
  by_cases hsensitive : isSensitiveKey rt item.2.1 = true
  · simp only [hsensitive, if_true, true_or, and_self]
  · simp only [hsensitive, if_false, false_or, Bool.false_eq_true, true_and]
    exact h item.2 hmem

mutual

theorem redact_again : ∀ value : PyVal,
    redact rt (redact rt value) = redact rt value ↔ Steady rt value
  | .none => by simp [redact, Steady]
  | .bool b => by simp [redact, Steady]
  | .int n => by simp [redact, Steady]
  | .float x => by simp [redact, Steady]
  | .str s => by
    rw [redact, redact, PyVal.str.injEq, Steady]
    exact redactStr_redactStr_iff s
  | .object s => by
    rw [redact, redact, PyVal.str.injEq, Steady]
    exact redactStr_redactStr_iff s
  | .bytes data => by
    show redact rt (.str (summaryText data)) = .str (summaryText data) ↔ _
    rw [redact, PyVal.str.injEq, Steady]
    exact redactStr_eq_self_iff rt _
  | .byteArray data => by
    rw [redact, redact, redactAll_ints]
    exact iff_of_true rfl (by simp [Steady])
  | .memoryView data => by
    rw [redact, redact, redactAll_ints]
    exact iff_of_true rfl (by simp [Steady])
  | .mapping items => mapping_steady_iff (redactItems_again items)
  | .sequence items => by
    rw [redact, redact, PyVal.sequence.injEq, Steady]
    exact redactAll_again items

theorem redactItems_again : ∀ items : List (PyVal × PyVal), ∀ item ∈ items,
    redact rt (redact rt item.2) = redact rt item.2 ↔ Steady rt item.2
  | [], _, h => absurd h List.not_mem_nil
  | (_, value) :: items, item, h => by
    rcases List.mem_cons.mp h with heq | hmem
    · rw [heq]
      exact redact_again value
    · exact redactItems_again items item hmem

theorem redactAll_again : ∀ items : List PyVal,
    redactAll rt (redactAll rt items) = redactAll rt items ↔ SteadyAll rt items
  | [] => by simp [redactAll, SteadyAll]
  | value :: items => by
    rw [redactAll, redactAll, List.cons.injEq, SteadyAll, redact_again value, redactAll_again items]

end

/-! ## 3. Errors and audit events -/

/-- `str.lower` leaves the name of the metadata alone. -/
def LowersMetadata (rt : Runtime) : Prop := rt.lower "metadata" = "metadata"

theorem metadata_not_sensitive (hlower : LowersMetadata rt) :
    isSensitiveKey rt (.str "metadata") = false := by
  have hspaced : capitalBoundary.sub (fun _ => ['_']) "metadata".toList = "metadata".toList := by
    decide +kernel
  have hnormalized : normalizeKey rt "metadata" = "metadata" := by
    rw [normalizeKey, hspaced, String.ofList_toList, hlower]
    decide +kernel
  rw [isSensitiveKey, rt.strVal_str, hnormalized]
  decide +kernel

theorem itemOf_cons (key text : String) (value : PyVal) (items : List (PyVal × PyVal)) :
    itemOf key (.mapping ((.str text, value) :: items)) =
      if text = key then some value else itemOf key (.mapping items) := by
  rw [itemOf, List.findSome?_cons]
  by_cases htext : text = key
  · simp [htext]
  · simp [htext, itemOf]

/-- An item of redacted keyword arguments. -/
theorem itemOf_redact {fields : List (String × PyVal)} (hnodup : (fields.map Prod.fst).Nodup)
    {key : String} {value : PyVal} (hmem : (key, value) ∈ fields)
    (hkey : isSensitiveKey rt (.str key) = false) :
    itemOf key (redact rt (.kwargs fields)) = some (redact rt value) := by
  have hkeys : ((fields.map fun field => (field.1, if isSensitiveKey rt (.str field.1) then
      .str REDACTED else redact rt field.2)).map Prod.fst).Nodup := by
    rw [List.map_map]
    exact hnodup
  rw [PyVal.kwargs, redact, redactItems_kwargs rt, dictOf_eq_self hkeys, List.map_map]
  clear hkeys
  induction fields with
  | nil => cases hmem
  | cons field fields ih =>
    rw [List.map_cons, List.nodup_cons] at hnodup
    rw [List.map_cons, Function.comp_apply, itemOf_cons]
    rcases List.mem_cons.mp hmem with heq | hmem
    · rw [← heq, if_pos rfl, hkey]
      rfl
    · have hne : field.1 ≠ key := by
        intro heq
        exact hnodup.1 (heq ▸ List.mem_map_of_mem hmem)
      rw [if_neg hne]
      exact ih hnodup.2 hmem

/-- The metadata of the safe dictionary. -/
theorem safeDict_metadata (hlower : LowersMetadata rt) (event : AuditEvent) :
    itemOf "metadata" (event.safeDict rt) = some (redact rt event.metadata) := by
  apply itemOf_redact _ _ (metadata_not_sensitive hlower)
  · show ["name", "correlation_id", "service", "operation", "outcome", "metadata"].Nodup
    decide
  · exact .tail _ (.tail _ (.tail _ (.tail _ (.tail _ (.head _)))))

end

/-- Redacted texts hold no identifier, and are left alone by a second redaction, when their masks do
    not rejoin; likewise the messages of errors and the metadata of audit events. -/
theorem redaction_steady_iff (rt : Runtime) (hlower : LowersMetadata rt) :
    (∀ text : String, (holdsIdentifier rt.chars (redactStr rt text).toList = false ∧
        redactStr rt (redactStr rt text) = redactStr rt text) ↔ SteadyText rt text) ∧
      (∀ kind message context changes,
        ((JibitError.init rt kind message context).withContext rt changes).message =
          (JibitError.init rt kind message context).message ↔ SteadyText rt (messageOr message)) ∧
      (∀ name correlationId service operation outcome metadata,
        itemOf "metadata" ((AuditEvent.new rt name correlationId service operation outcome
            metadata).safeDict rt) =
          some (AuditEvent.new rt name correlationId service operation outcome metadata).metadata ↔
        Steady rt (.kwargs metadata)) := by
  refine ⟨fun text => ?_, fun kind message context changes => ?_,
    fun name correlationId service operation outcome metadata => ?_⟩
  · rw [redactStr_clean_iff, redactStr_redactStr_iff, and_self]
  · rw [withContext_message]
    exact redactStr_redactStr_iff (messageOr message)
  · rw [safeDict_metadata hlower, Option.some.injEq]
    exact redact_again (.kwargs metadata)

theorem redaction_steady_iff_sample :
    (holdsIdentifier sampleRuntime.chars
        (redactStr sampleRuntime "card 6219861028500042").toList = false ∧
      redactStr sampleRuntime (redactStr sampleRuntime "card 6219861028500042") =
        redactStr sampleRuntime "card 6219861028500042") ↔
      SteadyText sampleRuntime "card 6219861028500042" := by
  have hlower : sampleRuntime.lower "metadata" = "metadata" := by decide +kernel
  exact (redaction_steady_iff sampleRuntime hlower).1 "card 6219861028500042"

/-- A national id before twelve digits: its last four and they are a card. -/
theorem nationalId_leaves_card :
    holdsIdentifier CharClasses.ascii
        (redactStr sampleRuntime "0499370899 123456789012").toList = true ∧
      redactStr sampleRuntime "0499370899 123456789012" = "******0899 123456789012" ∧
      redactStr sampleRuntime "******0899 123456789012" = "******************9012" := by
  decide +kernel

end JibitSdk.Guarantees
