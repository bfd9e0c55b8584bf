import JibitSdk.Guarantees.Masking
import JibitSdk.Guarantees.World

/-!
# What a redacted value still shows

`CleanCopy` holds a redacted copy against its original, place by place: nothing under a sensitive
key, no byte of a binary value, and no text that is not redacted.  Two kinds of places break it:
binary values that are sequences to Python, and mapping keys, which are copied as the text that
`str()` makes of them.
-/

namespace JibitSdk.Guarantees

open JibitSdk.Python JibitSdk.Reasoning JibitSdk.Sdk

/-! ## 1. Clean copies -/

/-- A text that only says that something stood here. -/
def IsMarker (text : String) : Prop := text = REDACTED ∨ ∃ n : ℕ, text = s!"[BINARY:{n} bytes]"

/-- A text that may stand for this one. -/
def SafeText (rt : Runtime) (text out : String) : Prop := IsMarker out ∨ out = redactStr rt text

mutual

/-- What `str()` would tell of such a mapping key is secret: bytes, at any depth of a
    tuple or mapping, or what a mapping holds under a sensitive key.  Of a memory view it
    shows the address only. -/
def tellsSecret (rt : Runtime) : PyVal → Bool
  | .bytes _ | .byteArray _ => true
  | .sequence items => tellsSecretAny rt items
  | .mapping items => tellsSecretItems rt items
  | .none | .bool _ | .int _ | .float _ | .str _ | .memoryView _ | .object _ => false

def tellsSecretAny (rt : Runtime) : List PyVal → Bool
  | [] => false
  | value :: items => tellsSecret rt value || tellsSecretAny rt items

def tellsSecretItems (rt : Runtime) : List (PyVal × PyVal) → Bool
  | [] => false
  | (key, value) :: items =>
      isSensitiveKey rt key || tellsSecret rt key || tellsSecret rt value ||
        tellsSecretItems rt items

end

/-- A text that may stand for this mapping key. -/
def SafeKey (rt : Runtime) (key : PyVal) (out : String) : Prop :=
  if tellsSecret rt key then IsMarker out else SafeText rt (rt.strVal key) out

/-- What may stand for a binary value. -/
def ShowsNoByte (out : PyVal) : Prop :=
  (∃ text, out = .str text ∧ IsMarker text) ∨ out = .sequence []

mutual

/-- A copy that shows nothing of its original it should not. -/
def CleanCopy (rt : Runtime) : PyVal → PyVal → Prop
  | .none, out => out = .none
  | .bool b, out => out = .bool b
  | .int n, out => out = .int n
  | .float x, out => out = .float x
  | .str s, out => ∃ text, out = .str text ∧ SafeText rt s text
  | .object s, out => ∃ text, out = .str text ∧ SafeText rt s text
  | .bytes _, out => ShowsNoByte out
  | .byteArray _, out => ShowsNoByte out
  | .memoryView _, out => ShowsNoByte out
  | .mapping items, out => ∃ outs, out = .mapping outs ∧
      List.Forall₂ (fun item out => item.2 out) (dictOf (cleanItems rt items)) outs
  | .sequence items, out => ∃ outs, out = .sequence outs ∧ CleanAll rt items outs

/-- What may stand for each item of a mapping, under the item's key. -/
def cleanItems (rt : Runtime) : List (PyVal × PyVal) → List (String × (PyVal × PyVal → Prop))
  | [] => []
  | (key, value) :: items =>
      (rt.strVal key, fun out => (∃ text, out.1 = .str text ∧ SafeKey rt key text) ∧
        if isSensitiveKey rt key then out.2 = .str REDACTED else CleanCopy rt value out.2)
      :: cleanItems rt items

/-- The items of a sequence, one by one. -/
def CleanAll (rt : Runtime) : List PyVal → List PyVal → Prop
  | [], outs => outs = []
  | value :: items, outs => ∃ out rest, outs = out :: rest ∧ CleanCopy rt value out ∧
      CleanAll rt items rest

end

/-! ## 2. Values that are copied cleanly -/

/-- A key that needs no redaction. -/
def PlainKey (rt : Runtime) (key : PyVal) : Prop :=
  IsMarker (rt.strVal key) ∨
    tellsSecret rt key = false ∧ holdsIdentifier rt.chars (rt.strVal key).toList = false

mutual

/-- No byte array or memory view with content, and no mapping key that needs redaction, stands
    outside of sensitive keys. -/
def Shielded (rt : Runtime) : PyVal → Prop
  | .byteArray data => data = []
  | .memoryView data => data = []
  | .mapping items => ∀ item ∈ dictOf (shieldedItems rt items), item.2
  | .sequence items => ShieldedAll rt items
  | _ => True

def shieldedItems (rt : Runtime) : List (PyVal × PyVal) → List (String × Prop)
  | [] => []
  | (key, value) :: items =>
      (rt.strVal key, PlainKey rt key ∧ (isSensitiveKey rt key = true ∨ Shielded rt value))
      :: shieldedItems rt items

def ShieldedAll (rt : Runtime) : List PyVal → Prop
  | [] => True
  | value :: items => Shielded rt value ∧ ShieldedAll rt items

end

section
variable {rt : Runtime}

theorem safeKey_iff (key : PyVal) : SafeKey rt key (rt.strVal key) ↔ PlainKey rt key := by
  unfold SafeKey PlainKey
  by_cases hsecret : tellsSecret rt key = true
  · rw [if_pos hsecret, hsecret]
    exact (or_iff_left fun h => Bool.noConfusion h.1).symm
  · rw [if_neg hsecret, SafeText, ← redactStr_eq_self_iff,
      and_iff_right (Bool.eq_false_iff.mpr hsecret)]
    exact or_congr_right eq_comm

/-- Sequences of integers stand for the binary values that are sequences. -/
theorem showsNoByte_ints (data : List UInt8) :
    ShowsNoByte (.sequence (data.map fun b => .int b.toNat)) ↔ data = [] := by
  unfold ShowsNoByte
  constructor
  · intro h
    rcases h with ⟨text, htext, -⟩ | h
    · cases htext
    · exact List.map_eq_nil_iff.mp (PyVal.sequence.inj h)
  · intro h
    rw [h]
    exact .inr rfl

/-! ## 3. The items of a mapping

The three descriptions of a mapping are maps over one dictionary of its items. -/

/-- The items under the text of their key. -/
def keyedItems (rt : Runtime) (items : List (PyVal × PyVal)) : List (String × (PyVal × PyVal)) :=
  items.map fun item => (rt.strVal item.1, item)

theorem redactItems_eq (items : List (PyVal × PyVal)) :
    redactItems rt items = (keyedItems rt items).map fun item =>
      (item.1, if isSensitiveKey rt item.2.1 then .str REDACTED else redact rt item.2.2) := by
  induction items with
  | nil => rfl
  | cons item items ih => rw [redactItems, ih]; rfl

theorem cleanItems_eq (items : List (PyVal × PyVal)) :
    cleanItems rt items = (keyedItems rt items).map fun item =>
      (item.1, fun out => (∃ text, out.1 = .str text ∧ SafeKey rt item.2.1 text) ∧
        if isSensitiveKey rt item.2.1 then out.2 = .str REDACTED
        else CleanCopy rt item.2.2 out.2) := by
  induction items with
  | nil => rfl
  | cons item items ih => rw [cleanItems, ih]; rfl

theorem shieldedItems_eq (items : List (PyVal × PyVal)) :
    shieldedItems rt items = (keyedItems rt items).map fun item =>
      (item.1, PlainKey rt item.2.1 ∧
        (isSensitiveKey rt item.2.1 = true ∨ Shielded rt item.2.2)) := by
  induction items with
  | nil => rfl
  | cons item items ih => rw [shieldedItems, ih]; rfl

theorem mem_keyedItems {items : List (PyVal × PyVal)} {item : String × (PyVal × PyVal)}
    (h : item ∈ dictOf (keyedItems rt items)) : item.1 = rt.strVal item.2.1 ∧ item.2 ∈ items := by
  obtain ⟨original, hmem, rfl⟩ := List.mem_map.mp (mem_of_mem_dictOf h)
  exact ⟨rfl, hmem⟩

/-- A mapping is copied cleanly when its keys and values are. -/
theorem mapping_clean_iff {items : List (PyVal × PyVal)}
    (h : ∀ item ∈ items, CleanCopy rt item.2 (redact rt item.2) ↔ Shielded rt item.2) :
    CleanCopy rt (.mapping items) (redact rt (.mapping items)) ↔ Shielded rt (.mapping items) := by
  have hcopy : CleanCopy rt (.mapping items) (redact rt (.mapping items)) ↔
      List.Forall₂ (fun item out => item.2 out) (dictOf (cleanItems rt items))
        ((dictOf (redactItems rt items)).map fun i => (.str i.1, i.2)) := by
    rw [CleanCopy, redact]
    constructor
    · rintro ⟨outs, houts, hclean⟩
      rw [PyVal.mapping.inj houts]
      exact hclean
    · intro hclean
      exact ⟨_, rfl, hclean⟩
  rw [hcopy, Shielded, cleanItems_eq, redactItems_eq, shieldedItems_eq,
    dictOf_map (fun _ (item : PyVal × PyVal) =>
      if isSensitiveKey rt item.1 then PyVal.str REDACTED else redact rt item.2),
    dictOf_map (fun _ (item : PyVal × PyVal) (out : PyVal × PyVal) =>
      (∃ text, out.1 = .str text ∧ SafeKey rt item.1 text) ∧
        if isSensitiveKey rt item.1 then out.2 = .str REDACTED else CleanCopy rt item.2 out.2),
    dictOf_map (fun _ (item : PyVal × PyVal) =>
      PlainKey rt item.1 ∧ (isSensitiveKey rt item.1 = true ∨ Shielded rt item.2)),
    List.map_map, List.forall₂_map_left_iff, List.forall₂_map_right_iff, List.forall₂_same,
    List.forall_mem_map]
  apply forall₂_congr
  intro item hitem
  obtain ⟨hkey, hmem⟩ := mem_keyedItems hitem
  apply and_congr
  · rw [← safeKey_iff, ← hkey]
    constructor
    · rintro ⟨text, htext, hsafe⟩
      rw [PyVal.str.inj htext]
      exact hsafe
    · intro hsafe
      exact ⟨_, rfl, hsafe⟩
  · show (if isSensitiveKey rt item.2.1 then (if isSensitiveKey rt item.2.1 then _ else _) = _
      else CleanCopy rt item.2.2 (if isSensitiveKey rt item.2.1 then _ else _)) ↔ _
    by_cases hsensitive : isSensitiveKey rt item.2.1 = true
    · simp only [hsensitive, if_true, true_or]
    · simp only [hsensitive, if_false, false_or, Bool.false_eq_true]
      exact h item.2 hmem

/-! ## 4. All values -/

mutual

theorem clean_redact : ∀ value : PyVal, CleanCopy rt value (redact rt value) ↔ Shielded rt value
  | .none => by simp [CleanCopy, redact, Shielded]
  | .bool b => by simp [CleanCopy, redact, Shielded]
  | .int n => by simp [CleanCopy, redact, Shielded]
  | .float x => by simp [CleanCopy, redact, Shielded]
  | .str s => by simp [CleanCopy, redact, Shielded, SafeText]
  | .object s => by simp [CleanCopy, redact, Shielded, SafeText]
  | .bytes data => by
    simp only [CleanCopy, redact, Shielded, iff_true]
    exact .inl ⟨_, rfl, .inr ⟨data.length, rfl⟩⟩
  | .byteArray data => by
    rw [CleanCopy, redact, Shielded]
    exact showsNoByte_ints data
  | .memoryView data => by
    rw [CleanCopy, redact, Shielded]
    exact showsNoByte_ints data
  | .mapping items => mapping_clean_iff (clean_redactItems items)
  | .sequence items => by
    rw [CleanCopy, redact, Shielded, ← clean_redactAll items]
    constructor
    · rintro ⟨outs, houts, hclean⟩
      rw [PyVal.sequence.inj houts]
      exact hclean
    · intro hclean
      exact ⟨_, rfl, hclean⟩

theorem clean_redactItems : ∀ items : List (PyVal × PyVal), ∀ item ∈ items,
    CleanCopy rt item.2 (redact rt item.2) ↔ Shielded rt item.2
  | [], _, h => absurd h List.not_mem_nil
  | (_, value) :: items, item, h => by
    rcases List.mem_cons.mp h with heq | hmem
    · rw [heq]
      exact clean_redact value
    · exact clean_redactItems items item hmem

theorem clean_redactAll : ∀ items : List PyVal,
    CleanAll rt items (redactAll rt items) ↔ ShieldedAll rt items
  | [] => by simp [CleanAll, redactAll, ShieldedAll]
  | value :: items => by
    rw [CleanAll, redactAll, ShieldedAll, ← clean_redact value, ← clean_redactAll items]
    constructor
    · rintro ⟨out, rest, houts, hfirst, hrest⟩
      rw [(List.cons.inj houts).1, (List.cons.inj houts).2]
      exact ⟨hfirst, hrest⟩
    · intro h
      exact ⟨_, _, rfl, h.1, h.2⟩

end

end

/-- A copy is clean exactly when no filled byte array or memory view and no identifier in a mapping
    key stands outside of sensitive keys. -/
theorem redact_clean_iff (rt : Runtime) (value : PyVal) :
    CleanCopy rt value (redact rt value) ↔ Shielded rt value := clean_redact value

/-- A card number as a key, and a byte array: both come out as they went in. -/
theorem key_and_bytearray_survive :
    ¬ CleanCopy sampleRuntime (.mapping [(.str "6219861028500042", .none)])
      (redact sampleRuntime (.mapping [(.str "6219861028500042", .none)])) ∧
    ¬ CleanCopy sampleRuntime (.byteArray [104, 105])
    (redact sampleRuntime (.byteArray [104, 105])) := by
  rw [clean_redact, clean_redact]
  constructor
  · intro h
    have hkey := (h ("6219861028500042", _) List.mem_cons_self).1
    rcases hkey with (hmarker | ⟨n, hmarker⟩) | ⟨-, hplain⟩
    · exact absurd hmarker (by decide)
    · have hhead := congrArg (fun text => text.toList.head?) hmarker
      rw [String.toList_append, String.toList_append, List.append_assoc] at hhead
      have hfirst : some '6' = some '[' := hhead
      exact absurd hfirst (by decide)
    · exact absurd hplain (by decide +kernel)
  · intro h
    cases h

end JibitSdk.Guarantees
