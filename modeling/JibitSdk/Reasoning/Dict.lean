import Mathlib.Data.List.Induction
import Mathlib.Data.List.Nodup
import Mathlib.Tactic.Common

/-!
# Insertion-ordered dictionaries

Dictionaries as lists of items.  An assignment replaces the value where the key already stands and
appends it otherwise; a dictionary built from items keeps, of equal keys, the first place and the
last value.
-/

namespace JibitSdk.Reasoning

variable {κ α β : Type} [DecidableEq κ]

/-! ## 1. Assignment -/

/-- `d[key] = value`. -/
def setItem (d : List (κ × α)) (key : κ) (value : α) : List (κ × α) :=
  if key ∈ d.map Prod.fst then d.map fun i => if i.1 = key then (key, value) else i
  else d ++ [(key, value)]

theorem mem_setItem {d : List (κ × α)} {key : κ} {value : α} {i : κ × α}
    (h : i ∈ setItem d key value) : i = (key, value) ∨ i ∈ d := by
  unfold setItem at h
  by_cases hkey : key ∈ d.map Prod.fst
  · rw [if_pos hkey] at h
    obtain ⟨j, hj, rfl⟩ := List.mem_map.mp h
    by_cases hjkey : j.1 = key
    · rw [if_pos hjkey]
      exact .inl rfl
    · rw [if_neg hjkey]
      exact .inr hj
  · rw [if_neg hkey] at h
    rcases List.mem_append.mp h with h | h
    · exact .inr h
    · exact .inl (List.mem_singleton.mp h)

/-- Assignment does not look at values. -/
theorem setItem_map (f : κ → α → β) (d : List (κ × α)) (key : κ) (value : α) :
    setItem (d.map fun i => (i.1, f i.1 i.2)) key (f key value) =
      (setItem d key value).map fun i => (i.1, f i.1 i.2) := by
  have hkeys : (d.map fun i => (i.1, f i.1 i.2)).map Prod.fst = d.map Prod.fst := by
    rw [List.map_map]
    rfl
  unfold setItem
  rw [hkeys]
  by_cases hkey : key ∈ d.map Prod.fst
  · rw [if_pos hkey, if_pos hkey, List.map_map, List.map_map]
    apply List.map_congr_left
    intro i hi
    show (if i.1 = key then (key, f key value) else (i.1, f i.1 i.2)) = _
    by_cases hikey : i.1 = key
    · simp [hikey]
    · simp [hikey]
  · rw [if_neg hkey, if_neg hkey, List.map_append]
    rfl

theorem setItem_keys (d : List (κ × α)) (key : κ) (value : α) :
    (setItem d key value).map Prod.fst =
      if key ∈ d.map Prod.fst then d.map Prod.fst else d.map Prod.fst ++ [key] := by
  unfold setItem
  by_cases hkey : key ∈ d.map Prod.fst
  · rw [if_pos hkey, if_pos hkey, List.map_map]
    apply List.map_congr_left
    intro i hi
    show (if i.1 = key then (key, value) else i).1 = i.1
    by_cases hikey : i.1 = key
    · rw [if_pos hikey, hikey]
    · rw [if_neg hikey]
  · rw [if_neg hkey, if_neg hkey, List.map_append]
    rfl

theorem setItem_nodup {d : List (κ × α)} (key : κ) (value : α) (h : (d.map Prod.fst).Nodup) :
    ((setItem d key value).map Prod.fst).Nodup := by
  rw [setItem_keys]
  by_cases hkey : key ∈ d.map Prod.fst
  · rw [if_pos hkey]
    exact h
  · rw [if_neg hkey]
    exact h.append (List.nodup_singleton key) (by simpa using hkey)

theorem lookup_replace_ne (d : List (κ × α)) {key k : κ} (value : α) (h : k ≠ key) :
    (d.map fun i => if i.1 = key then (key, value) else i).lookup k = d.lookup k := by
  induction d with
  | nil => rfl
  | cons i d ih =>
    rw [List.map_cons]
    by_cases hikey : i.1 = key
    · have hother : (k == i.1) = false := beq_eq_false_iff_ne.mpr (hikey ▸ h)
      rw [if_pos hikey, List.lookup_cons, List.lookup_cons, beq_eq_false_iff_ne.mpr h, hother, ih]
    · rw [if_neg hikey, List.lookup_cons, List.lookup_cons, ih]

theorem lookup_replace_self {d : List (κ × α)} {key : κ} (value : α) (h : key ∈ d.map Prod.fst) :
    (d.map fun i => if i.1 = key then (key, value) else i).lookup key = some value := by
  induction d with
  | nil => cases h
  | cons i d ih =>
    rw [List.map_cons]
    by_cases hikey : i.1 = key
    · rw [if_pos hikey, List.lookup_cons, beq_self_eq_true]
    · have hother : (key == i.1) = false := beq_eq_false_iff_ne.mpr (Ne.symm hikey)
      rw [if_neg hikey, List.lookup_cons, hother]
      rcases List.mem_cons.mp h with hfirst | hrest
      · exact absurd hfirst.symm hikey
      · exact ih hrest

theorem lookup_setItem (d : List (κ × α)) (key k : κ) (value : α) :
    (setItem d key value).lookup k = if k = key then some value else d.lookup k := by
  unfold setItem
  by_cases hkey : key ∈ d.map Prod.fst
  · rw [if_pos hkey]
    by_cases hk : k = key
    · rw [if_pos hk, hk, lookup_replace_self value hkey]
    · rw [if_neg hk, lookup_replace_ne d value hk]
  · rw [if_neg hkey, List.lookup_append]
    by_cases hk : k = key
    · have hnone : d.lookup key = none := by
        rw [List.lookup_eq_none_iff]
        intro i hi
        apply bne_iff_ne.mpr
        intro hikey
        exact hkey (List.mem_map.mpr ⟨i, hi, hikey.symm⟩)
      rw [if_pos hk, hk, hnone, Option.none_or, List.lookup_cons, beq_self_eq_true]
    · rw [if_neg hk, List.lookup_cons, beq_eq_false_iff_ne.mpr hk]
      exact Option.or_none

/-! ## 2. Dictionaries from items -/

/-- A dict comprehension over these items. -/
def dictOf (items : List (κ × α)) : List (κ × α) :=
  items.foldl (fun d i => setItem d i.1 i.2) []

theorem dictOf_append (items : List (κ × α)) (i : κ × α) :
    dictOf (items ++ [i]) = setItem (dictOf items) i.1 i.2 := by
  unfold dictOf
  rw [List.foldl_append]
  rfl

theorem mem_of_mem_dictOf {items : List (κ × α)} {i : κ × α} (h : i ∈ dictOf items) :
    i ∈ items := by
  induction items using List.reverseRecOn with
  | nil => cases h
  | append_singleton items j ih =>
    rw [dictOf_append] at h
    rcases mem_setItem h with rfl | h
    · exact List.mem_append_right _ (List.mem_singleton.mpr rfl)
    · exact List.mem_append_left _ (ih h)

theorem dictOf_map (f : κ → α → β) (items : List (κ × α)) :
    dictOf (items.map fun i => (i.1, f i.1 i.2)) = (dictOf items).map fun i =>
    (i.1, f i.1 i.2) := by
  induction items using List.reverseRecOn with
  | nil => rfl
  | append_singleton items i ih =>
    rw [List.map_append, List.map_cons, List.map_nil, dictOf_append, dictOf_append, ih, setItem_map]

theorem dictOf_nodup (items : List (κ × α)) : ((dictOf items).map Prod.fst).Nodup := by
  induction items using List.reverseRecOn with
  | nil => exact List.nodup_nil
  | append_singleton items i ih =>
    rw [dictOf_append]
    exact setItem_nodup i.1 i.2 ih

/-- Items with different keys are a dictionary already. -/
theorem dictOf_eq_self {items : List (κ × α)} (h : (items.map Prod.fst).Nodup) :
    dictOf items = items := by
  induction items using List.reverseRecOn with
  | nil => rfl
  | append_singleton items i ih =>
    rw [List.map_append, List.map_cons, List.map_nil, List.nodup_append] at h
    have hnew : i.1 ∉ items.map Prod.fst := fun hmem =>
      h.2.2 i.1 hmem i.1 (List.mem_singleton.mpr rfl) rfl
    rw [dictOf_append, ih h.1, setItem, if_neg hnew]

/-- The last item of a key counts. -/
theorem lookup_dictOf (items : List (κ × α)) (k : κ) :
    (dictOf items).lookup k = items.reverse.lookup k := by
  induction items using List.reverseRecOn with
  | nil => rfl
  | append_singleton items i ih =>
    rw [dictOf_append, lookup_setItem, ih, List.reverse_append, List.reverse_cons, List.reverse_nil,
      List.nil_append, List.singleton_append, List.lookup_cons]
    by_cases hk : k = i.1
    · rw [if_pos hk, hk, beq_self_eq_true]
    · rw [if_neg hk, beq_eq_false_iff_ne.mpr hk]

/-! ## 3. Lookups -/

theorem lookup_isSome_iff_mem (d : List (κ × α)) (k : κ) :
    (d.lookup k).isSome = true ↔ k ∈ d.map Prod.fst := by
  rw [List.lookup_isSome_iff, List.mem_map]
  constructor
  · intro h
    rcases h with ⟨i, hi, hk⟩
    exact ⟨i, hi, (beq_iff_eq.mp hk).symm⟩
  · intro h
    rcases h with ⟨i, hi, hk⟩
    exact ⟨i, hi, beq_iff_eq.mpr hk.symm⟩

/-- With different keys, an item is what its key looks up. -/
theorem mem_iff_lookup {d : List (κ × α)} (h : (d.map Prod.fst).Nodup) (k : κ) (value : α) :
    (k, value) ∈ d ↔ d.lookup k = some value := by
  induction d with
  | nil => simp
  | cons i d ih =>
    rw [List.map_cons, List.nodup_cons] at h
    rw [List.mem_cons, List.lookup_cons, ih h.2]
    by_cases hk : k = i.1
    · have hnone : d.lookup k = none := by
        rw [← Option.not_isSome_iff_eq_none, lookup_isSome_iff_mem, hk]
        exact h.1
      subst hk
      rw [beq_self_eq_true, hnone]
      constructor
      · intro hmem
        rcases hmem with heq | hmem
        · rw [← heq]
        · cases hmem
      · intro hsome
        exact .inl (Prod.ext rfl (Option.some.inj hsome).symm)
    · rw [beq_eq_false_iff_ne.mpr hk]
      constructor
      · intro hmem
        rcases hmem with heq | hmem
        · exact absurd (congrArg Prod.fst heq) hk
        · exact hmem
      · exact fun hmem => .inr hmem

/-- The order of different keys does not matter. -/
theorem lookup_perm {d d' : List (κ × α)} (h : d.Perm d') (hd : (d.map Prod.fst).Nodup) (k : κ) :
    d.lookup k = d'.lookup k := by
  have hd' : (d'.map Prod.fst).Nodup := (h.map Prod.fst).nodup_iff.mp hd
  apply Option.ext
  intro value
  rw [← mem_iff_lookup hd, ← mem_iff_lookup hd', h.mem_iff]

/-- Which keys are kept depends on the key alone. -/
theorem lookup_filter_keys (keep : κ → Bool) (d : List (κ × α)) (k : κ) :
    (d.filter fun i => keep i.1).lookup k = if keep k then d.lookup k else none := by
  induction d with
  | nil => simp
  | cons i d ih =>
    rw [List.filter_cons, List.lookup_cons]
    by_cases hk : k = i.1
    · subst hk
      rw [beq_self_eq_true]
      by_cases hkeep : keep i.1 = true
      · rw [if_pos hkeep, if_pos hkeep, List.lookup_cons, beq_self_eq_true]
      · rw [if_neg hkeep, if_neg hkeep, ih, if_neg hkeep]
    · rw [beq_eq_false_iff_ne.mpr hk]
      by_cases hkeep : keep i.1 = true
      · rw [if_pos hkeep, List.lookup_cons, beq_eq_false_iff_ne.mpr hk, ih]
      · rw [if_neg hkeep, ih]

/-- With different keys, which items are kept may depend on their values. -/
theorem lookup_filter_values {d : List (κ × α)} (h : (d.map Prod.fst).Nodup)
    (keep : α → Bool) (k : κ) :
    (d.filter fun i => keep i.2).lookup k = (d.lookup k).filter keep := by
  have hkept : ((d.filter fun i => keep i.2).map Prod.fst).Nodup :=
    h.sublist (List.filter_sublist.map Prod.fst)
  ext value
  rw [← mem_iff_lookup hkept, List.mem_filter, mem_iff_lookup h, Option.filter_eq_some_iff]

theorem lookup_mapValues (f : α → β) (d : List (κ × α)) (k : κ) :
    (d.map fun i => (i.1, f i.2)).lookup k = (d.lookup k).map f := by
  induction d with
  | nil => rfl
  | cons i d ih =>
    rw [List.map_cons, List.lookup_cons, List.lookup_cons]
    by_cases hk : k = i.1
    · subst hk
      rw [beq_self_eq_true]
      rfl
    · rw [beq_eq_false_iff_ne.mpr hk]
      exact ih

end JibitSdk.Reasoning
