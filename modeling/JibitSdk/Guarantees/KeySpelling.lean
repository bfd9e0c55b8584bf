import JibitSdk.Guarantees.World
import JibitSdk.Sdk.Models
import Mathlib.Data.List.Chain
import Mathlib.Data.List.Infix

/-!
# Spellings of a sensitive key

Normalization puts an underscore before every capital.  What it makes of a key is therefore the
snake case of its words as long as a capital only ever starts a word; a word written in capitals
falls apart into single letters, and no sensitive part has a letter that stands alone.
-/

namespace JibitSdk.Guarantees

open JibitSdk.Python JibitSdk.Reasoning JibitSdk.Sdk

/-! ## 1. Words and spellings -/

/-- A character of a lower-case word. -/
def wordChar (c : Char) : Bool := c.isLower || c.isDigit

/-- A lower-case word: a letter, then letters and digits. -/
structure LowerWord (word : List Char) : Prop where
  letter : ∃ c rest, word = c :: rest ∧ c.isLower = true
  chars : ∀ c ∈ word, wordChar c = true

/-- How the words of a key may be written together. -/
inductive Spelling where
  | kebab
  | camel
  | pascal
  | screamingSnake
  | upper
  /-- camelCase, with the word at this place in capitals. -/
  | acronym (place : ℕ)

def snakeCase (words : List (List Char)) : List Char := ['_'].intercalate words

/-- The key in this spelling. -/
def Spelling.write (words : List (List Char)) : Spelling → List Char
  | .kebab => ['-'].intercalate words
  | .camel => toCamel (snakeCase words)
  | .pascal => (words.map capitalize).flatten
  | .screamingSnake => (snakeCase words).map Char.toUpper
  | .upper => words.flatten.map Char.toUpper
  | .acronym place =>
    match words.drop place with
    | [] => toCamel (snakeCase words)
    | word :: after => toCamel (snakeCase (words.take place)) ++ word.map Char.toUpper ++
        (after.map capitalize).flatten

/-- A sensitive part occurs in this text. -/
def holdsPart (text : List Char) : Bool :=
  sensitiveKeyParts.any fun part => occursIn part.toList text

/-- The spellings of these words that stay sensitive. -/
def Spelling.Keeps (words : List (List Char)) : Spelling → Prop
  | .kebab | .camel | .pascal => True
  | .screamingSnake | .upper => False
  | .acronym place =>
    match words.drop place with
    | [] => True
    | word :: after => word.tail.any Char.isLower = false ∨
        holdsPart (snakeCase (words.take place)) = true ∨ holdsPart (snakeCase after) = true

/-! ## 2. Characters -/

theorem wordChar_lt {c : Char} (h : wordChar c = true) : c.toNat < 128 := by
  change (decide ('a'.val ≤ c.val) && decide (c.val ≤ 'z'.val) ||
    decide ('0'.val ≤ c.val) && decide (c.val ≤ '9'.val)) = true at h
  simp only [Bool.or_eq_true, Bool.and_eq_true, decide_eq_true_eq, UInt32.le_iff_toNat_le] at h
  have hnat : c.toNat = c.val.toNat := rfl
  have hz : 'z'.val.toNat = 122 := rfl
  have h9 : '9'.val.toNat = 57 := rfl
  omega

theorem wordChar_mem {c : Char} (h : wordChar c = true) :
    c ∈ "abcdefghijklmnopqrstuvwxyz0123456789".toList := by
  have hall : (List.range 128).all (fun n => !wordChar (Char.ofNat n) ||
      "abcdefghijklmnopqrstuvwxyz0123456789".toList.contains (Char.ofNat n)) = true := by
    decide +kernel
  have hmem := List.all_eq_true.mp hall c.toNat (List.mem_range.mpr (wordChar_lt h))
  rw [Char.ofNat_toNat, h, Bool.not_true, Bool.false_or] at hmem
  exact List.contains_iff_mem.mp hmem

/-- What capitals and lower-casing do to the characters of words. -/
structure Cased (c : Char) : Prop where
  not_upper : c.isUpper = false
  lower : c.toLower = c
  upper_lower : c.toUpper.toLower = c
  upper_iff : c.toUpper.isUpper = c.isLower
  not_dash : c ≠ '-'
  upper_not_dash : c.toUpper ≠ '-'
  not_underscore : c ≠ '_'

theorem cased {c : Char} (h : wordChar c = true) : Cased c := by
  have hall : ∀ c ∈ "abcdefghijklmnopqrstuvwxyz0123456789".toList, c.isUpper = false ∧
      c.toLower = c ∧ c.toUpper.toLower = c ∧ c.toUpper.isUpper = c.isLower ∧ c ≠ '-' ∧
      c.toUpper ≠ '-' ∧ c ≠ '_' := List.all_iff_forall_prop.mp (by decide)
  obtain ⟨h₁, h₂, h₃, h₄, h₅, h₆, h₇⟩ := hall c (wordChar_mem h)
  exact ⟨h₁, h₂, h₃, h₄, h₅, h₆, h₇⟩

/-! ## 3. Normalization -/

/-- `str.lower` on the characters of identifiers. -/
def LowersIdentifiers (rt : Runtime) : Prop :=
  ∀ text : String, (∀ c ∈ text.toList, c.isAlphanum = true ∨ c = '_' ∨ c = '-') →
    rt.lower text = text.map Char.toLower

/-- What normalization makes of a character that is not the first. -/
def normalChar (c : Char) : List Char :=
  let low := if c.toLower = '-' then '_' else c.toLower
  if c.isUpper then ['_', low] else [low]

/-- The same of a whole key. -/
def normalText : List Char → List Char
  | [] => []
  | c :: rest => (if c.toLower = '-' then '_' else c.toLower) :: rest.flatMap normalChar

/-- An underscore before every capital but the first character. -/
theorem capitalBoundary_sub (c : Char) (text : List Char) :
    capitalBoundary.sub (fun _ => ['_']) (c :: text) =
      c :: text.flatMap fun d => if d.isUpper then ['_', d] else [d] := by
  have hrest : ∀ (prev : Char) (text : List Char),
      capitalBoundary.subFrom (fun _ => ['_']) 0 (some prev) text =
        text.flatMap fun d => if d.isUpper then ['_', d] else [d] := by
    intro prev text
    induction text generalizing prev with
    | nil => rfl
    | cons d text ih =>
      by_cases hd : d.isUpper = true
      · have hfirst : capitalBoundary.first (some prev) (d :: text) = some 0 := by
          simp [capitalBoundary, Pattern.first, Pattern.ends, hd]
        rw [Pattern.subFrom, hfirst, List.flatMap_cons, if_pos hd, ← ih d]
        rfl
      · have hfirst : capitalBoundary.first (some prev) (d :: text) = none := by
          simp [capitalBoundary, Pattern.first, Pattern.ends, hd]
        rw [Pattern.subFrom, hfirst, List.flatMap_cons, if_neg hd, ← ih d]
        rfl
  have hstart : capitalBoundary.first none (c :: text) = none := rfl
  rw [Pattern.sub, Pattern.subFrom, hstart]
  exact congrArg (List.cons c) (hrest c text)

theorem normalizeKey_eq {rt : Runtime} (hlower : LowersIdentifiers rt) {key : List Char}
    (hkey : ∀ c ∈ key, c.isAlphanum = true ∨ c = '_' ∨ c = '-') :
    (normalizeKey rt (String.ofList key)).toList = normalText key := by
  cases key with
  | nil =>
    unfold normalizeKey
    rw [String.toList_ofList]
    show (String.map _ (rt.lower (String.ofList []))).toList = []
    rw [hlower _ (by simp)]
    simp
  | cons c rest =>
    -- the underscores before capitals are the only characters added
    have hspaced : ∀ d ∈ c :: rest.flatMap (fun d => if d.isUpper then ['_', d] else [d]),
        d.isAlphanum = true ∨ d = '_' ∨ d = '-' := by
      intro d hd
      rcases List.mem_cons.mp hd with rfl | hd
      · exact hkey d List.mem_cons_self
      · obtain ⟨e, he, hde⟩ := List.mem_flatMap.mp hd
        have hmem := hkey e (List.mem_cons_of_mem _ he)
        by_cases hupper : e.isUpper = true
        · rw [if_pos hupper] at hde
          rcases List.mem_cons.mp hde with rfl | hde
          · exact .inr (.inl rfl)
          · rw [List.mem_singleton.mp hde]
            exact hmem
        · rw [if_neg hupper] at hde
          rw [List.mem_singleton.mp hde]
          exact hmem
    unfold normalizeKey
    simp only [String.toList_ofList, capitalBoundary_sub]
    rw [hlower _ (by rw [String.toList_ofList]; exact hspaced), String.toList_map,
      String.toList_map, String.toList_ofList, List.map_cons, List.map_cons, normalText,
      List.map_flatMap, List.map_flatMap]
    -- the first character has no boundary before it; the others go through one by one
    congr 1
    apply List.flatMap_congr
    intro d hd
    unfold normalChar
    by_cases hupper : d.isUpper = true
    · rw [if_pos hupper]
      simp [hupper]
    · rw [if_neg hupper]
      simp [hupper]

theorem isSensitiveKey_iff {rt : Runtime} (hlower : LowersIdentifiers rt) {key : List Char}
    (hkey : ∀ c ∈ key, c.isAlphanum = true ∨ c = '_' ∨ c = '-') :
    isSensitiveKey rt (.str (String.ofList key)) = holdsPart (normalText key) := by
  unfold isSensitiveKey
  simp only [rt.strVal_str, normalizeKey_eq hlower hkey]
  rfl

/-! ## 4. Normal forms -/

/-- A character of a word written in capitals, after normalization. -/
def apartChar (c : Char) : List Char := if c.isLower then ['_', c] else [c]

/-- A word written in capitals, after normalization: its letters stand apart. -/
def apart : List Char → List Char
  | [] => []
  | c :: rest => c :: rest.flatMap apartChar

theorem normalChar_word {c : Char} (h : wordChar c = true) : normalChar c = [c] := by
  have hc := cased h
  unfold normalChar
  rw [hc.lower, hc.not_upper, if_neg hc.not_dash]
  rfl

theorem normalChar_capital {c : Char} (h : wordChar c = true) :
    normalChar c.toUpper = apartChar c := by
  have hc := cased h
  unfold normalChar apartChar
  rw [hc.upper_lower, hc.upper_iff, if_neg hc.not_dash]

theorem flatMap_word {word : List Char} (h : ∀ c ∈ word, wordChar c = true) :
    word.flatMap normalChar = word := by
  induction word with
  | nil => rfl
  | cons c word ih =>
    rw [List.flatMap_cons, normalChar_word (h c List.mem_cons_self),
      ih fun d hd => h d (List.mem_cons_of_mem _ hd)]
    rfl

theorem flatMap_capitals {word : List Char} (h : ∀ c ∈ word, wordChar c = true) :
    (word.map Char.toUpper).flatMap normalChar = word.flatMap apartChar := by
  induction word with
  | nil => rfl
  | cons c word ih =>
    rw [List.map_cons, List.flatMap_cons, List.flatMap_cons,
      normalChar_capital (h c List.mem_cons_self), ih fun d hd => h d (List.mem_cons_of_mem _ hd)]

section Word
variable {word : List Char} (h : LowerWord word)
include h

theorem capitalize_word : ∃ c rest, word = c :: rest ∧ c.isLower = true ∧
    capitalize word = c.toUpper :: rest ∧ rest.flatMap normalChar = rest := by
  obtain ⟨c, rest, rfl, hc⟩ := h.letter
  have hrest : ∀ d ∈ rest, wordChar d = true := fun d hd => h.chars d (List.mem_cons_of_mem _ hd)
  refine ⟨c, rest, rfl, hc, ?_, flatMap_word hrest⟩
  have hlow : rest.map Char.toLower = rest := by
    rw [List.map_congr_left fun d hd => (cased (hrest d hd)).lower]
    exact List.map_id rest
  rw [capitalize, hlow]

theorem flatMap_capitalized : (capitalize word).flatMap normalChar = '_' :: word := by
  obtain ⟨c, rest, rfl, hc, hcapital, hrest⟩ := capitalize_word h
  rw [hcapital, List.flatMap_cons, hrest, normalChar_capital (h.chars c List.mem_cons_self),
    apartChar, if_pos hc]
  rfl

theorem flatMap_acronym : (word.map Char.toUpper).flatMap normalChar = '_' :: apart word := by
  obtain ⟨c, rest, rfl, hc⟩ := h.letter
  rw [flatMap_capitals h.chars, List.flatMap_cons, apartChar, if_pos hc]
  rfl

/-- A key that starts with a word. -/
theorem normalText_word (rest : List Char) :
    normalText (word ++ rest) = word ++ rest.flatMap normalChar := by
  obtain ⟨c, tail, rfl, -⟩ := h.letter
  have hc := cased (h.chars c List.mem_cons_self)
  rw [List.cons_append, normalText, hc.lower, if_neg hc.not_dash, List.flatMap_append,
    flatMap_word fun d hd => h.chars d (List.mem_cons_of_mem _ hd)]
  rfl

theorem normalText_capitalized (rest : List Char) :
    normalText (capitalize word ++ rest) = word ++ rest.flatMap normalChar := by
  obtain ⟨c, tail, rfl, -, hcapital, htail⟩ := capitalize_word h
  have hc := cased (h.chars c List.mem_cons_self)
  rw [hcapital, List.cons_append, normalText, hc.upper_lower, if_neg hc.not_dash,
    List.flatMap_append, htail]
  rfl

theorem normalText_acronym (rest : List Char) :
    normalText (word.map Char.toUpper ++ rest) = apart word ++ rest.flatMap normalChar := by
  obtain ⟨c, tail, rfl, -⟩ := h.letter
  have hc := cased (h.chars c List.mem_cons_self)
  rw [List.map_cons, List.cons_append, normalText, hc.upper_lower, if_neg hc.not_dash,
    List.flatMap_append, flatMap_capitals fun d hd => h.chars d (List.mem_cons_of_mem _ hd)]
  rfl

end Word

theorem intercalate_cons (c : Char) (word : List Char) (words : List (List Char)) :
    [c].intercalate (word :: words) = word ++ words.flatMap (c :: ·) := by
  induction words generalizing word with
  | nil => simp
  | cons next words ih =>
    rw [List.intercalate_cons_cons, ih next, List.flatMap_cons]
    simp

section Words
variable {words : List (List Char)} (h : ∀ word ∈ words, LowerWord word)
include h

/-- Words after the first one, in the spellings that keep them. -/
theorem flatMap_joined {c : Char} (hc : normalChar c = ['_']) :
    (words.flatMap (c :: ·)).flatMap normalChar = words.flatMap ('_' :: ·) := by
  rw [List.flatMap_assoc]
  apply List.flatMap_congr
  intro word hword
  rw [List.flatMap_cons, hc, flatMap_word (h word hword).chars]
  rfl

theorem flatMap_capitalizedWords :
    ((words.map capitalize).flatten).flatMap normalChar = words.flatMap ('_' :: ·) := by
  rw [← List.flatMap_def, List.flatMap_assoc]
  apply List.flatMap_congr
  intro word hword
  exact flatMap_capitalized (h word hword)

theorem toCamel_snakeCase (hne : words ≠ []) :
    toCamel (snakeCase words) = words.headD [] ++ (words.tail.map capitalize).flatten := by
  have hsplit : (snakeCase words).splitOn '_' = words :=
    List.splitOn_intercalate '_' (fun word hword hmem =>
      (cased ((h word hword).chars '_' hmem)).not_underscore rfl) hne
  unfold toCamel
  rw [hsplit]
  cases words with
  | nil => exact absurd rfl hne
  | cons word words => rfl

end Words

/-! ## 5. Sensitive parts -/

theorem occursIn_iff {part text : List Char} : occursIn part text = true ↔ part <:+: text := by
  unfold occursIn
  rw [List.any_eq_true, List.infix_iff_prefix_suffix]
  constructor
  · rintro ⟨tail, htail, hstart⟩
    exact ⟨tail, List.isPrefixOf_iff_prefix.mp hstart, (List.mem_tails _ _).mp htail⟩
  · rintro ⟨tail, hstart, hsuffix⟩
    exact ⟨tail, (List.mem_tails _ _).mpr hsuffix, List.isPrefixOf_iff_prefix.mpr hstart⟩

theorem holdsPart_iff {text : List Char} :
    holdsPart text = true ↔ ∃ part ∈ sensitiveKeyParts, part.toList <:+: text := by
  unfold holdsPart
  rw [List.any_eq_true]
  simp only [occursIn_iff]

/-- Two neighbours of which the second is no letter, or stands behind an underscore. -/
def Apart (a b : Char) : Prop := b.isLower = true → a = '_'

instance : DecidableRel Apart := fun _ _ => inferInstanceAs (Decidable (_ → _))

/-- The text starts with two letters. -/
def startsPaired : List Char → Bool
  | a :: b :: _ => a.isLower && b.isLower
  | _ => false

/-- No part has a letter that stands alone, nor an underscore at an end. -/
structure Paired (part : List Char) : Prop where
  not_apart : ¬ part.IsChain Apart
  first : part.head? ≠ some '_'
  last : part.getLast? ≠ some '_'
  inner : ∀ k < part.length, part[k]? = some '_' →
    ¬ (part.take k).IsChain Apart ∧ startsPaired (part.drop (k + 1)) = true

instance (part : List Char) : Decidable (Paired part) :=
  decidable_of_iff (¬ part.IsChain Apart ∧ part.head? ≠ some '_' ∧ part.getLast? ≠ some '_' ∧
    ∀ k < part.length, part[k]? = some '_' →
      ¬ (part.take k).IsChain Apart ∧ startsPaired (part.drop (k + 1)) = true)
    ⟨fun h => ⟨h.1, h.2.1, h.2.2.1, h.2.2.2⟩, fun h => ⟨h.not_apart, h.first, h.last, h.inner⟩⟩

theorem parts_paired : ∀ part ∈ sensitiveKeyParts, Paired part.toList := by
  have hall : sensitiveKeyParts.all (fun part => decide (Paired part.toList)) = true := by
    decide +kernel
  intro part hpart
  exact of_decide_eq_true (List.all_eq_true.mp hall part hpart)

section Part
variable {part : List Char} (h : Paired part)
include h

theorem paired_before {before after : List Char} (hpart : part = before ++ '_' :: after) :
    ¬ before.IsChain Apart := by
  have hinner := (h.inner before.length (by simp [hpart]) (by simp [hpart])).1
  rwa [hpart, List.take_left] at hinner

theorem paired_after {before after : List Char} (hpart : part = before ++ '_' :: after) :
    startsPaired after = true := by
  have hinner := (h.inner before.length (by simp [hpart]) (by simp [hpart])).2
  rwa [hpart, ← List.drop_drop, List.drop_left, List.drop_one, List.tail_cons] at hinner

/-- No part occurs where all letters stand apart. -/
theorem not_infix_of_apart {text : List Char} (htext : text.IsChain Apart) : ¬ part <:+: text :=
  fun hoccurs => h.not_apart <| List.IsChain.infix htext hoccurs

theorem infix_before_separator {text : List Char} (hoccurs : part <:+: text ++ ['_']) :
    part <:+: text := by
  rcases List.infix_append_iff_ne_nil.mp hoccurs with htext | hseparator
    | ⟨l₁, l₂, -, hne, hpart, -, hl₂⟩
  · exact htext
  · exact absurd hseparator (not_infix_of_apart h (by simp))
  · exfalso
    have hl : l₂ = ['_'] := by
      rcases List.prefix_cons_iff.mp hl₂ with hnil | ⟨t, ht, hstart⟩
      · exact absurd hnil hne
      · rw [ht, List.prefix_nil.mp hstart]
    apply h.last
    rw [hpart, hl]
    simp

theorem infix_after_separator {text : List Char} (hoccurs : part <:+: '_' :: text) :
    part <:+: text := by
  rcases List.infix_cons_iff.mp hoccurs with hstart | htext
  · exfalso
    rcases List.prefix_cons_iff.mp hstart with hnil | ⟨t, ht, -⟩
    · exact h.not_apart (by rw [hnil]; exact List.IsChain.nil)
    · exact h.first (by rw [ht]; rfl)
  · exact htext

end Part

/-- The letters of an acronym stand apart. -/
theorem apart_isChain (text : List Char) : (apart text).IsChain Apart := by
  have hrest : ∀ (c : Char) (text : List Char), (c :: text.flatMap apartChar).IsChain Apart := by
    intro c text
    induction text generalizing c with
    | nil => exact List.IsChain.singleton c
    | cons d text ih =>
      rw [List.flatMap_cons]
      unfold apartChar
      by_cases hd : d.isLower = true
      · rw [if_pos hd]
        refine List.isChain_cons_cons.mpr ⟨fun hunderscore => ?_, List.isChain_cons_cons.mpr
          ⟨fun _ => rfl, ih d⟩⟩
        exact absurd hunderscore (by decide)
      · rw [if_neg hd]
        exact List.isChain_cons_cons.mpr ⟨fun hletter => absurd hletter hd, ih d⟩
  cases text with
  | nil => exact List.IsChain.nil
  | cons c text => exact hrest c text

/-- With a second letter, the word does not start with two letters any more. -/
theorem apart_not_paired {word : List Char} (h : word.tail.any Char.isLower = true)
    (rest text : List Char) (hstart : text <+: apart word ++ rest) : startsPaired text = false := by
  cases word with
  | nil => cases h
  | cons c word => cases word with
    | nil => cases h
    | cons d word =>
      -- The second character is a digit, or the underscore before the second letter.
      have hsecond : ∃ e tail, apart (c :: d :: word) ++ rest = c :: e :: tail ∧
          e.isLower = false := by
        rw [apart, List.flatMap_cons]
        unfold apartChar
        by_cases hd : d.isLower = true
        · rw [if_pos hd]
          exact ⟨'_', _, rfl, by decide⟩
        · rw [if_neg hd]
          exact ⟨d, _, rfl, Bool.eq_false_iff.mpr hd⟩
      obtain ⟨e, tail, htext, he⟩ := hsecond
      rw [htext] at hstart
      cases text with
      | nil => rfl
      | cons a text => cases text with
        | nil => rfl
        | cons b text =>
          rw [List.cons_prefix_cons, List.cons_prefix_cons] at hstart
          show (a.isLower && b.isLower) = false
          rw [hstart.2.1, he, Bool.and_false]

/-- A part around an acronym lies on one side of it. -/
theorem infix_beside_acronym {part : List Char} (hpart : Paired part) {word : List Char}
    (h : word.tail.any Char.isLower = true) {before after : List Char}
    (hbefore : before = [] ∨ ∃ text, before = text ++ ['_'])
    (hafter : after = [] ∨ ∃ text, after = '_' :: text)
    (hoccurs : part <:+: before ++ (apart word ++ after)) : part <:+: before ∨ part <:+: after := by
  -- where the part runs over an end of the acronym, two neighbours of it would have to be paired
  rcases List.infix_append_iff_ne_nil.mp hoccurs with hside | hrest | ⟨l₁, l₂, hne, -, hl, hl₁, hl₂⟩
  · exact .inl hside
  · rcases List.infix_append_iff_ne_nil.mp hrest with hword | hside | ⟨l₁, l₂, -, hne, hl, hl₁, hl₂⟩
    · exact absurd hword (not_infix_of_apart hpart (apart_isChain word))
    · exact .inr hside
    · -- The part runs over the end of the acronym: letters that stand apart precede an underscore.
      exfalso
      rcases hafter with rfl | ⟨text, rfl⟩
      · exact hne (List.prefix_nil.mp hl₂)
      · rcases List.prefix_cons_iff.mp hl₂ with hnil | ⟨t, ht, -⟩
        · exact hne hnil
        · exact paired_before hpart (hl.trans (by rw [ht])) ((apart_isChain word).suffix hl₁)
  · -- The part runs over the start of the acronym, so an underscore precedes its letters.
    exfalso
    rcases hbefore with rfl | ⟨text, rfl⟩
    · exact hne (List.suffix_nil.mp hl₁)
    · obtain ⟨init, hinit⟩ : ∃ init, l₁ = init ++ ['_'] := by
        rcases List.suffix_concat_iff.mp hl₁ with hnil | ⟨t, ht, -⟩
        · exact absurd hnil hne
        · exact ⟨t, ht⟩
      have hsplit : part = init ++ '_' :: l₂ := by rw [hl, hinit]; simp
      have hstart := paired_after hpart hsplit
      rw [apart_not_paired h after l₂ hl₂] at hstart
      cases hstart

/-! ## 6. Spellings -/

theorem alphanum_of_wordChar {c : Char} (h : wordChar c = true) : c.isAlphanum = true := by
  have hall : ∀ c ∈ "abcdefghijklmnopqrstuvwxyz0123456789".toList, c.isAlphanum = true :=
    List.all_iff_forall_prop.mp (by decide)
  exact hall c (wordChar_mem h)

theorem alphanum_of_capital {c : Char} (h : wordChar c = true) : c.toUpper.isAlphanum = true := by
  have hall : ∀ c ∈ "abcdefghijklmnopqrstuvwxyz0123456789".toList, c.toUpper.isAlphanum = true :=
    List.all_iff_forall_prop.mp (by decide)
  exact hall c (wordChar_mem h)

/-- A character of an identifier. -/
def IdentifierChar (c : Char) : Prop := c.isAlphanum = true ∨ c = '_' ∨ c = '-'

section Written
variable {words : List (List Char)} (h : ∀ word ∈ words, LowerWord word)
include h

theorem snakeCase_chars {c : Char} (hc : c ∈ snakeCase words) :
    wordChar c = true ∨ c = '_' := by
  unfold snakeCase at hc
  induction words with
  | nil => cases hc
  | cons word words ih =>
    rw [intercalate_cons] at hc
    rcases List.mem_append.mp hc with hc | hc
    · exact .inl ((h word List.mem_cons_self).chars c hc)
    · obtain ⟨other, hother, hc⟩ := List.mem_flatMap.mp hc
      rcases List.mem_cons.mp hc with rfl | hc
      · exact .inr rfl
      · exact .inl ((h other (List.mem_cons_of_mem _ hother)).chars c hc)

theorem capitalized_chars {c : Char} (hc : c ∈ (words.map capitalize).flatten) :
    IdentifierChar c := by
  rw [← List.flatMap_def] at hc
  obtain ⟨word, hword, hc⟩ := List.mem_flatMap.mp hc
  obtain ⟨d, rest, rfl, -, hcapital, -⟩ := capitalize_word (h word hword)
  rw [hcapital] at hc
  rcases List.mem_cons.mp hc with rfl | hc
  · exact .inl (alphanum_of_capital ((h _ hword).chars d List.mem_cons_self))
  · exact .inl (alphanum_of_wordChar ((h _ hword).chars c (List.mem_cons_of_mem _ hc)))

theorem toCamel_chars {c : Char} (hc : c ∈ toCamel (snakeCase words)) : IdentifierChar c := by
  cases words with
  | nil => cases hc
  | cons word words =>
    rw [toCamel_snakeCase h (List.cons_ne_nil _ _)] at hc
    rcases List.mem_append.mp hc with hc | hc
    · exact .inl (alphanum_of_wordChar ((h word List.mem_cons_self).chars c hc))
    · exact capitalized_chars (fun other hother => h other (List.mem_cons_of_mem _ hother)) hc

/-- The part of camelCase behind a first word. -/
theorem normalText_camel : normalText (toCamel (snakeCase words)) = snakeCase words := by
  cases words with
  | nil => rfl
  | cons word words =>
    have hrest : ∀ other ∈ words, LowerWord other :=
      fun other hother => h other (List.mem_cons_of_mem _ hother)
    rw [toCamel_snakeCase h (List.cons_ne_nil _ _)]
    show normalText (word ++ (words.map capitalize).flatten) = snakeCase (word :: words)
    rw [normalText_word (h word List.mem_cons_self), flatMap_capitalizedWords hrest, snakeCase,
      intercalate_cons]

end Written

/-- A separator in front of what follows an acronym. -/
theorem joined_eq (words : List (List Char)) :
    words.flatMap ('_' :: ·) = [] ∧ words = [] ∨
      words.flatMap ('_' :: ·) = '_' :: snakeCase words := by
  cases words with
  | nil => exact .inl ⟨rfl, rfl⟩
  | cons word words =>
    refine .inr ?_
    rw [List.flatMap_cons, snakeCase, intercalate_cons]
    rfl

/-- The normal form of camelCase with an acronym. -/
theorem normalText_camelAcronym {before after : List (List Char)} {word : List Char}
    (hbefore : ∀ other ∈ before, LowerWord other) (hword : LowerWord word)
    (hafter : ∀ other ∈ after, LowerWord other) :
    normalText (toCamel (snakeCase before) ++ word.map Char.toUpper ++
        (after.map capitalize).flatten) =
      (if before = [] then [] else snakeCase before ++ ['_']) ++
        (apart word ++ after.flatMap ('_' :: ·)) := by
  cases before with
  | nil =>
    rw [if_pos rfl, List.nil_append]
    show normalText (word.map Char.toUpper ++ _) = _
    rw [normalText_acronym hword, flatMap_capitalizedWords hafter]
  | cons first before =>
    have hrest : ∀ other ∈ before, LowerWord other :=
      fun other hother => hbefore other (List.mem_cons_of_mem _ hother)
    rw [if_neg (List.cons_ne_nil _ _), toCamel_snakeCase hbefore (List.cons_ne_nil _ _)]
    show normalText (first ++ (before.map capitalize).flatten ++ _ ++ _) = _
    rw [List.append_assoc, List.append_assoc, normalText_word (hbefore first List.mem_cons_self),
      List.flatMap_append, List.flatMap_append, flatMap_capitalizedWords hrest,
      flatMap_acronym hword, flatMap_capitalizedWords hafter, snakeCase, intercalate_cons]
    simp

/-- A word with one letter is the same when its letters stand apart. -/
theorem apart_single {word : List Char} (h : word.tail.any Char.isLower = false) :
    apart word = word := by
  cases word with
  | nil => rfl
  | cons c word =>
    rw [List.tail_cons] at h
    rw [apart]
    congr 1
    induction word with
    | nil => rfl
    | cons d word ih =>
      rw [List.any_cons, Bool.or_eq_false_iff] at h
      rw [List.flatMap_cons, ih h.2, apartChar, h.1]
      rfl

/-- A part occurs beside an acronym of two letters or more, or not at all. -/
theorem holdsPart_acronym {before after : List (List Char)} {word : List Char}
    (hletters : word.tail.any Char.isLower = true) :
    holdsPart ((if before = [] then [] else snakeCase before ++ ['_']) ++
        (apart word ++ after.flatMap ('_' :: ·))) = true ↔
      holdsPart (snakeCase before) = true ∨ holdsPart (snakeCase after) = true := by
  simp only [holdsPart_iff]
  -- a sensitive part lies on one side of the acronym, and on that side it is found without it
  constructor
  · rintro ⟨part, hmem, hoccurs⟩
    have hpart := parts_paired part hmem
    have hnil : ¬ part.toList <:+: [] := not_infix_of_apart hpart List.IsChain.nil
    have hside := infix_beside_acronym hpart hletters (by
      by_cases hnone : before = []
      · rw [if_pos hnone]
        exact .inl rfl
      · rw [if_neg hnone]
        exact .inr ⟨_, rfl⟩) (by
      rcases joined_eq after with ⟨hjoined, -⟩ | hjoined
      · exact .inl hjoined
      · exact .inr ⟨_, hjoined⟩) hoccurs
    rcases hside with hside | hside
    · by_cases hnone : before = []
      · rw [if_pos hnone] at hside
        exact absurd hside hnil
      · rw [if_neg hnone] at hside
        exact .inl ⟨part, hmem, infix_before_separator hpart hside⟩
    · rcases joined_eq after with ⟨hjoined, -⟩ | hjoined
      · rw [hjoined] at hside
        exact absurd hside hnil
      · rw [hjoined] at hside
        exact .inr ⟨part, hmem, infix_after_separator hpart hside⟩
  -- on its own side it is found whatever stands on the other
  · rintro (⟨part, hmem, hoccurs⟩ | ⟨part, hmem, hoccurs⟩)
    · refine ⟨part, hmem, ?_⟩
      by_cases hnone : before = []
      · rw [hnone] at hoccurs
        exact absurd hoccurs (not_infix_of_apart (parts_paired part hmem) List.IsChain.nil)
      · rw [if_neg hnone, List.append_assoc]
        exact hoccurs.trans (List.prefix_append _ _).isInfix
    · refine ⟨part, hmem, ?_⟩
      rcases joined_eq after with ⟨-, hnone⟩ | hjoined
      · rw [hnone] at hoccurs
        exact absurd hoccurs (not_infix_of_apart (parts_paired part hmem) List.IsChain.nil)
      · rw [hjoined, ← List.append_assoc]
        exact hoccurs.trans ((List.suffix_cons _ _).trans (List.suffix_append _ _)).isInfix

/-- Capitals throughout leave every letter apart. -/
theorem normalText_capitals {text : List Char} (h : ∀ c ∈ text, wordChar c = true ∨ c = '_') :
    normalText (text.map Char.toUpper) = apart text := by
  have hchar : ∀ c, wordChar c = true ∨ c = '_' → normalChar c.toUpper = apartChar c := by
    intro c hc
    rcases hc with hc | rfl
    · exact normalChar_capital hc
    · rfl
  cases text with
  | nil => rfl
  | cons c text =>
    have hfirst : (if c.toUpper.toLower = '-' then '_' else c.toUpper.toLower) = c := by
      rcases h c List.mem_cons_self with hc | rfl
      · rw [(cased hc).upper_lower, if_neg (cased hc).not_dash]
      · decide
    rw [List.map_cons, normalText, hfirst, apart, List.flatMap_map]
    congr 1
    apply List.flatMap_congr
    intro d hd
    exact hchar d (h d (List.mem_cons_of_mem _ hd))

theorem holdsPart_apart (text : List Char) : holdsPart (apart text) = false := by
  rw [Bool.eq_false_iff]
  intro h
  obtain ⟨part, hmem, hoccurs⟩ := holdsPart_iff.mp h
  exact not_infix_of_apart (parts_paired part hmem) (apart_isChain text) hoccurs

section Keys
variable {rt : Runtime} (hlower : LowersIdentifiers rt) {words : List (List Char)}
  (hwords : ∀ word ∈ words, LowerWord word)
include hlower hwords

theorem snakeCase_sensitive : isSensitiveKey rt (.str (String.ofList (snakeCase words))) =
    holdsPart (snakeCase words) := by
  rw [isSensitiveKey_iff hlower fun c hc =>
    (snakeCase_chars hwords hc).imp alphanum_of_wordChar .inl]
  congr 1
  cases words with
  | nil => rfl
  | cons word words =>
    have hrest : ∀ other ∈ words, LowerWord other :=
      fun other hother => hwords other (List.mem_cons_of_mem _ hother)
    rw [snakeCase, intercalate_cons, normalText_word (hwords word List.mem_cons_self),
      flatMap_joined hrest rfl]

theorem kebab_sensitive : isSensitiveKey rt (.str (String.ofList (['-'].intercalate words))) =
    holdsPart (snakeCase words) := by
  cases words with
  | nil =>
    rw [show ['-'].intercalate ([] : List (List Char)) = snakeCase [] from rfl]
    exact snakeCase_sensitive hlower hwords
  | cons word words =>
    have hrest : ∀ other ∈ words, LowerWord other :=
      fun other hother => hwords other (List.mem_cons_of_mem _ hother)
    have hchars : ∀ c ∈ ['-'].intercalate (word :: words), IdentifierChar c := by
      intro c hc
      rw [intercalate_cons] at hc
      rcases List.mem_append.mp hc with hc | hc
      · exact .inl (alphanum_of_wordChar ((hwords word List.mem_cons_self).chars c hc))
      · obtain ⟨other, hother, hc⟩ := List.mem_flatMap.mp hc
        rcases List.mem_cons.mp hc with rfl | hc
        · exact .inr (.inr rfl)
        · exact .inl (alphanum_of_wordChar ((hrest other hother).chars c hc))
    rw [isSensitiveKey_iff hlower hchars, intercalate_cons,
      normalText_word (hwords word List.mem_cons_self), flatMap_joined hrest rfl, snakeCase,
      intercalate_cons]

theorem camel_sensitive : isSensitiveKey rt (.str (String.ofList (toCamel (snakeCase words)))) =
    holdsPart (snakeCase words) := by
  rw [isSensitiveKey_iff hlower fun c hc => toCamel_chars hwords hc, normalText_camel hwords]

theorem pascal_sensitive :
    isSensitiveKey rt (.str (String.ofList (words.map capitalize).flatten)) =
      holdsPart (snakeCase words) := by
  rw [isSensitiveKey_iff hlower fun c hc => capitalized_chars hwords hc]
  cases words with
  | nil => rfl
  | cons word words =>
    have hrest : ∀ other ∈ words, LowerWord other :=
      fun other hother => hwords other (List.mem_cons_of_mem _ hother)
    rw [List.map_cons, List.flatten_cons, normalText_capitalized (hwords word List.mem_cons_self),
      flatMap_capitalizedWords hrest, snakeCase, intercalate_cons]

omit hwords in
theorem capitals_not_sensitive {text : List Char} (h : ∀ c ∈ text, wordChar c = true ∨ c = '_') :
    isSensitiveKey rt (.str (String.ofList (text.map Char.toUpper))) = false := by
  have hchars : ∀ c ∈ text.map Char.toUpper, IdentifierChar c := by
    intro c hc
    obtain ⟨d, hd, rfl⟩ := List.mem_map.mp hc
    rcases h d hd with hd | rfl
    · exact .inl (alphanum_of_capital hd)
    · exact .inr (.inl rfl)
  rw [isSensitiveKey_iff hlower hchars, normalText_capitals h, holdsPart_apart]

end Keys

/-- Of the spellings of a sensitive key, those in capitals are not sensitive, and an acronym is only
    where it has one letter or a part stands in the words beside it; all others are. -/
theorem spelling_sensitive_iff {rt : Runtime} (hlower : LowersIdentifiers rt)
    {words : List (List Char)} (hwords : ∀ word ∈ words, LowerWord word)
    (hsensitive : isSensitiveKey rt (.str (String.ofList (snakeCase words))) = true)
    (spelling : Spelling) :
    isSensitiveKey rt (.str (String.ofList (spelling.write words))) = true ↔
      spelling.Keeps words := by
  -- the three regular spellings lead to the snake-case key again
  rw [snakeCase_sensitive hlower hwords] at hsensitive
  cases spelling with
  | kebab => exact iff_of_true ((kebab_sensitive hlower hwords).trans hsensitive) trivial
  | camel => exact iff_of_true ((camel_sensitive hlower hwords).trans hsensitive) trivial
  | pascal => exact iff_of_true ((pascal_sensitive hlower hwords).trans hsensitive) trivial
  -- capitals alone have an underscore before each of them, so no part occurs
  | screamingSnake =>
    have hnot := capitals_not_sensitive hlower fun c hc => snakeCase_chars hwords hc
    exact iff_of_false (by rw [Spelling.write, hnot]; decide) id
  | upper =>
    have hchars : ∀ c ∈ words.flatten, wordChar c = true ∨ c = '_' := by
      intro c hc
      obtain ⟨word, hword, hc⟩ := List.mem_flatten.mp hc
      exact .inl ((hwords word hword).chars c hc)
    have hnot := capitals_not_sensitive hlower hchars
    exact iff_of_false (by rw [Spelling.write, hnot]; decide) id
  -- a word in capitals falls apart into letters, so only the words beside it count
  | acronym place =>
    rw [Spelling.write, Spelling.Keeps]
    cases hplace : words.drop place with
    | nil => exact iff_of_true ((camel_sensitive hlower hwords).trans hsensitive) trivial
    | cons word after =>
      have hsplit : words = words.take place ++ word :: after := by
        rw [← hplace, List.take_append_drop]
      have hbefore : ∀ other ∈ words.take place, LowerWord other :=
        fun other hother => hwords other (List.mem_of_mem_take hother)
      have hdrop : ∀ other ∈ word :: after, LowerWord other := by
        intro other hother
        rw [← hplace] at hother
        exact hwords other (List.mem_of_mem_drop hother)
      have hword := hdrop word List.mem_cons_self
      have hafter : ∀ other ∈ after, LowerWord other :=
        fun other hother => hdrop other (List.mem_cons_of_mem _ hother)
      have hchars : ∀ c ∈ toCamel (snakeCase (words.take place)) ++ word.map Char.toUpper ++
          (after.map capitalize).flatten, IdentifierChar c := by
        intro c hc
        rcases List.mem_append.mp hc with hc | hc
        · rcases List.mem_append.mp hc with hc | hc
          · exact toCamel_chars hbefore hc
          · obtain ⟨d, hd, rfl⟩ := List.mem_map.mp hc
            exact .inl (alphanum_of_capital (hword.chars d hd))
        · exact capitalized_chars hafter hc
      show isSensitiveKey rt (.str (String.ofList _)) = true ↔ _ ∨ _
      rw [isSensitiveKey_iff hlower hchars, normalText_camelAcronym hbefore hword hafter]
      by_cases hletters : word.tail.any Char.isLower = true
      · rw [holdsPart_acronym hletters, hletters]
        simp
      · -- A single letter in capitals is what camelCase writes anyway.
        have hone := Bool.eq_false_iff.mpr hletters
        refine iff_of_true ?_ (.inl hone)
        have hsnake :
            (if words.take place = [] then [] else snakeCase (words.take place) ++ ['_']) ++
            (apart word ++ after.flatMap ('_' :: ·)) = snakeCase words := by
          rw [apart_single hone]
          cases hnone : words.take place with
          | nil =>
            rw [hnone, List.nil_append] at hsplit
            rw [if_pos rfl, List.nil_append, hsplit, snakeCase, intercalate_cons]
          | cons first before =>
            rw [hnone] at hsplit
            rw [if_neg (List.cons_ne_nil _ _), hsplit, snakeCase, snakeCase, List.cons_append,
              intercalate_cons, intercalate_cons, List.flatMap_append, List.flatMap_cons]
            simp
        rw [hsnake]
        exact hsensitive

/-- The words of the transfer service's `batchID`. -/
def batchWords : List (List Char) := ["batch".toList, "id".toList]

theorem batchWords_lower : ∀ word ∈ batchWords, LowerWord word := by
  intro word hword
  rcases List.mem_cons.mp hword with rfl | hword
  · exact ⟨⟨'b', "atch".toList, rfl, rfl⟩, List.all_iff_forall_prop.mp (by decide)⟩
  · rw [List.mem_singleton.mp hword]
    exact ⟨⟨'i', "d".toList, rfl, rfl⟩, List.all_iff_forall_prop.mp (by decide)⟩

theorem sampleRuntime_lowers : LowersIdentifiers sampleRuntime := by
  intro text h
  show String.ofList (text.toList.map Char.toLower) = text.map Char.toLower
  rw [← String.toList_map, String.ofList_toList]

theorem spelling_sensitive_iff_batch :
    isSensitiveKey sampleRuntime (.str (String.ofList (Spelling.camel.write batchWords))) = true ↔
      Spelling.camel.Keeps batchWords :=
  spelling_sensitive_iff sampleRuntime_lowers batchWords_lower (by decide +kernel) .camel

/-- `batch_id` is sensitive; the SDK's own alias `batchID` and `BATCH_ID` are not. -/
theorem batchID_not_sensitive :
    isSensitiveKey sampleRuntime (.str "batch_id") = true ∧
    String.ofList ((Spelling.acronym 1).write batchWords) = "batchID" ∧
    isSensitiveKey sampleRuntime (.str "batchID") = false ∧
    String.ofList (Spelling.screamingSnake.write batchWords) = "BATCH_ID" ∧
    isSensitiveKey sampleRuntime (.str "BATCH_ID") = false := by
  decide +kernel

end JibitSdk.Guarantees
