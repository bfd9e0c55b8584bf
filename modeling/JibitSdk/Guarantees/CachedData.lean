import Mathlib
import JibitSdk.Reasoning.Url
import JibitSdk.Sdk.Auth.Stores

/-!
# Cached data

`from_cache_data` undoes `to_cache_data`, and a JSON writer for the dictionaries of token states
that never writes one text for two of them.
-/

namespace JibitSdk.Guarantees

open JibitSdk.Python JibitSdk.Reasoning JibitSdk.Sdk

/-! ## 1. Cached data round-trips -/

/-- The states that survive `to_cache_data`: no secret and no token type is empty. -/
structure Storable (t : TokenState) : Prop where
  access : t.accessToken ≠ ""
  refresh : t.refreshToken ≠ some ""
  tokenType : t.tokenType ≠ ""

theorem refreshValue_of_storable {t : TokenState} (h : Storable t) :
    t.refreshValue = t.refreshToken := by
  unfold TokenState.refreshValue
  cases hrefresh : t.refreshToken with
  | none => rfl
  | some value =>
    have hne : value ≠ "" := fun heq => h.refresh (by rw [hrefresh, heq])
    simp [hne]

theorem optionalFloat_expiryData (rt : Runtime) (expiry : Option PyFloat) :
    optionalFloat (.ofJson rt (expiryData expiry)) = .ok expiry := by
  cases expiry <;> rfl

/-- `from_cache_data` undoes `to_cache_data`. -/
theorem fromCacheData_toCacheData (rt : Runtime) {t : TokenState} (h : Storable t) :
    fromCacheData rt (objectsOf rt t.toCacheData) = .ok t := by
  have haccess : cachedAccess (objectsOf rt t.toCacheData) = .ok t.accessToken := by
    show (if t.accessToken = "" then _ else _) = _
    rw [if_neg h.access]
    rfl
  have hrefresh : cachedRefresh (objectsOf rt t.toCacheData) = t.refreshToken := by
    rw [← refreshValue_of_storable h]
    unfold cachedRefresh PyObject.get objectsOf TokenState.toCacheData
    cases t.refreshValue <;> rfl
  have hexpires : optionalFloat (PyObject.get (objectsOf rt t.toCacheData) "expires_at") =
      .ok t.expiresAt := optionalFloat_expiryData rt t.expiresAt
  have hrefreshExpires :
      optionalFloat (PyObject.get (objectsOf rt t.toCacheData) "refresh_expires_at") =
        .ok t.refreshExpiresAt := optionalFloat_expiryData rt t.refreshExpiresAt
  have htype : cachedTokenType rt (objectsOf rt t.toCacheData) = .ok t.tokenType := by
    show (do if ← (.ok (t.tokenType != "") : Except BuiltinError Bool) then _ else _) = _
    have hne : (t.tokenType != "") = true := by simpa using h.tokenType
    rw [hne]
    rfl
  have hscopes : cachedScopes (objectsOf rt t.toCacheData) = .ok t.scopes := by
    show (do if ← (.ok (!(t.scopes.map Json.str).isEmpty) : Except BuiltinError Bool) then
      (.ok ((t.scopes.map Json.str).map rt.str) : Except BuiltinError (List String)) else _) = _
    cases t.scopes with
    | nil => rfl
    | cons scope scopes =>
      have hstr : ((scope :: scopes).map Json.str).map rt.str = scope :: scopes := by
        simp [List.map_map, Function.comp_def, rt.str_str]
      rw [hstr]
      rfl
  unfold fromCacheData
  rw [haccess, hexpires, hrefreshExpires, htype, hscopes, hrefresh]
  rfl

/-! ## 2. A JSON writer -/

/-- A character inside a JSON string. -/
def escaped (c : Char) : List Char := if c = '"' ∨ c = '\\' then ['\\', c] else [c]

def stringText (s : List Char) : List Char := '"' :: (s.flatMap escaped ++ ['"'])

/-- Whole numbers as `repr(float)` shows them, other rationals as fractions. -/
def finiteText (q : ℚ) : List Char :=
  q.num.repr.toList ++ (if q.den = 1 then ".0" else "/" ++ q.den.repr).toList

def expiryText : Option PyFloat → List Char
  | none => ['n', 'u', 'l', 'l']
  | some .nan => ['N', 'a', 'N']
  | some .posInf => ['I', 'n', 'f', 'i', 'n', 'i', 't', 'y']
  | some .negInf => ['-', 'I', 'n', 'f', 'i', 'n', 'i', 't', 'y']
  | some (.finite q) => finiteText q

/-- The end of an array of strings. -/
def itemsText : List String → List Char
  | [] => [']']
  | s :: rest => ',' :: (stringText s.toList ++ itemsText rest)

def scopesText : List String → List Char
  | [] => ['[', ']']
  | s :: rest => '[' :: (stringText s.toList ++ itemsText rest)

def refreshText : Option String → List Char
  | none => ['n', 'u', 'l', 'l']
  | some s => stringText s.toList

/-- A string is read up to its closing quote. -/
theorem escaped_unique {s s' r r' : List Char}
    (h : s.flatMap escaped ++ '"' :: r = s'.flatMap escaped ++ '"' :: r') : s = s' ∧ r = r' := by
  induction s generalizing s' with
  | nil =>
    cases s' with
    | nil => simpa using h
    | cons c' s' =>
      by_cases hc' : c' = '"' ∨ c' = '\\'
      · simp [escaped, hc'] at h
      · simp only [List.flatMap_cons, escaped, if_neg hc'] at h
        have : '"' = c' := (List.cons.inj h).1
        exact absurd (Or.inl this.symm) hc'
  | cons c s ih =>
    cases s' with
    | nil =>
      by_cases hc : c = '"' ∨ c = '\\'
      · simp [escaped, hc] at h
      · simp only [List.flatMap_cons, escaped, if_neg hc] at h
        have : c = '"' := (List.cons.inj h).1
        exact absurd (Or.inl this) hc
    | cons c' s' =>
      by_cases hc : c = '"' ∨ c = '\\' <;> by_cases hc' : c' = '"' ∨ c' = '\\'
      · simp only [List.flatMap_cons, escaped, if_pos hc, if_pos hc', List.cons_append,
          List.nil_append, List.cons.injEq, true_and] at h
        obtain ⟨hs, hr⟩ := ih h.2
        exact ⟨by rw [h.1, hs], hr⟩
      · simp only [List.flatMap_cons, escaped, if_pos hc, if_neg hc', List.cons_append,
          List.nil_append, List.cons.injEq] at h
        exact absurd (Or.inr h.1.symm) hc'
      · simp only [List.flatMap_cons, escaped, if_neg hc, if_pos hc', List.cons_append,
          List.nil_append, List.cons.injEq] at h
        exact absurd (Or.inr h.1) hc
      · simp only [List.flatMap_cons, escaped, if_neg hc, if_neg hc', List.cons_append,
          List.nil_append, List.cons.injEq] at h
        obtain ⟨hs, hr⟩ := ih h.2
        exact ⟨by rw [h.1, hs], hr⟩

theorem stringText_unique {s s' : String} {r r' : List Char}
    (h : stringText s.toList ++ r = stringText s'.toList ++ r') : s = s' ∧ r = r' := by
  simp only [stringText, List.cons_append, List.append_assoc, List.nil_append, List.cons.injEq,
    true_and] at h
  obtain ⟨hs, hr⟩ := escaped_unique h
  exact ⟨String.toList_inj.mp hs, hr⟩

theorem itemsText_unique {items items' : List String} {r r' : List Char}
    (h : itemsText items ++ r = itemsText items' ++ r') : items = items' ∧ r = r' := by
  induction items generalizing items' with
  | nil =>
    cases items' with
    | nil => simpa [itemsText] using h
    | cons s' rest' => simp [itemsText] at h
  | cons s rest ih =>
    cases items' with
    | nil => simp [itemsText] at h
    | cons s' rest' =>
      simp only [itemsText, List.cons_append, List.append_assoc, List.cons.injEq, true_and] at h
      obtain ⟨rfl, hrest⟩ := stringText_unique h
      obtain ⟨rfl, hr⟩ := ih hrest
      exact ⟨rfl, hr⟩

theorem scopesText_unique {items items' : List String} {r r' : List Char}
    (h : scopesText items ++ r = scopesText items' ++ r') : items = items' := by
  cases items with
  | nil =>
    cases items' with
    | nil => rfl
    | cons s' rest' => simp [scopesText, stringText] at h
  | cons s rest =>
    cases items' with
    | nil => simp [scopesText, stringText] at h
    | cons s' rest' =>
      simp only [scopesText, List.cons_append, List.append_assoc, List.cons.injEq, true_and] at h
      obtain ⟨rfl, hrest⟩ := stringText_unique h
      rw [(itemsText_unique hrest).1]

theorem refreshText_unique {a a' : Option String} {r r' : List Char}
    (h : refreshText a ++ r = refreshText a' ++ r') : a = a' ∧ r = r' := by
  cases a <;> cases a'
  · exact ⟨rfl, List.append_cancel_left h⟩
  · simp [refreshText, stringText] at h
  · simp [refreshText, stringText] at h
  · obtain ⟨rfl, hr⟩ := stringText_unique h
    exact ⟨rfl, hr⟩

theorem natRepr_digits (n : ℕ) : ∀ c ∈ n.repr.toList, c.isDigit = true := by
  intro c hc
  rw [Nat.toList_repr] at hc
  exact Nat.isDigit_of_mem_toDigits (by decide) (by decide) hc

theorem intRepr_chars (n : ℤ) : ∀ c ∈ n.repr.toList, c.isDigit = true ∨ c = '-' := by
  intro c hc
  cases n with
  | ofNat n => exact .inl (natRepr_digits n c hc)
  | negSucc n =>
    have hc' : c ∈ ("-" ++ (n + 1).repr).toList := hc
    rw [String.toList_append] at hc'
    rcases List.mem_append.mp hc' with hminus | hdigit
    · exact .inr (by simpa using hminus)
    · exact .inl (natRepr_digits _ c hdigit)

theorem finiteText_inj {q q' : ℚ} (h : finiteText q = finiteText q') : q = q' := by
  have hstop (q : ℚ) : ∃ d r, (if q.den = 1 then ".0" else "/" ++ q.den.repr).toList = d :: r ∧
      (d = '.' ∨ d = '/') := by
    by_cases hden : q.den = 1
    · exact ⟨'.', ['0'], by rw [if_pos hden]; rfl, .inl rfl⟩
    · exact ⟨'/', q.den.repr.toList, by rw [if_neg hden, String.toList_append]; rfl, .inr rfl⟩
  have hspan (q : ℚ) := span_append (p := fun c => c.isDigit || c == '-') (a := q.num.repr.toList)
    (b := (if q.den = 1 then ".0" else "/" ++ q.den.repr).toList)
    (fun c hc => by rcases intRepr_chars q.num c hc with hd | rfl <;> simp [*])
    (fun c hc => by
      obtain ⟨d, r, hdr, hd⟩ := hstop q
      rw [hdr] at hc
      cases hc
      rcases hd with rfl | rfl <;> decide)
  have hnum := (hspan q).1
  have hrest := (hspan q).2
  rw [show q.num.repr.toList ++ _ = finiteText q from rfl, h] at hnum hrest
  have hnum' : q.num.repr = q'.num.repr := String.toList_inj.mp (hnum.symm.trans (hspan q').1)
  have hrest' := hrest.symm.trans (hspan q').2
  refine Rat.ext (Int.repr_injective hnum') ?_
  by_cases hden : q.den = 1 <;> by_cases hden' : q'.den = 1
  · rw [hden, hden']
  · rw [if_pos hden, if_neg hden', String.toList_append] at hrest'
    exact absurd hrest' (by simp)
  · rw [if_neg hden, if_pos hden', String.toList_append] at hrest'
    exact absurd hrest' (by simp)
  · rw [if_neg hden, if_neg hden', String.toList_append, String.toList_append] at hrest'
    exact Nat.repr_injective (String.toList_inj.mp (List.append_cancel_left hrest'))

theorem finiteText_chars (q : ℚ) : ∀ c ∈ finiteText q, c.isAlpha = false ∧ c ≠ ',' := by
  have hdigit {c : Char} (hc : c.isDigit = true) : c.isAlpha = false ∧ c ≠ ',' := by
    refine ⟨?_, fun heq => by rw [heq] at hc; exact absurd hc (by decide)⟩
    by_contra halpha
    have hnot : c.isDigit = false := CharClasses.ascii.decimal_not_alpha c (by simpa using halpha)
    exact nomatch hc.symm.trans hnot
  intro c hc
  rcases List.mem_append.mp hc with hc | hc
  · rcases intRepr_chars _ c hc with hd | rfl
    · exact hdigit hd
    · decide
  · by_cases hden : q.den = 1
    · rw [if_pos hden] at hc
      have : c = '.' ∨ c = '0' := by simpa using hc
      rcases this with rfl | rfl <;> decide
    · rw [if_neg hden, String.toList_append] at hc
      rcases List.mem_append.mp hc with hslash | hd
      · have : c = '/' := by simpa using hslash
        rw [this]
        decide
      · exact hdigit (natRepr_digits _ c hd)

/-- The texts that are no number. -/
def expiryWords : List (List Char) :=
  [expiryText none, expiryText (some .nan), expiryText (some .posInf), expiryText (some .negInf)]

/-- A number has no letters and no comma, a word has a letter and no comma. -/
theorem expiryWords_chars : ∀ word ∈ expiryWords,
    (∃ c ∈ word, c.isAlpha = true) ∧ ∀ c ∈ word, (c != ',') = true := by
  simp [expiryWords, expiryText, Char.isAlpha, Char.isUpper, Char.isLower]

theorem finite_or_word (e : Option PyFloat) :
    (∃ q, e = some (.finite q)) ∨ expiryText e ∈ expiryWords := by
  rcases e with _ | (q | _ | _ | _)
  · exact .inr (by decide)
  · exact .inl ⟨q, rfl⟩
  · exact .inr (by decide)
  · exact .inr (by decide)
  · exact .inr (by decide)

theorem finiteText_not_word (q : ℚ) : finiteText q ∉ expiryWords := by
  intro h
  obtain ⟨c, hc, halpha⟩ := (expiryWords_chars _ h).1
  exact nomatch halpha.symm.trans (finiteText_chars q c hc).1

theorem expiryText_inj {e e' : Option PyFloat} (h : expiryText e = expiryText e') : e = e' := by
  rcases finite_or_word e with ⟨q, rfl⟩ | he
  · rcases finite_or_word e' with ⟨q', rfl⟩ | he'
    · rw [finiteText_inj h]
    · rw [← h] at he'
      exact absurd he' (finiteText_not_word q)
  · rcases finite_or_word e' with ⟨q', rfl⟩ | he'
    · rw [h] at he
      exact absurd he (finiteText_not_word q')
    · rcases e with _ | (q | _ | _ | _) <;> rcases e' with _ | (q' | _ | _ | _) <;>
        first
        | exact absurd he (finiteText_not_word _)
        | exact absurd he' (finiteText_not_word _)
        | simp [expiryText] at h ⊢

theorem expiryText_unique {e e' : Option PyFloat} {r r' : List Char}
    (h : expiryText e ++ ',' :: r = expiryText e' ++ ',' :: r') : e = e' ∧ r = r' := by
  have hcomma (e : Option PyFloat) : ∀ c ∈ expiryText e, (c != ',') = true := by
    rcases finite_or_word e with ⟨q, rfl⟩ | he
    · intro c hc
      simpa using (finiteText_chars q c hc).2
    · exact (expiryWords_chars _ he).2
  have hspan (e : Option PyFloat) (r : List Char) := span_append (p := fun c => c != ',')
    (hcomma e) (b := ',' :: r) (by simp)
  have htake := (hspan e r).1
  have hdrop := (hspan e r).2
  rw [h] at htake hdrop
  exact ⟨expiryText_inj (htake.symm.trans (hspan e' r').1),
    (List.cons.inj (hdrop.symm.trans (hspan e' r').2)).2⟩

/-- The text of a token state's cached data, as `json.dumps` writes it. -/
def cacheText (t : TokenState) : List Char :=
  "\x7b\"access_token\":".toList ++ (stringText t.accessValue.toList ++
    (",\"refresh_token\":".toList ++ (refreshText t.refreshValue ++
    (",\"expires_at\":".toList ++ (expiryText t.expiresAt ++
    (",\"refresh_expires_at\":".toList ++ (expiryText t.refreshExpiresAt ++
    (",\"token_type\":".toList ++ (stringText t.tokenType.toList ++
    (",\"scopes\":".toList ++ (scopesText t.scopes ++ ['\x7d'])))))))))))

theorem cacheText_inj {t t' : TokenState} (ht : Storable t) (ht' : Storable t')
    (h : cacheText t = cacheText t') : t = t' := by
  have h₁ := List.append_cancel_left h
  obtain ⟨haccess, h₂⟩ := stringText_unique h₁
  obtain ⟨hrefresh, h₃⟩ := refreshText_unique (List.append_cancel_left h₂)
  obtain ⟨hexpires, h₄⟩ := expiryText_unique (List.append_cancel_left h₃)
  obtain ⟨hrefreshExpires, h₅⟩ := expiryText_unique
    (@List.append_cancel_left _ "\"refresh_expires_at\":".toList _ _ h₄)
  obtain ⟨htype, h₆⟩ := stringText_unique
    (@List.append_cancel_left _ "\"token_type\":".toList _ _ h₅)
  have hscopes := scopesText_unique (List.append_cancel_left h₆)
  rw [refreshValue_of_storable ht, refreshValue_of_storable ht'] at hrefresh
  cases t
  cases t'
  exact (TokenState.mk.injEq ..).mpr ⟨haccess, hrefresh, hexpires, hrefreshExpires,
    by simpa using htype, hscopes⟩

/-- The text of one value. -/
def valueText : Json → List Char
  | .str s => stringText s.toList
  | .float x => expiryText (some x)
  | .arr items => scopesText (items.map fun item => match item with
    | .str s => s
    | _ => "")
  | _ => expiryText none

/-- `json.dumps` of such a dictionary. -/
def objText (fields : List (String × Json)) : List Char :=
  '\x7b' :: ([','].intercalate
    (fields.map fun field => stringText field.1.toList ++ ':' :: valueText field.2) ++ ['\x7d'])

/-- The writer on a token state's dictionary. -/
theorem objText_toCacheData (t : TokenState) : objText t.toCacheData = cacheText t := by
  have hexpiry (e : Option PyFloat) : valueText (expiryData e) = expiryText e := by
    cases e <;> rfl
  have hrefresh : valueText (match t.refreshValue with
      | none => .null
      | some value => .str value) = refreshText t.refreshValue := by
    cases t.refreshValue <;> rfl
  have hscopes : valueText (.arr (t.scopes.map .str)) = scopesText t.scopes := by
    simp [valueText, List.map_map, Function.comp_def]
  unfold TokenState.toCacheData objText cacheText
  simp only [List.map_cons, List.map_nil, hexpiry, hscopes]
  simp [valueText, stringText, escaped, List.intercalate]
  exact hrefresh

open Classical in
/-- The writer, and the reader that undoes it; bytes are ASCII. -/
noncomputable def cacheJson : JsonText where
  dumps
    | .obj fields => String.ofList (objText fields)
    | _ => ""
  loads text :=
    if h : ∃ t, Storable t ∧ String.ofList (cacheText t) = text then
      .ok (.obj (Classical.choose h).toCacheData)
    else .error .jsonDecodeError
  decodeUtf8 data :=
    if data.all (· < 128) then .ok (String.ofList (data.map fun b => Char.ofNat b.toNat))
    else .error .unicodeDecodeError

theorem cacheJson_loads_dumps {t : TokenState} (ht : Storable t) :
    cacheJson.loads (cacheJson.dumps (.obj t.toCacheData)) = .ok (.obj t.toCacheData) := by
  have hwritten : ∃ t', Storable t' ∧ String.ofList (cacheText t') =
      cacheJson.dumps (.obj t.toCacheData) :=
    ⟨t, ht, congrArg String.ofList (objText_toCacheData t).symm⟩
  obtain ⟨hstorable, htext⟩ := Classical.choose_spec hwritten
  have hsame : Classical.choose hwritten = t := by
    apply cacheText_inj hstorable ht
    have hlist := congrArg String.toList htext
    rw [String.toList_ofList] at hlist
    rw [hlist, ← objText_toCacheData]
    exact String.toList_ofList
  have hread : cacheJson.loads (cacheJson.dumps (.obj t.toCacheData)) =
      .ok (.obj (Classical.choose hwritten).toCacheData) := dif_pos hwritten
  rw [hread, hsame]

end JibitSdk.Guarantees
