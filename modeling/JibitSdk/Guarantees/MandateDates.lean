import JibitSdk.Guarantees.LocalValidation
import JibitSdk.Python.Digits

/-!
# The dates of a mandate

`CreateMandateRequest` compares two dates as texts.  They are in order as dates unless the first
digits that differ are of two scripts.
-/

namespace JibitSdk.Guarantees

open JibitSdk.Python JibitSdk.Reasoning JibitSdk.Sdk JibitSdk.Sdk.ResponseModels
  JibitSdk.Sdk.RequestModels

/-! ## 1. Dates as numbers -/

/-- A date as it is read: a year, a month and a day, of whatever calendar. -/
structure CalendarDate where
  year : ℕ
  month : ℕ
  day : ℕ
  deriving DecidableEq

/-- `a` is an earlier date than `b`. -/
def CalendarDate.Before (a b : CalendarDate) : Prop :=
  a.year < b.year ∨ a.year = b.year ∧ (a.month < b.month ∨ a.month = b.month ∧ a.day < b.day)

instance (a b : CalendarDate) : Decidable (a.Before b) := by
  unfold CalendarDate.Before
  infer_instance

def yearText (text : String) : List Char := text.toList.take 4

def monthText (text : String) : List Char := (text.toList.drop 5).take 2

def dayText (text : String) : List Char := text.toList.drop 8

/-- The characters of a date beside its hyphens. -/
def digitText (text : String) : List Char := yearText text ++ (monthText text ++ dayText text)

/-- The pattern of `start_date` and `expire_date`. -/
def datePattern : String := "^\\d\x7b4\x7d-\\d\x7b2\x7d-\\d\x7b2\x7d$"

section Texts

variable (table : DigitTable)

/-- What the date pattern matches: four digits, a hyphen, two, a hyphen, two. -/
def isDate (text : String) : Bool :=
  (yearText text).length == 4 && (monthText text).length == 2 && (dayText text).length == 2 &&
    text.toList == yearText text ++ '-' :: (monthText text ++ '-' :: dayText text) &&
    (digitText text).all table.isDigit

def dateOf (text : String) : CalendarDate :=
  ⟨table.number (yearText text), table.number (monthText text), table.number (dayText text)⟩

/-- The values of the digits of a date, in order. -/
def dateDigits (text : String) : List ℕ := (digitText text).map table.value

variable {table} {s t : String}

theorem isDate_iff : isDate table s = true ↔
    (yearText s).length = 4 ∧ (monthText s).length = 2 ∧ (dayText s).length = 2 ∧
      s.toList = yearText s ++ '-' :: (monthText s ++ '-' :: dayText s) ∧
      (digitText s).all table.isDigit = true := by
  unfold isDate
  rw [Bool.and_eq_true, Bool.and_eq_true, Bool.and_eq_true, Bool.and_eq_true,
    beq_iff_eq, beq_iff_eq, beq_iff_eq, beq_iff_eq, and_assoc, and_assoc, and_assoc]

/-- Hyphens stand at the same places, so two dates first differ in a digit. -/
theorem firstDifference_digitText (hs : isDate table s = true) (ht : isDate table t = true) :
    firstDifference s.toList t.toList = firstDifference (digitText s) (digitText t) := by
  obtain ⟨hy, hm, -, htext, -⟩ := isDate_iff.mp hs
  obtain ⟨hy', hm', -, htext', -⟩ := isDate_iff.mp ht
  have hyear : (yearText s).length = (yearText t).length := hy.trans hy'.symm
  have hmonth : (monthText s).length = (monthText t).length := hm.trans hm'.symm
  rw [htext, htext', digitText, digitText, firstDifference_append hyear,
    firstDifference_append hyear,
    firstDifference_cons_same, firstDifference_append hmonth, firstDifference_append hmonth,
    firstDifference_cons_same]

theorem length_date (hs : isDate table s = true) : s.toList.length = 10 := by
  obtain ⟨hy, hm, hd, htext, -⟩ := isDate_iff.mp hs
  rw [htext, List.length_append, List.length_cons, List.length_append, List.length_cons, hy, hm, hd]

theorem length_digitText (hs : isDate table s = true) : (digitText s).length = 8 := by
  obtain ⟨hy, hm, hd, -, -⟩ := isDate_iff.mp hs
  rw [digitText, List.length_append, List.length_append, hy, hm, hd]

/-- The comparison of the texts is that of their digits as characters. -/
theorem date_lt_iff (hs : isDate table s = true) (ht : isDate table t = true) :
    s < t ↔ digitText s < digitText t := by
  have hlength := (length_date hs).trans (length_date ht).symm
  have hlength' := (length_digitText hs).trans (length_digitText ht).symm
  have htext : s < t ↔ s.toList < t.toList := Iff.rfl
  rw [htext, lt_iff_firstLess hlength, lt_iff_firstLess hlength']
  unfold FirstLess
  rw [firstDifference_digitText hs ht]

/-- Dates are ordered as the sequences of their digits. -/
theorem before_iff_firstLess (hs : isDate table s = true) (ht : isDate table t = true) :
    (dateOf table s).Before (dateOf table t) ↔ FirstLess (dateDigits table s)
    (dateDigits table t) := by
  obtain ⟨hy, hm, hd, -, hdigits⟩ := isDate_iff.mp hs
  obtain ⟨hy', hm', hd', -, hdigits'⟩ := isDate_iff.mp ht
  have hyear : (yearText s).length = (yearText t).length := hy.trans hy'.symm
  have hmonth : (monthText s).length = (monthText t).length := hm.trans hm'.symm
  have hday : (dayText s).length = (dayText t).length := hd.trans hd'.symm
  rw [digitText, List.all_append, List.all_append, Bool.and_eq_true, Bool.and_eq_true]
    at hdigits hdigits'
  unfold CalendarDate.Before dateOf
  rw [DigitTable.number_lt_iff hyear hdigits.1 hdigits'.1,
    DigitTable.number_eq_iff hyear hdigits.1 hdigits'.1,
    DigitTable.number_lt_iff hmonth hdigits.2.1 hdigits'.2.1,
    DigitTable.number_eq_iff hmonth hdigits.2.1 hdigits'.2.1,
    DigitTable.number_lt_iff hday hdigits.2.2 hdigits'.2.2]
  unfold dateDigits digitText
  rw [List.map_append, List.map_append, List.map_append, List.map_append,
    firstLess_append_iff (DigitTable.length_values hyear),
    firstLess_append_iff (DigitTable.length_values hmonth)]

variable (table)

/-- At the first place where the texts differ, the digits are of one script, or the
    expiry's script comes first exactly if the expiry has the smaller digit at the first
    place where the values differ. -/
def ScriptsAgree (start expire : String) : Prop :=
  ∀ c d, firstDifference expire.toList start.toList = some (c, d) →
    table.script c ≠ table.script d →
    (table.script c < table.script d ↔ FirstLess (dateDigits table expire) (dateDigits table start))

variable {table}

theorem scriptsAgree_iff (hs : isDate table s = true) (ht : isDate table t = true) :
    (t < s ↔ (dateOf table t).Before (dateOf table s)) ↔ ScriptsAgree table s t := by
  have hdigits := (isDate_iff.mp hs).2.2.2.2
  have hdigits' := (isDate_iff.mp ht).2.2.2.2
  have hlength := (length_digitText ht).trans (length_digitText hs).symm
  unfold ScriptsAgree
  rw [date_lt_iff ht hs, before_iff_firstLess ht hs, firstDifference_digitText ht hs]
  exact DigitTable.lt_iff_firstLess_iff hlength hdigits' hdigits

/-- Dates written in one script agree. -/
theorem scriptsAgree_of_oneScript {z : ℕ} (hs : isDate table s = true) (ht : isDate table t = true)
    (hscript : (digitText s).all (table.script · == z) = true)
    (hscript' : (digitText t).all (table.script · == z) = true) : ScriptsAgree table s t := by
  intro c d hfirst hne
  rw [firstDifference_digitText ht hs] at hfirst
  obtain ⟨-, hc, hd⟩ := firstDifference_spec hfirst
  have hzero : table.script c = z := beq_iff_eq.mp (List.all_eq_true.mp hscript' c hc)
  have hzero' : table.script d = z := beq_iff_eq.mp (List.all_eq_true.mp hscript d hd)
  exact absurd (hzero.trans hzero'.symm) hne

end Texts

/-! ## 2. Accepted requests -/

section Requests

variable {c : Coercions} {table : DigitTable} {start expire : String}

/-- A request with these dates is accepted. -/
def AcceptsDates (c : Coercions) (start expire : String) : Prop :=
  ∃ value self, mandateClass.modelValidate c value = .ok (some self) ∧
    self.attr "start_date" = .str start ∧ self.attr "expire_date" = .str expire

theorem lax_pattern {pattern : String} {value : Obj} {s : String}
    (h : (FieldType.str 0 none (some pattern)).lax c value = some (.str s)) :
    c.holds pattern s = true := by
  obtain ⟨read, -, h⟩ := FieldType.lax_eq_some_iff.mp h
  cases read with
  | str text =>
    rw [FieldType.convert] at h
    obtain ⟨hchecks, hout⟩ := Option.ite_none_right_eq_some.mp h
    cases hout
    exact hchecks.2.2
  | _ => cases h

theorem validateDateRange_ok_iff {self : Obj} (hstart : self.attr "start_date" = .str start)
    (hexpire : self.attr "expire_date" = .str expire) :
    validateDateRange self = .ok () ↔ ¬ expire < start := by
  rw [validateDateRange, hstart, hexpire]
  show raiseIf (decide (expire < start)) = .ok () ↔ _
  by_cases h : expire < start
  · rw [decide_eq_true h]
    exact iff_of_false (fun hok => by cases hok) (not_not.mpr h)
  · rw [decide_eq_false h]
    exact iff_of_true rfl h

/-- The least a mandate with these dates is built from. -/
def mandateValues (start expire : String) : List (String × Obj) :=
  [("creditor_mandate_reference", .str "mandate-0001"), ("debtor_bank", .str "MELLAT"),
    ("maximum_amount", .int 1), ("period", .int 1), ("period_unit", .str "MONTH"),
    ("start_date", .str start), ("expire_date", .str expire)]

/-- The instance they make. -/
def mandateFields (start expire : String) : List (String × Obj) :=
  mandateValues start expire ++
    ["mandate_reason", "debtor_firstname", "debtor_lastname", "debtor_national_code",
      "debtor_id_number", "debtor_mobile_number", "debtor_postal_code", "debtor_birthdate",
      "debtor_deposit_number", "debtor_iban", "otp_requirement_status",
      "otp_condition", "frequency",
      "retry"].map fun name => (name, .null)

theorem lax_date {text : String} (h : c.holds datePattern text = true) :
    (FieldType.str 0 none (some datePattern)).lax c (.str text) = some (.str text) :=
  if_pos ⟨Nat.zero_le _, rfl, h⟩

theorem validateFields_cons_of {field : Field} {type : Schema} {fields : List (Field × Schema)}
    {entries rest : List (String × Obj)} {value : Obj}
    (hvalue : (field.find entries).elim field.default (fun found => type.validate c found.2) =
      some value)
    (hrest : validateFields c fields entries = some rest) :
    validateFields c ((field, type) :: fields) entries = some ((field.name, value) :: rest) :=
  validateFields_cons_iff.mpr ⟨value, rest, hvalue, hrest, rfl⟩

theorem mandateValues_validate (hstart : c.holds datePattern start = true)
    (hexpire : c.holds datePattern expire = true) :
    createMandateRequest.validate c (.obj (mandateValues start expire)) =
      some (.obj (mandateFields start expire)) := by
  rw [createMandateRequest, jibitRequestModel, Schema.validate, Option.ite_none_left_eq_some,
    Option.map_eq_some_iff]
  refine ⟨Bool.false_ne_true, mandateFields start expire, ?_, rfl⟩
  -- the seven given fields in their order, then the fourteen optional ones
  iterate 5 refine validateFields_cons_of rfl ?_
  refine validateFields_cons_of (lax_date hstart) ?_
  refine validateFields_cons_of (lax_date hexpire) ?_
  iterate 14 refine validateFields_cons_of rfl ?_
  rfl

theorem checkedClass_accepts {schema : Schema} {after : Obj → Except BuiltinError Unit}
    {value self : Obj} (h : (checkedClass schema after).modelValidate c value = .ok (some self)) :
    schema.validate c value = some self ∧ after self = .ok () := by
  change (schema.validate c value).elim (.ok none)
    (fun self => validated self (after self)) = _ at h
  cases hvalue : schema.validate c value with
  | none =>
    rw [hvalue] at h
    cases h
  | some found =>
    rw [hvalue, Option.elim_some] at h
    cases hafter : after found with
    | ok done =>
      rw [hafter] at h
      cases h
      exact ⟨rfl, hafter⟩
    | error e =>
      rw [hafter, validated, validatorError] at h
      split at h <;> cases h

/-- A date of a validated request matches the pattern. -/
theorem attr_isDate {entries : List (String × Obj)} {self : Obj} {name : String} {text : String}
    (hpattern : ∀ text, c.holds datePattern text = isDate table text)
    (h : createMandateRequest.validate c (.obj entries) = some self)
    (hattr : self.attr name = .str text)
    (hfield : ∃ fields, createMandateRequest = .record .forbid fields ∧
      (fields.map fun field => field.1.name).Nodup ∧
      requiredAs name (.plain (.str 0 none (some datePattern))) name ∈ fields) :
    isDate table text = true := by
  obtain ⟨fields, hrecord, hnames, hmem⟩ := hfield
  rw [hrecord] at h
  rcases attr_cases h hnames hmem with hdefault | ⟨value, hvalue⟩
  · cases hdefault
  · rw [← hpattern]
    change FieldType.lax c _ value = some (self.attr name) at hvalue
    rw [hattr] at hvalue
    exact lax_pattern hvalue

/-- Accepted are the pairs of dates whose texts are in order. -/
theorem acceptsDates_iff (hpattern : ∀ text, c.holds datePattern text = isDate table text) :
    AcceptsDates c start expire ↔
      isDate table start = true ∧ isDate table expire = true ∧ ¬ expire < start := by
  constructor
  · rintro ⟨value, self, hself, hstart, hexpire⟩
    obtain ⟨hvalidate, hafter⟩ := checkedClass_accepts hself
    cases value with
    | obj entries =>
      refine ⟨?_, ?_, (validateDateRange_ok_iff hstart hexpire).mp hafter⟩
      · exact attr_isDate hpattern hvalidate hstart
          ⟨_, rfl, by decide, .tail _ (.tail _ (.tail _ (.tail _ (.tail _ (.head _)))))⟩
      · exact attr_isDate hpattern hvalidate hexpire
          ⟨_, rfl, by decide, .tail _ (.tail _ (.tail _ (.tail _ (.tail _ (.tail _ (.head _))))))⟩
    | _ => cases hvalidate
  · rintro ⟨hstart, hexpire, horder⟩
    rw [← hpattern] at hstart hexpire
    refine ⟨.obj (mandateValues start expire), .obj (mandateFields start expire), ?_, rfl, rfl⟩
    have hrange : validateDateRange (.obj (mandateFields start expire)) = .ok () :=
      (validateDateRange_ok_iff rfl rfl).mpr horder
    show (createMandateRequest.validate c _).elim _ _ = _
    rw [mandateValues_validate hstart hexpire, Option.elim_some]
    show validated _ (validateDateRange _) = _
    rw [hrange]
    rfl

end Requests

/-! ## 3. The order of accepted dates -/

/-- Of two accepted dates the expiry is not before the start, and no two dates in order are refused
    by the range check. -/
def MandateDatesOrdered (table : DigitTable) (c : Coercions) (start expire : String) : Prop :=
  (AcceptsDates c start expire → ¬ (dateOf table expire).Before (dateOf table start)) ∧
  (isDate table start = true → isDate table expire = true →
    ¬ (dateOf table expire).Before (dateOf table start) →
    ∀ self : Obj, self.attr "start_date" = .str start → self.attr "expire_date" = .str expire →
      validateDateRange self = .ok ())

theorem mandateDates_ordered_iff (table : DigitTable) (c : Coercions)
    (hpattern : ∀ text, c.holds datePattern text = isDate table text) (start expire : String) :
    MandateDatesOrdered table c start expire ↔
      (isDate table start = true → isDate table expire = true →
        ScriptsAgree table start expire) := by
  unfold MandateDatesOrdered
  rw [acceptsDates_iff hpattern]
  constructor
  · rintro ⟨haccepted, hordered⟩ hstart hexpire
    rw [← scriptsAgree_iff hstart hexpire]
    have hself : (Obj.obj (mandateFields start expire)).attr "start_date" = .str start := rfl
    constructor
    · intro hlt
      by_contra hbefore
      have hok := hordered hstart hexpire hbefore (.obj (mandateFields start expire)) rfl rfl
      exact (validateDateRange_ok_iff hself rfl).mp hok hlt
    · intro hbefore
      by_contra hlt
      exact haccepted ⟨hstart, hexpire, hlt⟩ hbefore
  · intro hagree
    constructor
    · rintro ⟨hstart, hexpire, hlt⟩ hbefore
      exact hlt (((scriptsAgree_iff hstart hexpire).mpr (hagree hstart hexpire)).mpr hbefore)
    · intro hstart hexpire hbefore self hself hself'
      rw [validateDateRange_ok_iff hself hself']
      intro hlt
      exact hbefore (((scriptsAgree_iff hstart hexpire).mpr (hagree hstart hexpire)).mp hlt)

/-- ASCII, Arabic and Persian digits. -/
def persianDigits : DigitTable where
  zeros := [0x30, 0x660, 0x6F0]
  apart := by decide

/-- Searches for the date pattern in ASCII, Arabic and Persian digits. -/
def persianCoercions : Coercions :=
  { plainCoercions with
    holds := fun pattern text => pattern == datePattern && isDate persianDigits text }

theorem holds_persian (text : String) :
    persianCoercions.holds datePattern text = isDate persianDigits text :=
  rfl

/-- A mandate of one year, in Persian digits. -/
theorem mandateDates_ordered_persian :
    MandateDatesOrdered persianDigits persianCoercions
      "\u06F1\u06F4\u06F0\u06F2-\u06F0\u06F1-\u06F0\u06F1"
      "\u06F1\u06F4\u06F0\u06F3-\u06F0\u06F1-\u06F0\u06F1" :=
  (mandateDates_ordered_iff persianDigits persianCoercions holds_persian _ _).mpr
    fun hstart hexpire => scriptsAgree_of_oneScript (z := 0x6F0) hstart hexpire rfl rfl

/-- An expiry in 1399 passes after a start in 1402, and a start in 1399 is refused before an expiry
    in 1402, as soon as 1399 is written in Persian digits and 1402 in ASCII. -/
theorem mandateDates_misordered :
    ¬ MandateDatesOrdered persianDigits persianCoercions "1402-01-01"
        "\u06F1\u06F3\u06F9\u06F9-12-29" ∧
    ¬ MandateDatesOrdered persianDigits persianCoercions "\u06F1\u06F3\u06F9\u06F9-12-29"
        "1402-01-01" := by
  constructor
  · intro h
    have haccepted : AcceptsDates persianCoercions "1402-01-01" "\u06F1\u06F3\u06F9\u06F9-12-29" :=
      (acceptsDates_iff holds_persian).mpr (by decide)
    exact h.1 haccepted (by decide)
  · intro h
    have hok := h.2 (by decide) (by decide) (by decide)
      (.obj (mandateFields "\u06F1\u06F3\u06F9\u06F9-12-29" "1402-01-01")) rfl rfl
    have hrefused : validateDateRange
        (.obj (mandateFields "\u06F1\u06F3\u06F9\u06F9-12-29" "1402-01-01")) =
          .error .valueError := by decide
    rw [hrefused] at hok
    cases hok

end JibitSdk.Guarantees
