import Mathlib.Data.List.DropRight
import Mathlib.Tactic.Common

/-!
# URLs and dot segments

The hierarchical part of RFC 3986: a URL as scheme, authority, path and what follows the path, a
path as its segments, and the removal of dot segments that a client applies before it sends.
-/

namespace JibitSdk.Reasoning

/-! ## 1. Segments -/

/-- A path segment, without delimiters. -/
abbrev Segment := List Char

/-- `.` or `..`. -/
def Segment.isDot (s : Segment) : Prop := s = ['.'] ∨ s = ['.', '.']

instance (s : Segment) : Decidable s.isDot := inferInstanceAs (Decidable (_ ∨ _))

/-- `/s₁/s₂/…`. -/
def joinSegments (segments : List Segment) : List Char := segments.flatMap ('/' :: ·)

/-- The segments of a path that starts with a slash. -/
def pathSegments (path : List Char) : List Segment := (path.drop 1).splitOn '/'

@[simp] theorem joinSegments_nil : joinSegments [] = [] := rfl

@[simp] theorem joinSegments_cons (s : Segment) (rest : List Segment) :
    joinSegments (s :: rest) = '/' :: (s ++ joinSegments rest) := rfl

@[simp] theorem joinSegments_append (a b : List Segment) :
    joinSegments (a ++ b) = joinSegments a ++ joinSegments b := by
  simp [joinSegments]

theorem joinSegments_eq_intercalate (s : Segment) (rest : List Segment) :
    joinSegments (s :: rest) = '/' :: ['/'].intercalate (s :: rest) := by
  induction rest generalizing s with
  | nil => simp
  | cons t rest ih =>
    rw [joinSegments_cons, ih, List.intercalate_cons_cons]
    simp

/-- Reading a joined path gives its segments back. -/
theorem pathSegments_joinSegments {segments : List Segment} (hne : segments ≠ [])
    (hslash : ∀ s ∈ segments, '/' ∉ s) : pathSegments (joinSegments segments) = segments := by
  cases segments with
  | nil => exact absurd rfl hne
  | cons s rest =>
    rw [pathSegments, joinSegments_eq_intercalate, List.drop_one, List.tail_cons]
    exact List.splitOn_intercalate '/' hslash hne

/-- Trailing slashes are trailing empty segments. -/
theorem rdropWhile_joinSegments {segments : List Segment} (hslash : ∀ s ∈ segments, '/' ∉ s) :
    (joinSegments segments).rdropWhile (· = '/') =
      joinSegments (segments.rdropWhile (·.isEmpty)) := by
  induction segments using List.reverseRecOn with
  | nil => rfl
  | append_singleton segments s ih =>
    have hinit : ∀ t ∈ segments, '/' ∉ t := fun t ht => hslash t (by simp [ht])
    rw [joinSegments_append, List.rdropWhile_concat]
    by_cases hempty : s = []
    · subst hempty
      rw [List.isEmpty_nil, if_pos rfl, ← ih hinit]
      exact List.rdropWhile_concat_pos _ _ _ (by simp)
    · have hlast : s.getLast hempty ≠ '/' := fun h =>
        hslash s (by simp) (h ▸ List.getLast_mem hempty)
      rw [if_neg (by simpa using hempty), joinSegments_append, List.rdropWhile_eq_self_iff]
      intro hl
      simpa [List.getLast_cons, hempty] using hlast

/-- What follows the stripped segments is empty. -/
theorem eq_rdropWhile_append (segments : List Segment) :
    ∃ rest, segments = segments.rdropWhile (·.isEmpty) ++ rest ∧ ∀ s ∈ rest, s = [] := by
  refine ⟨segments.rtakeWhile (·.isEmpty), List.rdropWhile_append_rtakeWhile.symm, ?_⟩
  intro s hs
  have hempty := List.mem_rtakeWhile_imp hs
  simpa using hempty

/-! ## 2. Dot-segment removal -/

/-- `remove_dot_segments`; `out` holds the output segments, the last one first.  A final dot
    segment leaves an empty segment behind, for the slash that stays. -/
def removeDotSegmentsFrom (out : List Segment) : List Segment → List Segment
  | [] => out.reverse
  | s :: rest =>
    if s = ['.'] then
      if rest = [] then ([] :: out).reverse else removeDotSegmentsFrom out rest
    else if s = ['.', '.'] then
      if rest = [] then ([] :: out.tail).reverse else removeDotSegmentsFrom out.tail rest
    else removeDotSegmentsFrom (s :: out) rest

def removeDotSegments (segments : List Segment) : List Segment := removeDotSegmentsFrom [] segments

/-- The output has no dot segment. -/
theorem not_isDot_of_mem_removeFrom {segments out : List Segment} (hout : ∀ s ∈ out, ¬ s.isDot) :
    ∀ s ∈ removeDotSegmentsFrom out segments, ¬ s.isDot := by
  have hnil : ¬ Segment.isDot [] := by decide
  induction segments generalizing out with
  | nil => simpa [removeDotSegmentsFrom] using hout
  | cons t rest ih =>
    have htail : ∀ s ∈ out.tail, ¬ s.isDot := fun s hs => hout s (List.mem_of_mem_tail hs)
    unfold removeDotSegmentsFrom
    split_ifs with hdot hlast hdots hlast
    · simpa [or_imp, forall_and, hnil] using hout
    · exact ih hout
    · simpa [or_imp, forall_and, hnil] using htail
    · exact ih htail
    · apply ih
      have ht : ¬ t.isDot := fun h => h.elim hdot hdots
      simpa [ht] using hout

/-- Other segments pass through. -/
theorem removeFrom_eq_self {segments out : List Segment} (hplain : ∀ s ∈ segments, ¬ s.isDot) :
    removeDotSegmentsFrom out segments = out.reverse ++ segments := by
  induction segments generalizing out with
  | nil => simp [removeDotSegmentsFrom]
  | cons t rest ih =>
    have ht : ¬ (t = ['.'] ∨ t = ['.', '.']) := hplain t List.mem_cons_self
    rw [removeDotSegmentsFrom, if_neg fun h => ht (.inl h), if_neg fun h => ht (.inr h),
      ih fun s hs => hplain s (List.mem_cons_of_mem _ hs)]
    simp

/-- Removal changes exactly the paths with a dot segment. -/
theorem removeDotSegments_eq_self_iff (segments : List Segment) :
    removeDotSegments segments = segments ↔ ∀ s ∈ segments, ¬ s.isDot := by
  constructor
  · intro h
    rw [← h]
    exact not_isDot_of_mem_removeFrom (by simp)
  · intro h
    rw [removeDotSegments, removeFrom_eq_self h, List.reverse_nil, List.nil_append]

/-! ## 3. URLs -/

/-- The characters that end an authority. -/
def endsAuthority (c : Char) : Bool := c == '/' || c == '?' || c == '#'

/-- The characters that end a path. -/
def endsPath (c : Char) : Bool := c == '?' || c == '#'

/-- A URL with an authority; `rest` is the query and the fragment with their delimiters. -/
structure Url where
  scheme : List Char
  authority : List Char
  path : List Char
  rest : List Char
  deriving DecidableEq

/-- `scheme://authority` and what follows. -/
def Url.text (u : Url) : List Char :=
  u.scheme ++ ':' :: '/' :: '/' :: (u.authority ++ u.path ++ u.rest)

/-- The components of a URL. -/
def Url.parse (text : List Char) : Option Url :=
  match text.dropWhile (· ≠ ':') with
  | ':' :: '/' :: '/' :: hier =>
    let path := hier.dropWhile fun c => !endsAuthority c
    some ⟨text.takeWhile (· ≠ ':'), hier.takeWhile fun c => !endsAuthority c,
      path.takeWhile fun c => !endsPath c, path.dropWhile fun c => !endsPath c⟩
  | _ => none

/-- No component holds the delimiter that would end it. -/
structure Url.WellFormed (u : Url) : Prop where
  scheme : ':' ∉ u.scheme
  authority : ∀ c ∈ u.authority, endsAuthority c = false
  path : ∀ c ∈ u.path, endsPath c = false
  path_slash : ∃ path, u.path = '/' :: path
  rest : ∀ c ∈ u.rest.head?, endsPath c = true

/-- A scan stops at the delimiter. -/
theorem span_append {p : Char → Bool} {a b : List Char} (ha : ∀ c ∈ a, p c = true)
    (hb : ∀ c ∈ b.head?, p c = false) :
    (a ++ b).takeWhile p = a ∧ (a ++ b).dropWhile p = b := by
  induction a with
  | nil =>
    cases b with
    | nil => exact ⟨rfl, rfl⟩
    | cons c b => simp [hb c rfl]
  | cons c a ih =>
    obtain ⟨htake, hdrop⟩ := ih fun d hd => ha d (List.mem_cons_of_mem _ hd)
    simp [ha c List.mem_cons_self, htake, hdrop]

/-- A well-formed URL is read back from its text. -/
theorem Url.parse_text {u : Url} (h : u.WellFormed) : Url.parse u.text = some u := by
  obtain ⟨path, hpath⟩ := h.path_slash
  have hscheme := span_append (p := fun c => c ≠ ':') (a := u.scheme)
    (b := ':' :: '/' :: '/' :: (u.authority ++ u.path ++ u.rest))
    (fun c hc => by simpa using fun heq : c = ':' => h.scheme (heq ▸ hc)) (by simp)
  have hauthority := span_append (p := fun c => !endsAuthority c) (a := u.authority)
    (b := u.path ++ u.rest) (fun c hc => by simp [h.authority c hc])
    (by simp [hpath, endsAuthority])
  have hrest := span_append (p := fun c => !endsPath c) (a := u.path) (b := u.rest)
    (fun c hc => by simp [h.path c hc]) (fun c hc => by simp [h.rest c hc])
  unfold Url.parse Url.text
  rw [hscheme.2]
  rw [hscheme.1]
  simp only [List.append_assoc, hauthority.1, hauthority.2, hrest.1, hrest.2]

end JibitSdk.Reasoning
