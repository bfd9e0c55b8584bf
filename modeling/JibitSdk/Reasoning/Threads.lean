import JibitSdk.Reasoning.History
import Mathlib.Logic.Function.Basic
import Mathlib.Data.DFinsupp.WellFounded

/-!
# Programs side by side

Any number of programs take turns, one operation at a time.  To reason about one of them alone, its
own machine is replaced by its view of the shared one: before each of its operations the others may
have changed the state, in the ways it relies on.  In return every operation must keep the common
invariant and stay within what the others rely on.
-/

namespace JibitSdk.Reasoning

variable {S : Signature} {ε α ι σ : Type}

/-! ## 1. Interleavings -/

section Interleavings
variable [DecidableEq ι]

/-- The programs and the state that can be reached by performing operations in any order. -/
inductive Interleaved (M : ι → Machine S σ) (ps₀ : ι → Prog S ε α) (s₀ : σ) :
    (ι → Prog S ε α) → σ → Prop
  | start : Interleaved M ps₀ s₀ ps₀ s₀
  | step {ps : ι → Prog S ε α} {s s' : σ} {i : ι} {o : S.Op} {k : S.Answer o → Prog S ε α}
      {a : S.Answer o} (run : Interleaved M ps₀ s₀ ps s) (hi : ps i = .call o k)
      (hstep : (M i).step o s a s') : Interleaved M ps₀ s₀ (Function.update ps i (k a)) s'

variable {π : Type}

/-- Play a schedule; a turn is lost on a program that has ended or is blocked. -/
def play (h : ι → (o : S.Op) → π → Option (S.Answer o × π)) :
    List ι → (ι → Prog S ε α) → π → (ι → Prog S ε α) × π
  | [], ps, s => (ps, s)
  | i :: rest, ps, s => match ps i with
    | .call o k => match h i o s with
      | some (a, s') => play h rest (Function.update ps i (k a)) s'
      | none => play h rest ps s
    | _ => play h rest ps s

/-- What is played with answers of the machine is an interleaving. -/
theorem play_interleaved {M : ι → Machine S σ} (view : π → σ)
    {h : ι → (o : S.Op) → π → Option (S.Answer o × π)}
    (hM : ∀ i o s a s', h i o s = some (a, s') → (M i).step o (view s) a (view s'))
    {ps₀ : ι → Prog S ε α} {s₀ : σ} (schedule : List ι) {ps : ι → Prog S ε α} {s : π}
    (run : Interleaved M ps₀ s₀ ps (view s)) :
    Interleaved M ps₀ s₀ (play h schedule ps s).1 (view (play h schedule ps s).2) := by
  induction schedule generalizing ps s with
  | nil => exact run
  | cons i rest ih =>
    unfold play
    split
    · rename_i o k hi
      split
      · rename_i a s' hanswer
        exact ih (run.step hi (hM i o s a s' hanswer))
      · exact ih run
    · exact ih run

end Interleavings

/-! ## 2. Logs of many programs -/

section Recorded

/-- Machines that record who did what. -/
def recorded (M : ι → Machine S σ) (i : ι) : Machine S (σ × List (ι × Event S)) where
  step o s a s' := (M i).step o s.1 a s'.1 ∧ s'.2 = s.2 ++ [(i, ⟨o, a⟩)]

variable [DecidableEq ι]

/-- The events of one program. -/
def historyOf (i : ι) (log : List (ι × Event S)) : List (Event S) :=
  (log.filter fun e => e.1 = i).map Prod.snd

theorem historyOf_self (i : ι) (log : List (ι × Event S)) (e : Event S) :
    historyOf i (log ++ [(i, e)]) = historyOf i log ++ [e] := by
  simp [historyOf]

theorem historyOf_other {i j : ι} (h : j ≠ i) (log : List (ι × Event S)) (e : Event S) :
    historyOf i (log ++ [(j, e)]) = historyOf i log := by
  simp [historyOf, h]

/-- Leaving out other programs does not change the history of one. -/
theorem historyOf_filter {keep : ι → Bool} {i : ι} (hi : keep i = true) (log : List (ι × Event S)) :
    historyOf i (log.filter fun e => keep e.1) = historyOf i log := by
  unfold historyOf
  rw [List.filter_filter]
  congr 1
  apply List.filter_congr
  intro e _
  by_cases he : e.1 = i
  · simp [he, hi]
  · simp [he]

theorem mem_historyOf {i : ι} {log : List (ι × Event S)} {e : Event S} (h : (i, e) ∈ log) :
    e ∈ historyOf i log :=
  List.mem_map.mpr ⟨(i, e), List.mem_filter.mpr ⟨h, by simp⟩, rfl⟩

omit [DecidableEq ι] in
/-- Events that leave the state alone can be left out. -/
theorem accepts_filter {M : Machine S σ} {keep : ι × Event S → Bool} {log : List (ι × Event S)}
    (hidle : ∀ e ∈ log, keep e = false → ∀ s s', M.step e.2.op s e.2.answer s' → s' = s) {s s' : σ}
    (h : M.Accepts s (log.map Prod.snd) s') :
    M.Accepts s ((log.filter keep).map Prod.snd) s' := by
  induction log generalizing s with
  | nil => exact h
  | cons e log ih =>
    have hrest := fun s => ih (fun e' he' => hidle e' (List.mem_cons_of_mem _ he')) (s := s)
    obtain ⟨s₁, hstep, h⟩ := h
    rw [List.filter_cons]
    by_cases hkeep : keep e = true
    · rw [if_pos hkeep]
      exact ⟨s₁, hstep, hrest s₁ h⟩
    · rw [if_neg hkeep]
      have hsame := hidle e List.mem_cons_self (Bool.eq_false_iff.mpr hkeep) s s₁ hstep
      rw [hsame] at h
      exact hrest s h

end Recorded

/-! ## 3. Rely and guarantee -/

/-- What programs that share a state agree on: an invariant, what each of them relies on while the
    others run, and where it may perform what. -/
structure Sharing (M : ι → Machine S σ) where
  inv : σ → Prop
  rely : ι → σ → σ → Prop
  may : ι → S.Op → σ → Prop
  refl : ∀ i s, rely i s s
  trans : ∀ i s₁ s₂ s₃, rely i s₁ s₂ → rely i s₂ s₃ → rely i s₁ s₃

namespace Sharing

variable {M : ι → Machine S σ} (R : Sharing M)

/-- The machine as one program sees it. -/
def view (i : ι) : Machine S σ where
  step o s a s' := ∃ s₁, R.rely i s s₁ ∧ R.inv s₁ ∧ (M i).step o s₁ a s'

/-- Wherever the others have left the state, the operation is allowed, keeps the invariant and stays
    within what they rely on. -/
def keeps (i : ι) (o : S.Op) (s : σ) : Prop :=
  ∀ s₁, R.rely i s s₁ → R.inv s₁ → R.may i o s₁ ∧
    ∀ a s', (M i).step o s₁ a s' → R.inv s' ∧ ∀ j, j ≠ i → R.rely j s₁ s'

variable [DecidableEq ι] {R} {ps₀ ps : ι → Prog S ε α} {s₀ s : σ} {Q : ι → Except ε α → σ → Prop}

/-- Programs that meet their contracts alone meet them side by side. -/
theorem sound (hinv : R.inv s₀) (hps : ∀ i, (ps₀ i).Meets (R.view i) (R.keeps i) (Q i) s₀)
    (run : Interleaved M ps₀ s₀ ps s) :
    R.inv s ∧ ∀ i, ∃ sᵢ, R.rely i sᵢ s ∧ (ps i).Meets (R.view i) (R.keeps i) (Q i) sᵢ := by
  induction run with
  | start => exact ⟨hinv, fun i => ⟨s₀, R.refl i s₀, hps i⟩⟩
  | @step ps s s' i o k a _ hi hstep ih =>
    rcases ih with ⟨hs, hall⟩
    rcases hall i with ⟨sᵢ, hrely, hmeets⟩
    rw [hi] at hmeets
    have hkept := (hmeets.1 s hrely hs).2 a s' hstep
    refine ⟨hkept.1, fun j => ?_⟩
    by_cases hj : j = i
    · -- The program that moved goes on from its own step.
      subst hj
      refine ⟨s', R.refl j s', ?_⟩
      rw [Function.update_self]
      exact hmeets.2 a s' ⟨s, hrely, hs, hstep⟩
    · rcases hall j with ⟨sⱼ, hrelyⱼ, hmeetsⱼ⟩
      refine ⟨sⱼ, R.trans j sⱼ s s' hrelyⱼ (hkept.2 j hj), ?_⟩
      rw [Function.update_of_ne hj]
      exact hmeetsⱼ

end Sharing

/-! ## 4. Ending -/

section Ending
variable [DecidableEq ι] {M : ι → Machine S σ}

/-- One operation of one program. -/
def Turn (M : ι → Machine S σ) (c c' : (ι → Prog S ε α) × σ) : Prop :=
  ∃ i o k a, c.1 i = .call o k ∧ (M i).step o c.2 a c'.2 ∧ c'.1 = Function.update c.1 i (k a)

/-- What is left of a program after its first operation. -/
def Prog.Rest (p' p : Prog S ε α) : Prop := ∃ o k a, p = .call o k ∧ p' = k a

theorem Prog.rest_wellFounded : WellFounded (Prog.Rest (S := S) (ε := ε) (α := α)) := by
  refine ⟨fun p => ?_⟩
  induction p with
  | ret a => exact ⟨_, fun _ h => by rcases h with ⟨_, _, _, h, -⟩; exact nomatch h⟩
  | throw e => exact ⟨_, fun _ h => by rcases h with ⟨_, _, _, h, -⟩; exact nomatch h⟩
  | call o k ih =>
    refine ⟨_, fun p' h => ?_⟩
    rcases h with ⟨o', k', a, h, rfl⟩
    cases h
    exact ih a

/-- Finitely many programs cannot take turns for ever. -/
theorem turn_wellFounded [Finite ι] :
    WellFounded fun c' c : (ι → Prog S ε α) × σ => Turn M c c' := by
  have hlex : WellFounded (Pi.Lex (WellOrderingRel (α := ι)) fun {_} p' p =>
      Prog.Rest (S := S) (ε := ε) (α := α) p' p) :=
    Pi.Lex.wellFounded _ fun _ => Prog.rest_wellFounded
  refine Subrelation.wf ?_ (InvImage.wf Prod.fst hlex)
  intro c' c h
  rcases h with ⟨i, o, k, a, hi, -, hnext⟩
  refine ⟨i, fun j hj => ?_, o, k, a, hi, ?_⟩
  · rw [hnext, Function.update_of_ne]
    intro heq
    subst heq
    exact irrefl_of WellOrderingRel j hj
  · rw [hnext, Function.update_self]

end Ending

/-! ## 5. Programs in turn -/

namespace Prog

/-- Run programs one after another, whatever each of them ends with. -/
def inTurn (f : ι → Prog S ε α) : List ι → Prog S ε Unit
  | [] => .ret ()
  | i :: rest => do
    let _ ← ((f i).attempt : Prog S ε (Except ε α))
    inTurn f rest

theorem meets_inTurn {M : Machine S σ} {ok : S.Op → σ → Prop} {f : ι → Prog S ε α} {J : σ → Prop}
    (hf : ∀ i s, J s → (f i).Meets M ok (fun _ => J) s) (is : List ι) {s : σ} (hs : J s) :
    (inTurn f is).Meets M ok (fun _ => J) s := by
  induction is generalizing s with
  | nil => exact hs
  | cons i rest ih => exact (hf i s hs).attempt_bind fun _ s hs => ih hs

end Prog

end JibitSdk.Reasoning
