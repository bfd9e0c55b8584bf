import JibitSdk.Reasoning.Program

/-!
# Two programs in step

Two programs are *coupled* when they perform their operations in step: an onlooker sees the same of
each pair of operations, as long as the answers before it agreed.  Operations and answers themselves
may differ on the two sides.
-/

namespace JibitSdk.Reasoning

variable {S : Signature} {O ε α α' β β' : Type}

/-- What is seen of an operation, and which answers to two operations agree. -/
structure Onlooker (S : Signature) (O : Type) where
  see : S.Op → Option O
  agree : (o o' : S.Op) → S.Answer o → S.Answer o' → Prop

namespace Onlooker

variable (L : Onlooker S O)

/-- What is seen of a trace. -/
def seen (tr : List (Event S)) : List O := tr.filterMap fun ev => L.see ev.op

/-- The answers of two traces agree, position by position. -/
def InStep : List (Event S) → List (Event S) → Prop
  | ev :: tr, ev' :: tr' => L.agree ev.op ev'.op ev.answer ev'.answer ∧ InStep tr tr'
  | _, _ => True

variable {L}

theorem inStep_of_forall {tr tr' : List (Event S)}
    (h : ∀ ev ∈ tr, ∀ ev' ∈ tr', L.agree ev.op ev'.op ev.answer ev'.answer) : L.InStep tr tr' := by
  induction tr generalizing tr' with
  | nil => exact trivial
  | cons ev tr ih => cases tr' with
    | nil => exact trivial
    | cons ev' tr' =>
      refine ⟨h ev List.mem_cons_self ev' List.mem_cons_self, ih fun e he e' he' => ?_⟩
      exact h e (List.mem_cons_of_mem ev he) e' (List.mem_cons_of_mem ev' he')

end Onlooker

/-- Related values, or the same exception. -/
def Outcomes (V : α → α' → Prop) : Except ε α → Except ε α' → Prop
  | .ok a, .ok a' => V a a'
  | .error e, .error e' => e = e'
  | _, _ => False

theorem Outcomes.rfl {V : α → α → Prop} (hV : ∀ a, V a a) (x : Except ε α) : Outcomes V x x := by
  cases x with
  | ok a => exact hV a
  | error e => exact Eq.refl e

theorem Outcomes.mono {V W : α → α' → Prop} {x : Except ε α} {x' : Except ε α'}
    (h : Outcomes V x x') (hVW : ∀ a a', V a a' → W a a') : Outcomes W x x' := by
  cases x <;> cases x'
  · exact h
  · exact h
  · exact h
  · exact hVW _ _ h

theorem Outcomes.bind {V : α → α' → Prop} {W : β → β' → Prop} {x : Except ε α} {x' : Except ε α'}
    {f : α → Except ε β} {f' : α' → Except ε β'} (h : Outcomes V x x')
    (hf : ∀ a a', V a a' → Outcomes W (f a) (f' a')) : Outcomes W (x >>= f) (x' >>= f') := by
  cases x <;> cases x'
  · exact h
  · exact h.elim
  · exact h.elim
  · exact hf _ _ h

namespace Prog

/-- The two programs perform operations of which the same is seen and go on in step from answers
    that agree, to related values or to the same exception. -/
inductive Coupled (L : Onlooker S O) (V : α → α' → Prop) : Prog S ε α → Prog S ε α' → Prop
  | ret {a : α} {a' : α'} (h : V a a') : Coupled L V (.ret a) (.ret a')
  | throw (e : ε) : Coupled L V (.throw e) (.throw e)
  | call {o o' : S.Op} {k : S.Answer o → Prog S ε α} {k' : S.Answer o' → Prog S ε α'}
      (hsee : L.see o = L.see o')
      (hk : ∀ a a', L.agree o o' a a' → Coupled L V (k a) (k' a')) :
      Coupled L V (.call o k) (.call o' k')

namespace Coupled

variable {L : Onlooker S O} {V : α → α' → Prop} {W : β → β' → Prop}

theorem ofExcept {x : Except ε α} {x' : Except ε α'} (h : Outcomes V x x') :
    Coupled L V (Prog.ofExcept x) (Prog.ofExcept x') := by
  cases x with
  | ok a => cases x' with
    | ok a' => exact .ret h
    | error e' => exact h.elim
  | error e => cases x' with
    | ok a' => exact h.elim
    | error e' =>
      cases h
      exact .throw e

theorem mono {p : Prog S ε α} {p' : Prog S ε α'} {V' : α → α' → Prop} (h : Coupled L V p p')
    (hV : ∀ a a', V a a' → V' a a') : Coupled L V' p p' := by
  induction h with
  | ret h => exact .ret (hV _ _ h)
  | throw e => exact .throw e
  | call hsee _ ih => exact .call hsee ih

theorem bind {p : Prog S ε α} {p' : Prog S ε α'} {f : α → Prog S ε β} {f' : α' → Prog S ε β'}
    (h : Coupled L V p p') (hf : ∀ a a', V a a' → Coupled L W (f a) (f' a')) :
    Coupled L W (p >>= f) (p' >>= f') := by
  induction h with
  | ret h => exact hf _ _ h
  | throw e => exact .throw e
  | call hsee _ ih => exact .call hsee ih

/-- A `try` statement on both sides. -/
theorem attempt_bind {ε' : Type} {p : Prog S ε' α} {p' : Prog S ε' α'}
    {f : Except ε' α → Prog S ε β} {f' : Except ε' α' → Prog S ε β'} (h : Coupled L V p p')
    (hok : ∀ a a', V a a' → Coupled L W (f (.ok a)) (f' (.ok a')))
    (herror : ∀ e, Coupled L W (f (.error e)) (f' (.error e))) :
    Coupled L W (p.attempt >>= f) (p'.attempt >>= f') := by
  induction h with
  | ret h => exact hok _ _ h
  | throw e => exact herror e
  | call hsee _ ih => exact .call hsee ih

/-- What is seen of two coupled runs, and how they end. -/
theorem run {p : Prog S ε α} {p' : Prog S ε α'} {tr tr' : List (Event S)} {r : Except ε α}
    {r' : Except ε α'} (h : Coupled L V p p') (hrun : p.Emits tr r) (hrun' : p'.Emits tr' r')
    (hstep : L.InStep tr tr') : L.seen tr = L.seen tr' ∧ Outcomes V r r' := by
  induction h generalizing tr tr' with
  | ret h =>
    obtain ⟨rfl, rfl⟩ := hrun
    obtain ⟨rfl, rfl⟩ := hrun'
    exact ⟨rfl, h⟩
  | throw e =>
    obtain ⟨rfl, rfl⟩ := hrun
    obtain ⟨rfl, rfl⟩ := hrun'
    exact ⟨rfl, rfl⟩
  | call hsee _ ih =>
    obtain ⟨a, rest, rfl, hrest⟩ := hrun
    obtain ⟨a', rest', rfl, hrest'⟩ := hrun'
    obtain ⟨hseen, hr⟩ := ih a a' hstep.1 hrest hrest' hstep.2
    refine ⟨?_, hr⟩
    unfold Onlooker.seen at hseen ⊢
    simp only [List.filterMap_cons, hsee, hseen]

end Coupled

/-- Handlers whose answers agree whatever is asked. -/
theorem inStep_exec {L : Onlooker S O} {σ σ' : Type} {h : (o : S.Op) → σ → S.Answer o × σ}
    {h' : (o : S.Op) → σ' → S.Answer o × σ'}
    (hagree : ∀ o o' s s', L.agree o o' (h o s).1 (h' o' s').1) (p : Prog S ε α) (p' : Prog S ε α')
    (s : σ) (s' : σ') : L.InStep (p.exec h s).1 (p'.exec h' s').1 := by
  apply Onlooker.inStep_of_forall
  intro ev hev ev' hev'
  obtain ⟨t, ht⟩ := exec_answer hev
  obtain ⟨t', ht'⟩ := exec_answer hev'
  rw [ht, ht']
  exact hagree _ _ t t'

/-- A program is coupled with itself when its operations get equal answers. -/
theorem Always.coupled {L : Onlooker S O} {P : S.Op → Prop} {Q : Except ε α → Prop} {p : Prog S ε α}
    (h : p.Always P Q) (hagree : ∀ o a a', P o → L.agree o o a a' → a = a') : Coupled L Eq p p := by
  induction p with
  | ret a => exact .ret rfl
  | throw e => exact .throw e
  | call o k ih =>
    refine .call rfl fun a a' ha => ?_
    cases hagree o a a' h.1 ha
    exact ih a (h.2 a)

end Prog

end JibitSdk.Reasoning
