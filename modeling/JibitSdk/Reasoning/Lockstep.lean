import JibitSdk.Reasoning.Program

/-!
# Two runs side by side

Two programs, each run against its own handler, are alike when an onlooker who sees part of the
events sees the same of both and their results are related.  The rules follow the programs' syntax:
both sides perform an operation, or one of them performs one that is not seen.
-/

namespace JibitSdk.Reasoning

variable {S : Signature} {σ₁ σ₂ O : Type}

/-- Two handlers, what is seen of an event, and what relates the states between two steps. -/
structure Twin (S : Signature) (σ₁ σ₂ O : Type) where
  left : (o : S.Op) → σ₁ → S.Answer o × σ₁
  right : (o : S.Op) → σ₂ → S.Answer o × σ₂
  see : Event S → Option O
  inv : σ₁ → σ₂ → Prop

namespace Twin

variable (T : Twin S σ₁ σ₂ O)

/-- Both sides perform an operation: the same is seen, and the answers are related. -/
def Steps (o₁ o₂ : S.Op) (A : S.Answer o₁ → S.Answer o₂ → Prop) : Prop :=
  ∀ s₁ s₂, T.inv s₁ s₂ →
    T.see ⟨o₁, (T.left o₁ s₁).1⟩ = T.see ⟨o₂, (T.right o₂ s₂).1⟩ ∧
    A (T.left o₁ s₁).1 (T.right o₂ s₂).1 ∧ T.inv (T.left o₁ s₁).2 (T.right o₂ s₂).2

/-- The left side performs an operation that is not seen. -/
def HiddenLeft (o : S.Op) : Prop :=
  ∀ s₁ s₂, T.inv s₁ s₂ → T.see ⟨o, (T.left o s₁).1⟩ = none ∧ T.inv (T.left o s₁).2 s₂

/-- The right side performs an operation that is not seen. -/
def HiddenRight (o : S.Op) : Prop :=
  ∀ s₁ s₂, T.inv s₁ s₂ → T.see ⟨o, (T.right o s₂).1⟩ = none ∧ T.inv s₁ (T.right o s₂).2

end Twin

namespace Prog

variable {ε ε' α α' β β' : Type}

/-! ## 1. Runs of composed programs -/

section Exec
variable {σ : Type} (h : (o : S.Op) → σ → S.Answer o × σ)

theorem exec_attempt_bind (p : Prog S ε' β) (f : Except ε' β → Prog S ε α) (s : σ) :
    (p.attempt >>= f).exec h s =
      ((p.exec h s).1 ++ ((f (p.exec h s).2.2).exec h (p.exec h s).2.1).1,
        ((f (p.exec h s).2.2).exec h (p.exec h s).2.1).2) := by
  induction p generalizing s with
  | ret b => rfl
  | throw e => rfl
  | call o k ih =>
    have hrest := ih (h o s).1 (h o s).2
    exact congrArg (fun out : List (Event S) × σ × Except ε α =>
      ((⟨o, (h o s).1⟩ : Event S) :: out.1, out.2)) hrest

/-- Sequencing is a `try` statement that raises again. -/
theorem bind_eq_attempt_bind (p : Prog S ε β) (f : β → Prog S ε α) :
    (p >>= f) = (p.attempt >>= fun r : Except ε β =>
      match r with
      | .ok b => f b
      | .error e => (throw e : Prog S ε α)) := by
  induction p with
  | ret b => rfl
  | throw e => rfl
  | call o k ih =>
    show Prog.call o _ = Prog.call o _
    exact congrArg (Prog.call o) (funext fun a => ih a)

end Exec

/-! ## 2. Programs that are alike -/

variable {T : Twin S σ₁ σ₂ O}

/-- From related states the onlooker sees the same, the states stay related, and the results are. -/
def Alike (T : Twin S σ₁ σ₂ O) (R : Except ε α → Except ε' β → Prop) (p₁ : Prog S ε α)
    (p₂ : Prog S ε' β) : Prop :=
  ∀ s₁ s₂, T.inv s₁ s₂ →
    (p₁.exec T.left s₁).1.filterMap T.see = (p₂.exec T.right s₂).1.filterMap T.see ∧
    T.inv (p₁.exec T.left s₁).2.1 (p₂.exec T.right s₂).2.1 ∧
    R (p₁.exec T.left s₁).2.2 (p₂.exec T.right s₂).2.2

section Rules
variable {R R' : Except ε α → Except ε' α' → Prop}

theorem Alike.ret {a : α} {a' : α'} (h : R (.ok a) (.ok a')) :
    Alike T R (.ret a) (.ret a') := fun _ _ hinv => ⟨rfl, hinv, h⟩

theorem Alike.throw {e : ε} {e' : ε'} (h : R (.error e) (.error e')) :
    Alike T R (.throw e) (.throw e') := fun _ _ hinv => ⟨rfl, hinv, h⟩

theorem Alike.ofExcept {x : Except ε α} {x' : Except ε' α'} (h : R x x') :
    Alike T R (.ofExcept x) (.ofExcept x') := by
  intro s₁ s₂ hinv
  cases x <;> cases x' <;> exact ⟨rfl, hinv, h⟩

theorem Alike.mono {p₁ : Prog S ε α} {p₂ : Prog S ε' α'} (h : Alike T R p₁ p₂)
    (hR : ∀ r₁ r₂, R r₁ r₂ → R' r₁ r₂) : Alike T R' p₁ p₂ := by
  intro s₁ s₂ hinv
  obtain ⟨hseen, hinv', hr⟩ := h s₁ s₂ hinv
  exact ⟨hseen, hinv', hR _ _ hr⟩

/-- Both sides perform an operation. -/
theorem Alike.call {o₁ o₂ : S.Op} {A : S.Answer o₁ → S.Answer o₂ → Prop} (hstep : T.Steps o₁ o₂ A)
    {k₁ : S.Answer o₁ → Prog S ε α} {k₂ : S.Answer o₂ → Prog S ε' α'}
    (hk : ∀ a₁ a₂, A a₁ a₂ → Alike T R (k₁ a₁) (k₂ a₂)) :
    Alike T R (.call o₁ k₁) (.call o₂ k₂) := by
  intro s₁ s₂ hinv
  obtain ⟨hsee, hA, hinv'⟩ := hstep s₁ s₂ hinv
  obtain ⟨hseen, hend, hr⟩ := hk _ _ hA _ _ hinv'
  refine ⟨?_, hend, hr⟩
  simp only [exec, List.filterMap_cons, hsee, hseen]

theorem Alike.hiddenLeft {o : S.Op} (hstep : T.HiddenLeft o) {k : S.Answer o → Prog S ε α}
    {p : Prog S ε' α'} (hk : ∀ a, Alike T R (k a) p) : Alike T R (.call o k) p := by
  intro s₁ s₂ hinv
  obtain ⟨hsee, hinv'⟩ := hstep s₁ s₂ hinv
  obtain ⟨hseen, hend, hr⟩ := hk _ _ _ hinv'
  refine ⟨?_, hend, hr⟩
  simp only [exec, List.filterMap_cons, hsee]
  exact hseen

theorem Alike.hiddenRight {o : S.Op} (hstep : T.HiddenRight o) {k : S.Answer o → Prog S ε' α'}
    {p : Prog S ε α} (hk : ∀ a, Alike T R p (k a)) : Alike T R p (.call o k) := by
  intro s₁ s₂ hinv
  obtain ⟨hsee, hinv'⟩ := hstep s₁ s₂ hinv
  obtain ⟨hseen, hend, hr⟩ := hk _ _ _ hinv'
  refine ⟨?_, hend, hr⟩
  simp only [exec, List.filterMap_cons, hsee]
  exact hseen

/-- A `try` statement on both sides. -/
theorem Alike.attempt_bind {ε₁ ε₂ : Type} {p₁ : Prog S ε₁ β} {p₂ : Prog S ε₂ β'}
    {Q : Except ε₁ β → Except ε₂ β' → Prop} (hp : Alike T Q p₁ p₂)
    {f₁ : Except ε₁ β → Prog S ε α} {f₂ : Except ε₂ β' → Prog S ε' α'}
    (hf : ∀ r₁ r₂, Q r₁ r₂ → Alike T R (f₁ r₁) (f₂ r₂)) :
    Alike T R (p₁.attempt >>= f₁) (p₂.attempt >>= f₂) := by
  intro s₁ s₂ hinv
  obtain ⟨hseen, hmid, hQ⟩ := hp s₁ s₂ hinv
  obtain ⟨hseen', hend, hr⟩ := hf _ _ hQ _ _ hmid
  rw [exec_attempt_bind, exec_attempt_bind]
  refine ⟨?_, hend, hr⟩
  rw [List.filterMap_append, List.filterMap_append, hseen, hseen']

end Rules

/-! ## 3. One program on both sides -/

/-- Equal results. -/
theorem Alike.bind_eq {p₁ p₂ : Prog S ε β} (hp : Alike T Eq p₁ p₂) {f₁ f₂ : β → Prog S ε α}
    (hf : ∀ b, Alike T Eq (f₁ b) (f₂ b)) : Alike T Eq (p₁ >>= f₁) (p₂ >>= f₂) := by
  rw [bind_eq_attempt_bind p₁, bind_eq_attempt_bind p₂]
  refine hp.attempt_bind fun r₁ r₂ hr => ?_
  cases hr
  cases r₁ with
  | ok b => exact hf b
  | error e => exact .throw rfl

/-- A program whose operations are all answered alike runs alike. -/
theorem Always.alike {P : S.Op → Prop} {Q : Except ε α → Prop} {p : Prog S ε α} (h : p.Always P Q)
    (hstep : ∀ o, P o → T.Steps o o Eq) : Alike T Eq p p := by
  induction p with
  | ret a => exact .ret rfl
  | throw e => exact .throw rfl
  | call o k ih =>
    refine Alike.call (hstep o h.1) fun a₁ a₂ ha => ?_
    cases ha
    exact ih a₁ (h.2 a₁)

end Prog

end JibitSdk.Reasoning
