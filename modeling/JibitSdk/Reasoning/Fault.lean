import JibitSdk.Reasoning.Program

/-!
# Runs that fail because of an event

A program *blames* its events when each of its runs ends in a failure exactly if some event of the
run is at fault.  Runs are judged inside a domain of events, which leaves out what is not under
consideration.
-/

namespace JibitSdk.Reasoning.Prog

variable {S : Signature} {ε ε' α β : Type}

/-- Which events are considered, which of those are good, and which exceptions are failures. -/
structure Judgement (S : Signature) (ε : Type) where
  inDomain : Event S → Prop
  good : Event S → Prop
  failure : ε → Prop

variable {J : Judgement S ε}

/-- The run ended in a failure. -/
def Judgement.Failed (J : Judgement S ε) (r : Except ε α) : Prop := ∃ e, r = .error e ∧ J.failure e

/-- A run fails exactly when some event of it is not good. -/
def Blames (J : Judgement S ε) (p : Prog S ε α) : Prop :=
  ∀ tr r, p.Emits tr r → (∀ ev ∈ tr, J.inDomain ev) → (J.Failed r ↔ ∃ ev ∈ tr, ¬ J.good ev)

/-- Every run fails. -/
def Fails (J : Judgement S ε) (p : Prog S ε α) : Prop :=
  ∀ tr r, p.Emits tr r → (∀ ev ∈ tr, J.inDomain ev) → J.Failed r

theorem Blames.ret (a : α) : Blames J (.ret a : Prog S ε α) := by
  rintro tr r ⟨rfl, rfl⟩ -
  constructor
  · rintro ⟨e, he, -⟩
    exact nomatch he
  · rintro ⟨ev, hev, -⟩
    exact absurd hev List.not_mem_nil

theorem Blames.throw {e : ε} (h : ¬ J.failure e) : Blames J (.throw e : Prog S ε α) := by
  rintro tr r ⟨rfl, rfl⟩ -
  constructor
  · rintro ⟨e', he, hfailure⟩
    cases he
    exact absurd hfailure h
  · rintro ⟨ev, hev, -⟩
    exact absurd hev List.not_mem_nil

theorem Fails.throw {e : ε} (h : J.failure e) : Fails J (.throw e : Prog S ε α) := by
  rintro tr r ⟨-, rfl⟩ -
  exact ⟨e, rfl, h⟩

/-- A good answer goes on, a bad one must end in a failure. -/
theorem Blames.call {o : S.Op} {k : S.Answer o → Prog S ε α}
    (hgood : ∀ a, J.inDomain ⟨o, a⟩ → J.good ⟨o, a⟩ → Blames J (k a))
    (hbad : ∀ a, J.inDomain ⟨o, a⟩ → ¬ J.good ⟨o, a⟩ → Fails J (k a)) : Blames J (.call o k) := by
  rintro tr r ⟨a, tr', rfl, h⟩ hdomain
  have hhead := hdomain _ List.mem_cons_self
  have htail : ∀ ev ∈ tr', J.inDomain ev := fun ev hev => hdomain ev (List.mem_cons_of_mem _ hev)
  by_cases ha : J.good ⟨o, a⟩
  · rw [hgood a hhead ha tr' r h htail]
    constructor
    · rintro ⟨ev, hev, hbad⟩
      exact ⟨ev, List.mem_cons_of_mem _ hev, hbad⟩
    · rintro ⟨ev, hev, hbad⟩
      rcases List.mem_cons.mp hev with rfl | hev
      · exact absurd ha hbad
      · exact ⟨ev, hev, hbad⟩
  · exact ⟨fun _ => ⟨_, List.mem_cons_self, ha⟩, fun _ => hbad a hhead ha tr' r h htail⟩

theorem Fails.call {o : S.Op} {k : S.Answer o → Prog S ε α}
    (h : ∀ a, J.inDomain ⟨o, a⟩ → Fails J (k a)) : Fails J (.call o k) := by
  rintro tr r ⟨a, tr', rfl, hk⟩ hdomain
  exact h a (hdomain _ List.mem_cons_self) tr' r hk fun ev hev =>
    hdomain ev (List.mem_cons_of_mem _ hev)

/-- A `try` statement whose clauses re-raise failures. -/
theorem Blames.attempt_bind {p : Prog S ε α} {f : Except ε α → Prog S ε β} (hp : Blames J p)
    (hf : ∀ x, ¬ J.Failed x → Blames J (f x)) (hfail : ∀ e, J.failure e → Fails J (f (.error e))) :
    Blames J (p.attempt >>= f) := by
  intro tr r h hdomain
  obtain ⟨x, tr₁, tr₂, rfl, h₁, h₂⟩ := emits_attempt_bind.mp h
  have hdomain₁ : ∀ ev ∈ tr₁, J.inDomain ev := fun ev hev => hdomain ev (List.mem_append_left _ hev)
  have hdomain₂ : ∀ ev ∈ tr₂, J.inDomain ev :=
    fun ev hev => hdomain ev (List.mem_append_right _ hev)
  have hfirst := hp tr₁ x h₁ hdomain₁
  by_cases hx : J.Failed x
  · obtain ⟨ev, hev, hbad⟩ := hfirst.mp hx
    obtain ⟨e, rfl, he⟩ := hx
    exact ⟨fun _ => ⟨ev, List.mem_append_left _ hev, hbad⟩, fun _ => hfail e he tr₂ r h₂ hdomain₂⟩
  · have hclean : ∀ ev ∈ tr₁, J.good ev := by
      intro ev hev
      by_contra hbad
      exact hx (hfirst.mpr ⟨ev, hev, hbad⟩)
    rw [hf x hx tr₂ r h₂ hdomain₂]
    constructor
    · rintro ⟨ev, hev, hbad⟩
      exact ⟨ev, List.mem_append_right _ hev, hbad⟩
    · rintro ⟨ev, hev, hbad⟩
      rcases List.mem_append.mp hev with hev | hev
      · exact absurd (hclean ev hev) hbad
      · exact ⟨ev, hev, hbad⟩

theorem Blames.bind {p : Prog S ε α} {f : α → Prog S ε β} (hp : Blames J p)
    (hf : ∀ a, Blames J (f a)) : Blames J (p >>= f) := by
  intro tr r h hdomain
  rcases emits_bind.mp h with ⟨a, tr₁, tr₂, rfl, h₁, h₂⟩ | ⟨e, h₁, rfl⟩
  · have hdomain₁ : ∀ ev ∈ tr₁, J.inDomain ev :=
      fun ev hev => hdomain ev (List.mem_append_left _ hev)
    have hdomain₂ : ∀ ev ∈ tr₂, J.inDomain ev := fun ev hev =>
      hdomain ev (List.mem_append_right _ hev)
    have hclean : ∀ ev ∈ tr₁, J.good ev := by
      intro ev hev
      by_contra hbad
      obtain ⟨e, he, -⟩ := (hp tr₁ _ h₁ hdomain₁).mpr ⟨ev, hev, hbad⟩
      exact nomatch he
    rw [hf a tr₂ r h₂ hdomain₂]
    constructor
    · rintro ⟨ev, hev, hbad⟩
      exact ⟨ev, List.mem_append_right _ hev, hbad⟩
    · rintro ⟨ev, hev, hbad⟩
      rcases List.mem_append.mp hev with hev | hev
      · exact absurd (hclean ev hev) hbad
      · exact ⟨ev, hev, hbad⟩
  · rw [← hp tr _ h₁ hdomain]
    constructor
    · rintro ⟨e', he, hfailure⟩
      cases he
      exact ⟨e, rfl, hfailure⟩
    · rintro ⟨e', he, hfailure⟩
      cases he
      exact ⟨e, rfl, hfailure⟩

/-- A program of good events that raises no failure. -/
theorem Always.blames {P : S.Op → Prop} {Q : Except ε α → Prop} {p : Prog S ε α}
    (hp : p.Always P Q) (hgood : ∀ o a, P o → J.inDomain ⟨o, a⟩ → J.good ⟨o, a⟩)
    (hresult : ∀ r, Q r → ¬ J.Failed r) : Blames J p := by
  intro tr r h hdomain
  constructor
  · exact fun hfailed => absurd hfailed (hresult r (hp.result h))
  · rintro ⟨⟨o, a⟩, hev, hbad⟩
    exact absurd (hgood o a (hp.events h _ hev) (hdomain _ hev)) hbad

end JibitSdk.Reasoning.Prog
