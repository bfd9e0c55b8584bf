import JibitSdk.Reasoning.Threads

/-!
# Methods without a lock

Threads call the methods of an object, and the single operations of the methods interleave.  Where
every method keeps its promise whatever the other threads do in between, a thread learns no more
than the promises: its whole run is one of calls that are answered as promised.
-/

namespace JibitSdk.Reasoning

variable {S H : Signature} {ε ε' α ι σ : Type}

/-! ## 1. Calls -/

/-- The signature of methods with these results; a call may raise. -/
abbrev methods (Op : Type) (R : Op → Type) (ε' : Type) : Signature := ⟨Op, fun o => Except ε' (R o)⟩

namespace Prog

section Through
variable {Op : Type} {R : Op → Type}

/-- Replace every method call by its body. -/
def through (body : (o : Op) → Prog S ε' (R o)) : Prog (methods Op R ε') ε α → Prog S ε α
  | .ret a => .ret a
  | .throw e => .throw e
  | .call o k => (body o).attempt >>= fun r => through body (k r)

/-- A program whose calls are answered as promised, its methods replaced by their bodies. -/
theorem through_meets {body : (o : Op) → Prog S ε' (R o)} {M : Machine S σ} {ok : S.Op → σ → Prop}
    {J : σ → Prop} {promised : (o : Op) → Except ε' (R o) → Prop} {p : Prog (methods Op R ε') ε α}
    {calls : Op → Prop} (hp : p.Only calls)
    (hbody : ∀ o s, calls o → J s → (body o).Meets M ok (fun r t => promised o r ∧ J t) s)
    {s : σ} (hs : J s) :
    (p.through body).Meets M ok (fun r t => (∃ tr, p.Emits tr r ∧
      ∀ ev ∈ tr, promised ev.op ev.answer) ∧ J t) s := by
  induction p generalizing s with
  | ret a => exact ⟨⟨[], ⟨rfl, rfl⟩, fun _ h => absurd h List.not_mem_nil⟩, hs⟩
  | throw e => exact ⟨⟨[], ⟨rfl, rfl⟩, fun _ h => absurd h List.not_mem_nil⟩, hs⟩
  | call o k ih =>
    refine (hbody o s hp.1 hs).attempt_bind fun r t ht => ?_
    refine (ih r (hp.2 r) ht.2).mono fun r' t' ht' => ?_
    rcases ht' with ⟨⟨tr, htr, hkept⟩, hJ⟩
    refine ⟨⟨⟨o, r⟩ :: tr, ⟨r, tr, rfl, htr⟩, ?_⟩, hJ⟩
    intro ev hev
    rcases List.mem_cons.mp hev with rfl | hev
    · exact ht.1
    · exact hkept ev hev

end Through

/-- The result of a program whose calls are answered by a function. -/
def eval (f : (o : H.Op) → H.Answer o) : Prog H ε α → Except ε α
  | .ret a => .ok a
  | .throw e => .error e
  | .call o k => (k (f o)).eval f

theorem eval_of_emits {f : (o : H.Op) → H.Answer o} {p : Prog H ε α} {tr : List (Event H)}
    {r : Except ε α} (h : p.Emits tr r) (hf : ∀ ev ∈ tr, ev.answer = f ev.op) : r = p.eval f := by
  induction p generalizing tr with
  | ret a => exact h.2
  | throw e => exact h.2
  | call o k ih =>
    rcases h with ⟨a, tr', rfl, h⟩
    have ha : a = f o := hf ⟨o, a⟩ List.mem_cons_self
    rw [eval, ← ha]
    exact ih a h fun ev hev => hf ev (List.mem_cons_of_mem _ hev)

theorem Only.of_forall {P : S.Op → Prop} (h : ∀ o, P o) (p : Prog S ε α) : p.Only P := by
  induction p with
  | ret a => trivial
  | throw e => trivial
  | call o k ih => exact ⟨h o, ih⟩

/-- What the operations of a program leave alone still holds when it ends. -/
theorem Meets.frame {p : Prog S ε α} {M : Machine S σ} {ok : S.Op → σ → Prop}
    {Q : Except ε α → σ → Prop}
    {P : S.Op → Prop} {I : σ → Prop} {s : σ} (h : p.Meets M ok Q s) (hp : p.Only P)
    (hstep : ∀ o s a s', P o → I s → M.step o s a s' → I s') (hs : I s) :
    p.Meets M ok (fun r t => Q r t ∧ I t) s := by
  induction p generalizing s with
  | ret a => exact ⟨h, hs⟩
  | throw e => exact ⟨h, hs⟩
  | call o k ih =>
    exact ⟨h.1, fun a s' ha => ih a (h.2 a s' ha) (hp.2 a) (hstep o s a s' hp.1 hs ha)⟩

/-- What a thread has returned or raised, once it has. -/
def outcome : Prog S ε α → Option (Except ε α)
  | .ret a => some (.ok a)
  | .throw e => some (.error e)
  | .call _ _ => none

theorem Meets.outcome {p : Prog S ε α} {M : Machine S σ} {ok : S.Op → σ → Prop}
    {Q : Except ε α → σ → Prop} {s : σ} (h : p.Meets M ok Q s) {r : Except ε α}
    (hr : p.outcome = some r) :
    Q r s := by
  cases p with
  | ret a =>
    cases hr
    exact h
  | throw e =>
    cases hr
    exact h
  | call o k => cases hr

end Prog

/-! ## 2. Threads -/

section Threads
variable [DecidableEq ι] {Op : Type} {R : Op → Type} {M : ι → Machine S σ} {A : Sharing M}
  {body : (o : Op) → Prog S ε' (R o)} {promised : (o : Op) → Except ε' (R o) → Prop}
  {J : ι → σ → Prop}
  {calls : ι → Op → Prop} {ps₀ : ι → Prog (methods Op R ε') ε α} {s₀ s : σ} {ps : ι → Prog S ε α}

/-- Every interleaving of threads over methods that keep their promises: the common invariant holds,
    and each thread that has ended has seen promised answers only. -/
theorem promises_kept
    (hbody : ∀ i o s, calls i o → J i s →
      (body o).Meets (A.view i) (A.keeps i) (fun r t => promised o r ∧ J i t) s)
    (hcalls : ∀ i, (ps₀ i).Only (calls i)) (hinv : A.inv s₀) (hstart : ∀ i, J i s₀)
    (run : Interleaved M (fun i => (ps₀ i).through body) s₀ ps s) :
    A.inv s ∧ ∀ i r, (ps i).outcome = some r → ∃ t, A.rely i t s ∧ J i t ∧
      ∃ tr, (ps₀ i).Emits tr r ∧ ∀ ev ∈ tr, promised ev.op ev.answer := by
  have hmeets (i : ι) := Prog.through_meets (hcalls i) (fun o s => hbody i o s) (hstart i)
  have hsound := Sharing.sound hinv hmeets run
  refine ⟨hsound.1, fun i r hr => ?_⟩
  rcases hsound.2 i with ⟨t, hrely, hleft⟩
  have hend := hleft.outcome hr
  exact ⟨t, hrely, hend.2, hend.1⟩

end Threads

/-! ## 3. Memo tables -/

section Memo
variable {κ β : Type} [DecidableEq κ] {f : κ → Except ε β} {m : κ → Option β} {k k' : κ} {v : β}

/-- The entries of a table are results of the function. -/
def Memoises (f : κ → Except ε β) (m : κ → Option β) : Prop :=
  ∀ k v, m k = some v → f k = .ok v

theorem Memoises.update (hm : Memoises f m) (hv : f k = .ok v) :
    Memoises f (Function.update m k (some v)) := by
  intro k' v' hentry
  by_cases hk : k' = k
  · rw [hk, Function.update_self] at hentry
    rw [hk, hv, Option.some.inj hentry]
  · rw [Function.update_of_ne hk] at hentry
    exact hm k' v' hentry

theorem isSome_update (h : (m k').isSome = true) :
    (Function.update m k (some v) k').isSome = true := by
  by_cases hk : k' = k
  · rw [hk, Function.update_self]
    rfl
  · rw [Function.update_of_ne hk]
    exact h

end Memo

end JibitSdk.Reasoning
