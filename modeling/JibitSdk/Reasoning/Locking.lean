import JibitSdk.Reasoning.Protocol

/-!
# One resource at a time

Programs whose protocol lets them hold at most one resource at a time, and asks them to end with
empty hands, do not wait for each other for ever: whoever holds a resource can go on, and whoever
waits holds nothing.  Who owns what can be read off the histories.
-/

namespace JibitSdk.Reasoning

variable {S : Signature} {ε ε' α β ι σ R Q : Type}

/-! ## 1. Resources -/

/-- Which operations take a resource, for which it has to be free, and which give one back. -/
structure Locking (S : Signature) (R : Type) where
  takes : S.Op → Option R
  frees : S.Op → Option R

/-- The program has returned or raised. -/
def Prog.Ended (p : Prog S ε α) : Prop := ∃ r, p = Prog.ofExcept r

/-- A program that has not ended has an operation to perform. -/
theorem Prog.exists_call {p : Prog S ε α} (h : ¬ p.Ended) : ∃ o k, p = .call o k := by
  cases p with
  | ret a => exact absurd ⟨.ok a, rfl⟩ h
  | throw e => exact absurd ⟨.error e, rfl⟩ h
  | call o k => exact ⟨o, k, rfl⟩

namespace Locking

variable (L : Locking S R)

/-- Operations that have to do with no resource. -/
def Plain (o : S.Op) : Prop := L.takes o = none ∧ L.frees o = none

/-- What a program holds in each state of its protocol: it takes with empty hands, and gives back
    what it holds. -/
structure Hands (A : Protocol S Q) (hand : Q → Option R) : Prop where
  takes : ∀ {q o a q' r}, A.next q o a = some q' → L.takes o = some r →
    hand q = none ∧ hand q' = some r
  frees : ∀ {q o a q' r}, A.next q o a = some q' → L.frees o = some r →
    hand q = some r ∧ hand q' = none
  plain : ∀ {q o a q'}, A.next q o a = some q' → L.Plain o → hand q' = hand q

variable [DecidableEq R]

/-- Nothing but a resource that is taken makes a program wait, and nobody but its holder gives it
    back. -/
structure Guards (M : ι → Machine S σ) (owner : σ → R → Option ι) : Prop where
  goesOn : ∀ i o s, (∀ r, L.takes o = some r → owner s r = none) → ∃ a s', (M i).step o s a s'
  taken : ∀ {i o s a s' r}, L.takes o = some r → (M i).step o s a s' →
    owner s r = none ∧ owner s' = Function.update (owner s) r (some i)
  freed : ∀ {i o s a s' r}, L.frees o = some r → (M i).step o s a s' →
    owner s' = Function.update (owner s) r none
  kept : ∀ {i o s a s'}, L.Plain o → (M i).step o s a s' → owner s' = owner s

/-! ## 2. Owners -/

section Runs
variable [DecidableEq ι] {L} {M : ι → Machine S σ} {owner : σ → R → Option ι} {A : Protocol S Q}
  {hand : Q → Option R} {q₀ : Q} {ps₀ ps : ι → Prog S ε α} {s₀ : σ} {s : σ × List (ι × Event S)}

omit [DecidableEq R] in
/-- What a program holds after this history. -/
def handOf (A : Protocol S Q) (hand : Q → Option R) (q₀ : Q)
    (history : List (Event S)) : Option R :=
  (A.run q₀ history).bind hand

/-- Programs that follow the protocol and end with empty hands. -/
abbrev Careful (A : Protocol S Q) (hand : Q → Option R) (q₀ : Q) (ps : ι → Prog S ε α) : Prop :=
  ∀ i, (ps i).Follows A (fun _ q => hand q = none) q₀

/-- The owner of a resource is the program whose history says so. -/
theorem owner_iff_handOf (hM : L.Guards M owner) (hA : L.Hands A hand) (hq₀ : hand q₀ = none)
    (hfree : ∀ r, owner s₀ r = none) (hps : Careful A hand q₀ ps₀)
    (run : Interleaved (recorded M) ps₀ (s₀, []) ps s) (r : R) (i : ι) :
    owner s.1 r = some i ↔ handOf A hand q₀ (historyOf i s.2) = some r := by
  induction run generalizing r i with
  | start =>
    rw [hfree r, show handOf A hand q₀ (historyOf i []) = hand q₀ from rfl, hq₀]
    simp
  | @step ps s s' j o k a run hj hstep ih =>
    -- the states of the program that moves, before and after
    rcases follows_interleaved hps run j with ⟨q, hrun, hfollows⟩
    rw [hj] at hfollows
    rcases hfollows.call a with ⟨q', hnext, -⟩
    have hbefore : handOf A hand q₀ (historyOf j s.2) = hand q := by
      rw [handOf, hrun, Option.bind_some]
    have hafter : handOf A hand q₀ (historyOf j s'.2) = hand q' := by
      rw [handOf, hstep.2, historyOf_self, Protocol.run_concat, hrun, Option.bind_some, hnext,
        Option.bind_some]
    have hothers : i ≠ j →
        handOf A hand q₀ (historyOf i s'.2) = handOf A hand q₀ (historyOf i s.2) := by
      intro hij
      rw [hstep.2, historyOf_other (Ne.symm hij)]
    have howns : owner s.1 r = some j ↔ hand q = some r := by rw [ih r j, hbefore]
    cases htakes : L.takes o with
    | some r₀ =>
      have htaken := hM.taken htakes hstep.1
      have hhand := hA.takes hnext htakes
      rw [htaken.2]
      by_cases hr : r = r₀
      · rw [hr, Function.update_self]
        by_cases hij : i = j
        · rw [hij, hafter, hhand.2]
          simp
        · rw [hothers hij, ← ih r₀ i, htaken.1]
          simp [Ne.symm hij]
      · rw [Function.update_of_ne hr]
        by_cases hij : i = j
        · rw [hij, hafter, hhand.2, howns, hhand.1]
          simp [Ne.symm hr]
        · rw [hothers hij, ih r i]
    | none =>
      cases hfrees : L.frees o with
      | some r₀ =>
        have hfreed := hM.freed hfrees hstep.1
        have hhand := hA.frees hnext hfrees
        rw [hfreed]
        by_cases hr : r = r₀
        · rw [hr, Function.update_self]
          by_cases hij : i = j
          · rw [hij, hafter, hhand.2]
            simp
          · have hheld := (ih r₀ j).mpr (by rw [hbefore, hhand.1])
            rw [hothers hij, ← ih r₀ i, hheld]
            simp [Ne.symm hij]
        · rw [Function.update_of_ne hr]
          by_cases hij : i = j
          · rw [hij, hafter, hhand.2, howns, hhand.1]
            simp [Ne.symm hr]
          · rw [hothers hij, ih r i]
      | none =>
        rw [hM.kept ⟨htakes, hfrees⟩ hstep.1]
        by_cases hij : i = j
        · rw [hij, hafter, hA.plain hnext ⟨htakes, hfrees⟩, howns]
        · rw [hothers hij, ih r i]

/-- Once all programs have ended, nothing is held. -/
theorem free_of_ended (hM : L.Guards M owner) (hA : L.Hands A hand) (hq₀ : hand q₀ = none)
    (hfree : ∀ r, owner s₀ r = none) (hps : Careful A hand q₀ ps₀)
    (run : Interleaved (recorded M) ps₀ (s₀, []) ps s) (hended : ∀ i, (ps i).Ended) (r : R) :
    owner s.1 r = none := by
  apply Option.eq_none_iff_forall_ne_some.mpr
  intro i hi
  rw [owner_iff_handOf hM hA hq₀ hfree hps run] at hi
  rcases follows_interleaved hps run i with ⟨q, hrun, hfollows⟩
  rcases hended i with ⟨outcome, hend⟩
  rw [hend] at hfollows
  rw [handOf, hrun, Option.bind_some, Prog.meets_ofExcept.mp hfollows] at hi
  cases hi

/-! ## 3. No deadlock -/

section Waiting
variable [∀ o, Nonempty (S.Answer o)]

/-- Unless all programs have ended, one of them can go on. -/
theorem goes_on (hM : L.Guards M owner) (hA : L.Hands A hand) (hq₀ : hand q₀ = none)
    (hfree : ∀ r, owner s₀ r = none) (hps : Careful A hand q₀ ps₀)
    (run : Interleaved (recorded M) ps₀ (s₀, []) ps s) :
    (∀ i, (ps i).Ended) ∨ ∃ c, Turn (recorded M) (ps, s) c := by
  have moves {i : ι} {o : S.Op} {k : S.Answer o → Prog S ε α} (hi : ps i = .call o k)
      (hready : ∀ r, L.takes o = some r → owner s.1 r = none) :
      ∃ c, Turn (recorded M) (ps, s) c := by
    rcases hM.goesOn i o s.1 hready with ⟨a, s', hstep⟩
    exact ⟨(Function.update ps i (k a), s', s.2 ++ [(i, ⟨o, a⟩)]), i, o, k, a, hi,
      ⟨hstep, rfl⟩, rfl⟩
  by_cases hall : ∀ i, (ps i).Ended
  · exact .inl hall
  · right
    rcases not_forall.mp hall with ⟨i, hi⟩
    rcases Prog.exists_call hi with ⟨o, k, hcall⟩
    by_cases hready : ∀ r, L.takes o = some r → owner s.1 r = none
    · exact moves hcall hready
    · -- the holder of what `i` waits for does not wait itself
      simp only [not_forall] at hready
      rcases hready with ⟨r, -, htaken⟩
      rcases Option.ne_none_iff_exists'.mp htaken with ⟨j, hj⟩
      rw [owner_iff_handOf hM hA hq₀ hfree hps run] at hj
      rcases follows_interleaved hps run j with ⟨q, hrun, hfollows⟩
      rw [handOf, hrun, Option.bind_some] at hj
      cases hnext : ps j with
      | ret a =>
        rw [hnext] at hfollows
        rw [show hand q = none from hfollows] at hj
        cases hj
      | throw e =>
        rw [hnext] at hfollows
        rw [show hand q = none from hfollows] at hj
        cases hj
      | call o' k' =>
        rw [hnext] at hfollows
        apply moves hnext
        intro r' htakes
        rcases hfollows.call (Classical.choice inferInstance) with ⟨q', hstep, -⟩
        rw [(hA.takes hstep htakes).1] at hj
        cases hj

/-- However finitely many programs have taken turns so far, they can go on to the end. -/
theorem finishes [Finite ι] (hM : L.Guards M owner) (hA : L.Hands A hand) (hq₀ : hand q₀ = none)
    (hfree : ∀ r, owner s₀ r = none) (hps : Careful A hand q₀ ps₀)
    (run : Interleaved (recorded M) ps₀ (s₀, []) ps s) :
    ∃ ps' s', Interleaved (recorded M) ps₀ (s₀, []) ps' s' ∧ ∀ i, (ps' i).Ended := by
  -- by induction on what is left to perform
  suffices hall : ∀ c : (ι → Prog S ε α) × (σ × List (ι × Event S)),
      Interleaved (recorded M) ps₀ (s₀, []) c.1 c.2 →
        ∃ ps' s', Interleaved (recorded M) ps₀ (s₀, []) ps' s' ∧ ∀ i, (ps' i).Ended from
    hall (ps, s) run
  intro c
  induction c using (turn_wellFounded (M := recorded M)).induction with
  | h c ih =>
    intro hc
    rcases goes_on hM hA hq₀ hfree hps hc with hended | ⟨c', hturn⟩
    · exact ⟨c.1, c.2, hc, hended⟩
    · apply ih c' hturn
      rcases hturn with ⟨i, o, k, a, hi, hstep, hnext⟩
      rw [hnext]
      exact hc.step hi hstep

end Waiting

end Runs

end Locking

end JibitSdk.Reasoning
