import JibitSdk.Reasoning.Contract

/-!
# Histories

Properties of every event of a log in the light of the events before it, and runs of one program
after another over the same world, with the log split where one ends and the next begins.
-/

namespace JibitSdk.Reasoning

/-! ## 1. Logs -/

section Logs
variable {E : Type}

/-- Every event of the log is as `P` asks, given the events before it. -/
def Along (P : List E → E → Prop) (log : List E) : Prop :=
  ∀ before e after, log = before ++ e :: after → P before e

theorem along_nil (P : List E → E → Prop) : Along P [] := by
  intro before e after h
  exact absurd h.symm (List.append_ne_nil_of_right_ne_nil before (List.cons_ne_nil e after))

/-- A log grows at its end. -/
theorem along_concat {P : List E → E → Prop} {log : List E} {e : E} :
    Along P (log ++ [e]) ↔ Along P log ∧ P log e := by
  constructor
  · intro h
    refine ⟨fun before e' after heq => ?_, h log e [] rfl⟩
    apply h before e' (after ++ [e])
    rw [heq, List.append_assoc, List.cons_append]
  · intro h before e' after heq
    rcases List.eq_nil_or_concat after with rfl | ⟨after, last, rfl⟩
    · -- The event is the new one.
      have hlast := List.append_inj' heq rfl
      rw [← hlast.1, ← (List.cons.inj hlast.2).1]
      exact h.2
    · -- The event was there before.
      have hsplit : log ++ [e] = (before ++ e' :: after) ++ [last] := by
        rw [heq]
        simp only [List.concat_eq_append, List.append_assoc, List.cons_append]
      exact h.1 before e' after (List.append_inj' hsplit rfl).1

theorem along_iff_get {P : List E → E → Prop} {log : List E} :
    Along P log ↔ ∀ k : Fin log.length, P (log.take k) (log.get k) := by
  constructor
  · intro h k
    apply h _ _ (log.drop (k + 1))
    rw [List.get_eq_getElem, ← List.drop_eq_getElem_cons, List.take_append_drop]
  · intro h before e after heq
    subst heq
    have hk := h ⟨before.length, by simp⟩
    rw [List.get_eq_getElem, List.take_left, List.getElem_append_right (Nat.le_refl _)] at hk
    simpa using hk

instance {P : List E → E → Prop} [∀ before e, Decidable (P before e)] (log : List E) :
    Decidable (Along P log) :=
  decidable_of_iff _ along_iff_get.symm

theorem Along.mono {P P' : List E → E → Prop} {log : List E} (h : Along P log)
    (hP : ∀ before e, P before e → P' before e) : Along P' log :=
  fun before e after heq => hP before e (h before e after heq)

theorem along_and {P P' : List E → E → Prop} {log : List E} :
    Along (fun before e => P before e ∧ P' before e) log ↔ Along P log ∧ Along P' log :=
  ⟨fun h => ⟨h.mono fun _ _ => And.left, h.mono fun _ _ => And.right⟩,
    fun h before e after heq => ⟨h.1 before e after heq, h.2 before e after heq⟩⟩

/-- Two properties that amount to the same wherever a third holds. -/
theorem Along.congr {P P' R : List E → E → Prop} {log : List E} (h : Along R log)
    (hP : ∀ before e, R before e → (P before e ↔ P' before e)) : Along P log ↔ Along P' log :=
  ⟨fun hlog before e after heq => (hP before e (h before e after heq)).mp (hlog before e after heq),
    fun hlog before e after heq =>
      (hP before e (h before e after heq)).mpr (hlog before e after heq)⟩

end Logs

/-! ## 2. One program after another -/

section Sessions
variable {S : Signature} {ε α ι σ : Type}

namespace Prog

/-- Run a list of programs one after another, whatever each of them ends with; the events of each
    are kept apart. -/
def runs (h : (o : S.Op) → σ → S.Answer o × σ) (f : ι → Prog S ε α) :
    List ι → σ → List (ι × List (Event S)) × σ
  | [], s => ([], s)
  | i :: rest, s =>
    let run := (f i).exec h s
    let later := runs h f rest run.2.1
    ((i, run.1) :: later.1, later.2)

/-- The whole log of such a run. -/
def wholeLog (parts : List (ι × List (Event S))) : List (Event S) := parts.flatMap (·.2)

/-- What each program preserves, given the log so far and provided its own events are as `C` asks,
    holds after all of them. -/
theorem runs_preserve {h : (o : S.Op) → σ → S.Answer o × σ} {f : ι → Prog S ε α}
    {J : σ → List (Event S) → Prop} {C : ι → List (Event S) → Prop}
    (hstep : ∀ i s log, J s log → C i ((f i).exec h s).1 →
      J ((f i).exec h s).2.1 (log ++ ((f i).exec h s).1))
    (is : List ι) {s : σ} {log : List (Event S)} (hs : J s log)
    (hC : ∀ part ∈ (runs h f is s).1, C part.1 part.2) :
    J (runs h f is s).2 (log ++ wholeLog (runs h f is s).1) := by
  induction is generalizing s log with
  | nil =>
    rw [show log ++ wholeLog (runs h f [] s).1 = log from List.append_nil log]
    exact hs
  | cons i rest ih =>
    have hnext := hstep i s log hs (hC _ List.mem_cons_self)
    have hrest := ih hnext fun part hpart => hC part (List.mem_cons_of_mem _ hpart)
    rw [List.append_assoc] at hrest
    exact hrest

/-- A contract over the logged machine of a handler is one over its runs and their events. -/
theorem Meets.exec_logged {h : (o : S.Op) → σ → S.Answer o × σ} {p : Prog S ε α}
    {ok : S.Op → σ × List (Event S) → Prop} {Q : Except ε α → σ × List (Event S) → Prop} {s : σ}
    {log : List (Event S)} (hp : p.Meets (Machine.ofHandler h).logged ok Q (s, log)) :
    Q (p.exec h s).2.2 ((p.exec h s).2.1, log ++ (p.exec h s).1) := by
  induction p generalizing s log with
  | ret a =>
    rw [show log ++ ((ret a : Prog S ε α).exec h s).1 = log from List.append_nil log]
    exact hp
  | throw e =>
    rw [show log ++ ((throw e : Prog S ε α).exec h s).1 = log from List.append_nil log]
    exact hp
  | call o k ih =>
    have hrest := ih _ (hp.2 (h o s).1 ((h o s).2, log ++ [⟨o, (h o s).1⟩]) ⟨rfl, rfl⟩)
    rw [List.append_assoc] at hrest
    exact hrest

end Prog

end Sessions

end JibitSdk.Reasoning
