import JibitSdk.Guarantees.Audit
import JibitSdk.Guarantees.Costs
import JibitSdk.Guarantees.World
import JibitSdk.Reasoning.Lockstep

/-!
# Audit sinks have no say

Two runs of one audited call differ in nothing but what their sinks answer.  The sinks are consulted
when the result is settled, and an exception of theirs ends in a log record.
-/

namespace JibitSdk.Guarantees

open JibitSdk.Python JibitSdk.Reasoning JibitSdk.Sdk

/-! ## 1. Worlds with a sink -/

/-- A sink with a state of its own: it returns, or raises an exception of the named class. -/
abbrev Sink (τ : Type) : Type := AuditEvent → τ → Option String × τ

section World
variable {σ τ τ₁ τ₂ : Type}

/-- The sink beside the rest of the world, which sees neither the audit events nor the records of
    failed ones. -/
def withSink (env : Handler σ) (sink : Sink τ) : Handler ((Store × σ) × τ)
  | .emitAudit event, w => ((sink event w.2).1, (w.1, (sink event w.2).2))
  | .log record, w =>
    ((), (if isEmitFailed record then w.1 else (inWorld env (.log record) w.1).2, w.2))
  | o, w => ((inWorld env o w.1).1, ((inWorld env o w.1).2, w.2))

/-- What two runs have to share: audit events without the sink's answer, and every other event but
    the records of failed emits. -/
def visible : Event effects → Option (Event effects ⊕ AuditEvent)
  | ⟨.emitAudit event, _⟩ => some (.inr event)
  | ⟨.log record, answer⟩ => if isEmitFailed record then none else some (.inl ⟨.log record, answer⟩)
  | ev => some (.inl ev)

/-- The sends among the shared events. -/
def visibleSend : Event effects ⊕ AuditEvent → Option Sent
  | .inl ⟨.send purpose request, outcome⟩ => some ⟨purpose, request, outcome⟩
  | _ => none

theorem sends_visible (tr : List (Event effects)) :
    sends tr = (tr.filterMap visible).filterMap visibleSend := by
  induction tr with
  | nil => rfl
  | cons ev tr ih =>
    have hev : sends [ev] = (visible ev).toList.filterMap visibleSend := by
      obtain ⟨o, answer⟩ := ev
      cases o <;> first | rfl | skip
      rename_i record
      change [] = (if isEmitFailed record then none
        else some (Sum.inl (⟨.log record, answer⟩ : Event effects))).toList.filterMap visibleSend
      split <;> rfl
    have hcons : (ev :: tr).filterMap visible = (visible ev).toList ++ tr.filterMap visible := by
      rw [List.filterMap_cons]
      cases visible ev <;> rfl
    rw [sends_cons, hcons, List.filterMap_append, hev, ih]

/-- The same world on both sides, each side with its own sink. -/
def sinkTwin (env : Handler σ) (sink₁ : Sink τ₁) (sink₂ : Sink τ₂) :
    Twin effects ((Store × σ) × τ₁) ((Store × σ) × τ₂) (Event effects ⊕ AuditEvent) where
  left := withSink env sink₁
  right := withSink env sink₂
  see := visible
  inv w₁ w₂ := w₁.1 = w₂.1

end World

/-! ## 2. Audited calls run alike -/

section Alike
variable {σ τ₁ τ₂ : Type} {env : Handler σ} {sink₁ : Sink τ₁} {sink₂ : Sink τ₂}

/-- Whatever is no audit event is answered alike. -/
theorem steps_unaudited {o : Effect} (h : isUnaudited o) :
    (sinkTwin env sink₁ sink₂).Steps o o Eq := by
  rintro ⟨w, t₁⟩ ⟨_, t₂⟩ rfl
  cases o <;> first | exact ⟨rfl, rfl, rfl⟩ | exact h.elim

/-- The record of a failed emit is not seen. -/
theorem emitFailed_left {logger : StructuredLogger} {rt : Runtime} {fields : List (String × PyVal)}
    {p : Py Unit} (h : Prog.Alike (sinkTwin env sink₁ sink₂) Eq (.ret () : Py Unit) p) :
    Prog.Alike (sinkTwin env sink₁ sink₂) Eq (logger.emit rt .error .auditEmitFailed fields) p := by
  unfold StructuredLogger.emit
  split
  · exact Prog.Alike.hiddenLeft (fun w₁ w₂ hw => ⟨rfl, hw⟩) fun _ => h
  · exact h

theorem emitFailed_right {logger : StructuredLogger} {rt : Runtime} {fields : List (String × PyVal)}
    {p : Py Unit} (h : Prog.Alike (sinkTwin env sink₁ sink₂) Eq p (.ret () : Py Unit)) :
    Prog.Alike (sinkTwin env sink₁ sink₂) Eq p (logger.emit rt .error .auditEmitFailed fields) := by
  unfold StructuredLogger.emit
  split
  · exact Prog.Alike.hiddenRight (fun w₁ w₂ hw => ⟨rfl, hw⟩) fun _ => h
  · exact h

/-- Whatever the two sinks answer, both sides go on with the same. -/
theorem emitAuditEvent_alike (rt : Runtime) (logger : StructuredLogger) (event : AuditEvent) :
    Prog.Alike (sinkTwin env sink₁ sink₂) Eq (emitAuditEvent rt logger event)
      (emitAuditEvent rt logger event) := by
  have hstep : (sinkTwin env sink₁ sink₂).Steps (.emitAudit event) (.emitAudit event)
      fun _ _ => True := fun w₁ w₂ hw => ⟨rfl, trivial, hw⟩
  refine Prog.Alike.call hstep fun answer₁ answer₂ _ => ?_
  have hdone : Prog.Alike (sinkTwin env sink₁ sink₂) Eq (.ret () : Py Unit) (.ret ()) := .ret rfl
  -- Each side may or may not write its record, on its own.
  cases answer₁ with
  | none => cases answer₂ with
    | none => exact hdone
    | some error₂ => exact emitFailed_right hdone
  | some error₁ => cases answer₂ with
    | none => exact emitFailed_left hdone
    | some error₂ => exact emitFailed_left (emitFailed_right hdone)

theorem unaudited_alike {α : Type} {p : Py α} (h : p.Only isUnaudited) :
    Prog.Alike (sinkTwin env sink₁ sink₂) Eq p p :=
  h.alike fun _ => steps_unaudited

theorem auditedExecute_alike (x : AuditedRequestExecutor) (options : RequestOptions) :
    Prog.Alike (sinkTwin env sink₁ sink₂) Eq (x.execute options) (x.execute options) := by
  refine (unaudited_alike (executor_unaudited x.executor options)).attempt_bind fun r _ hr => ?_
  cases hr
  cases r with
  | ok response => exact (emitAuditEvent_alike _ _ _).bind_eq fun _ => .ret rfl
  | error error => cases error with
    | jibit error => exact (emitAuditEvent_alike _ _ _).bind_eq fun _ => .throw rfl
    | builtin e => exact .throw rfl

theorem auditingErrors_alike {α : Type} (x : PaymentGatewayService) (name operation : String)
    {body : Py α} (hbody : body.Only isUnaudited) :
    Prog.Alike (sinkTwin env sink₁ sink₂) Eq (x.auditingErrors name operation body)
      (x.auditingErrors name operation body) := by
  refine (unaudited_alike hbody).attempt_bind fun r _ hr => ?_
  cases hr
  cases r with
  | ok response => exact .ret rfl
  | error error => cases error with
    | jibit error => exact (emitAuditEvent_alike _ _ _).bind_eq fun _ => .throw rfl
    | builtin e => exact .throw rfl

theorem call_alike {M : Type} (call : AuditedCall M) :
    Prog.Alike (sinkTwin env sink₁ sink₂) Eq call.run call.run := by
  cases call with
  | wrapped x op parts model =>
    show Prog.Alike _ Eq (wrappedCall x op parts model) (wrappedCall x op parts model)
    unfold wrappedCall
    split
    · exact (auditedExecute_alike x _).bind_eq fun raw => .ofExcept rfl
    · exact (auditedExecute_alike x _).bind_eq fun raw => .ret rfl
    · exact (auditedExecute_alike x _).bind_eq fun raw => .ret rfl
  | financial x op parts model metadata =>
    have hbody : (x.typed op.spec parts model).Only isUnaudited :=
      (authenticated_unaudited x.engine _).bind fun raw => Prog.always_ofExcept.mpr trivial
    refine (auditingErrors_alike x _ _ hbody).bind_eq fun result => ?_
    exact (emitAuditEvent_alike _ _ _).bind_eq fun _ => .ret rfl
  | refund x action refundId parts metadata =>
    refine (auditingErrors_alike x _ _ (authenticated_unaudited x.engine _)).bind_eq fun raw => ?_
    exact (emitAuditEvent_alike _ _ _).bind_eq fun _ => .ret rfl

end Alike

/-! ## 3. One record for each raising emit -/

def isFailedRecord : Event effects → Bool
  | ⟨.log record, _⟩ => isEmitFailed record
  | _ => false

def isRaisingEmit : Event effects → Bool
  | ⟨.emitAudit _, some _⟩ => true
  | _ => false

/-- One record of a failed emit for each emit that raised, as long as the logger is enabled. -/
def Recorded (enabled : Bool) (tr : List (Event effects)) : Prop :=
  tr.countP isFailedRecord = if enabled then tr.countP isRaisingEmit else 0

/-- What auditing does. -/
def auditNoise : Effect → ℕ
  | .emitAudit _ => 1
  | .log record => if isEmitFailed record then 1 else 0
  | _ => 0

theorem auditNoise_prices (e : RequestEngine) : Prices auditNoise e 0 0 where
  send _ _ _ := le_refl 0
  pause _ _ := le_refl 0
  free o h := by
    cases o <;> first | rfl | exact h.elim | skip
    exact if_neg h
  perSend_nonneg := le_refl 0
  perPause_nonneg := le_refl 0

theorem counts_le_noise (tr : List (Event effects)) :
    tr.countP isFailedRecord ≤ traceCost (S := effects) auditNoise tr ∧
      tr.countP isRaisingEmit ≤ traceCost (S := effects) auditNoise tr := by
  induction tr with
  | nil => exact ⟨le_refl 0, le_refl 0⟩
  | cons ev tr ih =>
    have hev : (if isFailedRecord ev = true then 1 else 0) ≤ auditNoise ev.op ∧
        (if isRaisingEmit ev = true then 1 else 0) ≤ auditNoise ev.op := by
      obtain ⟨o, answer⟩ := ev
      cases o <;> try exact ⟨le_refl 0, le_refl 0⟩
      · simp [isFailedRecord, isRaisingEmit, auditNoise]
      · refine ⟨Nat.zero_le 1, ?_⟩
        split
        · exact le_refl 1
        · exact Nat.zero_le 1
    rw [List.countP_cons, List.countP_cons, traceCost_cons]
    omega

section Records
variable {enabled : Bool} {α β : Type}

/-- Every trace of the program keeps the books. -/
def KeepsRecords (enabled : Bool) (p : Py α) : Prop :=
  ∀ tr r, p.Emits tr r → Recorded enabled tr

theorem Recorded.append {tr₁ tr₂ : List (Event effects)} (h₁ : Recorded enabled tr₁)
    (h₂ : Recorded enabled tr₂) : Recorded enabled (tr₁ ++ tr₂) := by
  unfold Recorded at *
  rw [List.countP_append, List.countP_append, h₁, h₂]
  split <;> rfl

theorem recorded_nil : Recorded enabled [] := by
  unfold Recorded
  split <;> rfl

theorem KeepsRecords.pure {p : Py α} (h : p.Only fun _ => False) : KeepsRecords enabled p := by
  intro tr r htr
  cases tr with
  | nil => exact recorded_nil
  | cons ev tr => exact (h.events htr ev List.mem_cons_self).elim

theorem KeepsRecords.quiet {p : Py α} (h : p.Within (S := effects) auditNoise 0) :
    KeepsRecords enabled p := by
  intro tr r htr
  have hzero := h.emits htr
  have hcounts := counts_le_noise tr
  have hrecords : tr.countP isFailedRecord = 0 := by omega
  have hraising : tr.countP isRaisingEmit = 0 := by omega
  rw [Recorded, hrecords, hraising, ite_self]

theorem KeepsRecords.bind {p : Py β} {f : β → Py α} (hp : KeepsRecords enabled p)
    (hf : ∀ b, KeepsRecords enabled (f b)) : KeepsRecords enabled (p >>= f) := by
  intro tr r h
  rcases Prog.emits_bind.mp h with ⟨b, tr₁, tr₂, rfl, h₁, h₂⟩ | ⟨e, h₁, -⟩
  · exact (hp _ _ h₁).append (hf b _ _ h₂)
  · exact hp _ _ h₁

theorem KeepsRecords.attempt_bind {p : Py β} {f : Except PyError β → Py α}
    (hp : KeepsRecords enabled p) (hf : ∀ r, KeepsRecords enabled (f r)) :
    KeepsRecords enabled (p.attempt >>= f) := by
  intro tr r h
  obtain ⟨r', tr₁, tr₂, rfl, h₁, h₂⟩ := Prog.emits_attempt_bind.mp h
  exact (hp _ _ h₁).append (hf r' _ _ h₂)

theorem emitAuditEvent_keeps (rt : Runtime) (logger : StructuredLogger) (event : AuditEvent) :
    KeepsRecords logger.enabled (emitAuditEvent rt logger event) := by
  intro tr r hrun
  obtain ⟨answer, tr', rfl, h⟩ := Prog.emits_perform_bind.mp hrun
  clear hrun
  cases answer with
  | none =>
    obtain ⟨rfl, -⟩ := h
    unfold Recorded
    split <;> rfl
  | some error =>
    change Prog.Emits (StructuredLogger.emit logger rt .error .auditEmitFailed _) tr' r at h
    unfold StructuredLogger.emit at h
    unfold Recorded
    split at h
    · obtain ⟨_, _, rfl, rfl, -⟩ := h
      rw [if_pos ‹_›]
      rfl
    · obtain ⟨rfl, -⟩ := h
      rw [if_neg ‹_›]
      rfl

theorem executor_keeps (x : RequestExecutor) (options : RequestOptions) :
    KeepsRecords enabled (x.execute options) := by
  apply KeepsRecords.quiet
  cases x with
  | authenticated x =>
    have h := authenticated_within (auditNoise_prices x.engine)
      (auditNoise_prices x.authenticator.engine) options
    simp only [requestBudget, nsmul_zero, add_zero] at h
    exact h
  | staticBearer x =>
    have h := execute_within (auditNoise_prices x.engine) (.operation x.accessToken)
      (authorize options "Bearer" x.accessToken)
    simp only [requestBudget, nsmul_zero, add_zero] at h
    exact h

theorem auditedExecute_keeps (x : AuditedRequestExecutor) (options : RequestOptions) :
    KeepsRecords x.logger.enabled (x.execute options) := by
  refine (executor_keeps x.executor options).attempt_bind fun r => ?_
  cases r with
  | ok response => exact (emitAuditEvent_keeps _ _ _).bind fun _ => .pure trivial
  | error error => cases error with
    | jibit error => exact (emitAuditEvent_keeps _ _ _).bind fun _ => .pure trivial
    | builtin e => exact .pure trivial

theorem auditingErrors_keeps (x : PaymentGatewayService) (name operation : String) {body : Py α}
    (hbody : KeepsRecords x.logger.enabled body) :
    KeepsRecords x.logger.enabled (x.auditingErrors name operation body) := by
  refine hbody.attempt_bind fun r => ?_
  cases r with
  | ok response => exact .pure trivial
  | error error => cases error with
    | jibit error => exact (emitAuditEvent_keeps _ _ _).bind fun _ => .pure trivial
    | builtin e => exact .pure trivial

end Records

/-- The logger a call writes to. -/
def callLogger {M : Type} : AuditedCall M → StructuredLogger
  | .wrapped x _ _ _ => x.logger
  | .financial x _ _ _ _ => x.logger
  | .refund x _ _ _ _ => x.logger

theorem call_keeps {M : Type} (call : AuditedCall M) :
    KeepsRecords (callLogger call).enabled call.run := by
  cases call with
  | wrapped x op parts model =>
    show KeepsRecords x.logger.enabled (wrappedCall x op parts model)
    unfold wrappedCall
    split
    · exact (auditedExecute_keeps x _).bind fun raw => .pure (Prog.always_ofExcept.mpr trivial)
    · exact (auditedExecute_keeps x _).bind fun raw => .pure trivial
    · exact (auditedExecute_keeps x _).bind fun raw => .pure trivial
  | financial x op parts model metadata =>
    have hbody : KeepsRecords x.logger.enabled (x.typed op.spec parts model) :=
      (executor_keeps (.authenticated x.engine) _).bind fun raw =>
        .pure (Prog.always_ofExcept.mpr trivial)
    refine (auditingErrors_keeps x _ _ hbody).bind fun result => ?_
    exact (emitAuditEvent_keeps _ _ _).bind fun _ => .pure trivial
  | refund x action refundId parts metadata =>
    refine (auditingErrors_keeps x _ _ (executor_keeps (.authenticated x.engine) _)).bind
      fun raw => ?_
    exact (emitAuditEvent_keeps _ _ _).bind fun _ => .pure trivial

/-! ## 4. The law -/

/-- Two runs of one audited call in one world, with any two sinks. -/
theorem sinks_do_not_influence {M σ τ₁ τ₂ : Type} (call : AuditedCall M) (env : Handler σ)
    (sink₁ : Sink τ₁) (sink₂ : Sink τ₂) (w : Store × σ) (t₁ : τ₁) (t₂ : τ₂) :
    let run₁ := call.run.exec (S := effects) (withSink env sink₁) (w, t₁)
    let run₂ := call.run.exec (S := effects) (withSink env sink₂) (w, t₂)
    run₁.2.2 = run₂.2.2 ∧ sends run₁.1 = sends run₂.1 ∧ run₁.2.1.1 = run₂.2.1.1 ∧
      run₁.1.filterMap visible = run₂.1.filterMap visible ∧
      Recorded (callLogger call).enabled run₁.1 ∧
      Recorded (callLogger call).enabled run₂.1 := by
  have halike : Prog.Alike (sinkTwin env sink₁ sink₂) Eq call.run call.run := call_alike call
  obtain ⟨hseen, hworld, hresult⟩ := halike (w, t₁) (w, t₂) rfl
  refine ⟨hresult, ?_, hworld, hseen, ?_, ?_⟩
  · rw [sends_visible, sends_visible]
    exact congrArg (List.filterMap visibleSend) hseen
  · exact call_keeps call _ _ (Prog.exec_emits _ _ _)
  · exact call_keeps call _ _ (Prog.exec_emits _ _ _)

/-- A transfer whose logger is disabled and whose sink raises. -/
def silentTrace : List (Event effects) :=
  let call : AuditedCall Unit := .wrapped
    ⟨sampleRuntime, .authenticated sampleExecutor, { enabled := false }, "jibit.transfer.operation"⟩
    (.transfer .submitBatch) {} sampleModel
  (call.run.exec (S := effects) (withSink scripted fun _ s => (some "RuntimeError", s))
    ((fun _ => none, [issueT1, answer 200 "\x7b\x7d"]), ())).1

/-- A disabled logger keeps no record of the emit that raised. -/
theorem raising_emit_unrecorded :
    ¬ silentTrace.countP isFailedRecord = silentTrace.countP isRaisingEmit := by decide +kernel

end JibitSdk.Guarantees
