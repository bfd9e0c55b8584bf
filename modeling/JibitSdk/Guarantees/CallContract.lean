import JibitSdk.Guarantees.EngineContract
import JibitSdk.Sdk.Services.Facade

/-!
# The contract of a facade call

A facade call around the execution of its request: whoever verifies it says what holds between the
operations of the executor, and that log records and audit events leave it alone.
-/

namespace JibitSdk.Guarantees

open JibitSdk.Python JibitSdk.Reasoning JibitSdk.Sdk

section Calls
variable {σ N : Type} {M : Machine effects σ} {ok : Effect → σ → Prop} {J : σ → Prop}

/-- Audit events are fine where `J` holds, and keep it. -/
def KeptByAudit (M : Machine effects σ) (ok : Effect → σ → Prop) (J : σ → Prop) : Prop :=
  ∀ event s, J s → ok (.emitAudit event) s ∧ ∀ a s', M.step (.emitAudit event) s a s' → J s'

theorem emitAuditEvent_meets (hlocal : KeptLocally M ok J)
    (haudit : KeptByAudit M ok J) (rt : Runtime)
    (logger : StructuredLogger) (event : AuditEvent) {s : σ} (hs : J s) :
    (emitAuditEvent rt logger event).Meets M ok (fun _ => J) s := by
  have hemit := haudit event s hs
  refine Prog.meets_perform_bind.mpr ⟨hemit.1, fun sinkError s' hstep => ?_⟩
  have hs' := hemit.2 sinkError s' hstep
  cases sinkError with
  | none => exact hs'
  | some errorType =>
    exact (local_meets (emit_always _ _ _ _ _) hlocal hs').mono fun _ _ h => h.2

/-- The audit of an outcome, whatever the outcome is. -/
theorem auditedExecute_meets (hlocal : KeptLocally M ok J) (haudit : KeptByAudit M ok J)
    (x : AuditedRequestExecutor) (options : RequestOptions)
    (hexecute : ∀ s, J s → (x.executor.execute options).Meets M ok (fun _ => J) s)
    {s : σ} (hs : J s) :
    (x.execute options).Meets M ok (fun _ => J) s := by
  have hevent := emitAuditEvent_meets hlocal haudit x.rt x.logger
  refine (hexecute s hs).attempt_bind fun outcome s hs => ?_
  cases outcome with
  | ok response => exact (hevent _ hs).bind (fun _ s hs => hs) fun _ _ hs => hs
  | error error =>
    cases error with
    | jibit error => exact (hevent _ hs).bind (fun _ s hs => hs) fun _ _ hs => hs
    | builtin e => exact hs

theorem auditingErrors_meets (hlocal : KeptLocally M ok J) (haudit : KeptByAudit M ok J)
    (x : PaymentGatewayService) (name operation : String) {α : Type} {body : Py α}
    (hbody : ∀ s, J s → body.Meets M ok (fun _ => J) s) {s : σ} (hs : J s) :
    (x.auditingErrors name operation body).Meets M ok (fun _ => J) s := by
  have hevent := emitAuditEvent_meets hlocal haudit x.rt x.logger
  refine (hbody s hs).attempt_bind fun outcome s hs => ?_
  cases outcome with
  | ok response => exact hs
  | error error =>
    cases error with
    | jibit error => exact (hevent _ hs).bind (fun _ s hs => hs) fun _ _ hs => hs
    | builtin e => exact hs

theorem typed_meets (x : PaymentGatewayService) (spec : OperationSpec) (parts : RequestParts)
    (model : ResponseModel N)
    (hexecute : ∀ s, J s → (x.engine.execute (spec.options parts)).Meets M ok (fun _ => J) s)
    {s : σ} (hs : J s) : (x.typed spec parts model).Meets M ok (fun _ => J) s :=
  (hexecute s hs).bind (fun _ _ hs => Prog.meets_ofExcept.mpr hs) fun _ _ hs => hs

theorem audited_meets (hlocal : KeptLocally M ok J) (haudit : KeptByAudit M ok J)
    (call : AuditedCall N)
    (hexecute : ∀ s, J s → (call.executor.execute call.options).Meets M ok (fun _ => J) s) {s : σ}
    (hs : J s) : call.run.Meets M ok (fun _ => J) s := by
  cases call with
  | wrapped x op parts model =>
    have haudited := auditedExecute_meets hlocal haudit x _ hexecute hs
    show (wrappedCall x op parts model).Meets M ok (fun _ => J) s
    unfold wrappedCall
    split
    · exact haudited.bind (fun _ s hs => Prog.meets_ofExcept.mpr hs) fun _ _ hs => hs
    · exact haudited.bind (fun _ s hs => hs) fun _ _ hs => hs
    · exact haudited.bind (fun _ s hs => hs) fun _ _ hs => hs
  | financial x op parts model metadata =>
    have hevent := emitAuditEvent_meets hlocal haudit x.rt x.logger
    have htyped : ∀ s, J s → (x.typed op.spec parts model).Meets M ok (fun _ => J) s :=
      fun s hs => typed_meets x op.spec parts model hexecute hs
    refine (auditingErrors_meets hlocal haudit x _ _ htyped hs).bind (fun _ s hs => ?_)
      fun _ _ hs => hs
    exact (hevent _ hs).bind (fun _ s hs => hs) fun _ _ hs => hs
  | refund x action refundId parts metadata =>
    have hevent := emitAuditEvent_meets hlocal haudit x.rt x.logger
    refine (auditingErrors_meets hlocal haudit x _ _ hexecute hs).bind (fun _ s hs => ?_)
      fun _ _ hs => hs
    exact (hevent _ hs).bind (fun _ s hs => hs) fun _ _ hs => hs

/-- What the executor keeps, the whole call keeps. -/
theorem call_meets (hlocal : KeptLocally M ok J) (haudit : KeptByAudit M ok J)
    (call : ServiceCall N)
    (hexecute : ∀ s, J s → (call.executor.execute call.options).Meets M ok (fun _ => J) s) {s : σ}
    (hs : J s) : call.run.Meets M ok (fun _ => J) s := by
  cases call with
  | audited call => exact audited_meets hlocal haudit call hexecute hs
  | read x op parts model => exact typed_meets x op.spec parts model hexecute hs

end Calls

end JibitSdk.Guarantees
