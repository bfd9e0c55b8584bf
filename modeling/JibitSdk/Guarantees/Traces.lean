import JibitSdk.Sdk.Services.Facade

/-!
# Reading traces

The sends, log records and audit events of a trace, and which parts of the SDK can produce them.
-/

namespace JibitSdk.Guarantees

open JibitSdk.Python JibitSdk.Reasoning JibitSdk.Sdk

/-! ## 1. Sends -/

/-- One `transport.send` with what came of it. -/
structure Sent where
  purpose : Purpose
  request : TransportRequest
  outcome : TransportOutcome

/-- The sends of a trace, in order. -/
def sends : List (Event effects) → List Sent
  | [] => []
  | ⟨.send purpose request, outcome⟩ :: tr => ⟨purpose, request, outcome⟩ :: sends tr
  | _ :: tr => sends tr

/-- The sends made on behalf of the operation itself. -/
def operationSends (tr : List (Event effects)) : List Sent :=
  (sends tr).filter (·.purpose.isOperation)

/-- The audit events of a trace, in order. -/
def audits : List (Event effects) → List AuditEvent
  | [] => []
  | ⟨.emitAudit event, _⟩ :: tr => event :: audits tr
  | _ :: tr => audits tr

@[simp] theorem sends_nil : sends [] = [] := rfl
@[simp] theorem audits_nil : audits [] = [] := rfl
@[simp] theorem operationSends_nil : operationSends [] = [] := rfl

@[simp] theorem sends_send (purpose : Purpose) (request : TransportRequest)
    (outcome : TransportOutcome) (tr : List (Event effects)) :
    sends (⟨.send purpose request, outcome⟩ :: tr) = ⟨purpose, request, outcome⟩ :: sends tr := rfl

theorem sends_cons (ev : Event effects) (tr : List (Event effects)) :
    sends (ev :: tr) = sends [ev] ++ sends tr := by
  obtain ⟨o, a⟩ := ev
  cases o <;> rfl

theorem audits_cons (ev : Event effects) (tr : List (Event effects)) :
    audits (ev :: tr) = audits [ev] ++ audits tr := by
  obtain ⟨o, a⟩ := ev
  cases o <;> rfl

@[simp] theorem sends_append (tr₁ tr₂ : List (Event effects)) :
    sends (tr₁ ++ tr₂) = sends tr₁ ++ sends tr₂ := by
  induction tr₁ with
  | nil => rfl
  | cons ev tr ih => rw [List.cons_append, sends_cons, ih, sends_cons ev tr, List.append_assoc]

@[simp] theorem audits_append (tr₁ tr₂ : List (Event effects)) :
    audits (tr₁ ++ tr₂) = audits tr₁ ++ audits tr₂ := by
  induction tr₁ with
  | nil => rfl
  | cons ev tr ih => rw [List.cons_append, audits_cons, ih, audits_cons ev tr, List.append_assoc]

@[simp] theorem operationSends_append (tr₁ tr₂ : List (Event effects)) :
    operationSends (tr₁ ++ tr₂) = operationSends tr₁ ++ operationSends tr₂ := by
  rw [operationSends, sends_append, List.filter_append]
  rfl

theorem operationSends_congr {tr₁ tr₂ : List (Event effects)} (h : sends tr₁ = sends tr₂) :
    operationSends tr₁ = operationSends tr₂ := by
  rw [operationSends, operationSends, h]

/-! ## 2. Classes of operations -/

/-- Operations that reach nobody but the SDK's own process: clocks, sleep, random source,
    correlation ids and the log. -/
def isLocal : Effect → Prop
  | .sleep _ | .monotonic | .random | .newCorrelationId | .log _ => True
  | _ => False

/-- What `RequestEngine.execute` does for one purpose. -/
def isRequest (purpose : Purpose) : Effect → Prop
  | .send p _ => p = purpose
  | o => isLocal o

/-- Everything but sends for the operation and audit events. -/
def isTokenWork : Effect → Prop
  | .send p _ => p = .token
  | .emitAudit _ => False
  | _ => True

/-- The operations of locks. -/
def isLockWork : Effect → Prop
  | .guardAcquire | .guardRelease | .setdefaultLock _ | .lockAcquire _ | .lockRelease _
  | .redisAcquire _ _ _ | .redisRelease _ => True
  | _ => False

theorem isRequest_of_isLocal {purpose : Purpose} {o : Effect} (h : isLocal o) :
    isRequest purpose o := by
  cases o <;> first | exact h | exact h.elim

theorem isTokenWork_of_isRequest {o : Effect} (h : isRequest .token o) : isTokenWork o := by
  cases o <;> first | exact h | exact h.elim

theorem sends_eq_nil {tr : List (Event effects)} (h : ∀ ev ∈ tr, isLocal ev.op) :
    sends tr = [] := by
  induction tr with
  | nil => rfl
  | cons ev tr ih =>
    rw [sends_cons, ih fun ev' hev => h ev' (List.mem_cons_of_mem _ hev), List.append_nil]
    have hev := h ev List.mem_cons_self
    obtain ⟨o, a⟩ := ev
    cases o <;> first | rfl | exact hev.elim

theorem audits_eq_nil {tr : List (Event effects)}
    (h : ∀ ev ∈ tr, ∀ event, ev.op ≠ .emitAudit event) : audits tr = [] := by
  induction tr with
  | nil => rfl
  | cons ev tr ih =>
    rw [audits_cons, ih fun ev' hev => h ev' (List.mem_cons_of_mem _ hev), List.append_nil]
    have hev := h ev List.mem_cons_self
    obtain ⟨o, a⟩ := ev
    cases o <;> first | rfl | exact absurd rfl (hev _)

theorem operationSends_eq_nil {tr : List (Event effects)} (h : ∀ ev ∈ tr, isTokenWork ev.op) :
    operationSends tr = [] := by
  induction tr with
  | nil => rfl
  | cons ev tr ih =>
    rw [operationSends, sends_cons, List.filter_append]
    have htail := ih fun ev' hev => h ev' (List.mem_cons_of_mem _ hev)
    rw [operationSends] at htail
    rw [htail, List.append_nil]
    have hev := h ev List.mem_cons_self
    obtain ⟨o, a⟩ := ev
    cases o <;> first | rfl | skip
    have hp : _ = Purpose.token := hev
    simp [sends, hp, Purpose.isOperation]

/-! ## 3. The logger and the engine's exits -/

theorem emit_always (l : StructuredLogger) (rt : Runtime) (level : LogLevel) (event : EventName)
    (fields : List (String × PyVal)) :
    (l.emit rt level event fields).Always isLocal (· = .ok ()) := by
  unfold StructuredLogger.emit
  split
  · exact ⟨trivial, fun _ => rfl⟩
  · exact rfl

end JibitSdk.Guarantees
