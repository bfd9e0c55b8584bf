import JibitSdk.Guarantees.World
import JibitSdk.Sdk.Client

/-!
# Facades are what the configuration says

The client builds its engines and facades when they are first asked for and keeps them in attributes
no lock protects.  Threads that race for them still get what an immutable client built in advance
would give them; an owned transport is closed exactly once where a single thread closes.
-/

namespace JibitSdk.Guarantees

open JibitSdk.Python JibitSdk.Reasoning JibitSdk.Sdk

/-! ## 1. The immutable client -/

/-- The authenticated engine of a service. -/
def engineOf (c : JibitClient) (service : ServiceName) :
    Except PyError AuthenticatedRequestEngine :=
  (ServiceAuthenticator.new service c.config c.engine c.locks c.logger).map fun authenticator =>
    ⟨c.engine, authenticator⟩

/-- The audited facade of a service with an authenticated engine. -/
def auditedOf (c : JibitClient) (service : ServiceName) (eventName : String) :
    Except PyError ServiceFacade :=
  (engineOf c service).map fun engine =>
    .wrapped ⟨c.engine.rt, .authenticated engine, c.logger, eventName⟩

/-- The facade of a service. -/
def facadeOf (c : JibitClient) : ServiceName → Except PyError ServiceFacade
  | .paymentGateway => (engineOf c .paymentGateway).map fun engine =>
      .paymentGateway ⟨engine, c.logger⟩
  | .transfers => auditedOf c .transfers "jibit.transfer.operation"
  | .cobank => auditedOf c .cobank "jibit.cobank.operation"
  | .directDebit => auditedOf c .directDebit "jibit.direct_debit.operation"
  | .sms => auditedOf c .sms "jibit.sms.operation"
  | .contracts => auditedOf c .contracts "jibit.contract.operation"
  | .identicator => auditedOf c .identicator "jibit.identicator.operation"
  | .kyc => (StaticBearerRequestEngine.new c.engine c.config .kyc).map fun engine =>
      .wrapped ⟨c.engine.rt, .staticBearer engine, c.logger, "jibit.kyc.operation"⟩

/-- What calls answer: an equal facade or an equal error at every access; a close succeeds, or
    passes on what its own transport raises. -/
def Promised (c : JibitClient) : (call : ClientCall) → Except PyError call.Result → Prop
  | .facade service, r => r = (facadeOf c service).map some
  | .authenticatedEngine service, r => r = engineOf c service
  | .close, r => r = .ok () ∨ c.ownsTransport = true ∧ ∃ e, r = .error (.builtin e)

/-- The answers of the immutable client. -/
def immutable (c : JibitClient) : (call : ClientCall) → Except PyError call.Result
  | .facade service => (facadeOf c service).map some
  | .authenticatedEngine service => engineOf c service
  | .close => .ok ()

/-! ## 2. The attributes -/

/-- The attributes that change, and the threads that have closed the
    transport, the last one first. -/
structure ClientState (ι : Type) where
  engines : ServiceName → Option AuthenticatedRequestEngine := fun _ => none
  facades : ServiceName → Option ServiceFacade := fun _ => none
  closed : Bool := false
  closers : List ι := []

/-- Single reads and writes are atomic, and nothing else is. -/
def clientWorld {ι : Type} (i : ι) : Machine clientEffects (ClientState ι) where
  step
    | .readEngine service, s, found, s' => found = s.engines service ∧ s' = s
    | .writeEngine service engine, s, _, s' =>
      s' = { s with engines := Function.update s.engines service (some engine) }
    | .readFacade service, s, found, s' => found = s.facades service ∧ s' = s
    | .writeFacade service facade, s, _, s' =>
      s' = { s with facades := Function.update s.facades service (some facade) }
    | .readClosed, s, found, s' => found = s.closed ∧ s' = s
    | .writeClosed, s, _, s' => s' = { s with closed := true }
    | .closeTransport, s, raised, s' =>
      s' = { s with closers := if raised.isNone then i :: s.closers else s.closers }

section Access
variable {c : JibitClient} {ι : Type} {closing : ι → Prop} {i : ι} {s : ClientState ι}
  {service : ServiceName}

/-- The attributes hold what the immutable client has; a transport is closed by threads that may, by
    each once, and never where it is somebody else's. -/
structure Faithful (c : JibitClient) (closing : ι → Prop) (s : ClientState ι) : Prop where
  engine : Memoises (engineOf c) s.engines
  facade : Memoises (facadeOf c) s.facades
  once : s.closers.Nodup
  closing : ∀ i ∈ s.closers, closing i
  unowned : c.ownsTransport = false → s.closers = []
  closed : c.ownsTransport = true → s.closed = true → s.closers ≠ []

/-- What the other threads leave alone. -/
structure Leaves (i : ι) (s s' : ClientState ι) : Prop where
  facade : ∀ service, (s.facades service).isSome = true → (s'.facades service).isSome = true
  closed : s.closed = true → s'.closed = true
  own : i ∈ s'.closers ↔ i ∈ s.closers

theorem leaves_refl (s : ClientState ι) : Leaves i s s := ⟨fun _ h => h, fun h => h, Iff.rfl⟩

/-- What the threads agree on. -/
def clientSharing (c : JibitClient) (closing : ι → Prop) : Sharing (clientWorld (ι := ι)) where
  inv := Faithful c closing
  rely := Leaves
  may _ _ _ := True
  refl _ := leaves_refl
  trans _ _ _ _ h h' :=
    ⟨fun service hs => h'.facade service (h.facade service hs), fun hs => h'.closed (h.closed hs),
      h'.own.trans h.own⟩

/-- A thread that has closed the transport and is in no `close` has marked the client as closed. -/
def BetweenCalls (i : ι) (s : ClientState ι) : Prop := i ∈ s.closers → s.closed = true

/-- An operation may be performed where it keeps the attributes faithful and
    leaves the rest alone. -/
theorem access_keeps {o : ClientOp}
    (h : ∀ s₁ a s', Leaves i s s₁ → Faithful c closing s₁ → (clientWorld i).step o s₁ a s' →
      Faithful c closing s' ∧ ∀ j, j ≠ i → Leaves j s₁ s') :
    (clientSharing c closing).keeps i o s :=
  fun s₁ hleaves hinv => ⟨trivial, fun a s' hstep => h s₁ a s' hleaves hinv hstep⟩

theorem read_keeps {o : ClientOp} (h : ∀ s₁ a s', (clientWorld i).step o s₁ a s' → s' = s₁) :
    (clientSharing c closing).keeps i o s := by
  apply access_keeps
  intro s₁ a s' _ hinv hstep
  rw [h s₁ a s' hstep]
  exact ⟨hinv, fun j _ => leaves_refl s₁⟩

theorem readEngine_keeps : (clientSharing c closing).keeps i (.readEngine service) s :=
  read_keeps fun _ _ _ hstep => hstep.2

theorem readFacade_keeps : (clientSharing c closing).keeps i (.readFacade service) s :=
  read_keeps fun _ _ _ hstep => hstep.2

theorem readClosed_keeps : (clientSharing c closing).keeps i .readClosed s :=
  read_keeps fun _ _ _ hstep => hstep.2

theorem writeEngine_keeps {engine : AuthenticatedRequestEngine}
    (h : engineOf c service = .ok engine) :
    (clientSharing c closing).keeps i (.writeEngine service engine) s := by
  apply access_keeps
  intro s₁ a s' _ hinv hstep
  rw [show s' = _ from hstep]
  exact ⟨{ hinv with engine := hinv.engine.update h },
    fun j _ => ⟨fun _ hsome => hsome, fun hclosed => hclosed, Iff.rfl⟩⟩

theorem writeFacade_keeps {facade : ServiceFacade} (h : facadeOf c service = .ok facade) :
    (clientSharing c closing).keeps i (.writeFacade service facade) s := by
  apply access_keeps
  intro s₁ a s' _ hinv hstep
  rw [show s' = _ from hstep]
  exact ⟨{ hinv with facade := hinv.facade.update h },
    fun j _ => ⟨fun _ hsome => isSome_update hsome, fun hclosed => hclosed, Iff.rfl⟩⟩

theorem writeClosed_keeps (h : c.ownsTransport = true → i ∈ s.closers) :
    (clientSharing c closing).keeps i .writeClosed s := by
  apply access_keeps
  intro s₁ a s' hleaves hinv hstep
  rw [show s' = _ from hstep]
  have hclosed : c.ownsTransport = true → s₁.closers ≠ [] := fun howns =>
    List.ne_nil_of_mem (hleaves.own.mpr (h howns))
  exact ⟨{ hinv with closed := fun howns _ => hclosed howns },
    fun j _ => ⟨fun _ hsome => hsome, fun _ => rfl, Iff.rfl⟩⟩

theorem closeTransport_keeps (howns : c.ownsTransport = true) (hi : closing i)
    (hnew : i ∉ s.closers) :
    (clientSharing c closing).keeps i .closeTransport s := by
  apply access_keeps
  intro s₁ raised s' hleaves hinv hstep
  rw [show s' = _ from hstep]
  cases raised with
  | some e => exact ⟨hinv, fun j _ => leaves_refl s₁⟩
  | none =>
    refine ⟨⟨hinv.engine, hinv.facade, ?_, ?_, ?_, ?_⟩, fun j hj =>
      ⟨fun _ hsome => hsome, fun h => h, ?_⟩⟩
    · exact List.nodup_cons.mpr ⟨fun hmem => hnew (hleaves.own.mp hmem), hinv.once⟩
    · intro j hmem
      rcases List.mem_cons.mp hmem with rfl | hmem
      · exact hi
      · exact hinv.closing j hmem
    · intro hunowned
      rw [howns] at hunowned
      cases hunowned
    · exact fun _ _ => List.cons_ne_nil i s₁.closers
    · simp [hj]

/-! ## 3. The methods -/

/-- A part of a method that ends like this, whatever the other threads do. -/
abbrev Yields {α : Type} (c : JibitClient) (closing : ι → Prop) (i : ι) (p : ClientPy α)
    (r : Except PyError α) (s : ClientState ι) : Prop :=
  p.Meets ((clientSharing c closing).view i) ((clientSharing c closing).keeps i)
    (fun r' _ => r' = r) s

theorem authenticatedEngine_yields (service : ServiceName) (s : ClientState ι) :
    Yields c closing i (c.authenticatedEngine service) (engineOf c service) s := by
  refine Prog.meets_perform_bind.mpr ⟨readEngine_keeps, fun found s' hstep => ?_⟩
  rcases hstep with ⟨s₁, -, hinv, rfl, rfl⟩
  cases hfound : s'.engines service with
  | some engine => exact (hinv.engine service engine hfound).symm
  | none =>
    show Yields c closing i
      (Prog.ofExcept (ServiceAuthenticator.new service c.config c.engine c.locks c.logger) >>= _) _
      s'
    unfold engineOf
    cases hnew : ServiceAuthenticator.new service c.config c.engine c.locks c.logger with
    | error e => rfl
    | ok authenticator =>
      have hengine : engineOf c service = .ok ⟨c.engine, authenticator⟩ := by
        unfold engineOf
        rw [hnew]
        rfl
      exact ⟨writeEngine_keeps hengine, fun _ _ _ => rfl⟩

/-- The last read of a property finds a facade. -/
theorem lastRead_yields (hsome : (s.facades service).isSome = true) :
    Yields c closing i (Prog.perform (S := clientEffects) (.readFacade service))
      ((facadeOf c service).map some) s := by
  refine ⟨readFacade_keeps, fun found s' hstep => ?_⟩
  rcases hstep with ⟨s₁, hleaves, hinv, rfl, rfl⟩
  rcases Option.isSome_iff_exists.mp (hleaves.facade service hsome) with ⟨facade, hfacade⟩
  show Except.ok (s'.facades service) = _
  rw [hfacade, hinv.facade service facade hfacade]
  rfl

theorem property_yields {build : ClientPy ServiceFacade}
    (hbuild : ∀ s, Yields c closing i build (facadeOf c service) s) (s : ClientState ι) :
    Yields c closing i (JibitClient.property service build) ((facadeOf c service).map some) s := by
  refine Prog.meets_perform_bind.mpr ⟨readFacade_keeps, fun found s' hstep => ?_⟩
  rcases hstep with ⟨s₁, -, hinv, rfl, rfl⟩
  cases hfound : s'.facades service with
  | some facade =>
    have hsome : (s'.facades service).isSome = true := by rw [hfound]; rfl
    exact lastRead_yields hsome
  | none =>
    refine (hbuild s').bind (fun facade t hbuilt => ?_) fun e t hbuilt => ?_
    · refine ⟨writeFacade_keeps hbuilt.symm, fun _ u hwrite => ?_⟩
      rcases hwrite with ⟨t₁, -, -, rfl⟩
      apply lastRead_yields
      show (Function.update t₁.facades service (some facade) service).isSome = true
      rw [Function.update_self]
      rfl
    · rw [← hbuilt]
      rfl

theorem auditedFacade_yields (service : ServiceName) (eventName : String) (s : ClientState ι) :
    Yields c closing i (c.auditedFacade service eventName) (auditedOf c service eventName) s := by
  refine (authenticatedEngine_yields service s).bind (fun engine t hengine => ?_)
    fun e t hengine => ?_
  · unfold auditedOf
    rw [← hengine]
    rfl
  · unfold auditedOf
    rw [← hengine]
    rfl

theorem facade_yields (service : ServiceName) (s : ClientState ι) :
    Yields c closing i (c.facade service) ((facadeOf c service).map some) s := by
  cases service with
  | paymentGateway =>
    refine property_yields (fun s => ?_) s
    refine (authenticatedEngine_yields .paymentGateway s).bind (fun engine t hengine => ?_)
      fun e t hengine => ?_
    · unfold facadeOf
      rw [← hengine]
      rfl
    · unfold facadeOf
      rw [← hengine]
      rfl
  | kyc =>
    refine property_yields (fun s => ?_) s
    unfold facadeOf
    cases StaticBearerRequestEngine.new c.engine c.config .kyc with
    | error e => rfl
    | ok engine => rfl
  | transfers => exact property_yields (auditedFacade_yields _ _) s
  | cobank => exact property_yields (auditedFacade_yields _ _) s
  | directDebit => exact property_yields (auditedFacade_yields _ _) s
  | sms => exact property_yields (auditedFacade_yields _ _) s
  | contracts => exact property_yields (auditedFacade_yields _ _) s
  | identicator => exact property_yields (auditedFacade_yields _ _) s

/-- Code that does not close the transport. -/
abbrev LeavesOpen {α : Type} (p : ClientPy α) : Prop :=
  Prog.Only (S := clientEffects) (fun o => o ≠ ClientOp.closeTransport) p

theorem property_leaves {service : ServiceName} {build : ClientPy ServiceFacade}
    (hbuild : LeavesOpen build) :
    LeavesOpen (JibitClient.property service build) := by
  refine ⟨by simp, fun found => ?_⟩
  cases found with
  | some facade => exact ⟨by simp, fun _ => trivial⟩
  | none => exact hbuild.bind fun facade => ⟨by simp, fun _ => ⟨by simp, fun _ => trivial⟩⟩

theorem authenticatedEngine_leaves (c : JibitClient) (service : ServiceName) :
    LeavesOpen (c.authenticatedEngine service) := by
  refine ⟨by simp, fun found => ?_⟩
  cases found with
  | some engine => trivial
  | none =>
    show LeavesOpen
      (Prog.ofExcept (ServiceAuthenticator.new service c.config c.engine c.locks c.logger) >>= _)
    refine Prog.Only.bind (Prog.always_ofExcept.mpr trivial) fun authenticator => ?_
    exact ⟨by simp, fun _ => trivial⟩

theorem auditedFacade_leaves (c : JibitClient) (service : ServiceName) (eventName : String) :
    LeavesOpen (c.auditedFacade service eventName) :=
  (authenticatedEngine_leaves c service).bind fun _ => trivial

theorem facade_leaves (c : JibitClient) (service : ServiceName) :
    LeavesOpen (c.facade service) := by
  cases service with
  | paymentGateway => exact property_leaves ((authenticatedEngine_leaves c _).bind fun _ => trivial)
  | kyc =>
      exact property_leaves (Prog.Only.bind (Prog.always_ofExcept.mpr trivial) fun _ => trivial)
  | transfers => exact property_leaves (auditedFacade_leaves c _ _)
  | cobank => exact property_leaves (auditedFacade_leaves c _ _)
  | directDebit => exact property_leaves (auditedFacade_leaves c _ _)
  | sms => exact property_leaves (auditedFacade_leaves c _ _)
  | contracts => exact property_leaves (auditedFacade_leaves c _ _)
  | identicator => exact property_leaves (auditedFacade_leaves c _ _)

theorem betweenCalls_step {o : ClientOp} {a : o.Answer} {s' : ClientState ι}
    (ho : o ≠ .closeTransport)
    (hs : BetweenCalls i s) (hstep : ((clientSharing c closing).view i).step o s a s') :
    BetweenCalls i s' := by
  rcases hstep with ⟨s₁, hleaves, -, hstep⟩
  have hs₁ : BetweenCalls i s₁ := fun hmem => hleaves.closed (hs (hleaves.own.mp hmem))
  cases o with
  | closeTransport => exact absurd rfl ho
  | readEngine service => exact hstep.2 ▸ hs₁
  | readFacade service => exact hstep.2 ▸ hs₁
  | readClosed => exact hstep.2 ▸ hs₁
  | writeEngine service engine =>
    rw [show s' = _ from hstep]
    exact hs₁
  | writeFacade service facade =>
    rw [show s' = _ from hstep]
    exact hs₁
  | writeClosed =>
    rw [show s' = _ from hstep]
    exact fun _ => rfl

theorem close_yields (hi : closing i) (hs : BetweenCalls i s) :
    c.close.Meets ((clientSharing c closing).view i) ((clientSharing c closing).keeps i)
      (fun r t => Promised c .close r ∧ BetweenCalls i t) s := by
  refine Prog.meets_perform_bind.mpr ⟨readClosed_keeps, fun closed s' hread => ?_⟩
  have hs' := betweenCalls_step (by simp) hs hread
  rcases hread with ⟨s₁, -, -, rfl, rfl⟩
  cases hclosed : s'.closed with
  | true => exact ⟨.inl rfl, hs'⟩
  | false =>
    have hnew : i ∉ s'.closers := fun hmem => by
      rw [hs' hmem] at hclosed
      cases hclosed
    simp only [Bool.false_eq_true, if_false]
    by_cases howns : c.ownsTransport = true
    · rw [if_pos howns]
      refine ⟨closeTransport_keeps howns hi hnew, fun raised s₂ hclose => ?_⟩
      rcases hclose with ⟨s₃, hleaves, -, rfl⟩
      cases raised with
      | some e => exact ⟨.inr ⟨howns, e, rfl⟩, fun hmem => absurd (hleaves.own.mp hmem) hnew⟩
      | none =>
        refine ⟨writeClosed_keeps fun _ => List.mem_cons_self, fun _ t hwrite => ?_⟩
        rcases hwrite with ⟨t₁, -, -, rfl⟩
        exact ⟨.inl rfl, fun _ => rfl⟩
    · rw [if_neg howns]
      refine ⟨writeClosed_keeps fun h => absurd h howns, fun _ t hwrite => ?_⟩
      rcases hwrite with ⟨t₁, -, -, rfl⟩
      exact ⟨.inl rfl, fun _ => rfl⟩

end Access

/-! ## 4. A small client -/

/-- A client of the sample configuration. -/
def sampleClient (transportGiven : Bool) : JibitClient :=
  .new sampleRuntime sampleConfig transportGiven none none none

/-- The attributes of a client, answered one after the other; closing a transport works. -/
def clientAnswer {ι : Type} (i : ι) :
    (o : ClientOp) → ClientState ι → Option (o.Answer × ClientState ι)
  | .readEngine service, s => some (s.engines service, s)
  | .writeEngine service engine, s =>
    some ((), { s with engines := Function.update s.engines service (some engine) })
  | .readFacade service, s => some (s.facades service, s)
  | .writeFacade service facade, s =>
    some ((), { s with facades := Function.update s.facades service (some facade) })
  | .readClosed, s => some (s.closed, s)
  | .writeClosed, s => some ((), { s with closed := true })
  | .closeTransport, s => some (none, { s with closers := i :: s.closers })

theorem clientAnswer_step {ι : Type} (i : ι) (o : ClientOp) (s : ClientState ι) (a : o.Answer)
    (s' : ClientState ι) (h : clientAnswer i o s = some (a, s')) :
    (clientWorld i).step o s a s' := by
  cases o <;> cases h <;> first | exact ⟨rfl, rfl⟩ | rfl

/-- Ask for the transfers, and close the client or leave it open. -/
def visit (closing : Bool) : Prog clientCalls PyError (Except PyError (Option ServiceFacade)) := do
  let facade ← Prog.perform (S := clientCalls) (.facade .transfers)
  if closing then
    let _ ← Prog.perform (S := clientCalls) .close
  pure facade

/-- Two such threads, scheduled like this. -/
def playVisits (c : JibitClient) (closing : Bool → Bool) (schedule : List Bool) :
    (Bool → ClientPy (Except PyError (Option ServiceFacade))) × ClientState Bool :=
  play (S := clientEffects) clientAnswer schedule (fun i => (visit (closing i)).through c.body) {}

theorem playVisits_runs (c : JibitClient) (closing : Bool → Bool) (schedule : List Bool) :
    Interleaved clientWorld (fun i => (visit (closing i)).through c.body) {}
      (playVisits c closing schedule).1 (playVisits c closing schedule).2 :=
  play_interleaved (S := clientEffects) (fun s => s) clientAnswer_step schedule .start

/-- The threads take turns: both find no facade, and both build one. -/
def turns : List Bool := (List.replicate 8 [false, true]).flatten

/-! ## 5. Threads -/

section Threads
variable {c : JibitClient} {ι ε α : Type} [DecidableEq ι] {closing : ι → Prop}
  {ps₀ : ι → Prog clientCalls ε α} {ps : ι → Prog clientEffects ε α} {s : ClientState ι}

/-- The calls of a thread that may close the client, or may not. -/
def mayCall (closing : Prop) : ClientCall → Prop
  | .close => closing
  | _ => True

theorem promised_immutable {call : ClientCall} {r : Except PyError call.Result}
    (h : Promised c call r)
    (hcall : mayCall (c.ownsTransport = false) call) : r = immutable c call := by
  cases call with
  | facade service => exact h
  | authenticatedEngine service => exact h
  | close =>
    rcases h with h | ⟨howns, -⟩
    · exact h
    · rw [show c.ownsTransport = false from hcall] at howns
      cases howns

omit [DecidableEq ι] in
theorem body_meets {i : ι} {call : ClientCall} {s : ClientState ι}
    (hcall : mayCall (closing i) call) (hs : BetweenCalls i s) :
    (c.body call).Meets ((clientSharing c closing).view i) ((clientSharing c closing).keeps i)
      (fun r t => Promised c call r ∧ BetweenCalls i t) s := by
  cases call with
  | facade service =>
    exact (facade_yields service s).frame (facade_leaves c service)
      (fun _ _ _ _ => betweenCalls_step) hs
  | authenticatedEngine service =>
    exact (authenticatedEngine_yields service s).frame (authenticatedEngine_leaves c service)
      (fun _ _ _ _ => betweenCalls_step) hs
  | close => exact close_yields hcall hs

/-- Every interleaving: what holds of the attributes, and of the threads that have ended. -/
theorem client_runs (hcalls : ∀ i, (ps₀ i).Only (mayCall (closing i)))
    (run : Interleaved clientWorld (fun i => (ps₀ i).through c.body) {} ps s) :
    Faithful c closing s ∧ ∀ i r, (ps i).outcome = some r → BetweenCalls i s ∧
      ∃ tr, (ps₀ i).Emits tr r ∧ ∀ ev ∈ tr, Promised c ev.op ev.answer := by
  have hinv : Faithful c closing ({} : ClientState ι) := {
    engine := fun _ _ h => nomatch h
    facade := fun _ _ h => nomatch h
    once := List.nodup_nil
    closing := fun i h => absurd h List.not_mem_nil
    unowned := fun _ => rfl
    closed := fun _ h => absurd h Bool.false_ne_true }
  have hkept := promises_kept (A := clientSharing c closing) (fun i o s => body_meets) hcalls hinv
    (fun i h => absurd h List.not_mem_nil) run
  refine ⟨hkept.1, fun i r hr => ?_⟩
  rcases hkept.2 i r hr with ⟨t, hleaves, ht, hpromised⟩
  exact ⟨fun hmem => hleaves.closed (ht (hleaves.own.mp hmem)), hpromised⟩

/-- Threads that race for the attributes, however their reads and writes interleave, get from every
    access what the client with all its engines and facades built in advance has: an equal facade,
    though maybe another object, or an equal error. -/
theorem races_unseen
    (run : Interleaved clientWorld (fun i => (ps₀ i).through c.body) {} ps s) {i : ι}
    {r : Except ε α} (hr : (ps i).outcome = some r) :
    (∃ tr, (ps₀ i).Emits tr r ∧ ∀ ev ∈ tr, Promised c ev.op ev.answer) ∧
      ((ps₀ i).Only (mayCall (c.ownsTransport = false)) → r = (ps₀ i).eval (immutable c)) := by
  have hany (i : ι) : (ps₀ i).Only (mayCall True) :=
    Prog.Only.of_forall (fun o => by cases o <;> trivial) (ps₀ i)
  have hruns : Faithful c (fun _ => True) s ∧ _ := client_runs hany run
  rcases hruns.2 i r hr with ⟨-, tr, htr, hkept⟩
  refine ⟨⟨tr, htr, hkept⟩, fun hcalls => Prog.eval_of_emits htr fun ev hev => ?_⟩
  exact promised_immutable (hkept ev hev) (hcalls.events htr ev hev)

theorem races_unseen_visits : ∃ r,
    ((playVisits (sampleClient true) (fun _ => true) turns).1 true).outcome = some r ∧
      r = (visit true).eval (immutable (sampleClient true)) := by
  have hended :
      ((playVisits (sampleClient true) (fun _ => true) turns).1 true).outcome.isSome = true := by
    decide +kernel
  rcases Option.isSome_iff_exists.mp hended with ⟨r, hr⟩
  refine ⟨r, hr, (races_unseen (playVisits_runs _ _ _) hr).2 ?_⟩
  exact ⟨trivial, fun _ => ⟨rfl, fun _ => trivial⟩⟩

/-- No thread closes the transport twice, threads that call no `close` never do, and a transport
    that was passed in stays open; a client marked as closed has closed its own.  So a client that a
    single thread closes has closed its own transport exactly once. -/
theorem closed_once_each (hcalls : ∀ i, (ps₀ i).Only (mayCall (closing i)))
    (run : Interleaved clientWorld (fun i => (ps₀ i).through c.body) {} ps s) :
    s.closers.Nodup ∧ (∀ i ∈ s.closers, c.ownsTransport = true ∧ closing i) ∧
      (c.ownsTransport = true → s.closed = true → s.closers ≠ []) ∧
      ∀ j, (∀ i, closing i → i = j) → s.closed = true →
        s.closers = if c.ownsTransport then [j] else [] := by
  have hinv := (client_runs hcalls run).1
  have howner (i : ι) (hi : i ∈ s.closers) : c.ownsTransport = true := by
    by_contra hunowned
    rw [hinv.unowned (Bool.eq_false_iff.mpr hunowned)] at hi
    exact absurd hi List.not_mem_nil
  refine ⟨hinv.once, fun i hi => ⟨howner i hi, hinv.closing i hi⟩, hinv.closed,
    fun j hj hclosed => ?_⟩
  cases howns : c.ownsTransport with
  | false => exact hinv.unowned howns
  | true =>
    rw [if_pos rfl]
    by_contra hne
    rcases (hinv.once.ne_singleton_iff j).mp hne with hnil | ⟨i, hi, hij⟩
    · exact hinv.closed howns hclosed hnil
    · exact hij (hj i (hinv.closing i hi))

theorem closed_once_each_visits :
    let s := (playVisits (sampleClient false) (fun i => !i) turns).2
    s.closed = true ∧ s.closers = [false] := by
  have hclosed :
    (playVisits (sampleClient false) (fun i => !i) turns).2.closed = true := by decide +kernel
  have hcalls (i : Bool) : (visit !i).Only (mayCall (i = false)) := by
    cases i with
    | false => exact ⟨trivial, fun _ => ⟨rfl, fun _ => trivial⟩⟩
    | true => exact ⟨trivial, fun _ => trivial⟩
  have hall := closed_once_each hcalls
    (playVisits_runs (sampleClient false) (fun i => !i) turns)
  exact ⟨hclosed, hall.2.2.2 false (fun _ h => h) hclosed⟩

/-- Two threads that close the client at once can both close its transport. -/
example : (playVisits (sampleClient false) (fun _ => true) turns).2.closers = [true, false] := by
  decide +kernel

end Threads

end JibitSdk.Guarantees
