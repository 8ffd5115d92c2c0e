import VoxTrader.Core.Exposure
import VoxTrader.Core.RiskPort
import VoxTrader.Runtime.GateCheck

/-!
# New exposure and the gate

With the production adapter as its risk port, a coordinator looks at its gate before a command is
admitted, and fences the command many calls later without looking again. The risk port looks at
reports, not at the gate. So new exposure is fenced under an open gate as long as nobody closes the
gate between the two.

## Main results

* `RiskAdapter.port_quiet` — the adapter touches neither the coordinator nor the runtime store.
* `exposure_fenced_under_gate` — when nobody has closed the gate since the dispatch looked at it,
  the fence of new exposure finds the gate open.
* `exposure_fenced_while_reconciling` — otherwise it may find it closed.
-/

namespace VoxTrader.Core

open VoxTrader.Runtime VoxTrader.Risk Process

/-! ## The adapter keeps to itself -/

section Quiet

/-- The operation replaces the snapshot of the adapter. -/
def AdapterOp.writesSnapshot : AdapterOp → Bool
  | writeSnapshot _ => true
  | _ => false

/-- The operation looks into the runtime journal. -/
def AdapterOp.readsJournal : AdapterOp → Bool
  | mutation _ | unresolvedMutations => true
  | _ => false

/-- The operation writes neither a snapshot nor a decision, and does not look into the journal. -/
def AdapterOp.plain : AdapterOp → Bool
  | writeSnapshot _ | store (.putDecision _) | store (.persistApprovalAtomic ..) => false
  | op => !op.readsJournal

/-- The decision is one of the engine's. -/
def Evaluated (decision : RiskDecision) : Prop :=
  ∃ decisionId policy request, evaluate decisionId policy request = .ok decision

/-- Allowed are questions other than for the next signal of a stream, every operation of the
adapter that writes neither a snapshot nor a decision and does not look into the journal, and
writing a decision of the engine. -/
structure AdapterRest (allowed : (withRisk adapterOps).Op → Prop) : Prop where
  ask : ∀ question, question ≠ .nextSignal → allowed (.inl (.external question))
  adapter : ∀ op : AdapterOp, op.plain = true → allowed (.inr op)
  decide : ∀ decision, Evaluated decision → allowed (.inr (AdapterOp.store (.putDecision decision)))
  approve : ∀ decision reservationId reservation capacity, Evaluated decision →
    allowed (.inr (AdapterOp.store (.persistApprovalAtomic
      { decision with reservationId := some reservationId } reservation capacity)))

/-- Looking into the journal is allowed as well. -/
structure AdapterFree (allowed : (withRisk adapterOps).Op → Prop) : Prop extends
    AdapterRest allowed where
  journal : ∀ op : AdapterOp, op.readsJournal = true → allowed (.inr op)

/-- All of this is quiet. -/
lemma quietOp_adapterFree : AdapterFree (quietOp (R := adapterOps)) where
  ask _ _ := trivial
  adapter _ _ := trivial
  decide _ _ := trivial
  approve _ _ _ _ _ := trivial
  journal _ _ := trivial

variable {allowed : (withRisk adapterOps).Op → Prop}

lemma performs_computed {ε α : Type} (result : Except ε α) :
    (computed result).run.Performs allowed := trivial

/-- What follows a computation may use its result. -/
lemma performs_computed_bind {ε α β : Type} {result : Except ε α} {f : α → Adapter ε β}
    (hf : ∀ a, result = .ok a → (f a).run.Performs allowed) :
    (computed result >>= f).run.Performs allowed := by
  cases result with
  | ok a => exact hf a rfl
  | error => exact trivial

/-- An operation that is allowed. -/
lemma performs_adapterOp {op : AdapterOp} (hop : allowed (.inr op)) :
    (adapterCall op).Performs allowed :=
  ⟨hop, fun _ => trivial⟩

section Rest

variable (h : AdapterRest allowed)
include h

lemma performs_adapterCall {op : AdapterOp} (hop : op.plain = true) :
    (adapterCall op).Performs allowed :=
  performs_adapterOp (h.adapter op hop)

lemma performs_riskStore {op : RiskStoreOp} (hop : (AdapterOp.store op).plain = true) :
    (riskStore op).Performs allowed :=
  performs_adapterCall h hop

lemma performs_riskStoreCall {op : RiskStoreOp} (hop : (AdapterOp.store op).plain = true) :
    (riskStoreCall op).run.Performs allowed :=
  (performs_riskStore h hop).orFail

variable {decision : RiskDecision}

lemma performs_putDecision (hdecision : Evaluated decision) :
    (riskStoreCall (.putDecision decision)).run.Performs allowed := by
  have hput : (riskStore (.putDecision decision)).Performs allowed :=
    ⟨h.decide decision hdecision, fun _ => trivial⟩
  exact hput.orFail

lemma performs_adapterNow : adapterNow.run.Performs allowed := by
  refine Performs.bindExcept ⟨h.ask .now nofun, fun _ => trivial⟩ fun now => ?_
  cases now with
  | none => exact performs_throw
  | some => exact performs_pure

namespace RiskAdapter

lemma performs_policy : policy.run.Performs allowed := by
  refine (performs_riskStoreCall h rfl).bindExcept fun current => ?_
  cases current with
  | some => exact performs_pure
  | none => exact (performs_adapterNow h).bindExcept fun _ => performs_riskStoreCall h rfl

lemma performs_approvalForRequest {id : String} :
    (approvalForRequest id).run.Performs allowed :=
  (performs_riskStoreCall h rfl).bindExcept fun _ => (performs_riskStoreCall h rfl).bindExcept
    fun _ => performs_computed _

lemma performs_replay {command : RuntimeExecutionCommand} {id : String}
    {existing : PersistedRiskApproval} (hmutation : allowed (.inr (AdapterOp.mutation id))) :
    (replay command id existing).run.Performs allowed := by
  unfold replay
  split_ifs
  · exact performs_throw
  refine (performs_adapterOp hmutation).orFail.bindExcept fun mutation => ?_
  split_ifs
  · exact performs_throw
  refine (performs_adapterCall h rfl).except.bindExcept fun snapshot => ?_
  cases snapshot with
  | none => exact performs_throw
  | some =>
    refine (performs_computed _).bindExcept fun description => ?_
    split_ifs
    · exact performs_throw
    · exact performs_pure

lemma performs_persistApproval {policy : RiskPolicySet} {request : RiskRequest}
    (hdecision : Evaluated decision) :
    (persistApproval policy request decision).run.Performs allowed := by
  unfold persistApproval
  split_ifs
  · refine (performs_adapterCall h rfl).except.bindExcept fun reservationId => ?_
    generalize scaledNotional request.requestedNotionalNanos request.requestedDeltaLots
      decision.approvedDeltaLots = scaled
    refine (performs_computed scaled).bindExcept fun notional => ?_
    have hpersist : (riskStore (.persistApprovalAtomic
        { decision with reservationId := some reservationId }
        (reservationFor request decision reservationId notional)
        ⟨policy.maxGrossExposureNanos, policy.maxPositionAbsLots⟩)).Performs allowed :=
      ⟨h.approve decision reservationId _ _ hdecision, fun _ => trivial⟩
    exact hpersist.orFail.bindExcept fun _ => performs_pure
  · exact (performs_putDecision h hdecision).bindExcept fun _ => performs_pure

lemma performs_validateDecision : (validateDecision decision).run.Performs allowed := by
  have hexpiry : (validateExpiry decision).run.Performs allowed := by
    unfold validateExpiry
    cases decision.expiresAtUnixMs with
    | none => exact performs_pure
    | some =>
      refine (performs_adapterNow h).bindExcept fun now => ?_
      split_ifs
      · exact performs_throw
      · exact performs_pure
  refine hexpiry.bindExcept fun _ => (performs_policy h).bindExcept fun current => ?_
  split_ifs
  · exact performs_throw
  refine (performs_adapterCall h rfl).orFail.bindExcept fun _ => ?_
  refine (performs_adapterCall h rfl).orFail.bindExcept fun authorization => ?_
  split_ifs
  · exact performs_throw
  · exact performs_pure

lemma performs_validateInstrument {description : CommandDescription} :
    (validateInstrument description decision).run.Performs allowed := by
  unfold validateInstrument
  split_ifs
  · refine Performs.bindExcept (performs_adapterCall h rfl)
      fun revision => ?_
    cases revision with
    | none => exact performs_throw
    | some =>
      dsimp only
      split_ifs
      · exact performs_throw
      · exact performs_pure
  · exact performs_pure

lemma performs_reservationOp {op : ReservationOp} {id : String} {now : I64} :
    (reservationOp op id now).run.Performs allowed := by
  refine (performs_computed op.precheck).bindExcept fun _ => ?_
  refine (performs_riskStore h rfl).orFail.bindExcept fun reservation => ?_
  cases reservation with
  | none => exact performs_throw
  | some r =>
    refine (performs_computed (op.plan r)).bindExcept fun plan => ?_
    cases plan with
    | unchanged => exact performs_pure
    | update => exact (performs_riskStore h rfl).orFail

lemma performs_recordDispatchOutcome (id : String) (outcome : RiskDispatchOutcome) :
    (recordDispatchOutcome id outcome).run.Performs allowed := by
  refine (performs_adapterNow h).bindExcept fun now => ?_
  refine (performs_reservationOp h).except.bindExcept fun result => ?_
  rcases result with e | r
  · cases e with
    | reservationNotFound => exact performs_pure
    | _ => exact performs_throw
  · exact performs_pure

/-- The reservations one after the other. -/
lemma performs_reconcileEach (report : ReconciliationReport) (active : List RiskReservation) :
    (reconcileEach report active).run.Performs allowed := by
  induction active with
  | nil => exact performs_pure
  | cons r rest ih =>
    refine (performs_computed (reconcileOp report r.logicalRequestId)).bindExcept fun op => ?_
    exact (performs_reservationOp h).orFail.bindExcept fun _ => ih

/-- Reconciling also replaces the snapshot. -/
lemma performs_reconcile (hwrite : ∀ report, allowed (.inr (AdapterOp.writeSnapshot report)))
    (report : ReconciliationReport) : (RiskAdapter.reconcile report).run.Performs allowed := by
  have hsnapshot : (adapterCall (.writeSnapshot report)).Performs allowed :=
    ⟨hwrite report, fun _ => trivial⟩
  exact hsnapshot.except.bindExcept fun _ =>
    (performs_riskStoreCall h rfl).bindExcept fun _ => performs_reconcileEach h report _

end RiskAdapter

end Rest

namespace RiskAdapter

section Free

variable (h : AdapterFree allowed)
include h

lemma performs_admitCommand (adapter : RiskAdapter) (purpose : RuntimeExecutionPurpose)
    (command : RuntimeExecutionCommand) (id : String) :
    (adapter.admitCommand purpose command id).run.Performs allowed := by
  have hbuild : ∀ policy, (adapter.buildRequest purpose command id policy).run.Performs
      allowed := fun policy =>
    (performs_adapterCall h.toAdapterRest rfl).except.bindExcept fun _ =>
      (performs_adapterCall h.toAdapterRest rfl).except.bindExcept fun _ =>
        (performs_adapterOp (h.journal .unresolvedMutations rfl)).except.bindExcept fun _ =>
          (performs_riskStore h.toAdapterRest rfl).except.bindExcept fun _ => performs_computed _
  refine (performs_approvalForRequest h.toAdapterRest).bindExcept fun existing => ?_
  cases existing with
  | some => exact performs_replay h.toAdapterRest (h.journal (.mutation id) rfl)
  | none =>
    refine (performs_policy h.toAdapterRest).bindExcept fun policy =>
      (hbuild policy).bindExcept fun request => ?_
    refine (performs_adapterCall h.toAdapterRest rfl).except.bindExcept fun decisionId => ?_
    refine performs_computed_bind fun decision hdecision => ?_
    have hevaluated : Evaluated decision :=
      ⟨decisionId, policy, request, Except.mapError_eq_ok.mp hdecision⟩
    split_ifs
    · exact performs_persistApproval h.toAdapterRest hevaluated
    · exact (performs_putDecision h.toAdapterRest hevaluated).bindExcept fun _ => performs_throw

lemma performs_validateBeforeDispatch (adapter : RiskAdapter) (command : RuntimeExecutionCommand)
    (id : String) (admission : RiskAdmission) :
    (adapter.validateBeforeDispatch command id admission).run.Performs allowed := by
  refine (performs_riskStoreCall h.toAdapterRest rfl).bindExcept fun decision => ?_
  cases decision with
  | none => exact performs_throw
  | some =>
    dsimp only
    split_ifs
    · exact performs_throw
    refine (performs_validateDecision h.toAdapterRest).bindExcept fun _ => ?_
    refine (performs_adapterCall h.toAdapterRest rfl).except.bindExcept fun snapshot => ?_
    cases snapshot with
    | none => exact performs_throw
    | some report =>
      dsimp only
      split_ifs
      · exact performs_throw
      refine (performs_computed (commandDescription command report)).bindExcept
        fun description => ?_
      split_ifs
      · exact performs_throw
      refine (performs_validateInstrument h.toAdapterRest).bindExcept fun _ => ?_
      refine (performs_adapterOp (h.journal .unresolvedMutations rfl)).orFail.bindExcept
        fun unresolved => ?_
      split_ifs
      · exact performs_throw
      · exact performs_pure

end Free

/-- **The adapter touches neither the coordinator nor the runtime store.** -/
lemma port_quiet (adapter : RiskAdapter) : adapter.port.Quiet where
  admitCommand := performs_admitCommand quietOp_adapterFree adapter
  validateBeforeDispatch _ := performs_validateBeforeDispatch quietOp_adapterFree adapter
  recordDispatchOutcome := performs_recordDispatchOutcome quietOp_adapterFree.toAdapterRest
  reconcile := performs_reconcile quietOp_adapterFree.toAdapterRest fun _ => trivial

end RiskAdapter

end Quiet

/-! ## The fence -/

/-- The job dispatches a command that can add exposure. -/
def exposureBearingJob : Job → Bool
  | .dispatch _ command _ _ => command.exposureBearing
  | _ => false

/-- The next operation of a program is the fence of its command. -/
def atFence {R : Interface} : Process (full R) Unit → Bool
  | .call (.inr (.transitionMutation _ expected _ _ _ _)) _ => expected = [.notDispatched]
  | _ => false

/-- **When nobody has closed the gate since a dispatch looked at it, the fence of new exposure finds
the gate open.**

**Proof sketch.** A dispatch that can add exposure comes to its fence only after it has seen all
four conditions of the gate hold. Each of them still holds, because nobody has closed the gate since
the dispatch read the first one. -/
theorem exposure_fenced_under_gate (adapter : RiskAdapter) (scope : RuntimeScope)
    {c₀ c : (Timeline (adapter.side scope) scope adapter.port).Config}
    (hthreads : c₀.threads = []) (htrace : c₀.state.trace = [])
    (hreach : System.Reach (fun _ _ => True) c₀ c) {who : ℕ} {site : Site}
    {program : Process (full adapterOps) Unit} {i : Instance}
    (hthread : c.threads[who]? = some (site, program))
    (hi : c.state.state.coordinators[site.coordinator]? = some i)
    (hjob : exposureBearingJob site.job = true) (hfence : atFence program = true)
    (hopen : closedSince who site.coordinator c.state.trace = false) : i.gateOpen := by
  obtain ⟨horderly, hmeets⟩ := gate_meets adapter.port_quiet hthreads htrace hreach hthread hi hopen
  unfold atFence at hfence
  split at hfence
  · rename_i expected _ _ _ _ _
    have hpre := (horderly.disciplined.follows hthread).1
    have hexposing : (activityAt who site c.state.trace).exposing = true := by
      rw [activityAt_exposing]
      cases hsite : site.job with
      | dispatch =>
        rw [hsite] at hjob
        exact hjob
      | _ =>
        rw [hsite] at hjob
        cases hjob
    have hgate : (activityAt who site c.state.trace).gate = 4 :=
      hpre (of_decide_eq_true hfence) hexposing
    rw [hgate] at hmeets
    exact hmeets.gateOpen
  · cases hfence

/-! ## A run in which the gate is closed too late -/

/-- A policy without a bound on the age of market data. -/
def gatePolicy : RiskPolicySet := { fixturePolicy with maxMarketDataAgeMs := none }

/-- What is behind the adapter after a reconciliation without orders. -/
def gateAdapterState : AdapterState where
  db := { RiskDb.empty with
    policies := [("account-1", gatePolicy)]
    policyAccounts := List.nodup_singleton _ }
  snapshots _ := some { ownOrderReport with activeOrders := [] }
  lookups := []

/-- A ready coordinator with the production adapter, before any call. -/
def gateConfig :
    (Timeline (fixtureAdapter.side fixtureScope) fixtureScope fixtureAdapter.port).Config :=
  ⟨⟨⟨readyDb, [readyInstance], gateAdapterState, [], [], []⟩, []⟩, []⟩

/-- Nothing fails, and the broker acknowledges. -/
def gateChoice : Choice AdapterChoice :=
  plainChoice ⟨false, none, "fresh-1", fixtureAnswers, .ok (), .ok 1, .ok (some 3)⟩

/-- A dispatch of ten lots up to its fence, and an operator who forces a reconciliation for some
steps. -/
def dispatchToFence (steps : ℕ) :
    List (Timeline (fixtureAdapter.side fixtureScope) fixtureScope fixtureAdapter.port).Label :=
  [.start (0, .dispatch .sandboxMutation buyTenLots "request-1" "correlation-1"),
    .start (0, .forceReconciliation .reconciliationStarted "operator")] ++
  List.replicate 28 (.run 0 gateChoice) ++ List.replicate steps (.run 1 gateChoice)

/-- **New exposure is fenced while the runtime reconciles.** The operator's call moves the state
after the dispatch has passed the gate, and the fence succeeds all the same. -/
theorem exposure_fenced_while_reconciling : ∃ c c', gateConfig.run (dispatchToFence 6) = some c ∧
      c.step (.run 0 gateChoice) = some c' ∧
      (c.threads[0]?.map fun thread => exposureBearingJob thread.1.job && atFence thread.2) =
        some true ∧
      c.state.state.db.journalState "request-1" = some .notDispatched ∧
      c'.state.state.db.journalState "request-1" = some .unknownAfterDispatch ∧
      (c.state.state.coordinators[0]?.map (·.state)) = some .reconciling := by
  simp only [exists_and_left]
  decide +kernel

/-- Without the steps of the operator's call the fence finds the gate open. -/
theorem exposure_fenced_when_undisturbed : ∃ c i, gateConfig.run (dispatchToFence 0) = some c ∧
      c.state.state.coordinators[0]? = some i ∧ i.gateOpen := by
  obtain ⟨c, hc, i, hi, ⟨⟨coordinator, job⟩, program⟩, hthread, hsite, hjob, hfence, hopen⟩ :
      ∃ c, gateConfig.run (dispatchToFence 0) = some c ∧
        ∃ i, c.state.state.coordinators[0]? = some i ∧ ∃ thread, c.threads[0]? = some thread ∧
          thread.1.coordinator = 0 ∧ exposureBearingJob thread.1.job = true ∧
          atFence thread.2 = true ∧ closedSince 0 0 c.state.trace = false := by
    decide +kernel
  refine ⟨c, i, hc, hi, ?_⟩
  obtain rfl : coordinator = 0 := hsite
  exact exposure_fenced_under_gate fixtureAdapter fixtureScope rfl rfl
    (System.Config.reach_of_run hc) hthread hi hjob hfence hopen

end VoxTrader.Core
