import VoxTrader.Core.RiskPort
import VoxTrader.Lib.Alone

/-!
# Calls of the production risk adapter among others

A call of the adapter, with anything happening between its operations: each operation is performed
in some world of which a given condition holds, whatever the world was after the operation before.
So a result about such calls holds for every interleaving in which the condition holds whenever
the call does something.

## Main definitions

* `during` — one operation, in a world that meets a condition.

## Main results

* `runs_validateBeforeDispatch` — what a last look that lets a command through has seen.
* `runs_decide_parts`, `runs_decide` — what an approval was decided on.
-/

namespace VoxTrader.Core

open VoxTrader.Runtime VoxTrader.Risk Process

section

variable (adapter : RiskAdapter) (scope : RuntimeScope) (who : ℕ) (site : Site)
  (P : Choice AdapterChoice → World AdapterState → Prop)

/-- One operation of a call, in some world that meets the condition; what the outside decides is
part of the condition. -/
def during (op : (withRisk adapterOps).Op) (_ : World AdapterState)
    (r : (withRisk adapterOps).Res op) (w' : World AdapterState) : Prop :=
  ∃ choice w, P choice w ∧
    execOp (adapter.side scope) scope (.inl (.inl op)) who site choice w = some (w', r)

end

section

variable {adapter : RiskAdapter} {scope : RuntimeScope} {who : ℕ} {site : Site}
  {P : Choice AdapterChoice → World AdapterState → Prop} {w w' : World AdapterState}

variable {op : AdapterOp} {r : op.Res} {ε : Type} {command : RuntimeExecutionCommand}
  {logicalRequestId : String} {admission : RiskAdmission} {purpose : RuntimeExecutionPurpose}

/-- The answer to an operation of the adapter. -/
lemma runs_adapterCall (h : Runs (during adapter scope who site P) (adapterCall op) w r w') :
    ∃ choice w₁, P choice w₁ ∧ (AdapterOp.exec adapter.canonicalAccountId scope who site
      choice.risk w₁.db w₁.risk op).2 = r := by
  obtain ⟨choice, w₁, hP, h⟩ := runs_perform.mp h
  exact ⟨choice, w₁, hP, (Option.pair_inj h).2⟩

/-- The same where a program may fail. -/
lemma runs_adapterCallExcept (h : Runs (during adapter scope who site P)
      (liftM (adapterCall op) : Adapter ε op.Res).run w (.ok r) w') :
    ∃ choice w₁, P choice w₁ ∧ (AdapterOp.exec adapter.canonicalAccountId scope who site
      choice.risk w₁.db w₁.risk op).2 = r := by
  obtain ⟨r', hcall, heq⟩ := runs_liftExcept.mp h
  cases heq
  exact runs_adapterCall hcall

/-- A call of the risk store that succeeds. -/
lemma runs_riskStore {op : RiskStoreOp} {r : Except RiskStoreError op.Value}
    (h : Runs (during adapter scope who site P) (riskStore op) w r w') :
    ∃ choice w₁, P choice w₁ ∧ ∀ a, r = .ok a →
      ∃ db, op.exec adapter.canonicalAccountId w₁.risk.db = .ok (a, db) := by
  obtain ⟨choice, w₁, hP, h⟩ := runs_adapterCall h
  refine ⟨choice, w₁, hP, fun a ha => ?_⟩
  rw [ha] at h
  simp only [AdapterOp.exec, AdapterState.call] at h
  split_ifs at h
  split at h
  · rename_i a' db hop
    cases h
    exact ⟨db, hop⟩
  · cases h

/-- The same where a failure makes the adapter unavailable. -/
lemma runs_riskStoreCall {op : RiskStoreOp} {a : op.Value}
    (h : Runs (during adapter scope who site P) (riskStoreCall op).run w (.ok a) w') :
    ∃ choice w₁, P choice w₁ ∧
      ∃ db, op.exec adapter.canonicalAccountId w₁.risk.db = .ok (a, db) := by
  obtain ⟨choice, w₁, hP, hexec⟩ := runs_riskStore (runs_orFail_ok.mp h)
  exact ⟨choice, w₁, hP, hexec a rfl⟩

/-- A computation changes nothing. -/
lemma runs_computed {S α : Type}
    {exec : (op : (withRisk adapterOps).Op) → S → (withRisk adapterOps).Res op → S → Prop}
    {s s' : S} {result r : Except ε α} (h : Runs exec (computed result).run s r s') :
    r = result ∧ s' = s := h

/-- The unresolved mutations that were read, in a world that met the condition. -/
lemma runs_unresolvedMutations {f : StoreError → ε} {unresolved : List MutationRecord}
    (h : Runs (during adapter scope who site P)
      (orFail f (adapterCall .unresolvedMutations)).run w (.ok unresolved) w') :
    ∃ choice w₁, P choice w₁ ∧ w₁.db.unresolvedMutations scope.key = .ok unresolved := by
  obtain ⟨choice, w₁, hP, hexec⟩ := runs_adapterCall (runs_orFail_ok.mp h)
  exact ⟨choice, w₁, hP, (AdapterChoice.orFault_eq_ok.mp hexec).2⟩

/-! ## The last look -/

section LastLook

variable {S : Type}
  {exec : (op : (withRisk adapterOps).Op) → S → (withRisk adapterOps).Res op → S → Prop} {s s' : S}

/-- What a last look that lets a command through has seen: the decision, the report and the
unresolved mutations, each as the result of an operation. -/
structure SeenLast
    (exec : (op : (withRisk adapterOps).Op) → S → (withRisk adapterOps).Res op → S → Prop)
    (adapter : RiskAdapter) (command : RuntimeExecutionCommand) (logicalRequestId : String)
    (admission : RiskAdmission) : Type where
  decision : RiskDecision
  decided : ∃ s s', exec (.inr (.store (.decision admission.decisionId))) s
    (.ok (some decision) : Except RiskStoreError (Option RiskDecision)) s'
  granted : adapter.grantedDecision logicalRequestId admission decision = true
  report : ReconciliationReport
  reported : ∃ s s', exec (.inr .readSnapshot) s (some report) s'
  description : CommandDescription
  described : commandDescription command report = .ok description
  sameLots : description.deltaLots = decision.approvedDeltaLots
  sameAction : description.action = decision.action
  unresolved : List MutationRecord
  listed : ∃ s s', exec (.inr .unresolvedMutations) s
    (.ok unresolved : Except StoreError (List MutationRecord)) s'
  clear : ∀ mutation ∈ unresolved,
    RiskAdapter.conflicting logicalRequestId description.instrumentId mutation = false

/-- **A last look that lets a command through.** -/
lemma runs_validateBeforeDispatch (h : Runs exec
      (adapter.validateBeforeDispatch command logicalRequestId admission).run s (.ok ()) s') :
    Nonempty (SeenLast exec adapter command logicalRequestId admission) := by
  obtain ⟨decision, _, hdecision, h⟩ := runs_bindExcept_ok.mp h
  rcases decision with _ | decision
  · cases h.1
  dsimp only at h
  split_ifs at h with hgranted
  · cases h.1
  obtain ⟨_, _, -, h⟩ := runs_bindExcept_ok.mp h
  obtain ⟨snapshot, _, hsnapshot, h⟩ := runs_bindExcept_ok.mp h
  obtain ⟨_, hread, heq⟩ := runs_liftExcept.mp hsnapshot
  cases heq
  rcases snapshot with _ | report
  · cases h.1
  dsimp only at h
  split_ifs at h
  · cases h.1
  obtain ⟨description, _, hdescription, h⟩ := runs_bindExcept_ok.mp h
  have hdescribed := (runs_computed hdescription).1
  split_ifs at h with hsame
  · cases h.1
  obtain ⟨_, _, -, h⟩ := runs_bindExcept_ok.mp h
  obtain ⟨unresolved, _, hunresolved, h⟩ := runs_bindExcept_ok.mp h
  split_ifs at h with hclear
  · cases h.1
  rw [not_or, not_not, not_not] at hsame
  exact ⟨{
    decision, report, description, unresolved
    decided := ⟨_, _, runs_perform.mp (runs_orFail_ok.mp hdecision)⟩
    granted := by simpa using hgranted
    reported := ⟨_, _, runs_perform.mp hread⟩
    described := hdescribed.symm
    sameLots := hsame.1
    sameAction := hsame.2
    listed := ⟨_, _, runs_perform.mp (runs_orFail_ok.mp hunresolved)⟩
    clear := by simpa using hclear }⟩

end LastLook

/-- The report of a last look, in a world that met the condition. -/
lemma SeenLast.reported_in
    (seen : SeenLast (during adapter scope who site P) adapter command logicalRequestId admission) :
    ∃ choice w, P choice w ∧ w.risk.snapshots site.coordinator = some seen.report := by
  obtain ⟨_, _, hread⟩ := seen.reported
  exact runs_adapterCall (runs_perform.mpr hread)

/-- The unresolved mutations of a last look, in a world that met the condition. -/
lemma SeenLast.listed_in
    (seen : SeenLast (during adapter scope who site P) adapter command logicalRequestId admission) :
    ∃ choice w, P choice w ∧ w.db.unresolvedMutations scope.key = .ok seen.unresolved := by
  obtain ⟨_, _, hread⟩ := seen.listed
  obtain ⟨choice, w, hP, hexec⟩ := runs_adapterCall (runs_perform.mpr hread)
  exact ⟨choice, w, hP, (AdapterChoice.orFault_eq_ok.mp hexec).2⟩

/-! ## A decision -/

/-- What an approval was decided on: the report and the unresolved mutations, each read in a world
that met the condition, and the engine's verdict. -/
structure DecidedOn (adapter : RiskAdapter) (scope : RuntimeScope) (site : Site)
    (P : Choice AdapterChoice → World AdapterState → Prop) (purpose : RuntimeExecutionPurpose)
    (command : RuntimeExecutionCommand) (logicalRequestId : String) : Type where
  policy : RiskPolicySet
  snapshot : Option ReconciliationReport
  reported : ∃ choice w, P choice w ∧ w.risk.snapshots site.coordinator = snapshot
  answers : BrokerAnswers
  unresolved : Except StoreError (List MutationRecord)
  listed : ∃ choice w, P choice w ∧
    choice.risk.orFault (w.db.unresolvedMutations scope.key) = unresolved
  reserved : Except RiskStoreError I64
  request : RiskRequest
  built : buildRequest adapter purpose command logicalRequestId policy snapshot answers unresolved
    (fun _ => reserved) = .ok request
  decisionId : String
  decision : RiskDecision
  evaluated : evaluate decisionId policy request = .ok decision
  permitted : decision.permitsDispatch = true

section Parts

variable {S : Type}
  {exec : (op : (withRisk adapterOps).Op) → S → (withRisk adapterOps).Res op → S → Prop} {s s' : S}
  {purpose : RuntimeExecutionPurpose} {command : RuntimeExecutionCommand}
  {logicalRequestId : String}

variable {policy : RiskPolicySet} {request : RiskRequest} {admission : RiskAdmission}

/-- What a request is built from. -/
lemma runs_buildRequest
    (h : Runs exec (adapter.buildRequest purpose command logicalRequestId policy).run s
      (.ok request) s') : ∃ snapshot answers unresolved reserved s₁ s₂ s₃,
      Runs exec (liftM (adapterCall .readSnapshot) :
        Adapter RiskAdmissionError (Option ReconciliationReport)).run s (.ok snapshot) s₁ ∧
      Runs exec (liftM (adapterCall .unresolvedMutations) :
        Adapter RiskAdmissionError (Except StoreError (List MutationRecord))).run s₂
        (.ok unresolved) s₃ ∧
      buildRequest adapter purpose command logicalRequestId policy snapshot answers unresolved
        (fun _ => reserved) = .ok request := by
  obtain ⟨snapshot, s₁, hsnapshot, h⟩ := runs_bindExcept_ok.mp h
  obtain ⟨answers, s₂, -, h⟩ := runs_bindExcept_ok.mp h
  obtain ⟨unresolved, s₃, hunresolved, h⟩ := runs_bindExcept_ok.mp h
  obtain ⟨reserved, _, -, h⟩ := runs_bindExcept_ok.mp h
  exact ⟨snapshot, answers, unresolved, reserved, s₁, s₂, s₃, hsnapshot, hunresolved,
    (runs_computed h).1.symm⟩

/-- What an approval consists of: the request, the engine's verdict, and the write of it. -/
lemma runs_decide_parts
    (h : Runs exec (adapter.decide purpose command logicalRequestId).run s (.ok admission) s') :
    ∃ policy request decisionId decision s₁ s₂ s₃,
      Runs exec (adapter.buildRequest purpose command logicalRequestId policy).run s₁
        (.ok request) s₂ ∧
      evaluate decisionId policy request = .ok decision ∧ decision.permitsDispatch = true ∧
      Runs exec (RiskAdapter.persistApproval policy request decision).run s₃
        (.ok admission) s' := by
  obtain ⟨policy, s₁, -, h⟩ := runs_bindExcept_ok.mp h
  obtain ⟨request, s₂, hrequest, h⟩ := runs_bindExcept_ok.mp h
  obtain ⟨decisionId, _, -, h⟩ := runs_bindExcept_ok.mp h
  obtain ⟨decision, s₃, hdecision, h⟩ := runs_bindExcept_ok.mp h
  have hevaluated := Except.mapError_eq_ok.mp (runs_computed hdecision).1.symm
  split_ifs at h with hpermits
  · exact ⟨policy, request, decisionId, decision, s₁, s₂, s₃, hrequest, hevaluated, hpermits, h⟩
  · obtain ⟨_, _, -, h⟩ := runs_bindExcept_ok.mp h
    cases h.1

/-- The approval of a command with a direction is persisted with a reservation. -/
lemma runs_persistApproval {decision : RiskDecision}
    (hdirectional : request.action.directional = true)
    (h : Runs exec (RiskAdapter.persistApproval policy request decision).run s (.ok admission) s') :
    ∃ reservationId notional persisted s₁ s₂, Runs exec (orFail RiskAdapter.persistError (riskStore
        (.persistApprovalAtomic { decision with reservationId := some reservationId }
          (RiskAdapter.reservationFor request decision reservationId notional)
          ⟨policy.maxGrossExposureNanos, policy.maxPositionAbsLots⟩))).run s₁ (.ok persisted) s₂ ∧
      admission = RiskAdapter.admission persisted.decision
        (some persisted.reservation.reservationId) := by
  unfold RiskAdapter.persistApproval at h
  rw [if_pos hdirectional] at h
  generalize scaledNotional request.requestedNotionalNanos request.requestedDeltaLots
    decision.approvedDeltaLots = scaled at h
  obtain ⟨reservationId, _, -, h⟩ := runs_bindExcept_ok.mp h
  obtain ⟨notional, _, -, h⟩ := runs_bindExcept_ok.mp h
  obtain ⟨persisted, _, hpersisted, h⟩ := runs_bindExcept_ok.mp h
  exact ⟨reservationId, notional, persisted, _, _, hpersisted, Except.ok.inj h.1⟩

end Parts

/-- **An approval that was decided on.** It is persisted last. -/
lemma runs_decide (h : Runs (during adapter scope who site P)
      (adapter.decide purpose command logicalRequestId).run w (.ok admission) w') :
    ∃ on : DecidedOn adapter scope site P purpose command logicalRequestId, ∃ w₁,
      Runs (during adapter scope who site P)
        (RiskAdapter.persistApproval on.policy on.request on.decision).run w₁
          (.ok admission) w' := by
  obtain ⟨policy, request, decisionId, decision, w₁, w₂, w₃, hrequest, hevaluated, hpermits,
    hpersist⟩ := runs_decide_parts h
  obtain ⟨snapshot, answers, unresolved, reserved, _, _, _, hsnapshot, hunresolved, hbuilt⟩ :=
    runs_buildRequest hrequest
  exact ⟨{
    policy, snapshot, answers, unresolved, reserved, request, decisionId, decision
    reported := runs_adapterCallExcept hsnapshot
    listed := runs_adapterCallExcept hunresolved
    built := hbuilt
    evaluated := hevaluated
    permitted := hpermits }, w₃, hpersist⟩

/-- An approved request is one without a conflict, unless it cleans up. -/
lemma no_conflict_of_permits {decisionId : String} {policy : RiskPolicySet} {request : RiskRequest}
    {d : RiskDecision} (h : evaluate decisionId policy request = .ok d)
    (hd : d.permitsDispatch = true) (hdirectional : request.action.directional = true) :
    request.snapshot.unresolvedUnknownConflict = false := by
  obtain ⟨grant, hreview, -⟩ := evaluate_permits h hd
  obtain ⟨_, _, _, hreviewed, -⟩ := review_eq_ok.mp hreview
  have hruntime := hreviewed.runtime
  simp only [checkRuntime, Except.seq_eq_ok, refuseIf_eq_ok] at hruntime
  obtain ⟨_, -, _, -, hclear⟩ := hruntime
  rw [RiskActionKind.cleanup_eq, hdirectional] at hclear
  simpa using hclear

end

end VoxTrader.Core
