import VoxTrader.Core.UnknownConflict
import VoxTrader.Runtime.Chronicle

/-!
# What is sent is what was approved

A quantity goes a long way from a command to the broker: the adapter turns it into signed lots, the
engine may cut it, the store keeps what was approved, the coordinator writes it back into the
command, and the adapter looks at that command once more. The result is that the command is sent
with the approved lots and is otherwise unchanged, and that these are at most what was asked for, as
long as the store does not answer with an approval that was decided for other lots. It does so when
two dispatches of one request overlap: it returns the approval that is there without comparing it.

## Main definitions

* `Backed` — every reservation has its decision, with lots within the request.
* `Kept` — nothing that was decided or reserved is taken back.
* `ownApproval` — an approval that is found when one is persisted was decided for the same lots.

## Main results

* `backed_reach`, `kept_reach` — the tables of the risk store along runs.
* `sent_as_approved` — what is sent is what was approved.
* `approvals_are_durable` — no approval is taken back.
* `approved_for_another_call` — otherwise more may be sent than was asked for.
-/

namespace VoxTrader.Core

open VoxTrader.Runtime VoxTrader.Risk Process System
open RiskDb (validateApprovalLink)
open Except (stopIf_eq_ok seq_eq_ok orStop_eq_ok pair_inj)

/-! ## The tables of the risk store -/

/-- The approved lots are at most the requested ones, and point the same way. -/
def WithinRequest (d : RiskDecision) : Prop :=
  d.approvedDeltaLots.val.natAbs ≤ d.requestedDeltaLots.val.natAbs ∧
    (d.approvedDeltaLots.val ≠ 0 → d.approvedDeltaLots.signum = d.requestedDeltaLots.signum)

/-- **What the engine approves is within the request.** -/
lemma withinRequest_of_evaluated {d : RiskDecision} (h : Evaluated d)
    (hd : d.permitsDispatch = true) : WithinRequest d := by
  obtain ⟨decisionId, policy, request, h⟩ := h
  obtain ⟨grant, hreview, hgrant⟩ := evaluate_permits h hd
  by_cases hdir : d.action.directional = true
  · obtain ⟨base, projected, increasing, requestedAbs, ha⟩ := exists_approved h hd hdir
    obtain ⟨hsign, hle⟩ := ha.approved_cases
    have hpos := ha.pos
    rw [WithinRequest, evaluate_requested h hd hdir]
    refine ⟨by omega, fun _ => ?_⟩
    rcases hsign with ⟨hrequest, hval⟩ | ⟨hrequest, hval⟩
    · rw [FixedInt.signum_of_pos hrequest, FixedInt.signum_of_pos (by omega)]
    · rw [FixedInt.signum_of_neg hrequest, FixedInt.signum_of_neg (by omega)]
  · have haction : request.action.directional = false := by
      rw [hgrant] at hdir
      exact Bool.eq_false_of_not_eq_true hdir
    obtain ⟨-, hcleanup⟩ := review_cleanup haction hreview
    have hzero : d.approvedDeltaLots.val = 0 := by
      rw [hgrant, ← hcleanup]
      rfl
    exact ⟨by rw [hzero]; exact Nat.zero_le _, fun h => absurd hzero h⟩

/-- **Every reservation is backed** by the decision of its request, with lots within the request. -/
def Backed (db : RiskDb) : Prop :=
  ∀ r ∈ db.reservations, ∃ d ∈ db.decisions, validateApprovalLink d r = .ok () ∧ WithinRequest d

/-- Nothing that was decided or reserved is taken back. -/
structure Kept (db db' : RiskDb) : Prop where
  decisions : ∀ d ∈ db.decisions, d ∈ db'.decisions
  reservations : ∀ r ∈ db.reservations, ∃ r' ∈ db'.reservations, r'.request = r.request ∧
    r'.reservationId = r.reservationId ∧ r'.reservedDeltaLots = r.reservedDeltaLots

lemma Kept.refl (db : RiskDb) : Kept db db :=
  ⟨fun _ hd => hd, fun r hr => ⟨r, hr, rfl, rfl, rfl⟩⟩

lemma Kept.trans {db db₁ db₂ : RiskDb} (h : Kept db db₁) (h' : Kept db₁ db₂) : Kept db db₂ := by
  refine ⟨fun d hd => h'.decisions d (h.decisions d hd), fun r hr => ?_⟩
  obtain ⟨r₁, hr₁, hrequest₁, hid₁, hlots₁⟩ := h.reservations r hr
  obtain ⟨r₂, hr₂, hrequest₂, hid₂, hlots₂⟩ := h'.reservations r₁ hr₁
  exact ⟨r₂, hr₂, hrequest₂.trans hrequest₁, hid₂.trans hid₁, hlots₂.trans hlots₁⟩

variable {op : RiskStoreOp}

/-- A call of the store keeps everything. -/
lemma StoreChange.kept {db db' : RiskDb} (h : StoreChange db op db') : Kept db db' := by
  cases h with
  | nothing hdecisions hreservations =>
    exact ⟨fun d hd => hdecisions ▸ hd, fun r hr => ⟨r, hreservations ▸ hr, rfl, rfl, rfl⟩⟩
  | decided hdecisions hreservations =>
    exact ⟨fun d hd => hdecisions ▸ List.mem_append_left _ hd,
      fun r hr => ⟨r, hreservations ▸ hr, rfl, rfl, rfl⟩⟩
  | approved _ hdecisions hreservations =>
    exact ⟨fun d hd => hdecisions ▸ List.mem_append_left _ hd,
      fun r hr => ⟨r, hreservations ▸ List.mem_append_left _ hr, rfl, rfl, rfl⟩⟩
  | @moved reservationId expected remaining now state current hcurrent hstate =>
    refine ⟨fun d hd => hd, fun r hr => ?_⟩
    by_cases hid : r.reservationId = reservationId
    · exact ⟨RiskDb.moved remaining state now r, Rows.mem_update.mpr ⟨r, hr, if_pos hid⟩, rfl, rfl,
        rfl⟩
    · exact ⟨r, Rows.mem_update.mpr ⟨r, hr, if_neg hid⟩, rfl, rfl, rfl⟩

/-- The link of an approval depends on what is kept of a reservation. -/
lemma validateApprovalLink_congr {d : RiskDecision} {r r' : RiskReservation}
    (hrequest : r'.request = r.request) (hid : r'.reservationId = r.reservationId)
    (hlots : r'.reservedDeltaLots = r.reservedDeltaLots) :
    validateApprovalLink d r' = validateApprovalLink d r := by
  obtain ⟨haccount, hlogical⟩ := Prod.mk.inj hrequest
  simp only [validateApprovalLink, haccount, hlogical, hid, hlots]

/-- The decisions a call of the store may write. -/
def RiskStoreOp.Bounded : RiskStoreOp → Prop
  | persistApprovalAtomic d _ _ => d.permitsDispatch = true → WithinRequest d
  | _ => True

/-- **A call of the store keeps every reservation backed.** -/
lemma Backed.exec {accountId : String} {db db' : RiskDb} {a : op.Value}
    (h : Backed db) (hop : op.Bounded) (hexec : op.exec accountId db = .ok (a, db')) :
    Backed db' := by
  have hkept := (RiskStoreOp.exec_change hexec).kept
  -- a row that was there, or moved
  have hold : ∀ r' ∈ db'.reservations, (∃ r ∈ db.reservations, r'.request = r.request ∧
      r'.reservationId = r.reservationId ∧ r'.reservedDeltaLots = r.reservedDeltaLots) →
      ∃ d ∈ db'.decisions, validateApprovalLink d r' = .ok () ∧ WithinRequest d := by
    rintro r' - ⟨r, hr, hrequest, hid, hlots⟩
    obtain ⟨d, hd, hlink, hwithin⟩ := h r hr
    exact ⟨d, hkept.decisions d hd, (validateApprovalLink_congr hrequest hid hlots).trans hlink,
      hwithin⟩
  intro r' hr'
  cases RiskStoreOp.exec_change hexec with
  | nothing _ hreservations | decided _ hreservations =>
    exact hold r' hr' ⟨r', hreservations ▸ hr', rfl, rfl, rfl⟩
  | @approved d r capacity db' hfree hdecisions hreservations =>
    rcases List.mem_append.mp (hreservations ▸ hr') with hr | hr
    · exact hold r' hr' ⟨r', hr, rfl, rfl, rfl⟩
    · obtain rfl := List.mem_singleton.mp hr
      obtain ⟨hlink, -⟩ := RiskDb.persistApprovalAtomic_cases hexec
      refine ⟨d, hdecisions ▸ List.mem_append_right _ (List.mem_singleton_self d), hlink, hop ?_⟩
      simp only [validateApprovalLink, stopIf_eq_ok, not_or, not_not] at hlink
      exact hlink.2.2.2.1
  | @moved reservationId expected remaining now state current hcurrent hstate =>
    obtain ⟨r, hr, hmoved⟩ := Rows.mem_update.mp hr'
    refine hold r' hr' ⟨r, hr, ?_⟩
    split_ifs at hmoved <;> subst hmoved <;> exact ⟨rfl, rfl, rfl⟩

/-! ## Along runs -/

/-- The discipline: an approval that is persisted is within its request. -/
def approvalDiscipline : Discipline (full adapterOps) Unit where
  pre op _ :=
    match op with
    | .inl (.inl (.inr (.store op))) => RiskStoreOp.Bounded op
    | _ => True
  next _ _ g := g

/-- What it says about the operations of the adapter. -/
abbrev bounded (op : (withRisk adapterOps).Op) : Prop :=
  approvalDiscipline.pre (.inl (.inl op)) ()

/-- What is free for the adapter is bounded. -/
lemma bounded_adapterFree : AdapterFree bounded where
  ask _ _ := trivial
  adapter op hop := by
    cases op with
    | store op =>
      cases op with
      | persistApprovalAtomic => cases hop
      | _ => trivial
    | _ => trivial
  decide _ _ := trivial
  approve decision reservationId reservation capacity hdecision hpermits := by
    have hwithin : WithinRequest decision := withinRequest_of_evaluated hdecision hpermits
    exact hwithin
  journal op hop := by
    cases op with
    | store => cases hop
    | _ => trivial

/-- A bounded program keeps the discipline. -/
lemma approval_keeps {α : Type} {x : Process (withRisk adapterOps) α}
    (hx : x.Performs bounded) : Keeps approvalDiscipline.left.left (fun _ => True) x :=
  hx.keeps fun _ hop _ _ => ⟨hop, fun _ => trivial⟩

lemma approval_closed : approvalDiscipline.left.left.left.Closed fun _ => True :=
  fun _ _ _ => ⟨trivial, fun _ => trivial⟩

lemma approval_reconcileRule (adapter : RiskAdapter) :
    ReconcileRule approvalDiscipline.left adapter.port (fun _ => True) (fun _ _ => True) where
  base _ := fun _ => ⟨trivial, fun _ => rfl⟩
  serves _ _ _ := trivial
  read _ _ := ⟨trivial, fun _ => trivial, fun _ => trivial⟩
  commit _ _ _ _ := ⟨trivial, fun _ => trivial⟩
  apply report g _ := approval_keeps (RiskAdapter.performs_reconcile
    bounded_adapterFree.toAdapterRest (fun _ => trivial) report) g trivial

lemma approval_job (adapter : RiskAdapter) (scope : RuntimeScope) (job : Job) :
    Follows approvalDiscipline (fun _ _ => True) (job.program adapter.port scope) () := by
  cases job with
  | dispatch =>
    exact follows_bind.mpr (((DispatchCourse.constant (.of_closed approval_closed)
      (fun _ _ _ => ⟨trivial, fun _ => trivial⟩) (fun _ _ => keeps_of_closed approval_closed)
      (approval_keeps (RiskAdapter.performs_admitCommand bounded_adapterFree adapter _ _ _))
      (fun _ _ => approval_keeps
        (RiskAdapter.performs_validateBeforeDispatch bounded_adapterFree adapter _ _ _))
      fun _ => approval_keeps (RiskAdapter.performs_recordDispatchOutcome
        bounded_adapterFree.toAdapterRest _ _)).follows approval_closed trivial).mono
          fun _ _ _ => trivial)
  | _ => exact (approval_reconcileRule adapter).follows rfl trivial

section Runs

variable {adapter : RiskAdapter} {scope : RuntimeScope}

/-- The tables of the risk store. -/
def riskDb (c : (Timeline (adapter.side scope) scope adapter.port).Config) : RiskDb :=
  AdapterState.db c.state.state.risk

variable {good : (Timeline (adapter.side scope) scope adapter.port).Condition}
  {c₀ c c' : (Timeline (adapter.side scope) scope adapter.port).Config}
  {label : (Timeline (adapter.side scope) scope adapter.port).Label}

/-- An operation leaves the tables alone, or is a call of the store that succeeds. -/
lemma exec_riskDb {op : (full adapterOps).Op} {who : ℕ} {site : Site}
    {choice : Choice AdapterChoice} {w w' : World AdapterState} {r : (full adapterOps).Res op}
    (h : execOp (adapter.side scope) scope op who site choice w = some (w', r)) :
    w'.risk.db = w.risk.db ∨ ∃ storeOp a, op = .inl (.inl (.inr (AdapterOp.store storeOp))) ∧
      storeOp.exec adapter.canonicalAccountId w.risk.db = .ok (a, w'.risk.db) := by
  rcases op with ((op | op) | op) | op
  · obtain ⟨_, _, rfl, -⟩ := execBase_frame h
    exact .inl rfl
  · have hrisk : op.exec adapter.canonicalAccountId scope who site choice.risk w.db w.risk =
        (w'.risk, r) := by
      cases h
      rfl
    by_cases hstore : ∃ storeOp, op = .store storeOp
    · obtain ⟨storeOp, rfl⟩ := hstore
      rcases AdapterState.call_cases hrisk with ⟨hsame, -⟩ | ⟨a, db, hexec, -, hrisk⟩
      · exact .inl (congrArg AdapterState.db hsame)
      · refine .inr ⟨storeOp, a, rfl, ?_⟩
        rw [hrisk]
        exact hexec
    · exact .inl (AdapterOp.exec_frame hrisk fun storeOp heq => hstore ⟨storeOp, heq⟩).1
  · obtain ⟨_, _, rfl, -⟩ := execSnapshot_frame h
    exact .inl rfl
  · obtain ⟨_, _, _, rfl, -⟩ := execDispatch_frame h
    exact .inl rfl

/-- So does a step, for the process that takes it. -/
lemma step_riskDb (h : TracedStep c label c') :
    riskDb c' = riskDb c ∨ ∃ (who : ℕ) (site : Site) (op : RiskStoreOp)
      (next : (full adapterOps).Res (.inl (.inl (.inr (AdapterOp.store op)))) →
        Process (full adapterOps) Unit) (a : op.Value),
      c.threads[who]? = some (site, .call (.inl (.inl (.inr (AdapterOp.store op)))) next) ∧
      op.exec adapter.canonicalAccountId (riskDb c) = .ok (a, riskDb c') := by
  cases h with
  | @start job state site program hstart =>
    obtain ⟨⟨coordinators, rfl⟩, -⟩ := beginJob_frame hstart
    exact .inl rfl
  | kill _ | abandon _ _ => exact .inl rfl
  | @event e state hevent =>
    cases e with
    | newCoordinator | broker book =>
      cases hevent
      exact .inl rfl
  | @run who choice site op next state r hthread hexec =>
    rcases exec_riskDb hexec with hsame | ⟨storeOp, a, rfl, hop⟩
    · exact .inl hsame
    · exact .inr ⟨who, site, storeOp, next, a, hthread, hop⟩

/-- **Nothing that was decided or reserved is taken back.** -/
lemma kept_reach (h : Reach good c₀ c) : Kept (riskDb c₀) (riskDb c) := by
  induction h with
  | refl => exact Kept.refl _
  | step label _ _ hstep ih =>
    refine ih.trans ?_
    rcases step_riskDb (tracedStep_of_step hstep) with hsame | ⟨-, -, op, -, a, -, hop⟩
    · rw [hsame]
      exact Kept.refl _
    · exact (RiskStoreOp.exec_change hop).kept

/-- **Every reservation stays backed.** -/
lemma backed_reach (hthreads : c₀.threads = []) (htrace : c₀.state.trace = [])
    (hbacked : Backed (riskDb c₀)) (h : Reach good c₀ c) : Backed (riskDb c) := by
  have hstep : ∀ {c c' : (Timeline (adapter.side scope) scope adapter.port).Config} {label},
      Disciplined approvalDiscipline (fun _ : Site => ()) c → Backed (riskDb c) →
      good c label → TracedStep c label c' → Backed (riskDb c') := by
    intro c c' label hdisciplined hbacked _ hstep
    rcases step_riskDb hstep with hsame | ⟨who, site, op, next, a, hthread, hop⟩
    · rw [hsame]
      exact hbacked
    · exact hbacked.exec (hdisciplined.follows hthread).1 hop
  exact (Disciplined.reach (starts_of_jobs (approval_job adapter scope)) hstep
    (.of_nil hthreads htrace) hbacked h).2

end Runs

/-! ## The way of a quantity -/

/-- The command with another quantity. -/
def withQuantity (lots : I64) : RuntimeExecutionCommand → RuntimeExecutionCommand
  | .regularOrder order => .regularOrder { order with quantityLots := lots }
  | .postOrderAsync order => .postOrderAsync { order with quantityLots := lots }
  | .replaceOrder order => .replaceOrder { order with quantityLots := lots }
  | command => command

/-- **An approval changes the quantity of a command and nothing else.** -/
lemma withQuantity_of_applied {command approved : RuntimeExecutionCommand} {delta : I64}
    (hexposure : command.exposureBearing = true)
    (h : applyRiskApproval command delta = .ok approved) :
    ∃ lots : I64, lots.val = delta.val.natAbs ∧ approved = withQuantity lots command := by
  cases command with
  | regularOrder order | postOrderAsync order =>
    obtain ⟨_, hregular, rfl⟩ := Except.map_eq_ok.mp h
    simp only [seq_eq_ok, orStop_eq_ok, FixedInt.checkedAbs_eq_some] at hregular
    obtain ⟨_, -, lots, hlots, hregular⟩ := hregular
    cases hregular
    exact ⟨lots, hlots, rfl⟩
  | replaceOrder =>
    simp only [applyRiskApproval, seq_eq_ok, orStop_eq_ok, FixedInt.checkedAbs_eq_some] at h
    obtain ⟨lots, hlots, happroved⟩ := h
    cases happroved
    exact ⟨lots, hlots, rfl⟩
  | _ => cases hexposure

section Way

variable {adapter : RiskAdapter} {scope : RuntimeScope}

/-- **An approval that is found was decided for the same lots**: when a call persists an approval
and the request has one already, the lots of its decision were requested there as well. -/
def ownApproval (c : (Timeline (adapter.side scope) scope adapter.port).Config) :
    (Timeline (adapter.side scope) scope adapter.port).Label → Bool
  | .run who _ =>
    match c.threads[who]? with
    | some (_,
        .call (.inl (.inl (.inr (.store (.persistApprovalAtomic decision reservation _))))) _) =>
      ((riskDb c).reservationForRequest reservation.accountId
        reservation.logicalRequestId).isNone ||
        ((riskDb c).decisionForRequest decision.accountId decision.requestId).all
          fun found => found.requestedDeltaLots = decision.requestedDeltaLots
    | _ => true
  | _ => true

variable {good : (Timeline (adapter.side scope) scope adapter.port).Condition}
  {c₀ c : (Timeline (adapter.side scope) scope adapter.port).Config} {who : ℕ} {site : Site}

/-- A program of the risk port was run to its end by process `who`, on the way from `c₀` to `c`;
what it performed is among `part`. -/
def RanIn {α : Type} (good : (Timeline (adapter.side scope) scope adapter.port).Condition)
    (c₀ c : (Timeline (adapter.side scope) scope adapter.port).Config) (who : ℕ) (site : Site)
    (part : List ((op : (full adapterOps).Op) × (full adapterOps).Res op))
    (x : Process (withRisk adapterOps) α) (a : α) : Prop :=
  Runs (fun op (_ : Unit) r (_ : Unit) => entry op r ∈ part ∧
    PerformedIn good c₀ c who site (.inl (.inl op)) r) x () a ()

/-- The report that the adapter has was read. -/
def readReport (report : ReconciliationReport) :
    (op : (full adapterOps).Op) × (full adapterOps).Res op :=
  entry (.inr AdapterOp.readSnapshot) (some report)

/-- What an operation of the adapter has done, where it was performed. -/
lemma performed_adapter {op : AdapterOp} {r : op.Res}
    (h : PerformedIn good c₀ c who site (.inl (.inl (.inr op))) r) :
    ∃ before after choice next, Reach good c₀ before ∧ Reach good before c ∧
      Reach good after c ∧ good before (.run who choice) ∧
      before.threads[who]? = some (site, .call (.inl (.inl (.inr op))) next) ∧
      AdapterOp.exec adapter.canonicalAccountId scope who site choice.risk before.state.state.db
        before.state.state.risk op = (after.state.state.risk, r) := by
  obtain ⟨before, after, choice, next, hbefore, hgood, hthread, hexec, hstep, hafter⟩ := h
  refine ⟨before, after, choice, next, hbefore,
    (Reach.step _ .refl hgood hstep).trans hafter, hafter, hgood, hthread, ?_⟩
  obtain ⟨hw, rfl⟩ := Option.pair_inj hexec
  rw [← hw]
  rfl

/-- A call of the store that has succeeded. -/
lemma performed_store {a : op.Value}
    (h : PerformedIn good c₀ c who site (.inl (.inl (.inr (AdapterOp.store op)))) (.ok a)) :
    ∃ before after choice next, Reach good before c ∧ Reach good after c ∧
      good before (.run who choice) ∧
      before.threads[who]? = some (site, .call (.inl (.inl (.inr (AdapterOp.store op)))) next) ∧
      op.exec adapter.canonicalAccountId (riskDb before) = .ok (a, riskDb after) := by
  obtain ⟨before, after, choice, next, -, hbefore, hafter, hgood, hthread, hexec⟩ :=
    performed_adapter h
  refine ⟨before, after, choice, next, hbefore, hafter, hgood, hthread, ?_⟩
  rcases AdapterState.call_cases hexec with ⟨-, e, he⟩ | ⟨a', db, hop, ha, hrisk⟩
  · cases he
  · cases ha
    rw [riskDb, riskDb, hrisk]
    exact hop

end Way

/-! ## What stands behind an admission -/

section Admission

variable {adapter : RiskAdapter} {scope : RuntimeScope}
  {good : (Timeline (adapter.side scope) scope adapter.port).Condition}
  {c₀ c : (Timeline (adapter.side scope) scope adapter.port).Config} {who : ℕ} {site : Site}
  {part : List ((op : (full adapterOps).Op) × (full adapterOps).Res op)}
  {purpose : RuntimeExecutionPurpose} {command : RuntimeExecutionCommand} {id : String}
  {admission : RiskAdmission}

/-- What stands behind an admission: the decision on the request and its reservation, for the lots
the command asked for by a report that was read. -/
structure Behind (c : (Timeline (adapter.side scope) scope adapter.port).Config)
    (part : List ((op : (full adapterOps).Op) × (full adapterOps).Res op))
    (command : RuntimeExecutionCommand) (id : String) (admission : RiskAdmission)
    (decision : RiskDecision) (reservation : RiskReservation) (first : ReconciliationReport)
    (asked : CommandDescription) : Prop where
  decided : decision ∈ (riskDb c).decisions
  decision_request : decision.request = (adapter.canonicalAccountId, id)
  decision_id : decision.decisionId = admission.decisionId
  reserved : reservation ∈ (riskDb c).reservations
  reservation_request : reservation.request = (adapter.canonicalAccountId, id)
  read : readReport first ∈ part
  described : commandDescription command first = .ok asked
  requested : decision.requestedDeltaLots = asked.deltaLots

/-- The store was asked. -/
lemma ran_store {ε : Type} {f : RiskStoreError → ε} {a : op.Value}
    (h : RanIn good c₀ c who site part (orFail f (riskStore op)).run (.ok a)) :
    PerformedIn good c₀ c who site (.inl (.inl (.inr (AdapterOp.store op)))) (.ok a) :=
  (runs_perform.mp (runs_orFail_ok.mp h)).2

/-- The report was read. -/
lemma ran_read {ε : Type} {report : ReconciliationReport}
    (h : RanIn good c₀ c who site part (liftM (adapterCall .readSnapshot) :
      Adapter ε (Option ReconciliationReport)).run (.ok (some report))) :
    readReport report ∈ part := by
  obtain ⟨r, hcall, hr⟩ := runs_liftExcept.mp h
  cases hr
  exact (runs_perform.mp hcall).1

/-- An approval that is granted once more. -/
lemma behind_of_replay {existing : PersistedRiskApproval}
    (hdecision : existing.decision ∈ (riskDb c).decisions)
    (hrequest : existing.decision.request = (adapter.canonicalAccountId, id))
    {r : RiskReservation} (hr : r ∈ (riskDb c).reservations)
    (hreserved : r.request = (adapter.canonicalAccountId, id))
    (h : RanIn good c₀ c who site part (RiskAdapter.replay command id existing).run
      (.ok admission)) :
    ∃ first asked, Behind c part command id admission existing.decision r first asked := by
  unfold RiskAdapter.replay at h
  split_ifs at h
  · cases h.1
  obtain ⟨mutation, _, -, h⟩ := runs_bindExcept_ok.mp h
  split_ifs at h
  · cases h.1
  obtain ⟨snapshot, _, hsnapshot, h⟩ := runs_bindExcept_ok.mp h
  rcases snapshot with _ | report
  · cases h.1
  obtain ⟨asked, _, hasked, h⟩ := runs_bindExcept_ok.mp h
  split_ifs at h with hsame
  · cases h.1
  cases h.1
  rw [not_or, not_or, not_not, not_not, not_not] at hsame
  exact ⟨report, asked, hdecision, hrequest, rfl, hr, hreserved, ran_read hsnapshot,
    (runs_computed hasked).1.symm, hsame.2.2.symm⟩

/-- The approval that was persisted, or found when it was to be persisted. -/
lemma behind_of_persist {decision : RiskDecision} {reservation : RiskReservation}
    {capacity : ReservationCapacity} {persisted : PersistedRiskApproval}
    {first : ReconciliationReport} {asked : CommandDescription}
    (hgood : ∀ c label, good c label → ownApproval c label = true)
    (h : PerformedIn good c₀ c who site (.inl (.inl (.inr (AdapterOp.store
      (.persistApprovalAtomic decision reservation capacity))))) (.ok persisted))
    (haccount : decision.accountId = adapter.canonicalAccountId) (hid : decision.requestId = id)
    (hrequested : decision.requestedDeltaLots = asked.deltaLots)
    (hread : readReport first ∈ part) (hdescribed : commandDescription command first = .ok asked) :
    ∃ r, Behind c part command id
      (RiskAdapter.admission persisted.decision (some persisted.reservation.reservationId))
      persisted.decision r first asked := by
  obtain ⟨before, after, choice, next, hbefore, hafter, hlabel, hthread, hexec⟩ := performed_store h
  obtain ⟨hlink, -, hcases⟩ := RiskDb.persistApprovalAtomic_cases hexec
  simp only [validateApprovalLink, stopIf_eq_ok, not_or, not_not] at hlink
  obtain ⟨hlinkAccount, hlinkId, -⟩ := hlink
  rcases hcases with ⟨hfound, hdecided, -⟩ | ⟨-, -, rfl, hreservations, hdecisions, -⟩
  · -- another call has persisted an approval of the request, for the same lots
    obtain ⟨hr, hrequest⟩ := RiskDb.reservationForRequest_eq_some.mp hfound
    obtain ⟨hd, hdrequest⟩ := Rows.mem_of_select hdecided
    obtain ⟨r, hr', hrequest', -⟩ := (kept_reach hbefore).reservations _ hr
    have hown := hgood before _ hlabel
    simp only [ownApproval, hthread, hfound, Option.isNone_some, Bool.false_or, hdecided,
      Option.all_some, decide_eq_true_eq] at hown
    refine ⟨r, (kept_reach hbefore).decisions _ hd, ?_, rfl, hr', ?_, hread, hdescribed,
      hown.trans hrequested⟩
    · rw [hdrequest, haccount, hid]
    · rw [hrequest', hrequest, ← hlinkAccount, ← hlinkId, haccount, hid]
  · obtain ⟨r, hr, hrequest, -⟩ := (kept_reach hafter).reservations reservation
      (hreservations ▸ List.mem_append_right _ (List.mem_singleton_self _))
    refine ⟨r, (kept_reach hafter).decisions decision
      (hdecisions ▸ List.mem_append_right _ (List.mem_singleton_self _)), ?_, rfl, hr, ?_, hread,
      hdescribed, hrequested⟩
    · rw [RiskDecision.request, haccount, hid]
    · rw [hrequest, RiskReservation.request, ← hlinkAccount, ← hlinkId, haccount, hid]

/-- **What stands behind the admission of a command that can add exposure.** -/
lemma behind_of_admit (hgood : ∀ c label, good c label → ownApproval c label = true)
    (hexposure : command.exposureBearing = true)
    (h : RanIn good c₀ c who site part (adapter.admitCommand purpose command id).run
      (.ok admission)) :
    ∃ decision reservation first asked,
      Behind c part command id admission decision reservation first asked := by
  obtain ⟨existing, _, hexisting, h⟩ := runs_bindExcept_ok.mp h
  obtain ⟨reservation, _, hreservation, hexisting⟩ := runs_bindExcept_ok.mp hexisting
  obtain ⟨decision, _, hdecision, hexisting⟩ := runs_bindExcept_ok.mp hexisting
  obtain ⟨before₁, _, _, _, hbefore₁, -, -, -, hread₁⟩ := performed_store (ran_store hreservation)
  obtain ⟨before₂, _, _, _, hbefore₂, -, -, -, hread₂⟩ := performed_store (ran_store hdecision)
  have hfound := Except.mapError_eq_ok.mp (runs_computed hexisting).1.symm
  rcases existing with _ | existing
  · obtain ⟨policy, request, decisionId, d, _, _, _, hrequest, hevaluated, hpermits, hpersist⟩ :=
      runs_decide_parts h
    obtain ⟨snapshot, answers, unresolved, reserved, _, _, _, hsnapshot, -, hbuilt⟩ :=
      runs_buildRequest hrequest
    obtain ⟨report, asked, rfl, hfrom⟩ := buildRequest_eq_ok hbuilt
    obtain ⟨hrequestId, haccountId⟩ := buildRequest_identity hbuilt
    obtain ⟨hdecisionId, hdecisionAccount⟩ := evaluate_identity hevaluated
    have hdirectional : request.action.directional = true :=
      hfrom.action ▸ directional_of_exposureBearing hexposure hfrom.described
    have haction : d.action.directional = true := by
      obtain ⟨grant, -, rfl⟩ := evaluate_permits hevaluated hpermits
      exact hdirectional
    obtain ⟨reservationId, notional, persisted, _, _, hpersisted, rfl⟩ :=
      runs_persistApproval hdirectional hpersist
    obtain ⟨r, hbehind⟩ := behind_of_persist hgood (ran_store hpersisted)
      (hdecisionAccount.trans haccountId) (hdecisionId.trans hrequestId)
      ((evaluate_requested hevaluated hpermits haction).trans hfrom.delta) (ran_read hsnapshot)
      hfrom.described
    exact ⟨persisted.decision, r, report, asked, hbehind⟩
  · rcases decision with _ | decision <;> rcases reservation with _ | reservation <;>
      simp only [RiskDb.approvalForRequest] at hfound
    all_goals try cases hfound
    obtain ⟨_, -, hfound⟩ := seq_eq_ok.mp hfound
    cases Except.ok.inj hfound
    obtain ⟨hr, hrequest⟩ :=
      RiskDb.reservationForRequest_eq_some.mp (pair_inj hread₁).1
    obtain ⟨hd, hdrequest⟩ := Rows.mem_of_select (pair_inj hread₂).1
    obtain ⟨r, hr', hrequest', -⟩ := (kept_reach hbefore₁).reservations _ hr
    obtain ⟨first, asked, hbehind⟩ := behind_of_replay ((kept_reach hbefore₂).decisions _ hd)
      hdrequest hr' (hrequest'.trans hrequest) h
    exact ⟨decision, r, first, asked, hbehind⟩

end Admission

/-! ## What is sent -/

/-- The side of a command that can add exposure, by a report: a replacement has the side of the
order that it replaces, as long as the report shows that one open. -/
def sideBy (report : ReconciliationReport) : RuntimeExecutionCommand → Option OrderSide
  | .regularOrder order | .postOrderAsync order => some order.side
  | .replaceOrder order =>
    (report.activeOrders.find? (goesBy · order.existingOrderId)).bind (·.side)
  | _ => none

/-- Signed lots tell the side. -/
lemma signum_signedLots {side : OrderSide} {lots delta : I64}
    (h : signedLots side lots = .ok delta) : delta.signum = if side = .buy then 1 else -1 := by
  obtain ⟨_, hpositive, h⟩ := seq_eq_ok.mp h
  replace hpositive : ¬ lots.val ≤ 0 := stopIf_eq_ok.mp hpositive
  cases side with
  | buy =>
    cases h
    exact FixedInt.signum_of_pos (by omega)
  | sell =>
    have hval := FixedInt.ofInt?_eq_some.mp (orStop_eq_ok.mp h)
    exact FixedInt.signum_of_neg (by omega)

/-- A command that can be described has a side, and its signed lots tell which. -/
lemma sideBy_of_described {command : RuntimeExecutionCommand} {report : ReconciliationReport}
    {description : CommandDescription} (hexposure : command.exposureBearing = true)
    (h : commandDescription command report = .ok description) :
    ∃ side, sideBy report command = some side ∧
      description.deltaLots.signum = if side = .buy then 1 else -1 := by
  cases command with
  | regularOrder order | postOrderAsync order =>
    obtain ⟨delta, hdelta, h⟩ := seq_eq_ok.mp h
    cases h
    exact ⟨order.side, rfl, signum_signedLots hdelta⟩
  | replaceOrder order =>
    obtain ⟨existing, hexisting, h⟩ := seq_eq_ok.mp h
    obtain ⟨side, hside, h⟩ := seq_eq_ok.mp h
    obtain ⟨delta, hdelta, h⟩ := seq_eq_ok.mp h
    cases h
    refine ⟨side, ?_, signum_signedLots hdelta⟩
    rw [sideBy, orStop_eq_ok.mp hexisting]
    exact orStop_eq_ok.mp hside
  | _ => cases hexposure

section Sent

variable (adapter : RiskAdapter) (scope : RuntimeScope)

/-- What process `who` has done about a command that it is about to send: it had the command
admitted, `first` is the report that was read for that; then the last look let it through, `last` is
the report that was read in it; and the adapter was not asked since. -/
def Looked (c : (Timeline (adapter.side scope) scope adapter.port).Config) (who : ℕ)
    (purpose : RuntimeExecutionPurpose) (command approved : RuntimeExecutionCommand) (id : String)
    (first last : ReconciliationReport) : Prop :=
  ∃ admission later look before, performedBy who c.state.trace = later ++ look ++ before ∧
    (∀ d ∈ later, asksRisk d.1 = false) ∧
    Runs (fun op (_ : Unit) r (_ : Unit) => entry op r ∈ before)
      (adapter.admitCommand purpose command id).run () (.ok admission) () ∧
    readReport first ∈ before ∧
    Runs (Logged entry) (adapter.validateBeforeDispatch approved id admission).run [] (.ok ())
      look ∧
    readReport last ∈ look

/-- **What is sent is what was approved.** The decision and the reservation of the request are in
the store; `asked` is what the command does by the report that was read to admit it, and `sent` what
the command that is sent does by the report that was read in the last look. By that report the
command has the side that it had when it was admitted; in particular an order that is replaced is
still open. -/
structure SentWith (c : (Timeline (adapter.side scope) scope adapter.port).Config) (who : ℕ)
    (purpose : RuntimeExecutionPurpose) (command approved : RuntimeExecutionCommand) (id : String)
    (decision : RiskDecision) (reservation : RiskReservation) (first last : ReconciliationReport)
    (asked sent : CommandDescription) : Prop where
  decided : (riskDb c).decisionForRequest adapter.canonicalAccountId id = some decision
  reserved : (riskDb c).reservationForRequest adapter.canonicalAccountId id = some reservation
  looked : Looked adapter scope c who purpose command approved id first last
  asked_by : commandDescription command first = .ok asked
  sent_by : commandDescription approved last = .ok sent
  approved_lots : sent.deltaLots = decision.approvedDeltaLots
  reserved_lots : sent.deltaLots = reservation.reservedDeltaLots
  same_action : sent.action = decision.action
  same_side : ∃ side, sideBy first command = some side ∧ sideBy last approved = some side
  same_sign : sent.deltaLots.signum = asked.deltaLots.signum
  at_most : sent.deltaLots.val.natAbs ≤ asked.deltaLots.val.natAbs
  some_lots : sent.deltaLots.val ≠ 0
  otherwise_same : ∃ lots : I64, lots.val = sent.deltaLots.val.natAbs ∧
    approved = withQuantity lots command

/-- What is granted on an exposure is not nothing. -/
lemma approved_ne_zero {command : RuntimeExecutionCommand} {admission : RiskAdmission}
    (hexposure : command.exposureBearing = true)
    (h : incompleteApproval command admission = false) : admission.approvedDeltaLots.val ≠ 0 := by
  intro hzero
  simp [incompleteApproval, hexposure, hzero] at h

/-- An approval makes no command add exposure. -/
lemma exposureBearing_of_applied {command approved : RuntimeExecutionCommand} {delta : I64}
    (h : applyRiskApproval command delta = .ok approved)
    (hexposure : approved.exposureBearing = true) : command.exposureBearing = true := by
  cases command with
  | regularOrder _ | postOrderAsync _ | replaceOrder _ => rfl
  | _ =>
    obtain ⟨_, -, happroved⟩ := seq_eq_ok.mp h
    rw [← Except.ok.inj happroved] at hexposure
    exact hexposure

/-- **What is sent is what was approved, as long as an approval that is found was decided for the
same lots.** In every run of coordinators with the production risk adapter that meets the condition,
from a store in which every reservation is backed by its decision: when a command that can add
exposure is about to be sent, its signed lots by the report that was read in the last look are the
approved and the reserved ones, point the way the request does and are no more than it asked for,
and everything else about it is as it was. A command whose side is another one by that report, or
whose order is no longer open, is not sent.

**Proof sketch.** The call has been admitted, and the last look has let the command through; both
were run to their ends on the way. The admission leads to a decision on the request, for the lots of
the command, with a reservation; nothing of this is taken back later. The last look has compared the
lots of the command with those of the decision of the same id, which is that decision. Reservations
stay backed, so the reserved lots are the approved ones, and within the request. -/
theorem sent_as_approved {c₀ c : (Timeline (adapter.side scope) scope adapter.port).Config}
    (hthreads : c₀.threads = []) (htrace : c₀.state.trace = []) (hbacked : Backed (riskDb c₀))
    (hreach : Reach (fun c label => ownApproval c label = true) c₀ c) {who : ℕ} {site : Site}
    {purpose : RuntimeExecutionPurpose} {approved : RuntimeExecutionCommand}
    {record : MutationRecord}
    {next : (full adapterOps).Res (.inr (.dispatchOnce purpose approved record)) →
      Process (full adapterOps) Unit}
    (hthread : c.threads[who]? =
      some (site, .call (.inr (.dispatchOnce purpose approved record)) next))
    (hexposure : approved.exposureBearing = true) :
    ∃ command id correlationId decision reservation first last asked sent,
      site.job = .dispatch purpose command id correlationId ∧
      SentWith adapter scope c who purpose command approved id decision reservation first last asked
        sent := by
  obtain ⟨command, id, correlationId, admission, hjob, hgranted, later, look, before, hperformed,
    hlater, hadmitted, hlook⟩ := sent_after_admission hthreads htrace hreach hthread
  have hbearing : command.exposureBearing = true :=
    exposureBearing_of_applied hgranted.applied hexposure
  have hdone {op r} (hop : ⟨op, r⟩ ∈ look ∨ ⟨op, r⟩ ∈ before) :
      PerformedIn (fun c label => ownApproval c label = true) c₀ c who site op r := by
    refine performedIn_of_mem hthreads htrace hreach hthread ?_
    rw [hperformed, List.append_assoc]
    exact List.mem_append_right _ (List.mem_append.mpr hop)
  have hran : RanIn (fun c label => ownApproval c label = true) c₀ c who site before
      (adapter.admitCommand purpose command id).run (.ok admission) :=
    (Runs.transfer (fun op _ r _ _ hop => ⟨(), hop, hdone (.inr hop)⟩) hadmitted).elim fun _ h => h
  obtain ⟨decision, reservation, first, asked, hbehind⟩ :=
    behind_of_admit (fun _ _ hgood => hgood) hbearing hran
  -- the last look, each operation of which was performed on the way
  obtain ⟨seen⟩ := runs_validateBeforeDispatch hlook.mem_log.2
  obtain ⟨_, _, hdecided⟩ := seen.decided
  obtain ⟨_, _, hread⟩ := seen.reported
  obtain ⟨atDecision, _, _, _, hdecisionLater, -, -, -, hdecision⟩ :=
    performed_store (hdone (.inl hdecided))
  obtain ⟨hmem, hid⟩ := Rows.mem_of_select (pair_inj hdecision).1
  -- the decision that was looked up last is the one behind the admission
  have hsame : seen.decision = decision :=
    (riskDb c).decisionIds.eq_of_key_eq ((kept_reach hdecisionLater).decisions _ hmem)
      hbehind.decided (hid.trans hbehind.decision_id.symm)
  obtain ⟨linked, hlinked, hlink, hwithin⟩ :=
    backed_reach hthreads htrace hbacked hreach reservation hbehind.reserved
  simp only [validateApprovalLink, stopIf_eq_ok, not_or, not_not] at hlink
  obtain ⟨haccount, hrequest, -, -, hlots⟩ := hlink
  obtain rfl : linked = decision := by
    refine (riskDb c).decisionRequests.eq_of_key_eq hlinked hbehind.decided ?_
    rw [hbehind.decision_request, ← hbehind.reservation_request]
    exact Prod.ext haccount hrequest
  have happroved : linked.approvedDeltaLots = admission.approvedDeltaLots := by
    have hgrant := seen.granted
    simp only [RiskAdapter.grantedDecision, Bool.and_eq_true, decide_eq_true_eq] at hgrant
    exact hsame ▸ hgrant.1.2
  have hsent : seen.description.deltaLots = linked.approvedDeltaLots := hsame ▸ seen.sameLots
  have hne : linked.approvedDeltaLots.val ≠ 0 :=
    happroved ▸ approved_ne_zero hbearing hgranted.complete
  have hsign : seen.description.deltaLots.signum = asked.deltaLots.signum := by
    rw [hsent, ← hbehind.requested]
    exact hwithin.2 hne
  refine ⟨command, id, correlationId, linked, reservation, first, seen.report, asked,
    seen.description, hjob, ?_⟩
  exact {
    decided := (Rows.select_eq_some (riskDb c).decisionRequests).mpr
      ⟨hbehind.decided, hbehind.decision_request⟩
    reserved := RiskDb.reservationForRequest_eq_some.mpr
      ⟨hbehind.reserved, hbehind.reservation_request⟩
    looked := ⟨admission, later, look, before, hperformed, hlater, hadmitted, hbehind.read, hlook,
      hread⟩
    asked_by := hbehind.described
    sent_by := seen.described
    approved_lots := hsent
    reserved_lots := hsent.trans hlots
    same_action := hsame ▸ seen.sameAction
    same_side := by
      obtain ⟨side, hside, hasked⟩ := sideBy_of_described hbearing hbehind.described
      obtain ⟨side', hside', hsends⟩ := sideBy_of_described hexposure seen.described
      rw [hsign, hasked] at hsends
      refine ⟨side, hside, hside'.trans (congrArg some ?_)⟩
      cases side <;> cases side' <;> first | rfl | cases hsends
    same_sign := hsign
    at_most := by rw [hsent, ← hbehind.requested]; exact hwithin.1
    some_lots := by rw [hsent]; exact hne
    otherwise_same := by
      rw [hsent, happroved]
      exact withQuantity_of_applied hbearing hgranted.applied }

end Sent

/-- The lots of an order. -/
def orderedLots : RuntimeExecutionCommand → Option ℤ
  | .regularOrder order => some order.quantityLots.val
  | _ => none

/-- The lots a thread was asked to send, and those it is about to send. -/
def sendingLots (thread : Site × Process (full adapterOps) Unit) : Option ℤ × Option ℤ :=
  match thread with
  | (⟨_, .dispatch _ command _ _⟩, .call (.inr (.dispatchOnce _ approved _)) _) =>
    (orderedLots command, orderedLots approved)
  | _ => (none, none)

/-- The same order for five lots. -/
def buyFiveLots : RuntimeExecutionCommand :=
  withQuantity (.lit 5) buyTenLots

/-- Two calls with one request id: the one for five lots has found no approval when the one for ten
lots persists its own. -/
def twoQuantities :
    List (Timeline (fixtureAdapter.side fixtureScope) fixtureScope fixtureAdapter.port).Label :=
  [.start (0, .dispatch .sandboxMutation buyTenLots "request-1" "correlation-1"),
    .start (0, .dispatch .sandboxMutation buyFiveLots "request-1" "correlation-2")] ++
  List.replicate 9 (.run 1 (namedChoice "fresh-2")) ++ List.replicate 17 (.run 0 gateChoice) ++
  List.replicate 20 (.run 1 (namedChoice "fresh-2"))

/-- **More may be sent than was asked for.** The call for five lots is given the approval of the
call for ten, and is about to send ten. -/
theorem approved_for_another_call : ∃ c, gateConfig.run twoQuantities = some c ∧
      c.threads[1]?.map sendingLots = some (some 5, some 10) := by
  decide +kernel

/-- The call for ten lots alone, up to the point where it sends. -/
def oneQuantity :
    List (Timeline (fixtureAdapter.side fixtureScope) fixtureScope fixtureAdapter.port).Label :=
  .start (0, .dispatch .sandboxMutation buyTenLots "request-1" "correlation-1") ::
    List.replicate 29 (.run 0 gateChoice)

/-- The process is about to send a command that can add exposure. -/
def sendsExposure : Process (full adapterOps) Unit → Bool
  | .call (.inr (.dispatchOnce _ approved _)) _ => approved.exposureBearing
  | _ => false

/-- Which programs those are. -/
lemma sendsExposure_eq_true {program : Process (full adapterOps) Unit}
    (h : sendsExposure program = true) : ∃ purpose approved record next,
      program = .call (.inr (.dispatchOnce purpose approved record)) next ∧
        approved.exposureBearing = true := by
  unfold sendsExposure at h
  split at h
  · exact ⟨_, _, _, _, rfl, h⟩
  · cases h

/-- A call that sends what was approved. -/
theorem ten_lots_sent_as_approved : ∃ c site program,
      gateConfig.runIf (fun c label => ownApproval c label = true) oneQuantity = some c ∧
      c.threads[0]? = some (site, program) ∧ sendsExposure program = true ∧
      ∃ purpose command approved id decision reservation first last asked sent,
        SentWith fixtureAdapter fixtureScope c 0 purpose command approved id decision reservation
          first last asked sent := by
  obtain ⟨c, hc, ⟨site, program⟩, hthread, hsends⟩ : ∃ c,
      gateConfig.runIf (fun c label => ownApproval c label = true) oneQuantity = some c ∧
      ∃ thread, c.threads[0]? = some thread ∧ sendsExposure thread.2 = true := by
    decide +kernel
  refine ⟨c, site, program, hc, hthread, hsends, ?_⟩
  obtain ⟨purpose, approved, record, next, rfl, hexposure⟩ := sendsExposure_eq_true hsends
  have hbacked : Backed (riskDb gateConfig) := by
    intro r hr
    cases hr
  obtain ⟨command, id, -, decision, reservation, first, last, asked, sent, -, hsent⟩ :=
    sent_as_approved fixtureAdapter fixtureScope rfl rfl hbacked (Config.reach_of_runIf hc)
      hthread hexposure
  exact ⟨purpose, command, approved, id, decision, reservation, first, last, asked, sent, hsent⟩

/-- **Approvals are durable.** In every run of coordinators with the production risk adapter,
whatever the stores refuse and whichever calls are lost: no decision and no reservation is taken
back, or given other lots or another request, and behind every reservation there is the decision
that approves it, for the same lots and within the request. -/
theorem approvals_are_durable {adapter : RiskAdapter} {scope : RuntimeScope}
    {c₀ c c' : (Timeline (adapter.side scope) scope adapter.port).Config}
    (hthreads : c₀.threads = []) (htrace : c₀.state.trace = []) (hbacked : Backed (riskDb c₀))
    (hreach : Reach (fun _ _ => True) c₀ c) (hlater : Reach (fun _ _ => True) c c') :
    Kept (riskDb c) (riskDb c') ∧ Backed (riskDb c') :=
  ⟨kept_reach hlater, backed_reach hthreads htrace hbacked (hreach.trans hlater)⟩

/-- Two calls with one request id leave one reservation. -/
theorem two_quantities_leave_one_reservation : ∃ c, gateConfig.run twoQuantities = some c ∧
    (riskDb c).reservations.length = 1 ∧ Backed (riskDb c) := by
  obtain ⟨c, hc, hone⟩ : ∃ c, gateConfig.run twoQuantities = some c ∧
      (riskDb c).reservations.length = 1 := by decide +kernel
  exact ⟨c, hc, hone, (approvals_are_durable rfl rfl (fun _ hr => by cases hr)
    (Config.reach_of_run hc) .refl).2⟩

end VoxTrader.Core
