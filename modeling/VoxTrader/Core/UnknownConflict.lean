import VoxTrader.Core.AdapterRuns
import VoxTrader.Core.ExposureFence

/-!
# Mutations of unknown outcome, and the commands they stand in the way of

A command with a direction must not be sent while another mutation on its instrument is
unresolved. Two checks see to that: one of the engine, when the command is decided on, and one of
the adapter, just before it is sent. Both go by the instrument that the evidence of the unresolved
row names. The evidence of a replacement names none, so an unresolved replacement stands in nobody's
way; a placed order does.

The engine exempts commands that clean up. The check of the adapter does not: it refuses a stop
order, or the cancellation of an order, while another mutation on the same instrument is
unresolved.

## Main definitions

* `GetsThrough` — a command gets through both checks.
* `Without` — the same worlds without the row of a request.
* `cleanupInstrument` — the instrument a clean-up is on.

## Main results

* `unresolved_post_blocks_instrument` — an unresolved mutation stands in the way of the commands on
  its instrument iff its row names the instrument.
* `unresolved_replace_lets_order_through` — that of a replacement does not.
* `cleanup_passes_last_look` — a clean-up passes the last look iff no row of another request names
  its instrument.
* `unknown_order_blocks_stop` — otherwise it is refused.
-/

namespace VoxTrader.Core

open VoxTrader.Runtime VoxTrader.Risk Process
open RiskAdapter (conflicting sameWatermark validateDecision admission)

/-! ## Orders -/

variable {command : RuntimeExecutionCommand} {description : CommandDescription}

section

variable {adapter : RiskAdapter} {scope : RuntimeScope} {who : ℕ} {site : Site}
  {P : Choice AdapterChoice → World AdapterState → Prop} {w w' : World AdapterState}

/-- The command places an order on an instrument. -/
def placesOrderOn (instrumentId : String) : RuntimeExecutionCommand → Prop
  | .regularOrder order | .postOrderAsync order => order.instrumentId = instrumentId
  | _ => False

/-- The evidence of a command that bears exposure names an instrument iff it places an order on
it: that of a replacement names none. -/
lemma evidence_names_iff {instrumentId : String} (h : command.exposureBearing = true) :
    command.evidence.instrumentRef = some instrumentId ↔ placesOrderOn instrumentId command := by
  cases command with
  | regularOrder order | postOrderAsync order => exact Option.some_inj
  | replaceOrder => exact ⟨nofun, False.elim⟩
  | _ => cases h

/-- By every report behind the adapter, the command is on the instrument. -/
def OnInstrument (instrumentId : String) (command : RuntimeExecutionCommand)
    (snapshot : Option ReconciliationReport) : Prop :=
  ∀ report description, snapshot = some report → commandDescription command report =
    .ok description → description.instrumentId = instrumentId

/-- A command that bears exposure has a direction. -/
lemma directional_of_exposureBearing
    {report : ReconciliationReport}
    (hbearing : command.exposureBearing = true)
    (h : commandDescription command report = .ok description) :
    description.action.directional = true := by
  cases command <;> try cases hbearing
  all_goals
    simp only [commandDescription, Except.seq_eq_ok, Except.orStop_eq_ok] at h
  · obtain ⟨_, -, h⟩ := h
    rw [← Except.ok.inj h]
    rfl
  · obtain ⟨_, -, h⟩ := h
    rw [← Except.ok.inj h]
    rfl
  · obtain ⟨_, -, _, -, _, -, h⟩ := h
    rw [← Except.ok.inj h]
    rfl

/-- Both checks stop a command: a call to admit it fails unless it finds an approval of before, and
the last look at it fails. -/
structure Stopped (adapter : RiskAdapter) (scope : RuntimeScope) (who : ℕ) (site : Site)
    (P : Choice AdapterChoice → World AdapterState → Prop) (command : RuntimeExecutionCommand)
    (logicalRequestId : String) : Prop where
  denied : ∀ {purpose w r w'}, Runs (during adapter scope who site P)
      (adapter.admitCommand purpose command logicalRequestId).run w r w' →
    (∃ e, r = .error e) ∨ ∃ existing w₁, Runs (during adapter scope who site P)
      (RiskAdapter.approvalForRequest logicalRequestId).run w (.ok (some existing)) w₁
  refused : ∀ {admission w r w'}, Runs (during adapter scope who site P)
      (adapter.validateBeforeDispatch command logicalRequestId admission).run w r w' →
    ∃ e, r = .error e

/-- **A row that names the instrument stands in the way of both checks.** -/
lemma stopped_of_named {instrumentId logicalRequestId : String}
    {command : RuntimeExecutionCommand} {row : MutationRecord}
    (hbearing : command.exposureBearing = true)
    (hnames : row.requestEvidence.instrumentRef = some instrumentId)
    (hother : row.logicalRequestId ≠ logicalRequestId) (hscope : row.scopeKey = scope.key)
    (hunresolved : row.state.safetyUnresolved = true)
    (hpresent : ∀ choice w, P choice w → row ∈ w.db.journal)
    (hon : ∀ choice w, P choice w →
      OnInstrument instrumentId command (w.risk.snapshots site.coordinator)) :
    Stopped adapter scope who site P command logicalRequestId := by
  have hlisted : ∀ choice w unresolved, P choice w →
      w.db.unresolvedMutations scope.key = .ok unresolved → row ∈ unresolved :=
    fun choice w unresolved hP hread =>
      (RuntimeDb.mem_unresolvedMutations hread).mpr ⟨hpresent choice w hP, hscope, hunresolved⟩
  refine ⟨fun {_ w r w'} h => ?_, fun {admission w r w'} h => ?_⟩
  · rcases runs_bindExcept.mp h with ⟨e, -, rfl⟩ | ⟨existing, w₁, happroval, h⟩
    · exact .inl ⟨e, rfl⟩
    rcases existing with _ | existing
    · left
      rcases r with e | admission
      · exact ⟨e, rfl⟩
      obtain ⟨on, -⟩ := runs_decide h
      obtain ⟨report, description, unresolved, hreport, hread, hdescription, haction, hconflict,
        -⟩ :=
        buildRequest_conflict on.built
      obtain ⟨_, w₂, hP₂, hsnapshot⟩ := on.reported
      obtain ⟨choice₃, w₃, hP₃, hmutations⟩ := on.listed
      rw [hread] at hmutations
      replace hmutations := (AdapterChoice.orFault_eq_ok.mp hmutations).2
      have hinstrument := hon _ w₂ hP₂ report description (hsnapshot.trans hreport) hdescription
      have hnone := no_conflict_of_permits on.evaluated on.permitted
        (haction ▸ directional_of_exposureBearing hbearing hdescription)
      rw [hconflict, unknownConflict, List.any_eq_false] at hnone
      have := hnone row (hlisted choice₃ w₃ unresolved hP₃ hmutations)
      simp [hunresolved, hnames, hinstrument] at this
    · exact .inr ⟨existing, w₁, happroval⟩
  · rcases r with e | u
    · exact ⟨e, rfl⟩
    obtain ⟨seen⟩ := runs_validateBeforeDispatch h
    obtain ⟨_, w₁, hP₁, hsnapshot⟩ := seen.reported_in
    obtain ⟨choice₂, w₂, hP₂, hmutations⟩ := seen.listed_in
    have hinstrument := hon _ w₁ hP₁ seen.report seen.description hsnapshot seen.described
    have hclear := seen.clear row (hlisted choice₂ w₂ _ hP₂ hmutations)
    simp [conflicting, hother, hunresolved, hnames, hinstrument] at hclear

/-! ### What a row changes -/

/-- The world without the row of a request. -/
def withoutRow (id : String) (w : World AdapterState) : World AdapterState :=
  { w with db := w.db.withoutMutation id }

/-- The condition, of worlds from which the row of a request is taken. -/
def Without (id : String) (P : Choice AdapterChoice → World AdapterState → Prop)
    (choice : Choice AdapterChoice) (w : World AdapterState) : Prop :=
  ∃ w₁, P choice w₁ ∧ w = withoutRow id w₁

/-- The operation has the same result without the row of the request. -/
def indifferent (id : String) : (withRisk adapterOps).Op → Prop
  | .inl (.external _) => True
  | .inl _ => False
  | .inr (.mutation other) => other ≠ id
  | .inr op => AdapterOp.readsJournal op = false

/-- What does not read the journal is. -/
lemma indifferent_adapterRest (id : String) : AdapterRest (indifferent id) where
  ask _ _ := trivial
  adapter op hop := by
    cases op with
    | mutation | unresolvedMutations => cases hop
    | _ => rfl
  decide _ _ := rfl
  approve _ _ _ _ _ := rfl

/-- It has, whatever the world. -/
lemma execOp_withoutRow {id : String} {op : (withRisk adapterOps).Op} (hop : indifferent id op)
    (choice : Choice AdapterChoice) (w : World AdapterState) :
    execOp (adapter.side scope) scope (.inl (.inl op)) who site choice (withoutRow id w) =
      (execOp (adapter.side scope) scope (.inl (.inl op)) who site choice w).map
        fun result => (withoutRow id result.1, result.2) := by
  rcases op with op | op
  · cases op with
    | external => rfl
    | volatile | store => exact hop.elim
  · cases op with
    | unresolvedMutations => cases hop
    | mutation other =>
      have hread : (w.db.withoutMutation id).mutation scope.key other =
          w.db.mutation scope.key other := RuntimeDb.mutation_withoutMutation hop
      simp only [execOp, RiskAdapter.side, AdapterOp.exec, withoutRow, hread]
      rfl
    | _ => rfl

/-- Two senses of the operations of a call that differ only in a row: the other operations have the
same results, and the lists of unresolved mutations differ at most in the row. In the first, the
reports put the command on the instrument. -/
structure DifferIn (row : MutationRecord) (instrumentId : String)
    (command : RuntimeExecutionCommand)
    (exec exec' : (op : (withRisk adapterOps).Op) → World AdapterState →
      (withRisk adapterOps).Res op → World AdapterState → Prop) : Prop where
  same : ∀ op s r s' t, indifferent row.logicalRequestId op → exec op s r s' → ∃ t', exec' op t r t'
  listed : ∀ s s' t listed, Runs exec (adapterCall .unresolvedMutations) s (.ok listed) s' →
    ∃ t' listed', Runs exec' (adapterCall .unresolvedMutations) t (.ok listed') t' ∧
      ∀ p : MutationRecord → Bool, p row = false → listed'.any p = listed.any p
  reported : ∀ s s' snapshot, Runs exec (adapterCall .readSnapshot) s snapshot s' →
    OnInstrument instrumentId command snapshot

section Frame

variable {row : MutationRecord} {instrumentId logicalRequestId : String}
  {exec exec' : (op : (withRisk adapterOps).Op) → World AdapterState →
    (withRisk adapterOps).Res op → World AdapterState → Prop}
  (hdiffer : DifferIn row instrumentId command exec exec')
  (hnames : row.requestEvidence.instrumentRef ≠ some instrumentId)
include hdiffer

/-- A part of a call that does not depend on the row. -/
lemma DifferIn.carries {α : Type} {x : Process (withRisk adapterOps) α}
    (hx : x.Performs (indifferent row.logicalRequestId)) (a : α) : Carries exec exec' x a :=
  hx.carries hdiffer.same

/-- The report that was read puts the command on the instrument. -/
lemma DifferIn.onInstrument {s s' : World AdapterState} {snapshot : Option ReconciliationReport}
    (h : Runs exec (liftM (adapterCall .readSnapshot) :
      Adapter RiskAdmissionError (Option ReconciliationReport)).run s (.ok snapshot) s') :
    OnInstrument instrumentId command snapshot := by
  obtain ⟨snapshot', hread, heq⟩ := runs_liftExcept.mp h
  cases heq
  exact hdiffer.reported s s' snapshot hread

include hnames

/-- A last look that passes, passes in the other sense. -/
lemma DifferIn.validateBeforeDispatch {admission : RiskAdmission} :
    Carries exec exec'
      (adapter.validateBeforeDispatch command logicalRequestId admission).run (.ok ()) := by
  have hrest := indifferent_adapterRest row.logicalRequestId
  refine Carries.bindExcept (fun _ => hdiffer.carries (performs_riskStoreCall hrest rfl) _)
    fun decision _ _ _ => ?_
  cases decision with
  | none => exact carries_throw
  | some decision =>
    dsimp only
    split_ifs
    · exact carries_throw
    refine Carries.bindExcept
      (fun _ => hdiffer.carries (RiskAdapter.performs_validateDecision hrest) _) fun _ _ _ _ => ?_
    refine Carries.bindExcept
      (fun _ => hdiffer.carries (performs_adapterCall hrest rfl).except _)
      fun snapshot _ _ hsnapshot => ?_
    have hon := hdiffer.onInstrument hsnapshot
    cases snapshot with
    | none => exact carries_throw
    | some report =>
      dsimp only
      split_ifs
      · exact carries_throw
      refine Carries.bindExcept (fun _ => hdiffer.carries (performs_computed _) _)
        fun description _ _ hdescription => ?_
      have hinstrument := hon report description rfl (runs_computed hdescription).1.symm
      split_ifs
      · exact carries_throw
      refine Carries.bindExcept
        (fun _ => hdiffer.carries (RiskAdapter.performs_validateInstrument hrest) _)
        fun _ _ _ _ => ?_
      -- the lists that are read differ at most in the row, which is on another instrument
      intro s s' t h
      obtain ⟨listed, s₁, hlisted, h⟩ := runs_bindExcept_ok.mp h
      obtain ⟨t₁, listed', hlisted', hany⟩ :=
        hdiffer.listed s s₁ t listed (runs_orFail_ok.mp hlisted)
      have hsame := hany (conflicting logicalRequestId description.instrumentId)
        (by simp [conflicting, hinstrument, hnames])
      rw [← hsame] at h
      refine ⟨t₁, runs_bindExcept_ok.mpr ⟨listed', t₁, runs_orFail_ok.mpr hlisted', ?_⟩⟩
      split_ifs at h ⊢
      · cases h.1
      · exact ⟨rfl, rfl⟩

/-- A request that is built, is built in the other sense. -/
lemma DifferIn.buildRequest {purpose : RuntimeExecutionPurpose} {policy : RiskPolicySet}
    {request : RiskRequest} : Carries exec exec'
      (adapter.buildRequest purpose command logicalRequestId policy).run (.ok request) := by
  have hrest := indifferent_adapterRest row.logicalRequestId
  refine Carries.bindExcept (fun _ => hdiffer.carries (performs_adapterCall hrest rfl).except _)
    fun snapshot _ _ hsnapshot => ?_
  have hon := hdiffer.onInstrument hsnapshot
  refine Carries.bindExcept (fun _ => hdiffer.carries (performs_adapterCall hrest rfl).except _)
    fun answers _ _ _ => ?_
  intro s s' t h
  obtain ⟨unresolved, s₁, hunresolved, h⟩ := runs_bindExcept_ok.mp h
  obtain ⟨reserved, s₂, hreserved, h⟩ := runs_bindExcept_ok.mp h
  obtain ⟨report, description, listed, hreport, rfl, hdescription, -, -, hbuilt⟩ :=
    buildRequest_conflict (runs_computed h).1.symm
  have hinstrument := hon report description hreport hdescription
  obtain ⟨_, hread, heq⟩ := runs_liftExcept.mp hunresolved
  cases heq
  obtain ⟨t₁, listed', hread', hany⟩ := hdiffer.listed s s₁ t listed hread
  have hbuilt' := hbuilt listed' (hany _ (by simp [hinstrument, hnames]))
  obtain ⟨t₂, hreserved'⟩ := (hdiffer.carries (performs_riskStore hrest rfl).except _) s₁ s₂ t₁
    hreserved
  exact ⟨t₂, runs_bindExcept_ok.mpr ⟨.ok listed', t₁, runs_liftExcept.mpr ⟨_, hread', rfl⟩,
    runs_bindExcept_ok.mpr ⟨reserved, t₂, hreserved', hbuilt'.symm, rfl⟩⟩⟩

/-- A command that is admitted, is admitted in the other sense. -/
lemma DifferIn.admitCommand {purpose : RuntimeExecutionPurpose} {admission : RiskAdmission}
    (hother : row.logicalRequestId ≠ logicalRequestId) : Carries exec exec'
      (adapter.admitCommand purpose command logicalRequestId).run (.ok admission) := by
  have hrest := indifferent_adapterRest row.logicalRequestId
  refine Carries.bindExcept
    (fun _ => hdiffer.carries (RiskAdapter.performs_approvalForRequest hrest) _)
    fun existing _ _ _ => ?_
  cases existing with
  | some => exact hdiffer.carries (RiskAdapter.performs_replay hrest hother.symm) _
  | none =>
    refine Carries.bindExcept (fun _ => hdiffer.carries (RiskAdapter.performs_policy hrest) _)
      fun policy _ _ _ => ?_
    refine Carries.bindExcept (fun _ => hdiffer.buildRequest hnames) fun request _ _ _ => ?_
    refine Carries.bindExcept (fun _ => hdiffer.carries (performs_adapterCall hrest rfl).except _)
      fun decisionId _ _ _ => ?_
    refine Carries.bindExcept (fun _ => hdiffer.carries (performs_computed _) _)
      fun decision _ _ hdecision => ?_
    have hevaluated : Evaluated decision :=
      ⟨decisionId, policy, request, Except.mapError_eq_ok.mp (runs_computed hdecision).1.symm⟩
    split_ifs
    · exact hdiffer.carries (RiskAdapter.performs_persistApproval hrest hevaluated) _
    · exact hdiffer.carries
        ((performs_putDecision hrest hevaluated).bindExcept fun _ => performs_throw) _

end Frame

section Present

variable {row : MutationRecord} {instrumentId : String} (hscope : row.scopeKey = scope.key)
  (hunresolved : row.state.safetyUnresolved = true)
  (hpresent : ∀ choice w, P choice w → row ∈ w.db.journal)
  (hon : ∀ choice w, P choice w →
    OnInstrument instrumentId command (w.risk.snapshots site.coordinator))
include hscope hunresolved hpresent hon

/-- **Calls in worlds with the row, and in the same worlds without it.** -/
lemma differIn_without : DifferIn row instrumentId command (during adapter scope who site P)
    (during adapter scope who site (Without row.logicalRequestId P)) where
  same op s r s' t hop h := by
    obtain ⟨choice, w, hw, h⟩ := h
    refine ⟨withoutRow row.logicalRequestId s', choice, _, ⟨w, hw, rfl⟩, ?_⟩
    rw [execOp_withoutRow hop, h]
    rfl
  listed s s' t listed h := by
    obtain ⟨choice, w, hw, h⟩ := runs_perform.mp h
    obtain ⟨hs', hread⟩ := Option.pair_inj h
    obtain ⟨hfault, hlisted⟩ := AdapterChoice.orFault_eq_ok.mp hread
    obtain ⟨-, listed', hlisted'⟩ := (RuntimeDb.exists_unresolvedMutations_iff
      (hpresent choice w hw) hscope hunresolved).mp ⟨listed, hlisted⟩
    refine ⟨withoutRow row.logicalRequestId w, listed', runs_perform.mpr
      ⟨choice, _, ⟨w, hw, rfl⟩, ?_⟩, fun p hp => ?_⟩
    · exact congrArg (fun r => some (withoutRow row.logicalRequestId w, r))
        (AdapterChoice.orFault_eq_ok.mpr ⟨hfault, hlisted'⟩)
    · rw [RuntimeDb.any_unresolvedMutations (hpresent choice w hw) hscope hunresolved hlisted
        hlisted' p, hp, Bool.false_or]
  reported s s' snapshot h := by
    obtain ⟨choice, w, hw, rfl⟩ := runs_adapterCall h
    exact hon choice w hw

/-- The other way round, when the row is readable. -/
lemma differIn_with (hvalidated : row.validated = .ok ()) : DifferIn row instrumentId command
    (during adapter scope who site (Without row.logicalRequestId P))
    (during adapter scope who site P) where
  same op s r s' t hop h := by
    obtain ⟨choice, _, ⟨w, hw, rfl⟩, h⟩ := h
    rw [execOp_withoutRow hop] at h
    obtain ⟨⟨w', r'⟩, hexec, heq⟩ := Option.map_eq_some_iff.mp h
    cases heq
    exact ⟨w', choice, w, hw, hexec⟩
  listed s s' t listed h := by
    obtain ⟨choice, _, ⟨w, hw, rfl⟩, h⟩ := runs_perform.mp h
    obtain ⟨hs', hread⟩ := Option.pair_inj h
    obtain ⟨hfault, hlisted⟩ := AdapterChoice.orFault_eq_ok.mp hread
    obtain ⟨listed', hlisted'⟩ := (RuntimeDb.exists_unresolvedMutations_iff
      (hpresent choice w hw) hscope hunresolved).mpr ⟨hvalidated, listed, hlisted⟩
    refine ⟨w, listed', runs_perform.mpr ⟨choice, w, hw, ?_⟩, fun p hp => ?_⟩
    · exact congrArg (fun r => some (w, r)) (AdapterChoice.orFault_eq_ok.mpr ⟨hfault, hlisted'⟩)
    · rw [RuntimeDb.any_unresolvedMutations (hpresent choice w hw) hscope hunresolved hlisted'
        hlisted p, hp, Bool.false_or]
  reported s s' snapshot h := by
    obtain ⟨choice, _, ⟨w, hw, rfl⟩, rfl⟩ := runs_adapterCall h
    exact hon choice w hw

end Present

/-- The command gets through both checks: some call admits it, and some last look at what was
admitted passes, with every operation in a world that meets the condition. -/
def GetsThrough (adapter : RiskAdapter) (scope : RuntimeScope) (who : ℕ) (site : Site)
    (P : Choice AdapterChoice → World AdapterState → Prop) (purpose : RuntimeExecutionPurpose)
    (command : RuntimeExecutionCommand) (logicalRequestId : String) : Prop :=
  ∃ admission, (∃ w w', Runs (during adapter scope who site P)
      (adapter.admitCommand purpose command logicalRequestId).run w (.ok admission) w') ∧
    ∃ w w', Runs (during adapter scope who site P)
      (adapter.validateBeforeDispatch command logicalRequestId admission).run w (.ok ()) w'

end

/-! ## A replacement without an answer -/

/-- Replace the open order by five lots at a price. -/
def replaceOwn : RuntimeExecutionCommand :=
  .replaceOrder ⟨"account-1", "order-1", none, "request-9", .lit 5, .lit 100, .settlementCurrency,
    false⟩

/-- Buy five lots of the same instrument. -/
def buyFive : RuntimeExecutionCommand :=
  .regularOrder ⟨"account-1", "instrument-1", "request-2", .lit 5, none, .settlementCurrency, .buy,
    .market, none, false⟩

/-- What is behind the adapter after a reconciliation that saw the open order. -/
def ownOrderState : AdapterState :=
  { gateAdapterState with snapshots := fun _ => some ownOrderReport }

/-- A ready coordinator with that adapter, before any call. -/
def ownOrderConfig :
    (runtimeSystem (fixtureAdapter.side fixtureScope) fixtureScope fixtureAdapter.port).Config :=
  ⟨⟨readyDb, [readyInstance], ownOrderState, [], [], []⟩, []⟩

/-- Nothing fails, and new ids are the given one. -/
def namedChoice (id : String) : Choice AdapterChoice :=
  plainChoice ⟨false, none, id, fixtureAnswers, .ok (), .ok 1, .ok (some 3)⟩

/-- The replacement is sent, and its answer is on its way; then the order is dispatched. -/
def replaceThenBuy :
    List (runtimeSystem (fixtureAdapter.side fixtureScope) fixtureScope fixtureAdapter.port
      ).Label :=
  [.start (0, .dispatch .sandboxMutation replaceOwn "request-9" "correlation-1"),
    .start (0, .dispatch .sandboxMutation buyFive "request-2" "correlation-2")] ++
  List.replicate 30 (.run 0 (namedChoice "fresh-1")) ++
  List.replicate 30 (.run 1 (namedChoice "fresh-2"))

/-- An order on the instrument without an answer. -/
def unknownOrderRow : MutationRecord :=
  ⟨fixtureScope.key, "request-1", .postOrder, .unknownAfterDispatch, buyTenLots.evidence, none,
    "correlation-1", none, .lit 900, .lit 900, 1⟩

/-- The world in which it has none. -/
def unknownOrderWorld : World AdapterState :=
  ⟨{ readyDb with journal := [unknownOrderRow], journalIds := List.nodup_singleton _ },
    [readyInstance], ownOrderState, [], [], []⟩

/-- The calls of the adapter are made in that world. -/
abbrev inUnknownOrderWorld (choice : Choice AdapterChoice) (w : World AdapterState) : Prop :=
  choice = namedChoice "fresh-2" ∧ w = unknownOrderWorld

section

variable {adapter : RiskAdapter} {scope : RuntimeScope} {who : ℕ} {site : Site}
  {w w' : World AdapterState}

/-- Nothing fails, and policy, authorization, epoch and snapshot are those of the decision. -/
structure Unchanged (adapter : RiskAdapter) (site : Site) (decision : RiskDecision)
    (report : ReconciliationReport) (choice : Choice AdapterChoice) (w : World AdapterState) :
    Prop where
  available : choice.risk.storeFault = false ∧ choice.risk.runtimeFault = none ∧
    choice.risk.connectionId = .ok ()
  decided : w.risk.db.decision decision.decisionId = some decision
  policy : ∃ policy, w.risk.db.policy adapter.canonicalAccountId = some policy ∧
    policy.revision = decision.validity.policyRevision
  authorization : choice.risk.executionSession =
    .ok decision.validity.executionAuthorizationRevision
  snapshot : w.risk.snapshots site.coordinator = some report
  watermark : sameWatermark report decision.validity = true

/-- The instrument a clean-up is on, by a report: that of a stop order is its own, that of a
cancellation is the one of the open order it cancels. The cancellation of a stop order, or of an
order that is not open, has a name of its own instead. -/
def cleanupInstrument (report : ReconciliationReport) : RuntimeExecutionCommand → String
  | .postStopOrder order | .protectionLeg order => order.instrumentId
  | .cancelOrder order =>
    ((report.activeOrders.find? (goesBy · order.orderId)).map (·.instrumentUid)).getD
      "maintenance:cancel-order"
  | .cancelStopOrder _ => "maintenance:cancel-protection"
  | _ => ""

/-- The row of another request is unresolved, and its evidence names the instrument. -/
structure Blocks (scope : RuntimeScope) (logicalRequestId instrumentId : String)
    (row : MutationRecord) : Prop where
  inScope : row.scopeKey = scope.key
  unresolved : row.state.safetyUnresolved = true
  other : row.logicalRequestId ≠ logicalRequestId
  names : row.requestEvidence.instrumentRef = some instrumentId

/-- Every unresolved row of the scope is readable. -/
def Readable (scope : RuntimeScope) (journal : List MutationRecord) : Prop :=
  ∀ row ∈ journal, row.scopeKey = scope.key → row.state.safetyUnresolved = true →
    row.validated = .ok ()

/-- A command that cleans up has a description, without lots and without a direction, and its
action does not depend on the report. -/
lemma commandDescription_cleanup (hcleanup : command.cleanup = true)
    (report : ReconciliationReport) : ∃ description, commandDescription command report =
      .ok description ∧ description.instrumentId = cleanupInstrument report command ∧
      description.deltaLots = 0 ∧ description.action.directional = false ∧
      ∀ report' description', commandDescription command report' = .ok description' →
        description'.action = description.action := by
  cases command <;> try cases hcleanup
  all_goals
    refine ⟨_, rfl, rfl, rfl, rfl, fun report' description' h' => ?_⟩
    rw [← Except.ok.inj h']

/-- The decision on a clean-up: no lots, no reservation, no expiry, and the action of the
request. -/
lemma decision_of_cleanup {decisionId : String} {policy : RiskPolicySet} {request : RiskRequest}
    {decision : RiskDecision} (h : evaluate decisionId policy request = .ok decision)
    (hpermits : decision.permitsDispatch = true)
    (hdirectional : request.action.directional = false) :
    decision.approvedDeltaLots = 0 ∧ decision.reservationId = none ∧
      decision.expiresAtUnixMs = none ∧ decision.action = request.action := by
  obtain ⟨grant, hreview, rfl⟩ := evaluate_permits h hpermits
  obtain ⟨-, rfl⟩ := review_cleanup hdirectional hreview
  exact ⟨rfl, rfl, rfl, rfl⟩

section Calls

variable {P : Choice AdapterChoice → World AdapterState → Prop} {decision : RiskDecision}
  {report : ReconciliationReport}
  (hP : ∀ choice w, P choice w → Unchanged adapter site decision report choice w)
include hP

/-- A call of the risk store that reads is answered. -/
lemma runs_riskStoreCall_unchanged {op : RiskStoreOp} {a : op.Value} (hop : ∀ choice w, P choice w →
      op.exec adapter.canonicalAccountId w.risk.db = .ok (a, w.risk.db))
    (r : Except RiskAdmissionError op.Value) (w₁ : World AdapterState)
    (h : Runs (during adapter scope who site P) (riskStoreCall op).run w r w₁) :
    ∃ b, r = .ok b ∧ b = a := by
  obtain ⟨r', hcall, rfl⟩ := runs_orFail.mp h
  obtain ⟨choice, w₂, hw₂, rfl⟩ := runs_adapterCall hcall
  refine ⟨a, ?_, rfl⟩
  have hcalled : (w₂.risk.call adapter.canonicalAccountId who choice.risk op).2 = .ok a := by
    rw [AdapterState.call, (hP choice w₂ hw₂).available.1, hop choice w₂ hw₂]
    rfl
  exact congrArg (Except.mapError storeUnavailable) hcalled

/-- The policy of the account is the one of the decision. -/
lemma runs_policy_unchanged (r : Except RiskAdmissionError RiskPolicySet) (w₁ : World AdapterState)
    (h : Runs (during adapter scope who site P) RiskAdapter.policy.run w r w₁) :
    ∃ policy, r = .ok policy ∧ policy.revision = decision.validity.policyRevision := by
  rcases runs_bindExcept.mp h with ⟨e, hread, -⟩ | ⟨current, w₂, hread, h⟩
  · obtain ⟨r', hcall, heq⟩ := runs_orFail.mp hread
    obtain ⟨choice, w₃, hw₃, rfl⟩ := runs_adapterCall hcall
    simp [AdapterOp.exec, AdapterState.call, (hP choice w₃ hw₃).available.1, RiskStoreOp.exec,
      Except.mapError] at heq
  · obtain ⟨choice, w₃, hw₃, db, hpolicy⟩ := runs_riskStoreCall hread
    obtain ⟨policy, hfound, hrevision⟩ := (hP choice w₃ hw₃).policy
    obtain rfl : w₃.risk.db.policy adapter.canonicalAccountId = current :=
      (Except.pair_inj hpolicy).1
    rw [hfound] at h
    exact ⟨policy, h.1, hrevision⟩

/-- The decision is still valid. -/
lemma runs_validateDecision_unchanged (hexpiry : decision.expiresAtUnixMs = none)
    (r : Except RiskAdmissionError Unit) (w₁ : World AdapterState)
    (h : Runs (during adapter scope who site P)
      (validateDecision decision).run w r w₁) : r = .ok () := by
  unfold validateDecision RiskAdapter.validateExpiry at h
  rw [hexpiry] at h
  obtain ⟨policy, _, hrevision, h⟩ := runs_bindExcept_of (runs_policy_unchanged hP) h
  rw [if_neg (not_not.mpr hrevision)] at h
  obtain ⟨_, h⟩ := runs_bindExcept_unit (fun r w₂ h => by
    obtain ⟨r', hcall, rfl⟩ := runs_orFail.mp h
    obtain ⟨choice, w₃, hw₃, rfl⟩ := runs_adapterCall hcall
    exact congrArg (Except.mapError _) (hP choice w₃ hw₃).available.2.2) h
  obtain ⟨revision, _, hsame, h⟩ := runs_bindExcept_of
    (Q := fun revision => revision = decision.validity.executionAuthorizationRevision)
    (fun r w₂ h => by
      obtain ⟨r', hcall, rfl⟩ := runs_orFail.mp h
      obtain ⟨choice, w₃, hw₃, rfl⟩ := runs_adapterCall hcall
      exact ⟨_, congrArg (Except.mapError _) (hP choice w₃ hw₃).authorization, rfl⟩) h
  rw [if_neg (not_not.mpr hsame)] at h
  exact h.1

end Calls

/-- The last check of the last look, when nothing fails and the journal is the given one: it
passes iff the rows are readable and none stands in the way, and refuses iff they are and one
does. -/
lemma runs_conflictCheck {P : Choice AdapterChoice → World AdapterState → Prop}
    {journal : List MutationRecord} {logicalRequestId instrumentId : String}
    {r : Except RiskAdmissionError Unit}
    (hP : ∀ choice w, P choice w → choice.risk.runtimeFault = none ∧ w.db.journal = journal)
    (h : Runs (during adapter scope who site P) (do
      let unresolved : List MutationRecord ← orFail (fun error => .unavailable error.text)
        (adapterCall .unresolvedMutations)
      if unresolved.any (conflicting logicalRequestId instrumentId) then
        throw (.stale "conflicting UNKNOWN_AFTER_DISPATCH mutation appeared")
      else return () : Adapter RiskAdmissionError Unit).run w r w') :
    (r = .ok () ↔
      Readable scope journal ∧ ¬ ∃ row ∈ journal, Blocks scope logicalRequestId instrumentId row) ∧
    (r = .error (.stale "conflicting UNKNOWN_AFTER_DISPATCH mutation appeared") ↔
      Readable scope journal ∧
        ∃ row ∈ journal, Blocks scope logicalRequestId instrumentId row) := by
  rcases runs_bindExcept.mp h with ⟨e, hread, rfl⟩ | ⟨listed, w₁, hread, h⟩
  · obtain ⟨r', hcall, heq⟩ := runs_orFail.mp hread
    obtain ⟨choice, w₁, hw₁, hexec⟩ := runs_adapterCall hcall
    obtain ⟨hfault, hjournal⟩ := hP choice w₁ hw₁
    rcases r' with error | listed
    · have hunreadable : ¬ Readable scope journal := fun hreadable => by
        obtain ⟨listed, hlisted⟩ : ∃ listed, w₁.db.unresolvedMutations scope.key = .ok listed :=
          RuntimeDb.exists_unresolvedMutations.mpr (hjournal ▸ hreadable)
        have hok := hexec.symm.trans (AdapterChoice.orFault_eq_ok.mpr ⟨hfault, hlisted⟩)
        cases hok
      cases heq
      exact ⟨⟨nofun, fun h => absurd h.1 hunreadable⟩, ⟨nofun, fun h => absurd h.1 hunreadable⟩⟩
    · cases heq
  · obtain ⟨choice, w₂, hw₂, hlisted⟩ := runs_unresolvedMutations hread
    have hjournal := (hP choice w₂ hw₂).2
    have hreadable : Readable scope journal :=
      hjournal ▸ RuntimeDb.exists_unresolvedMutations.mp ⟨listed, hlisted⟩
    have hany : listed.any (conflicting logicalRequestId instrumentId) = true ↔
        ∃ row ∈ journal, Blocks scope logicalRequestId instrumentId row := by
      simp only [List.any_eq_true, RuntimeDb.mem_unresolvedMutations hlisted, hjournal, conflicting,
        Bool.and_eq_true, decide_eq_true_eq]
      constructor
      · rintro ⟨row, ⟨hrow, hscoped, -⟩, ⟨hother, hunresolved⟩, hnames⟩
        exact ⟨row, hrow, hscoped, hunresolved, hother, hnames⟩
      · rintro ⟨row, hrow, hscoped, hunresolved, hother, hnames⟩
        exact ⟨row, ⟨hrow, hscoped, hunresolved⟩, ⟨hother, hunresolved⟩, hnames⟩
    rw [← hany]
    split_ifs at h with hconflict
    · obtain rfl := h.1
      simp [hreadable, hconflict]
    · obtain rfl := h.1
      simp [hreadable, hconflict]

/-- **What stands in the way of a clean-up at the last look.** The engine approved the request for
the command; policy, authorization, epoch and snapshot are still those of the decision whenever
the last look reads them, and nothing fails. Then the last look lets the command through iff every
unresolved row of the scope is readable and no such row of another request names the instrument of
the clean-up; it refuses the command for a conflict iff they are readable and one does.

**Proof sketch.** Every read returns what the decision was made on, so every comparison succeeds:
a clean-up has no lots (`commandDescription_cleanup`), and its decision approves none
(`decision_of_cleanup`). The instrument cache is not looked at. What remains is the last check
(`runs_conflictCheck`). -/
theorem cleanup_passes_last_look {purpose : RuntimeExecutionPurpose}
    {command : RuntimeExecutionCommand} {logicalRequestId decisionId : String}
    {policy : RiskPolicySet} {decidedReport report : ReconciliationReport} {answers : BrokerAnswers}
    {unresolved : Except StoreError (List MutationRecord)}
    {reserved : String → Except RiskStoreError I64} {request : RiskRequest}
    {decision : RiskDecision} {journal : List MutationRecord}
    {P : Choice AdapterChoice → World AdapterState → Prop} {r : Except RiskAdmissionError Unit}
    (hcleanup : command.cleanup = true)
    (hbuilt : buildRequest adapter purpose command logicalRequestId policy (some decidedReport)
      answers unresolved reserved = .ok request)
    (hevaluated : evaluate decisionId policy request = .ok decision)
    (hpermits : decision.permitsDispatch = true)
    (hunchanged : ∀ choice w, P choice w → Unchanged adapter site decision report choice w)
    (hjournal : ∀ choice w, P choice w → w.db.journal = journal)
    (h : Runs (during adapter scope who site P) (adapter.validateBeforeDispatch command
      logicalRequestId (admission decision none)).run w r w') :
    (r = .ok () ↔ Readable scope journal ∧ ¬ ∃ row ∈ journal,
      Blocks scope logicalRequestId (cleanupInstrument report command) row) ∧
    (r = .error (.stale "conflicting UNKNOWN_AFTER_DISPATCH mutation appeared") ↔
      Readable scope journal ∧ ∃ row ∈ journal,
        Blocks scope logicalRequestId (cleanupInstrument report command) row) := by
  obtain ⟨_, requested, hreport, hfrom⟩ := buildRequest_eq_ok hbuilt
  obtain ⟨hrequest, haccount⟩ := buildRequest_identity hbuilt
  obtain ⟨description, hdescribed, hinstrument, hlots, hdirectional, haction⟩ :=
    commandDescription_cleanup hcleanup report
  have hrequested := haction _ _ hfrom.described
  obtain ⟨happroved, hreservation, hexpiry, hdecided⟩ := decision_of_cleanup hevaluated hpermits
    (by rw [hfrom.action, hrequested, hdirectional])
  have hread : ∀ choice w, P choice w →
      (RiskStoreOp.decision decision.decisionId).exec adapter.canonicalAccountId w.risk.db =
        .ok (some decision, w.risk.db) := fun choice w hw =>
    congrArg (fun found => Except.ok (found, w.risk.db)) (hunchanged choice w hw).decided
  obtain ⟨_, _, rfl, h⟩ := runs_bindExcept_of (runs_riskStoreCall_unchanged hunchanged hread) h
  have hgranted : adapter.grantedDecision logicalRequestId (admission decision none)
      decision = true := by
    obtain ⟨hid, hacc⟩ := evaluate_identity hevaluated
    simp [RiskAdapter.grantedDecision, admission, hid, hacc, hrequest, haccount, hreservation]
  simp only [hgranted, Bool.not_true, Bool.false_eq_true, if_false] at h
  obtain ⟨_, h⟩ := runs_bindExcept_unit (runs_validateDecision_unchanged hunchanged hexpiry) h
  obtain ⟨_, _, ⟨rfl, hwatermark⟩, h⟩ := runs_bindExcept_of
    (Q := fun snapshot => snapshot = some report ∧
      sameWatermark report decision.validity = true) (fun r w₂ h => by
      obtain ⟨r', hcall, rfl⟩ := runs_liftExcept.mp h
      obtain ⟨choice, w₃, hw₃, rfl⟩ := runs_adapterCall hcall
      exact ⟨_, rfl, (hunchanged choice w₃ hw₃).snapshot, (hunchanged choice w₃ hw₃).watermark⟩) h
  simp only [hwatermark, Bool.not_true, Bool.false_eq_true, if_false] at h
  obtain ⟨_, _, rfl, h⟩ := runs_bindExcept_of
    (fun r w₂ h => ⟨description, (runs_computed h).1.trans hdescribed, rfl⟩) h
  have hsame : ¬ (description.deltaLots ≠ decision.approvedDeltaLots ∨
      description.action ≠ decision.action) := by
    rw [hlots, happroved, hdecided, hfrom.action, hrequested]
    simp
  rw [if_neg hsame] at h
  obtain ⟨_, h⟩ := runs_bindExcept_unit (fun r w₂ h => by
    rw [RiskAdapter.validateInstrument, hdirectional, if_neg (by decide)] at h
    exact h.1) h
  rw [← hinstrument]
  exact runs_conflictCheck
    (fun choice w hw => ⟨(hunchanged choice w hw).available.2.1, hjournal choice w hw⟩) h

end

/-- A stop order for five lots of an instrument. -/
def stopFive (instrumentId : String) : RuntimeExecutionCommand :=
  .postStopOrder ⟨"account-1", instrumentId, "request-3", .lit 5, .long, .settlementCurrency,
    .lit 100, none, none, false, .stopLoss (.fixed (.lit 90) none)⟩

/-- Run a call of the adapter by itself. -/
def playCall {α : Type} (call : Adapter RiskAdmissionError α) (w : World AdapterState) :
    Option (Except RiskAdmissionError α × World AdapterState) :=
  call.run.play (fun op w => execOp (fixtureAdapter.side fixtureScope) fixtureScope
    (.inl (.inl op)) 0 ⟨0, .start⟩ (namedChoice "fresh-3") w) w

/-- **An unresolved order blocks a stop order on its instrument.** The engine approves the stop
order, nothing else happens, and the last look refuses it. -/
theorem unknown_order_blocks_stop : ∃ admission w₁ w₂,
      playCall (fixtureAdapter.admitCommand .sandboxMutation (stopFive "instrument-1") "request-3")
        unknownOrderWorld = some (.ok admission, w₁) ∧
      playCall (fixtureAdapter.validateBeforeDispatch (stopFive "instrument-1") "request-3"
        admission) w₁ =
        some (.error (.stale "conflicting UNKNOWN_AFTER_DISPATCH mutation appeared"), w₂) := by
  obtain ⟨⟨r, w₁⟩, hadmit, admission, hr, ⟨_, w₂⟩, hvalidate, rfl⟩ :
      ∃ first, playCall (fixtureAdapter.admitCommand .sandboxMutation (stopFive "instrument-1")
        "request-3") unknownOrderWorld = some first ∧
      ∃ admission, first.1.toOption = some admission ∧
      ∃ last, playCall (fixtureAdapter.validateBeforeDispatch (stopFive "instrument-1") "request-3"
        admission) first.2 = some last ∧
        last.1 = .error (.stale "conflicting UNKNOWN_AFTER_DISPATCH mutation appeared") := by
    decide +kernel
  cases Except.toOption_eq_some.mp hr
  exact ⟨admission, w₁, w₂, hadmit, hvalidate⟩

/-- The same world, with a decision on record. -/
def decidedWorld (decision : RiskDecision) : World AdapterState :=
  { unknownOrderWorld with
    risk := { ownOrderState with
      db := { ownOrderState.db with
        decisions := [decision]
        decisionIds := List.nodup_singleton _
        decisionRequests := List.nodup_singleton _ } } }

/-- The calls of the adapter are made in that world. -/
abbrev inDecidedWorld (decision : RiskDecision) (choice : Choice AdapterChoice)
    (w : World AdapterState) : Prop :=
  choice = namedChoice "fresh-3" ∧ w = decidedWorld decision

/-- The request to the engine for a stop order on another instrument. -/
def requestElsewhere : Except RiskAdmissionError RiskRequest :=
  buildRequest fixtureAdapter .sandboxMutation (stopFive "instrument-2") "request-3" gatePolicy
    (some ownOrderReport) fixtureAnswers (.ok [unknownOrderRow]) fun _ => .ok 0

/-- The last look at it. -/
def lookElsewhere (decision : RiskDecision) : Adapter RiskAdmissionError Unit :=
  fixtureAdapter.validateBeforeDispatch (stopFive "instrument-2") "request-3"
    (admission decision none)

/-- A stop order on another instrument passes: the unresolved order does not stand in its way. -/
theorem stop_elsewhere_passes : ∃ request decision r w', requestElsewhere = .ok request ∧
      evaluate "fresh-3" gatePolicy request = .ok decision ∧
      Runs (during fixtureAdapter fixtureScope 0 ⟨0, .start⟩ (inDecidedWorld decision))
        (lookElsewhere decision).run (decidedWorld decision) r w' ∧ r = .ok () := by
  obtain ⟨request, hbuilt, decision, hevaluated, hpermits, hpolicy, hauthorized, hwatermark,
      hplay⟩ : ∃ request, requestElsewhere.toOption = some request ∧
      ∃ decision, (evaluate "fresh-3" gatePolicy request).toOption = some decision ∧
        decision.permitsDispatch = true ∧ gatePolicy.revision = decision.validity.policyRevision ∧
        decision.validity.executionAuthorizationRevision = 1 ∧
        sameWatermark ownOrderReport decision.validity = true ∧
      ((lookElsewhere decision).run.play (fun op _ => execOp (fixtureAdapter.side fixtureScope)
        fixtureScope (.inl (.inl op)) 0 ⟨0, .start⟩ (namedChoice "fresh-3")
        (decidedWorld decision)) (decidedWorld decision)).isSome = true := by
    decide +kernel
  obtain ⟨⟨r, w'⟩, hrun⟩ := Option.isSome_iff_exists.mp hplay
  have hbuilt := Except.toOption_eq_some.mp hbuilt
  have hevaluated := Except.toOption_eq_some.mp hevaluated
  have hruns : Runs (during fixtureAdapter fixtureScope 0 ⟨0, .start⟩ (inDecidedWorld decision))
      (lookElsewhere decision).run (decidedWorld decision) r w' :=
    runs_of_play (fun op _ w' r hop => ⟨_, _, ⟨rfl, rfl⟩, hop⟩) hrun
  have hunchanged : ∀ choice w, inDecidedWorld decision choice w →
      Unchanged fixtureAdapter ⟨0, .start⟩ decision ownOrderReport choice w := by
    rintro choice w ⟨rfl, rfl⟩
    refine ⟨⟨rfl, rfl, rfl⟩, ?_, ⟨gatePolicy, rfl, hpolicy⟩, ?_, rfl, hwatermark⟩
    · simp [RiskDb.decision, Rows.select, decidedWorld]
    · rw [hauthorized]
      rfl
  have hjournal : ∀ choice w, inDecidedWorld decision choice w →
      w.db.journal = [unknownOrderRow] := by
    rintro choice w ⟨-, rfl⟩
    rfl
  have hlook := cleanup_passes_last_look rfl hbuilt hevaluated hpermits hunchanged hjournal hruns
  refine ⟨request, decision, r, w', hbuilt, hevaluated, hruns, hlook.1.mpr ⟨?_, ?_⟩⟩
  · rintro row hrow - -
    rw [List.mem_singleton.mp hrow]
    decide +kernel
  · rintro ⟨row, hrow, hblocks⟩
    have hnames := hblocks.names
    rw [List.mem_singleton.mp hrow] at hnames
    exact absurd hnames (by decide)

end VoxTrader.Core
