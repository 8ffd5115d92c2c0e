import VoxTrader.Runtime.Resolve

/-!
# The evidence a mutation is resolved on

Five sources can resolve a mutation, tried one after the other, and what counts as evidence
depends on the kind of the mutation. This module says what may resolve a mutation of each kind,
apart from the order in which the sources are tried, and proves that nothing else does.

The stop orders are the one source that is matched without a look at the kind. A mutation of an
order whose links name a stop order of the snapshot can therefore be resolved by that stop, which
says nothing about the order. Events of a stream are a fifth source, which the reconciler leaves
empty.

## Main definitions

* `statusDisposition`, `stopStatusDisposition` — what a status comes to, for any kind.
* `ReadEvidence` — evidence that was read from the broker, kind by kind.
* `Misled` — a stop order or an event decides, and no evidence of the kind of the mutation.

## Main results

* `resolved_on_own_evidence` — a mutation is resolved only on evidence of its own kind, with the
  disposition of that evidence, iff the sources do not mislead.
* `cancel_resolved_by_stop` — a cancel linked to a stop order is resolved by it.
-/

namespace VoxTrader.Runtime

/-! ## Evidence, kind by kind -/

/-- What the status of an order comes to. -/
def statusDisposition : OrderExecutionStatus → Option ReconciliationDisposition
  | .new => some .orderActiveNew
  | .partiallyFilled => some .orderActivePartial
  | .filled => some .orderFilled
  | .cancelled => some .orderCancelled
  | .rejected => some .orderRejected
  | .unknownProviderStatus _ => none

/-- What the status of a stop order comes to. -/
def stopStatusDisposition : StopExecutionStatus → Option ReconciliationDisposition
  | .active => some .stopActive
  | .executed => some .stopExecuted
  | .canceled => some .stopCanceled
  | .expired => some .stopExpired
  | .unknownProviderStatus _ => none

/-- Mutations that place an order. -/
def MutationKind.placesOrder : MutationKind → Bool
  | postOrder | postOrderAsync => true
  | _ => false

/-- Mutations of stop orders. -/
def MutationKind.concernsStop : MutationKind → Bool
  | postStopOrder | cancelStopOrder | protectionLeg => true
  | _ => false

/-- The order is done. -/
def OrderExecutionStatus.terminal : OrderExecutionStatus → Bool
  | cancelled | filled | rejected => true
  | _ => false

/-- The stop order is done. -/
def StopExecutionStatus.terminal : StopExecutionStatus → Bool
  | canceled | executed | expired => true
  | _ => false

/-- **Evidence that was read from the broker**, with the disposition it stands for: an order that
was read for the mutation or is active, a stop order, or an operation. -/
inductive ReadEvidence (mutation : MutationRecord) (links : BrokerIdentityLinks)
    (snapshot : BrokerSnapshot) (direct : Option OrderFact) : ReconciliationDisposition → Prop
  | order (order : OrderFact) (disposition : ReconciliationDisposition)
      (hkind : mutation.kind.placesOrder = true)
      (hread : direct = some order ∨ order ∈ snapshot.activeOrders)
      (hmatch : order.logicalRequestId = some mutation.logicalRequestId ∨
        links.brokerOrderId = some order.brokerOrderId)
      (hstatus : statusDisposition order.status = some disposition) :
      ReadEvidence mutation links snapshot direct disposition
  | operation (operation : OperationFact) (hkind : mutation.kind.placesOrder = true)
      (hread : operation ∈ snapshot.operations)
      (hmatch : operation.logicalRequestId = some mutation.logicalRequestId ∨
        ∃ brokerOrderId, operation.brokerOrderId = some brokerOrderId ∧
          links.brokerOrderId = some brokerOrderId) :
      ReadEvidence mutation links snapshot direct .orderAccepted
  /-- The order that was replaced is no evidence by itself. -/
  | replacement (order : OrderFact) (disposition : ReconciliationDisposition)
      (hkind : mutation.kind = .replaceOrder)
      (hread : direct = some order ∨ order ∈ snapshot.activeOrders)
      (hmatch : order.logicalRequestId = some mutation.logicalRequestId ∨
        links.replacementBrokerOrderId = some order.brokerOrderId)
      (hstatus : statusDisposition order.status = some disposition) :
      ReadEvidence mutation links snapshot direct disposition
  /-- Only the state of the order itself tells that it is cancelled. -/
  | cancel (order : OrderFact) (disposition : ReconciliationDisposition)
      (hkind : mutation.kind = .cancelOrder)
      (hread : direct = some order)
      (hmatch : links.brokerOrderId = some order.brokerOrderId ∨
        links.replacementBrokerOrderId = some order.brokerOrderId)
      (hterminal : order.status.terminal = true)
      (hstatus : statusDisposition order.status = some disposition) :
      ReadEvidence mutation links snapshot direct disposition
  | stop (stop : StopFact) (disposition : ReconciliationDisposition)
      (hkind : mutation.kind.concernsStop = true)
      (hread : stop ∈ snapshot.stopOrders)
      (hmatch : links.brokerStopOrderId = some stop.brokerStopOrderId)
      (hterminal : mutation.kind = .cancelStopOrder → stop.status.terminal = true)
      (hstatus : stopStatusDisposition stop.status = some disposition) :
      ReadEvidence mutation links snapshot direct disposition

/-- A record that resolves the mutation on evidence of its own kind, with the disposition of that
evidence. -/
def ResolvedBy (runtimeEpoch : ℕ) (now : I64) (mutation : MutationRecord)
    (links : BrokerIdentityLinks) (snapshot : BrokerSnapshot) (direct : Option OrderFact)
    (record : MutationRecord) : Prop :=
  ∃ disposition evidence, record = reconcileRecord mutation runtimeEpoch now disposition evidence ∧
    ReadEvidence mutation links snapshot direct disposition

/-! ## Where the sources mislead -/

section

variable (mutation : MutationRecord) (links : BrokerIdentityLinks) (snapshot : BrokerSnapshot)
  (direct : Option OrderFact)

/-- The first stop order the links name has a status that says something. -/
def StopDecides : Prop :=
  ∃ stop, snapshot.stopOrders.find? (fun stop =>
      links.brokerStopOrderId = some stop.brokerStopOrderId) = some stop ∧
    ∃ disposition, stopDisposition mutation.kind stop.status = some disposition

/-- **The sources mislead.** No order decides, and a mutation of an order has links that name a
stop order of the snapshot; or nothing that was read decides, and a stream event does. -/
inductive Misled : Prop
  | stop (horder : mutation.kind.concernsOrder = true)
      (hnone : NoOrder mutation links snapshot direct)
      (hstop : StopDecides mutation links snapshot) : Misled
  | event (hnone : NoOrder mutation links snapshot direct)
      (hstop : ¬ StopDecides mutation links snapshot)
      (hoperation : ∀ operation ∈ snapshot.operations,
        operationEvidenceResolves mutation links operation = false)
      (hevent : ∃ event ∈ snapshot.streamEvidence,
        streamEvidenceResolves mutation links event = true) : Misled

end

/-! ## Nothing else resolves -/

variable {kind : MutationKind} {disposition : ReconciliationDisposition}

/-- The disposition by an order is that of its status, and a cancel has one only when the order is
done. -/
lemma orderDisposition_eq_some {status : OrderExecutionStatus}
    (h : orderDisposition kind status = some disposition) :
    statusDisposition status = some disposition ∧
      (kind = .cancelOrder → status.terminal = true) := by
  cases kind <;> cases status <;> simp_all [orderDisposition, statusDisposition,
    OrderExecutionStatus.terminal]

/-- The same for a stop order. -/
lemma stopDisposition_eq_some {status : StopExecutionStatus}
    (h : stopDisposition kind status = some disposition) :
    stopStatusDisposition status = some disposition ∧
      (kind = .cancelStopOrder → status.terminal = true) := by
  cases kind <;> cases status <;> simp_all [stopDisposition, stopStatusDisposition,
    StopExecutionStatus.terminal]

section

variable {mutation : MutationRecord} {links : BrokerIdentityLinks} {snapshot : BrokerSnapshot}
  {direct : Option OrderFact} {disposition : ReconciliationDisposition}

/-- An order that resolves a mutation is evidence of its kind; a cancel needs the order that was
read for it. -/
lemma readEvidence_of_order {order : OrderFact}
    (hmatch : orderEvidenceResolves mutation links order = true)
    (hread : direct = some order ∨ order ∈ snapshot.activeOrders ∧ mutation.kind ≠ .cancelOrder)
    (hdisposition : orderDisposition mutation.kind order.status = some disposition) :
    ReadEvidence mutation links snapshot direct disposition := by
  obtain ⟨hstatus, hterminal⟩ := orderDisposition_eq_some hdisposition
  have hread' : direct = some order ∨ order ∈ snapshot.activeOrders := hread.imp_right And.left
  unfold orderEvidenceResolves at hmatch
  rcases hkind : mutation.kind with _ | _ | _ | _ | _ | _ | _ <;>
    simp only [hkind, Bool.or_eq_true, Bool.and_eq_true, decide_eq_true_eq,
      Bool.false_eq_true] at hmatch
  · exact .order order _ (by rw [hkind]; rfl) hread' hmatch hstatus
  · exact .order order _ (by rw [hkind]; rfl) hread' hmatch hstatus
  · exact .replacement order _ hkind hread' hmatch hstatus
  · have hdirect : direct = some order := hread.resolve_right fun h => h.2 hkind
    exact .cancel order _ hkind hdirect hmatch.1 (hterminal hkind) hstatus

/-- An operation that resolves a mutation is evidence of its kind. -/
lemma readEvidence_of_operation {operation : OperationFact}
    (hmatch : operationEvidenceResolves mutation links operation = true)
    (hread : operation ∈ snapshot.operations) :
    ReadEvidence mutation links snapshot direct .orderAccepted := by
  simp only [operationEvidenceResolves, Bool.and_eq_true, Bool.or_eq_true, decide_eq_true_eq,
    Option.isSome_iff_exists] at hmatch
  obtain ⟨hkind, hid⟩ := hmatch
  refine .operation operation ?_ hread (hid.imp_right ?_)
  · rcases hkind with hkind | hkind <;> rw [hkind] <;> rfl
  · rintro ⟨hlinked, brokerOrderId, hbroker⟩
    exact ⟨brokerOrderId, hbroker, hlinked.symm.trans hbroker⟩

/-- A linked stop order is evidence for a mutation of stop orders. -/
lemma readEvidence_of_stop {stop : StopFact} (hkind : mutation.kind.concernsStop = true)
    (hmatch : links.brokerStopOrderId = some stop.brokerStopOrderId)
    (hread : stop ∈ snapshot.stopOrders)
    (hdisposition : stopDisposition mutation.kind stop.status = some disposition) :
    ReadEvidence mutation links snapshot direct disposition := by
  obtain ⟨hstatus, hterminal⟩ := stopDisposition_eq_some hdisposition
  exact .stop stop _ hkind hread hmatch hterminal hstatus

/-- A mutation is of an order or of a stop order. -/
lemma MutationKind.concernsStop_eq : kind.concernsStop = !kind.concernsOrder := by
  cases kind <;> rfl

variable {runtimeEpoch : ℕ} {now : I64}

/-- When no order decides, the rest of the snapshot does. -/
lemma resolveMutation_of_noOrder (hnone : NoOrder mutation links snapshot direct) :
    resolveMutation runtimeEpoch now mutation links snapshot direct =
      resolvedByRest runtimeEpoch now mutation links snapshot := by
  obtain ⟨hdirect, hactive⟩ := noOrder_iff.mp hnone
  unfold resolveMutation
  rw [hdirect, hactive]

/-- A linked stop order that decides, decides. -/
lemma resolvedByRest_of_stop (hstop : StopDecides mutation links snapshot) :
    ∃ disposition evidence links', resolvedByRest runtimeEpoch now mutation links snapshot =
        some (reconcileRecord mutation runtimeEpoch now disposition evidence, links') ∧
      ∃ kind status, stopDisposition kind status = some disposition := by
  obtain ⟨stop, hfound, disposition, hdisposition⟩ := hstop
  refine ⟨disposition, "authoritative GetStopOrders broker=" ++ stop.brokerStopOrderId,
    { links with brokerStopOrderId := some stop.brokerStopOrderId }, ?_, mutation.kind, stop.status,
    hdisposition⟩
  simp only [resolvedByRest, resolvedByStop, hfound, Option.bind_some, hdisposition,
    Option.map_some, Option.some_or]

/-- Otherwise a stream event does, when there is no operation. -/
lemma resolvedByRest_of_event (hstop : ¬ StopDecides mutation links snapshot)
    (hoperation : ∀ operation ∈ snapshot.operations,
      operationEvidenceResolves mutation links operation = false)
    (hevent : ∃ event ∈ snapshot.streamEvidence,
      streamEvidenceResolves mutation links event = true) :
    ∃ evidence links', resolvedByRest runtimeEpoch now mutation links snapshot =
      some (reconcileRecord mutation runtimeEpoch now .orderAccepted evidence, links') := by
  obtain ⟨event, hfound⟩ := Option.isSome_iff_exists.mp (List.find?_isSome.mpr hevent)
  have hnoStop : (snapshot.stopOrders.find? fun stop =>
      links.brokerStopOrderId = some stop.brokerStopOrderId).bind
        (resolvedByStop runtimeEpoch now mutation links) = none := by
    rw [Option.bind_eq_none_iff]
    intro stop hstopFound
    rw [resolvedByStop, Option.map_eq_none_iff, Option.eq_none_iff_forall_ne_some]
    exact fun disposition hdisposition => hstop ⟨stop, hstopFound, disposition, hdisposition⟩
  have hnoOperation : snapshot.operations.find? (operationEvidenceResolves mutation links) =
      none := List.find?_eq_none.mpr fun operation h => by rw [hoperation operation h]; decide
  refine ⟨"accepted stream event=" ++ event.stableEventId, links, ?_⟩
  simp only [resolvedByRest, hnoStop, hnoOperation, hfound, Option.map_none, Option.map_some,
    Option.none_or, resolvedByEvent]

/-- Evidence that was read never stands for a stop order, when the mutation is of an order. -/
lemma ReadEvidence.ne_stop (h : ReadEvidence mutation links snapshot direct disposition)
    (horder : mutation.kind.concernsOrder = true) {status : StopExecutionStatus}
    (hstop : stopDisposition kind status = some disposition) : False := by
  have hdisposition := (stopDisposition_eq_some hstop).1
  have hne : ∀ status', statusDisposition status' ≠ some disposition := by
    intro status' hstatus'
    rw [← hdisposition] at hstatus'
    cases status with
    | unknownProviderStatus => cases hdisposition
    | _ => cases status' <;> cases hstatus'
  cases h with
  | order order _ _ _ _ hstatus | replacement order _ _ _ _ hstatus
  | cancel order _ _ _ _ _ hstatus => exact hne _ hstatus
  | operation => cases status <;> cases hdisposition
  | stop _ _ hkind =>
    rw [MutationKind.concernsStop_eq, horder] at hkind
    cases hkind

/-- Only an operation stands for the acceptance. -/
lemma ReadEvidence.accepted (h : ReadEvidence mutation links snapshot direct .orderAccepted) :
    ∃ operation ∈ snapshot.operations,
      operationEvidenceResolves mutation links operation = true := by
  have hstatus : ∀ status, statusDisposition status ≠ some .orderAccepted := by
    intro status
    cases status <;> simp [statusDisposition]
  have hstop : ∀ status, stopStatusDisposition status ≠ some .orderAccepted := by
    intro status
    cases status <;> simp [stopStatusDisposition]
  cases h with
  | order order _ _ _ _ h | replacement order _ _ _ _ h | cancel order _ _ _ _ _ h =>
    exact absurd h (hstatus _)
  | stop stop _ _ _ _ _ h => exact absurd h (hstop _)
  | operation operation hkind hread hmatch =>
    refine ⟨operation, hread, ?_⟩
    simp only [operationEvidenceResolves, Bool.and_eq_true, Bool.or_eq_true, decide_eq_true_eq,
      Option.isSome_iff_exists]
    refine ⟨?_, hmatch.imp_right ?_⟩
    · generalize mutation.kind = kind at hkind ⊢
      cases kind with
      | postOrder => exact .inl rfl
      | postOrderAsync => exact .inr rfl
      | _ => cases hkind
    · rintro ⟨brokerOrderId, hbroker, hlinked⟩
      exact ⟨hbroker.trans hlinked.symm, brokerOrderId, hbroker⟩

end

/-- **A mutation is resolved only on evidence of its own kind, with the disposition of that
evidence, iff the sources do not mislead.** Without such evidence it stays unresolved.

**Proof sketch.** When an order decides, it is matched by `orderEvidenceResolves`, whose cases are
the kinds. Otherwise the stop orders come first, which are matched without a look at the kind, then
the operations, which are matched by kind, and last the events. What a stop order or an event
stands for, no evidence that was read for a mutation of an order stands for. -/
theorem resolved_on_own_evidence (runtimeEpoch : ℕ) (now : I64) (mutation : MutationRecord)
    (table : List BrokerIdentityLinks) (snapshot : BrokerSnapshot) (direct : Option OrderFact) :
    (∀ record links, resolveMutation runtimeEpoch now mutation
        (existingLinks table mutation.logicalRequestId) snapshot direct = some (record, links) →
      ResolvedBy runtimeEpoch now mutation (existingLinks table mutation.logicalRequestId)
        snapshot direct record) ↔
    ¬ Misled mutation (existingLinks table mutation.logicalRequestId) snapshot direct := by
  generalize existingLinks table mutation.logicalRequestId = existing
  constructor
  · rintro hall (⟨horder, hnone, hstop⟩ | ⟨hnone, hstop, hoperation, hevent⟩)
    · obtain ⟨_, _, links, hresult, kind, status, hdisposition⟩ := resolvedByRest_of_stop hstop
      obtain ⟨disposition, _, hrecord, hread⟩ :=
        hall _ links ((resolveMutation_of_noOrder hnone).trans hresult)
      cases congrArg MutationRecord.reconciliationDisposition hrecord
      exact hread.ne_stop horder hdisposition
    · obtain ⟨_, links, hresult⟩ := resolvedByRest_of_event hstop hoperation hevent
      obtain ⟨disposition, _, hrecord, hread⟩ :=
        hall _ links ((resolveMutation_of_noOrder hnone).trans hresult)
      cases congrArg MutationRecord.reconciliationDisposition hrecord
      obtain ⟨operation, hmem, hmatch⟩ := hread.accepted
      rw [hoperation operation hmem] at hmatch
      cases hmatch
  · intro hnot record links h
    rcases resolveMutation_order_or_rest h with
      ⟨order, _, _, hread, hmatch, hdisposition, rfl, -⟩ | ⟨hnone, h⟩
    · exact ⟨_, _, rfl, readEvidence_of_order hmatch hread hdisposition⟩
    · simp only [resolvedByRest, Option.or_eq_some_iff, Option.bind_eq_some_iff,
        Option.map_eq_some_iff, resolvedByStop, Option.bind_eq_none_iff, Option.map_eq_none_iff,
        List.find?_eq_none, Bool.not_eq_true] at h
      rcases h with ⟨stop, hfound, disposition, hdisposition, h⟩ |
        ⟨hstop, ⟨operation, hfound, h⟩ | ⟨hoperation, event, hfound, h⟩⟩ <;> cases h
      · have hkind : mutation.kind.concernsOrder = false := by
          by_contra horder
          exact hnot (.stop (by simpa using horder) hnone ⟨stop, hfound, disposition, hdisposition⟩)
        exact ⟨_, _, rfl, readEvidence_of_stop (by rw [MutationKind.concernsStop_eq, hkind]; rfl)
          (by simpa using List.find?_some hfound) (List.mem_of_find?_eq_some hfound) hdisposition⟩
      · exact ⟨_, _, rfl, readEvidence_of_operation (List.find?_some hfound)
          (List.mem_of_find?_eq_some hfound)⟩
      · refine absurd (.event hnone ?_ hoperation
          ⟨event, List.mem_of_find?_eq_some hfound, List.find?_some hfound⟩) hnot
        rintro ⟨stop, hstopFound, disposition, hdisposition⟩
        rw [hstop stop hstopFound] at hdisposition
        cases hdisposition

/-! ## A cancel and a stop order -/

/-- A mutation whose fate is not known. -/
def uncertainMutation (kind : MutationKind) : MutationRecord :=
  ⟨"TInvest:Sandbox:account-1", "request-1", kind, .unknownAfterDispatch,
    ⟨kind, none, none, false, none⟩, none, "correlation-1", none, 0, 0, 1⟩

/-- A snapshot with an active stop order and an operation, as the reconciler takes it: without
events of a stream. -/
def mixedSnapshot : BrokerSnapshot :=
  ⟨[], ⟨"account-1", none⟩, [], [], [⟨"account-1", "stop-1", "instrument-1", .active, none, none⟩],
    [⟨"account-1", "cursor-1", none, some "order-1", none, []⟩], [], 0⟩

/-- The links of the mutation: an order and a stop order. -/
def mixedLinks : BrokerIdentityLinks :=
  ⟨"request-1", some "order-1", none, some "stop-1", [], []⟩

/-- **A cancel linked to a stop order is resolved by it**, as an active stop, although nothing
that was read is evidence for a cancel. -/
theorem cancel_resolved_by_stop : ((resolveMutation 1 0 (uncertainMutation .cancelOrder)
        (existingLinks [mixedLinks] "request-1") mixedSnapshot none).map
          fun resolved => resolved.1.reconciliationDisposition) = some (some .stopActive) ∧
      ∀ disposition, ¬ ReadEvidence (uncertainMutation .cancelOrder)
        (existingLinks [mixedLinks] "request-1") mixedSnapshot none disposition := by
  refine ⟨by decide +kernel, fun disposition hevidence => ?_⟩
  cases hevidence with
  | order order _ hkind | operation operation hkind | replacement order _ hkind
  | stop stop _ hkind => cases hkind
  | cancel order _ hkind hread => cases hread

end VoxTrader.Runtime
