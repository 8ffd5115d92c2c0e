import VoxTrader.Runtime.Ports

/-!
# What a broker snapshot says about the mutations of a scope

The decisions of a reconciliation, apart from its reads and writes. An unresolved mutation is
resolved by the first of these that is evidence for it: the order state read for it, an active
order, a stop order, an operation, a stream event. The snapshot itself is then compared with the
links and expectations of the store, and every difference is a discrepancy.

## Main definitions

* `orderEvidenceResolves`, `operationEvidenceResolves`, `streamEvidenceResolves` — what counts as
  evidence for a mutation.
* `resolveMutation` — the record and the links a mutation is resolved to, if it is.
* `validateSnapshot` — the discrepancies of a snapshot.
* `discrepancyReason` — the reason code that is made of them.

## Main results

* `resolveMutation_cases` — in which ways a mutation is resolved.
* `resolveMutation_reconciles` — a resolved record is the mutation, `RECONCILED`.
-/

namespace VoxTrader.Runtime

/-! ## Evidence -/

/-- What a mutation of a kind comes to when its order has a status. -/
def orderDisposition : MutationKind → OrderExecutionStatus → Option ReconciliationDisposition
  | .cancelOrder, .cancelled => some .orderCancelled
  | .cancelOrder, .filled => some .orderFilled
  | .cancelOrder, .rejected => some .orderRejected
  | .cancelOrder, _ => none
  | _, .new => some .orderActiveNew
  | _, .partiallyFilled => some .orderActivePartial
  | _, .filled => some .orderFilled
  | _, .cancelled => some .orderCancelled
  | _, .rejected => some .orderRejected
  | _, .unknownProviderStatus _ => none

/-- The same for a stop order. -/
def stopDisposition : MutationKind → StopExecutionStatus → Option ReconciliationDisposition
  | .cancelStopOrder, .canceled => some .stopCanceled
  | .cancelStopOrder, .executed => some .stopExecuted
  | .cancelStopOrder, .expired => some .stopExpired
  | .cancelStopOrder, _ => none
  | _, .active => some .stopActive
  | _, .executed => some .stopExecuted
  | _, .canceled => some .stopCanceled
  | _, .expired => some .stopExpired
  | _, .unknownProviderStatus _ => none

/-- An order is evidence for a mutation. -/
def orderEvidenceResolves (mutation : MutationRecord) (links : BrokerIdentityLinks)
    (order : OrderFact) : Bool :=
  let logicalMatch := order.logicalRequestId = some mutation.logicalRequestId
  let originalMatch := links.brokerOrderId = some order.brokerOrderId
  let replacementMatch := links.replacementBrokerOrderId = some order.brokerOrderId
  match mutation.kind with
  | .postOrder | .postOrderAsync => logicalMatch || originalMatch
  | .replaceOrder => logicalMatch || replacementMatch
  | .cancelOrder =>
    (originalMatch || replacementMatch) && (orderDisposition mutation.kind order.status).isSome
  | _ => false

/-- An operation is evidence for a mutation. -/
def operationEvidenceResolves (mutation : MutationRecord) (links : BrokerIdentityLinks)
    (operation : OperationFact) : Bool :=
  (mutation.kind = .postOrder || mutation.kind = .postOrderAsync) &&
    (operation.logicalRequestId = some mutation.logicalRequestId ||
      operation.brokerOrderId = links.brokerOrderId && operation.brokerOrderId.isSome)

/-- A stream event is evidence for a mutation. -/
def streamEvidenceResolves (mutation : MutationRecord) (links : BrokerIdentityLinks)
    (event : BrokerEvent) : Bool :=
  let logicalMatch := event.logicalRequestId = some mutation.logicalRequestId
  match mutation.kind with
  | .postOrder | .postOrderAsync =>
    (event.eventClass = .order || event.eventClass = .fill) &&
      (logicalMatch || event.brokerOrderId = links.brokerOrderId && event.brokerOrderId.isSome)
  | .replaceOrder =>
    event.eventClass = .order && (logicalMatch ||
      event.brokerOrderId = links.replacementBrokerOrderId && event.brokerOrderId.isSome)
  | .postStopOrder | .protectionLeg =>
    event.eventClass = .stop && (logicalMatch ||
      event.brokerStopOrderId = links.brokerStopOrderId && event.brokerStopOrderId.isSome)
  | .cancelOrder | .cancelStopOrder => false

/-! ## Resolving a mutation -/

/-- The links known for a request. -/
def existingLinks (links : List BrokerIdentityLinks) (logicalRequestId : String) :
    BrokerIdentityLinks :=
  (links.find? (·.logicalRequestId = logicalRequestId)).getD
    ⟨logicalRequestId, none, none, none, [], []⟩

/-- Mutations for which the state of an order is read. -/
def MutationKind.concernsOrder : MutationKind → Bool
  | postOrder | postOrderAsync | replaceOrder | cancelOrder => true
  | _ => false

/-- The broker's id under which that state is read. -/
def orderReadId (kind : MutationKind) (links : BrokerIdentityLinks) : Option String :=
  match kind with
  | .replaceOrder => links.replacementBrokerOrderId
  | _ => links.replacementBrokerOrderId.or links.brokerOrderId

/-- The record of a mutation that is resolved. -/
def reconcileRecord (record : MutationRecord) (runtimeEpoch : ℕ) (now : I64)
    (disposition : ReconciliationDisposition) (evidence : String) : MutationRecord :=
  { record with
    state := .reconciled, brokerEvidenceRef := some evidence,
    reconciliationDisposition := some disposition, updatedAtUnixMs := now,
    runtimeEpoch := runtimeEpoch }

/-- Link a request to the order that was found for it. -/
def linkOrder (kind : MutationKind) (links : BrokerIdentityLinks) (order : OrderFact) :
    BrokerIdentityLinks :=
  if kind = .replaceOrder then { links with replacementBrokerOrderId := some order.brokerOrderId }
  else { links with brokerOrderId := some order.brokerOrderId }

/-- Add an element to a set kept as a list. -/
def addToSet (s : List String) (x : String) : List String := if x ∈ s then s else s ++ [x]

section

variable (runtimeEpoch : ℕ) (now : I64) (mutation : MutationRecord) (existing : BrokerIdentityLinks)

/-- Resolve by an order; an order whose status says nothing leaves the mutation unresolved. -/
def resolvedByOrder (source : String) (order : OrderFact) :
    Option (MutationRecord × BrokerIdentityLinks) :=
  (orderDisposition mutation.kind order.status).map fun disposition =>
    (reconcileRecord mutation runtimeEpoch now disposition (source ++ order.brokerOrderId),
      linkOrder mutation.kind existing order)

/-- Resolve by a stop order. -/
def resolvedByStop (stop : StopFact) : Option (MutationRecord × BrokerIdentityLinks) :=
  (stopDisposition mutation.kind stop.status).map fun disposition =>
    (reconcileRecord mutation runtimeEpoch now disposition
      ("authoritative GetStopOrders broker=" ++ stop.brokerStopOrderId),
      { existing with brokerStopOrderId := some stop.brokerStopOrderId })

/-- Resolve by an operation. -/
def resolvedByOperation (operation : OperationFact) : MutationRecord × BrokerIdentityLinks :=
  (reconcileRecord mutation runtimeEpoch now .orderAccepted
    ("GetOperationsByCursor cursor=" ++ operation.cursor),
    { existing with
      providerOperationIds := operation.providerOperationId.toList.foldl addToSet
        existing.providerOperationIds
      brokerFillIds := operation.brokerFillIds.foldl addToSet existing.brokerFillIds })

/-- Resolve by a stream event. -/
def resolvedByEvent (event : BrokerEvent) : MutationRecord × BrokerIdentityLinks :=
  (reconcileRecord mutation runtimeEpoch now .orderAccepted
    ("accepted stream event=" ++ event.stableEventId), existing)

/-- Resolve by what the snapshot has besides orders. -/
def resolvedByRest (snapshot : BrokerSnapshot) : Option (MutationRecord × BrokerIdentityLinks) :=
  let stop := (snapshot.stopOrders.find? fun stop =>
    existing.brokerStopOrderId = some stop.brokerStopOrderId).bind
      (resolvedByStop runtimeEpoch now mutation existing)
  let operation := (snapshot.operations.find? (operationEvidenceResolves mutation existing)).map
    (resolvedByOperation runtimeEpoch now mutation existing)
  let event := (snapshot.streamEvidence.find? (streamEvidenceResolves mutation existing)).map
    (resolvedByEvent runtimeEpoch now mutation existing)
  stop.or (operation.or event)

/-- Resolve a mutation, given the order state that was read for it. -/
def resolveMutation (snapshot : BrokerSnapshot) (direct : Option OrderFact) :
    Option (MutationRecord × BrokerIdentityLinks) :=
  match direct.filter (orderEvidenceResolves mutation existing) with
  | some order =>
    resolvedByOrder runtimeEpoch now mutation existing "direct GetOrderState broker=" order
  | none =>
    match (snapshot.activeOrders.find? (orderEvidenceResolves mutation existing)).filter
        fun _ => mutation.kind ≠ .cancelOrder with
    | some order =>
      resolvedByOrder runtimeEpoch now mutation existing "authoritative active order broker=" order
    | none => resolvedByRest runtimeEpoch now mutation existing snapshot

end

/-- No order decides about the mutation: the one that was read for it does not match, and neither
does an active one, which a cancel does not go by. -/
def NoOrder (mutation : MutationRecord) (links : BrokerIdentityLinks) (snapshot : BrokerSnapshot)
    (direct : Option OrderFact) : Prop :=
  (∀ order, direct = some order → orderEvidenceResolves mutation links order = false) ∧
    (mutation.kind = .cancelOrder ∨ ∀ order ∈ snapshot.activeOrders,
      orderEvidenceResolves mutation links order = false)

/-- The record resolves a mutation: it is the same mutation, now `RECONCILED`. -/
def Reconciles (mutation record : MutationRecord) : Prop :=
  ∃ runtimeEpoch now disposition evidence,
    record = reconcileRecord mutation runtimeEpoch now disposition evidence

/-- **What resolves a mutation**, with the disposition and the links that come of it. -/
inductive ResolvedFrom (mutation : MutationRecord) (existing : BrokerIdentityLinks)
    (snapshot : BrokerSnapshot) (direct : Option OrderFact) :
    ReconciliationDisposition → BrokerIdentityLinks → Prop
  | order {order : OrderFact} {disposition : ReconciliationDisposition}
      (hread : direct = some order ∨ order ∈ snapshot.activeOrders ∧ mutation.kind ≠ .cancelOrder)
      (hmatch : orderEvidenceResolves mutation existing order = true)
      (hdisposition : orderDisposition mutation.kind order.status = some disposition) :
      ResolvedFrom mutation existing snapshot direct disposition
        (linkOrder mutation.kind existing order)
  | stop {stop : StopFact} {disposition : ReconciliationDisposition}
      (hread : stop ∈ snapshot.stopOrders)
      (hmatch : existing.brokerStopOrderId = some stop.brokerStopOrderId)
      (hdisposition : stopDisposition mutation.kind stop.status = some disposition) :
      ResolvedFrom mutation existing snapshot direct disposition
        { existing with brokerStopOrderId := some stop.brokerStopOrderId }
  | operation {operation : OperationFact} {operationIds fillIds : List String}
      (hread : operation ∈ snapshot.operations)
      (hmatch : operationEvidenceResolves mutation existing operation = true) :
      ResolvedFrom mutation existing snapshot direct .orderAccepted
        { existing with providerOperationIds := operationIds, brokerFillIds := fillIds }
  | event {event : BrokerEvent} (hread : event ∈ snapshot.streamEvidence)
      (hmatch : streamEvidenceResolves mutation existing event = true) :
      ResolvedFrom mutation existing snapshot direct .orderAccepted existing

section

variable {runtimeEpoch : ℕ} {now : I64} {mutation record : MutationRecord}
  {existing links : BrokerIdentityLinks} {snapshot : BrokerSnapshot} {direct : Option OrderFact}

/-- No order decides when neither of the two searches finds one. -/
lemma noOrder_iff : NoOrder mutation existing snapshot direct ↔
    direct.filter (orderEvidenceResolves mutation existing) = none ∧
      (snapshot.activeOrders.find? (orderEvidenceResolves mutation existing)).filter
        (fun _ => mutation.kind ≠ .cancelOrder) = none := by
  refine and_congr (by simp [Option.filter_eq_none_iff]) ?_
  by_cases hkind : mutation.kind = .cancelOrder
  · simp [hkind]
  · simp [hkind, Option.filter_eq_none_iff, ← Option.eq_none_iff_forall_ne_some]

/-- A mutation is resolved by an order that decides, or by the rest of the snapshot. -/
lemma resolveMutation_order_or_rest
    (h : resolveMutation runtimeEpoch now mutation existing snapshot direct =
      some (record, links)) :
    (∃ order disposition evidence,
      (direct = some order ∨ order ∈ snapshot.activeOrders ∧ mutation.kind ≠ .cancelOrder) ∧
      orderEvidenceResolves mutation existing order = true ∧
      orderDisposition mutation.kind order.status = some disposition ∧
      record = reconcileRecord mutation runtimeEpoch now disposition evidence ∧
      links = linkOrder mutation.kind existing order) ∨
    NoOrder mutation existing snapshot direct ∧
      resolvedByRest runtimeEpoch now mutation existing snapshot = some (record, links) := by
  unfold resolveMutation at h
  split at h
  · rename_i order hdirect
    obtain ⟨hread, hmatch⟩ := Option.filter_eq_some_iff.mp hdirect
    obtain ⟨disposition, hdisposition, h⟩ := Option.map_eq_some_iff.mp h
    cases h
    exact .inl ⟨order, _, _, .inl hread, hmatch, hdisposition, rfl, rfl⟩
  rename_i hdirect
  split at h
  · rename_i order hactive
    obtain ⟨hfound, hkind⟩ := Option.filter_eq_some_iff.mp hactive
    obtain ⟨disposition, hdisposition, h⟩ := Option.map_eq_some_iff.mp h
    cases h
    exact .inl ⟨order, _, _, .inr ⟨List.mem_of_find?_eq_some hfound, by simpa using hkind⟩,
      List.find?_some hfound, hdisposition, rfl, rfl⟩
  · rename_i hactive
    exact .inr ⟨noOrder_iff.mpr ⟨hdirect, hactive⟩, h⟩

/-- **A mutation is resolved in one of these ways**, taken in this order. -/
lemma resolveMutation_cases
    (h : resolveMutation runtimeEpoch now mutation existing snapshot direct =
      some (record, links)) : ∃ disposition evidence,
      record = reconcileRecord mutation runtimeEpoch now disposition evidence ∧
        ResolvedFrom mutation existing snapshot direct disposition links := by
  rcases resolveMutation_order_or_rest h with
    ⟨order, _, _, hread, hmatch, hdisposition, rfl, rfl⟩ | ⟨-, h⟩
  · exact ⟨_, _, rfl, .order hread hmatch hdisposition⟩
  simp only [resolvedByRest, Option.or_eq_some_iff, Option.bind_eq_some_iff,
    Option.map_eq_some_iff, resolvedByStop] at h
  rcases h with ⟨stop, hfound, disposition, hdisposition, h⟩ |
    ⟨-, ⟨operation, hfound, h⟩ | ⟨-, event, hfound, h⟩⟩ <;> cases h
  · exact ⟨_, _, rfl, .stop (List.mem_of_find?_eq_some hfound)
      (by simpa using List.find?_some hfound) hdisposition⟩
  · exact ⟨_, _, rfl, .operation (List.mem_of_find?_eq_some hfound) (List.find?_some hfound)⟩
  · exact ⟨_, _, rfl, .event (List.mem_of_find?_eq_some hfound) (List.find?_some hfound)⟩

/-- **Whatever resolves a mutation, the record is that mutation, `RECONCILED`.** -/
lemma resolveMutation_reconciles
    (h : resolveMutation runtimeEpoch now mutation existing snapshot direct =
      some (record, links)) : Reconciles mutation record := by
  obtain ⟨disposition, evidence, hrecord, -⟩ := resolveMutation_cases h
  exact ⟨_, _, disposition, evidence, hrecord⟩

/-- What a mutation is resolved to keeps the request of its links. -/
lemma resolveMutation_links_id
    (h : resolveMutation runtimeEpoch now mutation existing snapshot direct =
      some (record, links)) : links.logicalRequestId = existing.logicalRequestId := by
  obtain ⟨_, _, -, hfrom⟩ := resolveMutation_cases h
  cases hfrom with
  | order =>
    unfold linkOrder
    split_ifs <;> rfl
  | _ => rfl

end

/-- The links with those of one more resolved request. -/
def mergeLink (links : List BrokerIdentityLinks) (link : BrokerIdentityLinks) :
    List BrokerIdentityLinks :=
  if links.any (·.logicalRequestId = link.logicalRequestId) then
    -- only the first entry of the request is replaced
    match links.span (·.logicalRequestId ≠ link.logicalRequestId) with
    | (before, _ :: after) => before ++ link :: after
    | (before, []) => before
  else links ++ [link]

/-- The links after a reconciliation: a resolved request has its new ones. -/
def mergeLinks (existing resolved : List BrokerIdentityLinks) : List BrokerIdentityLinks :=
  resolved.foldl mergeLink existing

/-! ## Discrepancies -/

/-- Report a discrepancy when a condition holds. -/
def reportIf (c : Bool) (detail : String) : List String := if c then [detail] else []

/-- The quantity of an instrument; a later entry replaces an earlier one. -/
def quantityOf (positions : List PositionFact) (instrumentUid : String) : ℤ :=
  ((positions.reverse.find? (·.instrumentUid = instrumentUid)).map
    fun position => position.quantityUnits.val).getD 0

/-- The discrepancies of a snapshot, in the order in which they are found. -/
def validateSnapshot (scope : RuntimeScope) (snapshot : BrokerSnapshot)
    (links : List BrokerIdentityLinks) (expectations : List DerivedPositionExpectation) :
    List String :=
  let account := scope.brokerAccountId
  let matching := snapshot.accounts.filter (·.accountId = account)
  let linkedOrders := links.flatMap fun link =>
    link.brokerOrderId.toList ++ link.replacementBrokerOrderId.toList
  let linkedStops := links.filterMap (·.brokerStopOrderId)
  reportIf (matching.length ≠ 1 || !matching.all fun a => a.isOpen && a.accessible)
    "broker account missing, closed or inaccessible" ++
  reportIf (snapshot.portfolio.accountId ≠ account) "portfolio account identity mismatch" ++
  reportIf (snapshot.positions.any (·.accountId ≠ account)) "position account identity mismatch" ++
  reportIf (snapshot.activeOrders.any (·.accountId ≠ account)) "order account identity mismatch" ++
  reportIf (snapshot.stopOrders.any (·.accountId ≠ account)) "stop account identity mismatch" ++
  reportIf (snapshot.operations.any (·.accountId ≠ account))
    "operation account identity mismatch" ++
  reportIf (¬ (snapshot.activeOrders.map (·.brokerOrderId)).Nodup)
    "duplicate active broker order identity" ++
  reportIf (¬ (snapshot.stopOrders.map (·.brokerStopOrderId)).Nodup)
    "duplicate broker stop identity" ++
  reportIf (¬ (snapshot.positions.map (·.instrumentUid)).Nodup)
    "duplicate broker position identity" ++
  ((snapshot.activeOrders.filter (·.status.active)).flatMap fun order =>
    reportIf (order.brokerOrderId ∉ linkedOrders)
      ("unfamiliar broker order preserved: " ++ order.brokerOrderId)) ++
  ((snapshot.stopOrders.filter (·.status.isActive)).flatMap fun stop =>
    reportIf (stop.brokerStopOrderId ∉ linkedStops)
      ("unfamiliar broker stop preserved: " ++ stop.brokerStopOrderId) ++
    reportIf (quantityOf snapshot.positions stop.instrumentUid = 0)
      ("active stop " ++ stop.brokerStopOrderId ++
        " has no broker position; preserved for operator review")) ++
  (expectations.flatMap fun expectation =>
    reportIf (quantityOf snapshot.positions expectation.instrumentUid ≠
        expectation.expectedQuantityUnits.val)
      ("derived local position expectation differs for instrument " ++ expectation.instrumentUid))

/-- The reason code of a reconciliation, from the texts of its discrepancies. -/
def discrepancyReason (discrepancies unresolved : List String) : ReasonCode :=
  let mentions (text : String) := discrepancies.any fun value => occursIn text value.toList
  if !unresolved.isEmpty then .unknownMutation
  else if mentions "account missing, closed or inaccessible" then .accountUnavailable
  else if mentions "position" then .brokerPositionConflict
  else if mentions "order" then .brokerOrderConflict
  else if mentions "stop" then .brokerStopConflict
  else if discrepancies.isEmpty then .reconciliationComplete
  else .reconciliationIncomplete

end VoxTrader.Runtime
