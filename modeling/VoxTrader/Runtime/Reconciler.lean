import VoxTrader.Runtime.Interface
import VoxTrader.Runtime.Resolve

/-!
# A reconciliation

The program that brings the store of a scope to what the broker says: it reads a snapshot, looks
for evidence about every unresolved mutation, compares the rest with the links and expectations,
and commits the outcome in one transaction. Only its reads of the active orders and its commit
concern the journal or the orders; the parts before, between and after are programs of their own.

The portfolio, the positions, the active orders and the stop orders are read concurrently by the
source. The order in which they are read here is one of the possible ones; of the four only the
active orders are looked at by another part of the system.

## Main definitions

* `Opening`, `openReconciliation` — the reads up to the active orders.
* `Plan`, `planReconciliation` — the remaining reads, and what is to be committed.
* `reconcile` — a whole reconciliation.

## Main results

* `planReconciliation_activeOrders` — a report is on the orders that were read.
-/

namespace VoxTrader.Runtime

open Process

/-! ## Reads -/

/-- A broker read of a reconciliation. -/
def safeRead {α : Type} (read : Process base (Except BrokerPortError α)) :
    ExceptT ReconciliationError (Process base) α :=
  orFail .broker read

/-- A store operation of a reconciliation. -/
def reconcilerStore (op : StoreOp) : ExceptT ReconciliationError (Process base) op.Value :=
  orFail .store (storeCall op)

/-- The clock of a reconciliation. -/
def reconcilerNow : ExceptT ReconciliationError (Process base) I64 := do
  match ← liftM (ask .now) with
  | some now => return now
  | none => throw (.safety "system clock is outside i64 range")

/-- The pages of the history that are read at most. -/
def maxOperationPages : ℕ := 100

/-- The unresolved mutations with which a reconciliation goes on. -/
def maxUnresolvedMutations : ℕ := 256

/-- How far back the history is read without a checkpoint. -/
def historyWindowMs : I64 := .lit (7 * 24 * 60 * 60 * 1000)

/-- How far before its checkpoint the history is read again. -/
def historyOverlapMs : I64 := .lit (5 * 60 * 1000)

/-- The age up to which events are kept. -/
def retentionMs : I64 := .lit (30 * 24 * 60 * 60 * 1000)

/-- The events of the dedupe table that are kept at most. -/
def maxDedupeEvents : ℕ := 100000

/-- The rest of the history: pages left, the cursor of the next one, the cursors that were
followed and the operations so far. -/
def operationPages (since : I64) : ℕ → Option String → List String → List OperationFact →
      ExceptT ReconciliationError (Process base) (List OperationFact)
  | 0, _, _, _ => throw (.safety "operations history exceeds bounded page count")
  | pages + 1, cursor, seenCursors, operations => do
    let page : OperationsPage ← safeRead (ask (.operationsPage cursor since))
    match page.nextCursor with
    | none => return operations ++ page.items
    | some nextCursor =>
      if Text.isBlank nextCursor || nextCursor ∈ seenCursors then
        throw (.safety "operations cursor is empty or cyclic")
      else
        operationPages since pages (some nextCursor) (nextCursor :: seenCursors)
          (operations ++ page.items)

/-- The account's history since a time. -/
def operations (since : I64) : ExceptT ReconciliationError (Process base) (List OperationFact) :=
  operationPages since maxOperationPages none [] []

/-- The time from which the history is read: a checkpoint that makes no sense is discarded. -/
def historyStart (scope : RuntimeScope) (runtimeEpoch : ℕ) (now : I64) :
    ExceptT ReconciliationError (Process base) I64 := do
  let checkpoint : Option ReconciliationCheckpoint ← reconcilerStore .loadCheckpoint
  match checkpoint with
  | none => return now.saturatingSub historyWindowMs
  | some checkpoint =>
    if checkpoint.scopeKey = scope.key && !Text.isBlank checkpoint.reconciliationId &&
        0 < checkpoint.snapshotObservedAtUnixMs.val then
      return checkpoint.snapshotObservedAtUnixMs.saturatingSub historyOverlapMs
    else
      let _ : Unit ← reconcilerStore (.discardCheckpoint runtimeEpoch)
      return now.saturatingSub historyWindowMs

/-! ## The parts of a reconciliation -/

/-- What is read before the active orders. -/
structure Opening where
  now : I64
  reconciliationId : String
  since : I64
  accounts : List BrokerAccount
  portfolio : PortfolioFact
  positions : List PositionFact

/-- The reads up to the active orders. -/
def openReconciliation (scope : RuntimeScope) (runtimeEpoch : ℕ) :
    ExceptT ReconciliationError (Process base) Opening := do
  let now ← reconcilerNow
  let reconciliationId : String ← liftM (ask .freshId)
  let since ← historyStart scope runtimeEpoch now
  let accounts : List BrokerAccount ← safeRead (ask .accounts)
  let portfolio : PortfolioFact ← safeRead (ask .portfolio)
  let positions : List PositionFact ← safeRead (ask .positions)
  return ⟨now, reconciliationId, since, accounts, portfolio, positions⟩

/-- What is found out about the unresolved mutations. -/
structure Resolution where
  records : List MutationRecord
  links : List BrokerIdentityLinks
  unresolvedIds : List String

/-- Look for evidence about one mutation after another. -/
def resolveMutations (runtimeEpoch : ℕ) (now : I64) (snapshot : BrokerSnapshot)
    (links : List BrokerIdentityLinks) :
    List MutationRecord → Resolution → ExceptT ReconciliationError (Process base) Resolution
  | [], found => return found
  | mutation :: rest, found => do
    let existing := existingLinks links mutation.logicalRequestId
    let direct : Option OrderFact ←
      if mutation.kind.concernsOrder then
        safeRead (ask (.orderState (orderReadId mutation.kind existing) mutation.logicalRequestId))
      else pure none
    match resolveMutation runtimeEpoch now mutation existing snapshot direct with
    | some (record, link) =>
      resolveMutations runtimeEpoch now snapshot links rest
        { found with records := found.records ++ [record], links := found.links ++ [link] }
    | none =>
      resolveMutations runtimeEpoch now snapshot links rest
        { found with unresolvedIds := found.unresolvedIds ++ [mutation.logicalRequestId] }

/-- Note what comes of a mutation. -/
def Resolution.note (found : Resolution) (mutation : MutationRecord) :
    Option (MutationRecord × BrokerIdentityLinks) → Resolution
  | some (record, link) =>
    { found with records := found.records ++ [record], links := found.links ++ [link] }
  | none => { found with unresolvedIds := found.unresolvedIds ++ [mutation.logicalRequestId] }

/-- Read the order of a mutation; none is read for a mutation of a stop order. -/
def readOrder (links : List BrokerIdentityLinks) (mutation : MutationRecord) :
    ExceptT ReconciliationError (Process base) (Option OrderFact) :=
  if mutation.kind.concernsOrder then
    safeRead (ask (.orderState
      (orderReadId mutation.kind (existingLinks links mutation.logicalRequestId))
      mutation.logicalRequestId))
  else pure none

/-- Its order is read, what comes of it is noted, and the search goes on. -/
lemma resolveMutations_cons {runtimeEpoch : ℕ} {now : I64} {snapshot : BrokerSnapshot}
    {links : List BrokerIdentityLinks} {mutation : MutationRecord} {rest : List MutationRecord}
    {found : Resolution} :
    resolveMutations runtimeEpoch now snapshot links (mutation :: rest) found =
      readOrder links mutation >>= fun direct =>
        resolveMutations runtimeEpoch now snapshot links rest (found.note mutation
          (resolveMutation runtimeEpoch now mutation
            (existingLinks links mutation.logicalRequestId) snapshot direct)) := by
  rw [resolveMutations, readOrder]
  split_ifs
  all_goals
    refine bind_congr fun direct => ?_
    beta_reduce
    generalize resolveMutation runtimeEpoch now mutation _ snapshot direct = outcome
    rcases outcome with _ | ⟨record, link⟩ <;> rfl

/-- The event a fill of the history stands for. -/
def fillEvent (scope : RuntimeScope) (runtimeEpoch : ℕ) (operation : OperationFact)
    (fillId : String) : BrokerEvent :=
  ⟨scope.brokerAccountId, .fill, fillId, operation.brokerOrderId, none,
    operation.logicalRequestId, none, runtimeEpoch⟩

/-- Record every fill of the history as seen. -/
def recordFills (now : I64) : List BrokerEvent → ExceptT ReconciliationError (Process base) Unit
  | [] => return ()
  | event :: rest => do
    let _ : Bool ← reconcilerStore (.recordBrokerEvent event now)
    recordFills now rest

/-- The fills of the history, one event each. -/
def persistFillDedupe (scope : RuntimeScope) (runtimeEpoch : ℕ) (snapshot : BrokerSnapshot)
    (now : I64) : ExceptT ReconciliationError (Process base) Unit :=
  recordFills now (snapshot.operations.flatMap fun operation =>
    operation.brokerFillIds.map (fillEvent scope runtimeEpoch operation))

/-- What is to be committed, and reported afterwards. -/
structure Plan where
  checkpoint : ReconciliationCheckpoint
  resolved : List MutationRecord
  links : List BrokerIdentityLinks
  report : ReconciliationReport

/-- The commit of a plan; a runtime is only ready once the report is applied. -/
def Plan.commit (plan : Plan) : SnapshotOp :=
  .commitReconciliation plan.checkpoint plan.resolved plan.links
    (if plan.report.resultingState = .ready then .reconciling else plan.report.resultingState)
    plan.report.reasonCode

/-- The outcome of a reconciliation, from everything that was read. -/
def makePlan (scope : RuntimeScope) (runtimeEpoch : ℕ) (opening : Opening)
    (snapshot : BrokerSnapshot) (links : List BrokerIdentityLinks)
    (expectations : List DerivedPositionExpectation) (found : Resolution) : Plan :=
  let discrepancies := validateSnapshot scope snapshot (mergeLinks links found.links) expectations
    ++ reportIf (!found.unresolvedIds.isEmpty) (toString found.unresolvedIds.length ++
      " safety-critical mutation(s) remain UNKNOWN_AFTER_DISPATCH")
  let resultingState := if discrepancies.isEmpty then RuntimeState.ready else .halted
  { checkpoint :=
      ⟨scope.key, opening.reconciliationId, snapshot.operations.getLast?.map (·.cursor),
        opening.now, opening.now, runtimeEpoch, true, true, true, true, true, true⟩
    resolved := found.records
    links := found.links
    report :=
      ⟨opening.reconciliationId, runtimeEpoch, resultingState,
        discrepancyReason discrepancies found.unresolvedIds,
        found.records.map (·.logicalRequestId), found.unresolvedIds, discrepancies, opening.now,
        snapshot.portfolio, snapshot.positions, snapshot.activeOrders, snapshot.stopOrders,
        opening.now⟩ }

/-- The remaining reads, and the outcome. -/
def planReconciliation (scope : RuntimeScope) (runtimeEpoch : ℕ) (opening : Opening)
    (activeOrders : List OrderFact) : ExceptT ReconciliationError (Process base) Plan := do
  let stopOrders : List StopFact ← safeRead (ask (.stopOrders opening.since))
  let operations ← operations opening.since
  let snapshot : BrokerSnapshot := ⟨opening.accounts, opening.portfolio, opening.positions,
    activeOrders, stopOrders, operations, [], opening.now⟩
  let unresolved : List MutationRecord ← reconcilerStore .unresolvedMutations
  if maxUnresolvedMutations < unresolved.length then
    throw (.safety "unresolved mutation set exceeds bounded reconciliation capacity")
  else
    let links : List BrokerIdentityLinks ← reconcilerStore .allIdentityLinks
    let expectations : List DerivedPositionExpectation ← reconcilerStore .expectedPositions
    let found ← resolveMutations runtimeEpoch opening.now snapshot links unresolved ⟨[], [], []⟩
    persistFillDedupe scope runtimeEpoch snapshot opening.now
    return makePlan scope runtimeEpoch opening snapshot links expectations found

/-! ## The whole -/

section

variable {R : Interface}

/-- **A reconciliation of a scope.** -/
def reconcile (scope : RuntimeScope) (runtimeEpoch : ℕ) :
    ExceptT ReconciliationError (Process (withSnapshot R)) ReconciliationReport := do
  let opening ← openReconciliation scope runtimeEpoch
  let activeOrders : List OrderFact ← orFail .broker (snapshotCall .activeOrders)
  let plan ← planReconciliation scope runtimeEpoch opening activeOrders
  let _ : Unit ← orFail .store (snapshotCall plan.commit)
  let _ : Unit ← reconcilerStore (.compact (opening.now.saturatingSub retentionMs) maxDedupeEvents)
  return plan.report

/-- The report of a plan lists the active orders that were read. -/
lemma planReconciliation_activeOrders {scope : RuntimeScope} {epoch : ℕ}
    {opening : Opening} {activeOrders : List OrderFact} :
    Ensures (fun plan => plan.report.activeOrders = activeOrders)
      (planReconciliation scope epoch opening activeOrders) := by
  refine ensures_bind fun stopOrders => ensures_bind fun operations =>
    ensures_bind fun unresolved => ?_
  split_ifs
  · exact ensures_throw
  · exact ensures_bind fun links => ensures_bind fun expectations =>
      ensures_bind fun found => ensures_bind fun _ => ensures_pure rfl

end

end VoxTrader.Runtime
