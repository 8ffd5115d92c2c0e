import VoxTrader.Core.RiskReconcile
import VoxTrader.Runtime.System

/-!
# The production risk adapter as a risk port

The adapter stands between a coordinator and the risk store. It admits commands, looks at an
approval once more before its command is sent, is told what came of it, and goes through the
reservations after a reconciliation. Every call of the risk store is an operation of its own: the
store opens a connection for each, and nothing is locked in between. In particular an approval is
looked up by two reads, and an operation on a reservation is a read and a write.

What the broker, the session factory and the instrument cache answer is left to the environment.

## Main definitions

* `RiskStoreOp`, `AdapterOp` — the operations, with the interface `adapterOps`.
* `RiskAdapter.admitCommand`, `RiskAdapter.validateBeforeDispatch`,
  `RiskAdapter.recordDispatchOutcome`, `RiskAdapter.reconcile` — the four calls of the port.
* `RiskAdapter.port`, `RiskAdapter.side` — the port, and the state behind it.

## Main results

* `RiskStoreOp.exec_change` — what a call of the risk store can leave behind.
-/

namespace VoxTrader.Core

open VoxTrader.Runtime VoxTrader.Risk Process

/-! ## Operations -/

/-- Calls of the risk store. -/
inductive RiskStoreOp
  | policy
  | putPolicy (expectedRevision : Option ℕ) (policy : RiskPolicySet) (reason : String)
  | decision (decisionId : String)
  | decisionForRequest (logicalRequestId : String)
  | reservationForRequest (logicalRequestId : String)
  | activeReservedDelta (instrumentId : String)
  | activeReservations
  | putDecision (decision : RiskDecision)
  | persistApprovalAtomic (decision : RiskDecision) (reservation : RiskReservation)
      (capacity : ReservationCapacity)
  | updateReservation (reservationId : String) (expected : List ReservationState)
      (remaining : I64) (state : ReservationState) (now : I64)

/-- What they return when they succeed. -/
def RiskStoreOp.Value : RiskStoreOp → Type
  | policy => Option RiskPolicySet
  | putPolicy .. => RiskPolicySet
  | decision _ | decisionForRequest _ => Option RiskDecision
  | reservationForRequest _ => Option RiskReservation
  | activeReservedDelta _ => I64
  | activeReservations => List RiskReservation
  | putDecision _ => Unit
  | persistApprovalAtomic .. => PersistedRiskApproval
  | updateReservation .. => RiskReservation

/-- The effect of a call for an account. -/
def RiskStoreOp.exec (accountId : String) (db : RiskDb) :
    (op : RiskStoreOp) → Except RiskStoreError (op.Value × RiskDb)
  | policy => .ok (db.policy accountId, db)
  | putPolicy expectedRevision replacement reason =>
    db.putPolicy accountId expectedRevision replacement reason
  | decision decisionId => .ok (db.decision decisionId, db)
  | decisionForRequest id => .ok (db.decisionForRequest accountId id, db)
  | reservationForRequest id => .ok (db.reservationForRequest accountId id, db)
  | activeReservedDelta instrumentId =>
    (db.activeReservedDelta accountId instrumentId).map fun lots => (lots, db)
  | activeReservations => .ok (db.activeReservations accountId, db)
  | putDecision verdict => (db.putDecision verdict).map fun db' => ((), db')
  | persistApprovalAtomic verdict reservation capacity =>
    db.persistApprovalAtomic verdict reservation capacity
  | updateReservation reservationId expected remaining state now =>
    db.updateReservation reservationId expected remaining state now

/-- Operations of the adapter. -/
inductive AdapterOp
  | store (op : RiskStoreOp)
  /-- Look a mutation up in the runtime journal. -/
  | mutation (logicalRequestId : String)
  | unresolvedMutations
  | readSnapshot
  | writeSnapshot (report : ReconciliationReport)
  | newId
  /-- What the broker and the session factory answer while a request is built. -/
  | brokerAnswers
  | connectionId
  /-- The authorization revision of an execution session. -/
  | executionSession
  /-- The revision under which the constraints of an instrument are cached. -/
  | instrumentRevision (instrumentId : String)

/-- Their results. -/
def AdapterOp.Res : AdapterOp → Type
  | store op => Except RiskStoreError op.Value
  | mutation _ => Except StoreError (Option MutationRecord)
  | unresolvedMutations => Except StoreError (List MutationRecord)
  | readSnapshot => Option ReconciliationReport
  | writeSnapshot _ => Unit
  | newId => String
  | brokerAnswers => BrokerAnswers
  | connectionId => Except String Unit
  | executionSession => Except String ℕ
  | instrumentRevision _ => Except RiskAdmissionError (Option ℕ)

/-- The interface of the adapter. -/
def adapterOps : Interface := ⟨AdapterOp, AdapterOp.Res⟩

/-- Programs of the adapter, which may fail. -/
abbrev Adapter (ε α : Type) : Type := ExceptT ε (Process (withRisk adapterOps)) α

/-- Perform an operation of the adapter. -/
def adapterCall (op : AdapterOp) : Process (withRisk adapterOps) op.Res :=
  Process.performRight (J := adapterOps) op

/-- Call the risk store. -/
def riskStore (op : RiskStoreOp) : Process (withRisk adapterOps) (Except RiskStoreError op.Value) :=
  adapterCall (.store op)

/-- Call the risk store; a failure makes the adapter unavailable. -/
def riskStoreCall (op : RiskStoreOp) : Adapter RiskAdmissionError op.Value :=
  orFail storeUnavailable (riskStore op)

/-- A computation without operations. -/
def computed {ε α : Type} (result : Except ε α) : Adapter ε α := ExceptT.mk (pure result)

/-- The clock. -/
def adapterNow : Adapter RiskAdmissionError I64 := do
  match ← liftM (ask .now) with
  | some now => return now
  | none => throw (.unavailable "system clock is out of range")

/-! ## Small functions -/

/-- The policy of an account nobody has configured. -/
def initialPolicy : RiskPolicySet where
  revision := 1
  state := .reduceOnly
  allowMargin := false
  requireProviderLotLimit := true
  maxMarketDataAgeMs := none
  maxSingleOrderLots := none
  maxPositionAbsLots := none
  maxGrossExposureNanos := none
  maxNetExposureAbsNanos := none
  maxInstrumentExposureNanos := none
  maxMarginUtilizationPpm := none
  maxDailyLossNanos := none
  protectionRequiredForNewExposure := false
  maxUnprotectedDurationMs := none

/-- The part of the requested notional that belongs to the approved lots. -/
def scaledNotional (requestedNotional : I128) (requestedDelta approvedDelta : I64) :
    Except RiskAdmissionError I128 := do
  let requestedAbs : I128 ← Except.orStop (FixedInt.ofInt? requestedDelta.val.natAbs)
    (.unavailable "requested quantity overflow")
  let approvedAbs : I128 ← Except.orStop (FixedInt.ofInt? approvedDelta.val.natAbs)
    (.unavailable "approved quantity overflow")
  if requestedAbs.val = 0 then .ok 0
  else
    Except.orStop ((requestedNotional.checkedMul approvedAbs.val).bind (·.checkedDiv requestedAbs))
      (.unavailable "approved notional overflow")

/-- The code of a reason, as it is reported. -/
def riskReasonCode : RiskReasonCode → String
  | .approved => "APPROVED"
  | .resizedToProviderLimit => "RESIZED_TO_PROVIDER_LIMIT"
  | .resizedToPolicyLimit => "RESIZED_TO_POLICY_LIMIT"
  | .invalidQuantity => "INVALID_QUANTITY"
  | .instrumentUnavailable => "INSTRUMENT_UNAVAILABLE"
  | .instrumentNotTradable => "INSTRUMENT_NOT_TRADABLE"
  | .priceUnavailable => "PRICE_UNAVAILABLE"
  | .positionLotMismatch => "POSITION_LOT_MISMATCH"
  | .criticalInputMissing => "CRITICAL_INPUT_MISSING"
  | .runtimeNotReady => "RUNTIME_NOT_READY"
  | .executionUnauthorized => "EXECUTION_UNAUTHORIZED"
  | .authorizationRevisionChanged => "AUTHORIZATION_REVISION_CHANGED"
  | .policyRevisionChanged => "POLICY_REVISION_CHANGED"
  | .reconciliationRevisionChanged => "RECONCILIATION_REVISION_CHANGED"
  | .positionRevisionChanged => "POSITION_REVISION_CHANGED"
  | .orderRevisionChanged => "ORDER_REVISION_CHANGED"
  | .instrumentConstraintRevisionChanged => "INSTRUMENT_CONSTRAINT_REVISION_CHANGED"
  | .marketDataMissing => "MARKET_DATA_MISSING"
  | .marketDataStale => "MARKET_DATA_STALE"
  | .unknownMutationConflict => "UNKNOWN_MUTATION_CONFLICT"
  | .reduceOnly => "REDUCE_ONLY"
  | .halted => "HALTED"
  | .marginNotAllowed => "MARGIN_NOT_ALLOWED"
  | .marginConfirmationRequired => "MARGIN_CONFIRMATION_REQUIRED"
  | .marginUtilizationExceeded => "MARGIN_UTILIZATION_EXCEEDED"
  | .providerLimitUnavailable => "PROVIDER_LIMIT_UNAVAILABLE"
  | .providerLimitExceeded => "PROVIDER_LIMIT_EXCEEDED"
  | .maxSingleOrderExceeded => "MAX_SINGLE_ORDER_EXCEEDED"
  | .maxPositionExceeded => "MAX_POSITION_EXCEEDED"
  | .maxGrossExposureExceeded => "MAX_GROSS_EXPOSURE_EXCEEDED"
  | .maxNetExposureExceeded => "MAX_NET_EXPOSURE_EXCEEDED"
  | .maxInstrumentExposureExceeded => "MAX_INSTRUMENT_EXPOSURE_EXCEEDED"
  | .dailyLossExceeded => "DAILY_LOSS_EXCEEDED"
  | .protectionRequired => "PROTECTION_REQUIRED"
  | .killSwitchActive => "KILL_SWITCH_ACTIVE"
  | .persistenceFailure => "PERSISTENCE_FAILURE"

namespace RiskAdapter

variable (adapter : RiskAdapter)

/-- The policy of the account, which is set up when there is none. -/
def policy : Adapter RiskAdmissionError RiskPolicySet := do
  let current : Option RiskPolicySet ← riskStoreCall .policy
  match current with
  | some policy => return policy
  | none =>
    let _ ← adapterNow
    riskStoreCall (.putPolicy none initialPolicy "initialize fail-closed account policy")

/-! ## Admission -/

variable (logicalRequestId : String)

/-- The approval of a request: the reservation is read first, then the decision. -/
def approvalForRequest : Adapter RiskAdmissionError (Option PersistedRiskApproval) := do
  let reservation : Option RiskReservation ← riskStoreCall (.reservationForRequest logicalRequestId)
  let decision : Option RiskDecision ← riskStoreCall (.decisionForRequest logicalRequestId)
  computed ((RiskDb.approvalForRequest reservation decision).mapError storeUnavailable)

/-- What is granted on an approval. -/
def admission (decision : RiskDecision) (reservationId : Option String) : RiskAdmission :=
  ⟨decision.decisionId, reservationId, decision.policyRevision, decision.approvedDeltaLots⟩

/-- The approval that exists is granted once more. -/
def replay (command : RuntimeExecutionCommand) (logicalRequestId : String)
    (existing : PersistedRiskApproval) : Adapter RiskAdmissionError RiskAdmission := do
  if existing.reservation.state ≠ .active then
    throw (.stale "logical request reservation is no longer dispatchable")
  else
    let mutation : Option MutationRecord ← orFail (fun error => .unavailable error.text)
      (adapterCall (.mutation logicalRequestId))
    if mutation.isSome then throw (.stale "logical request already entered runtime journal")
    else
      let snapshot : Option ReconciliationReport ← liftM (adapterCall .readSnapshot)
      match snapshot with
      | none => throw (.stale "risk snapshot disappeared")
      | some report =>
        let replay ← computed (commandDescription command report)
        if replay.action ≠ existing.decision.action ∨
            replay.instrumentId ≠ existing.reservation.instrumentId ∨
            replay.deltaLots ≠ existing.decision.requestedDeltaLots then
          throw (.stale "logical request replay changed risk semantics")
        else return admission existing.decision (some existing.reservation.reservationId)

/-- The instrument of a command; without a description the request is not built. -/
def describedInstrument (command : RuntimeExecutionCommand)
    (snapshot : Option ReconciliationReport) : String :=
  match snapshot.map (commandDescription command) with
  | some (.ok description) => description.instrumentId
  | _ => ""

/-- Read what a request is built from, and build it. -/
def buildRequest (purpose : RuntimeExecutionPurpose) (command : RuntimeExecutionCommand)
    (logicalRequestId : String) (policy : RiskPolicySet) : Adapter RiskAdmissionError RiskRequest :=
  do
  let snapshot : Option ReconciliationReport ← liftM (adapterCall .readSnapshot)
  let answers : BrokerAnswers ← liftM (adapterCall .brokerAnswers)
  let unresolved : Except StoreError (List MutationRecord) ←
    liftM (adapterCall .unresolvedMutations)
  let reserved : Except RiskStoreError I64 ←
    liftM (riskStore (.activeReservedDelta (describedInstrument command snapshot)))
  computed (Core.buildRequest adapter purpose command logicalRequestId policy snapshot answers
    unresolved fun _ => reserved)

/-- The reservation for an approved request. -/
def reservationFor (request : RiskRequest) (decision : RiskDecision) (reservationId : String)
    (notional : I128) : RiskReservation where
  reservationId := reservationId
  accountId := request.accountId
  instrumentId := request.instrumentId
  strategyId := request.strategyId
  source := request.source
  logicalRequestId := request.requestId
  reservedDeltaLots := decision.approvedDeltaLots
  remainingDeltaLots := decision.approvedDeltaLots
  reservedNotionalNanos := notional
  state := .active
  createdAtUnixMs := request.nowUnixMs
  updatedAtUnixMs := request.nowUnixMs
  expiresAtUnixMs := decision.expiresAtUnixMs

/-- A failure to persist an approval. -/
def persistError : RiskStoreError → RiskAdmissionError
  | .capacityExceeded => .denied "RESERVATION_CAPACITY_EXCEEDED"
      "concurrent reservations consumed remaining capacity"
  | error => storeUnavailable error

/-- Persist an approval; one that moves lots gets a reservation. -/
def persistApproval (policy : RiskPolicySet) (request : RiskRequest) (decision : RiskDecision) :
    Adapter RiskAdmissionError RiskAdmission := do
  if request.action.directional then
    let reservationId : String ← liftM (adapterCall .newId)
    let notional ← computed (scaledNotional request.requestedNotionalNanos
      request.requestedDeltaLots decision.approvedDeltaLots)
    let persisted : PersistedRiskApproval ← orFail persistError
      (riskStore (.persistApprovalAtomic { decision with reservationId := some reservationId }
        (reservationFor request decision reservationId notional)
        ⟨policy.maxGrossExposureNanos, policy.maxPositionAbsLots⟩))
    return admission persisted.decision (some persisted.reservation.reservationId)
  else
    let _ : Unit ← riskStoreCall (.putDecision decision)
    return admission decision none

/-- Decide on a request without an approval. -/
def decide (purpose : RuntimeExecutionPurpose) (command : RuntimeExecutionCommand)
    (logicalRequestId : String) : Adapter RiskAdmissionError RiskAdmission := do
  let policy ← policy
  let request ← adapter.buildRequest purpose command logicalRequestId policy
  let decisionId : String ← liftM (adapterCall .newId)
  let decision ← computed ((evaluate decisionId policy request).mapError fun error =>
    .unavailable (engineErrorText error))
  if decision.permitsDispatch then persistApproval policy request decision
  else
    let _ : Unit ← riskStoreCall (.putDecision decision)
    let reason := decision.reasons.head?.getD ⟨.persistenceFailure, "risk denied"⟩
    throw (.denied (riskReasonCode reason.code) reason.message)

/-- **Admit a command**: an approval that exists is granted once more, otherwise one is sought. -/
def admitCommand (purpose : RuntimeExecutionPurpose) (command : RuntimeExecutionCommand)
    (logicalRequestId : String) : Adapter RiskAdmissionError RiskAdmission := do
  let existing ← approvalForRequest logicalRequestId
  match existing with
  | some existing => replay command logicalRequestId existing
  | none => adapter.decide purpose command logicalRequestId

/-! ## The last look -/

/-- The decision is the one that was granted. -/
def grantedDecision (admission : RiskAdmission) (decision : RiskDecision) : Bool :=
  decision.requestId = logicalRequestId && decision.accountId = adapter.canonicalAccountId &&
    decision.policyRevision = admission.policyRevision &&
    decision.approvedDeltaLots = admission.approvedDeltaLots &&
    decision.reservationId = admission.reservationId

/-- The report is the one the decision was made on. -/
def sameWatermark (report : ReconciliationReport) (validity : RiskValidityContext) : Bool :=
  report.runtimeEpoch = validity.runtimeEpoch &&
    snapshotRevision report = validity.reconciliationRevision &&
    snapshotRevision report = validity.positionRevision &&
    snapshotRevision report = validity.orderRevision

/-- The decision has not expired. -/
def validateExpiry (decision : RiskDecision) : Adapter RiskAdmissionError Unit := do
  match decision.expiresAtUnixMs with
  | some expiresAt =>
    let now ← adapterNow
    if expiresAt.val < now.val then throw (.stale "risk approval expired") else return ()
  | none => return ()

/-- The decision has not expired, and is of the current policy and authorization. -/
def validateDecision (decision : RiskDecision) : Adapter RiskAdmissionError Unit := do
  validateExpiry decision
  let current ← policy
  if current.revision ≠ decision.validity.policyRevision then
    throw (.stale "risk policy revision changed")
  else
    let _ : Unit ← orFail .unavailable (adapterCall .connectionId)
    let authorizationRevision : ℕ ← orFail (.denied "EXECUTION_UNAUTHORIZED" ·)
      (adapterCall .executionSession)
    if authorizationRevision ≠ decision.validity.executionAuthorizationRevision then
      throw (.stale "execution authorization revision changed")
    else return ()

/-- The instrument is still constrained as it was. -/
def validateInstrument (description : CommandDescription) (decision : RiskDecision) :
    Adapter RiskAdmissionError Unit := do
  if description.action.directional then
    let revision : Option ℕ ←
      ExceptT.mk (adapterCall (.instrumentRevision description.instrumentId))
    match revision with
    | none => throw (.stale "instrument constraints disappeared")
    | some revision =>
      if revision ≠ decision.validity.instrumentConstraintsRevision then
        throw (.stale "instrument constraint revision changed")
      else return ()
  else return ()

/-- Another request on the instrument is unresolved. -/
def conflicting (logicalRequestId instrumentId : String) (mutation : MutationRecord) : Bool :=
  mutation.logicalRequestId ≠ logicalRequestId && mutation.state.safetyUnresolved &&
    mutation.requestEvidence.instrumentRef = some instrumentId

/-- **The last look before a command is sent.** The state of the reservation is not looked at. -/
def validateBeforeDispatch (command : RuntimeExecutionCommand) (logicalRequestId : String)
    (admission : RiskAdmission) : Adapter RiskAdmissionError Unit := do
  let decision : Option RiskDecision ← riskStoreCall (.decision admission.decisionId)
  match decision with
  | none => throw (.stale "risk decision disappeared")
  | some decision =>
    if !adapter.grantedDecision logicalRequestId admission decision then
      throw (.stale "persisted risk approval does not match dispatch")
    else
      validateDecision decision
      let snapshot : Option ReconciliationReport ← liftM (adapterCall .readSnapshot)
      match snapshot with
      | none => throw (.stale "risk snapshot disappeared")
      | some report =>
        if !sameWatermark report decision.validity then
          throw (.stale "broker account-state watermark changed")
        else
          let description ← computed (commandDescription command report)
          if description.deltaLots ≠ decision.approvedDeltaLots ∨
              description.action ≠ decision.action then
            throw (.stale "approved command semantics changed")
          else
            validateInstrument description decision
            let unresolved : List MutationRecord ← orFail (fun error => .unavailable error.text)
                (adapterCall .unresolvedMutations)
            if unresolved.any (conflicting logicalRequestId description.instrumentId) then
              throw (.stale "conflicting UNKNOWN_AFTER_DISPATCH mutation appeared")
            else return ()

/-! ## What came of a command -/

/-- An operation of the reservation reconciler: the read, and the write that is planned on it. -/
def reservationOp (op : ReservationOp) (logicalRequestId : String) (now : I64) :
    Adapter ReconcileError RiskReservation := do
  computed op.precheck
  let reservation : Option RiskReservation ←
    orFail .store (riskStore (.reservationForRequest logicalRequestId))
  match reservation with
  | none => throw .reservationNotFound
  | some r =>
    let plan ← computed (op.plan r)
    match plan with
    | .unchanged => return r
    | .update u =>
      orFail .store
        (riskStore (.updateReservation r.reservationId u.expected u.remaining u.state now))

/-- The operation an outcome calls for. -/
def outcomeOp : RiskDispatchOutcome → ReservationOp
  | .acknowledged => .dispatchAcknowledged
  | .rejected => .brokerAuthoritativeReject
  | .unknownAfterDispatch => .unknownAfterDispatch

/-- **Record what came of a command.** -/
def recordDispatchOutcome (outcome : RiskDispatchOutcome) : Adapter RiskAdmissionError Unit := do
  let now ← adapterNow
  match ← liftM (reservationOp (outcomeOp outcome) logicalRequestId now).run with
  | .ok _ | .error .reservationNotFound => return ()
  | .error error => throw (.unavailable (reconcileErrorText error))

/-! ## After a reconciliation -/

/-- Go through some reservations with a report, up to the first error. -/
def reconcileEach (report : ReconciliationReport) :
    List RiskReservation → Adapter RiskAdmissionError Unit
  | [] => return ()
  | r :: rest => do
    let op ← computed (reconcileOp report r.logicalRequestId)
    let _ : RiskReservation ← orFail (fun error => .unavailable (reconcileErrorText error))
      (reservationOp op r.logicalRequestId report.completedAtUnixMs).run
    reconcileEach report rest

/-- **Take a report over** and go through the reservations that hold capacity. -/
def reconcile (report : ReconciliationReport) : Adapter RiskAdmissionError Unit := do
  let _ : Unit ← liftM (adapterCall (.writeSnapshot report))
  let active : List RiskReservation ← riskStoreCall .activeReservations
  reconcileEach report active

/-! ## The port -/

/-- **The adapter as a risk port.** -/
def port : RiskPort adapterOps where
  admitCommand purpose command logicalRequestId :=
    adapter.admitCommand purpose command logicalRequestId
  validateBeforeDispatch _ command logicalRequestId admission :=
    adapter.validateBeforeDispatch command logicalRequestId admission
  recordDispatchOutcome := recordDispatchOutcome
  reconcile := reconcile

end RiskAdapter

/-! ## The state behind the port -/

/-- The risk store, and the last report of each coordinator's adapter. -/
structure AdapterState where
  db : RiskDb
  snapshots : ℕ → Option ReconciliationReport
  /-- The requests whose approval was looked up, with the process, the newest first. -/
  lookups : List (ℕ × String)

/-- What the outside decides while an operation of the adapter is performed. -/
structure AdapterChoice where
  /-- The call of the risk store fails without effect. -/
  storeFault : Bool
  /-- The call of the runtime store fails. -/
  runtimeFault : Option StoreError
  newId : String
  answers : BrokerAnswers
  connectionId : Except String Unit
  executionSession : Except String ℕ
  instrumentRevision : Except RiskAdmissionError (Option ℕ)

/-- What a call of the runtime store returns, unless it fails. -/
def AdapterChoice.orFault {α : Type} (choice : AdapterChoice) (result : Except StoreError α) :
    Except StoreError α :=
  match choice.runtimeFault with
  | some e => .error e
  | none => result

/-- A call that returned something did not fail. -/
lemma AdapterChoice.orFault_eq_ok {α : Type} {choice : AdapterChoice} {result : Except StoreError α}
    {a : α} : choice.orFault result = .ok a ↔ choice.runtimeFault = none ∧ result = .ok a := by
  unfold orFault
  split <;> simp [*]

/-- The lookup a call of the risk store completes. -/
def RiskStoreOp.lookup (who : ℕ) : RiskStoreOp → List (ℕ × String)
  | decisionForRequest id => [(who, id)]
  | _ => []

/-- A call of the risk store: it fails without effect, or is performed. -/
def AdapterState.call (accountId : String) (who : ℕ) (choice : AdapterChoice) (s : AdapterState)
    (op : RiskStoreOp) : AdapterState × Except RiskStoreError op.Value :=
  if choice.storeFault then (s, .error .sqlite)
  else
    match op.exec accountId s.db with
    | .ok (a, db) => ({ s with db := db, lookups := op.lookup who ++ s.lookups }, .ok a)
    | .error e => (s, .error e)

/-- The effect of an operation of the adapter. -/
def AdapterOp.exec (accountId : String) (scope : RuntimeScope) (who : ℕ) (site : Site)
    (choice : AdapterChoice) (runtimeDb : RuntimeDb) (s : AdapterState) :
    (op : AdapterOp) → AdapterState × op.Res
  | store op => s.call accountId who choice op
  | mutation id => (s, choice.orFault (runtimeDb.mutation scope.key id))
  | unresolvedMutations => (s, choice.orFault (runtimeDb.unresolvedMutations scope.key))
  | readSnapshot => (s, s.snapshots site.coordinator)
  | writeSnapshot report =>
    ({ s with snapshots := Function.update s.snapshots site.coordinator (some report) }, ())
  | newId => (s, choice.newId)
  | brokerAnswers => (s, choice.answers)
  | connectionId => (s, choice.connectionId)
  | executionSession => (s, choice.executionSession)
  | instrumentRevision _ => (s, choice.instrumentRevision)

/-- **What is behind the port.** A call of the adapter holds nothing that is given back, and its
store calls are not detached from it. -/
def RiskAdapter.side (adapter : RiskAdapter) (scope : RuntimeScope) : RiskSide adapterOps where
  State := AdapterState
  Choice := AdapterChoice
  exec op who site choice runtimeDb s :=
    some (AdapterOp.exec adapter.canonicalAccountId scope who site choice runtimeDb s op)
  leave _ _ s := s
  detached _ := false

/-! ## What the operations do -/

/-- What a call of the risk store leaves behind: nothing, a decision, an approval with its
reservation, or a reservation that was moved from an expected state. -/
inductive StoreChange (db : RiskDb) : RiskStoreOp → RiskDb → Prop
  | nothing {op : RiskStoreOp} {db' : RiskDb} (hdecisions : db'.decisions = db.decisions)
      (hreservations : db'.reservations = db.reservations) : StoreChange db op db'
  | decided {d : RiskDecision} {db' : RiskDb} (hdecisions : db'.decisions = db.decisions ++ [d])
      (hreservations : db'.reservations = db.reservations) : StoreChange db (.putDecision d) db'
  | approved {d : RiskDecision} {r : RiskReservation} {capacity : ReservationCapacity}
    {db' : RiskDb}
      (hfree : db.reservationForRequest r.accountId r.logicalRequestId = none)
      (hdecisions : db'.decisions = db.decisions ++ [d])
      (hreservations : db'.reservations = db.reservations ++ [r]) :
      StoreChange db (.persistApprovalAtomic d r capacity) db'
  | moved {reservationId : String} {expected : List ReservationState} {remaining now : I64}
      {state : ReservationState} (current : RiskReservation)
      (hcurrent : db.reservationById reservationId = some current)
      (hstate : current.state ∈ expected) :
      StoreChange db (.updateReservation reservationId expected remaining state now)
        (db.setReservation reservationId remaining state now)

variable {accountId : String} {op : RiskStoreOp} {who : ℕ} {choice : AdapterChoice}
  {s s' : AdapterState}

/-- Every call that succeeds makes such a change. -/
lemma RiskStoreOp.exec_change {db db' : RiskDb} {a : op.Value}
    (h : op.exec accountId db = .ok (a, db')) : StoreChange db op db' := by
  cases op with
  | policy | decision _ | decisionForRequest _ | reservationForRequest _ | activeReservations =>
    obtain rfl := (Except.pair_inj h).2
    exact .nothing rfl rfl
  | activeReservedDelta =>
    obtain ⟨_, _, hdb⟩ := Except.map_eq_ok.mp h
    obtain rfl := (Prod.mk.inj hdb).2
    exact .nothing rfl rfl
  | putPolicy expectedRevision replacement reason =>
    replace h : db.putPolicy accountId expectedRevision replacement reason = .ok (a, db') := h
    simp only [RiskDb.putPolicy, Except.seq_eq_ok, Except.exists_unit_ok, Except.ok.injEq] at h
    obtain ⟨-, -, -, -, h⟩ := h
    obtain rfl := (Prod.mk.inj h).2
    exact .nothing rfl rfl
  | putDecision =>
    obtain ⟨db₁, hput, hdb⟩ := Except.map_eq_ok.mp h
    obtain rfl := (Prod.mk.inj hdb).2
    rcases RiskDb.putDecision_cases hput with rfl | hput
    · exact .nothing rfl rfl
    · obtain ⟨hdecisions, hreservations, -⟩ := RiskDb.insertDecision_eq_ok hput
      exact .decided hdecisions hreservations
  | persistApprovalAtomic =>
    obtain ⟨-, -, ⟨-, -, rfl⟩ | ⟨hfree, -, -, hreservations, hdecisions, -⟩⟩ :=
      RiskDb.persistApprovalAtomic_cases h
    · exact .nothing rfl rfl
    · exact .approved hfree hdecisions hreservations
  | updateReservation =>
    obtain ⟨current, hcurrent, hstate, -, rfl⟩ := RiskDb.updateReservation_eq_ok.mp h
    exact .moved current hcurrent hstate

/-- A call of the store fails without effect, or is performed. -/
lemma AdapterState.call_cases {r : Except RiskStoreError op.Value}
    (h : s.call accountId who choice op = (s', r)) : (s' = s ∧ ∃ e, r = .error e) ∨
      ∃ a db, op.exec accountId s.db = .ok (a, db) ∧ r = .ok a ∧
        s' = { s with db := db, lookups := op.lookup who ++ s.lookups } := by
  unfold AdapterState.call at h
  split at h
  · cases h
    exact .inl ⟨rfl, _, rfl⟩
  split at h
  · rename_i a db hop
    cases h
    exact .inr ⟨a, db, hop, rfl, rfl⟩
  · cases h
    exact .inl ⟨rfl, _, rfl⟩

/-- The operations that do not call the risk store leave it alone. -/
lemma AdapterOp.exec_frame {scope : RuntimeScope} {site : Site} {runtimeDb : RuntimeDb}
    {op : AdapterOp} {r : op.Res}
    (h : op.exec accountId scope who site choice runtimeDb s = (s', r))
    (hop : ∀ storeOp, op ≠ .store storeOp) : s'.db = s.db ∧ s'.lookups = s.lookups := by
  cases op with
  | store op => exact absurd rfl (hop op)
  | _ =>
    obtain rfl := (Prod.mk.inj h).1
    exact ⟨rfl, rfl⟩

end VoxTrader.Core
