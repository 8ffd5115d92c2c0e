import VoxTrader.Runtime.Reconciler

/-!
# The runtime coordinator

The programs of a runtime coordinator: starting it, dispatching a command, reconciling, following
the broker's streams and shutting down. They follow the source call by call; a value that is
dropped at the end of a block in the source, such as a lock guard or a command slot, is released
here on every way out of the block.

## Main definitions

* `transition`, `requireStore`, `ensureExecutionAllowed` — the parts that leave the journal alone.
* `dispatchForPurpose` — a command, from the gate to the broker and back.
* `reconcileLocked`, `applyReconciliationReport` — a reconciliation and its consequences.
* `handleStreamSignal`, `coalescedLoop` — following the streams.
* `Job`, `Job.program` — what a coordinator can be asked to do.
-/

namespace VoxTrader.Runtime

open Process

/-! ## Parts that leave the journal alone -/

/-- Run a program between taking and giving back something that is given back on every way out. -/
def holding {I : Interface} {ε α : Type} (take giveBack : Process I Unit)
    (body : ExceptT ε (Process I) α) : ExceptT ε (Process I) α :=
  ExceptT.mk do
    take
    let result ← body.run
    giveBack
    return result

/-- The clock, as a store call reads it. -/
def nowUnixMsStore : Process base (Except StoreError I64) := do
  match ← ask .now with
  | some now => return .ok now
  | none => return .error (.corrupt "system clock is outside i64 range")

/-- The clock. -/
def nowUnixMs : ExceptT RuntimeError (Process base) I64 := orFail .store nowUnixMsStore

/-- A store operation of the coordinator. -/
def coordinatorStore (op : StoreOp) : ExceptT RuntimeError (Process base) op.Value :=
  orFail .store (storeCall op)

/-- The epoch of a coordinator that was started. -/
def currentEpoch : ExceptT RuntimeError (Process base) ℕ := do
  let epoch : ℕ ← liftM (volatile .loadEpoch)
  if epoch = 0 then throw .executionGateClosed else return epoch

section

variable (scope : RuntimeScope)

/-- Move the state machine and record the transition, all under its lock. The state moves before
the record is written, and stays moved when that fails. -/
def transition (target : RuntimeState) (reasonCode : ReasonCode) (detail : String) :
    ExceptT RuntimeError (Process base) Unit := do
  let epoch : ℕ ← liftM (volatile .loadEpoch)
  holding (volatile .lockState) (volatile .unlockState) do
    let source : RuntimeState ← orFail .transition (volatile (.moveState target))
    if 0 < epoch then
      let _ ← nowUnixMs
      coordinatorStore (.recordTransition ⟨scope.key, source, target, reasonCode, detail, epoch⟩)
    else return ()

/-- Go on with the result of a store call, or halt the runtime; a duplicate does not halt it. -/
def requireStore {α : Type} (result : Except StoreError α) (detail : String) :
    ExceptT RuntimeError (Process base) α :=
  match result with
  | .ok a => return a
  | .error .duplicateMutation => throw (.store .duplicateMutation)
  | .error e => do
    let _ ← liftM (transition scope .halted .persistenceFailure detail).run
    throw (.store e)

/-- The gate: cleanup needs a connection, anything else also a ready runtime with no
reconciliation wanted or on its way. -/
def gateOpen (command : RuntimeExecutionCommand) : Process base Bool := do
  let state : RuntimeState ← volatile .readState
  let connected : Bool ← volatile .loadConnected
  if !connected then return false
  else if command.cleanup then return true
  else if state ≠ .ready then return false
  else
    let dirty : Bool ← volatile .loadDirty
    if dirty then return false
    else
      let running : Bool ← volatile .loadRunning
      return !running

/-- Refuse a command unless the gate is open, execution is authorized and the epoch is current. -/
def ensureExecutionAllowed (purpose : RuntimeExecutionPurpose)
    (command : RuntimeExecutionCommand) : ExceptT RuntimeError (Process base) Unit := do
  if ← liftM (gateOpen command) then
    let _ : Unit ← orFail (fun _ => RuntimeError.executionGateClosed)
      (ask (.authorizeExecution purpose))
    let epoch ← currentEpoch
    let verified : Except StoreError Unit ← liftM (storeCall (.verifyEpoch epoch))
    requireStore scope verified "runtime ownership/epoch verification failed"
  else throw .executionGateClosed

end

/-! ## Dispatch -/

/-- The command with the quantity that was approved. -/
def applyRiskApproval (command : RuntimeExecutionCommand) (approvedDeltaLots : I64) :
    Except RuntimeError RuntimeExecutionCommand :=
  let stale (message : String) : RuntimeError := .riskAdmission (.stale message)
  let regular (order : RegularOrderCommand) : Except RuntimeError RegularOrderCommand := do
    let expectedSign : ℤ := if order.side = .buy then 1 else -1
    Except.stopIf (approvedDeltaLots.signum ≠ expectedSign)
      (stale "approved direction does not match execution command")
    let lots ← Except.orStop approvedDeltaLots.checkedAbs
      (stale "approved quantity is not representable")
    .ok { order with quantityLots := lots }
  match command with
  | .regularOrder order => (regular order).map .regularOrder
  | .postOrderAsync order => (regular order).map .postOrderAsync
  | .replaceOrder order => do
    let lots ← Except.orStop approvedDeltaLots.checkedAbs
      (stale "approved replacement quantity is not representable")
    .ok (.replaceOrder { order with quantityLots := lots })
  | .cancelOrder _ | .postStopOrder _ | .cancelStopOrder _ | .protectionLeg _ => do
    Except.stopIf (approvedDeltaLots.val ≠ 0)
      (stale "maintenance approval unexpectedly changes exposure")
    .ok command

/-- The approval lacks what the command needs, or has what it must not have. -/
def incompleteApproval (command : RuntimeExecutionCommand) (admission : RiskAdmission) : Bool :=
  Text.isBlank admission.decisionId ||
    (command.exposureBearing && (admission.approvedDeltaLots.val = 0 ||
      admission.reservationId.all (· = ""))) ||
    (!command.exposureBearing &&
      (admission.approvedDeltaLots.val ≠ 0 || admission.reservationId.isSome))

/-- The answer to a dispatch, from its record. -/
def receipt (record : MutationRecord) : DispatchReceipt :=
  ⟨record.logicalRequestId, record.state, record.brokerEvidenceRef⟩

section

variable {R : Interface} (port : RiskPort R) (scope : RuntimeScope)

/-- Tell the risk port what came of a command; when it cannot be told, halt. -/
def recordRiskDispatchOutcome (logicalRequestId : String) (outcome : RiskDispatchOutcome) :
    ExceptT RuntimeError (Process (full R)) Unit := do
  let recorded ← liftM (port.recordDispatchOutcome logicalRequestId outcome).run
  match recorded with
  | .ok () => return ()
  | .error e =>
    transition scope .halted .persistenceFailure "risk reservation outcome persistence failed"
    throw (.riskAdmission e)

/-- Give an admitted command up before it was sent. -/
def refuse {α : Type} (logicalRequestId : String) (error : RuntimeError) :
    ExceptT RuntimeError (Process (full R)) α := do
  recordRiskDispatchOutcome port scope logicalRequestId .rejected
  throw error

/-- Go on with the value of a step, or give the command up. -/
def orRefuse {α : Type} (logicalRequestId : String)
    (step : ExceptT RuntimeError (Process (full R)) α) :
    ExceptT RuntimeError (Process (full R)) α := do
  let result ← liftM step.run
  match result with
  | .ok a => return a
  | .error e => refuse port scope logicalRequestId e

/-- Write the outcome of a sent command to the journal. -/
def finishMutation (logicalRequestId : String) (target : JournalState)
    (brokerEvidenceRef : Option String) : ExceptT RuntimeError (Process (full R)) MutationRecord :=
  do
  let epoch ← currentEpoch
  let clock ← liftM nowUnixMsStore
  let result : Except StoreError MutationRecord ←
    match clock with
    | .ok now =>
      liftM (dispatchCall (R := R) (.transitionMutation logicalRequestId [.unknownAfterDispatch]
        target brokerEvidenceRef epoch now))
    | .error e => pure (.error e)
  requireStore scope result "mutation outcome persistence failed"

/-- Halt because the fate of a sent command is not known. -/
def haltUnknown {α : Type} (logicalRequestId detail : String) (error : RuntimeError) :
    ExceptT RuntimeError (Process (full R)) α := do
  transition scope .halted .unknownMutation detail
  let _ ← liftM (port.recordDispatchOutcome logicalRequestId .unknownAfterDispatch).run
  throw error

/-- Store the links of an acknowledged command. -/
def persistLinks (links : BrokerIdentityLinks) (epoch : ℕ) :
    ExceptT RuntimeError (Process base) Unit := do
  let clock ← liftM nowUnixMsStore
  let linked : Except StoreError Unit ←
    match clock with
    | .ok _ => liftM (storeCall (.upsertIdentityLinks links epoch))
    | .error e => pure (.error e)
  requireStore scope linked "broker acknowledged mutation but identity-link persistence failed"

/-- What follows from the answer of the broker. -/
def settleDispatch (logicalRequestId : String) (epoch : ℕ)
    (result : Except BrokerPortError ExecutionResult) :
    ExceptT RuntimeError (Process (full R)) DispatchReceipt :=
  match result with
  | .ok (.acknowledged brokerEvidenceRef links) => do
    persistLinks scope links epoch
    let record ← finishMutation scope logicalRequestId .acknowledged (some brokerEvidenceRef)
    recordRiskDispatchOutcome port scope logicalRequestId .acknowledged
    return receipt record
  | .ok (.rejected brokerEvidenceRef) => do
    let record ← finishMutation scope logicalRequestId .rejected (some brokerEvidenceRef)
    recordRiskDispatchOutcome port scope logicalRequestId .rejected
    return receipt record
  | .ok (.unknownAfterDispatch none) =>
    haltUnknown port scope logicalRequestId "capital mutation remains UNKNOWN_AFTER_DISPATCH"
      (.unknownAfterDispatch logicalRequestId)
  | .ok (.unknownAfterDispatch (some brokerEvidenceRef)) => do
    let _ ← finishMutation scope logicalRequestId .unknownAfterDispatch (some brokerEvidenceRef)
    haltUnknown port scope logicalRequestId "capital mutation remains UNKNOWN_AFTER_DISPATCH"
      (.unknownAfterDispatch logicalRequestId)
  | .error e =>
    haltUnknown port scope logicalRequestId "mutation transport failed after durable dispatch fence"
      (.unknownTransport logicalRequestId e)

/-- Write the intent to send a command. -/
def persistIntent (prepared : MutationRecord) : ExceptT RuntimeError (Process (full R)) Unit := do
  let inserted : Except StoreError Unit ← liftM (dispatchCall (R := R) (.insertMutation prepared))
  requireStore scope inserted "failed to persist mutation intent"

/-- Fence a command: from here on it counts as sent. -/
def claimDispatch (logicalRequestId : String) (epoch : ℕ) (now : I64) :
    ExceptT RuntimeError (Process (full R)) MutationRecord := do
  let claimed : Except StoreError MutationRecord ←
    liftM (dispatchCall (R := R) (.transitionMutation logicalRequestId [.notDispatched]
      .unknownAfterDispatch none epoch now))
  requireStore scope claimed "failed to persist pre-dispatch UNKNOWN fence"

/-- Journal a command, fence it, and send it. -/
def dispatchWithPermit (purpose : RuntimeExecutionPurpose) (command : RuntimeExecutionCommand)
    (logicalRequestId correlationId : String) :
    ExceptT RuntimeError (Process (full R)) DispatchReceipt := do
  let epoch ← orRefuse port scope logicalRequestId (liftM currentEpoch)
  let now ← orRefuse port scope logicalRequestId (liftM nowUnixMs)
  let prepared ← orRefuse port scope logicalRequestId (ExceptT.mk (pure
    ((MutationRecord.prepared scope logicalRequestId command.kind command.evidence correlationId
      epoch now).mapError .model)))
  orRefuse port scope logicalRequestId (persistIntent scope prepared)
  let fenced ← orRefuse port scope logicalRequestId (claimDispatch scope logicalRequestId epoch now)
  let result ← liftM (dispatchCall (R := R) (.dispatchOnce purpose command fenced))
  settleDispatch port scope logicalRequestId epoch result

/-- The same after a last look by the risk port. -/
def validateAndDispatch (purpose : RuntimeExecutionPurpose) (command : RuntimeExecutionCommand)
    (logicalRequestId correlationId : String) (admission : RiskAdmission) :
    ExceptT RuntimeError (Process (full R)) DispatchReceipt := do
  orRefuse port scope logicalRequestId (orFail .riskAdmission
    (liftM (port.validateBeforeDispatch purpose command logicalRequestId admission).run))
  dispatchWithPermit port scope purpose command logicalRequestId correlationId

/-- An admitted command. -/
def dispatchAdmitted (purpose : RuntimeExecutionPurpose) (command : RuntimeExecutionCommand)
    (logicalRequestId correlationId : String) (admission : RiskAdmission) :
    ExceptT RuntimeError (Process (full R)) DispatchReceipt := do
  let approved ← orRefuse port scope logicalRequestId
    (ExceptT.mk (pure (applyRiskApproval command admission.approvedDeltaLots)))
  let slot : Bool ← liftM (volatile .tryAcquireSlot)
  if slot then
    holding (pure ()) (liftM (volatile .releaseSlot))
      (validateAndDispatch port scope purpose approved logicalRequestId correlationId admission)
  else refuse port scope logicalRequestId .commandQueueFull

/-- An approval that lacks something is given back. -/
def dispatchIncomplete (logicalRequestId : String) (admission : RiskAdmission) :
    ExceptT RuntimeError (Process (full R)) DispatchReceipt :=
  let incomplete : RuntimeError :=
    .riskAdmission (.unavailable "risk admission returned an incomplete approval")
  if admission.reservationId.isSome then refuse port scope logicalRequestId incomplete
  else throw incomplete

/-- **Dispatch a command**: the gate, the admission, the journal, the broker. -/
def dispatchForPurpose (purpose : RuntimeExecutionPurpose) (command : RuntimeExecutionCommand)
    (logicalRequestId correlationId : String) :
    ExceptT RuntimeError (Process (full R)) DispatchReceipt := do
  ensureExecutionAllowed scope purpose command
  if command.accountId ≠ scope.brokerAccountId then
    throw (.safety "execution command account does not match runtime scope")
  else if command.requestIdentity.any (· ≠ logicalRequestId) then
    throw (.safety "execution command request identity does not match runtime logical identity")
  else
    let admission ← orFail .riskAdmission
      (liftM (port.admitCommand purpose command logicalRequestId).run)
    if incompleteApproval command admission then
      dispatchIncomplete port scope logicalRequestId admission
    else
      dispatchAdmitted port scope purpose command logicalRequestId correlationId admission

/-! ## Reconciliations -/

/-- The reason for which a failed reconciliation halts the runtime. -/
def reconciliationErrorReason : ReconciliationError → ReasonCode
  | .broker error =>
    if error.resultClass = .credential then .credentialRejected else .requiredReadUnavailable
  | .store _ => .persistenceFailure
  | .safety _ => .reconciliationIncomplete

/-- One reconciliation at a time. -/
def reconcileLocked : ExceptT RuntimeError (Process (withSnapshot R)) ReconciliationReport :=
  holding (liftM (volatile .lockReconciliation)) (liftM (volatile .unlockReconciliation)) do
    let epoch ← currentEpoch
    let result ← liftM (reconcile (R := R) scope epoch).run
    match result with
    | .ok report => return report
    | .error e =>
      let _ ← liftM (transition scope .halted (reconciliationErrorReason e)
        "authoritative broker reconciliation failed").run
      throw (.reconciliation e)

/-- What the audit says about a report. -/
def reportDetail (report : ReconciliationReport) : String :=
  if report.discrepancies.isEmpty then
    "authoritative snapshot, stream handoff and checkpoint complete"
  else "; ".intercalate report.discrepancies

/-- Hand a report to the risk port and move to the state it leads to. -/
def applyReconciliationReport (report : ReconciliationReport) :
    ExceptT RuntimeError (Process (withSnapshot R)) Unit := do
  let applied ← liftM (port.reconcile report).run
  match applied with
  | .ok () => transition scope report.resultingState report.reasonCode (reportDetail report)
  | .error e =>
    transition scope .halted .persistenceFailure "risk reservation reconciliation failed"
    throw (.riskAdmission e)

/-- Reconcile now. -/
def forceReconciliation (reasonCode : ReasonCode) (detail : String) :
    ExceptT RuntimeError (Process (withSnapshot R)) ReconciliationReport := do
  transition scope .reconciling reasonCode detail
  let report ← reconcileLocked scope
  applyReconciliationReport port scope report
  return report

/-- Reconcile because a stream's queue overflowed. -/
def reportStreamOverflow : ExceptT RuntimeError (Process (withSnapshot R)) ReconciliationReport :=
  forceReconciliation port scope .streamQueueOverflow
    "safety-critical stream queue overflowed; broker snapshot required"

/-- Reconcile until nothing asked for it meanwhile; `passes` bounds the passes of the loop. -/
def coalescedLoop : ℕ → Process (withSnapshot R) Unit
  | 0 => pure ()
  | passes + 1 => do
    liftM (volatile (.storeDirty false))
    match ← (reconcileLocked (R := R) scope).run with
    | .error _ => liftM (volatile (.storeRunning false))
    | .ok report =>
      let dirty : Bool ← liftM (volatile .loadDirty)
      if dirty then coalescedLoop passes
      else
        match ← (applyReconciliationReport port scope report).run with
        | .error _ => liftM (volatile (.storeRunning false))
        | .ok () =>
          liftM (volatile (.storeRunning false))
          let again : Bool ← liftM (volatile .loadDirty)
          if !again then return ()
          else
            let claimed : Bool ← liftM (volatile .casRunning)
            if !claimed then return ()
            else
              match ← liftM (transition scope .reconciling .reconciliationStarted
                  "capital state changed during authoritative refresh").run with
              | .error _ => liftM (volatile (.storeRunning false))
              | .ok () => coalescedLoop passes

/-- Ask for a reconciliation in the background, unless one is on its way. -/
def requestCoalescedReconciliation (reasonCode : ReasonCode) (detail : String) :
    ExceptT RuntimeError (Process base) Unit := do
  let _ : Unit ← liftM (volatile (.storeDirty true))
  let claimed : Bool ← liftM (volatile .casRunning)
  if !claimed then return ()
  else
    transition scope .reconciling reasonCode detail
    liftM (volatile (.spawn .coalescedReconciliation))

/-! ## Streams -/

/-- The required streams that are not among the active ones. -/
def missingStreams (active : List StreamKind) : List StreamKind :=
  requiredStreams.filter (· ∉ active)

/-- Connect the streams; `attempts` are left. -/
def connectAttempts (epoch : ℕ) : ℕ → ExceptT RuntimeError (Process base) Unit
  | 0 => throw (.safety "bounded stream reconnect attempts exhausted")
  | attempts + 1 => do
    let connected : Except BrokerPortError (List StreamKind) ← liftM (ask (.connectStreams epoch))
    match connected with
    | .ok active =>
      if (missingStreams active).isEmpty then liftM (volatile (.storeConnected true))
      else throw (.safety ("required stream ACK set incomplete: " ++
        ",".intercalate ((missingStreams active).map StreamKind.name)))
    | .error e =>
      if 0 < attempts && e.safeReadRetryable then connectAttempts epoch attempts
      else throw (.broker e)

/-- Connect the streams. -/
def connectStreams : ExceptT RuntimeError (Process base) Unit := do
  connectAttempts (← currentEpoch) 3

/-- Recover from a gap in a required stream. -/
def recoverStreamGap (reason : String) : ExceptT RuntimeError (Process (withSnapshot R)) Unit := do
  transition scope .reconciling .streamGap reason
  let first ← reconcileLocked scope
  if first.resultingState = .halted then applyReconciliationReport port scope first
  else
    let sender : Bool ← liftM (volatile .loadSender)
    if !sender then throw (.safety "stream sender unavailable")
    else
      match ← liftM connectStreams.run with
      | .error e =>
        transition scope .halted .streamDisconnected
          "execution stream reconnect failed after bounded retries"
        throw e
      | .ok () =>
        let final ← reconcileLocked scope
        applyReconciliationReport port scope final

/-- The event belongs to a request of this runtime. -/
def streamEventHasLocalProvenance (event : BrokerEvent) :
    ExceptT RuntimeError (Process base) Bool := do
  let links : List BrokerIdentityLinks ← coordinatorStore .allIdentityLinks
  if links.any fun link =>
      (event.brokerOrderId.isSome && (link.brokerOrderId = event.brokerOrderId ||
        link.replacementBrokerOrderId = event.brokerOrderId)) ||
      (event.brokerStopOrderId.isSome && link.brokerStopOrderId = event.brokerStopOrderId) then
    return true
  else
    let unresolved : List MutationRecord ← coordinatorStore .unresolvedMutations
    return event.logicalRequestId.any fun id => unresolved.any (·.logicalRequestId = id)

/-- An order or stop nobody here asked for: look at the broker, and stay halted at best. -/
def handleUnfamiliarEvent (reason : ReasonCode) :
    ExceptT RuntimeError (Process (withSnapshot R)) Unit := do
  let report ← forceReconciliation port scope reason
    "unfamiliar capital-affecting stream identity requires broker snapshot"
  if report.resultingState = .ready then
    transition scope .halted reason "unfamiliar stream identity not yet confirmed by unary snapshot"
  else return ()

/-- An event that is new. -/
def handleNewEvent (event : BrokerEvent) :
    ExceptT RuntimeError (Process (withSnapshot R)) Unit := do
  match event.eventClass with
  | .order =>
    if ← streamEventHasLocalProvenance event then return ()
    else handleUnfamiliarEvent port scope .brokerOrderConflict
  | .stop =>
    if ← streamEventHasLocalProvenance event then return ()
    else handleUnfamiliarEvent port scope .brokerStopConflict
  | .fill | .operation | .position | .portfolio =>
    requestCoalescedReconciliation scope .reconciliationStarted
      "capital-state stream event requires authoritative unary refresh"

/-- Record an event as seen, unless it is of another epoch; say whether it is new. -/
def recordEvent (event : BrokerEvent) : ExceptT RuntimeError (Process base) Bool := do
  let epoch ← currentEpoch
  if event.runtimeEpoch ≠ epoch then return false
  else
    let now ← nowUnixMs
    coordinatorStore (.recordBrokerEvent event now)

/-- A gap in a stream. -/
def handleGap (stream : StreamKind) (reason : String) :
    ExceptT RuntimeError (Process (withSnapshot R)) Unit := do
  if requiredStream stream then
    let _ : Unit ← liftM (volatile (.storeConnected false))
    recoverStreamGap port scope reason
  else return ()

/-- Follow a stream. -/
def handleStreamSignal : StreamSignal → ExceptT RuntimeError (Process (withSnapshot R)) Unit
  | .connected _ => return ()
  | .event event => do
    let inserted ← recordEvent event
    if inserted then handleNewEvent port scope event else return ()
  | .gap stream reason | .disconnected stream reason => handleGap port scope stream reason

/-- The stream worker, which ends at the first error; `signals` bounds how many it handles. -/
def streamWorker : ℕ → Process (withSnapshot R) Unit
  | 0 => pure ()
  | signals + 1 => do
    let signal : Option StreamSignal ← liftM (ask .nextSignal)
    match signal with
    | none => return ()
    | some signal =>
      match ← (handleStreamSignal port scope signal).run with
      | .error _ => return ()
      | .ok () => streamWorker signals

/-! ## Start and shutdown -/

/-- Take the scope over; a coordinator starts once. -/
def takeOwnership : ExceptT RuntimeError (Process base) ℕ := do
  let fresh : Bool ← liftM (volatile .casStarted)
  if !fresh then throw (.safety "runtime coordinator instance may start exactly once")
  else
    let _ ← nowUnixMs
    let ownerId : String ← liftM (ask .freshId)
    let ownership : Except StoreError ℕ ← liftM (storeCall (.acquireOwnership ownerId))
    match ownership with
    | .ok epoch =>
      let _ : Unit ← liftM (volatile (.storeEpoch epoch))
      return epoch
    | .error e =>
      holding (volatile .lockState) (volatile .unlockState) do
        let _ : RuntimeState ← orFail .transition (volatile (.moveState .halted))
        throw (.store e)

/-- Resolve the credentials of the scope. -/
def resolveCredentials (epoch : ℕ) : ExceptT RuntimeError (Process base) Unit := do
  let resolution : Except BrokerPortError Bool ← liftM (ask .resolveCredentials)
  match resolution with
  | .error e =>
    transition scope .halted .credentialRejected "credential resolution failed"
    throw (.broker e)
  | .ok authorized =>
    if authorized then return ()
    else
      let _ ← nowUnixMs
      coordinatorStore (.appendAudit epoch)

/-- Everything before the first reconciliation. -/
def prepareStart : ExceptT RuntimeError (Process base) Unit := do
  let epoch ← takeOwnership
  transition scope .connecting .connecting "resolving opaque credential reference"
  resolveCredentials scope epoch
  transition scope .reconciling .reconciliationStarted "initial authoritative broker reconciliation"

/-- Subscribe to the streams. -/
def subscribe : ExceptT RuntimeError (Process base) Unit := do
  match ← liftM connectStreams.run with
  | .error e =>
    transition scope .halted .streamDisconnected
      "required execution stream connection failed after bounded retries"
    throw e
  | .ok () =>
    let _ : Unit ← liftM (volatile (.storeSender true))
    let _ : Unit ← liftM (volatile (.storeConnected true))
    liftM (volatile (.spawn .streamWorker))

/-- **Start the runtime**: reconcile, subscribe to the streams, and reconcile again. -/
def start : ExceptT RuntimeError (Process (withSnapshot R)) ReconciliationReport := do
  prepareStart scope
  let first ← reconcileLocked scope
  if first.resultingState = .halted then
    applyReconciliationReport port scope first
    return first
  else
    subscribe scope
    let final ← reconcileLocked scope
    applyReconciliationReport port scope final
    return final

/-- What a shutdown does once it has waited for the commands on their way. -/
def closeDown : ExceptT RuntimeError (Process base) Unit := do
  let _ : Unit ← liftM (ask .disconnectStreams)
  let _ : Unit ← liftM (volatile (.storeSender false))
  let _ : Unit ← liftM (volatile (.abort .streamWorker))
  let _ : Unit ← liftM (volatile (.abort .coalescedReconciliation))
  let _ : Unit ← liftM (volatile (.storeConnected false))
  transition scope .stopped .shutdownComplete "stream tasks closed and final audit persisted"
  let epoch ← currentEpoch
  let _ ← nowUnixMs
  coordinatorStore (.releaseOwnership epoch)

/-- **Shut the runtime down**: close the gate, wait for the command slots, and let go. -/
def shutdown : ExceptT RuntimeError (Process base) Unit := do
  transition scope .stopping .shutdownRequested "new command admission closed"
  let drained : Bool ← liftM (volatile .drainSlots)
  holding (pure ()) (if drained then volatile .restoreSlots else pure ()) (closeDown scope)

/-! ## Jobs -/

/-- What a coordinator can be asked to do, and the tasks it spawns. The request for a refresh,
which the stream worker makes, is a call of its own too, so that any number of them can overlap. -/
inductive Job
  | start
  | dispatch (purpose : RuntimeExecutionPurpose) (command : RuntimeExecutionCommand)
      (logicalRequestId correlationId : String)
  | forceReconciliation (reasonCode : ReasonCode) (detail : String)
  | reportStreamOverflow
  | requestCoalescedReconciliation (reasonCode : ReasonCode) (detail : String)
  | shutdown
  | task (task : Task) (passes : ℕ)

/-- The request a job dispatches. -/
def Job.dispatches : Job → Option String
  | dispatch _ _ logicalRequestId _ => some logicalRequestId
  | _ => none

/-- The program of a job; what it answers is for its caller. -/
def Job.program : Job → Process (full R) Unit
  | start => do let _ ← liftM (Runtime.start port scope).run
  | dispatch purpose command logicalRequestId correlationId => do
    let _ ← (dispatchForPurpose port scope purpose command logicalRequestId correlationId).run
  | forceReconciliation reasonCode detail => do
    let _ ← liftM (Runtime.forceReconciliation port scope reasonCode detail).run
  | reportStreamOverflow => do let _ ← liftM (Runtime.reportStreamOverflow port scope).run
  | requestCoalescedReconciliation reasonCode detail => do
    let _ ← liftM (Runtime.requestCoalescedReconciliation scope reasonCode detail).run
  | shutdown => do let _ ← liftM (Runtime.shutdown scope).run
  | task .streamWorker passes => liftM (streamWorker port scope passes)
  | task .coalescedReconciliation passes => liftM (coalescedLoop port scope passes)

end

end VoxTrader.Runtime
