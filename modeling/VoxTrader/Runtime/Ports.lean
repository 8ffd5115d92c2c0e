import VoxTrader.Runtime.Model

/-!
# What the ports of the runtime exchange

The results and errors of the broker, store and risk ports a runtime coordinator is built on,
and the errors it makes of them.

## Main definitions

* `StoreError`, `BrokerPortError`, `RiskAdmissionError` — the errors of the ports.
* `ExecutionResult` — what came of one attempt to send a command.
* `RiskAdmission`, `RiskDispatchOutcome` — what the risk port grants and is told afterwards.
* `RuntimeError` — the errors of the coordinator.
-/

namespace VoxTrader.Runtime

/-- How a broker call failed. -/
inductive BrokerResultClass
  | success
  | rateLimited
  | credential
  | permission
  | transient
  | permanent
deriving DecidableEq

/-- A failed broker call. -/
structure BrokerPortError where
  resultClass : BrokerResultClass
  message : String
deriving DecidableEq

/-- A read that failed like this may be tried again. -/
def BrokerPortError.safeReadRetryable (error : BrokerPortError) : Bool :=
  error.resultClass = .rateLimited || error.resultClass = .transient

/-- The broker's streams. -/
inductive StreamKind
  | orderState
  | trades
  | positions
  | portfolio
  | operations
deriving DecidableEq

/-- The runtime is not ready without this stream. -/
def requiredStream : StreamKind → Bool
  | .trades => false
  | _ => true

/-- The required streams, in their order. -/
def requiredStreams : List StreamKind := [.orderState, .positions, .portfolio, .operations]

/-- The name of a stream, as error texts show it. -/
def StreamKind.name : StreamKind → String
  | orderState => "OrderState"
  | trades => "Trades"
  | positions => "Positions"
  | portfolio => "Portfolio"
  | operations => "Operations"

/-- What the stream port hands to the coordinator. -/
inductive StreamSignal
  | connected (stream : StreamKind)
  | event (event : BrokerEvent)
  | gap (stream : StreamKind) (reason : String)
  | disconnected (stream : StreamKind) (reason : String)
deriving DecidableEq

/-- The errors of the runtime store. -/
inductive StoreError
  | ownershipUnavailable
  | staleEpoch
  | duplicateMutation
  | invalidMutationTransition
  | corrupt (message : String)
  | persistence (message : String)
  | blockingTask (message : String)
deriving DecidableEq

/-- The text of a store error. -/
def StoreError.text : StoreError → String
  | ownershipUnavailable => "runtime ownership unavailable"
  | staleEpoch => "stale runtime epoch"
  | duplicateMutation => "duplicate logical mutation identity"
  | invalidMutationTransition => "invalid mutation transition"
  | corrupt message => "runtime store corruption: " ++ message
  | persistence message => "runtime persistence failure: " ++ message
  | blockingTask message => "blocking store task failed: " ++ message

/-- On whose behalf a command is executed. -/
inductive RuntimeExecutionPurpose
  | sandboxMutation
  | productionManual
  | productionAutomated
deriving DecidableEq

/-- The approval of a command by the risk port. -/
structure RiskAdmission where
  decisionId : String
  /-- Present for commands that can add exposure. -/
  reservationId : Option String
  policyRevision : ℕ
  approvedDeltaLots : I64
deriving DecidableEq

/-- What the risk port is told about an admitted command. -/
inductive RiskDispatchOutcome
  | acknowledged
  | rejected
  | unknownAfterDispatch
deriving DecidableEq

/-- The errors of the risk port. -/
inductive RiskAdmissionError
  | denied (code message : String)
  | stale (message : String)
  | unavailable (message : String)
deriving DecidableEq

/-- What came of the one attempt to send a command. -/
inductive ExecutionResult
  | acknowledged (brokerEvidenceRef : String) (links : BrokerIdentityLinks)
  | rejected (brokerEvidenceRef : String)
  | unknownAfterDispatch (brokerEvidenceRef : Option String)
deriving DecidableEq

/-- What the risk port is told about an answer. -/
def replyOutcome : Except BrokerPortError ExecutionResult → RiskDispatchOutcome
  | .ok (.acknowledged _ _) => .acknowledged
  | .ok (.rejected _) => .rejected
  | .ok (.unknownAfterDispatch _) | .error _ => .unknownAfterDispatch

/-- The errors of a reconciliation. -/
inductive ReconciliationError
  | broker (error : BrokerPortError)
  | store (error : StoreError)
  | safety (message : String)
deriving DecidableEq

/-- The errors of the coordinator. -/
inductive RuntimeError
  | store (error : StoreError)
  | broker (error : BrokerPortError)
  | riskAdmission (error : RiskAdmissionError)
  | reconciliation (error : ReconciliationError)
  | transition (error : TransitionError)
  | model (error : ModelError)
  | executionGateClosed
  | commandQueueFull
  | unknownAfterDispatch (logicalRequestId : String)
  | unknownTransport (logicalRequestId : String) (source : BrokerPortError)
  | safety (message : String)
deriving DecidableEq

/-- The answer to a dispatch. -/
structure DispatchReceipt where
  logicalRequestId : String
  state : JournalState
  brokerEvidenceRef : Option String
deriving DecidableEq

end VoxTrader.Runtime
