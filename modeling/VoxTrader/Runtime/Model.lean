import VoxTrader.Lib.Check
import VoxTrader.Lib.FixedInt

/-!
# The runtime data model

The records the runtime coordinator, its journal and its broker ports exchange: scopes, the
runtime state machine, execution commands, the mutation journal's records with their validation,
and the broker facts a reconciliation report carries. Times are signed 64-bit milliseconds, and
epochs, which are only compared and counted up, are natural numbers.

## Main definitions

* `RuntimeState.transition` — the runtime state machine.
* `RuntimeExecutionCommand` — the commands, with their kind, identity and evidence.
* `MutationRecord.prepared`, `MutationRecord.validated` — journal records and their checks.
* `OrderFact.signedRemainingLots` — what an order may still add to the position.
* `ReconciliationReport` — what a reconciliation found at the broker.
-/

namespace VoxTrader.Runtime

open Except (stopIf orStop)

/-! ## Text checks -/

/-- The length of the text in UTF-8 bytes. -/
def byteLength (text : List Char) : ℕ := (text.map Char.utf8Size).sum

/-- `needle` occurs in the text. -/
def occursIn (needle : String) (text : List Char) : Bool :=
  text.tails.any fun rest => needle.toList.isPrefixOf rest

/-- The errors of the model's own checks. -/
inductive ModelError
  | empty (field : String)
  | unsafeRequestEvidence
  | invalidField (field : String)
deriving DecidableEq

/-- The text of a model error. -/
def ModelError.text : ModelError → String
  | empty field => field ++ " cannot be empty"
  | unsafeRequestEvidence => "request evidence must be bounded, structured and redacted"
  | invalidField field => "invalid " ++ field

/-- The text is bounded and does not look like secret material. -/
def validateRedacted (text : List Char) : Except ModelError Unit :=
  let lower := text.map Char.toLower
  stopIf (text.all Text.isWhitespace ∨ 2048 < byteLength text ∨
    occursIn "authorization" lower ∨ occursIn "bearer " lower ∨ occursIn "token=" lower ∨
    occursIn "secret=" lower) .unsafeRequestEvidence

/-- The text is not blank, bounded, and does not look like secret material. -/
def validateSafeText (value field : String) (maximumLength : ℕ) : Except ModelError Unit := do
  stopIf (Text.isBlank value ∨ maximumLength < byteLength value.toList) (.invalidField field)
  validateRedacted value.toList

/-! ## Scopes and the runtime state machine -/

/-- The broker behind a scope. -/
inductive Provider
  | tInvest
deriving DecidableEq

/-- Whether real money is at stake. -/
inductive RuntimeEnvironment
  | sandbox
  | production
deriving DecidableEq

/-- The broker account a runtime owns. -/
structure RuntimeScope where
  provider : Provider
  environment : RuntimeEnvironment
  brokerAccountId : String
deriving DecidableEq

/-- The text that names a scope in the store. -/
def RuntimeScope.key (scope : RuntimeScope) : String :=
  (match scope.provider with | .tInvest => "TInvest") ++ ":" ++
    (match scope.environment with | .sandbox => "Sandbox" | .production => "Production") ++ ":" ++
    scope.brokerAccountId

/-- The states of a runtime. -/
inductive RuntimeState
  | starting
  | connecting
  | reconciling
  | ready
  | degraded
  | halted
  | stopping
  | stopped
deriving DecidableEq

/-- Why a runtime is in its state. -/
inductive ReasonCode
  | startup
  | connecting
  | reconciliationStarted
  | reconciliationComplete
  | reconciliationIncomplete
  | unknownMutation
  | brokerPositionConflict
  | brokerOrderConflict
  | brokerStopConflict
  | requiredReadUnavailable
  | accountUnavailable
  | credentialRejected
  | executionUnauthorized
  | streamDisconnected
  | streamGap
  | streamQueueOverflow
  | optionalCapabilityUnavailable
  | checkpointRebuild
  | persistenceFailure
  | ownershipFailure
  | staleEpoch
  | corruptMutationEvidence
  | shutdownRequested
  | shutdownComplete
deriving DecidableEq

/-- A transition the state machine does not have. -/
structure TransitionError where
  source : RuntimeState
  target : RuntimeState
deriving DecidableEq

/-- The transitions between different states. -/
def allowed : RuntimeState → RuntimeState → Bool
  | .starting, .connecting | .starting, .halted | .starting, .stopping => true
  | .connecting, .reconciling | .connecting, .degraded | .connecting, .halted
  | .connecting, .stopping => true
  | .reconciling, .ready | .reconciling, .degraded | .reconciling, .halted
  | .reconciling, .stopping => true
  | .ready, .reconciling | .ready, .degraded | .ready, .halted | .ready, .stopping => true
  | .degraded, .connecting | .degraded, .reconciling | .degraded, .halted
  | .degraded, .stopping => true
  | .halted, .connecting | .halted, .reconciling | .halted, .stopping => true
  | .stopping, .stopped => true
  | _, _ => false

/-- Move to `target`; staying where one is is always possible. -/
def RuntimeState.transition (state target : RuntimeState) : Except TransitionError RuntimeState :=
  if state ≠ target ∧ allowed state target = false then .error ⟨state, target⟩ else .ok target

/-- The name of a state, as the audit shows it. -/
def RuntimeState.name : RuntimeState → String
  | starting => "Starting"
  | connecting => "Connecting"
  | reconciling => "Reconciling"
  | ready => "Ready"
  | degraded => "Degraded"
  | halted => "Halted"
  | stopping => "Stopping"
  | stopped => "Stopped"

/-- A transition as it is recorded. -/
structure StateTransition where
  scopeKey : String
  source : RuntimeState
  target : RuntimeState
  reasonCode : ReasonCode
  detail : String
  runtimeEpoch : ℕ
deriving DecidableEq

/-! ## Execution commands -/

/-- The side of an order. -/
inductive OrderSide
  | buy
  | sell
deriving DecidableEq

/-- How the price of an order is set. -/
inductive RegularOrderType
  | limit
  | market
  | bestPrice
deriving DecidableEq

/-- How long an order stays in the book. -/
inductive TimeInForce
  | day
  | fillAndKill
  | fillOrKill
deriving DecidableEq

/-- What a price counts. -/
inductive ExecutionPriceConvention
  | settlementCurrency
  | points
deriving DecidableEq

/-- A regular order; the price is in nano units. -/
structure RegularOrderCommand where
  accountId : String
  instrumentId : String
  clientRequestId : String
  quantityLots : I64
  price : Option I128
  priceConvention : ExecutionPriceConvention
  side : OrderSide
  orderType : RegularOrderType
  timeInForce : Option TimeInForce
  confirmMarginTrade : Bool
deriving DecidableEq

/-- Whose name for an order an id is. -/
inductive ProviderOrderIdentityKind
  | brokerOrder
  | clientRequest
deriving DecidableEq

/-- Replace an open order. -/
structure ReplaceOrderCommand where
  accountId : String
  existingOrderId : String
  existingOrderIdKind : Option ProviderOrderIdentityKind
  replacementRequestId : String
  quantityLots : I64
  price : I128
  priceConvention : ExecutionPriceConvention
  confirmMarginTrade : Bool
deriving DecidableEq

/-- Cancel an open order. -/
structure CancelOrderCommand where
  accountId : String
  orderId : String
  orderIdKind : Option ProviderOrderIdentityKind
deriving DecidableEq

/-- Cancel a stop order. -/
structure CancelStopOrderCommand where
  accountId : String
  brokerStopOrderId : String
deriving DecidableEq

/-- What a trailing distance is measured in. -/
inductive TrailingDistanceMode
  | absolutePrice
  | relativePercent
deriving DecidableEq

/-- A trailing distance. -/
structure TrailingDistance where
  value : I128
  mode : TrailingDistanceMode
deriving DecidableEq

/-- A stop-loss. -/
inductive StopLossProtection
  | fixed (triggerPrice : I128) (limitPrice : Option I128)
  | trailing (distance : TrailingDistance) (activationPrice : Option I128)
      (protectiveSpread : Option TrailingDistance) (instantExecution : Option Bool)
deriving DecidableEq

/-- A take-profit. -/
structure TakeProfitProtection where
  triggerPrice : Option I128
  limitPrice : Option I128
  trailing : Option TrailingDistance
deriving DecidableEq

/-- One leg of a position's protection. -/
inductive ProtectionLeg
  | stopLoss (stop : StopLossProtection)
  | takeProfit (take : TakeProfitProtection)
deriving DecidableEq

/-- The side of the position a protection leg is for. -/
inductive PositionSide
  | long
  | short
deriving DecidableEq

/-- Place one protection leg. -/
structure ProtectionLegCommand where
  accountId : String
  instrumentId : String
  clientRequestId : String
  quantityLots : I64
  positionSide : PositionSide
  priceConvention : ExecutionPriceConvention
  referencePrice : I128
  expireAtUnixSeconds : Option I64
  expireAtNanos : Option I32
  confirmMarginTrade : Bool
  leg : ProtectionLeg
deriving DecidableEq

/-- A command to the broker. -/
inductive RuntimeExecutionCommand
  | regularOrder (command : RegularOrderCommand)
  | postOrderAsync (command : RegularOrderCommand)
  | replaceOrder (command : ReplaceOrderCommand)
  | cancelOrder (command : CancelOrderCommand)
  | postStopOrder (command : ProtectionLegCommand)
  | cancelStopOrder (command : CancelStopOrderCommand)
  | protectionLeg (command : ProtectionLegCommand)
deriving DecidableEq

/-- What a command does. -/
inductive MutationKind
  | postOrder
  | postOrderAsync
  | replaceOrder
  | cancelOrder
  | postStopOrder
  | cancelStopOrder
  | protectionLeg
deriving DecidableEq

/-- Which leg a protection command places. -/
inductive ProtectionKind
  | stopLoss
  | takeProfit
deriving DecidableEq

/-- What the journal keeps of a command. -/
structure MutationEvidence where
  commandKind : MutationKind
  instrumentRef : Option String
  quantityLots : Option I64
  pricePresent : Bool
  protectionKind : Option ProtectionKind
deriving DecidableEq

namespace RuntimeExecutionCommand

/-- The kind of a command. -/
def kind : RuntimeExecutionCommand → MutationKind
  | regularOrder _ => .postOrder
  | postOrderAsync _ => .postOrderAsync
  | replaceOrder _ => .replaceOrder
  | cancelOrder _ => .cancelOrder
  | postStopOrder _ => .postStopOrder
  | cancelStopOrder _ => .cancelStopOrder
  | protectionLeg _ => .protectionLeg

/-- The account a command is for. -/
def accountId : RuntimeExecutionCommand → String
  | regularOrder command | postOrderAsync command => command.accountId
  | replaceOrder command => command.accountId
  | cancelOrder command => command.accountId
  | postStopOrder command | protectionLeg command => command.accountId
  | cancelStopOrder command => command.accountId

/-- The request id a command carries to the broker. -/
def requestIdentity : RuntimeExecutionCommand → Option String
  | regularOrder command | postOrderAsync command => some command.clientRequestId
  | replaceOrder command => some command.replacementRequestId
  | postStopOrder command | protectionLeg command => some command.clientRequestId
  | cancelOrder _ | cancelStopOrder _ => none

/-- Commands that can add exposure. -/
def exposureBearing : RuntimeExecutionCommand → Bool
  | regularOrder _ | postOrderAsync _ | replaceOrder _ => true
  | _ => false

/-- Commands that only cancel or protect. -/
def cleanup : RuntimeExecutionCommand → Bool
  | cancelOrder _ | postStopOrder _ | cancelStopOrder _ | protectionLeg _ => true
  | _ => false

/-- What the journal keeps of a command. -/
def evidence (self : RuntimeExecutionCommand) : MutationEvidence :=
  match self with
  | regularOrder command | postOrderAsync command =>
    ⟨self.kind, some command.instrumentId, some command.quantityLots, command.price.isSome, none⟩
  | replaceOrder command => ⟨self.kind, none, some command.quantityLots, true, none⟩
  | cancelOrder _ | cancelStopOrder _ => ⟨self.kind, none, none, false, none⟩
  | postStopOrder command | protectionLeg command =>
    ⟨self.kind, some command.instrumentId, some command.quantityLots,
      match command.leg with
      | .stopLoss (.fixed ..) => true
      | .stopLoss (.trailing _ activationPrice _ _) => activationPrice.isSome
      | .takeProfit take => take.triggerPrice.isSome || take.limitPrice.isSome,
      some (match command.leg with
        | .stopLoss _ => .stopLoss
        | .takeProfit _ => .takeProfit)⟩

end RuntimeExecutionCommand

/-! ## Journal records -/

/-- The texts the kinds of mutation are stored as. -/
def MutationKind.text : MutationKind → String
  | postOrder => "POST_ORDER"
  | postOrderAsync => "POST_ORDER_ASYNC"
  | replaceOrder => "REPLACE_ORDER"
  | cancelOrder => "CANCEL_ORDER"
  | postStopOrder => "POST_STOP_ORDER"
  | cancelStopOrder => "CANCEL_STOP_ORDER"
  | protectionLeg => "PROTECTION_LEG"

/-- The texts the kinds of protection are stored as. -/
def ProtectionKind.text : ProtectionKind → String
  | stopLoss => "STOP_LOSS"
  | takeProfit => "TAKE_PROFIT"

/-- A character inside a JSON text. -/
def jsonChar (c : Char) : List Char :=
  match c.toNat with
  | 0x22 => "\\\"".toList
  | 0x5C => "\\\\".toList
  | 0x08 => "\\b".toList
  | 0x09 => "\\t".toList
  | 0x0A => "\\n".toList
  | 0x0C => "\\f".toList
  | 0x0D => "\\r".toList
  | n =>
    if n < 0x20 then "\\u00".toList ++ [Nat.digitChar (n / 16), Nat.digitChar (n % 16)] else [c]

/-- A JSON text. -/
def jsonText (value : String) : List Char :=
  "\"".toList ++ value.toList.flatMap jsonChar ++ "\"".toList

/-- An optional JSON value. -/
def jsonOption {α : Type} (encode : α → List Char) (value : Option α) : List Char :=
  (value.map encode).getD "null".toList

namespace MutationEvidence

/-- The evidence as it is stored. -/
def encode (evidence : MutationEvidence) : List Char :=
  "\x7b\"command_kind\":".toList ++ jsonText evidence.commandKind.text ++
    ",\"instrument_ref\":".toList ++ jsonOption jsonText evidence.instrumentRef ++
    ",\"quantity_lots\":".toList ++ jsonOption (fun lots : I64 => (toString lots.val).toList)
      evidence.quantityLots ++
    ",\"price_present\":".toList ++ (if evidence.pricePresent then "true" else "false").toList ++
    ",\"protection_kind\":".toList ++
      jsonOption (fun kind => jsonText (ProtectionKind.text kind)) evidence.protectionKind ++
    "\x7d".toList

/-- The evidence is bounded and free of secrets. -/
def validate (evidence : MutationEvidence) : Except ModelError Unit := do
  match evidence.instrumentRef with
  | some value => validateSafeText value "instrument_ref" 256
  | none => .ok ()
  stopIf (evidence.quantityLots.any (·.val ≤ 0)) (.invalidField "quantity_lots")
  validateRedacted evidence.encode

end MutationEvidence

/-- How far a mutation has come. -/
inductive JournalState
  | notDispatched
  | dispatching
  | acknowledged
  | rejected
  | unknownAfterDispatch
  | reconciled
deriving DecidableEq

/-- The mutation may or may not have reached the broker. -/
def JournalState.safetyUnresolved : JournalState → Bool
  | dispatching | unknownAfterDispatch => true
  | _ => false

/-- What a reconciliation found out about a mutation. -/
inductive ReconciliationDisposition
  | orderAccepted
  | orderActiveNew
  | orderActivePartial
  | orderFilled
  | orderCancelled
  | orderRejected
  | stopActive
  | stopExecuted
  | stopCanceled
  | stopExpired
deriving DecidableEq

/-- A row of the mutation journal. -/
structure MutationRecord where
  scopeKey : String
  logicalRequestId : String
  kind : MutationKind
  state : JournalState
  requestEvidence : MutationEvidence
  brokerEvidenceRef : Option String
  correlationId : String
  reconciliationDisposition : Option ReconciliationDisposition
  createdAtUnixMs : I64
  updatedAtUnixMs : I64
  runtimeEpoch : ℕ
deriving DecidableEq

namespace MutationRecord

/-- A record of a mutation that is about to be dispatched. -/
def prepared (scope : RuntimeScope) (logicalRequestId : String) (kind : MutationKind)
    (requestEvidence : MutationEvidence) (correlationId : String) (runtimeEpoch : ℕ) (now : I64) :
    Except ModelError MutationRecord := do
  requestEvidence.validate
  stopIf (requestEvidence.commandKind ≠ kind) (.invalidField "request_evidence.command_kind")
  stopIf (Text.isBlank scope.key) (.empty "scope_key")
  validateSafeText logicalRequestId "logical_request_id" 256
  validateSafeText correlationId "correlation_id" 256
  .ok ⟨scope.key, logicalRequestId, kind, .notDispatched, requestEvidence, none, correlationId,
    none, now, now, runtimeEpoch⟩

/-- The checks a record passes before it is written back. -/
def validated (record : MutationRecord) : Except ModelError Unit := do
  validateSafeText record.scopeKey "scope_key" 1024
  validateSafeText record.logicalRequestId "logical_request_id" 256
  validateSafeText record.correlationId "correlation_id" 256
  record.requestEvidence.validate
  stopIf (record.requestEvidence.commandKind ≠ record.kind)
    (.invalidField "request_evidence.command_kind")
  match record.brokerEvidenceRef with
  | some value => validateSafeText value "broker_evidence_ref" 2048
  | none => .ok ()

end MutationRecord

/-- The broker identities known for a request. -/
structure BrokerIdentityLinks where
  logicalRequestId : String
  brokerOrderId : Option String
  replacementBrokerOrderId : Option String
  brokerStopOrderId : Option String
  providerOperationIds : List String
  brokerFillIds : List String
deriving DecidableEq

/-! ## Broker facts -/

/-- An account the broker lists. -/
structure BrokerAccount where
  accountId : String
  isOpen : Bool
  accessible : Bool
deriving DecidableEq

/-- A position, in units of the instrument. -/
structure PositionFact where
  accountId : String
  instrumentUid : String
  quantityUnits : I64
  brokerObservedAtUnixMs : Option I64
deriving DecidableEq

/-- An amount of money, as the provider's text. -/
structure MoneyFact where
  currency : String
  amountNanos : String
deriving DecidableEq

/-- The portfolio of an account. -/
structure PortfolioFact where
  accountId : String
  brokerDailyYield : Option MoneyFact
deriving DecidableEq

/-- Where an order stands at the broker. -/
inductive OrderExecutionStatus
  | new
  | partiallyFilled
  | filled
  | cancelled
  | rejected
  | unknownProviderStatus (wireValue : ℤ)
deriving DecidableEq

/-- The order can still be filled. -/
def OrderExecutionStatus.active : OrderExecutionStatus → Bool
  | new | partiallyFilled => true
  | _ => false

/-- Where a stop order stands at the broker. -/
inductive StopExecutionStatus
  | active
  | executed
  | canceled
  | expired
  | unknownProviderStatus (wireValue : ℤ)
deriving DecidableEq

/-- The stop order is in force. -/
def StopExecutionStatus.isActive : StopExecutionStatus → Bool
  | active => true
  | _ => false

/-- An order, as the broker reports it. -/
structure OrderFact where
  accountId : String
  brokerOrderId : String
  logicalRequestId : Option String
  instrumentUid : String
  /-- `none` when the provider's value is not known. -/
  side : Option OrderSide
  lotsRequested : I64
  lotsExecuted : I64
  status : OrderExecutionStatus
deriving DecidableEq

namespace OrderFact

/-- The lots that are not executed yet. -/
def remainingLots (order : OrderFact) : Except ModelError I64 := do
  stopIf (order.lotsRequested.val < 0 ∨ order.lotsExecuted.val < 0 ∨
    order.lotsRequested.val < order.lotsExecuted.val) (.invalidField "order lot progress")
  -- the subtraction is unchecked in the source; the guard above keeps it in range
  orStop (order.lotsRequested.checkedSub order.lotsExecuted) (.invalidField "order lot progress")

/-- The same, positive for a buy and negative for a sell. -/
def signedRemainingLots (order : OrderFact) : Except ModelError I64 := do
  let remaining ← order.remainingLots
  match order.side with
  | some .buy => .ok remaining
  | some .sell => orStop remaining.checkedNeg (.invalidField "order lot progress")
  | none => .error (.invalidField "order direction")

end OrderFact

/-- A stop order, as the broker reports it. -/
structure StopFact where
  accountId : String
  brokerStopOrderId : String
  instrumentUid : String
  status : StopExecutionStatus
  quantityLots : Option I64
  /-- The provider's code of the side: 1 buys, 2 sells. -/
  direction : Option I32
deriving DecidableEq

/-- An operation of the account's history. -/
structure OperationFact where
  accountId : String
  cursor : String
  providerOperationId : Option String
  brokerOrderId : Option String
  logicalRequestId : Option String
  brokerFillIds : List String
deriving DecidableEq

/-- A page of that history. -/
structure OperationsPage where
  items : List OperationFact
  nextCursor : Option String
deriving DecidableEq

/-- What a stream event is about. -/
inductive BrokerEventClass
  | order
  | stop
  | fill
  | operation
  | position
  | portfolio
deriving DecidableEq

/-- The execution state a stream event carries. -/
inductive BrokerExecutionState
  | order (status : OrderExecutionStatus)
  | stop (status : StopExecutionStatus)
deriving DecidableEq

/-- An event of one of the broker's streams. -/
structure BrokerEvent where
  accountId : String
  eventClass : BrokerEventClass
  stableEventId : String
  brokerOrderId : Option String
  brokerStopOrderId : Option String
  logicalRequestId : Option String
  executionState : Option BrokerExecutionState
  runtimeEpoch : ℕ
deriving DecidableEq

/-- Everything a reconciliation read from the broker. -/
structure BrokerSnapshot where
  accounts : List BrokerAccount
  portfolio : PortfolioFact
  positions : List PositionFact
  activeOrders : List OrderFact
  stopOrders : List StopFact
  operations : List OperationFact
  streamEvidence : List BrokerEvent
  observedAtUnixMs : I64
deriving DecidableEq

/-- Up to where the account's history is reconciled. -/
structure ReconciliationCheckpoint where
  scopeKey : String
  reconciliationId : String
  operationsCursor : Option String
  snapshotObservedAtUnixMs : I64
  completedAtUnixMs : I64
  runtimeEpoch : ℕ
  accountsComplete : Bool
  portfolioComplete : Bool
  positionsComplete : Bool
  ordersComplete : Bool
  stopsComplete : Bool
  operationsComplete : Bool
deriving DecidableEq

/-- The position a mutation is expected to lead to. -/
structure DerivedPositionExpectation where
  scopeKey : String
  instrumentUid : String
  expectedQuantityUnits : I64
  basedOnLogicalRequestId : String
  runtimeEpoch : ℕ
  updatedAtUnixMs : I64
deriving DecidableEq

/-- What a reconciliation found. -/
structure ReconciliationReport where
  reconciliationId : String
  runtimeEpoch : ℕ
  resultingState : RuntimeState
  reasonCode : ReasonCode
  resolvedLogicalRequestIds : List String
  unresolvedLogicalRequestIds : List String
  discrepancies : List String
  completedAtUnixMs : I64
  portfolio : PortfolioFact
  positions : List PositionFact
  activeOrders : List OrderFact
  activeStops : List StopFact
  snapshotObservedAtUnixMs : I64
deriving DecidableEq

end VoxTrader.Runtime
