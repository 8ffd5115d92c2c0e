import VoxTrader.Lib.FixedInt

/-!
# The risk data model

The records and enumerations the risk engine, the risk store and the reservation reconciler
exchange. Lots are signed 64-bit integers (buys positive, sells negative), money is in signed
128-bit nano units, and revisions and epochs, which are only ever compared, are natural numbers.

## Main definitions

* `RiskPolicySet`, `RiskRequest`, `RiskSnapshot` — what a risk evaluation reads.
* `RiskDecision` — what it returns; `RiskDecision.permitsDispatch` says whether the order may go
  out.
* `RiskReservation` — the durable claim on capacity an approved order holds.
* `RiskProtectionStatus` — stop coverage of a position, with its coverage predicates.
-/

namespace VoxTrader.Risk

/-! ## Enumerations -/

/-- The verdict of a risk evaluation. -/
inductive RiskOutcome
  | approve
  | resize
  | reject
  | reduceOnly
  | halt
deriving DecidableEq

/-- The configured risk state, from unrestricted to the global kill-switch. -/
inductive RiskState
  | normal
  | warning
  | reduceOnly
  | halted
  | killSwitch
deriving DecidableEq

/-- Who asks for the action. -/
inductive RiskSource
  | manual
  | strategy
  | ml
  | ai
  | emergencyOperator
deriving DecidableEq

/-- What is asked for. -/
inductive RiskActionKind
  | directionalOrder
  | replaceDirectionalOrder
  | cancelOrder
  | protectionMaintenance
  | cancelProtection
deriving DecidableEq

/-- The actions that open, close or move exposure. -/
def RiskActionKind.directional : RiskActionKind → Bool
  | .directionalOrder | .replaceDirectionalOrder => true
  | .cancelOrder | .protectionMaintenance | .cancelProtection => false

/-- The actions that only tidy up: cancellations and protection maintenance. -/
def RiskActionKind.cleanup : RiskActionKind → Bool
  | .cancelOrder | .protectionMaintenance | .cancelProtection => true
  | .directionalOrder | .replaceDirectionalOrder => false

/-- Every action is either directional or a clean-up. -/
@[simp] lemma RiskActionKind.cleanup_eq (a : RiskActionKind) : a.cleanup = !a.directional := by
  cases a <;> rfl

/-- The machine-readable part of a reason. -/
inductive RiskReasonCode
  | approved
  | resizedToProviderLimit
  | resizedToPolicyLimit
  | invalidQuantity
  | instrumentUnavailable
  | instrumentNotTradable
  | priceUnavailable
  | positionLotMismatch
  | criticalInputMissing
  | runtimeNotReady
  | executionUnauthorized
  | authorizationRevisionChanged
  | policyRevisionChanged
  | reconciliationRevisionChanged
  | positionRevisionChanged
  | orderRevisionChanged
  | instrumentConstraintRevisionChanged
  | marketDataMissing
  | marketDataStale
  | unknownMutationConflict
  | reduceOnly
  | halted
  | marginNotAllowed
  | marginConfirmationRequired
  | marginUtilizationExceeded
  | providerLimitUnavailable
  | providerLimitExceeded
  | maxSingleOrderExceeded
  | maxPositionExceeded
  | maxGrossExposureExceeded
  | maxNetExposureExceeded
  | maxInstrumentExposureExceeded
  | dailyLossExceeded
  | protectionRequired
  | killSwitchActive
  | persistenceFailure
deriving DecidableEq

/-- A reason code with its message. -/
structure RiskReason where
  code : RiskReasonCode
  message : String
deriving DecidableEq

/-! ## Broker facts -/

/-- The broker's limits on a buy, for limit and for market orders. -/
structure BuyLotLimit where
  maxLots : I64
  maxMarketLots : I64
deriving DecidableEq

/-- The broker's limit on a sell. -/
structure SellLotLimit where
  maxLots : I64
deriving DecidableEq

/-- The broker's lot limits by side and by use of margin. -/
structure BrokerLotLimits where
  buyOwn : Option BuyLotLimit
  buyMargin : Option BuyLotLimit
  sellOwn : Option SellLotLimit
  sellMargin : Option SellLotLimit
deriving DecidableEq

/-- The broker's margin figures for an account. -/
structure BrokerMarginFacts where
  liquidPortfolioNanos : I128
  startingMarginNanos : I128
  minimalMarginNanos : I128
  correctedMarginNanos : I128
  fundsSufficiencyPpm : Option I64
  amountOfMissingFundsNanos : I128
  guaranteeForFuturesNanos : I128
  brokerAsOfUnixMs : I64
deriving DecidableEq

/-! ## Protection -/

/-- The lifecycle of a protection plan. -/
inductive ProtectionPlanState
  | planned
  | submitted
  | active
  | partialCoverage
  | fullCoverage
  | cancelled
  | failed
  | stale
deriving DecidableEq

/-- The plan states under which more exposure may be taken. -/
def ProtectionPlanState.permitsAdditionalExposure : ProtectionPlanState → Bool
  | .active | .fullCoverage | .partialCoverage => true
  | _ => false

/-- Stop coverage of a position, as the broker reports it. -/
structure RiskProtectionStatus where
  activeStopLots : I64
  positionLots : I64
  positionEnteredAtUnixMs : Option I64
  planId : Option String
  planState : Option ProtectionPlanState
deriving DecidableEq

/-- No position, no stop, no plan. -/
def RiskProtectionStatus.default : RiskProtectionStatus :=
  ⟨0, 0, none, none, none⟩

/-- Position lots no active stop covers. The difference is computed in 128 bits and cut back to
64, so an uncovered position of `2^63` lots comes out negative. -/
def RiskProtectionStatus.uncoveredAbsLots (s : RiskProtectionStatus) : I64 :=
  let position := s.positionLots.unsignedAbs
  let covered := min s.activeStopLots.unsignedAbs position
  FixedInt.truncate (position - covered)

/-- Every lot of a non-empty position is covered. -/
def RiskProtectionStatus.fullCoverage (s : RiskProtectionStatus) : Bool :=
  s.positionLots ≠ 0 && s.uncoveredAbsLots = 0

/-! ## Requests and policies -/

/-- The revisions a decision was made under. -/
structure RiskValidityContext where
  runtimeEpoch : ℕ
  reconciliationRevision : ℕ
  positionRevision : ℕ
  orderRevision : ℕ
  marketDataAsOfUnixMs : Option I64
  instrumentConstraintsRevision : ℕ
  policyRevision : ℕ
  executionAuthorizationRevision : ℕ
deriving DecidableEq

/-- Everything about the account and the instrument an evaluation looks at. -/
structure RiskSnapshot where
  runtimeReady : Bool
  executionAuthorized : Bool
  instrumentTradable : Bool
  instrumentLotSize : I64
  unresolvedUnknownConflict : Bool
  currentPositionLots : I64
  /-- Signed remaining lots of the open orders. -/
  openOrderDeltaLots : I64
  /-- Signed lots of mutations of unknown outcome. -/
  unresolvedUnknownDeltaLots : I64
  /-- Signed remaining lots of the active reservations. -/
  activeReservationDeltaLots : I64
  grossExposureNanos : Option I128
  netExposureNanos : Option I128
  instrumentExposureNanos : Option I128
  brokerDailyPnlNanos : Option I128
  brokerLotLimits : Option BrokerLotLimits
  margin : Option BrokerMarginFacts
  protection : RiskProtectionStatus
  validity : RiskValidityContext
deriving DecidableEq

/-- A request for a risk decision. -/
structure RiskRequest where
  requestId : String
  accountId : String
  brokerConnectionId : String
  instrumentId : String
  strategyId : Option String
  source : RiskSource
  action : RiskActionKind
  /-- Signed lots; zero for clean-up actions. -/
  requestedDeltaLots : I64
  requestedNotionalNanos : I128
  isMarketOrder : Bool
  confirmMarginTrade : Bool
  emergencyReduction : Bool
  nowUnixMs : I64
  snapshot : RiskSnapshot
deriving DecidableEq

/-- The limits in force. -/
structure RiskPolicySet where
  revision : ℕ
  state : RiskState
  allowMargin : Bool
  /-- New exposure needs a known broker lot limit. -/
  requireProviderLotLimit : Bool
  maxMarketDataAgeMs : Option I64
  maxSingleOrderLots : Option I64
  maxPositionAbsLots : Option I64
  maxGrossExposureNanos : Option I128
  maxNetExposureAbsNanos : Option I128
  maxInstrumentExposureNanos : Option I128
  maxMarginUtilizationPpm : Option I64
  maxDailyLossNanos : Option I128
  protectionRequiredForNewExposure : Bool
  maxUnprotectedDurationMs : Option I64
deriving DecidableEq

/-! ## Decisions and reservations -/

/-- The result of a risk evaluation. -/
structure RiskDecision where
  decisionId : String
  requestId : String
  policyRevision : ℕ
  accountId : String
  action : RiskActionKind
  requestedDeltaLots : I64
  approvedDeltaLots : I64
  outcome : RiskOutcome
  reasons : List RiskReason
  reservationId : Option String
  expiresAtUnixMs : Option I64
  validity : RiskValidityContext
deriving DecidableEq

/-- The decision lets the order out: it approves or resizes, a directional action by some lots
and a clean-up by none. -/
def RiskDecision.permitsDispatch (d : RiskDecision) : Bool :=
  if d.outcome ≠ .approve ∧ d.outcome ≠ .resize then false
  else match d.action with
    | .directionalOrder | .replaceDirectionalOrder => d.approvedDeltaLots ≠ 0
    | .cancelOrder | .protectionMaintenance | .cancelProtection => d.approvedDeltaLots = 0

/-- The life of a reservation. -/
inductive ReservationState
  | active
  | partiallyConsumed
  | consumed
  | released
  | unknownHeld
  | orphaned
deriving DecidableEq

/-- The states that hold capacity. -/
def ReservationState.holdsCapacity : ReservationState → Bool
  | .active | .partiallyConsumed | .unknownHeld | .orphaned => true
  | .consumed | .released => false

/-- The durable claim on capacity of one logical request. -/
structure RiskReservation where
  reservationId : String
  accountId : String
  instrumentId : String
  strategyId : Option String
  source : RiskSource
  logicalRequestId : String
  /-- The lots reserved at admission. -/
  reservedDeltaLots : I64
  /-- The lots still reserved. -/
  remainingDeltaLots : I64
  reservedNotionalNanos : I128
  state : ReservationState
  createdAtUnixMs : I64
  updatedAtUnixMs : I64
  expiresAtUnixMs : Option I64
deriving DecidableEq

end VoxTrader.Risk
