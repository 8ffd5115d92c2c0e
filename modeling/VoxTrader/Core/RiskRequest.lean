import VoxTrader.Risk.Store
import VoxTrader.Risk.Engine
import VoxTrader.Runtime.Ports

/-!
# From a command to a risk request

The production risk adapter turns an execution command into the request the risk engine
evaluates: it describes the command, takes positions and open orders from the last
reconciliation report, the reserved lots from the risk store, and the rest from the broker. The
answers of everything outside the two stores are one record, `BrokerAnswers`, so that the
request is a function of what was read.

## Main definitions

* `commandDescription` — what a command does, in the terms of the risk engine.
* `currentUnits`, `openOrderDelta` — the exposure a report shows for an instrument.
* `buildRequest` — the request for a command.

## Main results

* `buildRequest_eq_ok` — the exposure figures of a request that was built.
-/

namespace VoxTrader.Core

open Except (seq_eq_ok stopIf orStop)
open VoxTrader.Runtime VoxTrader.Risk

/-- What identifies the account of an adapter. -/
structure RiskAdapter where
  canonicalAccountId : String
  brokerConnectionId : String
deriving DecidableEq

/-! ## Error texts -/

/-- The text of a risk store error; what the database itself reports is not part of it. -/
def storeErrorText : RiskStoreError → String
  | .sqlite => "risk sqlite persistence failed"
  | .capacityExceeded => "risk reservation capacity exceeded"
  | .invalidCapacity => "risk reservation capacity is invalid"
  | .reservationNotFound => "risk reservation not found"
  | .invalidTransition => "invalid risk reservation transition"
  | .arithmeticOverflow => "risk arithmetic overflow"
  | .approvalInvariantViolation message => "risk approval invariant violated: " ++ message
  | .policyRevisionConflict => "risk policy revision changed"
  | .invalidPolicyMutation => "risk policy mutation is invalid"

/-- The text of an error of the risk engine. -/
def engineErrorText : RiskEngineError → String
  | .arithmeticOverflow => "risk arithmetic overflow"
  | .invalidPolicy field => "invalid risk policy: " ++ field
  | .invalidProviderFact fact => "invalid provider risk fact: " ++ fact

/-- A failure of the risk store makes the adapter unavailable. -/
def storeUnavailable (error : RiskStoreError) : RiskAdmissionError :=
  .unavailable (storeErrorText error)

/-! ## Describing a command -/

/-- What a command does, in the terms of the risk engine. -/
structure CommandDescription where
  action : RiskActionKind
  instrumentId : String
  deltaLots : I64
  price : Option I128
  orderType : Option RegularOrderType
  confirmMarginTrade : Bool
  replacedOrderId : Option String
deriving DecidableEq

/-- Signed lots of a positive quantity. -/
def signedLots (side : OrderSide) (lots : I64) : Except RiskAdmissionError I64 := do
  stopIf (lots.val ≤ 0) (.denied "INVALID_QUANTITY" "quantity must be positive")
  match side with
  | .buy => .ok lots
  | .sell =>
    orStop lots.checkedNeg (.denied "INVALID_QUANTITY" "quantity is not representable")

/-- An order goes by its broker id or by the request that placed it. -/
def goesBy (order : OrderFact) (target : String) : Bool :=
  order.brokerOrderId = target || order.logicalRequestId = some target

/-- What a command does; a replacement or a cancellation looks its order up in the report. -/
def commandDescription (command : RuntimeExecutionCommand) (report : ReconciliationReport) :
    Except RiskAdmissionError CommandDescription :=
  match command with
  | .regularOrder order | .postOrderAsync order => do
    let deltaLots ← signedLots order.side order.quantityLots
    .ok ⟨.directionalOrder, order.instrumentId, deltaLots, order.price, some order.orderType,
      order.confirmMarginTrade, none⟩
  | .replaceOrder order => do
    let existing ← orStop (report.activeOrders.find? (goesBy · order.existingOrderId))
      (.denied "ORDER_NOT_FOUND" "replacement target absent from authoritative open orders")
    let side ← orStop existing.side
      (.denied "ORDER_DIRECTION_UNKNOWN" "replacement target direction is unavailable")
    let deltaLots ← signedLots side order.quantityLots
    .ok ⟨.replaceDirectionalOrder, existing.instrumentUid, deltaLots, some order.price,
      some .limit, order.confirmMarginTrade, some order.existingOrderId⟩
  | .cancelOrder order =>
    .ok ⟨.cancelOrder,
      ((report.activeOrders.find? (goesBy · order.orderId)).map (·.instrumentUid)).getD
        "maintenance:cancel-order", 0, none, none, false, none⟩
  | .postStopOrder order | .protectionLeg order =>
    .ok ⟨.protectionMaintenance, order.instrumentId, 0, none, none, order.confirmMarginTrade,
      none⟩
  | .cancelStopOrder _ =>
    .ok ⟨.cancelProtection, "maintenance:cancel-protection", 0, none, none, false, none⟩

/-! ## The exposure a report shows -/

/-- The units of an instrument the account holds. -/
def currentUnits (report : ReconciliationReport) (instrumentId : String) :
    Except RiskAdmissionError I64 :=
  orStop (FixedInt.checkedSum ((report.positions.filter (·.instrumentUid = instrumentId)).map
      (·.quantityUnits)))
    (.unavailable "position quantity overflow")

/-- The open orders of an instrument that stay open: not the one that is being replaced. -/
def standingOrders (report : ReconciliationReport) (instrumentId : String)
    (replacedOrderId : Option String) : List OrderFact :=
  (report.activeOrders.filter (·.instrumentUid = instrumentId)).filter fun order =>
    replacedOrderId.all fun target => !goesBy order target

/-- Add up signed remaining lots, stopping at an order without a direction and on overflow. -/
def addRemainingLots (total : I64) : List OrderFact → Except RiskAdmissionError I64
  | [] => .ok total
  | order :: orders => do
    let remaining ← order.signedRemainingLots.mapError fun error =>
      .unavailable ("broker open-order direction unavailable: " ++ error.text)
    let total ← orStop (total.checkedAdd remaining) (.unavailable "open-order exposure overflow")
    addRemainingLots total orders

/-- The signed remaining lots of the open orders of an instrument. -/
def openOrderDelta (report : ReconciliationReport) (instrumentId : String)
    (replacedOrderId : Option String) : Except RiskAdmissionError I64 :=
  addRemainingLots 0 (standingOrders report instrumentId replacedOrderId)

/-- The lots by which `delta` adds exposure to `base`, as the adapter estimates them. -/
def increasingPortion (base delta : I64) : Except RiskAdmissionError I64 :=
  let overflow := RiskAdmissionError.unavailable "risk quantity overflow"
  if delta = 0 then .ok 0
  else if base = 0 ∨ base.signum = delta.signum then orStop delta.checkedAbs overflow
  else do
    let baseAbs ← orStop base.checkedAbs overflow
    let deltaAbs ← orStop delta.checkedAbs overflow
    .ok (deltaAbs.saturatingSub baseAbs)

/-! ## What the adapter reads elsewhere -/

/-- Trading constraints of an instrument; its lot is positive. -/
structure RiskInstrument where
  lotSize : I64
  apiTradeAvailable : Bool
  buyAvailable : Bool
  sellAvailable : Bool
  limitOrderAvailable : Bool
  marketOrderAvailable : Bool
  bestPriceOrderAvailable : Bool
  lotPositive : 0 < lotSize.val

/-- An amount with its currency. -/
structure Money where
  currency : Option String
  nanos : I128
deriving DecidableEq

/-- Margin attributes of an account. -/
structure MarginAttributes where
  liquidPortfolio : Option Money
  startingMargin : Option Money
  minimalMargin : Option Money
  fundsSufficiencyLevelNanos : Option I128
  amountOfMissingFunds : Option Money
  correctedMargin : Option Money
  guaranteeForFutures : Option Money
deriving DecidableEq

/-- What everything outside the two stores answers while a request is built. -/
structure BrokerAnswers where
  connectionId : Except String Unit
  /-- The authorization revision of an execution session. -/
  executionSession : Except String ℕ
  now : Except RiskAdmissionError I64
  readSession : Except String Unit
  /-- The constraints of the instrument, with the revision they are cached under. -/
  instrument : Except RiskAdmissionError (RiskInstrument × ℕ)
  maxLots : Except String BrokerLotLimits
  /-- The total amount of a limit order, in nano units. -/
  limitOrderTotal : Except String (Option I128)
  marginAttributes : Except String MarginAttributes
  /-- The newest protection plan of the instrument that is not terminal. -/
  protectionPlan : Except RiskStoreError (Option (String × ProtectionPlanState))

/-- An amount the margin facts cannot do without. -/
def requiredMarginMoney (value : Option Money) (field : String) : Except RiskAdmissionError Money :=
  orStop value (.denied "CRITICAL_INPUT_MISSING" ("broker margin field " ++ field ++ " is missing"))

/-- The margin facts of an account. -/
def brokerMarginFacts (value : MarginAttributes) (brokerAsOfUnixMs : I64) :
    Except RiskAdmissionError BrokerMarginFacts := do
  let liquid ← requiredMarginMoney value.liquidPortfolio "liquid_portfolio"
  let starting ← requiredMarginMoney value.startingMargin "starting_margin"
  let minimal ← requiredMarginMoney value.minimalMargin "minimal_margin"
  let corrected ← requiredMarginMoney value.correctedMargin "corrected_margin"
  let missing ← requiredMarginMoney value.amountOfMissingFunds "amount_of_missing_funds"
  let futures ← requiredMarginMoney value.guaranteeForFutures "guarantee_for_futures"
  stopIf (liquid.currency ≠ corrected.currency)
    (.denied "CRITICAL_INPUT_MISSING" "broker margin currencies are inconsistent")
  let fundsSufficiencyPpm ←
    match value.fundsSufficiencyLevelNanos with
    | none => .ok none
    | some level =>
      (orStop (FixedInt.ofInt? (level.val.tdiv 1000))
        (.denied "CRITICAL_INPUT_MISSING" "funds sufficiency level is out of range")).map some
  .ok ⟨liquid.nanos, starting.nanos, minimal.nanos, corrected.nanos, fundsSufficiencyPpm,
    missing.nanos, futures.nanos, brokerAsOfUnixMs⟩

/-- Read decimal digits behind a sign, from the value `total` of the digits before them. -/
def parseDigits (negative : Bool) (total : I128) : List Char → Except String I128
  | [] => .ok total
  | c :: digits => do
    stopIf (¬ c.isDigit) "invalid digit found in string"
    let outOfRange :=
      if negative then "number too small to fit in target type"
      else "number too large to fit in target type"
    let scaled ← orStop (total.checkedMul 10) outOfRange
    let digit : ℤ := c.toNat - '0'.toNat
    let total ← orStop
      (FixedInt.ofInt? (if negative then scaled.val - digit else scaled.val + digit)) outOfRange
    parseDigits negative total digits

/-- Read a signed 128-bit integer. -/
def parseI128 (text : String) : Except String I128 :=
  match text.toList with
  | [] => .error "cannot parse integer from empty string"
  | ['+'] | ['-'] => .error "invalid digit found in string"
  | '-' :: digits => parseDigits true 0 digits
  | '+' :: digits => parseDigits false 0 digits
  | digits => parseDigits false 0 digits

/-- The protection the report shows for an instrument. The position is taken in units, and the
sum of the stops wraps around. -/
def protectionStatus (report : ReconciliationReport) (instrumentId : String)
    (plan : Option (String × ProtectionPlanState)) : RiskProtectionStatus :=
  let position := report.positions.find? (·.instrumentUid = instrumentId)
  let stops := report.activeStops.filter fun stop =>
    stop.instrumentUid = instrumentId && stop.status.isActive
  { activeStopLots := FixedInt.truncate
      (stops.map fun stop => (stop.quantityLots.map FixedInt.val).getD 0).sum
    positionLots := (position.map (·.quantityUnits)).getD 0
    positionEnteredAtUnixMs := position.bind (·.brokerObservedAtUnixMs)
    planId := plan.map Prod.fst
    planState := plan.map Prod.snd }

/-! ## Building a request -/

/-- What is known of the instrument of a directional command. -/
structure DirectionalFacts where
  instrumentTradable : Bool
  lotSize : I64
  brokerLotLimits : Option BrokerLotLimits
  currentPositionLots : I64
  instrumentConstraintsRevision : ℕ

/-- The side of the order can be traded. -/
def sideAllowed (constraints : RiskInstrument) (deltaLots : I64) : Bool :=
  if 0 < deltaLots.val then constraints.buyAvailable
  else if deltaLots.val < 0 then constraints.sellAvailable
  else false

/-- The type of the order can be traded. -/
def orderTypeAllowed (constraints : RiskInstrument) : Option RegularOrderType → Bool
  | some .limit => constraints.limitOrderAvailable
  | some .market => constraints.marketOrderAvailable
  | some .bestPrice => constraints.bestPriceOrderAvailable
  | none => true

/-- Constraints, position and limits of the instrument; a command that only cleans up needs
none of them. -/
def directionalFacts (report : ReconciliationReport) (description : CommandDescription)
    (answers : BrokerAnswers) : Except RiskAdmissionError DirectionalFacts :=
  if description.action.directional then do
    let (constraints, revision) ← answers.instrument
    let units ← currentUnits report description.instrumentId
    stopIf (units.val.tmod constraints.lotSize.val ≠ 0) (.denied "POSITION_LOT_MISMATCH"
        "broker position is not exactly divisible by instrument lot")
    let limits ← answers.maxLots.mapError (.denied "PROVIDER_LIMIT_UNAVAILABLE" ·)
    .ok ⟨constraints.apiTradeAvailable && sideAllowed constraints description.deltaLots &&
        orderTypeAllowed constraints description.orderType,
      constraints.lotSize, some limits, units.divPos constraints.lotSize constraints.lotPositive,
      revision⟩
  else .ok ⟨true, FixedInt.lit 1, none, 0, 0⟩

/-- A limit on money is configured. -/
def notionalPolicyEnabled (policy : RiskPolicySet) : Bool :=
  policy.maxGrossExposureNanos.isSome || policy.maxNetExposureAbsNanos.isSome ||
    policy.maxInstrumentExposureNanos.isSome

/-- The signed notional of a command, where some limit needs it. -/
def requestedNotional (policy : RiskPolicySet) (description : CommandDescription)
    (increasingLots : I64) (answers : BrokerAnswers) : Except RiskAdmissionError I128 :=
  if description.action.directional ∧ 0 < increasingLots.val ∧ notionalPolicyEnabled policy then
    match description.price with
    | some _ => do
      stopIf (description.deltaLots.checkedAbs = none)
        (.denied "INVALID_QUANTITY" "order quantity is not representable")
      let total ← answers.limitOrderTotal.mapError (.denied "PRICE_UNAVAILABLE" ·)
      let total ← orStop total
        (.denied "PRICE_UNAVAILABLE" "broker limit-order estimate omitted total amount")
      if description.deltaLots.val < 0 then
        orStop total.checkedNeg (.unavailable "order notional overflow")
      else .ok total
    | none => .error (.denied "PRICE_UNAVAILABLE"
        "price-dependent policy cannot validate this order type")
  else .ok 0

/-- On whose behalf the engine is asked. -/
def riskSource : RuntimeExecutionPurpose → RiskSource
  | .productionAutomated => .strategy
  | .sandboxMutation | .productionManual => .manual

/-- Some unresolved mutation is on the instrument. -/
def unknownConflict (unresolved : List MutationRecord) (instrumentId : String) : Bool :=
  unresolved.any fun mutation =>
    mutation.state.safetyUnresolved && mutation.requestEvidence.instrumentRef = some instrumentId

/-- The margin facts, where new exposure may need them. -/
def marginFacts (policy : RiskPolicySet) (description : CommandDescription) (increasingLots : I64)
    (answers : BrokerAnswers) (now : I64) : Except RiskAdmissionError (Option BrokerMarginFacts) :=
  if 0 < increasingLots.val ∧ (policy.maxMarginUtilizationPpm.isSome ∨
      (policy.allowMargin ∧ description.confirmMarginTrade)) then do
    let attributes ← answers.marginAttributes.mapError (.denied "CRITICAL_INPUT_MISSING" ·)
    (brokerMarginFacts attributes now).map some
  else .ok none

/-- The broker's daily result, as a number. -/
def dailyPnl (report : ReconciliationReport) : Except RiskAdmissionError (Option I128) :=
  match report.portfolio.brokerDailyYield with
  | none => .ok none
  | some value =>
    ((parseI128 value.amountNanos).mapError fun error =>
      .unavailable ("broker daily_yield is invalid: " ++ error)).map some

/-- The revision under which a report's facts go. -/
def snapshotRevision (report : ReconciliationReport) : ℕ :=
  (max report.snapshotObservedAtUnixMs.val 0).toNat

/-- The risk request for a command: `snapshot` is the last report, `unresolved` what the journal
lists as unresolved, and `reserved` the lots the risk store has reserved on an instrument. -/
def buildRequest (adapter : RiskAdapter) (purpose : RuntimeExecutionPurpose)
    (command : RuntimeExecutionCommand) (logicalRequestId : String) (policy : RiskPolicySet)
    (snapshot : Option ReconciliationReport) (answers : BrokerAnswers)
    (unresolved : Except StoreError (List MutationRecord))
    (reserved : String → Except RiskStoreError I64) : Except RiskAdmissionError RiskRequest := do
  let report ← orStop snapshot
    (.unavailable "risk has no broker-authoritative reconciliation snapshot")
  stopIf (report.runtimeEpoch = 0) (.unavailable "risk snapshot runtime epoch is invalid")
  answers.connectionId.mapError .unavailable
  let authorizationRevision ← answers.executionSession.mapError (.denied "EXECUTION_UNAUTHORIZED" ·)
  let description ← commandDescription command report
  let now ← answers.now
  answers.readSession.mapError .unavailable
  let facts ← directionalFacts report description answers
  let openOrderDeltaLots ←
    openOrderDelta report description.instrumentId description.replacedOrderId
  let unresolved ← unresolved.mapError fun error => .unavailable error.text
  let activeReservationDeltaLots ← (reserved description.instrumentId).mapError storeUnavailable
  let basePositionLots ← orStop ((facts.currentPositionLots.checkedAdd openOrderDeltaLots).bind
      (·.checkedAdd activeReservationDeltaLots))
    (.unavailable "risk position overflow")
  let increasingLots ← increasingPortion basePositionLots description.deltaLots
  let requestedNotionalNanos ← requestedNotional policy description increasingLots answers
  let brokerDailyPnlNanos ← dailyPnl report
  let margin ← marginFacts policy description increasingLots answers now
  let plan ← answers.protectionPlan.mapError storeUnavailable
  .ok {
    requestId := logicalRequestId
    accountId := adapter.canonicalAccountId
    brokerConnectionId := adapter.brokerConnectionId
    instrumentId := description.instrumentId
    strategyId := none
    source := riskSource purpose
    action := description.action
    requestedDeltaLots := description.deltaLots
    requestedNotionalNanos := requestedNotionalNanos
    isMarketOrder := description.orderType = some .market
    confirmMarginTrade := description.confirmMarginTrade
    emergencyReduction := false
    nowUnixMs := now
    snapshot := {
      runtimeReady := report.resultingState = .ready
      executionAuthorized := true
      instrumentTradable := facts.instrumentTradable
      instrumentLotSize := facts.lotSize
      unresolvedUnknownConflict := unknownConflict unresolved description.instrumentId
      currentPositionLots := facts.currentPositionLots
      openOrderDeltaLots := openOrderDeltaLots
      unresolvedUnknownDeltaLots := 0
      activeReservationDeltaLots := activeReservationDeltaLots
      grossExposureNanos := none
      netExposureNanos := none
      instrumentExposureNanos := none
      brokerDailyPnlNanos := brokerDailyPnlNanos
      brokerLotLimits := facts.brokerLotLimits
      margin := margin
      protection := protectionStatus report description.instrumentId plan
      validity := {
        runtimeEpoch := report.runtimeEpoch
        reconciliationRevision := snapshotRevision report
        positionRevision := snapshotRevision report
        orderRevision := snapshotRevision report
        -- an order price is no watermark of market data; freshness policies fail closed
        marketDataAsOfUnixMs := none
        instrumentConstraintsRevision := facts.instrumentConstraintsRevision
        policyRevision := policy.revision
        executionAuthorizationRevision := authorizationRevision } } }

/-! ## What a request was built from -/

/-- Where the exposure figures of a request come from. -/
structure BuiltFrom (command : RuntimeExecutionCommand) (report : ReconciliationReport)
    (answers : BrokerAnswers) (reserved : String → Except RiskStoreError I64)
    (description : CommandDescription) (request : RiskRequest) : Prop where
  described : commandDescription command report = .ok description
  instrument : request.instrumentId = description.instrumentId
  action : request.action = description.action
  delta : request.requestedDeltaLots = description.deltaLots
  position : ∃ facts, directionalFacts report description answers = .ok facts ∧
    request.snapshot.currentPositionLots = facts.currentPositionLots ∧
    request.snapshot.instrumentLotSize = facts.lotSize
  orders : openOrderDelta report description.instrumentId description.replacedOrderId =
    .ok request.snapshot.openOrderDeltaLots
  unknown : request.snapshot.unresolvedUnknownDeltaLots = 0
  reservations : reserved description.instrumentId = .ok request.snapshot.activeReservationDeltaLots

variable {adapter : RiskAdapter} {purpose : RuntimeExecutionPurpose}
  {command : RuntimeExecutionCommand} {logicalRequestId : String} {policy : RiskPolicySet}
  {snapshot : Option ReconciliationReport} {answers : BrokerAnswers}
  {unresolved : Except StoreError (List MutationRecord)}
  {reserved : String → Except RiskStoreError I64} {request : RiskRequest}

/-- **The exposure figures of a request that was built.** -/
lemma buildRequest_eq_ok
    (h : buildRequest adapter purpose command logicalRequestId policy snapshot answers unresolved
      reserved = .ok request) : ∃ report description, snapshot = some report ∧
      BuiltFrom command report answers reserved description request := by
  simp only [buildRequest, seq_eq_ok, Except.orStop_eq_ok, Except.mapError_eq_ok,
    Except.exists_unit_ok, Except.stopIf_eq_ok, exists_const] at h
  obtain ⟨report, hreport, -, -, _, -, description, hdescription, _, -, -, facts, hfacts,
    openLots, hopen, _, -, active, hactive, _, -, _, -, _, -, _, -, _, -, _, -, h⟩ := h
  rw [← Except.ok.inj h]
  exact ⟨report, description, hreport, hdescription, rfl, rfl, rfl, ⟨facts, hfacts, rfl, rfl⟩,
    hopen, rfl, hactive⟩

/-- A request is for the logical request and the account of the adapter. -/
lemma buildRequest_identity
    (h : buildRequest adapter purpose command logicalRequestId policy snapshot answers unresolved
      reserved = .ok request) :
    request.requestId = logicalRequestId ∧ request.accountId = adapter.canonicalAccountId := by
  simp only [buildRequest, seq_eq_ok] at h
  obtain ⟨_, -, _, -, _, -, _, -, _, -, _, -, _, -, _, -, _, -, _, -, _, -, _, -, _, -, _, -, _, -,
    _, -, _, -, h⟩ := h
  rw [← Except.ok.inj h]
  exact ⟨rfl, rfl⟩

/-- **The conflict a request reports** is one of the unresolved mutations that were read, and the
request depends on them by nothing else. -/
lemma buildRequest_conflict
    (h : buildRequest adapter purpose command logicalRequestId policy snapshot answers unresolved
      reserved = .ok request) : ∃ report description listed, snapshot = some report ∧
      unresolved = .ok listed ∧ commandDescription command report = .ok description ∧
      request.action = description.action ∧ request.snapshot.unresolvedUnknownConflict =
        unknownConflict listed description.instrumentId ∧
      ∀ listed', unknownConflict listed' description.instrumentId =
          unknownConflict listed description.instrumentId →
        buildRequest adapter purpose command logicalRequestId policy snapshot answers (.ok listed')
          reserved = .ok request := by
  simp only [buildRequest, seq_eq_ok, Except.orStop_eq_ok, Except.mapError_eq_ok,
    Except.exists_unit_ok, Except.stopIf_eq_ok, exists_const] at h ⊢
  obtain ⟨report, hreport, hepoch, hconnection, revision, hrevision, description, hdescription, now,
    hnow, hread, facts, hfacts, openLots, hopen, listed, hlisted, active, hactive, base, hbase,
    increasing, hincreasing, notional, hnotional, pnl, hpnl, margin, hmargin, plan, hplan, h⟩ := h
  refine ⟨report, description, listed, hreport, hlisted, hdescription, ?_, ?_, fun listed' hsame =>
    ⟨report, hreport, hepoch, hconnection, revision, hrevision, description,
      hdescription, now, hnow,
      hread, facts, hfacts, openLots, hopen, listed', rfl, active, hactive, base, hbase, increasing,
      hincreasing, notional, hnotional, pnl, hpnl, margin, hmargin, plan, hplan, ?_⟩⟩
  · rw [← Except.ok.inj h]
  · rw [← Except.ok.inj h]
  · rw [hsame]
    exact h

end VoxTrader.Core
