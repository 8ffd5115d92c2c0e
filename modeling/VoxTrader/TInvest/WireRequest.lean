import VoxTrader.Runtime.Model

/-!
# Requests to the broker

How a command is turned into a request of the broker's interface. Every builder checks its command
first and reports the first check that fails; a stop order is checked once more as the finished
request. Fields that no builder sets are left out.

## Main definitions

* `ExecutionValidationError` — why a command has no request.
* `PostOrderRequest`, `PostOrderAsyncRequest`, `ReplaceOrderRequest`, `CancelOrderRequest`,
  `PostStopOrderRequest`, `CancelStopOrderRequest` — the requests.
* `regularOrderRequest`, `asyncRegularOrderRequest`, `replaceOrderRequest`, `cancelOrderRequest`,
  `protectionLegRequest`, `cancelStopOrderRequest` — the builders.
* `auditStopOrderRequest` — the check of a finished stop order.
* `wireRequest` — the request of a command.

## Main results

* `quotation_fixedPoint` — a quotation has the exact value it was made of.
* `quotation_of_quotable` — a positive price within the range of the broker has a quotation, which
  passes the check of a finished request.
* `regularOrderRequest_limit` — a limit order with its price has a request.
* `protectionLegRequest_of_form`, `protectionLegRequest_eq_ok` — a leg has a request when it has a
  form that does not trail, and the request is that of its form.
* `regularOrderRequest_eq_ok`, `replaceOrderRequest_eq_ok`, `stopLossForm_prices`,
  `takeProfitForm_prices` — what a request says.
-/

namespace VoxTrader.TInvest

open Except (seq_eq_ok stopIf orStop exists_unit_ok stopIf_eq_ok orStop_eq_ok)
open VoxTrader.Runtime

/-! ## Errors -/

/-- Protection the broker does not have. -/
inductive ProtectionCapabilityError
  | fixedStopUnsupported
  | stopLimitUnsupported
  | takeProfitUnsupported
  | nativeRelativeTrailingUnsupported
  | nativeAbsoluteTrailingUnsupported
deriving DecidableEq

/-- Why a command has no request. -/
inductive ExecutionValidationError
  | missing (field : String)
  | nonPositiveQuantity
  | nonPositive (field : String)
  | limitPriceRequired
  | priceForbidden
  | timeInForceRequiresLimit
  | invalidRequestId
  | missingProtectionRequestId (leg : String)
  | missingTakeProfitTrigger
  | trailingActivationRequired
  | conflictingTrailingActivation
  | trailingActivationAlreadyReached
  | invalidStopWire (invariant : String)
  | timestamp
  | numericOverflow
  | capability (error : ProtectionCapabilityError)
deriving DecidableEq

/-! ## What the broker can protect -/

/-- The kinds of protection a broker has. -/
structure ProtectionCapability where
  fixedStop : Bool
  nativeTrailingRelative : Bool
  nativeTrailingAbsolute : Bool
  takeProfit : Bool
  stopLimit : Bool
deriving DecidableEq

/-- A stop-loss and a take-profit, each if wanted. -/
structure ProtectionPlan where
  stopLoss : Option StopLossProtection
  takeProfit : Option TakeProfitProtection
deriving DecidableEq

/-- The broker has everything. -/
def tinvestProtectionCapability : ProtectionCapability := ⟨true, true, true, true, true⟩

namespace ProtectionCapability

/-- The broker has this kind of trailing. -/
def validateTrailing (capability : ProtectionCapability) (mode : TrailingDistanceMode) :
    Except ProtectionCapabilityError Unit :=
  match mode with
  | .relativePercent =>
    stopIf (capability.nativeTrailingRelative = false) .nativeRelativeTrailingUnsupported
  | .absolutePrice =>
    stopIf (capability.nativeTrailingAbsolute = false) .nativeAbsoluteTrailingUnsupported

/-- The broker has this kind of stop-loss. -/
def validateStop (capability : ProtectionCapability) :
    StopLossProtection → Except ProtectionCapabilityError Unit
  | .fixed _ limitPrice => do
    stopIf (capability.fixedStop = false) .fixedStopUnsupported
    stopIf (limitPrice.isSome ∧ capability.stopLimit = false) .stopLimitUnsupported
  | .trailing distance _ _ _ => capability.validateTrailing distance.mode

/-- The broker has this kind of take-profit. -/
def validateTakeProfit (capability : ProtectionCapability) (take : TakeProfitProtection) :
    Except ProtectionCapabilityError Unit := do
  stopIf (capability.takeProfit = false) .takeProfitUnsupported
  stopIf (take.limitPrice.isSome ∧ capability.stopLimit = false) .stopLimitUnsupported
  match take.trailing with
  | some trailing => capability.validateTrailing trailing.mode
  | none => .ok ()

/-- The broker has everything a plan needs. -/
def validate (capability : ProtectionCapability) (plan : ProtectionPlan) :
    Except ProtectionCapabilityError Unit := do
  match plan.stopLoss with
  | some stop => capability.validateStop stop
  | none => .ok ()
  match plan.takeProfit with
  | some take => capability.validateTakeProfit take
  | none => .ok ()

end ProtectionCapability

/-- This broker refuses no plan. -/
lemma tinvest_validate (plan : ProtectionPlan) :
    tinvestProtectionCapability.validate plan = .ok () := by
  have htrailing : ∀ mode, tinvestProtectionCapability.validateTrailing mode = .ok () := by
    rintro (_ | _) <;> rfl
  have hstop : ∀ stop, tinvestProtectionCapability.validateStop stop = .ok () := by
    rintro (_ | _)
    · simp [ProtectionCapability.validateStop, tinvestProtectionCapability]
    · exact htrailing _
  have htake : ∀ take, tinvestProtectionCapability.validateTakeProfit take = .ok () := by
    intro take
    simp only [ProtectionCapability.validateTakeProfit, seq_eq_ok, exists_unit_ok]
    refine ⟨rfl, by simp [tinvestProtectionCapability], ?_⟩
    cases take.trailing with
    | none => rfl
    | some => exact htrailing _
  rcases plan with ⟨_ | stop, _ | take⟩ <;>
    simp [ProtectionCapability.validate, hstop, htake]

/-! ## The interface of the broker -/

/-- The direction of an order, as the broker counts it. -/
inductive OrderDirection
  | unspecified
  | buy
  | sell
deriving DecidableEq

/-- The type of an order, as the broker counts it. -/
inductive OrderType
  | unspecified
  | limit
  | market
  | bestprice
deriving DecidableEq

/-- How long an order stays in the book, as the broker counts it. -/
inductive TimeInForceType
  | unspecified
  | day
  | fillAndKill
  | fillOrKill
deriving DecidableEq

/-- What a price counts, as the broker counts it. -/
inductive PriceType
  | unspecified
  | point
  | currency
deriving DecidableEq

/-- Whose name for an order an id is, as the broker counts it. -/
inductive OrderIdType
  | unspecified
  | exchange
  | request
deriving DecidableEq

/-- The direction of a stop order. -/
inductive StopOrderDirection
  | unspecified
  | buy
  | sell
deriving DecidableEq

/-- When a stop order ends. -/
inductive StopOrderExpirationType
  | unspecified
  | goodTillCancel
  | goodTillDate
deriving DecidableEq

/-- The type of a stop order. -/
inductive StopOrderType
  | unspecified
  | takeProfit
  | stopLoss
  | stopLimit
deriving DecidableEq

/-- The order a stop order places. -/
inductive ExchangeOrderType
  | unspecified
  | market
  | limit
deriving DecidableEq

/-- The type of a take-profit. -/
inductive TakeProfitType
  | unspecified
  | regular
  | trailing
deriving DecidableEq

/-- What a trailing value counts. -/
inductive TrailingValueType
  | unspecified
  | absolute
  | relative
deriving DecidableEq

/-- A number as units and nano units. -/
structure Quotation where
  units : I64
  nano : I32
deriving DecidableEq

/-- A point in time. -/
structure ProviderTimestamp where
  seconds : I64
  nanos : I32
deriving DecidableEq

/-- Place an order. -/
structure PostOrderRequest where
  quantity : I64
  price : Option Quotation
  direction : OrderDirection
  accountId : String
  orderType : OrderType
  orderId : String
  instrumentId : String
  timeInForce : TimeInForceType
  priceType : PriceType
  confirmMarginTrade : Bool
deriving DecidableEq

/-- Place an order without waiting for the exchange. -/
structure PostOrderAsyncRequest where
  instrumentId : String
  quantity : I64
  price : Option Quotation
  direction : OrderDirection
  accountId : String
  orderType : OrderType
  orderId : String
  timeInForce : Option TimeInForceType
  priceType : Option PriceType
  confirmMarginTrade : Bool
deriving DecidableEq

/-- Replace an order. -/
structure ReplaceOrderRequest where
  accountId : String
  orderIdType : Option OrderIdType
  orderId : String
  idempotencyKey : String
  quantity : I64
  price : Option Quotation
  priceType : Option PriceType
  confirmMarginTrade : Bool
deriving DecidableEq

/-- Cancel an order. -/
structure CancelOrderRequest where
  accountId : String
  orderId : String
  orderIdType : Option OrderIdType
deriving DecidableEq

/-- Cancel a stop order. -/
structure CancelStopOrderRequest where
  accountId : String
  stopOrderId : String
deriving DecidableEq

/-- How a stop order trails the price. -/
structure TrailingData where
  indent : Option Quotation
  indentType : TrailingValueType
  spread : Option Quotation
  spreadType : TrailingValueType
deriving DecidableEq

/-- Place a stop order. -/
structure PostStopOrderRequest where
  figi : Option String
  quantity : I64
  price : Option Quotation
  stopPrice : Option Quotation
  direction : StopOrderDirection
  accountId : String
  expirationType : StopOrderExpirationType
  stopOrderType : StopOrderType
  expireDate : Option ProviderTimestamp
  instrumentId : String
  exchangeOrderType : ExchangeOrderType
  takeProfitType : TakeProfitType
  trailingData : Option TrailingData
  priceType : PriceType
  orderId : String
  confirmMarginTrade : Bool
  instantExecution : Option Bool
deriving DecidableEq

/-- A request to the broker. -/
inductive WireRequest
  | postOrder (request : PostOrderRequest)
  | postOrderAsync (request : PostOrderAsyncRequest)
  | replaceOrder (request : ReplaceOrderRequest)
  | cancelOrder (request : CancelOrderRequest)
  | postStopOrder (request : PostStopOrderRequest)
  | cancelStopOrder (request : CancelStopOrderRequest)
deriving DecidableEq

/-! ## Checks -/

/-- The text is not blank. -/
def validateText (field value : String) : Except ExecutionValidationError Unit :=
  stopIf (Text.isBlank value) (.missing field)

/-- A hexadecimal digit. -/
def isHexDigit (c : Char) : Bool :=
  c.isDigit || ('a' ≤ c && c ≤ 'f') || ('A' ≤ c && c ≤ 'F')

/-- Thirty-two hexadecimal digits. -/
def simpleUuid (text : List Char) : Bool := text.length = 32 && text.all isHexDigit

/-- Groups of eight, four, four, four and twelve hexadecimal digits. -/
def hyphenatedUuid (text : List Char) : Bool :=
  text.length = 36 &&
    text.zipIdx.all fun (c, i) => if i ∈ [8, 13, 18, 23] then c = '-' else isHexDigit c

/-- A UUID in one of its four forms. -/
def parseUuid (text : List Char) : Bool :=
  simpleUuid text || hyphenatedUuid text ||
    (text.head? = some '\x7b' && text.getLast? = some '\x7d' &&
      hyphenatedUuid text.tail.dropLast) ||
    (text.take 9 = "urn:uuid:".toList && hyphenatedUuid (text.drop 9))

/-- The id is a UUID of at most 36 characters; all characters of a UUID have one byte. -/
def validateRequestId (value : String) : Except ExecutionValidationError Unit :=
  stopIf (36 < value.toList.length ∨ parseUuid value.toList = false) .invalidRequestId

/-- The quantity is positive. -/
def positiveQuantity (value : I64) : Except ExecutionValidationError Unit :=
  stopIf (value.val ≤ 0) .nonPositiveQuantity

/-- The price or distance is positive. -/
def positiveFixed (field : String) (value : I128) : Except ExecutionValidationError Unit :=
  stopIf (value.val ≤ 0) (.nonPositive field)

/-- The value of a quotation whose nano units are in range. -/
def Quotation.fixedPoint (quotation : Quotation) : Option I128 :=
  if -999999999 ≤ quotation.nano.val ∧ quotation.nano.val ≤ 999999999 then
    FixedInt.ofInt? (quotation.units.val * 1000000000 + quotation.nano.val)
  else none

/-- The quotation is positive. -/
def positiveWireQuotation (field : String) (value : Quotation) :
    Except ExecutionValidationError Unit := do
  let value ← orStop value.fixedPoint (.invalidStopWire field)
  positiveFixed field value

/-- The quotation of a positive value. -/
def quotation (value : I128) : Except ExecutionValidationError Quotation := do
  positiveFixed "price/distance" value
  let units ← orStop (FixedInt.ofInt? (value.val.tdiv 1000000000)) .numericOverflow
  .ok ⟨units, FixedInt.truncate (value.val.tmod 1000000000)⟩

/-- The quotation of a value, if there is one. -/
def quotation? : Option I128 → Except ExecutionValidationError (Option Quotation)
  | none => .ok none
  | some value => (quotation value).map some

/-- A limit order has a positive price, any other order none. -/
def validateRegularPrice (orderType : RegularOrderType) (price : Option I128) :
    Except ExecutionValidationError Unit :=
  match orderType, price with
  | .limit, none => .error .limitPriceRequired
  | .market, some _ | .bestPrice, some _ => .error .priceForbidden
  | .limit, some price => positiveFixed "price" price
  | .market, none | .bestPrice, none => .ok ()

/-- The activation price is still ahead of the price. -/
def validatePendingTrailingActivation (positionSide : PositionSide)
    (referencePrice activationPrice : I128) : Except ExecutionValidationError Unit := do
  positiveFixed "reference_price" referencePrice
  positiveFixed "activation_price" activationPrice
  let pending : Bool :=
    match positionSide with
    | .long => referencePrice.val < activationPrice.val
    | .short => activationPrice.val < referencePrice.val
  stopIf (pending = false) .trailingActivationAlreadyReached

/-! ## Orders -/

/-- The direction of an order. -/
def orderDirection : OrderSide → OrderDirection
  | .buy => .buy
  | .sell => .sell

/-- The type of an order. -/
def orderType : RegularOrderType → OrderType
  | .limit => .limit
  | .market => .market
  | .bestPrice => .bestprice

/-- How long an order stays in the book. -/
def timeInForce : TimeInForce → TimeInForceType
  | .day => .day
  | .fillAndKill => .fillAndKill
  | .fillOrKill => .fillOrKill

/-- What a price counts. -/
def priceType : ExecutionPriceConvention → PriceType
  | .settlementCurrency => .currency
  | .points => .point

/-- What a trailing distance counts. -/
def trailingMode : TrailingDistanceMode → TrailingValueType
  | .absolutePrice => .absolute
  | .relativePercent => .relative

/-- Whose name for an order an id is. -/
def orderIdType : ProviderOrderIdentityKind → OrderIdType
  | .brokerOrder => .exchange
  | .clientRequest => .request

/-- An id the client gave is one the broker accepts. -/
def validateOrderId (kind : Option ProviderOrderIdentityKind) (orderId : String) :
    Except ExecutionValidationError Unit :=
  if kind = some .clientRequest then validateRequestId orderId else .ok ()

/-- **The request of a regular order.** -/
def regularOrderRequest (command : RegularOrderCommand) :
    Except ExecutionValidationError PostOrderRequest := do
  validateText "account_id" command.accountId
  validateText "instrument_id" command.instrumentId
  validateRequestId command.clientRequestId
  positiveQuantity command.quantityLots
  validateRegularPrice command.orderType command.price
  stopIf (command.orderType ≠ .limit ∧ command.timeInForce.isSome) .timeInForceRequiresLimit
  let price ← quotation? command.price
  .ok {
    quantity := command.quantityLots
    price := price
    direction := orderDirection command.side
    accountId := command.accountId
    orderType := orderType command.orderType
    orderId := command.clientRequestId
    instrumentId := command.instrumentId
    timeInForce := (command.timeInForce.map timeInForce).getD .unspecified
    priceType := priceType command.priceConvention
    confirmMarginTrade := command.confirmMarginTrade }

/-- The request of a regular order that is not waited for. -/
def asyncRegularOrderRequest (command : RegularOrderCommand) :
    Except ExecutionValidationError PostOrderAsyncRequest := do
  let validated ← regularOrderRequest command
  .ok {
    instrumentId := validated.instrumentId
    quantity := validated.quantity
    price := validated.price
    direction := validated.direction
    accountId := validated.accountId
    orderType := validated.orderType
    orderId := validated.orderId
    timeInForce := command.timeInForce.map timeInForce
    priceType := some (priceType command.priceConvention)
    confirmMarginTrade := validated.confirmMarginTrade }

/-- The request of a replacement. -/
def replaceOrderRequest (command : ReplaceOrderCommand) :
    Except ExecutionValidationError ReplaceOrderRequest := do
  validateText "account_id" command.accountId
  validateText "existing_order_id" command.existingOrderId
  validateRequestId command.replacementRequestId
  validateOrderId command.existingOrderIdKind command.existingOrderId
  positiveQuantity command.quantityLots
  let price ← quotation command.price
  .ok {
    accountId := command.accountId
    orderIdType := command.existingOrderIdKind.map orderIdType
    orderId := command.existingOrderId
    idempotencyKey := command.replacementRequestId
    quantity := command.quantityLots
    price := some price
    priceType := some (priceType command.priceConvention)
    confirmMarginTrade := command.confirmMarginTrade }

/-- The request of a cancellation. -/
def cancelOrderRequest (command : CancelOrderCommand) :
    Except ExecutionValidationError CancelOrderRequest := do
  validateText "account_id" command.accountId
  validateText "order_id" command.orderId
  validateOrderId command.orderIdKind command.orderId
  .ok ⟨command.accountId, command.orderId, command.orderIdKind.map orderIdType⟩

/-- The request of a cancellation of a stop order. -/
def cancelStopOrderRequest (command : CancelStopOrderCommand) :
    Except ExecutionValidationError CancelStopOrderRequest := do
  validateText "account_id" command.accountId
  validateText "broker_stop_order_id" command.brokerStopOrderId
  .ok ⟨command.accountId, command.brokerStopOrderId⟩

/-! ## Stop orders -/

/-- The finished stop order trails as the broker wants it. -/
def auditTrailing (request : PostStopOrderRequest) : Except ExecutionValidationError Unit := do
  stopIf (request.stopOrderType ≠ .takeProfit) (.invalidStopWire "trailing_stop_order_type")
  stopIf (request.exchangeOrderType ≠ .market ∨ request.price.isSome)
    (.invalidStopWire "trailing_exchange_order")
  stopIf (request.stopPrice.isNone ∧ request.instantExecution ≠ some true)
    .trailingActivationRequired
  stopIf (request.stopPrice.isSome ∧ request.instantExecution = some true)
    .conflictingTrailingActivation
  let data ← orStop request.trailingData (.invalidStopWire "trailing_data")
  stopIf (data.indentType = .unspecified) (.invalidStopWire "trailing_indent")
  let indent ← orStop data.indent (.invalidStopWire "trailing_indent")
  positiveWireQuotation "trailing_indent" indent
  stopIf (data.spread.isSome ≠ decide (data.spreadType ≠ .unspecified))
    (.invalidStopWire "trailing_spread")
  match data.spread with
  | some spread => positiveWireQuotation "trailing_spread" spread
  | none => .ok ()

/-- The quotation is positive, if there is one. -/
def positiveWireQuotation? (field : String) : Option Quotation →
    Except ExecutionValidationError Unit
  | some value => positiveWireQuotation field value
  | none => .ok ()

/-- The date of the end goes with the kind of end. -/
def validExpiration (request : PostStopOrderRequest) : Bool :=
  match request.expirationType, request.expireDate with
  | .goodTillCancel, none => true
  | .goodTillDate, some date => decide (0 ≤ date.nanos.val ∧ date.nanos.val < 1000000000)
  | _, _ => false

/-- **The check of a finished stop order.** -/
def auditStopOrderRequest (request : PostStopOrderRequest) :
    Except ExecutionValidationError Unit := do
  positiveQuantity request.quantity
  validateText "account_id" request.accountId
  validateText "instrument_id" request.instrumentId
  validateRequestId request.orderId
  stopIf request.figi.isSome (.invalidStopWire "deprecated_figi")
  stopIf (request.direction = .unspecified) (.invalidStopWire "direction")
  stopIf (validExpiration request = false) (.invalidStopWire "expiration")
  positiveWireQuotation? "price" request.price
  positiveWireQuotation? "stop_price" request.stopPrice
  stopIf (request.priceType = .unspecified) (.invalidStopWire "price_type")
  stopIf (request.instantExecution.isSome ∧ request.takeProfitType ≠ .trailing)
    (.invalidStopWire "instant_execution_without_trailing")
  if request.takeProfitType = .trailing then auditTrailing request
  else stopIf request.trailingData.isSome (.invalidStopWire "trailing_data_without_trailing")

/-- The trailing data of a distance and a spread. -/
def trailingRequest (distance : TrailingDistance) (spread : Option TrailingDistance) :
    Except ExecutionValidationError TrailingData := do
  positiveFixed "trailing distance" distance.value
  match spread with
  | some spread => positiveFixed "trailing spread" spread.value
  | none => .ok ()
  let indent ← quotation distance.value
  let spreadQuotation ← quotation? (spread.map (·.value))
  .ok ⟨some indent, trailingMode distance.mode, spreadQuotation,
    (spread.map fun spread => trailingMode spread.mode).getD .unspecified⟩

/-- The ids of the requests of a plan. -/
structure ProtectionRequestIds where
  stopLoss : Option String
  takeProfit : Option String
deriving DecidableEq

/-- What the requests of a plan share. -/
structure ProtectionRequestContext where
  accountId : String
  instrumentId : String
  quantityLots : I64
  positionSide : PositionSide
  priceConvention : ExecutionPriceConvention
  referencePrice : I128
  expireAt : Option ProviderTimestamp
  confirmMarginTrade : Bool
  requestIds : ProtectionRequestIds
deriving DecidableEq

/-- What a stop order is made of, apart from its context. -/
structure StopForm where
  price : Option Quotation
  stopPrice : Option Quotation
  stopOrderType : StopOrderType
  exchangeOrderType : ExchangeOrderType
  takeProfitType : TakeProfitType
  trailingData : Option TrailingData
  instantExecution : Option Bool
deriving DecidableEq

/-- The form of a stop-loss; a trailing one is a take-profit to the broker. -/
def stopLossForm (context : ProtectionRequestContext) :
    StopLossProtection → Except ExecutionValidationError StopForm
  | .fixed triggerPrice limitPrice => do
    let price ← quotation? limitPrice
    let stopPrice ← quotation triggerPrice
    .ok ⟨price, some stopPrice, if limitPrice.isSome then .stopLimit else .stopLoss,
      if limitPrice.isSome then .limit else .market, .unspecified, none, none⟩
  | .trailing distance activationPrice protectiveSpread instantExecution => do
    stopIf (activationPrice.isNone ∧ instantExecution ≠ some true) .trailingActivationRequired
    stopIf (activationPrice.isSome ∧ instantExecution = some true) .conflictingTrailingActivation
    match activationPrice with
    | some activationPrice =>
      validatePendingTrailingActivation context.positionSide context.referencePrice activationPrice
    | none => .ok ()
    let stopPrice ← quotation? activationPrice
    let trailing ← trailingRequest distance protectiveSpread
    .ok ⟨none, stopPrice, .takeProfit, .market, .trailing, some trailing, instantExecution⟩

/-- The form of a take-profit. -/
def takeProfitForm (context : ProtectionRequestContext) (protection : TakeProfitProtection) :
    Except ExecutionValidationError StopForm := do
  stopIf (protection.trailing.isNone ∧ protection.triggerPrice.isNone) .missingTakeProfitTrigger
  if protection.trailing.isSome then do
    let activationPrice ← orStop protection.triggerPrice .trailingActivationRequired
    validatePendingTrailingActivation context.positionSide context.referencePrice activationPrice
  else .ok ()
  let trailing ←
    match protection.trailing with
    | some distance => (trailingRequest distance none).map some
    | none => .ok none
  let price ← quotation? protection.limitPrice
  let stopPrice ← quotation? protection.triggerPrice
  .ok ⟨price, stopPrice, .takeProfit, if protection.limitPrice.isSome then .limit else .market,
    if protection.trailing.isSome then .trailing else .regular, trailing, none⟩

/-- When the stop orders of a plan end. -/
def expiration : Option ProviderTimestamp →
    Except ExecutionValidationError (StopOrderExpirationType × Option ProviderTimestamp)
  | none => .ok (.goodTillCancel, none)
  | some value =>
    if 0 ≤ value.nanos.val ∧ value.nanos.val < 1000000000 then .ok (.goodTillDate, some value)
    else .error .timestamp

/-- A stop order closes the position. -/
def stopOrderDirection : PositionSide → StopOrderDirection
  | .long => .sell
  | .short => .buy

/-- The stop order of a form. -/
def stopOrderRequest (context : ProtectionRequestContext) (requestId : String)
    (expiration : StopOrderExpirationType × Option ProviderTimestamp) (form : StopForm) :
    PostStopOrderRequest where
  figi := none
  quantity := context.quantityLots
  price := form.price
  stopPrice := form.stopPrice
  direction := stopOrderDirection context.positionSide
  accountId := context.accountId
  expirationType := expiration.1
  stopOrderType := form.stopOrderType
  expireDate := expiration.2
  instrumentId := context.instrumentId
  exchangeOrderType := form.exchangeOrderType
  takeProfitType := form.takeProfitType
  trailingData := form.trailingData
  priceType := priceType context.priceConvention
  orderId := requestId
  confirmMarginTrade := context.confirmMarginTrade
  instantExecution := form.instantExecution

/-- The stop order of one leg: its id, its form, and the check of the finished request. -/
def legRequest (context : ProtectionRequestContext) (leg : String) (requestId : Option String)
    (expiration : StopOrderExpirationType × Option ProviderTimestamp)
    (form : Except ExecutionValidationError StopForm) :
    Except ExecutionValidationError PostStopOrderRequest := do
  let requestId ← orStop requestId (.missingProtectionRequestId leg)
  validateRequestId requestId
  let form ← form
  let request := stopOrderRequest context requestId expiration form
  auditStopOrderRequest request
  .ok request

/-- The stop orders of the legs of a plan, the stop-loss first. -/
def legRequests (plan : ProtectionPlan) (context : ProtectionRequestContext)
    (expiration : StopOrderExpirationType × Option ProviderTimestamp) :
    Except ExecutionValidationError (List PostStopOrderRequest) := do
  let stops ←
    match plan.stopLoss with
    | some stopLoss => (legRequest context "stop_loss" context.requestIds.stopLoss expiration
        (stopLossForm context stopLoss)).map ([·])
    | none => .ok []
  let takes ←
    match plan.takeProfit with
    | some takeProfit => (legRequest context "take_profit" context.requestIds.takeProfit expiration
        (takeProfitForm context takeProfit)).map ([·])
    | none => .ok []
  .ok (stops ++ takes)

/-- The requests of a plan. -/
def protectionRequests (plan : ProtectionPlan) (context : ProtectionRequestContext) :
    Except ExecutionValidationError (List PostStopOrderRequest) := do
  (tinvestProtectionCapability.validate plan).mapError .capability
  validateText "account_id" context.accountId
  validateText "instrument_id" context.instrumentId
  positiveQuantity context.quantityLots
  let expiration ← expiration context.expireAt
  legRequests plan context expiration

/-- The end of a leg, from its two fields. -/
def expireAt (command : ProtectionLegCommand) :
    Except ExecutionValidationError (Option ProviderTimestamp) :=
  match command.expireAtUnixSeconds, command.expireAtNanos with
  | none, none => .ok none
  | some seconds, nanos => .ok (some ⟨seconds, nanos.getD 0⟩)
  | none, some _ => .error .timestamp

/-- The plan of one leg, and the id of its request. -/
def legPlan (command : ProtectionLegCommand) : ProtectionPlan × ProtectionRequestIds :=
  match command.leg with
  | .stopLoss stopLoss => (⟨some stopLoss, none⟩, ⟨some command.clientRequestId, none⟩)
  | .takeProfit takeProfit => (⟨none, some takeProfit⟩, ⟨none, some command.clientRequestId⟩)

/-- What the request of a leg is made with. -/
def legContext (command : ProtectionLegCommand) (expireAt : Option ProviderTimestamp) :
    ProtectionRequestContext where
  accountId := command.accountId
  instrumentId := command.instrumentId
  quantityLots := command.quantityLots
  positionSide := command.positionSide
  priceConvention := command.priceConvention
  referencePrice := command.referencePrice
  expireAt := expireAt
  confirmMarginTrade := command.confirmMarginTrade
  requestIds := (legPlan command).2

/-- **The request of a protection leg.** -/
def protectionLegRequest (command : ProtectionLegCommand) :
    Except ExecutionValidationError PostStopOrderRequest := do
  let expireAt ← expireAt command
  let requests ← protectionRequests (legPlan command).1 (legContext command expireAt)
  stopIf (requests.length ≠ 1) (.invalidStopWire "protection leg must map to exactly one request")
  orStop requests.getLast? (.invalidStopWire "protection leg request missing")

/-- **The request of a command.** -/
def wireRequest : RuntimeExecutionCommand → Except ExecutionValidationError WireRequest
  | .regularOrder command => (regularOrderRequest command).map .postOrder
  | .postOrderAsync command => (asyncRegularOrderRequest command).map .postOrderAsync
  | .replaceOrder command => (replaceOrderRequest command).map .replaceOrder
  | .cancelOrder command => (cancelOrderRequest command).map .cancelOrder
  | .postStopOrder command | .protectionLeg command =>
    (protectionLegRequest command).map .postStopOrder
  | .cancelStopOrder command => (cancelStopOrderRequest command).map .cancelStopOrder

/-! ## Commands that have a request -/

variable {value : I128} {command : ProtectionLegCommand} {request : PostOrderRequest}
  {context : ProtectionRequestContext} {requestId : String} {form : StopForm} {triggerPrice : I128}
  {limitPrice : Option I128}

/-- **A quotation has the exact value it was made of.** -/
lemma quotation_fixedPoint {q : Quotation} (h : quotation value = .ok q) :
    0 < value.val ∧ q.fixedPoint = some value := by
  simp only [quotation, positiveFixed, seq_eq_ok, stopIf_eq_ok, not_le,
    orStop_eq_ok, FixedInt.ofInt?_eq_some] at h
  obtain ⟨-, hpos, units, hunits, hq⟩ := h
  cases hq
  have hparts := Int.tmod_add_mul_tdiv value.val 1000000000
  have hnano := Int.tmod_nonneg 1000000000 hpos.le
  have hnano' := Int.tmod_lt_of_pos value.val (show (0 : ℤ) < 1000000000 by decide)
  have htruncate : (FixedInt.truncate (value.val.tmod 1000000000) : I32).val =
      value.val.tmod 1000000000 := by
    simp only [FixedInt.truncate]
    generalize value.val.tmod 1000000000 = nano at *
    omega
  refine ⟨hpos, ?_⟩
  rw [Quotation.fixedPoint, if_pos (by rw [htruncate]; omega), FixedInt.ofInt?_eq_some, hunits,
    htruncate]
  omega

/-- A price the broker can be sent: positive, with units that fit. -/
def Quotable (value : I128) : Prop :=
  0 < value.val ∧ value.val < 9223372036854775808 * 1000000000

/-- **A price the broker can be sent has a quotation**, which passes the check of a finished
request. -/
lemma quotation_of_quotable (h : Quotable value) :
    ∃ q, quotation value = .ok q ∧ ∀ field, positiveWireQuotation field q = .ok () := by
  obtain ⟨hpos, hrange⟩ := h
  have hparts := Int.tmod_add_mul_tdiv value.val 1000000000
  have hnano := Int.tmod_nonneg 1000000000 hpos.le
  have hunits := Int.tdiv_nonneg hpos.le (show (0 : ℤ) ≤ 1000000000 by decide)
  obtain ⟨units, hvalue⟩ : ∃ units : I64, units.val = value.val.tdiv 1000000000 := by
    generalize value.val.tdiv 1000000000 = units at *
    exact ⟨⟨units, by omega, by omega⟩, rfl⟩
  have hquotation : quotation value =
      .ok ⟨units, FixedInt.truncate (value.val.tmod 1000000000)⟩ := by
    simp [quotation, positiveFixed, hpos, ← hvalue]
  refine ⟨_, hquotation, fun field => ?_⟩
  simp [positiveWireQuotation, (quotation_fixedPoint hquotation).2, positiveFixed, hpos]

/-- The same for a price that may be missing. -/
lemma quotation?_of_quotable {value : Option I128} (h : ∀ v ∈ value, Quotable v) :
    ∃ q, quotation? value = .ok q ∧ ∀ field, positiveWireQuotation? field q = .ok () := by
  rcases value with _ | v
  · exact ⟨none, rfl, fun _ => rfl⟩
  · obtain ⟨q, hq, hpositive⟩ := quotation_of_quotable (h v rfl)
    exact ⟨some q, by rw [quotation?, hq]; rfl, hpositive⟩

/-- A UUID with or without hyphens is an id the broker accepts. -/
lemma validateRequestId_of_uuid {id : String}
    (h : simpleUuid id.toList = true ∨ hyphenatedUuid id.toList = true) :
    validateRequestId id = .ok () := by
  have hlength : id.toList.length ≤ 36 := by
    rcases h with h | h
    · simp only [simpleUuid, Bool.and_eq_true, decide_eq_true_eq] at h
      omega
    · simp only [hyphenatedUuid, Bool.and_eq_true, decide_eq_true_eq] at h
      omega
  have hparse : parseUuid id.toList = true := by
    rcases h with h | h <;> simp [parseUuid, h]
  rw [validateRequestId, stopIf_eq_ok, hparse]
  simp only [Bool.true_eq_false, or_false, not_lt]
  exact hlength

/-- **A limit order with its price has a request.** -/
lemma regularOrderRequest_limit {command : RegularOrderCommand} {price : I128}
    (haccount : Text.isBlank command.accountId = false)
    (hinstrument : Text.isBlank command.instrumentId = false)
    (hid : validateRequestId command.clientRequestId = .ok ())
    (hlots : 0 < command.quantityLots.val) (htype : command.orderType = .limit)
    (hprice : command.price = some price) (hquotable : Quotable price) :
    ∃ request, regularOrderRequest command = .ok request := by
  obtain ⟨q, hq, -⟩ := quotation_of_quotable hquotable
  simp [regularOrderRequest, validateText, haccount, hinstrument, hid, positiveQuantity, hlots,
    htype, hprice, validateRegularPrice, positiveFixed, hquotable.1, quotation?, hq]

/-- Any other order has none as long as it says how long it stays in the book. -/
lemma regularOrderRequest_timeInForce {command : RegularOrderCommand}
    (htime : command.timeInForce.isSome = true) (h : regularOrderRequest command = .ok request) :
    command.orderType = .limit := by
  simp only [regularOrderRequest, seq_eq_ok, exists_unit_ok] at h
  obtain ⟨-, -, -, -, -, hlimit, -⟩ := h
  rw [stopIf_eq_ok, not_and] at hlimit
  by_contra hother
  exact hlimit hother htime

/-- A form without trailing, with quotations that are positive. -/
structure StopForm.Plain (form : StopForm) : Prop where
  price : ∀ field, positiveWireQuotation? field form.price = .ok ()
  stopPrice : ∀ field, positiveWireQuotation? field form.stopPrice = .ok ()
  regular : form.takeProfitType ≠ .trailing
  trailingData : form.trailingData = none
  instantExecution : form.instantExecution = none

/-- What a request needs whatever its form is. -/
structure ProtectionRequestContext.Sound (context : ProtectionRequestContext) : Prop where
  account : Text.isBlank context.accountId = false
  instrument : Text.isBlank context.instrumentId = false
  lots : 0 < context.quantityLots.val
  endless : context.expireAt = none

/-- A plain form passes the check of a finished request. -/
lemma auditStopOrderRequest_plain (hcontext : context.Sound)
    (hid : validateRequestId requestId = .ok ()) (hform : form.Plain) :
    auditStopOrderRequest (stopOrderRequest context requestId (.goodTillCancel, none) form) =
      .ok () := by
  have hdirection : stopOrderDirection context.positionSide ≠ .unspecified := by
    cases context.positionSide <;> decide
  have hpriceType : priceType context.priceConvention ≠ .unspecified := by
    cases context.priceConvention <;> decide
  simp [auditStopOrderRequest, stopOrderRequest, positiveQuantity, hcontext.lots, validateText,
    hcontext.account, hcontext.instrument, hid, hdirection, validExpiration, hform.price,
    hform.stopPrice, hpriceType, hform.instantExecution, hform.regular, hform.trailingData]

/-- The request of a leg with a plain form. -/
lemma legRequest_plain {leg : String} (hcontext : context.Sound)
    (hid : validateRequestId requestId = .ok ()) (hform : form.Plain) :
    legRequest context leg (some requestId) (.goodTillCancel, none) (.ok form) =
      .ok (stopOrderRequest context requestId (.goodTillCancel, none) form) := by
  simp [legRequest, orStop, hid, auditStopOrderRequest_plain hcontext hid hform]

/-- **A fixed stop-loss has a plain form.** -/
lemma stopLossForm_fixed (htrigger : Quotable triggerPrice)
    (hlimit : ∀ v ∈ limitPrice, Quotable v) :
    ∃ form, stopLossForm context (.fixed triggerPrice limitPrice) = .ok form ∧ form.Plain := by
  obtain ⟨stop, hstop, hstopPositive⟩ := quotation_of_quotable htrigger
  obtain ⟨price, hprice, hpricePositive⟩ := quotation?_of_quotable hlimit
  refine ⟨⟨price, some stop, if limitPrice.isSome then .stopLimit else .stopLoss,
    if limitPrice.isSome then .limit else .market, .unspecified, none, none⟩, ?_,
    ⟨hpricePositive, hstopPositive, by simp, rfl, rfl⟩⟩
  simp [stopLossForm, hprice, hstop]

/-- **So has a take-profit with a trigger.** -/
lemma takeProfitForm_trigger (htrigger : Quotable triggerPrice)
    (hlimit : ∀ v ∈ limitPrice, Quotable v) :
    ∃ form, takeProfitForm context ⟨some triggerPrice, limitPrice, none⟩ = .ok form ∧
    form.Plain := by
  obtain ⟨stop, hstop, hstopPositive⟩ := quotation_of_quotable htrigger
  obtain ⟨price, hprice, hpricePositive⟩ := quotation?_of_quotable hlimit
  refine ⟨⟨price, some stop, .takeProfit, if limitPrice.isSome then .limit else .market, .regular,
    none, none⟩, ?_, ⟨hpricePositive, hstopPositive, by simp, rfl, rfl⟩⟩
  have hstop? : quotation? (some triggerPrice) = .ok (some stop) := by
    rw [quotation?, hstop]
    rfl
  simp [takeProfitForm, hprice, hstop?]

/-- A sound context passes the checks that do not look at the legs. -/
lemma protectionRequests_of_sound {plan : ProtectionPlan} (hcontext : context.Sound) :
    protectionRequests plan context = legRequests plan context (.goodTillCancel, none) := by
  have haccount : validateText "account_id" context.accountId = .ok () := by
    simp [validateText, hcontext.account]
  have hinstrument : validateText "instrument_id" context.instrumentId = .ok () := by
    simp [validateText, hcontext.instrument]
  have hlots : positiveQuantity context.quantityLots = .ok () := by
    simp [positiveQuantity, hcontext.lots]
  have hexpiration : expiration context.expireAt = .ok (.goodTillCancel, none) := by
    rw [hcontext.endless]
    rfl
  rw [protectionRequests, tinvest_validate, haccount, hinstrument, hlots, hexpiration]
  rfl

/-- The form of a leg without an end. -/
def legForm (command : ProtectionLegCommand) : Except ExecutionValidationError StopForm :=
  match command.leg with
  | .stopLoss stopLoss => stopLossForm (legContext command none) stopLoss
  | .takeProfit takeProfit => takeProfitForm (legContext command none) takeProfit

/-- The request of a leg without an end is that of its form. -/
lemma protectionLegRequest_eq (hseconds : command.expireAtUnixSeconds = none)
    (hnanos : command.expireAtNanos = none) (hcontext : (legContext command none).Sound) :
    ∃ leg, protectionLegRequest command = legRequest (legContext command none) leg
      (some command.clientRequestId) (.goodTillCancel, none) (legForm command) := by
  have hexpire : expireAt command = .ok none := by
    rw [expireAt, hseconds, hnanos]
  rw [protectionLegRequest, hexpire]
  simp only [bind, Except.bind, protectionRequests_of_sound hcontext]
  cases hleg : command.leg with
  | stopLoss =>
    refine ⟨"stop_loss", ?_⟩
    simp only [legRequests, legPlan, legForm, hleg, legContext]
    rcases legRequest _ _ _ _ _ with error | request <;> rfl
  | takeProfit =>
    refine ⟨"take_profit", ?_⟩
    simp only [legRequests, legPlan, legForm, hleg, legContext]
    rcases legRequest _ _ _ _ _ with error | request <;> rfl

/-- **A leg without an end has a request when it has a plain form.** -/
lemma protectionLegRequest_of_form (hseconds : command.expireAtUnixSeconds = none)
    (hnanos : command.expireAtNanos = none) (hcontext : (legContext command none).Sound)
    (hid : validateRequestId command.clientRequestId = .ok ()) (hform : legForm command = .ok form)
    (hplain : form.Plain) : ∃ request, protectionLegRequest command = .ok request := by
  obtain ⟨leg, hrequest⟩ := protectionLegRequest_eq hseconds hnanos hcontext
  rw [hrequest, hform, legRequest_plain hcontext hid hplain]
  exact ⟨_, rfl⟩

/-- What the request of a leg needs. -/
lemma sound_of_request {request : PostStopOrderRequest}
    (hexpire : expireAt command = .ok none) (h : protectionLegRequest command = .ok request) :
    (legContext command none).Sound := by
  simp only [protectionLegRequest, hexpire, seq_eq_ok] at h
  obtain ⟨_, hnone, requests, hrequests, -⟩ := h
  cases hnone
  simp only [protectionRequests, seq_eq_ok, exists_unit_ok] at hrequests
  obtain ⟨-, haccount, hinstrument, hlots, -⟩ := hrequests
  simp only [validateText, positiveQuantity, stopIf_eq_ok, Bool.not_eq_true, not_le]
    at haccount hinstrument hlots
  exact ⟨haccount, hinstrument, hlots, rfl⟩

/-- **The request of a leg without an end is that of its form**, in a sound context and with a valid
id. -/
lemma protectionLegRequest_eq_ok {request : PostStopOrderRequest}
    (hseconds : command.expireAtUnixSeconds = none) (hnanos : command.expireAtNanos = none)
    (h : protectionLegRequest command = .ok request) :
    ((legContext command none).Sound ∧ validateRequestId command.clientRequestId = .ok ()) ∧
      ∃ form, legForm command = .ok form ∧ request = stopOrderRequest (legContext command none)
        command.clientRequestId (.goodTillCancel, none) form := by
  have hexpire : expireAt command = .ok none := by
    rw [expireAt, hseconds, hnanos]
  have hsound := sound_of_request hexpire h
  obtain ⟨leg, hrequest⟩ := protectionLegRequest_eq hseconds hnanos hsound
  rw [hrequest] at h
  simp only [legRequest, seq_eq_ok, orStop_eq_ok] at h
  obtain ⟨_, hid, _, hvalid, form, hform, -, -, h⟩ := h
  cases hid
  exact ⟨⟨hsound, hvalid⟩, form, hform, (Except.ok.inj h).symm⟩

/-! ## What a request says -/

/-- The request of a regular order says what the order does. -/
lemma regularOrderRequest_eq_ok {command : RegularOrderCommand}
    (h : regularOrderRequest command = .ok request) :
    request.direction = orderDirection command.side ∧ request.quantity = command.quantityLots ∧
      request.orderId = command.clientRequestId ∧ quotation? command.price = .ok request.price := by
  simp only [regularOrderRequest, seq_eq_ok] at h
  obtain ⟨-, -, -, -, -, -, -, -, -, -, -, -, price, hprice, h⟩ := h
  cases h
  exact ⟨rfl, rfl, rfl, hprice⟩

/-- So does the request of a replacement. -/
lemma replaceOrderRequest_eq_ok {command : ReplaceOrderCommand} {request : ReplaceOrderRequest}
    (h : replaceOrderRequest command = .ok request) :
    request.quantity = command.quantityLots ∧
      request.idempotencyKey = command.replacementRequestId ∧
      ∃ price, quotation command.price = .ok price ∧ request.price = some price := by
  simp only [replaceOrderRequest, seq_eq_ok] at h
  obtain ⟨-, -, -, -, -, -, -, -, -, -, price, hprice, h⟩ := h
  cases h
  exact ⟨rfl, rfl, price, hprice, rfl⟩

/-- The form of a fixed stop-loss has its two prices, and does not trail. -/
lemma stopLossForm_prices (h : stopLossForm context (.fixed triggerPrice limitPrice) = .ok form) :
    quotation? (some triggerPrice) = .ok form.stopPrice ∧ quotation? limitPrice = .ok form.price ∧
      form.trailingData = none := by
  simp only [stopLossForm, seq_eq_ok] at h
  obtain ⟨price, hprice, stop, hstop, h⟩ := h
  cases h
  exact ⟨by rw [quotation?, hstop]; rfl, hprice, rfl⟩

/-- A trailing stop without activation has no form. -/
lemma stopLossForm_trailing {distance : TrailingDistance}
    (h : stopLossForm context (.trailing distance none none none) = .ok form) : False := by
  simp only [stopLossForm, seq_eq_ok, exists_unit_ok] at h
  exact absurd h.1 (by simp [stopIf])

/-- The form of a take-profit that does not trail has a trigger and its two prices. -/
lemma takeProfitForm_prices {triggerPrice : Option I128}
    (h : takeProfitForm context ⟨triggerPrice, limitPrice, none⟩ = .ok form) :
    triggerPrice.isSome = true ∧ quotation? triggerPrice = .ok form.stopPrice ∧
      quotation? limitPrice = .ok form.price ∧ form.trailingData = none := by
  simp only [takeProfitForm, Option.isSome_none, Bool.false_eq_true, if_false, seq_eq_ok,
    exists_unit_ok] at h
  obtain ⟨htrigger, _, -, trailing, htrailing, price, hprice, stop, hstop, h⟩ := h
  cases h
  refine ⟨?_, hstop, hprice, (Except.ok.inj htrailing).symm⟩
  rcases triggerPrice with _ | _
  · exact absurd htrigger (by simp [stopIf])
  · rfl

end VoxTrader.TInvest
