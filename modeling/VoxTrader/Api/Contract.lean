import VoxTrader.Api.Decimal
import VoxTrader.Runtime.Model
import Mathlib.Data.List.DropRight

/-!
# The public contract of the execution commands

The requests a client sends, the errors it gets and the receipt of a command. Sides, types,
conventions and modes have the same values here as in the commands. The scope of a request only
selects the runtime that handles it and is not part of these requests.

## Main definitions

* `ApiError` — the public error.
* `SubmitOrderRequest`, `CancelOrderRequest`, `ReplaceOrderRequest`, `SubmitStopOrderRequest`,
  `SubmitProtectionRequest` — the requests.
* `CancelOrderRequest.target`, `ReplaceOrderRequest.target` — the one order a request names.
* `MutationDecision`, `decisionFor` — what a client may do after a receipt.
-/

namespace VoxTrader.Api

open VoxTrader.Runtime

/-! ## Errors -/

/-- What kind of error it is. -/
inductive ErrorCategory
  | validation
  | authentication
  | permission
  | notFound
  | conflict
  | stale
  | unresolvedUnknown
  | capabilityUnavailable
  | transient
  | internal
deriving DecidableEq

/-- What is wrong with a field. -/
structure FieldError where
  field : String
  message : String
deriving DecidableEq

/-- The public error. -/
structure ApiError where
  category : ErrorCategory
  code : String
  message : String
  fieldErrors : List FieldError
deriving DecidableEq

namespace ApiError

/-- An error about some fields. -/
def validation (message : String) (fieldErrors : List FieldError) : ApiError :=
  ⟨.validation, "VALIDATION_FAILED", message, fieldErrors⟩

end ApiError

/-! ## Requests -/

/-- A trailing distance. -/
structure TrailingDistanceDto where
  value : Decimal
  mode : TrailingDistanceMode
deriving DecidableEq

/-- Stop-loss and take-profit of a position. -/
structure ProtectionPlanDto where
  stopLossTriggerPrice : Option Decimal
  stopLossTrailing : Option TrailingDistanceDto
  takeProfitTriggerPrice : Option Decimal
  takeProfitLimitPrice : Option Decimal
deriving DecidableEq

/-- Submit a regular order. -/
structure SubmitOrderRequest where
  instrumentId : String
  clientRequestId : String
  side : OrderSide
  orderType : RegularOrderType
  quantityLots : I64
  price : Option Decimal
  priceConvention : ExecutionPriceConvention
  timeInForce : TimeInForce
  confirmMarginTrade : Bool
  protection : Option ProtectionPlanDto
deriving DecidableEq

/-- The order a request names. -/
inductive CancelTarget
  | brokerOrder (brokerOrderId : String)
  | logicalRequest (logicalRequestId : String)
deriving DecidableEq

/-- Cancel an order; one of the two ids names it. -/
structure CancelOrderRequest where
  clientRequestId : String
  brokerOrderId : Option String
  logicalRequestId : Option String
deriving DecidableEq

/-- A text without the white space around it. -/
def trim (value : String) : String :=
  String.ofList ((value.toList.dropWhile Text.isWhitespace).rdropWhile Text.isWhitespace)

/-- A text that is not blank, trimmed. -/
def nonempty (value : Option String) : Option String :=
  (value.map trim).filter (· ≠ "")

/-- The one order the request names. -/
def CancelOrderRequest.target (request : CancelOrderRequest) : Except ApiError CancelTarget :=
  match nonempty request.brokerOrderId, nonempty request.logicalRequestId with
  | some brokerOrderId, none => .ok (.brokerOrder brokerOrderId)
  | none, some logicalRequestId => .ok (.logicalRequest logicalRequestId)
  | some _, some _ => .error (.validation
      "a cancel cannot name two targets; prove they are the same command first"
      [⟨"broker_order_id", "must be omitted when logical_request_id is set"⟩,
        ⟨"logical_request_id", "must be omitted when broker_order_id is set"⟩])
  | none, none => .error (.validation
      "a cancel needs exactly one identifier for the order it cancels"
      [⟨"broker_order_id", "provide exactly one of broker_order_id or logical_request_id"⟩])

/-- Replace an order. -/
structure ReplaceOrderRequest where
  clientRequestId : String
  brokerOrderId : Option String
  logicalRequestId : Option String
  quantityLots : I64
  price : Option Decimal
  priceConvention : ExecutionPriceConvention
  confirmMarginTrade : Bool
deriving DecidableEq

/-- The one order the request names. -/
def ReplaceOrderRequest.target (request : ReplaceOrderRequest) : Except ApiError CancelTarget :=
  CancelOrderRequest.target ⟨request.clientRequestId, request.brokerOrderId,
    request.logicalRequestId⟩

/-- Submit a stop order. -/
structure SubmitStopOrderRequest where
  instrumentId : String
  clientRequestId : String
  side : OrderSide
  positionSide : PositionSide
  quantityLots : I64
  referencePrice : Decimal
  triggerPrice : Decimal
  limitPrice : Option Decimal
  priceConvention : ExecutionPriceConvention
  confirmMarginTrade : Bool
deriving DecidableEq

/-- Submit one protection leg. -/
structure SubmitProtectionRequest where
  instrumentId : String
  clientRequestId : String
  quantityLots : I64
  positionSide : PositionSide
  referencePrice : Decimal
  priceConvention : ExecutionPriceConvention
  confirmMarginTrade : Bool
  plan : ProtectionPlanDto
deriving DecidableEq

/-! ## Receipts -/

/-- What a client may do next. -/
inductive MutationDecision
  | submit
  | reconcile
  | doNotSubmit
deriving DecidableEq

/-- What a client may do with a command in a state. -/
def decisionFor : JournalState → MutationDecision
  | .notDispatched => .submit
  | .dispatching | .unknownAfterDispatch => .reconcile
  | .acknowledged | .rejected | .reconciled => .doNotSubmit

end VoxTrader.Api
