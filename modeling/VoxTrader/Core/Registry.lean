import VoxTrader.Api.Contract
import VoxTrader.Core.RiskPort
import VoxTrader.Runtime.AtMostOnce

/-!
# The execution commands of the registry

How a request of the public contract becomes a command of the runtime.

## Main definitions

* `submitOrderCommand`, `cancelOrderCommand`, `replaceOrderCommand`, `submitStopOrderCommand`,
  `cancelStopOrderCommand`, `submitProtectionCommand` — the command of a request.

## Main results

* `exactProtectionLeg_cases` — what a plan of protection is read as.
* `submit_only_unsent` — the decision is `SUBMIT` for the unsent.
-/

namespace VoxTrader.Core

open VoxTrader.Runtime VoxTrader.Risk VoxTrader.Api

/-! ## Commands -/

/-- An error about one field of a request. -/
def validation (field message : String) : ApiError :=
  .validation "execution request is invalid" [⟨field, message⟩]

/-- The exact value of a price. -/
def exactPrice (field : String) (price : Decimal) : Except ApiError I128 :=
  price.toFixedPoint.mapError fun error => validation field error.text

/-- The exact value of a price that may be missing. -/
def exactPrice? (field : String) : Option Decimal → Except ApiError (Option I128)
  | none => .ok none
  | some price => (exactPrice field price).map some

/-- An order with its price; it always says how long it stays in the book. -/
def regularOrder (accountId : String) (request : SubmitOrderRequest) (price : Option I128) :
    RegularOrderCommand where
  accountId := accountId
  instrumentId := request.instrumentId
  clientRequestId := request.clientRequestId
  quantityLots := request.quantityLots
  price := price
  priceConvention := request.priceConvention
  side := request.side
  orderType := request.orderType
  timeInForce := some request.timeInForce
  confirmMarginTrade := request.confirmMarginTrade

/-- The command of an order. -/
def submitOrderCommand (accountId : String) (request : SubmitOrderRequest) :
    Except ApiError RuntimeExecutionCommand := do
  Except.stopIf request.protection.isSome (validation "protection"
    "submit protection through typed protection command after entry acknowledgement")
  let price ← exactPrice? "price" request.price
  .ok (.regularOrder (regularOrder accountId request price))

/-- The id of a named order, and whose name it is. -/
def cancelTarget : CancelTarget → String × ProviderOrderIdentityKind
  | .brokerOrder brokerOrderId => (brokerOrderId, .brokerOrder)
  | .logicalRequest logicalRequestId => (logicalRequestId, .clientRequest)

/-- The command of a cancellation. -/
def cancelOrderCommand (accountId : String) (request : Api.CancelOrderRequest) :
    Except ApiError RuntimeExecutionCommand := do
  let target ← request.target
  .ok (.cancelOrder ⟨accountId, (cancelTarget target).1, some (cancelTarget target).2⟩)

/-- The command of a replacement. -/
def replaceOrderCommand (accountId : String) (request : Api.ReplaceOrderRequest) :
    Except ApiError RuntimeExecutionCommand := do
  let target ← request.target
  let price ← Except.orStop request.price (validation "price" "replace requires exact price")
  let price ← exactPrice "price" price
  .ok (.replaceOrder {
    accountId := accountId
    existingOrderId := (cancelTarget target).1
    existingOrderIdKind := some (cancelTarget target).2
    replacementRequestId := request.clientRequestId
    quantityLots := request.quantityLots
    price := price
    priceConvention := request.priceConvention
    confirmMarginTrade := request.confirmMarginTrade })

/-- The command of a stop order. -/
def submitStopOrderCommand (accountId : String) (request : SubmitStopOrderRequest) :
    Except ApiError RuntimeExecutionCommand := do
  let trigger ← exactPrice "trigger_price" request.triggerPrice
  let limit ← exactPrice? "limit_price" request.limitPrice
  let referencePrice ← exactPrice "reference_price" request.referencePrice
  .ok (.postStopOrder {
    accountId := accountId
    instrumentId := request.instrumentId
    clientRequestId := request.clientRequestId
    quantityLots := request.quantityLots
    positionSide := request.positionSide
    priceConvention := request.priceConvention
    referencePrice := referencePrice
    expireAtUnixSeconds := none
    expireAtNanos := none
    confirmMarginTrade := request.confirmMarginTrade
    leg := .stopLoss (.fixed trigger limit) })

/-- The command of a cancellation of a stop order. -/
def cancelStopOrderCommand (accountId : String) (request : Api.CancelOrderRequest) :
    Except ApiError RuntimeExecutionCommand := do
  let target ← request.target
  match target with
  | .brokerOrder brokerOrderId => .ok (.cancelStopOrder ⟨accountId, brokerOrderId⟩)
  | .logicalRequest _ =>
    .error (validation "logical_request_id" "cancel stop requires broker stop identity")

/-- The exact value of a trailing distance. -/
def trailingDistance (value : TrailingDistanceDto) (field : String) :
    Except ApiError TrailingDistance := do
  let distance ← exactPrice field value.value
  .ok ⟨distance, value.mode⟩

/-- The one stop-loss of a plan, as a leg: a trailing one without activation. -/
def exactStopLeg (plan : ProtectionPlanDto) : Except ApiError ProtectionLeg :=
  match plan.stopLossTriggerPrice, plan.stopLossTrailing with
  | some trigger, none => do
    let trigger ← exactPrice "plan.stop_loss_trigger_price" trigger
    .ok (.stopLoss (.fixed trigger none))
  | none, some trailing => do
    let distance ← trailingDistance trailing "plan.stop_loss_trailing"
    .ok (.stopLoss (.trailing distance none none none))
  | _, _ => .error (validation "plan" "fixed and trailing stop-loss forms are mutually exclusive")

/-- The one leg of a plan. -/
def exactProtectionLeg (plan : ProtectionPlanDto) : Except ApiError ProtectionLeg := do
  let hasStop := plan.stopLossTriggerPrice.isSome || plan.stopLossTrailing.isSome
  let hasTakeProfit := plan.takeProfitTriggerPrice.isSome || plan.takeProfitLimitPrice.isSome
  Except.stopIf (hasStop = hasTakeProfit)
    (validation "plan" "exactly one protection leg must be submitted per durable mutation")
  if hasStop then exactStopLeg plan
  else do
    let trigger ← exactPrice? "plan.take_profit_trigger_price" plan.takeProfitTriggerPrice
    let limit ← exactPrice? "plan.take_profit_limit_price" plan.takeProfitLimitPrice
    .ok (.takeProfit ⟨trigger, limit, none⟩)

/-- **What a plan is read as**: a fixed stop-loss, a trailing one without activation, or a
take-profit. -/
lemma exactProtectionLeg_cases {plan : ProtectionPlanDto} {leg : ProtectionLeg}
    (h : exactProtectionLeg plan = .ok leg) :
    (∃ price value, plan.stopLossTriggerPrice = some price ∧ price.toFixedPoint = .ok value ∧
        plan.takeProfitTriggerPrice = none ∧ plan.takeProfitLimitPrice = none ∧
        leg = .stopLoss (.fixed value none)) ∨
      (∃ distance, plan.stopLossTriggerPrice = none ∧ plan.takeProfitTriggerPrice = none ∧
        leg = .stopLoss (.trailing distance none none none)) ∨
      ∃ trigger limit, plan.stopLossTriggerPrice = none ∧
        exactPrice? "plan.take_profit_trigger_price" plan.takeProfitTriggerPrice = .ok trigger ∧
        exactPrice? "plan.take_profit_limit_price" plan.takeProfitLimitPrice = .ok limit ∧
        leg = .takeProfit ⟨trigger, limit, none⟩ := by
  obtain ⟨trigger, trailing, take, limit⟩ := plan
  obtain ⟨_, hone, h⟩ := Except.seq_eq_ok.mp h
  rw [Except.stopIf_eq_ok] at hone
  -- a plan with a stop-loss has no take-profit
  have htake : (trigger.isSome || trailing.isSome) = true → take = none ∧ limit = none := by
    intro hstop
    rw [hstop, eq_comm, Bool.not_eq_true, Bool.or_eq_false_iff] at hone
    exact ⟨Option.not_isSome_iff_eq_none.mp (Bool.not_eq_true _ ▸ hone.1),
      Option.not_isSome_iff_eq_none.mp (Bool.not_eq_true _ ▸ hone.2)⟩
  rcases trigger with _ | trigger
  · rcases trailing with _ | trailing
    · obtain ⟨t, htrigger, h⟩ := Except.seq_eq_ok.mp h
      obtain ⟨l, hlimit, h⟩ := Except.seq_eq_ok.mp h
      exact .inr (.inr ⟨t, l, rfl, htrigger, hlimit, (Except.ok.inj h).symm⟩)
    · obtain ⟨distance, -, h⟩ := Except.seq_eq_ok.mp h
      exact .inr (.inl ⟨distance, rfl, (htake rfl).1, (Except.ok.inj h).symm⟩)
  · rcases trailing with _ | trailing
    · obtain ⟨value, hvalue, h⟩ := Except.seq_eq_ok.mp h
      exact .inl ⟨trigger, value, rfl, Except.mapError_eq_ok.mp hvalue, (htake rfl).1,
        (htake rfl).2, (Except.ok.inj h).symm⟩
    · cases h

/-- A leg with its reference price. -/
def protectionLeg (accountId : String) (request : SubmitProtectionRequest) (leg : ProtectionLeg)
    (referencePrice : I128) : ProtectionLegCommand where
  accountId := accountId
  instrumentId := request.instrumentId
  clientRequestId := request.clientRequestId
  quantityLots := request.quantityLots
  positionSide := request.positionSide
  priceConvention := request.priceConvention
  referencePrice := referencePrice
  expireAtUnixSeconds := none
  expireAtNanos := none
  confirmMarginTrade := request.confirmMarginTrade
  leg := leg

/-- The command of a protection leg. -/
def submitProtectionCommand (accountId : String) (request : SubmitProtectionRequest) :
    Except ApiError RuntimeExecutionCommand := do
  let leg ← exactProtectionLeg request.plan
  let referencePrice ← exactPrice "reference_price" request.referencePrice
  .ok (.protectionLeg (protectionLeg accountId request leg referencePrice))

/-! ## Receipts -/

/-- **The decision is `SUBMIT` only before anything is sent.** In every run of any number of
coordinators, calls and crashes: while the decision on the journal row of a request is to submit it,
nobody has sent it. -/
theorem submit_only_unsent {R : Interface} {side : RiskSide R} {scope : RuntimeScope}
    {port : RiskPort R} {c₀ c : (runtimeSystem side scope port).Config}
    (hthreads : c₀.threads = []) (hlog : c₀.state.log = [])
    (hreach : System.Reach (fun _ _ => True) c₀ c) {id : String} {state : JournalState}
    (hstate : c.state.db.journalState id = some state) (hsubmit : decisionFor state = .submit) :
    ¬ WasSent c.state.log id := by
  have hinit : FenceInv c₀.state fun _ => none := by
    refine ⟨hlog ▸ trivial, ?_, nofun, nofun⟩
    rintro id ⟨who, answer, hmem⟩
    rw [hlog] at hmem
    cases hmem
  obtain ⟨fenced, -, hinv⟩ :=
    (fenceInv_maintained port side scope).reach (.of_nil hthreads) hinit hreach
  intro hsent
  obtain ⟨sent, hsame, hne⟩ := hinv.sent id hsent
  cases hsame.symm.trans hstate
  cases state <;> first | exact hne rfl | cases hsubmit

/-- A call that has written its row and has not fenced it. -/
theorem journaled_request_is_unsent : ∃ c, readyConfig.run (oneDispatch.take 12) = some c ∧
    c.state.db.journalState "request-1" = some .notDispatched ∧
    ¬ WasSent c.state.log "request-1" := by
  obtain ⟨c, hc, hstate⟩ : ∃ c, readyConfig.run (oneDispatch.take 12) = some c ∧
      c.state.db.journalState "request-1" = some .notDispatched := by decide +kernel
  exact ⟨c, hc, hstate, submit_only_unsent rfl rfl (System.Config.reach_of_run hc) hstate rfl⟩

end VoxTrader.Core
