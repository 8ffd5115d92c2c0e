import VoxTrader.Core.OrderForms

/-!
# What the broker is asked for

A request of the public contract passes through three forms on its way to the broker: the command
of the runtime, the command with the approved quantity, and the request on the wire. This file
compares the two ends. Prices are compared by their exact value, sides by what the broker
understands of a direction.

A stop order states its side twice: the side of the order and the side of the position it protects.
The registry reads only the second, so a request whose two sides contradict each other is sent as an
order of the other side.

## Main definitions

* `SamePrice` — a price of a request and one on the wire have the same value.
* `SaysOrder`, `SaysReplacement`, `SaysStop`, `SaysProtection` — the broker is asked for what the
  request says.
* `StopSendable` — a stop order that can be sent.

## Main results

* `wire_says_request` — whatever reaches the wire says what the request says, with the approved
  quantity, and a stop order exactly if its two sides agree or it cannot be sent.
* `contradicting_stop_on_the_wire` — a request to buy that reaches the wire as a request to sell.
-/

namespace VoxTrader.Core

open Except (seq_eq_ok orStop_eq_ok map_eq_ok)
open VoxTrader.Runtime VoxTrader.Api VoxTrader.TInvest

/-! ## The meaning of a request on the wire -/

/-- The side the broker reads off the direction of an order. -/
def directionSide : OrderDirection → Option OrderSide
  | .unspecified => none
  | .buy => some .buy
  | .sell => some .sell

/-- The side the broker reads off the direction of a stop order. -/
def stopDirectionSide : StopOrderDirection → Option OrderSide
  | .unspecified => none
  | .buy => some .buy
  | .sell => some .sell

/-- The side of the order that closes a position. -/
def closingSide : PositionSide → OrderSide
  | .long => .sell
  | .short => .buy

/-- **The two prices have the same value**, or both are missing. -/
def SamePrice : Option Decimal → Option Quotation → Prop
  | none, none => True
  | some price, some wire => ∃ value, price.toFixedPoint = .ok value ∧ wire.fixedPoint = some value
  | _, _ => False

/-- The broker is asked for the order of the request, with so many lots. -/
structure SaysOrder (request : SubmitOrderRequest) (lots : ℕ) (wire : PostOrderRequest) : Prop where
  side : directionSide wire.direction = some request.side
  lots : wire.quantity.val = lots
  price : SamePrice request.price wire.price
  id : wire.orderId = request.clientRequestId

/-- The broker is asked for the replacement of the request, with so many lots. -/
structure SaysReplacement (request : Api.ReplaceOrderRequest) (lots : ℕ)
    (wire : TInvest.ReplaceOrderRequest) : Prop where
  lots : wire.quantity.val = lots
  price : SamePrice request.price wire.price
  id : wire.idempotencyKey = request.clientRequestId

/-- The broker is asked for the stop order of the request. -/
structure SaysStop (request : SubmitStopOrderRequest) (wire : PostStopOrderRequest) : Prop where
  side : stopDirectionSide wire.direction = some request.side
  closes : stopDirectionSide wire.direction = some (closingSide request.positionSide)
  lots : wire.quantity = request.quantityLots
  trigger : SamePrice (some request.triggerPrice) wire.stopPrice
  limit : SamePrice request.limitPrice wire.price
  trailing : wire.trailingData = none
  id : wire.orderId = request.clientRequestId

/-- The broker is asked for the protection of the request. -/
structure SaysProtection (request : SubmitProtectionRequest) (wire : PostStopOrderRequest) :
    Prop where
  closes : stopDirectionSide wire.direction = some (closingSide request.positionSide)
  lots : wire.quantity = request.quantityLots
  trigger : SamePrice (request.plan.stopLossTriggerPrice <|> request.plan.takeProfitTriggerPrice)
    wire.stopPrice
  limit : SamePrice request.plan.takeProfitLimitPrice wire.price
  trailing : wire.trailingData = none
  id : wire.orderId = request.clientRequestId

/-- **A stop order that can be sent**: the account, the instrument and the id are valid, the lots
are positive and so are the prices on the wire, and the reference price can be read. -/
structure StopSendable (accountId : String) (request : SubmitStopOrderRequest) : Prop where
  account : Text.isBlank accountId = false
  instrument : Text.isBlank request.instrumentId = false
  id : validateRequestId request.clientRequestId = .ok ()
  lots : 0 < request.quantityLots.val
  trigger : Positive request.triggerPrice
  limit : ∀ price ∈ request.limitPrice, Positive price
  reference : ∃ value, request.referencePrice.toFixedPoint = .ok value

/-- A command is approved with so many lots, and so reaches the wire. -/
def ReachesWire (command : RuntimeExecutionCommand) (delta : I64) (wire : WireRequest) : Prop :=
  ∃ approved, applyRiskApproval command delta = .ok approved ∧ wireRequest approved = .ok wire

/-! ## From the request to the wire -/

/-- **Reading a price and writing it on the wire keep its value.** -/
lemma samePrice_of_exact {field : String} {price : Option Decimal} {value : Option I128}
    {wire : Option Quotation} (hread : exactPrice? field price = .ok value)
    (hwire : quotation? value = .ok wire) : SamePrice price wire := by
  rcases price with _ | price
  · cases hread
    cases hwire
    trivial
  · obtain ⟨exact, hexact, rfl⟩ := map_eq_ok.mp hread
    obtain ⟨q, hq, rfl⟩ := map_eq_ok.mp hwire
    exact ⟨exact, Except.mapError_eq_ok.mp hexact, (quotation_fixedPoint hq).2⟩

/-- A direction is that of its side. -/
lemma directionSide_orderDirection (side : OrderSide) :
    directionSide (orderDirection side) = some side := by
  cases side <;> rfl

/-- A stop order has the side that closes the position. -/
lemma stopDirectionSide_stopOrderDirection (side : PositionSide) :
    stopDirectionSide (stopOrderDirection side) = some (closingSide side) := by
  cases side <;> rfl

variable {approved : RuntimeExecutionCommand}

/-- An approved order is the order with the approved lots. -/
lemma applyRiskApproval_regular {order : RegularOrderCommand} {delta : I64}
    (h : applyRiskApproval (.regularOrder order) delta = .ok approved) :
    ∃ lots : I64, lots.val = delta.val.natAbs ∧
      approved = .regularOrder { order with quantityLots := lots } := by
  obtain ⟨_, horder, rfl⟩ := map_eq_ok.mp h
  simp only [seq_eq_ok, orStop_eq_ok, FixedInt.checkedAbs_eq_some] at horder
  obtain ⟨-, -, lots, hlots, horder⟩ := horder
  exact ⟨lots, hlots, by rw [← Except.ok.inj horder]⟩

/-- An approved replacement is the replacement with the approved lots. -/
lemma applyRiskApproval_replace {order : ReplaceOrderCommand} {delta : I64}
    (h : applyRiskApproval (.replaceOrder order) delta = .ok approved) :
    ∃ lots : I64, lots.val = delta.val.natAbs ∧
      approved = .replaceOrder { order with quantityLots := lots } := by
  simp only [applyRiskApproval, seq_eq_ok, orStop_eq_ok, FixedInt.checkedAbs_eq_some] at h
  obtain ⟨lots, hlots, h⟩ := h
  exact ⟨lots, hlots, (Except.ok.inj h).symm⟩

/-- The approval of a stop order or a protection leg does not change it. -/
lemma applyRiskApproval_leg {command approved : RuntimeExecutionCommand}
    {leg : ProtectionLegCommand} {delta : I64}
    (hleg : command = .postStopOrder leg ∨ command = .protectionLeg leg)
    (h : applyRiskApproval command delta = .ok approved) : approved = command := by
  rcases hleg with rfl | rfl
  all_goals
    simp only [applyRiskApproval, seq_eq_ok] at h
    obtain ⟨-, -, h⟩ := h
    exact (Except.ok.inj h).symm

section

variable {accountId : String} {command approved : RuntimeExecutionCommand} {delta : I64}
  {wire : WireRequest} (happroved : applyRiskApproval command delta = .ok approved)
  (hwire : wireRequest approved = .ok wire)

include happroved hwire

/-- **An order on the wire is the order of the request.** -/
lemma order_says {request : SubmitOrderRequest}
    (hcommand : submitOrderCommand accountId request = .ok command) :
    ∃ post, wire = .postOrder post ∧ SaysOrder request delta.val.natAbs post := by
  simp only [submitOrderCommand, seq_eq_ok] at hcommand
  obtain ⟨-, -, price, hprice, h⟩ := hcommand
  cases h
  obtain ⟨lots, hlots, rfl⟩ := applyRiskApproval_regular happroved
  obtain ⟨post, hpost, rfl⟩ := map_eq_ok.mp hwire
  obtain ⟨hside, hquantity, hid, hquoted⟩ := regularOrderRequest_eq_ok hpost
  refine ⟨post, rfl, ?_, ?_, samePrice_of_exact hprice hquoted, hid⟩
  · rw [hside]
    exact directionSide_orderDirection request.side
  · rw [hquantity]
    exact hlots

/-- **A replacement on the wire is the replacement of the request.** -/
lemma replacement_says {request : Api.ReplaceOrderRequest}
    (hcommand : replaceOrderCommand accountId request = .ok command) :
    ∃ replace, wire = .replaceOrder replace ∧ SaysReplacement request delta.val.natAbs replace := by
  simp only [replaceOrderCommand, seq_eq_ok, orStop_eq_ok] at hcommand
  obtain ⟨target, -, price, hsome, value, hprice, h⟩ := hcommand
  cases h
  obtain ⟨lots, hlots, rfl⟩ := applyRiskApproval_replace happroved
  obtain ⟨replace, hreplace, rfl⟩ := map_eq_ok.mp hwire
  obtain ⟨hquantity, hid, quoted, hquoted, hreplaced⟩ := replaceOrderRequest_eq_ok hreplace
  refine ⟨replace, rfl, ?_, ?_, hid⟩
  · rw [hquantity]
    exact hlots
  · rw [hsome, hreplaced]
    exact ⟨value, Except.mapError_eq_ok.mp hprice, (quotation_fixedPoint hquoted).2⟩

/-- The stop order of a leg that the registry made, from its form. -/
lemma leg_says {leg : ProtectionLegCommand} (hseconds : leg.expireAtUnixSeconds = none)
    (hnanos : leg.expireAtNanos = none)
    (hcommand : command = .postStopOrder leg ∨ command = .protectionLeg leg) :
    ((legContext leg none).Sound ∧ validateRequestId leg.clientRequestId = .ok ()) ∧
      ∃ form, legForm leg = .ok form ∧ wire = .postStopOrder (stopOrderRequest (legContext leg none)
        leg.clientRequestId (.goodTillCancel, none) form) := by
  have hleg : ∃ post, protectionLegRequest leg = .ok post ∧ wire = .postStopOrder post := by
    rw [applyRiskApproval_leg hcommand happroved] at hwire
    rcases hcommand with rfl | rfl
    all_goals
      obtain ⟨post, hpost, rfl⟩ := map_eq_ok.mp hwire
      exact ⟨post, hpost, rfl⟩
  obtain ⟨post, hpost, rfl⟩ := hleg
  obtain ⟨hsound, form, hform, rfl⟩ := protectionLegRequest_eq_ok hseconds hnanos hpost
  exact ⟨hsound, form, hform, rfl⟩

/-- **A stop order on the wire is that of the request, when its two sides agree.** -/
lemma stop_says {request : SubmitStopOrderRequest}
    (hside : request.side = closingSide request.positionSide)
    (hcommand : submitStopOrderCommand accountId request = .ok command) :
    ∃ post, wire = .postStopOrder post ∧ SaysStop request post := by
  simp only [submitStopOrderCommand, seq_eq_ok] at hcommand
  obtain ⟨trigger, htrigger, limit, hlimit, reference, -, h⟩ := hcommand
  cases h
  obtain ⟨-, form, hform, rfl⟩ := leg_says happroved hwire rfl rfl (.inl rfl)
  simp only [legForm] at hform
  obtain ⟨hstop, hprice, htrailing⟩ := stopLossForm_prices hform
  have hexact : exactPrice? "trigger_price" (some request.triggerPrice) = .ok (some trigger) := by
    rw [exactPrice?, htrigger]
    rfl
  have hcloses := stopDirectionSide_stopOrderDirection request.positionSide
  exact ⟨_, rfl, hside ▸ hcloses, hcloses, rfl, samePrice_of_exact hexact hstop,
    samePrice_of_exact hlimit hprice, htrailing, rfl⟩

/-- **A stop order on the wire was one that can be sent.** -/
lemma sendable_of_wire {request : SubmitStopOrderRequest}
    (hcommand : submitStopOrderCommand accountId request = .ok command) :
    StopSendable accountId request := by
  simp only [submitStopOrderCommand, seq_eq_ok] at hcommand
  obtain ⟨trigger, htrigger, limit, hlimit, reference, hreference, h⟩ := hcommand
  cases h
  obtain ⟨⟨hsound, hid⟩, form, hform, rfl⟩ := leg_says happroved hwire rfl rfl (.inl rfl)
  simp only [legForm] at hform
  obtain ⟨hstop, hprice, -⟩ := stopLossForm_prices hform
  refine ⟨hsound.account, hsound.instrument, hid, hsound.lots, ?_, fun price hsome => ?_,
    reference, Except.mapError_eq_ok.mp hreference⟩
  · obtain ⟨_, hquoted, -⟩ := map_eq_ok.mp hstop
    exact ⟨trigger, Except.mapError_eq_ok.mp htrigger, (quotation_fixedPoint hquoted).1⟩
  · rw [Option.mem_def.mp hsome] at hlimit
    obtain ⟨value, hvalue, rfl⟩ := map_eq_ok.mp hlimit
    obtain ⟨_, hquoted, -⟩ := map_eq_ok.mp hprice
    exact ⟨value, Except.mapError_eq_ok.mp hvalue, (quotation_fixedPoint hquoted).1⟩

/-- **A protection leg on the wire is that of the request.** -/
lemma protection_says {request : SubmitProtectionRequest}
    (hcommand : submitProtectionCommand accountId request = .ok command) :
    ∃ post, wire = .postStopOrder post ∧ SaysProtection request post := by
  simp only [submitProtectionCommand, seq_eq_ok] at hcommand
  obtain ⟨leg, hleg, reference, -, h⟩ := hcommand
  cases h
  obtain ⟨-, form, hform, rfl⟩ := leg_says happroved hwire rfl rfl (.inr rfl)
  simp only [legForm, protectionLeg] at hform
  have hcloses := stopDirectionSide_stopOrderDirection request.positionSide
  rcases exactProtectionLeg_cases hleg with ⟨price, value, hplan, hvalue, htake, htakeLimit, rfl⟩ |
    ⟨distance, -, -, rfl⟩ | ⟨trigger, limit, hplan, htrigger, hlimit, rfl⟩
  · obtain ⟨hstop, hprice, htrailing⟩ := stopLossForm_prices hform
    have hexact : exactPrice? "plan.stop_loss_trigger_price" (some price) = .ok (some value) := by
      rw [exactPrice?, exactPrice, hvalue]
      rfl
    refine ⟨_, rfl, hcloses, rfl, ?_, ?_, htrailing, rfl⟩
    · rw [hplan]
      exact samePrice_of_exact hexact hstop
    · rw [htakeLimit]
      have hnone : exactPrice? "plan.take_profit_limit_price" none = .ok none := rfl
      exact samePrice_of_exact hnone hprice
  · exact (stopLossForm_trailing hform).elim
  · obtain ⟨-, hstop, hprice, htrailing⟩ := takeProfitForm_prices hform
    refine ⟨_, rfl, hcloses, rfl, ?_, samePrice_of_exact hlimit hprice, htrailing, rfl⟩
    rw [hplan]
    exact samePrice_of_exact htrigger hstop

end

/-- **A stop order that can be sent reaches the wire**, approved without lots. -/
lemma StopSendable.reachesWire {accountId : String} {request : SubmitStopOrderRequest}
    (h : StopSendable accountId request) : ∃ command wire,
      submitStopOrderCommand accountId request = .ok command ∧ ReachesWire command 0 wire := by
  obtain ⟨trigger, htrigger, hpos⟩ := h.trigger
  obtain ⟨reference, hreference⟩ := h.reference
  obtain ⟨limit, hlimit, -, hquotable⟩ := exactPrice?_positive "limit_price" h.limit
  let leg : ProtectionLegCommand :=
    ⟨accountId, request.instrumentId, request.clientRequestId, request.quantityLots,
      request.positionSide, request.priceConvention, reference, none, none,
      request.confirmMarginTrade, .stopLoss (.fixed trigger limit)⟩
  have hcommand : submitStopOrderCommand accountId request = .ok (.postStopOrder leg) := by
    simp only [submitStopOrderCommand, exactPrice, htrigger, hreference, hlimit]
    rfl
  obtain ⟨form, hform, hplain⟩ : ∃ form, legForm leg = .ok form ∧ form.Plain := by
    simp only [leg, legForm]
    exact stopLossForm_fixed (quotable_of_positive htrigger hpos) hquotable
  have hsound : (legContext leg none).Sound := ⟨h.account, h.instrument, h.lots, rfl⟩
  obtain ⟨post, hpost⟩ := protectionLegRequest_of_form rfl rfl hsound h.id hform hplain
  have hwire : wireRequest (.postStopOrder leg) = .ok (.postStopOrder post) := by
    rw [wireRequest, hpost]
    rfl
  exact ⟨_, _, hcommand, _, rfl, hwire⟩

/-- **What reaches the wire says what the request says**: the side, the approved lots, the exact
prices and the id of the client. Orders, replacements and protections always do; a stop order does
exactly if its two sides agree or it cannot be sent at all. -/
theorem wire_says_request (accountId : String) :
    (∀ request command delta wire, submitOrderCommand accountId request = .ok command →
        ReachesWire command delta wire →
        ∃ post, wire = .postOrder post ∧ SaysOrder request delta.val.natAbs post) ∧
      (∀ request command delta wire, replaceOrderCommand accountId request = .ok command →
        ReachesWire command delta wire → ∃ replace, wire = .replaceOrder replace ∧
          SaysReplacement request delta.val.natAbs replace) ∧
      (∀ request, (∀ command delta wire, submitStopOrderCommand accountId request = .ok command →
          ReachesWire command delta wire →
          ∃ post, wire = .postStopOrder post ∧ SaysStop request post) ↔
        request.side = closingSide request.positionSide ∨ ¬ StopSendable accountId request) ∧
      ∀ request command delta wire, submitProtectionCommand accountId request = .ok command →
        ReachesWire command delta wire →
        ∃ post, wire = .postStopOrder post ∧ SaysProtection request post := by
  refine ⟨?_, ?_, fun request => ⟨fun hsays => ?_, ?_⟩, ?_⟩
  · rintro request command delta wire hcommand ⟨approved, happroved, hwire⟩
    exact order_says happroved hwire hcommand
  · rintro request command delta wire hcommand ⟨approved, happroved, hwire⟩
    exact replacement_says happroved hwire hcommand
  · by_contra h
    rw [not_or, not_not] at h
    obtain ⟨command, wire, hcommand, hreaches⟩ := h.2.reachesWire
    obtain ⟨post, -, hpost⟩ := hsays command 0 wire hcommand hreaches
    exact h.1 (Option.some.inj (hpost.side.symm.trans hpost.closes))
  · rintro h command delta wire hcommand ⟨approved, happroved, hwire⟩
    rcases h with hside | hunsendable
    · exact stop_says happroved hwire hside hcommand
    · exact absurd (sendable_of_wire happroved hwire hcommand) hunsendable
  · rintro request command delta wire hcommand ⟨approved, happroved, hwire⟩
    exact protection_says happroved hwire hcommand

/-- A stop order for ten lots of a long position. -/
def stopTenLots (side : OrderSide) : SubmitStopOrderRequest :=
  ⟨"instrument-1", clientId, side, .long, .lit 10, hundredTen, hundredTen, none,
    .settlementCurrency, false⟩

/-- The request on the wire of a stop order that was approved. -/
def stopOnTheWire (request : SubmitStopOrderRequest) : Option WireRequest :=
  (submitStopOrderCommand "account-1" request).toOption.bind fun command =>
    (applyRiskApproval command (.lit 0)).toOption.bind fun approved =>
      (wireRequest approved).toOption

/-- The side of the stop order on the wire. -/
def stopSideOnTheWire (request : SubmitStopOrderRequest) : Option OrderSide := do
  match ← stopOnTheWire request with
  | .postStopOrder post => stopDirectionSide post.direction
  | _ => none

/-- **A stop order that buys, for a long position, reaches the wire and sells.** -/
theorem contradicting_stop_on_the_wire :
    (stopTenLots .buy).side ≠ closingSide (stopTenLots .buy).positionSide ∧
      stopSideOnTheWire (stopTenLots .buy) = some .sell := by
  decide +kernel

end VoxTrader.Core
