import VoxTrader.Core.Registry
import VoxTrader.TInvest.WireRequest

/-!
# Which requests reach the broker

The public contract accepts more than the broker's interface can carry. The command of an order
always says how long it stays in the book, which only a limit order may say; the command of a
trailing stop has no activation, and a take-profit may come without a trigger. Such a command is
admitted, journalled and fenced before the check of its request fails.

## Main definitions

* `Positive` — a price that can be read and is positive.
* `AcceptedOrder`, `AcceptedProtection` — the requests the contract is for.

## Main results

* `accepted_expressible` — the command of an accepted order has a request exactly when it is a limit
  order, that of an accepted protection exactly when it has a trigger price.
* `accepted_inexpressible` — a market order, a best-price order, a trailing stop and a take-profit
  with only a limit price that are accepted and have none.
-/

namespace VoxTrader.Core

open VoxTrader.Runtime VoxTrader.Api VoxTrader.TInvest

/-- A price that can be read and is positive. -/
def Positive (price : Decimal) : Prop := ∃ value, price.toFixedPoint = .ok value ∧ 0 < value.val

/-- A positive price is one the broker can be sent. -/
lemma quotable_of_positive {price : Decimal} {value : I128} (h : price.toFixedPoint = .ok value)
    (hpos : 0 < value.val) : Quotable value := by
  have hrange := parseNanos_range h
  simp only [nanoScale, maxUnits] at hrange
  refine ⟨hpos, ?_⟩
  omega

/-- An id of the client in one of the two usual forms of a UUID. -/
def UuidRequest (id : String) : Prop :=
  simpleUuid id.toList = true ∨ hyphenatedUuid id.toList = true

/-- **An order the contract accepts**: a limit order with a positive price, or a market or
best-price order without one. -/
structure AcceptedOrder (request : SubmitOrderRequest) : Prop where
  protection : request.protection = none
  instrument : Text.isBlank request.instrumentId = false
  id : UuidRequest request.clientRequestId
  lots : 0 < request.quantityLots.val
  limit : request.orderType = .limit → ∃ price, request.price = some price ∧ Positive price
  other : request.orderType ≠ .limit → request.price = none

/-- The prices and distances of a plan. -/
def planPrices (plan : ProtectionPlanDto) : List Decimal :=
  plan.stopLossTriggerPrice.toList ++ (plan.stopLossTrailing.map (·.value)).toList ++
    plan.takeProfitTriggerPrice.toList ++ plan.takeProfitLimitPrice.toList

/-- **A protection the contract accepts**: one leg, with positive prices and distances. -/
structure AcceptedProtection (request : SubmitProtectionRequest) : Prop where
  leg : ∃ leg, exactProtectionLeg request.plan = .ok leg
  instrument : Text.isBlank request.instrumentId = false
  id : UuidRequest request.clientRequestId
  lots : 0 < request.quantityLots.val
  reference : Positive request.referencePrice
  prices : ∀ price ∈ planPrices request.plan, Positive price

/-- The plan has a trigger price. -/
def triggered (plan : ProtectionPlanDto) : Prop :=
  plan.stopLossTriggerPrice.isSome = true ∨ plan.takeProfitTriggerPrice.isSome = true

/-- A positive price is read. -/
lemma exactPrice?_positive (field : String) {price : Option Decimal}
    (h : ∀ p ∈ price, Positive p) : ∃ value, exactPrice? field price = .ok value ∧
      value.isSome = price.isSome ∧ ∀ v ∈ value, Quotable v := by
  rcases price with _ | price
  · exact ⟨none, rfl, rfl, fun _ hv => by cases hv⟩
  · obtain ⟨value, hvalue, hpos⟩ := h price rfl
    refine ⟨some value, ?_, rfl, ?_⟩
    · rw [exactPrice?, exactPrice, hvalue]
      rfl
    · rintro _ ⟨⟩
      exact quotable_of_positive hvalue hpos

/-- **An accepted order has a request exactly when it is a limit order.** -/
lemma order_expressible {accountId : String} (haccount : Text.isBlank accountId = false)
    {request : SubmitOrderRequest} (h : AcceptedOrder request) :
    ∃ command, submitOrderCommand accountId request = .ok command ∧
      ((∃ wire, wireRequest command = .ok wire) ↔ request.orderType = .limit) := by
  have hpositive : ∀ p ∈ request.price, Positive p := by
    intro p hp
    by_cases hlimit : request.orderType = .limit
    · obtain ⟨price, hprice, hpositive⟩ := h.limit hlimit
      rw [hprice] at hp
      exact Option.some.inj hp ▸ hpositive
    · rw [h.other hlimit] at hp
      cases hp
  obtain ⟨price, hread, hsome, hquotable⟩ := exactPrice?_positive "price" hpositive
  refine ⟨.regularOrder (regularOrder accountId request price), ?_, ?_, fun hlimit => ?_⟩
  · rw [submitOrderCommand, h.protection, hread]
    rfl
  · rintro ⟨wire, hwire⟩
    obtain ⟨_, hrequest, -⟩ := Except.map_eq_ok.mp hwire
    exact regularOrderRequest_timeInForce rfl hrequest
  · obtain ⟨_, hprice, -⟩ := h.limit hlimit
    rw [hprice, Option.isSome_some] at hsome
    obtain ⟨value, rfl⟩ := Option.isSome_iff_exists.mp hsome
    obtain ⟨wire, hwire⟩ := regularOrderRequest_limit
      (show Text.isBlank (regularOrder accountId request (some value)).accountId = false
        from haccount)
      h.instrument (validateRequestId_of_uuid h.id) h.lots hlimit rfl (hquotable value rfl)
    exact ⟨.postOrder wire, by rw [wireRequest, hwire]; rfl⟩

/-- A leg has a plain form when the plan has a trigger price, and no form otherwise. -/
lemma legForm_triggered {plan : ProtectionPlanDto} {command : ProtectionLegCommand}
    (h : exactProtectionLeg plan = .ok command.leg)
    (hprices : ∀ price ∈ planPrices plan, Positive price) :
    (triggered plan → ∃ form, legForm command = .ok form ∧ form.Plain) ∧
      ((∃ form, legForm command = .ok form) → triggered plan) := by
  have hread : ∀ {field : String} {price : Option Decimal} {value : Option I128},
      (∀ p ∈ price.toList, p ∈ planPrices plan) → exactPrice? field price = .ok value →
      value.isSome = price.isSome ∧ ∀ v ∈ value, Quotable v := by
    intro field price value hsub hvalue
    obtain ⟨value', hvalue', hrest⟩ := exactPrice?_positive field fun p hp =>
      hprices p (hsub p (Option.mem_toList.mpr hp))
    rw [hvalue] at hvalue'
    exact Except.ok.inj hvalue' ▸ hrest
  rcases exactProtectionLeg_cases h with ⟨price, value, hplan, hvalue, -, -, hleg⟩ |
    ⟨distance, htrigger, htake, hleg⟩ | ⟨trigger, limit, htrigger, htake, hlimit, hleg⟩
  · refine ⟨fun _ => ?_, fun _ => .inl (by rw [hplan]; rfl)⟩
    obtain ⟨value', hvalue', hpos⟩ := hprices price (by simp [planPrices, hplan])
    cases hvalue.symm.trans hvalue'
    simp only [legForm, hleg]
    exact stopLossForm_fixed (quotable_of_positive hvalue hpos) fun v hv => by cases hv
  · constructor
    · rintro (hsome | hsome)
      · rw [htrigger] at hsome
        cases hsome
      · rw [htake] at hsome
        cases hsome
    · -- without activation the form of a trailing stop fails
      rintro ⟨form, hform⟩
      simp only [legForm, hleg] at hform
      exact (stopLossForm_trailing hform).elim
  · obtain ⟨htaken, htakeQuotable⟩ := hread
      (fun p hp => List.mem_append_left _ (List.mem_append_right _ hp)) htake
    obtain ⟨-, hlimitQuotable⟩ := hread (fun p hp => List.mem_append_right _ hp) hlimit
    have htriggered : triggered plan ↔ trigger.isSome = true := by
      rw [triggered, htrigger, htaken]
      simp
    rw [htriggered]
    simp only [legForm, hleg]
    rcases trigger with _ | trigger
    · refine ⟨fun hsome => absurd hsome (by decide), ?_⟩
      rintro ⟨form, hform⟩
      exact (takeProfitForm_prices hform).1
    · exact ⟨fun _ => takeProfitForm_trigger (htakeQuotable trigger rfl) hlimitQuotable,
        fun _ => rfl⟩

/-- **An accepted protection has a request exactly when it has a trigger price.** -/
lemma protection_expressible {accountId : String}
    (haccount : Text.isBlank accountId = false) {request : SubmitProtectionRequest}
    (h : AcceptedProtection request) :
    ∃ command, submitProtectionCommand accountId request = .ok command ∧
      ((∃ wire, wireRequest command = .ok wire) ↔ triggered request.plan) := by
  obtain ⟨leg, hleg⟩ := h.leg
  obtain ⟨reference, hreference, -⟩ := h.reference
  have hexact : exactPrice "reference_price" request.referencePrice = .ok reference := by
    rw [exactPrice, hreference]
    rfl
  have hcontext : (legContext (protectionLeg accountId request leg reference) none).Sound :=
    ⟨haccount, h.instrument, h.lots, rfl⟩
  have hcommand : exactProtectionLeg request.plan =
      .ok (protectionLeg accountId request leg reference).leg := hleg
  obtain ⟨hplain, hnone⟩ := legForm_triggered hcommand h.prices
  refine ⟨.protectionLeg (protectionLeg accountId request leg reference), ?_, ?_,
    fun htriggered => ?_⟩
  · rw [submitProtectionCommand, hleg, hexact]
    rfl
  · rintro ⟨wire, hwire⟩
    obtain ⟨_, hrequest, -⟩ := Except.map_eq_ok.mp hwire
    obtain ⟨-, form, hform, -⟩ := protectionLegRequest_eq_ok rfl rfl hrequest
    exact hnone ⟨form, hform⟩
  · obtain ⟨form, hform, hformPlain⟩ := hplain htriggered
    obtain ⟨wire, hwire⟩ := protectionLegRequest_of_form rfl rfl hcontext
      (validateRequestId_of_uuid h.id) hform hformPlain
    exact ⟨.postStopOrder wire, by rw [wireRequest, hwire]; rfl⟩

/-- **The command of an accepted order has a request exactly when it is a limit order, that of an
accepted protection exactly when it has a trigger price.** -/
theorem accepted_expressible {accountId : String} (haccount : Text.isBlank accountId = false) :
    (∀ request, AcceptedOrder request → ∃ command,
      submitOrderCommand accountId request = .ok command ∧
        ((∃ wire, wireRequest command = .ok wire) ↔ request.orderType = .limit)) ∧
      ∀ request, AcceptedProtection request → ∃ command,
        submitProtectionCommand accountId request = .ok command ∧
          ((∃ wire, wireRequest command = .ok wire) ↔ triggered request.plan) :=
  ⟨fun _ h => order_expressible haccount h, fun _ h => protection_expressible haccount h⟩

/-- An id of the client. -/
def clientId : String := "b4f1c2a0-6d18-4f0e-9a37-2d5c1f0b7e44"

/-- Ten lots, of a type and with a price. -/
def tenLots (orderType : RegularOrderType) (price : Option Decimal) : SubmitOrderRequest :=
  ⟨"instrument-1", clientId, .buy, orderType, .lit 10, price, .settlementCurrency,
    .day, false, none⟩

/-- A price of a hundred and ten. -/
def hundredTen : Decimal := ⟨"110.000000000"⟩

/-- Protection of ten lots. -/
def protectTenLots (plan : ProtectionPlanDto) : SubmitProtectionRequest :=
  ⟨"instrument-1", clientId, .lit 10, .long, hundredTen, .settlementCurrency, false, plan⟩

/-- The check that stops the request of a command. -/
def stoppedBy (command : Except ApiError RuntimeExecutionCommand) :
    Option ExecutionValidationError :=
  match command with
  | .ok command =>
    match wireRequest command with
    | .ok _ => none
    | .error error => some error
  | .error _ => none

lemma hundredTen_positive : Positive hundredTen :=
  ⟨.lit 110000000000, by decide +kernel, by decide⟩

lemma clientId_uuid : UuidRequest clientId := .inr (by decide +kernel)

lemma instrument_nonblank : Text.isBlank "instrument-1" = false := by decide

lemma ten_pos : 0 < (FixedInt.lit 10 : I64).val := by decide

lemma tenLots_accepted {orderType : RegularOrderType} (h : orderType ≠ .limit) :
    AcceptedOrder (tenLots orderType none) :=
  ⟨rfl, instrument_nonblank, clientId_uuid, ten_pos, fun hlimit => absurd hlimit h, fun _ => rfl⟩

lemma protectTenLots_accepted {plan : ProtectionPlanDto}
    (hleg : ∃ leg, exactProtectionLeg plan = .ok leg)
    (hprices : ∀ price ∈ planPrices plan, price = hundredTen) :
    AcceptedProtection (protectTenLots plan) :=
  ⟨hleg, instrument_nonblank, clientId_uuid, ten_pos, hundredTen_positive,
    fun price hprice => hprices price hprice ▸ hundredTen_positive⟩

/-- **Accepted requests without a request to the broker**: a market order, a best-price order, a
trailing stop and a take-profit with only a limit price. -/
theorem accepted_inexpressible :
    (∀ orderType ∈ [RegularOrderType.market, .bestPrice], AcceptedOrder (tenLots orderType none) ∧
      stoppedBy (submitOrderCommand "account-1" (tenLots orderType none)) =
        some .timeInForceRequiresLimit) ∧
      (AcceptedProtection (protectTenLots ⟨none, some ⟨hundredTen, .absolutePrice⟩, none, none⟩) ∧
        stoppedBy (submitProtectionCommand "account-1"
          (protectTenLots ⟨none, some ⟨hundredTen, .absolutePrice⟩, none, none⟩)) =
          some .trailingActivationRequired) ∧
      AcceptedProtection (protectTenLots ⟨none, none, none, some hundredTen⟩) ∧
      stoppedBy (submitProtectionCommand "account-1"
        (protectTenLots ⟨none, none, none, some hundredTen⟩)) = some .missingTakeProfitTrigger := by
  refine ⟨?_, ⟨protectTenLots_accepted ?_ ?_, by decide +kernel⟩, protectTenLots_accepted ?_ ?_,
    by decide +kernel⟩
  · intro orderType hmem
    rcases List.mem_pair.mp hmem with rfl | rfl
    all_goals exact ⟨tenLots_accepted (by decide), by decide +kernel⟩
  · exact ⟨.stopLoss (.trailing ⟨.lit 110000000000, .absolutePrice⟩ none none none),
      by decide +kernel⟩
  · exact fun price hprice => List.mem_singleton.mp hprice
  · exact ⟨.takeProfit ⟨none, some (.lit 110000000000), none⟩, by decide +kernel⟩
  · exact fun price hprice => List.mem_singleton.mp hprice

/-- A limit order and a fixed stop that have requests. -/
theorem limit_order_expressible :
    (∃ command wire,
      submitOrderCommand "account-1" (tenLots .limit (some hundredTen)) = .ok command ∧
        wireRequest command = .ok wire) ∧
      ∃ command wire, submitProtectionCommand "account-1"
        (protectTenLots ⟨some hundredTen, none, none, none⟩) = .ok command ∧
          wireRequest command = .ok wire := by
  have haccount : Text.isBlank "account-1" = false := by decide
  have horder : AcceptedOrder (tenLots .limit (some hundredTen)) :=
    ⟨rfl, instrument_nonblank, clientId_uuid, ten_pos,
      fun _ => ⟨hundredTen, rfl, hundredTen_positive⟩, fun h => absurd rfl h⟩
  have hprotection : AcceptedProtection (protectTenLots ⟨some hundredTen, none, none, none⟩) :=
    protectTenLots_accepted ⟨.stopLoss (.fixed (.lit 110000000000) none), by decide +kernel⟩
      fun price hprice => List.mem_singleton.mp hprice
  obtain ⟨command, hcommand, hwire⟩ := (accepted_expressible haccount).1 _ horder
  obtain ⟨command', hcommand', hwire'⟩ := (accepted_expressible haccount).2 _ hprotection
  obtain ⟨wire, hwire⟩ := hwire.mpr rfl
  obtain ⟨wire', hwire'⟩ := hwire'.mpr (.inl rfl)
  exact ⟨⟨command, wire, hcommand, hwire⟩, command', wire', hcommand', hwire'⟩

end VoxTrader.Core
