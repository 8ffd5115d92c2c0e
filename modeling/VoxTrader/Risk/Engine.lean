import VoxTrader.Lib.Check
import VoxTrader.Risk.Model

/-!
# The risk engine

`evaluate` decides one request under one policy. It is a long sequence of ordered checks: the
shape of the request, the revisions, the runtime, the risk state, and, for orders that add
exposure, market data, protection, margin, losses and limits; an order that passes is then cut
down to the largest quantity the policy and the broker allow.

Each check either passes or stops the evaluation, with a refusal (a decision that approves
nothing) or with an engine error. The evaluation is therefore written in `Except Stop`, one named
check per step of the source and in the source's order, and `evaluate` turns the result into a
decision. A refusal carries one of the three refusing outcomes only, so no refusal can read as an
approval.

## Main definitions

* `Stop` — why an evaluation stops early.
* `increasingPortion` — the part of an order that adds exposure.
* `validateMarketData`, `validateProtection`, `providerLimit` — the source's own helpers.
* `review` — the whole sequence of checks; `evaluate` — the decision.

## Main results

* `evaluate_permits` — a decision that permits dispatch comes from a review that passed.
* `review_eq_ok` — what a passed review has checked.
-/

namespace VoxTrader.Risk

/-- The engine's own errors. -/
inductive RiskEngineError
  | arithmeticOverflow
  | invalidPolicy (field : String)
  | invalidProviderFact (fact : String)
deriving DecidableEq

/-- The outcomes that approve nothing. -/
inductive Refusal
  | reject
  | reduceOnly
  | halt
deriving DecidableEq

/-- The refusal as an outcome of the decision. -/
def Refusal.outcome : Refusal → RiskOutcome
  | .reject => .reject
  | .reduceOnly => .reduceOnly
  | .halt => .halt

/-- Why an evaluation stops before the end. -/
inductive Stop
  | refused (refusal : Refusal) (reason : RiskReason)
  | failed (error : RiskEngineError)

/-- A step of the evaluation. -/
abbrev Check := Except Stop

/-- Refuse the request when `c` holds. -/
def refuseIf (c : Prop) [Decidable c] (refusal : Refusal) (code : RiskReasonCode)
    (message : String) : Check Unit :=
  Except.stopIf c (.refused refusal ⟨code, message⟩)

/-- The value of an input, or a refusal for want of it. -/
def required {α : Type} (x : Option α) (code : RiskReasonCode) (message : String) : Check α :=
  Except.orStop x (.refused .reject ⟨code, message⟩)

/-- The result of checked arithmetic, or the overflow error. -/
def checked {α : Type} (x : Option α) : Check α :=
  Except.orStop x (.failed .arithmeticOverflow)

/-- Report an invalid policy when `c` holds. -/
def invalidPolicyIf (c : Prop) [Decidable c] (field : String) : Check Unit :=
  Except.stopIf c (.failed (.invalidPolicy field))

/-- A check made only when the limit is set. -/
def whenSet {w : ℕ} (limit : Option (FixedInt w)) (check : FixedInt w → Check Unit) : Check Unit :=
  match limit with
  | none => .ok ()
  | some m => check m

section Passing

variable {α : Type} {c : Prop} [Decidable c]

variable {code : RiskReasonCode} {message : String} {u : Unit} {x : Option α} {a : α}

/-- The request is not refused iff the condition fails. -/
@[simp] lemma refuseIf_eq_ok {refusal : Refusal} : refuseIf c refusal code message = .ok u ↔ ¬ c :=
  Except.stopIf_eq_ok

/-- A required input passes iff it is there. -/
@[simp] lemma required_eq_ok : required x code message = .ok a ↔ x = some a :=
  Except.orStop_eq_ok

/-- Checked arithmetic passes iff it does not overflow. -/
@[simp] lemma checked_eq_ok : checked x = .ok a ↔ x = some a :=
  Except.orStop_eq_ok

/-- The policy is valid iff the condition fails. -/
@[simp] lemma invalidPolicyIf_eq_ok {field : String} : invalidPolicyIf c field = .ok u ↔ ¬ c :=
  Except.stopIf_eq_ok

/-- A check made only when the limit is set passes iff it passes for the limit that is. -/
@[simp] lemma whenSet_eq_ok {w : ℕ} {limit : Option (FixedInt w)}
    {check : FixedInt w → Check Unit} :
    whenSet limit check = .ok () ↔ ∀ m ∈ limit, check m = .ok () := by
  rcases limit with _ | m <;> simp [whenSet]

end Passing

/-! ## Checks every request passes -/

variable (policy : RiskPolicySet) (request : RiskRequest)

/-- A directional request moves some lots, any other moves none. -/
def checkQuantity : Check Unit := do
  refuseIf (request.action.directional ∧ request.requestedDeltaLots = 0) .reject .invalidQuantity
    "directional risk request quantity must be non-zero"
  refuseIf (¬ request.action.directional ∧ request.requestedDeltaLots ≠ 0) .reject .invalidQuantity
    "non-directional risk action must not carry directional exposure"

/-- The instrument has a lot contract and is tradable. -/
def checkInstrument : Check Unit := do
  refuseIf (request.action.directional ∧ request.snapshot.instrumentLotSize.val ≤ 0)
    .reject .instrumentUnavailable "instrument lot contract is unavailable"
  refuseIf (request.action.directional ∧ ¬ request.snapshot.instrumentTradable)
    .reject .instrumentNotTradable "broker instrument constraints forbid this order"

/-- The facts were taken under the policy's own revision. -/
def checkPolicyRevision : Check Unit :=
  refuseIf (request.snapshot.validity.policyRevision ≠ policy.revision)
    .reject .policyRevisionChanged "risk policy revision changed before evaluation"

/-- The runtime is ready and authorized, and no mutation of unknown outcome is in the way. -/
def checkRuntime : Check Unit := do
  refuseIf (¬ request.snapshot.runtimeReady ∧ ¬ request.action.cleanup)
    .halt .runtimeNotReady "runtime is not READY"
  refuseIf (¬ request.snapshot.executionAuthorized)
    .reject .executionUnauthorized "Vox execution authorization is disabled"
  refuseIf (request.snapshot.unresolvedUnknownConflict ∧ ¬ request.action.cleanup)
    .halt .unknownMutationConflict "conflicting UNKNOWN_AFTER_DISPATCH mutation exists"

/-! ## Exposure -/

/-- The position the request starts from: position, open orders, unknown mutations and
reservations, added in that order. -/
def basePosition (snapshot : RiskSnapshot) : Check I64 :=
  checked <| (snapshot.currentPositionLots.checkedAdd snapshot.openOrderDeltaLots)
    |>.bind (·.checkedAdd snapshot.unresolvedUnknownDeltaLots)
    |>.bind (·.checkedAdd snapshot.activeReservationDeltaLots)

/-- The lots by which `delta` adds exposure to `base`: all of it from flat or in the same
direction, and the part beyond zero against it. For a partial reduction the difference is
negative, and is returned as it is. -/
def increasingPortion (base delta : I64) : Check I64 :=
  if delta = 0 then .ok 0
  else if base = 0 ∨ base.signum = delta.signum then checked delta.checkedAbs
  else do
    let baseAbs ← checked base.checkedAbs
    let deltaAbs ← checked delta.checkedAbs
    .ok (deltaAbs.saturatingSub baseAbs)

/-- What the risk state lets through: under the kill-switch and when halted only an emergency
reduction that adds nothing or a clean-up, in reduce-only nothing that adds exposure. -/
def checkState (increasing : I64) : Check Unit :=
  let held := ¬ (request.emergencyReduction ∧ increasing = 0) ∧ ¬ request.action.cleanup
  match policy.state with
  | .killSwitch => refuseIf held .halt .killSwitchActive "global kill-switch is active"
  | .halted => refuseIf held .halt .halted "risk state is HALTED"
  | .reduceOnly =>
    refuseIf (0 < increasing.val) .reduceOnly .reduceOnly "risk state permits reductions only"
  | .normal | .warning => .ok ()

/-! ## Checks of new exposure -/

/-- New exposure needs market data no older than the policy allows. -/
def validateMarketData : Check Unit :=
  whenSet policy.maxMarketDataAgeMs fun maxAge => do
    invalidPolicyIf (maxAge.val < 0) "max_market_data_age_ms cannot be negative"
    let asOf ← required request.snapshot.validity.marketDataAsOfUnixMs .marketDataMissing
      "price-dependent new exposure has no market-data watermark"
    refuseIf (maxAge.val < (request.nowUnixMs.saturatingSub asOf).val) .reject .marketDataStale
      "price-dependent new exposure uses stale market data"

/-- The cap on how long a position may stay without full protection. -/
def validateUnprotectedDuration : Check Unit :=
  whenSet policy.maxUnprotectedDurationMs fun maxDuration => do
    invalidPolicyIf (maxDuration.val < 0) "max_unprotected_duration_ms cannot be negative"
    let enteredAt ← Except.orStop request.snapshot.protection.positionEnteredAtUnixMs
      (.failed (.invalidPolicy "max_unprotected_duration_ms requires a position entry watermark"))
    refuseIf (0 < request.snapshot.protection.uncoveredAbsLots.val ∧
        maxDuration.val < (request.nowUnixMs.saturatingSub enteredAt).val)
      .reduceOnly .protectionRequired
      "position has been without full protection beyond the configured maximum"

/-- New exposure needs protection where the policy asks for it: a plan that permits more
exposure, or full stop coverage. -/
def validateProtection : Check Unit :=
  if policy.protectionRequiredForNewExposure then do
    validateUnprotectedDuration policy request
    refuseIf (¬ request.snapshot.protection.planState.any (·.permitsAdditionalExposure) ∧
        ¬ request.snapshot.protection.fullCoverage)
      .reject .protectionRequired "new exposure requires full protection coverage"
  else .ok ()

/-- A margin trade needs a policy that allows margin. -/
def checkMarginAllowed : Check Unit :=
  refuseIf (request.confirmMarginTrade ∧ ¬ policy.allowMargin) .reject .marginNotAllowed
    "margin execution is disabled by Vox risk policy"

/-- New exposure keeps the broker's corrected margin within the configured utilization. -/
def checkMarginUtilization (increasing : I64) : Check Unit :=
  whenSet policy.maxMarginUtilizationPpm fun maxUtilizationPpm =>
    if 0 < increasing.val then do
      invalidPolicyIf (maxUtilizationPpm.val ≤ 0) "max_margin_utilization_ppm must be positive"
      let margin ← required request.snapshot.margin .criticalInputMissing
        "broker margin facts are required by policy but unavailable"
      refuseIf (margin.liquidPortfolioNanos.val ≤ 0 ∨ margin.correctedMarginNanos.val < 0)
        .reject .criticalInputMissing "broker margin facts cannot form a valid utilization ratio"
      let utilizationPpm ← checked <| (margin.correctedMarginNanos.checkedMul 1000000).bind
        (·.checkedDiv margin.liquidPortfolioNanos)
      refuseIf (maxUtilizationPpm.val < utilizationPpm.val) .reject .marginUtilizationExceeded
        "broker corrected-margin utilization exceeds policy"
    else .ok ()

/-- A limit that has to be positive. -/
def positiveLimit (value : I128) (field : String) : Check I128 := do
  invalidPolicyIf (value.val ≤ 0) field
  .ok value

/-- New exposure stops once the day's loss passes the configured limit. -/
def checkDailyLoss (increasing : I64) : Check Unit :=
  whenSet policy.maxDailyLossNanos fun maxLoss =>
    if 0 < increasing.val then do
      let dayPnl ← required request.snapshot.brokerDailyPnlNanos .criticalInputMissing
        "broker day P&L is required by policy but unavailable"
      let limit ← positiveLimit maxLoss "max_daily_loss_nanos"
      refuseIf (dayPnl.val < -limit.val) .reduceOnly .dailyLossExceeded
        "broker day P&L breached the configured loss limit"
    else .ok ()

/-- New exposure keeps the projected position within the configured one. Only the magnitude of
the limit counts. -/
def checkMaxPosition (projected increasing : I64) : Check Unit :=
  whenSet policy.maxPositionAbsLots fun maxPosition =>
    refuseIf (maxPosition.unsignedAbs < projected.unsignedAbs ∧ 0 < increasing.val)
      .reject .maxPositionExceeded "projected position exceeds the configured position limit"

/-- The common form of the notional limits: the exposure must be known, `project` adds the
request to it, and the result must not pass the limit. -/
def checkExposure (limit : Option I128) (field : String) (exposure : Option I128)
    (missing : String) (project : I128 → Check I128) (code : RiskReasonCode) (message : String)
    (increasing : I64) : Check Unit :=
  whenSet limit fun maxExposure =>
    if 0 < increasing.val then do
      let current ← required exposure .criticalInputMissing missing
      let projected ← project current
      let bound ← positiveLimit maxExposure field
      refuseIf (bound.val < projected.val) .reject code message
    else .ok ()

/-- Gross exposure grows by the magnitude of the order. -/
def checkGrossExposure (increasing : I64) : Check Unit :=
  checkExposure policy.maxGrossExposureNanos "max_gross_exposure_nanos"
    request.snapshot.grossExposureNanos "gross exposure is required by policy but unavailable"
    (fun gross => do
      let notional ← checked request.requestedNotionalNanos.checkedAbs
      checked (gross.checkedAdd notional))
    .maxGrossExposureExceeded "projected gross exposure exceeds policy" increasing

/-- A signed exposure moves by the signed order, and its magnitude is limited. -/
def projectSigned (exposure : I128) : Check I128 := do
  let projected ← checked (exposure.checkedAdd request.requestedNotionalNanos)
  checked projected.checkedAbs

/-- The limit on net exposure. -/
def checkNetExposure (increasing : I64) : Check Unit :=
  checkExposure policy.maxNetExposureAbsNanos "max_net_exposure_abs_nanos"
    request.snapshot.netExposureNanos "net exposure is required by policy but unavailable"
    (projectSigned request) .maxNetExposureExceeded "projected net exposure exceeds policy"
    increasing

/-- The limit on the exposure in the instrument. -/
def checkInstrumentExposure (increasing : I64) : Check Unit :=
  checkExposure policy.maxInstrumentExposureNanos "max_instrument_exposure_nanos"
    request.snapshot.instrumentExposureNanos
    "instrument exposure is required by policy but unavailable"
    (projectSigned request) .maxInstrumentExposureExceeded
    "projected instrument exposure exceeds policy" increasing

/-! ## Quantity -/

/-- A broker limit that must not be negative. -/
def selectedLimit (value : I64) (fact : String) : Check I64 := do
  Except.stopIf (value.val < 0) (.failed (.invalidProviderFact fact))
  .ok value

/-- The buy limit that applies to a market or a limit order. -/
def selectedBuyLimit (limit : BuyLotLimit) (market : Bool) : Check I64 :=
  selectedLimit (if market then limit.maxMarketLots else limit.maxLots)
    "broker buy max-lots value cannot be negative"

/-- The sell limit. -/
def selectedSellLimit (limit : SellLotLimit) : Check I64 :=
  selectedLimit limit.maxLots "broker sell max-lots value cannot be negative"

/-- A step made on the value of an option, if there is one. -/
def transpose {α β : Type} (f : α → Check β) : Option α → Check (Option β)
  | none => .ok none
  | some a => do
    let b ← f a
    .ok (some b)

/-- The broker's lot limit for the side, margin and type of the order, if it is known and
applicable. -/
def providerLimit : Check (Option I64) :=
  match request.snapshot.brokerLotLimits with
  | none => .ok none
  | some limits =>
    if request.confirmMarginTrade ∧ ¬ policy.allowMargin then .ok none
    else if 0 < request.requestedDeltaLots.val then
      transpose (selectedBuyLimit · request.isMarketOrder)
        (if request.confirmMarginTrade then limits.buyMargin else limits.buyOwn)
    else
      transpose selectedSellLimit
        (if request.confirmMarginTrade then limits.sellMargin else limits.sellOwn)

/-- A quantity on its way through the size limits, and why it was cut last. -/
structure Sizing where
  /-- The lots still allowed. -/
  approvedAbs : I64
  /-- Why the quantity is smaller than requested, if it is. -/
  resizeReason : Option RiskReason

/-- Cut the quantity to the configured largest single order. -/
def limitSingleOrder (requestedAbs : I64) : Check Sizing :=
  match policy.maxSingleOrderLots with
  | none => .ok ⟨requestedAbs, none⟩
  | some maxOrder => do
    invalidPolicyIf (maxOrder.val ≤ 0) "max_single_order_lots must be positive"
    if maxOrder.val < requestedAbs.val then
      .ok ⟨maxOrder, some ⟨.resizedToPolicyLimit,
        "quantity resized to configured max single-order limit"⟩⟩
    else .ok ⟨requestedAbs, none⟩

/-- Cut the quantity to the broker's limit; without one, new exposure is refused when the policy
insists on it. -/
def limitProvider (limit : Option I64) (increasing : I64) (sizing : Sizing) : Check Sizing :=
  match limit with
  | some limit =>
    if limit.val < sizing.approvedAbs.val then
      .ok ⟨limit, some ⟨.resizedToProviderLimit,
        "quantity resized to the applicable broker max-lots constraint"⟩⟩
    else .ok sizing
  | none => do
    refuseIf (policy.requireProviderLotLimit ∧ 0 < increasing.val) .reject
      .providerLimitUnavailable "applicable broker max-lots constraint is unavailable"
    .ok sizing

/-- What a passed review grants. -/
structure Grant where
  requestedDeltaLots : I64
  approvedDeltaLots : I64
  resized : Bool
  reason : RiskReason

/-- The grant of a clean-up action, which moves no lots. -/
def cleanupGrant : Grant :=
  ⟨0, 0, false, ⟨.approved, "non-directional capital maintenance action passed the risk boundary"⟩⟩

/-- Turn the allowed quantity into the signed grant, which is a resize exactly when the quantity
differs from the requested one. -/
def grantOf (sizing : Sizing) : Check Grant := do
  refuseIf (sizing.approvedAbs = 0) .reject .providerLimitExceeded
    "broker/policy constraints leave zero executable quantity"
  let approved ← checked (sizing.approvedAbs.checkedMul request.requestedDeltaLots.signum)
  if approved = request.requestedDeltaLots then
    .ok ⟨request.requestedDeltaLots, approved, false,
      ⟨.approved, "request satisfies current risk policy and provider constraints"⟩⟩
  else do
    let reason ← checked sizing.resizeReason
    .ok ⟨request.requestedDeltaLots, approved, true, reason⟩

/-- The quantity the order may have. -/
def resizeOrder (increasing : I64) : Check Grant := do
  let requestedAbs ← checked request.requestedDeltaLots.checkedAbs
  let sizing ← limitSingleOrder policy requestedAbs
  let limit ← providerLimit policy request
  let sizing ← limitProvider policy limit increasing sizing
  grantOf request sizing

/-! ## The decision -/

/-- The checks that only an order that adds exposure has to pass before margin is looked at. -/
def checkNewExposure (increasing : I64) : Check Unit :=
  if 0 < increasing.val then do
    validateMarketData policy request
    validateProtection policy request
  else .ok ()

/-- The checks of a directional order, after the risk state. -/
def checkLimits (projected increasing : I64) : Check Unit := do
  checkNewExposure policy request increasing
  checkMarginAllowed policy request
  checkMarginUtilization policy request increasing
  checkDailyLoss policy request increasing
  checkMaxPosition policy projected increasing
  checkGrossExposure policy request increasing
  checkNetExposure policy request increasing
  checkInstrumentExposure policy request increasing

/-- The whole sequence of checks. -/
def review : Check Grant := do
  checkQuantity request
  checkInstrument request
  checkPolicyRevision policy request
  checkRuntime request
  let base ← basePosition request.snapshot
  let projected ← checked (base.checkedAdd request.requestedDeltaLots)
  let increasing ← increasingPortion base request.requestedDeltaLots
  checkState policy request increasing
  if request.action.directional then do
    checkLimits policy request projected increasing
    resizeOrder policy request increasing
  else .ok cleanupGrant

/-- The decision that approves nothing. -/
def reject (decisionId : String) (policy : RiskPolicySet) (request : RiskRequest)
    (refusal : Refusal) (reason : RiskReason) : RiskDecision where
  decisionId := decisionId
  requestId := request.requestId
  policyRevision := policy.revision
  accountId := request.accountId
  action := request.action
  requestedDeltaLots := request.requestedDeltaLots
  approvedDeltaLots := 0
  outcome := refusal.outcome
  reasons := [reason]
  reservationId := none
  expiresAtUnixMs := none
  validity := request.snapshot.validity

/-- The decision that records a grant. -/
def approve (decisionId : String) (policy : RiskPolicySet) (request : RiskRequest)
    (grant : Grant) : RiskDecision where
  decisionId := decisionId
  requestId := request.requestId
  policyRevision := policy.revision
  accountId := request.accountId
  action := request.action
  requestedDeltaLots := grant.requestedDeltaLots
  approvedDeltaLots := grant.approvedDeltaLots
  outcome := if grant.resized then .resize else .approve
  reasons := [grant.reason]
  reservationId := none
  expiresAtUnixMs := none
  validity := request.snapshot.validity

/-- Decide `request` under `policy`. The source draws the decision's id at random; here it is an
argument. -/
def evaluate (decisionId : String) (policy : RiskPolicySet) (request : RiskRequest) :
    Except RiskEngineError RiskDecision :=
  match review policy request with
  | .ok grant => .ok (approve decisionId policy request grant)
  | .error (.refused refusal reason) => .ok (reject decisionId policy request refusal reason)
  | .error (.failed error) => .error error

/-! ## What a passed review has checked -/

variable {decisionId : String} {policy : RiskPolicySet} {request : RiskRequest} {d : RiskDecision}
  {grant : Grant}

/-- **A decision that permits dispatch records a grant.** A refusal never permits dispatch. -/
lemma evaluate_permits (h : evaluate decisionId policy request = .ok d)
    (hd : d.permitsDispatch = true) :
    ∃ grant, review policy request = .ok grant ∧ d = approve decisionId policy request grant := by
  unfold evaluate at h
  split at h
  next grant hr => exact ⟨grant, hr, (Except.ok.inj h).symm⟩
  next refusal reason hr =>
    -- the outcome of a refusal is neither `approve` nor `resize`
    rw [← Except.ok.inj h] at hd
    cases refusal <;> simp [RiskDecision.permitsDispatch, reject, Refusal.outcome] at hd
  next => cases h

/-- A decision is on the request it was asked for. -/
lemma evaluate_identity (h : evaluate decisionId policy request = .ok d) :
    d.requestId = request.requestId ∧ d.accountId = request.accountId := by
  unfold evaluate at h
  split at h
  next grant _ => exact Except.ok.inj h ▸ ⟨rfl, rfl⟩
  next refusal reason _ => exact Except.ok.inj h ▸ ⟨rfl, rfl⟩
  next => cases h

/-- A passed review is recorded by `approve`. -/
lemma evaluate_of_review (h : review policy request = .ok grant) :
    evaluate decisionId policy request = .ok (approve decisionId policy request grant) := by
  simp [evaluate, h]

/-- A decision that records a grant permits dispatch iff the grant moves lots exactly when the
action is directional. -/
lemma permitsDispatch_approve : (approve decisionId policy request grant).permitsDispatch = true ↔
      (request.action.directional = true ↔ grant.approvedDeltaLots ≠ 0) := by
  have houtcome : (approve decisionId policy request grant).outcome = .approve ∨
      (approve decisionId policy request grant).outcome = .resize := by
    cases h : grant.resized <;> simp [approve, h]
  have hgate : ¬ ((approve decisionId policy request grant).outcome ≠ .approve ∧
      (approve decisionId policy request grant).outcome ≠ .resize) := by
    rcases houtcome with h | h <;> simp [h]
  rw [RiskDecision.permitsDispatch, if_neg hgate]
  have haction : (approve decisionId policy request grant).action = request.action := rfl
  have happroved : (approve decisionId policy request grant).approvedDeltaLots =
      grant.approvedDeltaLots := rfl
  rw [haction, happroved]
  cases request.action <;> simp [RiskActionKind.directional]

/-- The base position a passed review computed is the exact sum of its four parts. -/
lemma basePosition_eq_ok {snapshot : RiskSnapshot} {base : I64}
    (h : basePosition snapshot = .ok base) :
    base.val = snapshot.currentPositionLots.val + snapshot.openOrderDeltaLots.val +
      snapshot.unresolvedUnknownDeltaLots.val + snapshot.activeReservationDeltaLots.val := by
  simp only [basePosition, checked_eq_ok, Option.bind_eq_some_iff, FixedInt.checkedAdd_eq_some] at h
  obtain ⟨b, ⟨a, ha, hb⟩, hc⟩ := h
  omega

/-- What every passed review has checked, and the exposure it was measured at. -/
structure Reviewed (policy : RiskPolicySet) (request : RiskRequest)
    (base projected increasing : I64) : Prop where
  quantity : checkQuantity request = .ok ()
  instrument : checkInstrument request = .ok ()
  revision : checkPolicyRevision policy request = .ok ()
  runtime : checkRuntime request = .ok ()
  base_eq : basePosition request.snapshot = .ok base
  projected_eq : base.checkedAdd request.requestedDeltaLots = some projected
  increasing_eq : increasingPortion base request.requestedDeltaLots = .ok increasing
  state : checkState policy request increasing = .ok ()

/-- **A passed review.** A directional request is also within the limits, and is resized. -/
lemma review_eq_ok : review policy request = .ok grant ↔
    ∃ base projected increasing, Reviewed policy request base projected increasing ∧
      if request.action.directional then checkLimits policy request projected increasing = .ok () ∧
        resizeOrder policy request increasing = .ok grant
      else cleanupGrant = grant := by
  simp only [review, Except.seq_eq_ok, Except.exists_unit_ok, checked_eq_ok]
  constructor
  · rintro ⟨hq, hi, hp, hr, base, hbase, projected, hproj, increasing, hinc, hs, hg⟩
    refine ⟨base, projected, increasing, ⟨hq, hi, hp, hr, hbase, hproj, hinc, hs⟩, ?_⟩
    split_ifs at hg ⊢ <;>
      simpa only [Except.seq_eq_ok, Except.exists_unit_ok, Except.ok.injEq] using hg
  · rintro ⟨base, projected, increasing, ⟨hq, hi, hp, hr, hbase, hproj, hinc, hs⟩, hg⟩
    refine ⟨hq, hi, hp, hr, base, hbase, projected, hproj, increasing, hinc, hs, ?_⟩
    split_ifs at hg ⊢ <;>
      simpa only [Except.seq_eq_ok, Except.exists_unit_ok, Except.ok.injEq] using hg

/-- A passed review of a directional request. -/
lemma review_directional (hdir : request.action.directional = true)
    (h : review policy request = .ok grant) :
    ∃ base projected increasing, Reviewed policy request base projected increasing ∧
      checkLimits policy request projected increasing = .ok () ∧
        resizeOrder policy request increasing = .ok grant := by
  simpa only [hdir, if_true] using review_eq_ok.mp h

/-- A passed review of a clean-up. -/
lemma review_cleanup (hdir : request.action.directional = false)
    (h : review policy request = .ok grant) :
    checkQuantity request = .ok () ∧ cleanupGrant = grant := by
  obtain ⟨_, _, _, hreviewed, hg⟩ := review_eq_ok.mp h
  rw [hdir] at hg
  exact ⟨hreviewed.quantity, hg⟩

end VoxTrader.Risk
