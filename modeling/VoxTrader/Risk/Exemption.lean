import VoxTrader.Risk.ApprovalBounds

/-!
# What a reduction does not depend on

An order that adds no exposure is exempt from the checks of new exposure. The facts those checks
look at are collected in `ExemptFacts`; two requests that differ in nothing else get the same
verdict, whatever the policy, as long as they add no exposure. Since the result compares two runs,
it is enough to show that on a closing order no check looks at an exempt fact: such a check then
does the same in both runs, whether it passes, refuses or fails.

## Main definitions

* `ExemptFacts`, `RiskRequest.withFacts` — the exempt facts, and a request with other ones.
* `AddsNoExposure` — the order adds no exposure to the position it starts from.
* `RiskDecision.verdict` — what a caller learns from a decision.

## Main results

* `checkLimits_of_adds_none` — all that is left of the limits for an order that adds nothing.
* `reduction_ignores_exempt_facts` — the verdict on a reduction does not depend on the exempt
  facts.
-/

namespace VoxTrader.Risk

/-! ## The exempt facts -/

/-- The facts that only the checks of new exposure look at. -/
structure ExemptFacts where
  requestedNotionalNanos : I128
  marketDataAsOfUnixMs : Option I64
  protection : RiskProtectionStatus
  margin : Option BrokerMarginFacts
  brokerDailyPnlNanos : Option I128
  grossExposureNanos : Option I128
  netExposureNanos : Option I128
  instrumentExposureNanos : Option I128
deriving DecidableEq

/-- Those of a request. -/
def exemptFacts (request : RiskRequest) : ExemptFacts :=
  ⟨request.requestedNotionalNanos, request.snapshot.validity.marketDataAsOfUnixMs,
    request.snapshot.protection, request.snapshot.margin, request.snapshot.brokerDailyPnlNanos,
    request.snapshot.grossExposureNanos, request.snapshot.netExposureNanos,
    request.snapshot.instrumentExposureNanos⟩

/-- The snapshot with other exempt facts; of its validity only the market-data watermark
changes. -/
def RiskSnapshot.withFacts (snapshot : RiskSnapshot) (facts : ExemptFacts) : RiskSnapshot :=
  { snapshot with
    grossExposureNanos := facts.grossExposureNanos
    netExposureNanos := facts.netExposureNanos
    instrumentExposureNanos := facts.instrumentExposureNanos
    brokerDailyPnlNanos := facts.brokerDailyPnlNanos
    margin := facts.margin
    protection := facts.protection
    validity := { snapshot.validity with marketDataAsOfUnixMs := facts.marketDataAsOfUnixMs } }

/-- The request with other exempt facts. -/
def RiskRequest.withFacts (request : RiskRequest) (facts : ExemptFacts) : RiskRequest :=
  { request with
    requestedNotionalNanos := facts.requestedNotionalNanos
    snapshot := request.snapshot.withFacts facts }

/-- The order adds no exposure: wherever its increasing portion can be computed, it is not
positive. It is zero for a full close and negative for a partial one. -/
def AddsNoExposure (request : RiskRequest) : Prop :=
  ∀ base increasing, basePosition request.snapshot = .ok base →
    increasingPortion base request.requestedDeltaLots = .ok increasing → increasing.val ≤ 0

/-- What a caller learns from a decision: its outcome, its reasons and the approved quantity. -/
def RiskDecision.verdict (decision : RiskDecision) : RiskOutcome × List RiskReason × I64 :=
  (decision.outcome, decision.reasons, decision.approvedDeltaLots)

/-! ## The limits, for an order that adds nothing -/

section

variable {policy : RiskPolicySet} {request : RiskRequest} {projected increasing : I64}

/-- A limit that only new exposure has to meet lets every other order pass. -/
lemma whenSet_of_adds_none {w : ℕ} {limit : Option (FixedInt w)}
    {check : FixedInt w → Check Unit} (h : increasing.val ≤ 0) :
    whenSet limit (fun m => if 0 < increasing.val then check m else .ok ()) = .ok () := by
  rcases limit with _ | m
  · rfl
  · exact if_neg (not_lt.mpr h)

/-- So does the limit on the position, which is compared first. -/
lemma checkMaxPosition_of_adds_none (h : increasing.val ≤ 0) :
    checkMaxPosition policy projected increasing = .ok () := by
  rw [checkMaxPosition, whenSet_eq_ok]
  intro m _
  rw [refuseIf_eq_ok]
  exact fun hexceeds => not_lt.mpr h hexceeds.2

/-- **All that is left of the limits** for an order that adds nothing is whether margin is
allowed. -/
lemma checkLimits_of_adds_none (h : increasing.val ≤ 0) :
    checkLimits policy request projected increasing = checkMarginAllowed policy request := by
  have hnew : checkNewExposure policy request increasing = .ok () := if_neg (not_lt.mpr h)
  have hutilization : checkMarginUtilization policy request increasing = .ok () :=
    whenSet_of_adds_none h
  have hloss : checkDailyLoss policy request increasing = .ok () := whenSet_of_adds_none h
  have hposition : checkMaxPosition policy projected increasing = .ok () :=
    checkMaxPosition_of_adds_none h
  have hgross : checkGrossExposure policy request increasing = .ok () := whenSet_of_adds_none h
  have hnet : checkNetExposure policy request increasing = .ok () := whenSet_of_adds_none h
  have hinstrument : checkInstrumentExposure policy request increasing = .ok () :=
    whenSet_of_adds_none h
  simp only [checkLimits, hnew, hutilization, hloss, hposition, hgross, hnet, hinstrument]
  rcases checkMarginAllowed policy request with stop | u <;> rfl

end

/-! ## The whole review -/

/-- The review is the same with other exempt facts where the limits are: the checks before them
look at none of the facts, so they are the same terms on both sides. -/
lemma review_withFacts_of_limits {policy : RiskPolicySet} {request : RiskRequest}
    {facts : ExemptFacts}
    (hlimits : ∀ base projected increasing, basePosition request.snapshot = .ok base →
      increasingPortion base request.requestedDeltaLots = .ok increasing →
      request.action.directional = true →
      checkLimits policy (request.withFacts facts) projected increasing =
        checkLimits policy request projected increasing) :
    review policy (request.withFacts facts) = review policy request := by
  change (do
    checkQuantity request
    checkInstrument request
    checkPolicyRevision policy request
    checkRuntime request
    let base ← basePosition request.snapshot
    let projected ← checked (base.checkedAdd request.requestedDeltaLots)
    let increasing ← increasingPortion base request.requestedDeltaLots
    checkState policy request increasing
    if request.action.directional then do
      checkLimits policy (request.withFacts facts) projected increasing
      resizeOrder policy request increasing
    else .ok cleanupGrant) = review policy request
  unfold review
  rcases hdir : request.action.directional with _ | _
  · rfl
  rcases hbase : basePosition request.snapshot with stop | base
  · rfl
  rcases hincreasing : increasingPortion base request.requestedDeltaLots with stop | increasing
  · simp only [bind, Except.bind, hincreasing]
  · simp only [bind, Except.bind, hincreasing, hlimits base _ increasing hbase hincreasing hdir]

/-- **The review of a reduction** is the same with other exempt facts:
`checkLimits_of_adds_none` leaves of the limits only a check that looks at none of them. -/
lemma review_withFacts {policy : RiskPolicySet} {request : RiskRequest} {facts : ExemptFacts}
    (h : AddsNoExposure request) :
    review policy (request.withFacts facts) = review policy request := by
  refine review_withFacts_of_limits fun base projected increasing hbase hincreasing _ => ?_
  have hnone : increasing.val ≤ 0 := h base increasing hbase hincreasing
  rw [checkLimits_of_adds_none hnone, checkLimits_of_adds_none hnone]
  rfl

/-- **The verdict on a reduction does not depend on the exempt facts**: the outcome, the reasons,
the approved quantity and the error are the same for every policy, also under different decision
ids. -/
theorem reduction_ignores_exempt_facts (decisionId decisionId' : String) (policy : RiskPolicySet)
    (request : RiskRequest) (facts : ExemptFacts) (h : AddsNoExposure request) :
    (evaluate decisionId' policy (request.withFacts facts)).map RiskDecision.verdict =
      (evaluate decisionId policy request).map RiskDecision.verdict := by
  unfold evaluate
  rw [review_withFacts h]
  rcases review policy request with (⟨refusal, reason⟩ | error) | grant
  all_goals rfl

/-- A close of 60 long lots passes a policy that limits everything, with no market data, no
protection, no margin facts, no P&L and no exposures, like the request that has them. -/
theorem full_close_without_facts : (evaluate "risk-decision:2"
        { fixturePolicy with
          maxSingleOrderLots := none, maxDailyLossNanos := some 0
          maxGrossExposureNanos := some 0, protectionRequiredForNewExposure := true }
        ((fixtureRequest (.lit 60) (.lit (-60))).withFacts
          ⟨0, none, .default, none, none, none, none, none⟩)).map RiskDecision.verdict =
      .ok (.approve,
        [⟨.approved, "request satisfies current risk policy and provider constraints"⟩],
        .lit (-60)) := by
  have hnone : AddsNoExposure (fixtureRequest (.lit 60) (.lit (-60))) := by
    intro base increasing hbase hincreasing
    have hsum : base.val = 60 := basePosition_eq_ok hbase
    have hdelta : (fixtureRequest (.lit 60) (.lit (-60))).requestedDeltaLots.val = -60 := rfl
    have hcases := increasingPortion_cases (by decide) hincreasing
    omega
  exact (reduction_ignores_exempt_facts "risk-decision:1" _ _ _ _ hnone).trans rfl

end VoxTrader.Risk
