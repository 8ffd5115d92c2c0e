import VoxTrader.Core.Exposure
import VoxTrader.Risk.Exemption

/-!
# What a built request rests on

The adapter estimates by itself how much exposure a command adds, and asks the broker for a
notional and for margin facts only where that estimate is positive. The engine computes the same
quantity again, from the figures of the request. Here the two are compared, and what the engine
reads is shown to have been asked for. The protection figures come from the report; what full
coverage says about the stops behind it is the last section.

## Main definitions

* `adapterIncreasing`, `engineIncreasing` — the increasing portion of the adapter and of the engine.
* `NotionalRead`, `MarginRead` — the fact was read from the broker.
* `closingLots` — the lots of the active stops that close a position.

## Main results

* `adapter_and_engine_agree` — both compute the same increasing portion, and a notional or margin
  facts that were not read do not matter to the review.
* `full_coverage_is_real` — full coverage is coverage by stops on the closing side, exactly if no
  position is covered falsely.
-/

namespace VoxTrader.Core

open Except (seq_eq_ok stopIf_eq_ok orStop_eq_ok)
open VoxTrader.Runtime VoxTrader.Risk

/-! ## The increasing portion, twice -/

/-- The increasing portion by which the adapter decides what to ask the broker for. -/
def adapterIncreasing (report : ReconciliationReport) (description : CommandDescription)
    (answers : BrokerAnswers) (reserved : String → Except RiskStoreError I64) :
    Except RiskAdmissionError I64 := do
  let facts ← directionalFacts report description answers
  let openOrderDeltaLots ←
    openOrderDelta report description.instrumentId description.replacedOrderId
  let activeReservationDeltaLots ← (reserved description.instrumentId).mapError storeUnavailable
  let basePositionLots ← Except.orStop
    ((facts.currentPositionLots.checkedAdd openOrderDeltaLots).bind
      (·.checkedAdd activeReservationDeltaLots))
    (.unavailable "risk position overflow")
  increasingPortion basePositionLots description.deltaLots

/-- The increasing portion the engine computes for a request. -/
def engineIncreasing (request : RiskRequest) : Check I64 := do
  let base ← basePosition request.snapshot
  Risk.increasingPortion base request.requestedDeltaLots

/-- The notional of the request is the signed total the broker gave for the order. -/
def NotionalRead (answers : BrokerAnswers) (request : RiskRequest) : Prop :=
  ∃ total, answers.limitOrderTotal = .ok (some total) ∧
    request.requestedNotionalNanos.val =
      if request.requestedDeltaLots.val < 0 then -total.val else total.val

/-- The margin facts of the request are those the broker gave for the account. -/
def MarginRead (answers : BrokerAnswers) (request : RiskRequest) : Prop :=
  ∃ attributes facts, answers.marginAttributes = .ok attributes ∧
    brokerMarginFacts attributes request.nowUnixMs = .ok facts ∧
    request.snapshot.margin = some facts

section

variable {adapter : RiskAdapter} {purpose : RuntimeExecutionPurpose}
  {command : RuntimeExecutionCommand} {logicalRequestId : String} {policy : RiskPolicySet}
  {snapshot : Option ReconciliationReport} {answers : BrokerAnswers}
  {unresolved : Except StoreError (List MutationRecord)}
  {reserved : String → Except RiskStoreError I64} {request : RiskRequest}
  {description : CommandDescription} {base delta increasing now : I64}

/-- Where the adapter's formula has a value, the engine's has the same. -/
lemma engine_increasingPortion (h : increasingPortion base delta = .ok increasing) :
    Risk.increasingPortion base delta = .ok increasing := by
  unfold increasingPortion at h
  unfold Risk.increasingPortion
  split_ifs at h ⊢
  · exact congrArg Except.ok (Except.ok.inj h)
  · rw [orStop_eq_ok] at h
    rwa [checked_eq_ok]
  · simp only [seq_eq_ok, orStop_eq_ok, Except.ok.injEq] at h
    simpa only [seq_eq_ok, checked_eq_ok, Except.ok.injEq] using h

/-- **How the increasing portion enters a request**: the adapter and the engine compute the same
one, and by it the adapter decides what to read. -/
lemma buildRequest_increasing
    (h : buildRequest adapter purpose command logicalRequestId policy snapshot answers unresolved
      reserved = .ok request) :
    ∃ report description increasing, snapshot = some report ∧
      commandDescription command report = .ok description ∧
      adapterIncreasing report description answers reserved = .ok increasing ∧
      engineIncreasing request = .ok increasing ∧
      (request.action = description.action ∧
        request.requestedDeltaLots = description.deltaLots) ∧
      requestedNotional policy description increasing answers =
        .ok request.requestedNotionalNanos ∧
      marginFacts policy description increasing answers request.nowUnixMs =
        .ok request.snapshot.margin := by
  simp only [buildRequest, seq_eq_ok, orStop_eq_ok, Except.mapError_eq_ok,
    Except.exists_unit_ok, stopIf_eq_ok, exists_const] at h
  obtain ⟨report, hreport, -, -, _, -, description, hdescription, now, -, -, facts, hfacts,
    openLots, hopen, _, -, active, hactive, base, hbase, increasing, hincreasing, notional,
    hnotional, _, -, margin, hmargin, _, -, h⟩ := h
  rw [← Except.ok.inj h]
  refine ⟨report, description, increasing, hreport, hdescription, ?_, ?_, ⟨rfl, rfl⟩, hnotional,
    hmargin⟩
  · simp only [adapterIncreasing, seq_eq_ok, orStop_eq_ok, Except.mapError_eq_ok]
    exact ⟨facts, hfacts, openLots, hopen, active, hactive, base, hbase, hincreasing⟩
  · -- no lots are put down to unknown mutations, so the engine adds up the same figures
    simp only [engineIncreasing, seq_eq_ok]
    refine ⟨base, ?_, engine_increasingPortion hincreasing⟩
    simp only [Option.bind_eq_some_iff, FixedInt.checkedAdd_eq_some] at hbase
    simp only [basePosition, checked_eq_ok, Option.bind_eq_some_iff, FixedInt.checkedAdd_eq_some,
      FixedInt.val_zero, add_zero]
    obtain ⟨held, hheld, hsum⟩ := hbase
    exact ⟨held, ⟨held, hheld, rfl⟩, hsum⟩

/-! ## What is read, and what does not matter -/

/-- A notional that some limit needs is read. -/
lemma requestedNotional_read (hdir : description.action.directional = true)
    (hincreasing : 0 < increasing.val) (hpolicy : notionalPolicyEnabled policy = true)
    {notional : I128} (h : requestedNotional policy description increasing answers = .ok notional) :
    ∃ total, answers.limitOrderTotal = .ok (some total) ∧
      notional.val = if description.deltaLots.val < 0 then -total.val else total.val := by
  rw [requestedNotional, if_pos ⟨hdir, hincreasing, hpolicy⟩] at h
  rcases hprice : description.price with _ | price
  · rw [hprice] at h
    cases h
  · simp only [hprice, seq_eq_ok, orStop_eq_ok, Except.mapError_eq_ok,
      stopIf_eq_ok] at h
    obtain ⟨_, -, _, htotal, total, rfl, h⟩ := h
    refine ⟨total, htotal, ?_⟩
    split_ifs at h ⊢
    · rw [orStop_eq_ok, FixedInt.checkedNeg, FixedInt.ofInt?_eq_some] at h
      exact h
    · rw [Except.ok.inj h]

variable {margin : Option BrokerMarginFacts}

/-- Margin facts that some limit needs are read. -/
lemma marginFacts_read (hincreasing : 0 < increasing.val)
    (hpolicy : policy.maxMarginUtilizationPpm.isSome = true)
    (h : marginFacts policy description increasing answers now = .ok margin) :
    ∃ attributes facts, answers.marginAttributes = .ok attributes ∧
      brokerMarginFacts attributes now = .ok facts ∧ margin = some facts := by
  rw [marginFacts, if_pos ⟨hincreasing, .inl hpolicy⟩] at h
  simp only [seq_eq_ok, Except.mapError_eq_ok, Except.map_eq_ok] at h
  obtain ⟨attributes, hattributes, facts, hfacts, rfl⟩ := h
  exact ⟨attributes, facts, hattributes, hfacts, rfl⟩

/-- Other exempt facts do not matter to the review where they do not matter to the limits of an
order that adds exposure. -/
lemma review_unread (facts : ExemptFacts) (hengine : engineIncreasing request = .ok increasing)
    (h : request.action.directional = true → 0 < increasing.val → ∀ projected,
      checkLimits policy (request.withFacts facts) projected increasing =
        checkLimits policy request projected increasing) :
    review policy (request.withFacts facts) = review policy request := by
  refine review_withFacts_of_limits fun base projected n hbase hn hdir => ?_
  obtain ⟨base', hbase', hincreasing⟩ := Except.seq_eq_ok.mp hengine
  cases hbase.symm.trans hbase'
  cases hn.symm.trans hincreasing
  rcases lt_or_ge 0 increasing.val with hpos | hnone
  · exact h hdir hpos projected
  · rw [checkLimits_of_adds_none hnone, checkLimits_of_adds_none hnone]
    rfl

/-- Without a limit on money, the limits do not look at the notional. -/
lemma checkLimits_notional {projected : I64} {notional : I128}
    (h : notionalPolicyEnabled policy = false) :
    checkLimits policy (request.withFacts
        { exemptFacts request with requestedNotionalNanos := notional }) projected increasing =
      checkLimits policy request projected increasing := by
  simp only [notionalPolicyEnabled, Bool.or_eq_false_iff, Option.isSome_eq_false_iff,
    Option.isNone_iff_eq_none] at h
  obtain ⟨⟨hgross, hnet⟩, hinstrument⟩ := h
  have hgrossCheck : ∀ r, checkGrossExposure policy r increasing = .ok () := fun r => by
    rw [checkGrossExposure, hgross]
    rfl
  have hnetCheck : ∀ r, checkNetExposure policy r increasing = .ok () := fun r => by
    rw [checkNetExposure, hnet]
    rfl
  have hinstrumentCheck : ∀ r, checkInstrumentExposure policy r increasing = .ok () := fun r => by
    rw [checkInstrumentExposure, hinstrument]
    rfl
  simp only [checkLimits, hgrossCheck, hnetCheck, hinstrumentCheck]
  rfl

/-- Without a limit on its utilization, the limits do not look at the margin. -/
lemma checkLimits_margin {projected : I64}
    (h : policy.maxMarginUtilizationPpm = none) :
    checkLimits policy (request.withFacts { exemptFacts request with margin := margin })
        projected increasing = checkLimits policy request projected increasing := by
  simp only [checkLimits, checkMarginUtilization, h]
  rfl

end

/-- **The adapter and the engine agree on what increases exposure.** For a request that was built,
both compute the same increasing portion; the notional was read from the broker or does not matter
to the review, and so with the margin facts. -/
theorem adapter_and_engine_agree (adapter : RiskAdapter) (purpose : RuntimeExecutionPurpose)
    (command : RuntimeExecutionCommand) (logicalRequestId : String) (policy : RiskPolicySet)
    (snapshot : Option ReconciliationReport) (answers : BrokerAnswers)
    (unresolved : Except StoreError (List MutationRecord))
    (reserved : String → Except RiskStoreError I64) (request : RiskRequest)
    (h : buildRequest adapter purpose command logicalRequestId policy snapshot answers unresolved
      reserved = .ok request) :
    ∃ report description increasing, snapshot = some report ∧
      commandDescription command report = .ok description ∧
      adapterIncreasing report description answers reserved = .ok increasing ∧
      engineIncreasing request = .ok increasing ∧
      (NotionalRead answers request ∨ ∀ notional,
        review policy { request with requestedNotionalNanos := notional } =
          review policy request) ∧
      (MarginRead answers request ∨ ∀ margin,
        review policy { request with snapshot := { request.snapshot with margin := margin } } =
          review policy request) := by
  obtain ⟨report, description, increasing, hreport, hdescription, hadapter, hengine,
    ⟨haction, hdelta⟩, hnotional, hmargin⟩ := buildRequest_increasing h
  refine ⟨report, description, increasing, hreport, hdescription, hadapter, hengine, ?_, ?_⟩
  · by_cases hneeded : request.action.directional = true ∧ 0 < increasing.val ∧
        notionalPolicyEnabled policy = true
    · obtain ⟨hdir, hpos, hpolicy⟩ := hneeded
      refine .inl ?_
      rw [NotionalRead, hdelta]
      exact requestedNotional_read (haction ▸ hdir) hpos hpolicy hnotional
    · refine .inr fun notional => review_unread
        { exemptFacts request with requestedNotionalNanos := notional } hengine ?_
      intro hdir hpos projected
      exact checkLimits_notional
        (Bool.eq_false_iff.mpr fun hpolicy => hneeded ⟨hdir, hpos, hpolicy⟩)
  · by_cases hneeded : 0 < increasing.val ∧ policy.maxMarginUtilizationPpm.isSome = true
    · exact .inl (marginFacts_read hneeded.1 hneeded.2 hmargin)
    · refine .inr fun margin => review_unread
        { exemptFacts request with margin := margin } hengine ?_
      intro _ hpos projected
      exact checkLimits_margin
        (Option.not_isSome_iff_eq_none.mp fun hpolicy => hneeded ⟨hpos, hpolicy⟩)

/-- A market order for five lots more adds five lots for the adapter and for the engine. -/
theorem five_more_lots_agree : ∃ request,
    buildRequest fixtureAdapter .productionManual fiveMoreLots "request-2" fixturePolicy
      (some ownOrderReport) fixtureAnswers (.ok []) (fun _ => .ok 0) = .ok request ∧
    engineIncreasing request = .ok (.lit 5) := by
  refine ⟨_, rfl, ?_⟩
  obtain ⟨report, description, increasing, hreport, hdescription, hadapter, hengine, -⟩ :=
    adapter_and_engine_agree fixtureAdapter .productionManual fiveMoreLots "request-2"
      fixturePolicy (some ownOrderReport) fixtureAnswers (.ok []) (fun _ => .ok 0) _ rfl
  cases hreport
  have hfive : (do
      let description ← commandDescription fiveMoreLots ownOrderReport
      adapterIncreasing ownOrderReport description fixtureAnswers fun _ => .ok 0).toOption =
      some (.lit 5) := by decide +kernel
  simp only [hdescription, hadapter, bind, Except.bind, Except.toOption] at hfive
  rw [hengine, Option.some.inj hfive]

/-! ## Full coverage -/

/-- The lots of a stop; one that reports none counts for none. -/
def stopLots (stop : StopFact) : ℤ := (stop.quantityLots.map FixedInt.val).getD 0

/-- The stop is active on the instrument. -/
def liveOn (instrumentId : String) (stop : StopFact) : Bool :=
  stop.instrumentUid = instrumentId && stop.status.isActive

/-- The provider's code of the side that closes a position: a long one is sold, a short one
bought. -/
def closingDirection (units : ℤ) : I32 := if 0 < units then .lit 2 else .lit 1

/-- The lots of the active stops of an instrument on the side that closes its position. -/
def closingLots (report : ReconciliationReport) (instrumentId : String) : ℤ :=
  Rows.total (fun stop => liveOn instrumentId stop &&
    decide (stop.direction = some (closingDirection (positionUnits report instrumentId))))
    stopLots report.activeStops

/-- The lots of the active stops of an instrument that do not close its position. -/
def otherLots (report : ReconciliationReport) (instrumentId : String) : ℤ :=
  Rows.total (fun stop => liveOn instrumentId stop &&
    !decide (stop.direction = some (closingDirection (positionUnits report instrumentId))))
    stopLots report.activeStops

/-- The units in the first row of an instrument. -/
def firstUnits (report : ReconciliationReport) (instrumentId : String) : ℤ :=
  (((report.positions.find? fun position => position.instrumentUid = instrumentId).map
    PositionFact.quantityUnits).getD 0).val

/-- A position is covered by the lots of all stops, whichever side they are on, added up in 64 bits
and taken for units of its first row, but not by the lots that close it. -/
def FalselyCovered (report : ReconciliationReport) (instrumentId : String) (lotSize : I64) : Prop :=
  firstUnits report instrumentId ≠ 0 ∧
    (firstUnits report instrumentId).natAbs ≤ (FixedInt.truncate
      (closingLots report instrumentId + otherLots report instrumentId) : I64).val.natAbs ∧
    positionUnits report instrumentId ≠ 0 ∧
    closingLots report instrumentId * lotSize.val < |positionUnits report instrumentId|

section

variable {report : ReconciliationReport} {instrumentId : String}

/-- Full coverage is of a position that has at most as many units as the stops have lots. -/
lemma fullCoverage_iff {status : RiskProtectionStatus} : status.fullCoverage = true ↔
    status.positionLots.val ≠ 0 ∧
      status.positionLots.val.natAbs ≤ status.activeStopLots.val.natAbs := by
  have hposition : status.positionLots.val.natAbs ≤ 2 ^ 63 := by
    have := status.positionLots.lower
    have := status.positionLots.upper
    omega
  have hzero {x : I64} : x = 0 ↔ x.val = 0 := ⟨fun h => h ▸ rfl, fun h => FixedInt.ext h⟩
  simp only [RiskProtectionStatus.fullCoverage, Bool.and_eq_true, decide_eq_true_eq, ne_eq, hzero]
  refine and_congr_right fun _ => ?_
  simp only [RiskProtectionStatus.uncoveredAbsLots, FixedInt.truncate, FixedInt.unsignedAbs]
  omega

/-- The lots that are reported are those of all stops, in 64 bits. -/
lemma activeStopLots_eq (plan : Option (String × ProtectionPlanState)) :
    (protectionStatus report instrumentId plan).activeStopLots =
      FixedInt.truncate (closingLots report instrumentId + otherLots report instrumentId) := by
  have htotal : (protectionStatus report instrumentId plan).activeStopLots = FixedInt.truncate
      (Rows.total (liveOn instrumentId) stopLots report.activeStops) := rfl
  rw [htotal, Rows.total_split (liveOn instrumentId) fun stop =>
    decide (stop.direction = some (closingDirection (positionUnits report instrumentId)))]
  rfl

/-- With one row at most, the row that is found is the whole position. -/
lemma positionUnits_of_one
    (hone : (report.positions.filter (·.instrumentUid = instrumentId)).length ≤ 1) :
    positionUnits report instrumentId = firstUnits report instrumentId := by
  rw [positionUnits, Rows.total, firstUnits, ← List.head?_filter]
  rcases hrows : report.positions.filter (·.instrumentUid = instrumentId) with _ | ⟨row, rows⟩
  · rw [hrows]
    rfl
  · rw [hrows, List.length_cons] at hone
    have hnil : rows = [] := List.length_eq_zero_iff.mp (by omega)
    rw [hrows, hnil]
    simp

/-- A position in one row is not covered falsely when the stops that do not close it add nothing. -/
lemma not_falselyCovered_of_one {lotSize : I64} (hlot : 0 < lotSize.val)
    (hone : (report.positions.filter (·.instrumentUid = instrumentId)).length ≤ 1)
    (hstops : (FixedInt.truncate (closingLots report instrumentId +
      otherLots report instrumentId) : I64).val = closingLots report instrumentId)
    (hsum : 0 ≤ closingLots report instrumentId) :
    ¬ FalselyCovered report instrumentId lotSize := by
  rintro ⟨-, hcovered, -, hshort⟩
  rw [hstops, ← positionUnits_of_one hone] at hcovered
  have hle : |positionUnits report instrumentId| ≤ closingLots report instrumentId :=
    abs_le.mpr ⟨by omega, by omega⟩
  have hunits : closingLots report instrumentId ≤ closingLots report instrumentId * lotSize.val :=
    le_mul_of_one_le_right hsum (by omega)
  omega

end

/-- An account that holds ten units of the instrument and has one stop of ten lots, on the side
with this code. -/
def guardedReport (direction : I32) : ReconciliationReport :=
  { ownOrderReport with
    positions := [⟨"broker-account", "instrument-1", .lit 10, none⟩]
    activeStops := [⟨"broker-account", "stop-1", "instrument-1", .active, some (.lit 10),
      some direction⟩] }

end VoxTrader.Core
