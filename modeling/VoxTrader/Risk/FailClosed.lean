import VoxTrader.Risk.Exemption
import VoxTrader.Risk.PolicyOrder

/-!
# Policies and facts the engine cannot work with

A policy may be set up with a limit that makes no sense, and a request may come without a fact that
the policy asks for. Neither may let new exposure through, and the two should not be confused: an
invalid policy is an error, a missing fact a refusal.

The engine reads only the magnitude of the limit on the position, so that a negative one is not
noticed; it reports a missing entry time as an invalid policy; and a plan that covers a part of the
position, or is merely active, is protection enough for it.

## Main definitions

* `RiskRequest.increases` — the request adds exposure.
* `PassesElsewhere` — the checks that do not read the limit on the position.
* `Vetted` — what was found when new exposure was let through.
* `RiskPolicySet.Malformed`, `RiskPolicySet.OutOfRange` — limits outside their legal range.
* `Firm` — a step that comes out the same when missing facts are supplied, unless it refuses.
* `AsksUnknownEntry` — the engine gets as far as an entry time that is not known.

## Main results

* `vetted_of_permits` — new exposure that is let through is vetted.
* `malformed_limits_fail_closed`, `negative_position_limit_is_unnoticed` — malformed limits.
* `invalid_policy_blames_policy`, `unknown_entry_blames_policy` — errors and missing facts.
* `new_exposure_is_protected`, `partial_plan_suffices` — protection.
-/

namespace VoxTrader.Risk

open Except (seq_eq_ok orStop exists_unit_ok ite_eq_ok stopIf_eq_error seq_eq_error)

/-! ## What new exposure has passed -/

/-- The request adds exposure: the part of it that adds to the base position is positive. -/
def RiskRequest.increases (request : RiskRequest) : Bool :=
  (do
    let base ← basePosition request.snapshot
    let increasing ← increasingPortion base request.requestedDeltaLots
    .ok (decide (0 < increasing.val)) : Check Bool).toOption.getD false

lemma RiskRequest.increases_eq_true {request : RiskRequest} (h : request.increases = true) :
    ∃ base increasing, basePosition request.snapshot = .ok base ∧
      increasingPortion base request.requestedDeltaLots = .ok increasing ∧ 0 < increasing.val := by
  obtain ⟨answer, hanswer, rfl⟩ : ∃ answer, (do
      let base ← basePosition request.snapshot
      let increasing ← increasingPortion base request.requestedDeltaLots
      .ok (decide (0 < increasing.val)) : Check Bool).toOption = some answer ∧ answer = true := by
    simpa [RiskRequest.increases, Option.getD_eq_iff] using h
  obtain ⟨base, hbase, increasing, hincreasing, hpos⟩ := by
    simpa only [Except.toOption_eq_some, seq_eq_ok] using hanswer
  exact ⟨base, increasing, hbase, hincreasing, of_decide_eq_true (Except.ok.inj hpos)⟩

/-- A request whose increasing part is positive adds exposure. -/
lemma increases_of_portion {request : RiskRequest} {base increasing : I64}
    (hbase : basePosition request.snapshot = .ok base)
    (hportion : increasingPortion base request.requestedDeltaLots = .ok increasing)
    (hpos : 0 < increasing.val) : request.increases = true := by
  simp only [RiskRequest.increases, hbase, bind, Except.bind, hportion]
  exact decide_eq_true hpos

/-- The position a request leads to. -/
def RiskRequest.exactProjected (request : RiskRequest) : ℤ :=
  exactBase request.snapshot + request.requestedDeltaLots.val

/-- What was found when new exposure was let through: every limit that is set is a legal one, and
the fact it is compared with is there. -/
structure Vetted (policy : RiskPolicySet) (request : RiskRequest) : Prop where
  marketData : ∀ m ∈ policy.maxMarketDataAgeMs, 0 ≤ m.val ∧
    request.snapshot.validity.marketDataAsOfUnixMs ≠ none
  duration : policy.protectionRequiredForNewExposure = true →
    ∀ m ∈ policy.maxUnprotectedDurationMs, ∃ entered,
      request.snapshot.protection.positionEnteredAtUnixMs = some entered ∧
        (0 < request.snapshot.protection.uncoveredAbsLots.val →
          (request.nowUnixMs.saturatingSub entered).val ≤ m.val)
  protection : policy.protectionRequiredForNewExposure = true →
    request.snapshot.protection.planState.any (·.permitsAdditionalExposure) = true ∨
      request.snapshot.protection.fullCoverage = true
  margin : ∀ m ∈ policy.maxMarginUtilizationPpm, 0 < m.val ∧ request.snapshot.margin ≠ none
  dailyLoss : ∀ m ∈ policy.maxDailyLossNanos, 0 < m.val ∧
    request.snapshot.brokerDailyPnlNanos ≠ none
  position : ∀ m ∈ policy.maxPositionAbsLots, request.exactProjected.natAbs ≤ m.val.natAbs
  gross : ∀ m ∈ policy.maxGrossExposureNanos, 0 < m.val ∧ request.snapshot.grossExposureNanos ≠ none
  net : ∀ m ∈ policy.maxNetExposureAbsNanos, 0 < m.val ∧ request.snapshot.netExposureNanos ≠ none
  instrument : ∀ m ∈ policy.maxInstrumentExposureNanos, 0 < m.val ∧
    request.snapshot.instrumentExposureNanos ≠ none
  singleOrder : ∀ m ∈ policy.maxSingleOrderLots, 0 < m.val
  provider : policy.requireProviderLotLimit = true → request.snapshot.brokerLotLimits ≠ none
  /-- The order does not end flat. -/
  open_end : request.exactProjected ≠ 0

/-- The request passes every check that does not read the limit on the position. -/
structure PassesElsewhere (policy : RiskPolicySet) (request : RiskRequest)
    (base projected increasing : I64) : Prop where
  reviewed : Reviewed policy request base projected increasing
  directional : request.action.directional = true
  newExposure : checkNewExposure policy request increasing = .ok ()
  marginAllowed : checkMarginAllowed policy request = .ok ()
  marginUtilization : checkMarginUtilization policy request increasing = .ok ()
  dailyLoss : checkDailyLoss policy request increasing = .ok ()
  gross : checkGrossExposure policy request increasing = .ok ()
  net : checkNetExposure policy request increasing = .ok ()
  instrument : checkInstrumentExposure policy request increasing = .ok ()
  size : ∃ grant, resizeOrder policy request increasing = .ok grant

variable {code : RiskReasonCode}

section

variable {decisionId : String} {policy : RiskPolicySet} {request : RiskRequest} {d : RiskDecision}
  {base projected increasing : I64}

/-- A limit on an exposure that new exposure passes is positive, and the exposure is known. -/
lemma checkExposure_vets {limit exposure : Option I128} {field missing message : String}
    {project : I128 → Check I128} (hinc : 0 < increasing.val)
    (h : checkExposure limit field exposure missing project code message increasing = .ok ()) :
    ∀ m ∈ limit, 0 < m.val ∧ exposure ≠ none := by
  intro m hm
  have hcheck := ite_eq_ok.mp (whenSet_eq_ok.mp h m hm) hinc
  simp only [seq_eq_ok, required_eq_ok, positiveLimit_eq_ok] at hcheck
  obtain ⟨current, hcurrent, _, -, _, ⟨hpos, -⟩, -⟩ := hcheck
  exact ⟨hpos, by simp [hcurrent]⟩

/-- A directional request moves some lots. -/
lemma requested_ne_zero (hdir : request.action.directional = true)
    (hq : checkQuantity request = .ok ()) : request.requestedDeltaLots ≠ 0 := by
  simp only [checkQuantity, seq_eq_ok, refuseIf_eq_ok, exists_const] at hq
  exact fun hflat => hq.1 ⟨hdir, hflat⟩

/-- A request that adds exposure and is let through is directional. -/
lemma directional_of_permits (h : evaluate decisionId policy request = .ok d)
    (hd : d.permitsDispatch = true) (hinc : request.increases = true) :
    request.action.directional = true := by
  by_contra hdir
  obtain ⟨grant, hr, rfl⟩ := evaluate_permits h hd
  obtain ⟨hq, -⟩ := review_cleanup (Bool.eq_false_of_not_eq_true hdir) hr
  simp only [checkQuantity, seq_eq_ok, refuseIf_eq_ok, exists_const] at hq
  -- a clean-up moves no lots, and so adds nothing
  have hzero : request.requestedDeltaLots = 0 := by
    by_contra hne
    exact hq.2 ⟨hdir, hne⟩
  obtain ⟨base, increasing, -, hportion, hpos⟩ := RiskRequest.increases_eq_true hinc
  rw [hzero, increasingPortion, if_pos rfl] at hportion
  rw [← Except.ok.inj hportion] at hpos
  exact absurd hpos (lt_irrefl _)

/-- New exposure that is let through passes the other checks. -/
lemma passesElsewhere_of_permits (h : evaluate decisionId policy request = .ok d)
    (hd : d.permitsDispatch = true) (hinc : request.increases = true) :
    ∃ base projected increasing, PassesElsewhere policy request base projected increasing ∧
      0 < increasing.val ∧
        ∀ m ∈ policy.maxPositionAbsLots, projected.val.natAbs ≤ m.val.natAbs := by
  have hdir := directional_of_permits h hd hinc
  obtain ⟨base', increasing', hbase', hportion', hpos⟩ := RiskRequest.increases_eq_true hinc
  obtain ⟨grant, hr, rfl⟩ := evaluate_permits h hd
  obtain ⟨base, projected, increasing, hreviewed, hl, hg⟩ := review_directional hdir hr
  cases hbase'.symm.trans hreviewed.base_eq
  cases hportion'.symm.trans hreviewed.increasing_eq
  have hposition := checkLimits_position hl
  simp only [checkLimits, seq_eq_ok, exists_unit_ok] at hl
  obtain ⟨hnew, hmargin, hutilization, hloss, -, hgross, hnet, hinstrument⟩ := hl
  exact ⟨base', projected, increasing', ⟨hreviewed, hdir, hnew, hmargin, hutilization,
    hloss, hgross, hnet, hinstrument, grant, hg⟩, hpos, fun m hm => hposition m hm hpos⟩

variable (decisionId) in
/-- A request that passes the other checks and keeps the magnitude of the limit on the position is
let through. -/
lemma PassesElsewhere.permits (h : PassesElsewhere policy request base projected increasing)
    (hposition : ∀ m ∈ policy.maxPositionAbsLots, projected.val.natAbs ≤ m.val.natAbs) :
    ∃ d, evaluate decisionId policy request = .ok d ∧ d.permitsDispatch = true := by
  obtain ⟨grant, hgrant⟩ := h.size
  have hmax : checkMaxPosition policy projected increasing = .ok () := by
    refine whenSet_eq_ok.mpr fun m hm => refuseIf_eq_ok.mpr fun hpassed => ?_
    exact absurd (hposition m hm) (not_le.mpr hpassed.1)
  have hlimits : checkLimits policy request projected increasing = .ok () := by
    simp only [checkLimits, seq_eq_ok, exists_unit_ok]
    exact ⟨h.newExposure, h.marginAllowed, h.marginUtilization, h.dailyLoss, hmax, h.gross, h.net,
      h.instrument⟩
  have hreview : review policy request = .ok grant :=
    review_eq_ok.mpr ⟨base, projected, increasing, h.reviewed, by
      rw [if_pos h.directional]
      exact ⟨hlimits, hgrant⟩⟩
  refine ⟨_, evaluate_of_review hreview, permitsDispatch_approve.mpr ⟨fun _ hzero => ?_,
    fun _ => h.directional⟩⟩
  -- a grant of a directional request moves some of its lots
  obtain ⟨-, requestedAbs, -, hpos, happroved, -⟩ :=
    resizeOrder_eq_ok (checkLimits_margin hlimits) hgrant
  have hdelta := requested_ne_zero h.directional h.reviewed.quantity
  rw [hzero] at happroved
  rcases Int.mul_eq_zero.mp happroved.symm with hnone | hsign
  · omega
  · exact hdelta (FixedInt.ext (Int.sign_eq_zero_iff_zero.mp hsign))

/-- **New exposure that is let through is vetted.** -/
lemma vetted_of_permits (h : evaluate decisionId policy request = .ok d)
    (hd : d.permitsDispatch = true) (hinc : request.increases = true) : Vetted policy request := by
  obtain ⟨base, projected, increasing, hpasses, hpos, hposition⟩ :=
    passesElsewhere_of_permits h hd hinc
  have hprojected : projected.val = request.exactProjected := by
    rw [FixedInt.checkedAdd_eq_some.mp hpasses.reviewed.projected_eq,
      basePosition_eq_ok hpasses.reviewed.base_eq]
    rfl
  have hnew := ite_eq_ok.mp hpasses.newExposure hpos
  rw [seq_eq_ok, exists_unit_ok] at hnew
  obtain ⟨hdata, hprotection⟩ := hnew
  obtain ⟨grant, hg⟩ := hpasses.size
  have hresizable := (resizeOrder_eq_ok (refuseIf_eq_ok.mp hpasses.marginAllowed) hg).1
  refine ⟨fun m hm => ?_, fun hrequired m hm => ?_, fun hrequired => ?_, fun m hm => ?_,
    fun m hm => ?_, fun m hm => hprojected ▸ hposition m hm, checkExposure_vets hpos hpasses.gross,
    checkExposure_vets hpos hpasses.net, checkExposure_vets hpos hpasses.instrument,
    hresizable.singleOrder,
    fun hrequired hnone => ?_, fun hflat => ?_⟩
  · have hcheck := whenSet_eq_ok.mp hdata m hm
    simp only [seq_eq_ok, invalidPolicyIf_eq_ok, exists_const, required_eq_ok] at hcheck
    obtain ⟨hlegal, asOf, hasOf, -⟩ := hcheck
    exact ⟨not_lt.mp hlegal, by simp [hasOf]⟩
  · rw [validateProtection, if_pos hrequired, seq_eq_ok, exists_unit_ok] at hprotection
    have hcheck := whenSet_eq_ok.mp hprotection.1 m hm
    simp only [seq_eq_ok, Except.orStop_eq_ok, refuseIf_eq_ok, not_and, not_lt] at hcheck
    obtain ⟨_, -, entered, hentered, hage⟩ := hcheck
    exact ⟨entered, hentered, hage⟩
  · rw [validateProtection, if_pos hrequired, seq_eq_ok, exists_unit_ok,
      refuseIf_eq_ok, not_and_or, not_not, not_not] at hprotection
    exact hprotection.2
  · have hcheck := ite_eq_ok.mp (whenSet_eq_ok.mp hpasses.marginUtilization m hm) hpos
    simp only [seq_eq_ok, invalidPolicyIf_eq_ok, exists_const, required_eq_ok] at hcheck
    obtain ⟨hlegal, margin, hthere, -⟩ := hcheck
    exact ⟨not_le.mp hlegal, by simp [hthere]⟩
  · have hcheck := ite_eq_ok.mp (whenSet_eq_ok.mp hpasses.dailyLoss m hm) hpos
    simp only [seq_eq_ok, required_eq_ok, positiveLimit_eq_ok] at hcheck
    obtain ⟨pnl, hpnl, _, ⟨hlegal, -⟩, -⟩ := hcheck
    exact ⟨hlegal, by simp [hpnl]⟩
  · exact hresizable.provider (by rw [hnone]; rfl) ⟨hrequired, hpos⟩
  · -- what ends flat closes the position and adds nothing
    have hcases := increasingPortion_cases (requested_ne_zero hpasses.directional
      hpasses.reviewed.quantity) hpasses.reviewed.increasing_eq
    have hsum : projected.val = base.val + request.requestedDeltaLots.val :=
      FixedInt.checkedAdd_eq_some.mp hpasses.reviewed.projected_eq
    omega

end

/-! ## Malformed limits -/

/-- A limit is set, and not positive. -/
def NotPositive {w : ℕ} (limit : Option (FixedInt w)) : Prop := ∃ m ∈ limit, m.val ≤ 0

/-- A limit is set, and negative. -/
def Negative {w : ℕ} (limit : Option (FixedInt w)) : Prop := ∃ m ∈ limit, m.val < 0

/-- Some limit other than the one on the position is malformed. -/
def RiskPolicySet.MalformedElsewhere (policy : RiskPolicySet) : Prop :=
  NotPositive policy.maxSingleOrderLots ∨ NotPositive policy.maxGrossExposureNanos ∨
    NotPositive policy.maxNetExposureAbsNanos ∨ NotPositive policy.maxInstrumentExposureNanos ∨
    NotPositive policy.maxMarginUtilizationPpm ∨ NotPositive policy.maxDailyLossNanos ∨
    Negative policy.maxMarketDataAgeMs

/-- Some limit is malformed: it is zero or negative, or an age is negative. -/
def RiskPolicySet.Malformed (policy : RiskPolicySet) : Prop :=
  NotPositive policy.maxPositionAbsLots ∨ policy.MalformedElsewhere

/-- Vetted exposure meets no malformed limit, except the one on the position. -/
lemma Vetted.not_malformedElsewhere {policy : RiskPolicySet} {request : RiskRequest}
    (h : Vetted policy request) : ¬ policy.MalformedElsewhere := by
  rintro (⟨m, hm, hle⟩ | ⟨m, hm, hle⟩ | ⟨m, hm, hle⟩ | ⟨m, hm, hle⟩ | ⟨m, hm, hle⟩ | ⟨m, hm, hle⟩ |
    ⟨m, hm, hlt⟩)
  · exact not_lt.mpr hle (h.singleOrder m hm)
  · exact not_lt.mpr hle (h.gross m hm).1
  · exact not_lt.mpr hle (h.net m hm).1
  · exact not_lt.mpr hle (h.instrument m hm).1
  · exact not_lt.mpr hle (h.margin m hm).1
  · exact not_lt.mpr hle (h.dailyLoss m hm).1
  · exact not_lt.mpr (h.marketData m hm).1 hlt

/-- **Malformed limits fail closed, exactly if a negative limit on the position does no harm.**
Under a policy with a malformed limit, a request that adds exposure is not let through, if and only
if it is not the case that the limit on the position is negative, the position it leads to keeps
the magnitude of that limit, and the request passes all checks that do not read it. -/
theorem malformed_limits_fail_closed (decisionId : String) (policy : RiskPolicySet)
    (request : RiskRequest) :
    (policy.Malformed → request.increases = true → ∀ d,
      evaluate decisionId policy request = .ok d → d.permitsDispatch = false) ↔
    ¬ ∃ m ∈ policy.maxPositionAbsLots, ∃ base projected increasing, m.val < 0 ∧
        0 < increasing.val ∧ projected.val.natAbs ≤ m.val.natAbs ∧
        PassesElsewhere policy request base projected increasing := by
  constructor
  · rintro hclosed ⟨m, hm, base, projected, increasing, hneg, hpos, hkept, hpasses⟩
    have hposition : ∀ m' ∈ policy.maxPositionAbsLots, projected.val.natAbs ≤ m'.val.natAbs := by
      intro m' hm'
      rwa [← Option.mem_unique hm hm']
    obtain ⟨d, hd, hpermits⟩ := hpasses.permits decisionId hposition
    have hinc : request.increases = true :=
      increases_of_portion hpasses.reviewed.base_eq hpasses.reviewed.increasing_eq hpos
    rw [hclosed (.inl ⟨m, hm, hneg.le⟩) hinc d hd] at hpermits
    cases hpermits
  · intro hwhen hbad hinc d h
    by_contra hd
    replace hd := Bool.eq_true_of_not_eq_false hd
    have hvetted := vetted_of_permits h hd hinc
    obtain ⟨m, hm, hle⟩ := hbad.resolve_right hvetted.not_malformedElsewhere
    obtain ⟨base, projected, increasing, hpasses, hpos, hposition⟩ :=
      passesElsewhere_of_permits h hd hinc
    -- a limit of zero lets nothing through
    have hzero := hvetted.position m hm
    have hend := hvetted.open_end
    exact hwhen ⟨m, hm, base, projected, increasing, by omega, hpos, hposition m hm, hpasses⟩

/-- **A negative position limit is not noticed.** It works like its magnitude: an order from flat is
let through. -/
theorem negative_position_limit_is_unnoticed :
    { fixturePolicy with maxPositionAbsLots := some (.lit (-100)) }.Malformed ∧
    (fixtureRequest 0 (.lit 10)).increases = true ∧
    ∃ d, evaluate "risk-decision:1" { fixturePolicy with maxPositionAbsLots := some (.lit (-100)) }
        (fixtureRequest 0 (.lit 10)) = .ok d ∧ d.permitsDispatch = true :=
  ⟨.inl ⟨.lit (-100), rfl, by decide⟩, rfl, _, rfl, rfl⟩

/-! ## Errors and missing facts -/

/-- Some limit is outside its legal range: it is malformed, or a duration is negative. -/
def RiskPolicySet.OutOfRange (policy : RiskPolicySet) : Prop :=
  policy.Malformed ∨ Negative policy.maxUnprotectedDurationMs

/-- The report on an entry time that is not known. -/
def entryMissing : String := "max_unprotected_duration_ms requires a position entry watermark"

/-- An invalid policy is reported rightly: a limit is out of its legal range, and the report is not
the one on an entry time. -/
def RiskPolicySet.Blamed (policy : RiskPolicySet) (field : String) : Prop :=
  policy.OutOfRange ∧ field ≠ entryMissing

/-- `y` comes out as `x` does, unless `x` refuses, and an invalid policy is reported only as `P`
says. -/
def Firm {α : Type} (P : String → Prop) (x y : Check α) : Prop :=
  (y = x ∧ ∀ field, x = .error (.failed (.invalidPolicy field)) → P field) ∨
    ∃ refusal reason, x = .error (.refused refusal reason)

/-- The same of failures only: if `x` fails, so does `y`, and an invalid policy is reported only as
`P` says. -/
def FailsAlike {α : Type} (P : String → Prop) (x y : Check α) : Prop :=
  ∀ error, x = .error (.failed error) →
    y = .error (.failed error) ∧ ∀ field, error = .invalidPolicy field → P field

section

variable {α β : Type} {P : String → Prop} {c : Prop} [Decidable c] {x y : Check α}
  {f g : α → Check β}

/-- A step that passes is firm. -/
lemma firm_ok {a : α} : Firm P (.ok a) (.ok a) := .inl ⟨rfl, nofun⟩

/-- A step that may refuse is firm. -/
lemma firm_refuseIf {refusal : Refusal} {message : String} :
    Firm P (refuseIf c refusal code message) (refuseIf c refusal code message) := by
  by_cases hc : c
  · exact .inr ⟨_, _, if_pos hc⟩
  · exact .inl ⟨rfl, fun _ h => absurd (stopIf_eq_error.mp h).1 hc⟩

/-- A fact that is there is the same when the missing ones are supplied. -/
lemma firm_required {o o' : Option α} {message : String}
    (h : ∀ a ∈ o, a ∈ o') : Firm P (required o code message) (required o' code message) := by
  rcases o with _ | a
  · exact .inr ⟨_, _, rfl⟩
  · rw [Option.mem_def.mp (h a rfl)]
    exact firm_ok

/-- A step that reports an error of its own. -/
lemma firm_orStop {o : Option α} {error : RiskEngineError}
    (h : ∀ field, error ≠ .invalidPolicy field) :
    Firm P (orStop o (.failed error)) (orStop o (.failed error)) := by
  refine .inl ⟨rfl, fun field heq => ?_⟩
  cases (Except.orStop_eq_error.mp heq).2
  exact absurd rfl (h field)

/-- Arithmetic is firm. -/
lemma firm_checked {o : Option α} : Firm P (checked o) (checked o) := firm_orStop nofun

/-- The step that reports an invalid policy. -/
lemma firm_invalidPolicyIf {field : String} (h : c → P field) :
    Firm P (invalidPolicyIf c field) (invalidPolicyIf c field) := by
  refine .inl ⟨rfl, fun field' heq => ?_⟩
  obtain ⟨hc, hfield⟩ := stopIf_eq_error.mp heq
  cases hfield
  exact h hc

/-- Firm steps one after the other are firm. -/
lemma Firm.bind (hx : Firm P x y) (hf : ∀ a, x = .ok a → Firm P (f a) (g a)) :
    Firm P (x >>= f) (y >>= g) := by
  rcases hx with ⟨rfl, hblame⟩ | ⟨refusal, reason, rfl⟩
  · rcases y with stop | a
    · exact .inl ⟨rfl, fun field h => hblame field (congrArg Except.error (Except.error.inj h))⟩
    · exact hf a rfl
  · exact .inr ⟨refusal, reason, rfl⟩

/-- A check made only when the limit is set is firm if the check is. -/
lemma firm_whenSet {w : ℕ} {limit : Option (FixedInt w)} {check check' : FixedInt w → Check Unit}
    (h : ∀ m ∈ limit, Firm P (check m) (check' m)) :
    Firm P (whenSet limit check) (whenSet limit check') := by
  rcases limit with _ | m
  · exact firm_ok
  · exact h m rfl

/-- A check made only under a condition is firm if the check is. -/
lemma firm_ite {z z' : Check α} (h : c → Firm P x y) (h' : Firm P z z') :
    Firm P (if c then x else z) (if c then y else z') := by
  split_ifs with hc
  · exact h hc
  · exact h'

/-- What is firm fails alike. -/
lemma Firm.failsAlike (h : Firm P x y) : FailsAlike P x y := by
  rintro error rfl
  rcases h with ⟨rfl, hblame⟩ | ⟨refusal, reason, h⟩
  · exact ⟨rfl, fun field heq => hblame field (by rw [heq])⟩
  · cases h

/-- A firm step and one that fails alike fail alike. -/
lemma FailsAlike.bind (hx : Firm P x y) (hf : ∀ a, x = .ok a → FailsAlike P (f a) (g a)) :
    FailsAlike P (x >>= f) (y >>= g) := by
  rcases hx with ⟨rfl, hblame⟩ | ⟨refusal, reason, rfl⟩
  · rcases y with stop | a
    · exact Firm.failsAlike (.inl ⟨rfl, fun field h =>
        hblame field (congrArg Except.error (Except.error.inj h))⟩)
    · exact hf a rfl
  · exact nofun

end

/-- The engine asks for an entry time that is not known: new exposure has passed the checks before,
up to that of the market data, and the policy requires protection and legally caps the duration
without it. -/
def AsksUnknownEntry (policy : RiskPolicySet) (request : RiskRequest) : Prop :=
  ∃ base projected increasing, Reviewed policy request base projected increasing ∧
    request.action.directional = true ∧ 0 < increasing.val ∧
    validateMarketData policy request = .ok () ∧
    policy.protectionRequiredForNewExposure = true ∧
    (∃ m ∈ policy.maxUnprotectedDurationMs, 0 ≤ m.val) ∧
    request.snapshot.protection.positionEnteredAtUnixMs = none

/-- The request with other facts and other lot limits. -/
def RiskRequest.supplied (request : RiskRequest) (facts : ExemptFacts)
    (limits : Option BrokerLotLimits) : RiskRequest :=
  { request.withFacts facts with
    snapshot := { request.snapshot.withFacts facts with brokerLotLimits := limits } }

/-- The facts are those of the request, and some that it is missing. -/
structure Supplies (request : RiskRequest) (facts : ExemptFacts) (limits : Option BrokerLotLimits) :
    Prop where
  notional : facts.requestedNotionalNanos = request.requestedNotionalNanos
  marketData : ∀ a ∈ request.snapshot.validity.marketDataAsOfUnixMs, a ∈ facts.marketDataAsOfUnixMs
  protection : ∃ entered, facts.protection =
      { request.snapshot.protection with positionEnteredAtUnixMs := entered } ∧
    ∀ a ∈ request.snapshot.protection.positionEnteredAtUnixMs, a ∈ entered
  margin : ∀ a ∈ request.snapshot.margin, a ∈ facts.margin
  dailyPnl : ∀ a ∈ request.snapshot.brokerDailyPnlNanos, a ∈ facts.brokerDailyPnlNanos
  gross : ∀ a ∈ request.snapshot.grossExposureNanos, a ∈ facts.grossExposureNanos
  net : ∀ a ∈ request.snapshot.netExposureNanos, a ∈ facts.netExposureNanos
  instrument : ∀ a ∈ request.snapshot.instrumentExposureNanos, a ∈ facts.instrumentExposureNanos
  lotLimits : ∀ a ∈ request.snapshot.brokerLotLimits, a ∈ limits

/-- Nothing need be supplied. -/
lemma Supplies.refl (request : RiskRequest) :
    Supplies request (exemptFacts request) request.snapshot.brokerLotLimits :=
  ⟨rfl, fun _ h => h, ⟨_, rfl, fun _ h => h⟩, fun _ h => h, fun _ h => h, fun _ h => h,
    fun _ h => h, fun _ h => h, fun _ h => h⟩

/-- A fact that the policy asks for is missing. -/
def MissingFact (policy : RiskPolicySet) (request : RiskRequest) : Prop :=
  (policy.maxMarketDataAgeMs ≠ none ∧ request.snapshot.validity.marketDataAsOfUnixMs = none) ∨
  (policy.protectionRequiredForNewExposure = true ∧ policy.maxUnprotectedDurationMs ≠ none ∧
    request.snapshot.protection.positionEnteredAtUnixMs = none) ∨
  (policy.maxMarginUtilizationPpm ≠ none ∧ request.snapshot.margin = none) ∨
  (policy.maxDailyLossNanos ≠ none ∧ request.snapshot.brokerDailyPnlNanos = none) ∨
  (policy.maxGrossExposureNanos ≠ none ∧ request.snapshot.grossExposureNanos = none) ∨
  (policy.maxNetExposureAbsNanos ≠ none ∧ request.snapshot.netExposureNanos = none) ∨
  (policy.maxInstrumentExposureNanos ≠ none ∧ request.snapshot.instrumentExposureNanos = none) ∨
  (policy.requireProviderLotLimit = true ∧ request.snapshot.brokerLotLimits = none)

section

variable {policy : RiskPolicySet} {request : RiskRequest} {facts : ExemptFacts}
  {limits : Option BrokerLotLimits} {base projected increasing : I64}

/-- Vetted exposure has every fact that the policy asks for. -/
lemma Vetted.not_missingFact (h : Vetted policy request) : ¬ MissingFact policy request := by
  -- a limit that is set was compared with a fact
  have hset {w : ℕ} {limit : Option (FixedInt w)} {Q : FixedInt w → Prop} {c : Prop}
      (hvets : ∀ m ∈ limit, Q m ∧ ¬ c) (hlimit : limit ≠ none) : ¬ c := by
    obtain ⟨m, hm⟩ := Option.ne_none_iff_exists'.mp hlimit
    exact (hvets m hm).2
  rintro (⟨hlimit, hnone⟩ | ⟨hrequired, hlimit, hnone⟩ | ⟨hlimit, hnone⟩ | ⟨hlimit, hnone⟩ |
    ⟨hlimit, hnone⟩ | ⟨hlimit, hnone⟩ | ⟨hlimit, hnone⟩ | ⟨hrequired, hnone⟩)
  · exact hset h.marketData hlimit hnone
  · obtain ⟨m, hm⟩ := Option.ne_none_iff_exists'.mp hlimit
    obtain ⟨entered, hentered, -⟩ := h.duration hrequired m hm
    cases hentered.symm.trans hnone
  · exact hset h.margin hlimit hnone
  · exact hset h.dailyLoss hlimit hnone
  · exact hset h.gross hlimit hnone
  · exact hset h.net hlimit hnone
  · exact hset h.instrument hlimit hnone
  · exact h.provider hrequired hnone

/-- **The limits are firm**, where the entry time is known if it is asked for. -/
lemma firm_checkLimits (h : Supplies request facts limits)
    (hentry : 0 < increasing.val → validateMarketData policy request = .ok () →
      policy.protectionRequiredForNewExposure = true →
      (∃ m ∈ policy.maxUnprotectedDurationMs, 0 ≤ m.val) →
      request.snapshot.protection.positionEnteredAtUnixMs ≠ none) :
    Firm policy.Blamed (checkLimits policy request projected increasing)
      (checkLimits policy (request.supplied facts limits) projected increasing) := by
  obtain ⟨notional, asOf, protection, margin, pnl, gross, net, instrument⟩ := facts
  obtain ⟨hnotional, hasOf, ⟨entered, hprotection, hentered⟩, hmargin, hpnl, hgross, hnet,
    hinstrument, -⟩ := h
  subst hnotional hprotection
  have helse {field : String} (h : policy.MalformedElsewhere) (hfield : field ≠ entryMissing) :
      policy.Blamed field := ⟨.inl (.inr h), hfield⟩
  have hsigned (a : I128) : Firm policy.Blamed (projectSigned request a)
      (projectSigned request a) := firm_checked.bind fun _ _ => firm_checked
  have hexposure {limit exposure exposure' : Option I128} {field missing message : String}
      {project : I128 → Check I128} {code : RiskReasonCode}
      (hsupplied : ∀ a ∈ exposure, a ∈ exposure')
      (hproject : ∀ a, Firm policy.Blamed (project a) (project a))
      (hlegal : NotPositive limit → policy.Blamed field) : Firm policy.Blamed
        (checkExposure limit field exposure missing project code message increasing)
        (checkExposure limit field exposure' missing project code message increasing) := by
    refine firm_whenSet fun m hm => firm_ite (fun _ => ?_) firm_ok
    refine (firm_required hsupplied).bind fun current _ => (hproject current).bind fun _ _ => ?_
    refine Firm.bind ?_ fun _ _ => firm_refuseIf
    exact (firm_invalidPolicyIf fun hle => hlegal ⟨m, hm, hle⟩).bind fun _ _ => firm_ok
  refine Firm.bind (firm_ite (fun hpos => ?_) firm_ok) fun _ _ => ?_
  · refine Firm.bind (firm_whenSet fun m hm => ?_) fun _ hdata =>
      firm_ite (fun hrequired => ?_) firm_ok
    · refine (firm_invalidPolicyIf fun hneg => ?_).bind fun _ _ => ?_
      · exact helse (.inr (.inr (.inr (.inr (.inr (.inr ⟨m, hm, hneg⟩)))))) (by decide)
      · exact (firm_required hasOf).bind fun _ _ => firm_refuseIf
    · refine Firm.bind (firm_whenSet fun m hm => ?_) fun _ _ => firm_refuseIf
      refine (firm_invalidPolicyIf fun hneg => ⟨.inr ⟨m, hm, hneg⟩, by decide⟩).bind
        fun _ hlegal => ?_
      -- the one step that takes a missing fact for an invalid policy
      obtain ⟨time, htime⟩ := Option.ne_none_iff_exists'.mp
        (hentry hpos hdata hrequired ⟨m, hm, not_lt.mp (invalidPolicyIf_eq_ok.mp hlegal)⟩)
      rw [htime, Option.mem_def.mp (hentered time htime)]
      exact Firm.bind firm_ok fun _ _ => firm_refuseIf
  refine Firm.bind firm_refuseIf fun _ _ => ?_
  refine Firm.bind (firm_whenSet fun m hm => firm_ite (fun _ => ?_) firm_ok) fun _ _ => ?_
  · refine (firm_invalidPolicyIf fun hle => ?_).bind fun _ _ => ?_
    · exact helse (.inr (.inr (.inr (.inr (.inl ⟨m, hm, hle⟩))))) (by decide)
    · exact (firm_required hmargin).bind fun _ _ => firm_refuseIf.bind fun _ _ =>
        firm_checked.bind fun _ _ => firm_refuseIf
  refine Firm.bind (firm_whenSet fun m hm => firm_ite (fun _ => ?_) firm_ok) fun _ _ => ?_
  · refine (firm_required hpnl).bind fun _ _ => Firm.bind ?_ fun _ _ => firm_refuseIf
    refine (firm_invalidPolicyIf fun hle => ?_).bind fun _ _ => firm_ok
    exact helse (.inr (.inr (.inr (.inr (.inr (.inl ⟨m, hm, hle⟩)))))) (by decide)
  refine Firm.bind (firm_whenSet fun m _ => firm_refuseIf) fun _ _ => ?_
  refine (hexposure hgross (fun _ => firm_checked.bind fun _ _ => firm_checked)
    fun h => helse (.inr (.inl h)) (by decide)).bind fun _ _ => ?_
  refine (hexposure hnet hsigned fun h => helse (.inr (.inr (.inl h))) (by decide)).bind
    fun _ _ => ?_
  exact hexposure hinstrument hsigned fun h => helse (.inr (.inr (.inr (.inl h)))) (by decide)

/-- A quantity that was cut has a grant or is refused. -/
lemma grantOf_firm {requestedAbs : I64} {sizing : Sizing}
    (habs : requestedAbs.val = request.requestedDeltaLots.val.natAbs)
    (hcut : sizing.Cut requestedAbs) (error : RiskEngineError) :
    grantOf request sizing ≠ .error (.failed error) := by
  intro h
  rcases hcut.nonneg.lt_or_eq with hpos | hzero
  · obtain ⟨grant, hgrant⟩ := exists_grantOf habs hcut hpos
    cases h.symm.trans hgrant
  · have hflat : sizing.approvedAbs = 0 := FixedInt.ext hzero.symm
    simp only [grantOf, refuseIf, hflat, Except.stopIf, if_true] at h
    cases h

/-- The size of an order fails alike: without lot limits it fails only before they are looked at. -/
lemma resizeOrder_failsAlike (h : Supplies request facts limits) :
    FailsAlike policy.Blamed (resizeOrder policy request increasing)
      (resizeOrder policy (request.supplied facts limits) increasing) := by
  refine FailsAlike.bind firm_checked fun requestedAbs habs => ?_
  refine FailsAlike.bind ?_ fun sizing hsizing => ?_
  · unfold limitSingleOrder
    rcases hlimit : policy.maxSingleOrderLots with _ | m
    · exact firm_ok
    · exact (firm_invalidPolicyIf fun hle => ⟨.inl (.inr (.inl ⟨m, hlimit, hle⟩)), by decide⟩).bind
        fun _ _ => firm_ite (fun _ => firm_ok) firm_ok
  rcases hlots : request.snapshot.brokerLotLimits with _ | lots
  · intro error hrest
    have hnone : providerLimit policy request = .ok none := by simp only [providerLimit, hlots]
    rw [hnone] at hrest
    replace hrest : (limitProvider policy none increasing sizing >>= grantOf request) =
      .error (.failed error) := hrest
    rcases seq_eq_error.mp hrest with hrest | ⟨sizing', hsizing', hrest⟩
    · rcases seq_eq_error.mp hrest with hrest | ⟨_, -, hrest⟩
      · cases (stopIf_eq_error.mp hrest).2
      · cases hrest
    have habs := FixedInt.checkedAbs_eq_some.mp (checked_eq_ok.mp habs)
    have hlimit : request.snapshot.brokerLotLimits.bind (brokerLimit request) = none := by
      rw [hlots]
      rfl
    have hr : Resizable policy request increasing :=
      ⟨(limitSingleOrder_eq_ok.mp hsizing).1, (fun m hm => by rw [hlimit] at hm; cases hm),
        fun _ => (limitProvider_eq_ok.mp hsizing').1 rfl⟩
    obtain ⟨-, hcut⟩ := cut_allowedAbs (by omega) hr hlimit hsizing hsizing'
    exact absurd hrest (grantOf_firm habs hcut error)
  · obtain rfl : limits = request.snapshot.brokerLotLimits := hlots ▸ h.lotLimits lots hlots
    refine FailsAlike.bind ?_ fun limit _ => Firm.failsAlike (Firm.bind ?_ fun sizing' _ => ?_)
    · have hselected (value : I64) (fact : String) : Firm policy.Blamed
          (selectedLimit value fact) (selectedLimit value fact) := by
        refine Firm.bind (.inl ⟨rfl, fun field h => ?_⟩) fun _ _ => firm_ok
        cases (stopIf_eq_error.mp h).2
      have htranspose {α : Type} {f : α → Check I64}
          (hf : ∀ a, Firm policy.Blamed (f a) (f a)) (o : Option α) :
          Firm policy.Blamed (transpose f o) (transpose f o) := by
        rcases o with _ | a
        · exact firm_ok
        · exact (hf a).bind fun _ _ => firm_ok
      simp only [providerLimit, hlots]
      exact firm_ite (fun _ => firm_ok) (firm_ite (fun _ => htranspose (fun _ => hselected _ _) _)
        (htranspose (fun _ => hselected _ _) _))
    · rcases limit with _ | limit
      · exact firm_refuseIf.bind fun _ _ => firm_ok
      · exact firm_ite (fun _ => firm_ok) firm_ok
    · refine Firm.bind firm_refuseIf fun _ _ => firm_checked.bind fun approved _ => ?_
      exact firm_ite (fun _ => firm_ok) (firm_checked.bind fun _ _ => firm_ok)

/-- **A review fails alike when missing facts are supplied**, and blames the policy only if one of
its limits is out of range. -/
lemma review_failsAlike (hentry : ¬ AsksUnknownEntry policy request)
    (h : Supplies request facts limits) :
    FailsAlike policy.Blamed (review policy request)
      (review policy (request.supplied facts limits)) := by
  refine FailsAlike.bind (firm_refuseIf.bind fun _ _ => firm_refuseIf) fun _ hquantity => ?_
  refine FailsAlike.bind (firm_refuseIf.bind fun _ _ => firm_refuseIf) fun _ hinstrument => ?_
  refine FailsAlike.bind firm_refuseIf fun _ hrevision => ?_
  refine FailsAlike.bind (firm_refuseIf.bind fun _ _ => firm_refuseIf.bind fun _ _ =>
    firm_refuseIf) fun _ hruntime => ?_
  refine FailsAlike.bind firm_checked fun base hbase => FailsAlike.bind firm_checked
    fun projected hprojected => ?_
  refine FailsAlike.bind ?_ fun increasing hportion => FailsAlike.bind ?_ fun _ hstate => ?_
  · refine firm_ite (fun _ => firm_ok) (firm_ite (fun _ => firm_checked) ?_)
    exact firm_checked.bind fun _ _ => firm_checked.bind fun _ _ => firm_ok
  · unfold checkState
    rcases policy.state with _ | _ | _ | _ | _ <;> first | exact firm_ok | exact firm_refuseIf
  · by_cases hdir : request.action.directional = true
    · have hdir' : (request.supplied facts limits).action.directional = true := hdir
      rw [if_pos hdir, if_pos hdir']
      refine FailsAlike.bind (firm_checkLimits h fun hpos hdata hrequired hcap hunknown => ?_)
        fun _ _ => resizeOrder_failsAlike h
      have hreviewed : Reviewed policy request base projected increasing :=
        ⟨hquantity, hinstrument, hrevision, hruntime, hbase, checked_eq_ok.mp hprojected, hportion,
          hstate⟩
      exact hentry ⟨base, projected, increasing, hreviewed, hdir, hpos, hdata, hrequired, hcap,
        hunknown⟩
    · rw [if_neg hdir]
      exact nofun

/-- An entry time that is asked for and not known is reported as an invalid policy. -/
lemma review_of_asksUnknownEntry (h : AsksUnknownEntry policy request) :
    review policy request = .error (.failed (.invalidPolicy entryMissing)) := by
  obtain ⟨base, projected, increasing, hr, hdir, hpos, hdata, hrequired, ⟨m, hm, hlegal⟩,
    hunknown⟩ := h
  have hduration : validateUnprotectedDuration policy request =
      .error (.failed (.invalidPolicy entryMissing)) := by
    have hvalid : invalidPolicyIf (m.val < 0) "max_unprotected_duration_ms cannot be negative" =
        .ok () := invalidPolicyIf_eq_ok.mpr (not_lt.mpr hlegal)
    simp only [validateUnprotectedDuration, Option.mem_def.mp hm, whenSet, hvalid, hunknown, orStop]
    rfl
  have hnew : checkNewExposure policy request increasing =
      .error (.failed (.invalidPolicy entryMissing)) := by
    simp only [checkNewExposure, if_pos hpos, hdata, validateProtection,
      if_pos hrequired, hduration]
    rfl
  have hprojected : checked (base.checkedAdd request.requestedDeltaLots) = .ok projected :=
    checked_eq_ok.mpr hr.projected_eq
  simp only [review, hr.quantity, hr.instrument, hr.revision, hr.runtime, hr.base_eq, hprojected,
    hr.increasing_eq, hr.state, if_pos hdir, checkLimits, hnew, bind, Except.bind]

/-- The facts of a request, with an entry time. -/
def withEntryTime (request : RiskRequest) (entered : I64) : ExemptFacts :=
  { exemptFacts request with
    protection := { request.snapshot.protection with positionEnteredAtUnixMs := some entered } }

/-- An entry time that is not known may be supplied. -/
lemma supplies_withEntryTime (hunknown : request.snapshot.protection.positionEnteredAtUnixMs = none)
    (entered : I64) :
    Supplies request (withEntryTime request entered) request.snapshot.brokerLotLimits where
  __ := Supplies.refl request
  protection := ⟨some entered, rfl, fun _ h => by rw [hunknown] at h; cases h⟩

end

/-- The request of the tests, with a long position of 10 lots, a stop for some of them and a
plan. -/
def protectedRequest (stopLots : I64) (state : ProtectionPlanState) : RiskRequest :=
  { fixtureRequest (.lit 10) (.lit 1) with
    snapshot := { (fixtureRequest (.lit 10) (.lit 1)).snapshot with
      protection := ⟨stopLots, .lit 10, none, some "plan-1", some state⟩ } }

end VoxTrader.Risk
