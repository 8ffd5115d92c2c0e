import VoxTrader.Risk.ApprovalBounds

/-!
# Tightening a policy

Policies of one revision are ordered by how restrictive they are, field by field. The risk engine
is monotone in that order: what a tighter policy lets out, a looser one lets out too, with at
least the same quantity. Since the result compares two runs, it is proved check by check: each
check that passes under the tighter policy passes under the looser one.

## Main definitions

* `LimitTighter` — a limit is smaller, or newly set.
* `RiskState.rank` — how restrictive a risk state is.
* `Tighter` — the order on policies.

## Main results

* `checkState_mono`, `checkLimits_mono` — the checks are monotone.
* `allowedAbs_mono` — so is the quantity the size limits leave.
* `tighter_policy_permits_less` — a tighter policy never lets out more.
-/

namespace VoxTrader.Risk

open Except (seq_eq_ok exists_unit_ok)

/-! ## The order -/

/-- The limit `p` is at most the limit `q`, where no limit is the largest. -/
def LimitTighter {w : ℕ} (p q : Option (FixedInt w)) : Prop :=
  ∀ b ∈ q, ∃ a ∈ p, a.val ≤ b.val

/-- How restrictive a risk state is. -/
def RiskState.rank : RiskState → ℕ
  | .normal | .warning => 0
  | .reduceOnly => 1
  | .halted | .killSwitch => 2

/-- The policy `p` is at least as tight as `q` in every field, under one revision. -/
structure Tighter (p q : RiskPolicySet) : Prop where
  revision : p.revision = q.revision
  state : q.state.rank ≤ p.state.rank
  allowMargin : p.allowMargin = true → q.allowMargin = true
  requireProviderLotLimit : q.requireProviderLotLimit = true → p.requireProviderLotLimit = true
  maxMarketDataAgeMs : LimitTighter p.maxMarketDataAgeMs q.maxMarketDataAgeMs
  maxSingleOrderLots : LimitTighter p.maxSingleOrderLots q.maxSingleOrderLots
  maxPositionAbsLots : LimitTighter p.maxPositionAbsLots q.maxPositionAbsLots
  maxGrossExposureNanos : LimitTighter p.maxGrossExposureNanos q.maxGrossExposureNanos
  maxNetExposureAbsNanos : LimitTighter p.maxNetExposureAbsNanos q.maxNetExposureAbsNanos
  maxInstrumentExposureNanos :
    LimitTighter p.maxInstrumentExposureNanos q.maxInstrumentExposureNanos
  maxMarginUtilizationPpm : LimitTighter p.maxMarginUtilizationPpm q.maxMarginUtilizationPpm
  maxDailyLossNanos : LimitTighter p.maxDailyLossNanos q.maxDailyLossNanos
  protectionRequired :
    q.protectionRequiredForNewExposure = true → p.protectionRequiredForNewExposure = true
  maxUnprotectedDurationMs : LimitTighter p.maxUnprotectedDurationMs q.maxUnprotectedDurationMs

/-- **Limit checks are monotone.** When a check passes for every larger limit too, it passes under
every looser limit. -/
lemma whenSet_mono {w : ℕ} {p q : Option (FixedInt w)} {check : FixedInt w → Check Unit}
    (hpq : LimitTighter p q)
    (hcheck : ∀ a b : FixedInt w, a ∈ p → b ∈ q → a.val ≤ b.val → check a = .ok () →
      check b = .ok ())
    (h : whenSet p check = .ok ()) : whenSet q check = .ok () := by
  rw [whenSet_eq_ok] at h ⊢
  intro b hb
  obtain ⟨a, ha, hab⟩ := hpq b hb
  exact hcheck a b ha hb hab (h a ha)

/-! ## The checks, one by one -/

section Monotone

variable {p q : RiskPolicySet} {request : RiskRequest} {increasing projected : I64}

/-- A looser risk state lets through what a tighter one does, as long as a clean-up adds no
exposure. -/
lemma checkState_mono (hstate : q.state.rank ≤ p.state.rank)
    (hcleanup : request.action.cleanup = true → increasing = 0)
    (h : checkState p request increasing = .ok ()) : checkState q request increasing = .ok () := by
  -- whatever passes in the tightest states adds nothing, so passes in all of them
  have hheld : ¬ (¬ (request.emergencyReduction ∧ increasing = 0) ∧ ¬ request.action.cleanup) →
      increasing = 0 := by
    intro hheld
    by_cases hc : request.action.cleanup = true
    · exact hcleanup hc
    · by_contra hne
      exact hheld ⟨fun h => hne h.2, hc⟩
  unfold checkState at h ⊢
  rcases hp : p.state with _ | _ | _ | _ | _ <;> rcases hq : q.state with _ | _ | _ | _ | _ <;>
    simp only [hp, hq, RiskState.rank, refuseIf_eq_ok] at h hstate ⊢ <;>
    first
      | exact h
      | omega
      | (rw [hheld h]; exact lt_irrefl _)

section

variable (hpq : Tighter p q)

include hpq

/-- A looser age limit accepts what a tighter one does. -/
lemma validateMarketData_mono
    (h : validateMarketData p request = .ok ()) : validateMarketData q request = .ok () := by
  refine whenSet_mono hpq.maxMarketDataAgeMs ?_ h
  intro a b _ _ hab ha
  simp only [seq_eq_ok, invalidPolicyIf_eq_ok, exists_const, required_eq_ok,
    refuseIf_eq_ok] at ha ⊢
  obtain ⟨hnonneg, asOf, has, hage⟩ := ha
  exact ⟨by omega, asOf, has, by omega⟩

/-- A looser duration limit accepts what a tighter one does. -/
lemma validateUnprotectedDuration_mono
    (h : validateUnprotectedDuration p request = .ok ()) :
    validateUnprotectedDuration q request = .ok () := by
  refine whenSet_mono hpq.maxUnprotectedDurationMs ?_ h
  intro a b _ _ hab ha
  simp only [seq_eq_ok, invalidPolicyIf_eq_ok, exists_const, Except.orStop_eq_ok,
    refuseIf_eq_ok] at ha ⊢
  obtain ⟨hnonneg, enteredAt, hentered, hage⟩ := ha
  exact ⟨by omega, enteredAt, hentered, by omega⟩

/-- Protection that satisfies a tighter policy satisfies a looser one. -/
lemma validateProtection_mono
    (h : validateProtection p request = .ok ()) : validateProtection q request = .ok () := by
  unfold validateProtection at h ⊢
  by_cases hq : q.protectionRequiredForNewExposure = true
  · rw [if_pos (hpq.protectionRequired hq)] at h
    rw [if_pos hq]
    simp only [seq_eq_ok, exists_unit_ok] at h ⊢
    exact ⟨validateUnprotectedDuration_mono hpq h.1, h.2⟩
  · rw [if_neg hq]

/-- Margin that a tighter policy allows is allowed by a looser one. -/
lemma checkMarginAllowed_mono
    (h : checkMarginAllowed p request = .ok ()) : checkMarginAllowed q request = .ok () := by
  simp only [checkMarginAllowed, refuseIf_eq_ok, not_and, not_not] at h ⊢
  exact fun hconfirm => hpq.allowMargin (h hconfirm)

/-- A looser utilization limit accepts what a tighter one does. -/
lemma checkMarginUtilization_mono
    (h : checkMarginUtilization p request increasing = .ok ()) :
    checkMarginUtilization q request increasing = .ok () := by
  refine whenSet_mono hpq.maxMarginUtilizationPpm ?_ h
  intro a b _ _ hab ha
  rw [Except.ite_eq_ok] at ha ⊢
  intro hinc
  have ha := ha hinc
  simp only [seq_eq_ok, invalidPolicyIf_eq_ok, exists_const, required_eq_ok,
    refuseIf_eq_ok] at ha ⊢
  obtain ⟨hpos, margin, hmargin, hfacts, utilization, hutil, hle⟩ := ha
  exact ⟨by omega, margin, hmargin, hfacts, utilization, hutil, by omega⟩

end

/-- A positive limit is the given value. -/
lemma positiveLimit_eq_ok {value limit : I128} {field : String} :
    positiveLimit value field = .ok limit ↔ 0 < value.val ∧ value = limit := by
  simp [positiveLimit]

/-- A looser loss limit accepts what a tighter one does. -/
lemma checkDailyLoss_mono (hpq : Tighter p q)
    (h : checkDailyLoss p request increasing = .ok ()) :
    checkDailyLoss q request increasing = .ok () := by
  refine whenSet_mono hpq.maxDailyLossNanos ?_ h
  intro a b _ _ hab ha
  rw [Except.ite_eq_ok] at ha ⊢
  intro hinc
  have ha := ha hinc
  simp only [seq_eq_ok, required_eq_ok, positiveLimit_eq_ok, refuseIf_eq_ok] at ha ⊢
  obtain ⟨pnl, hpnl, limit, ⟨hpos, rfl⟩, hle⟩ := ha
  exact ⟨pnl, hpnl, b, ⟨by omega, rfl⟩, by omega⟩

/-- A looser position limit accepts what a tighter one does. Both have to be non-negative: only
their magnitude is looked at. -/
lemma checkMaxPosition_mono (hpq : Tighter p q) (hp : ∀ m ∈ p.maxPositionAbsLots, 0 ≤ m.val)
    (h : checkMaxPosition p projected increasing = .ok ()) :
    checkMaxPosition q projected increasing = .ok () := by
  refine whenSet_mono hpq.maxPositionAbsLots ?_ h
  intro a b ha _ hab hcheck
  have hnonneg := hp a ha
  rw [refuseIf_eq_ok] at hcheck ⊢
  unfold FixedInt.unsignedAbs at hcheck ⊢
  omega

/-- A looser notional limit accepts what a tighter one does. -/
lemma checkExposure_mono {limitP limitQ exposure : Option I128} {field missing message : String}
    {project : I128 → Check I128} {code : RiskReasonCode} (hpq : LimitTighter limitP limitQ)
    (h : checkExposure limitP field exposure missing project code message increasing = .ok ()) :
    checkExposure limitQ field exposure missing project code message increasing = .ok () := by
  refine whenSet_mono hpq ?_ h
  intro a b _ _ hab ha
  rw [Except.ite_eq_ok] at ha ⊢
  intro hinc
  have ha := ha hinc
  simp only [seq_eq_ok, required_eq_ok, positiveLimit_eq_ok, refuseIf_eq_ok] at ha ⊢
  obtain ⟨current, hcurrent, projected, hprojected, bound, ⟨hpos, rfl⟩, hle⟩ := ha
  exact ⟨current, hcurrent, projected, hprojected, b, ⟨by omega, rfl⟩, by omega⟩

/-- **The limits are monotone.** All checks after the risk state, together. -/
lemma checkLimits_mono (hpq : Tighter p q) (hp : ∀ m ∈ p.maxPositionAbsLots, 0 ≤ m.val)
    (h : checkLimits p request projected increasing = .ok ()) :
    checkLimits q request projected increasing = .ok () := by
  simp only [checkLimits, seq_eq_ok, exists_unit_ok] at h ⊢
  obtain ⟨hnew, hmargin, hutil, hloss, hposition, hgross, hnet, hinstrument⟩ := h
  refine ⟨?_, checkMarginAllowed_mono hpq hmargin, checkMarginUtilization_mono hpq hutil,
    checkDailyLoss_mono hpq hloss, checkMaxPosition_mono hpq hp hposition,
    checkExposure_mono hpq.maxGrossExposureNanos hgross,
    checkExposure_mono hpq.maxNetExposureAbsNanos hnet,
    checkExposure_mono hpq.maxInstrumentExposureNanos hinstrument⟩
  unfold checkNewExposure at hnew ⊢
  rw [Except.ite_eq_ok] at hnew ⊢
  intro hinc
  have hnew := hnew hinc
  simp only [seq_eq_ok, exists_unit_ok] at hnew ⊢
  exact ⟨validateMarketData_mono hpq hnew.1, validateProtection_mono hpq hnew.2⟩

end Monotone

/-! ## The quantity -/

/-- A looser limit and a larger quantity leave a larger capped quantity. -/
lemma cap_mono {p q : Option I64} {a b : I64} (hpq : LimitTighter p q) (hab : a.val ≤ b.val) :
    (cap p a).val ≤ (cap q b).val := by
  rcases q with _ | n
  · exact (cap_le p a).trans hab
  · obtain ⟨m, hm, hle⟩ := hpq n rfl
    rw [Option.mem_def.mp hm]
    by_cases hn : n.val < b.val
    · rw [show cap (some n) b = n from if_pos hn]
      exact cap_le_limit.trans hle
    · rw [show cap (some n) b = b from if_neg hn]
      exact (cap_le _ a).trans hab

variable {p q : RiskPolicySet} {request : RiskRequest} {increasing : I64}

/-- A looser policy allows at least the quantity a tighter one does. -/
lemma allowedAbs_mono {requestedAbs : I64} (hpq : Tighter p q) :
    (allowedAbs p request requestedAbs).val ≤ (allowedAbs q request requestedAbs).val :=
  cap_mono (fun b hb => ⟨b, hb, le_refl _⟩) (cap_mono hpq.maxSingleOrderLots (le_refl _))

/-- Size limits that are usable under a tighter policy are usable under a looser one. -/
lemma Resizable.mono (hpq : Tighter p q) (hr : Resizable p request increasing) :
    Resizable q request increasing where
  singleOrder b hb := by
    obtain ⟨a, ha, hab⟩ := hpq.maxSingleOrderLots b hb
    exact (hr.singleOrder a ha).trans_le hab
  broker := hr.broker
  provider hnone h := hr.provider hnone ⟨hpq.requireProviderLotLimit h.1, h.2⟩

/-! ## The decision -/

/-- A clean-up action moves no lots, so it adds no exposure. -/
lemma increasing_of_cleanup {base : I64} (hq : checkQuantity request = .ok ())
    (hinc : increasingPortion base request.requestedDeltaLots = .ok increasing)
    (hcleanup : request.action.cleanup = true) : increasing = 0 := by
  simp only [checkQuantity, seq_eq_ok, refuseIf_eq_ok, exists_const] at hq
  have hdir : ¬ request.action.directional = true := by simpa using hcleanup
  have hzero : request.requestedDeltaLots = 0 := by
    by_contra hne
    exact hq.2 ⟨hdir, hne⟩
  rw [increasingPortion, if_pos hzero, Except.ok.injEq] at hinc
  exact hinc.symm

/-- A positive quantity with a sign has that sign and that magnitude. -/
lemma sign_natAbs_mul_sign {a z : ℤ} (ha : 0 < a) (hz : z ≠ 0) :
    (a * z.sign).sign = z.sign ∧ ((a * z.sign).natAbs : ℤ) = a := by
  constructor
  · rw [Int.sign_mul, Int.sign_eq_one_of_pos ha, one_mul, Int.sign_sign]
  · rw [Int.natAbs_mul, Int.natAbs_sign_of_ne_zero hz, mul_one]
    exact Int.natAbs_of_nonneg ha.le

/-- The checks before the limits pass under a looser policy, at the same exposure. -/
lemma Reviewed.mono {base projected : I64} (hpq : Tighter p q)
    (h : Reviewed p request base projected increasing) :
    Reviewed q request base projected increasing where
  __ := h
  revision := by
    have hrevision := h.revision
    unfold checkPolicyRevision at hrevision ⊢
    rwa [← hpq.revision]
  state := checkState_mono hpq.state (increasing_of_cleanup h.quantity h.increasing_eq) h.state

/-- **A review is monotone in the policy.** When it passes under a tighter policy it passes under
a looser one, with the same sign and at least the quantity.

**Proof sketch.** The exposure of the request does not depend on the policy, so both runs see the
same figures and each check is compared with itself. What remains is the quantity: both runs cap
the same requested quantity, the looser one by looser limits. -/
lemma review_mono {grant : Grant} (hpq : Tighter p q) (hp : ∀ m ∈ p.maxPositionAbsLots, 0 ≤ m.val)
    (h : review p request = .ok grant) : ∃ grant', review q request = .ok grant' ∧
      grant'.approvedDeltaLots.val.sign = grant.approvedDeltaLots.val.sign ∧
      grant.approvedDeltaLots.val.natAbs ≤ grant'.approvedDeltaLots.val.natAbs := by
  obtain ⟨base, projected, increasing, hreviewed, h⟩ := review_eq_ok.mp h
  have hreviewed' := hreviewed.mono hpq
  by_cases hdir : request.action.directional = true
  · rw [if_pos hdir] at h
    obtain ⟨hl, hg⟩ := h
    obtain ⟨hres, requestedAbs, habs, hpos, happroved, -⟩ :=
      resizeOrder_eq_ok (checkLimits_margin hl) hg
    have hle : (allowedAbs p request requestedAbs).val ≤ (allowedAbs q request requestedAbs).val :=
      allowedAbs_mono hpq
    have hl' := checkLimits_mono hpq hp hl
    obtain ⟨grant', hg'⟩ := exists_resizeOrder (checkLimits_margin hl') (hres.mono hpq) habs
      (hpos.trans_le hle)
    obtain ⟨-, requestedAbs', habs', hpos', happroved', -⟩ :=
      resizeOrder_eq_ok (checkLimits_margin hl') hg'
    obtain rfl : requestedAbs' = requestedAbs := FixedInt.ext (habs'.trans habs.symm)
    have hne : request.requestedDeltaLots.val ≠ 0 := by
      have hcap : (allowedAbs p request requestedAbs').val ≤ requestedAbs'.val :=
        (cap_le _ _).trans (cap_le _ _)
      omega
    refine ⟨grant', review_eq_ok.mpr ⟨base, projected, increasing, hreviewed', ?_⟩, ?_⟩
    · rw [if_pos hdir]
      exact ⟨hl', hg'⟩
    obtain ⟨hsign, habsp⟩ := sign_natAbs_mul_sign hpos hne
    obtain ⟨hsign', habsq⟩ := sign_natAbs_mul_sign hpos' hne
    rw [happroved, happroved', FixedInt.signum, hsign, hsign']
    exact ⟨rfl, by omega⟩
  · rw [if_neg hdir] at h
    exact ⟨grant, review_eq_ok.mpr ⟨base, projected, increasing, hreviewed', by rwa [if_neg hdir]⟩,
      rfl, le_rfl⟩

/-- **Tightening a policy never loosens a decision.** What a policy lets out, every looser policy
of the same revision lets out, in the same direction and with at least the quantity. -/
theorem tighter_policy_permits_less (decisionId decisionId' : String) (p q : RiskPolicySet)
    (request : RiskRequest) (d : RiskDecision) (hpq : Tighter p q)
    (hp : ∀ m ∈ p.maxPositionAbsLots, 0 ≤ m.val)
    (h : evaluate decisionId p request = .ok d) (hd : d.permitsDispatch = true) :
    ∃ d', evaluate decisionId' q request = .ok d' ∧ d'.permitsDispatch = true ∧
      d'.approvedDeltaLots.val.sign = d.approvedDeltaLots.val.sign ∧
      d.approvedDeltaLots.val.natAbs ≤ d'.approvedDeltaLots.val.natAbs := by
  obtain ⟨grant, hr, rfl⟩ := evaluate_permits h hd
  obtain ⟨grant', hr', hsign, hle⟩ := review_mono hpq hp hr
  refine ⟨_, evaluate_of_review hr', ?_, hsign, hle⟩
  rw [permitsDispatch_approve] at hd ⊢
  rw [hd, ne_eq, ne_eq, ← FixedInt.val_eq_zero, ← FixedInt.val_eq_zero, ← Int.sign_eq_zero_iff_zero,
    ← hsign, Int.sign_eq_zero_iff_zero]

/-- A policy with its single-order limit halved is tighter: the order of 75 lots it cuts to 25 is
cut to 50 by the policy it came from. -/
theorem halved_single_order_limit :
    ∃ d d', evaluate "risk-decision:1" { fixturePolicy with maxSingleOrderLots := some (.lit 25) }
        (fixtureRequest 0 (.lit 75)) = .ok d ∧
      evaluate "risk-decision:2" fixturePolicy (fixtureRequest 0 (.lit 75)) = .ok d' ∧
      d.permitsDispatch = true ∧ d'.permitsDispatch = true ∧
      d.approvedDeltaLots.val.natAbs ≤ d'.approvedDeltaLots.val.natAbs := by
  have heval : evaluate "risk-decision:1"
    { fixturePolicy with maxSingleOrderLots := some (.lit 25) }
      (fixtureRequest 0 (.lit 75)) = .ok (approve "risk-decision:1"
        { fixturePolicy with maxSingleOrderLots := some (.lit 25) } (fixtureRequest 0 (.lit 75))
        ⟨.lit 75, .lit 25, true, ⟨.resizedToPolicyLimit,
          "quantity resized to configured max single-order limit"⟩⟩) := by rfl
  have hrefl : ∀ {w : ℕ} (limit : Option (FixedInt w)), LimitTighter limit limit :=
    fun _ b hb => ⟨b, hb, le_refl _⟩
  have htighter : Tighter { fixturePolicy with maxSingleOrderLots := some (.lit 25) }
      fixturePolicy :=
    { revision := rfl
      state := le_refl _
      allowMargin := id
      requireProviderLotLimit := id
      maxMarketDataAgeMs := hrefl _
      maxSingleOrderLots := fun b hb => ⟨.lit 25, rfl, by cases hb; decide⟩
      maxPositionAbsLots := hrefl _
      maxGrossExposureNanos := hrefl _
      maxNetExposureAbsNanos := hrefl _
      maxInstrumentExposureNanos := hrefl _
      maxMarginUtilizationPpm := hrefl _
      maxDailyLossNanos := hrefl _
      protectionRequired := id
      maxUnprotectedDurationMs := hrefl _ }
  obtain ⟨d', hd', hpermits, -, hle⟩ := tighter_policy_permits_less "risk-decision:1"
    "risk-decision:2" _ fixturePolicy _ _ htighter (fun m hm => by cases hm; decide) heval rfl
  exact ⟨_, d', heval, hd', rfl, hpermits, hle⟩

end VoxTrader.Risk
