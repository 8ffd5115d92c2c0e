import VoxTrader.Risk.Engine
import Mathlib.Tactic.Ring

/-!
# Bounds on what the risk engine approves

What an approval says about exposure and limits. The checks are made on the requested quantity,
and the order is cut down afterwards; the results here are about the quantity that is finally
approved.

## Main definitions

* `cap` — a quantity cut to an optional limit.
* `brokerLimit` — the broker limit that applies to a side, a margin flag and an order type.
* `exactBase` — the base position as an exact integer.

## Main results

* `increasingPortion_cases` — an order either adds all of its lots, or takes off what is there
  and adds the rest.
* `resizeOrder_eq_ok` — the approved quantity is the requested one, capped twice, with its sign.
* `restricted_state_only_reduces` — in a restricted state an approval only reduces.
* `approved_within_limits` — the limits hold at the approved quantity.
-/

namespace VoxTrader.Risk

open Except (seq_eq_ok)
open FixedInt (checkedAbs_eq_some neg_or_pos_of_ne_zero signum_eq_of_neg signum_eq_of_pos
  checkedMul_eq_some signum_of_neg signum_of_pos)

/-! ## The increasing portion -/

variable {base increasing : I64} {limit : Option I64} {q m : I64} {policy : RiskPolicySet}
  {sizing sizing' : Sizing} {request : RiskRequest} {grant : Grant} {requestedAbs : I64}
  {fact : String} {projected : I64} {decisionId : String} {d : RiskDecision}

/-- **The increasing portion, by cases.** From flat or in the same direction the whole order adds
exposure; against the position it adds what is left after closing it.

**Proof sketch.** The definition branches on equal signs. Two non-zero integers have equal signs
iff they are on the same side of zero, which leaves the two cases. -/
lemma increasingPortion_cases {delta : I64} (hdelta : delta ≠ 0)
    (h : increasingPortion base delta = .ok increasing) :
    ((0 ≤ base.val ∧ 0 < delta.val ∨ base.val ≤ 0 ∧ delta.val < 0) ∧
        increasing.val = delta.val.natAbs) ∨
      ((base.val < 0 ∧ 0 < delta.val ∨ 0 < base.val ∧ delta.val < 0) ∧
        increasing.val = delta.val.natAbs - base.val.natAbs) := by
  unfold increasingPortion at h
  rw [if_neg hdelta] at h
  split_ifs at h with hsame
  · left
    rw [checked_eq_ok, checkedAbs_eq_some] at h
    refine ⟨?_, h⟩
    rcases neg_or_pos_of_ne_zero hdelta with hneg | hpos
    · rcases hsame with rfl | hsame
      · exact .inr ⟨le_refl _, hneg⟩
      · exact .inr ⟨((signum_eq_of_neg hneg).mp hsame).le, hneg⟩
    · rcases hsame with rfl | hsame
      · exact .inl ⟨le_refl _, hpos⟩
      · exact .inl ⟨((signum_eq_of_pos hpos).mp hsame).le, hpos⟩
  · right
    simp only [seq_eq_ok, checked_eq_ok, checkedAbs_eq_some,
      Except.ok.injEq] at h
    obtain ⟨baseAbs, hbase, deltaAbs, hdeltaAbs, rfl⟩ := h
    push Not at hsame
    obtain ⟨hbase0, hsign⟩ := hsame
    rw [FixedInt.saturatingSub_val_of_nonneg (by omega) (by omega), hbase, hdeltaAbs]
    refine ⟨?_, rfl⟩
    rcases neg_or_pos_of_ne_zero hbase0 with hbneg | hbpos
    · rcases neg_or_pos_of_ne_zero hdelta with hneg | hpos
      · exact absurd ((signum_eq_of_neg hneg).mpr hbneg) hsign
      · exact .inl ⟨hbneg, hpos⟩
    · rcases neg_or_pos_of_ne_zero hdelta with hneg | hpos
      · exact .inr ⟨hbpos, hneg⟩
      · exact absurd ((signum_eq_of_pos hpos).mpr hbpos) hsign

/-! ## The size of an approval -/

/-- The quantity `q`, cut to `limit` when there is one. -/
def cap (limit : Option I64) (q : I64) : I64 :=
  match limit with
  | none => q
  | some m => if m.val < q.val then m else q

/-- A cap never raises a quantity. -/
lemma cap_le (limit : Option I64) (q : I64) : (cap limit q).val ≤ q.val := by
  unfold cap
  rcases limit with _ | m
  · exact le_refl _
  · by_cases h : m.val < q.val
    · simpa only [if_pos h] using h.le
    · simp only [if_neg h, le_refl]

/-- A capped quantity keeps to the limit. -/
lemma cap_le_limit : (cap (some m) q).val ≤ m.val := by
  by_cases h : m.val < q.val
  · simp only [cap, if_pos h, le_refl]
  · simp only [cap, if_neg h]
    omega

/-- A non-negative limit keeps a quantity non-negative. -/
lemma cap_nonneg (hq : 0 ≤ q.val) (hlimit : ∀ m ∈ limit, 0 ≤ m.val) : 0 ≤ (cap limit q).val := by
  rcases limit with _ | m
  · exact hq
  · have hm := hlimit m rfl
    by_cases h : m.val < q.val
    · simpa only [cap, if_pos h] using hm
    · simpa only [cap, if_neg h] using hq

/-- The single-order limit is a cap by a positive limit, and it leaves a reason iff it cuts. -/
lemma limitSingleOrder_eq_ok : limitSingleOrder policy q = .ok sizing ↔
      (∀ m ∈ policy.maxSingleOrderLots, 0 < m.val) ∧
      ⟨cap policy.maxSingleOrderLots q,
        if cap policy.maxSingleOrderLots q = q then none
        else some ⟨.resizedToPolicyLimit,
          "quantity resized to configured max single-order limit"⟩⟩ = sizing := by
  unfold limitSingleOrder
  rcases policy.maxSingleOrderLots with _ | m
  · simp [cap]
  · by_cases h : m.val < q.val
    · have hne : m ≠ q := by
        rintro rfl
        exact absurd h (lt_irrefl _)
      simp [cap, h, hne]
    · simp [cap, h]

/-- The provider limit is a cap, and without a limit it insists on one for new exposure. It
leaves a reason whenever it cuts. -/
lemma limitProvider_eq_ok : limitProvider policy limit increasing sizing = .ok sizing' ↔
      (limit = none → ¬ (policy.requireProviderLotLimit ∧ 0 < increasing.val)) ∧
      ⟨cap limit sizing.approvedAbs,
        if cap limit sizing.approvedAbs = sizing.approvedAbs then sizing.resizeReason
        else some ⟨.resizedToProviderLimit,
          "quantity resized to the applicable broker max-lots constraint"⟩⟩ = sizing' := by
  unfold limitProvider
  rcases limit with _ | m
  · simp [cap]
  · by_cases h : m.val < sizing.approvedAbs.val
    · have hne : m ≠ sizing.approvedAbs := by
        intro hm
        rw [hm] at h
        exact absurd h (lt_irrefl _)
      simp [cap, h, hne]
    · simp [cap, h]

/-- What one size limit does to a quantity on its way: it is `cut` to a smaller one, and a cut
leaves a reason. -/
structure Sizing.Cut (requested : I64) (sizing : Sizing) : Prop where
  /-- The quantity is not negative. -/
  nonneg : 0 ≤ sizing.approvedAbs.val
  /-- The quantity is not larger than requested. -/
  le : sizing.approvedAbs.val ≤ requested.val
  /-- A quantity that differs from the requested one has a reason. -/
  reason : sizing.approvedAbs ≠ requested → sizing.resizeReason ≠ none

/-- The grant of a quantity that was cut: the quantity is positive, carries the requested sign,
and counts as resized iff it is not the requested one. -/
lemma grantOf_eq_ok (hcut : sizing.Cut requestedAbs) (h : grantOf request sizing = .ok grant) :
    0 < sizing.approvedAbs.val ∧
      grant.approvedDeltaLots.val = sizing.approvedAbs.val * request.requestedDeltaLots.signum ∧
      (grant.resized = false ↔ grant.approvedDeltaLots = request.requestedDeltaLots) := by
  simp only [grantOf, seq_eq_ok, refuseIf_eq_ok, exists_const, checked_eq_ok,
    checkedMul_eq_some] at h
  obtain ⟨hne, approved, happroved, h⟩ := h
  have hpos : 0 < sizing.approvedAbs.val :=
    lt_of_le_of_ne hcut.nonneg fun h => hne (FixedInt.val_eq_zero.mp h.symm)
  split_ifs at h with hreq
  · cases h
    exact ⟨hpos, happroved, by simp [hreq]⟩
  · simp only [seq_eq_ok, Except.ok.injEq] at h
    obtain ⟨reason, -, rfl⟩ := h
    exact ⟨hpos, happroved, by simp [hreq]⟩

/-- A positive quantity that was cut always has a grant: it fits with either sign, and a cut
quantity has a reason to report. -/
lemma exists_grantOf (habs : requestedAbs.val = request.requestedDeltaLots.val.natAbs)
    (hcut : sizing.Cut requestedAbs) (hpos : 0 < sizing.approvedAbs.val) :
    ∃ grant, grantOf request sizing = .ok grant := by
  have hle := hcut.le
  obtain ⟨approved, happroved⟩ : ∃ approved : I64, approved.val =
      sizing.approvedAbs.val * request.requestedDeltaLots.signum := by
    rcases lt_trichotomy request.requestedDeltaLots.val 0 with hneg | hzero | hgt
    · obtain ⟨b, hb⟩ := FixedInt.exists_val_eq_neg hcut.nonneg
      exact ⟨b, by rw [hb, signum_of_neg hneg]; ring⟩
    · omega
    · exact ⟨sizing.approvedAbs, by rw [signum_of_pos hgt]; ring⟩
  have hne : sizing.approvedAbs ≠ 0 := fun h => by
    rw [h] at hpos
    exact absurd hpos (lt_irrefl _)
  by_cases hreq : approved = request.requestedDeltaLots
  · refine ⟨⟨request.requestedDeltaLots, approved, false, ⟨.approved,
      "request satisfies current risk policy and provider constraints"⟩⟩, ?_⟩
    simp only [grantOf, seq_eq_ok, refuseIf_eq_ok, exists_const, checked_eq_ok,
      checkedMul_eq_some]
    exact ⟨hne, approved, happroved, if_pos hreq⟩
  · -- the quantity was cut, so a limit left its reason
    have hcutne : sizing.approvedAbs ≠ requestedAbs := by
      intro heq
      apply hreq
      apply FixedInt.ext
      rw [happroved, heq, habs]
      exact (mul_comm _ _).trans (Int.sign_mul_natAbs _)
    obtain ⟨reason, hreason⟩ := Option.ne_none_iff_exists'.mp (hcut.reason hcutne)
    refine ⟨⟨request.requestedDeltaLots, approved, true, reason⟩, ?_⟩
    simp only [grantOf, seq_eq_ok, refuseIf_eq_ok, exists_const, checked_eq_ok,
      checkedMul_eq_some]
    refine ⟨hne, approved, happroved, ?_⟩
    rw [if_neg hreq, seq_eq_ok]
    exact ⟨reason, checked_eq_ok.mpr hreason, rfl⟩

/-! ## The broker limit -/

/-- The broker limit for the side, the margin flag and the type of the order. -/
def brokerLimit (request : RiskRequest) (limits : BrokerLotLimits) : Option I64 :=
  if 0 < request.requestedDeltaLots.val then
    (if request.confirmMarginTrade then limits.buyMargin else limits.buyOwn).map fun limit =>
      if request.isMarketOrder then limit.maxMarketLots else limit.maxLots
  else
    (if request.confirmMarginTrade then limits.sellMargin else limits.sellOwn).map (·.maxLots)

/-- A selected limit is the given value, which is not negative. -/
lemma selectedLimit_eq_ok {value : I64} :
    selectedLimit value fact = .ok m ↔ 0 ≤ value.val ∧ value = m := by
  simp [selectedLimit]

/-- A selection made on an optional limit is made on its value. -/
lemma transpose_selectedLimit {α : Type} {value : α → I64} {x : Option α} :
    transpose (fun a => selectedLimit (value a) fact) x = .ok limit ↔
      (∀ m ∈ limit, 0 ≤ m.val) ∧ x.map value = limit := by
  rcases x with _ | a
  · simp only [transpose, Except.ok.injEq, Option.map_none]
    constructor
    · rintro rfl
      exact ⟨fun m hm => (by cases hm), rfl⟩
    · exact fun h => h.2
  · simp only [transpose, seq_eq_ok, selectedLimit_eq_ok, Except.ok.injEq, Option.map_some]
    constructor
    · rintro ⟨b, ⟨hb, rfl⟩, rfl⟩
      exact ⟨fun m hm => Option.mem_some_iff.mp hm ▸ hb, rfl⟩
    · rintro ⟨hm, rfl⟩
      exact ⟨value a, ⟨hm _ rfl, rfl⟩, rfl⟩

/-- Once margin is allowed where it is asked for, the provider limit is the broker limit of the
order, and it is not negative. -/
lemma providerLimit_eq_ok (hmargin : ¬ (request.confirmMarginTrade ∧ ¬ policy.allowMargin)) :
    providerLimit policy request = .ok limit ↔
      (∀ m ∈ limit, 0 ≤ m.val) ∧
        request.snapshot.brokerLotLimits.bind (brokerLimit request) = limit := by
  unfold providerLimit
  rcases request.snapshot.brokerLotLimits with _ | limits
  · simp only [Except.ok.injEq, Option.bind_none]
    constructor
    · rintro rfl
      exact ⟨fun m hm => (by cases hm), rfl⟩
    · exact fun h => h.2
  · simp only [if_neg hmargin, Option.bind_some, brokerLimit]
    by_cases hbuy : 0 < request.requestedDeltaLots.val
    · rw [if_pos hbuy, if_pos hbuy]
      exact transpose_selectedLimit
    · rw [if_neg hbuy, if_neg hbuy]
      exact transpose_selectedLimit

/-! ## The approved quantity -/

/-- The quantity an order may have: the requested one, capped by the policy and by the broker. -/
def allowedAbs (policy : RiskPolicySet) (request : RiskRequest) (requestedAbs : I64) : I64 :=
  cap (request.snapshot.brokerLotLimits.bind (brokerLimit request))
    (cap policy.maxSingleOrderLots requestedAbs)

/-- What the resize of an order demands of the policy and the broker's facts. -/
structure Resizable (policy : RiskPolicySet) (request : RiskRequest) (increasing : I64) :
    Prop where
  /-- The single-order limit is positive. -/
  singleOrder : ∀ m ∈ policy.maxSingleOrderLots, 0 < m.val
  /-- The broker limit is not negative. -/
  broker : ∀ m ∈ request.snapshot.brokerLotLimits.bind (brokerLimit request), 0 ≤ m.val
  /-- New exposure has a broker limit where the policy insists on one. -/
  provider : request.snapshot.brokerLotLimits.bind (brokerLimit request) = none →
    ¬ (policy.requireProviderLotLimit ∧ 0 < increasing.val)

/-- The quantity after both limits is a cut of the requested one. -/
lemma cut_allowedAbs (hq : 0 ≤ q.val) (hr : Resizable policy request increasing)
    (hlimit : request.snapshot.brokerLotLimits.bind (brokerLimit request) = limit)
    (h₁ : limitSingleOrder policy q = .ok sizing)
    (h₂ : limitProvider policy limit increasing sizing = .ok sizing') :
    sizing'.approvedAbs = allowedAbs policy request q ∧ sizing'.Cut q := by
  subst hlimit
  obtain ⟨-, rfl⟩ := limitSingleOrder_eq_ok.mp h₁
  obtain ⟨-, rfl⟩ := limitProvider_eq_ok.mp h₂
  refine ⟨rfl, ?_, ?_, ?_⟩
  · exact cap_nonneg (cap_nonneg hq fun m hm => (hr.singleOrder m hm).le) hr.broker
  · exact (cap_le _ _).trans (cap_le _ _)
  · intro hne
    -- either the broker's cap cut last, or it left the policy's cut in place
    by_cases hcap : cap (request.snapshot.brokerLotLimits.bind (brokerLimit request))
        (cap policy.maxSingleOrderLots q) = cap policy.maxSingleOrderLots q
    · have hfirst : cap policy.maxSingleOrderLots q ≠ q := fun h => hne (hcap.trans h)
      simp [hcap, hfirst]
    · simp [hcap]

/-- **The approved quantity.** A resize passes iff the limits it reads are usable and leave some
lots; it then grants the allowed quantity with the requested sign, as a resize iff that is not
the requested quantity. -/
lemma resizeOrder_eq_ok (hmargin : ¬ (request.confirmMarginTrade ∧ ¬ policy.allowMargin))
    (h : resizeOrder policy request increasing = .ok grant) : Resizable policy request increasing ∧
      ∃ requestedAbs : I64, requestedAbs.val = request.requestedDeltaLots.val.natAbs ∧
        0 < (allowedAbs policy request requestedAbs).val ∧
        grant.approvedDeltaLots.val =
          (allowedAbs policy request requestedAbs).val * request.requestedDeltaLots.signum ∧
        (grant.resized = false ↔ grant.approvedDeltaLots = request.requestedDeltaLots) := by
  simp only [resizeOrder, seq_eq_ok, checked_eq_ok, checkedAbs_eq_some] at h
  obtain ⟨requestedAbs, habs, sizing, h₁, limit, hlimit, sizing', h₂, hg⟩ := h
  obtain ⟨hnonneg, rfl⟩ := (providerLimit_eq_ok hmargin).mp hlimit
  have hr : Resizable policy request increasing :=
    ⟨(limitSingleOrder_eq_ok.mp h₁).1, hnonneg, (limitProvider_eq_ok.mp h₂).1⟩
  obtain ⟨hallowed, hcut⟩ := cut_allowedAbs (by omega) hr rfl h₁ h₂
  obtain ⟨hpos, happroved, hresized⟩ := grantOf_eq_ok hcut hg
  rw [hallowed] at hpos happroved
  exact ⟨hr, requestedAbs, habs, hpos, happroved, hresized⟩

/-- Usable limits that leave some lots always give a grant. -/
lemma exists_resizeOrder (hmargin : ¬ (request.confirmMarginTrade ∧ ¬ policy.allowMargin))
    (hr : Resizable policy request increasing)
    (habs : requestedAbs.val = request.requestedDeltaLots.val.natAbs)
    (hpos : 0 < (allowedAbs policy request requestedAbs).val) :
    ∃ grant, resizeOrder policy request increasing = .ok grant := by
  obtain ⟨sizing, h₁⟩ : ∃ sizing, limitSingleOrder policy requestedAbs = .ok sizing :=
    ⟨_, limitSingleOrder_eq_ok.mpr ⟨hr.singleOrder, rfl⟩⟩
  obtain ⟨sizing', h₂⟩ : ∃ sizing', limitProvider policy
      (request.snapshot.brokerLotLimits.bind (brokerLimit request)) increasing sizing =
        .ok sizing' :=
    ⟨_, limitProvider_eq_ok.mpr ⟨hr.provider, rfl⟩⟩
  have hlimit := (providerLimit_eq_ok hmargin).mpr ⟨hr.broker, rfl⟩
  obtain ⟨hallowed, hcut⟩ := cut_allowedAbs (by omega) hr rfl h₁ h₂
  obtain ⟨grant, hg⟩ := exists_grantOf habs hcut (by rw [hallowed]; exact hpos)
  refine ⟨grant, ?_⟩
  simp only [resizeOrder, seq_eq_ok, checked_eq_ok, checkedAbs_eq_some]
  exact ⟨requestedAbs, habs, sizing, h₁, _, hlimit, sizing', h₂, hg⟩

/-! ## The engine's own test fixtures -/

/-- The request the engine's tests start from: `delta` lots on a position of `base` lots. -/
def fixtureRequest (base delta : I64) : RiskRequest where
  requestId := "req-1"
  accountId := "account-1"
  brokerConnectionId := "connection-1"
  instrumentId := "instrument-1"
  strategyId := none
  source := .manual
  action := .directionalOrder
  requestedDeltaLots := delta
  requestedNotionalNanos := .truncate (delta.val * 1000000000)
  isMarketOrder := false
  confirmMarginTrade := false
  emergencyReduction := false
  nowUnixMs := .lit 10000
  snapshot :=
    { runtimeReady := true
      executionAuthorized := true
      instrumentTradable := true
      instrumentLotSize := .lit 1
      unresolvedUnknownConflict := false
      currentPositionLots := base
      openOrderDeltaLots := 0
      unresolvedUnknownDeltaLots := 0
      activeReservationDeltaLots := 0
      grossExposureNanos := some 0
      netExposureNanos := some 0
      instrumentExposureNanos := some 0
      brokerDailyPnlNanos := none
      brokerLotLimits := some
        ⟨some ⟨.lit 100, .lit 90⟩, some ⟨.lit 200, .lit 180⟩, some ⟨.lit 100⟩, some ⟨.lit 200⟩⟩
      margin := none
      protection := .default
      validity := ⟨1, 2, 3, 4, some (.lit 9900), 5, 6, 7⟩ }

/-- The policy the engine's tests start from. -/
def fixturePolicy : RiskPolicySet where
  revision := 6
  state := .normal
  allowMargin := false
  requireProviderLotLimit := true
  maxMarketDataAgeMs := some (.lit 1000)
  maxSingleOrderLots := some (.lit 50)
  maxPositionAbsLots := some (.lit 100)
  maxGrossExposureNanos := none
  maxNetExposureAbsNanos := none
  maxInstrumentExposureNanos := none
  maxMarginUtilizationPpm := none
  maxDailyLossNanos := none
  protectionRequiredForNewExposure := false
  maxUnprotectedDurationMs := none

/-! ## Bounds on an approval -/

/-- The base position as an exact integer. -/
def exactBase (snapshot : RiskSnapshot) : ℤ :=
  snapshot.currentPositionLots.val + snapshot.openOrderDeltaLots.val +
    snapshot.unresolvedUnknownDeltaLots.val + snapshot.activeReservationDeltaLots.val

/-- What a directional decision that permits dispatch was decided on. -/
structure Approved (policy : RiskPolicySet) (request : RiskRequest) (d : RiskDecision)
    (base projected increasing requestedAbs : I64) : Prop where
  /-- The request moves some lots. -/
  nonzero : request.requestedDeltaLots ≠ 0
  /-- The base position is exact. -/
  base_val : base.val = exactBase request.snapshot
  /-- So is the projected position. -/
  projected_val : projected.val = base.val + request.requestedDeltaLots.val
  /-- The increasing portion was computed from both. -/
  increasing_ok : increasingPortion base request.requestedDeltaLots = .ok increasing
  /-- The risk state let the order through. -/
  state : checkState policy request increasing = .ok ()
  /-- The limits let the order through. -/
  limits : checkLimits policy request projected increasing = .ok ()
  /-- The size limits were usable. -/
  resizable : Resizable policy request increasing
  /-- The magnitude of the requested quantity. -/
  abs_val : requestedAbs.val = request.requestedDeltaLots.val.natAbs
  /-- Some lots are left. -/
  pos : 0 < (allowedAbs policy request requestedAbs).val
  /-- The approved quantity is the allowed one, with the requested sign. -/
  approved_val : d.approvedDeltaLots.val =
    (allowedAbs policy request requestedAbs).val * request.requestedDeltaLots.signum
  /-- The outcome says whether the quantity was cut. -/
  outcome : d.outcome = if d.approvedDeltaLots = request.requestedDeltaLots then .approve
    else .resize

/-- The margin check, alone, of the limits that passed. -/
lemma checkLimits_margin (h : checkLimits policy request projected increasing = .ok ()) :
    ¬ (request.confirmMarginTrade ∧ ¬ policy.allowMargin) := by
  simp only [checkLimits, seq_eq_ok, Except.exists_unit_ok] at h
  exact refuseIf_eq_ok.mp h.2.1

/-- The position check, alone, of the limits that passed. -/
lemma checkLimits_position (h : checkLimits policy request projected increasing = .ok ()) :
    ∀ m ∈ policy.maxPositionAbsLots, 0 < increasing.val →
      projected.val.natAbs ≤ m.val.natAbs := by
  simp only [checkLimits, seq_eq_ok, Except.exists_unit_ok] at h
  intro m hm hinc
  have hpos := whenSet_eq_ok.mp h.2.2.2.2.1 m hm
  simp only [refuseIf_eq_ok, not_and, not_lt] at hpos
  by_contra hlt
  exact absurd hinc (not_lt.mpr (hpos (not_le.mp hlt)))

/-- **Every directional approval was decided on exact figures**, and is the allowed quantity with
the requested sign. -/
lemma exists_approved (h : evaluate decisionId policy request = .ok d)
    (hd : d.permitsDispatch = true) (hdir : d.action.directional = true) :
    ∃ base projected increasing requestedAbs,
      Approved policy request d base projected increasing requestedAbs := by
  obtain ⟨grant, hr, rfl⟩ := evaluate_permits h hd
  have hdir' : request.action.directional = true := hdir
  obtain ⟨base, projected, increasing, ⟨hq, -, -, -, hbase, hproj, hinc, hs⟩, hl, hg⟩ :=
    review_directional hdir' hr
  obtain ⟨hres, requestedAbs, habs, hpos, happroved, hresized⟩ :=
    resizeOrder_eq_ok (checkLimits_margin hl) hg
  refine ⟨base, projected, increasing, requestedAbs, ?_, basePosition_eq_ok hbase,
    FixedInt.checkedAdd_eq_some.mp hproj, hinc, hs, hl, hres, habs, hpos, happroved, ?_⟩
  · simp only [checkQuantity, seq_eq_ok, refuseIf_eq_ok, exists_const] at hq
    exact fun hzero => hq.1 ⟨hdir', hzero⟩
  · show (if grant.resized then RiskOutcome.resize else .approve) =
      if grant.approvedDeltaLots = request.requestedDeltaLots then .approve else .resize
    by_cases heq : grant.approvedDeltaLots = request.requestedDeltaLots
    · rw [if_pos heq, if_neg (by simp [hresized.mpr heq])]
    · rw [if_neg heq, if_pos]
      by_contra hfalse
      exact heq (hresized.mp (by simpa using hfalse))

/-- A directional approval records the requested quantity. -/
lemma evaluate_requested (h : evaluate decisionId policy request = .ok d)
    (hd : d.permitsDispatch = true) (hdir : d.action.directional = true) :
    d.requestedDeltaLots = request.requestedDeltaLots := by
  obtain ⟨grant, hr, rfl⟩ := evaluate_permits h hd
  obtain ⟨_, _, _, -, -, hg⟩ := review_directional hdir hr
  simp only [resizeOrder, grantOf, seq_eq_ok] at hg
  obtain ⟨_, -, _, -, _, -, _, -, _, -, _, -, hgrant⟩ := hg
  split_ifs at hgrant
  · rw [← Except.ok.inj hgrant]
    rfl
  · obtain ⟨_, -, hgrant⟩ := Except.seq_eq_ok.mp hgrant
    rw [← Except.ok.inj hgrant]
    rfl

/-- The approved quantity has the requested sign and at most the requested magnitude. -/
lemma Approved.approved_cases
    (ha : Approved policy request d base projected increasing requestedAbs) :
    (0 < request.requestedDeltaLots.val ∧
        d.approvedDeltaLots.val = (allowedAbs policy request requestedAbs).val ∨
      request.requestedDeltaLots.val < 0 ∧
        d.approvedDeltaLots.val = -(allowedAbs policy request requestedAbs).val) ∧
    (allowedAbs policy request requestedAbs).val ≤ request.requestedDeltaLots.val.natAbs := by
  have hle : (allowedAbs policy request requestedAbs).val ≤ requestedAbs.val :=
    (cap_le _ _).trans (cap_le _ _)
  refine ⟨?_, ha.abs_val ▸ hle⟩
  rcases neg_or_pos_of_ne_zero ha.nonzero with hneg | hpos
  · refine .inr ⟨hneg, ?_⟩
    rw [ha.approved_val, signum_of_neg hneg, mul_neg_one]
  · refine .inl ⟨hpos, ?_⟩
    rw [ha.approved_val, signum_of_pos hpos, mul_one]

/-- An approval that adds no exposure takes lots off the position: it points the other way and
is no larger. -/
lemma Approved.reduces (ha : Approved policy request d base projected increasing requestedAbs)
    (hinc : increasing.val ≤ 0) :
    base.val < 0 ∧ 0 < d.approvedDeltaLots.val ∧ d.approvedDeltaLots.val ≤ -base.val ∨
      0 < base.val ∧ d.approvedDeltaLots.val < 0 ∧ -base.val ≤ d.approvedDeltaLots.val := by
  obtain ⟨hsign, hle⟩ := ha.approved_cases
  have hpos := ha.pos
  rcases increasingPortion_cases ha.nonzero ha.increasing_ok with ⟨hsame, hval⟩ | ⟨hopp, hval⟩
  all_goals omega

/-- In a restricted state a directional order passes only when it adds no exposure, and under
the kill-switch or when halted only as an emergency reduction. -/
lemma checkState_restricted
    (hstate : policy.state = .reduceOnly ∨ policy.state = .halted ∨ policy.state = .killSwitch)
    (hdir : request.action.directional = true) (h : checkState policy request increasing = .ok ()) :
    increasing.val ≤ 0 ∧ (policy.state = .halted ∨ policy.state = .killSwitch →
      request.emergencyReduction = true) := by
  have hgate : (¬ (¬ (request.emergencyReduction ∧ increasing = 0) ∧ ¬ request.action.cleanup)) →
      increasing.val ≤ 0 ∧ request.emergencyReduction = true := by
    intro hgate
    have hcleanup : ¬ request.action.cleanup = true := by simp [hdir]
    by_cases hem : request.emergencyReduction ∧ increasing = 0
    · exact ⟨by rw [hem.2]; exact le_refl _, hem.1⟩
    · exact absurd ⟨hem, hcleanup⟩ hgate
  unfold checkState at h
  rcases hstate with hs | hs | hs <;> rw [hs] at h ⊢ <;> simp only [refuseIf_eq_ok] at h
  · exact ⟨not_lt.mp h, by simp⟩
  all_goals exact ⟨(hgate h).1, fun _ => (hgate h).2⟩

/-- **Restricted states never increase exposure.** In reduce-only, halted and kill-switch, an
approved directional order points against the base position and is no larger than it, so that it
ends flat or on the same side with a smaller magnitude; halted and kill-switch also demand the
emergency flag.

**Proof sketch.** The state gate leaves only orders without increasing portion
(`checkState_restricted`). Such an order is opposite to the position and not larger than it, and
cutting it down keeps both (`Approved.reduces`). -/
theorem restricted_state_only_reduces (decisionId : String) (policy : RiskPolicySet)
    (request : RiskRequest) (d : RiskDecision)
    (hstate : policy.state = .reduceOnly ∨ policy.state = .halted ∨ policy.state = .killSwitch)
    (h : evaluate decisionId policy request = .ok d) (hd : d.permitsDispatch = true)
    (hdir : d.action.directional = true) :
    d.approvedDeltaLots.val.sign = -(exactBase request.snapshot).sign ∧
      0 < d.approvedDeltaLots.val.natAbs ∧
      d.approvedDeltaLots.val.natAbs ≤ (exactBase request.snapshot).natAbs ∧
      (exactBase request.snapshot + d.approvedDeltaLots.val = 0 ∨
        (exactBase request.snapshot + d.approvedDeltaLots.val).sign =
            (exactBase request.snapshot).sign ∧
          (exactBase request.snapshot + d.approvedDeltaLots.val).natAbs <
            (exactBase request.snapshot).natAbs) ∧
      (policy.state = .halted ∨ policy.state = .killSwitch →
        request.emergencyReduction = true) := by
  obtain ⟨base, projected, increasing, requestedAbs, ha⟩ := exists_approved h hd hdir
  have haction : request.action.directional = true := by
    obtain ⟨grant, -, rfl⟩ := evaluate_permits h hd
    exact hdir
  obtain ⟨hinc, hemergency⟩ := checkState_restricted hstate haction ha.state
  rw [← ha.base_val]
  rcases ha.reduces hinc with ⟨hbase, hpos, hle⟩ | ⟨hbase, hneg, hle⟩
  · refine ⟨?_, by omega, by omega, ?_, hemergency⟩
    · rw [Int.sign_eq_one_of_pos hpos, Int.sign_eq_neg_one_of_neg hbase, neg_neg]
    · rcases hle.lt_or_eq with hlt | heq
      · refine .inr ⟨?_, by omega⟩
        rw [Int.sign_eq_neg_one_of_neg hbase, Int.sign_eq_neg_one_of_neg (by omega)]
      · exact .inl (by omega)
  · refine ⟨?_, by omega, by omega, ?_, hemergency⟩
    · rw [Int.sign_eq_neg_one_of_neg hneg, Int.sign_eq_one_of_pos hbase]
    · rcases hle.lt_or_eq with hlt | heq
      · refine .inr ⟨?_, by omega⟩
        rw [Int.sign_eq_one_of_pos hbase, Int.sign_eq_one_of_pos (by omega)]
      · exact .inl (by omega)

/-- The grant of a reduction of 30 lots in full. -/
def closeGrant : Grant :=
  ⟨.lit (-30), .lit (-30), false,
    ⟨.approved, "request satisfies current risk policy and provider constraints"⟩⟩

/-- A long position of 60 lots may be reduced by 30 in reduce-only. -/
theorem reduce_only_close_reduces :
    evaluate "risk-decision:1" { fixturePolicy with state := .reduceOnly }
        (fixtureRequest (.lit 60) (.lit (-30))) =
      .ok (approve "risk-decision:1" { fixturePolicy with state := .reduceOnly }
        (fixtureRequest (.lit 60) (.lit (-30))) closeGrant) ∧
    closeGrant.approvedDeltaLots.val.natAbs ≤
      (exactBase (fixtureRequest (.lit 60) (.lit (-30))).snapshot).natAbs := by
  have heval : evaluate "risk-decision:1" { fixturePolicy with state := .reduceOnly }
        (fixtureRequest (.lit 60) (.lit (-30))) =
      .ok (approve "risk-decision:1" { fixturePolicy with state := .reduceOnly }
        (fixtureRequest (.lit 60) (.lit (-30))) closeGrant) := by rfl
  exact ⟨heval, (restricted_state_only_reduces _ _ _ _ (.inl rfl) heval rfl rfl).2.2.1⟩

/-- The position an approval leads to is within the position limit or no larger than before.

**Proof sketch.** With no increasing portion the order reduces. Otherwise the limit was checked
at the projected position, and the approved quantity, which lies between none and the requested
one, leads to a point between the base and the projected position. -/
lemma Approved.position_le (ha : Approved policy request d base projected increasing requestedAbs)
    (hm : m ∈ policy.maxPositionAbsLots) (hnonneg : 0 ≤ m.val) :
    ((base.val + d.approvedDeltaLots.val).natAbs : ℤ) ≤ max (base.val.natAbs : ℤ) m.val := by
  obtain ⟨hsign, hle⟩ := ha.approved_cases
  have hpos := ha.pos
  have hproj := ha.projected_val
  by_cases hinc : 0 < increasing.val
  · have hlimit := checkLimits_position ha.limits m hm hinc
    omega
  · rcases ha.reduces (not_lt.mp hinc) with hr | hr
    all_goals omega

/-- **The limits hold at the approved quantity.** An approved directional order has the requested
sign, between one lot and the requested quantity, keeps to the single-order limit and to the
broker limit of its side, margin flag and type, does not carry the position beyond both the base
and the position limit, and is an approval iff it has the requested quantity, otherwise a resize.
-/
theorem approved_within_limits (decisionId : String) (policy : RiskPolicySet)
    (request : RiskRequest) (d : RiskDecision) (h : evaluate decisionId policy request = .ok d)
    (hd : d.permitsDispatch = true) (hdir : d.action.directional = true) :
    d.approvedDeltaLots.val.sign = request.requestedDeltaLots.val.sign ∧
      1 ≤ d.approvedDeltaLots.val.natAbs ∧
      d.approvedDeltaLots.val.natAbs ≤ request.requestedDeltaLots.val.natAbs ∧
      (∀ m ∈ policy.maxSingleOrderLots, (d.approvedDeltaLots.val.natAbs : ℤ) ≤ m.val) ∧
      (∀ limits ∈ request.snapshot.brokerLotLimits, ∀ m ∈ brokerLimit request limits,
        (d.approvedDeltaLots.val.natAbs : ℤ) ≤ m.val) ∧
      (∀ m ∈ policy.maxPositionAbsLots, 0 ≤ m.val →
        ((exactBase request.snapshot + d.approvedDeltaLots.val).natAbs : ℤ) ≤
          max ((exactBase request.snapshot).natAbs : ℤ) m.val) ∧
      (d.outcome = .approve ↔ d.approvedDeltaLots = request.requestedDeltaLots) ∧
      (d.outcome = .resize ↔ d.approvedDeltaLots ≠ request.requestedDeltaLots) := by
  obtain ⟨base, projected, increasing, requestedAbs, ha⟩ := exists_approved h hd hdir
  obtain ⟨hsign, hle⟩ := ha.approved_cases
  have hpos := ha.pos
  have habs : (d.approvedDeltaLots.val.natAbs : ℤ) = (allowedAbs policy request requestedAbs).val :=
    by omega
  refine ⟨?_, by omega, by omega, ?_, ?_, ?_, ?_, ?_⟩
  · rcases hsign with ⟨hreq, heq⟩ | ⟨hreq, heq⟩
    · rw [Int.sign_eq_one_of_pos hreq, Int.sign_eq_one_of_pos (by omega)]
    · rw [Int.sign_eq_neg_one_of_neg hreq, Int.sign_eq_neg_one_of_neg (by omega)]
  · intro m hm
    rw [habs, allowedAbs, Option.mem_def.mp hm]
    exact (cap_le _ _).trans cap_le_limit
  · intro limits hlimits m hm
    rw [habs, allowedAbs, Option.mem_def.mp hlimits, Option.bind_some, Option.mem_def.mp hm]
    exact cap_le_limit
  · intro m hm hnonneg
    rw [← ha.base_val]
    exact ha.position_le hm hnonneg
  all_goals
    rw [ha.outcome]
    by_cases heq : d.approvedDeltaLots = request.requestedDeltaLots <;> simp [heq]

/-- An order of 75 lots from flat is cut to the 50 of the single-order limit. -/
theorem oversized_order_is_resized :
    ∃ d, evaluate "risk-decision:1" fixturePolicy (fixtureRequest 0 (.lit 75)) = .ok d ∧
      d.approvedDeltaLots = .lit 50 ∧ d.permitsDispatch = true ∧
      (d.outcome = .resize ↔ d.approvedDeltaLots ≠ .lit 75) :=
  ⟨_, rfl, rfl, rfl, by
    obtain ⟨-, -, -, -, -, -, -, hresize⟩ := approved_within_limits "risk-decision:1"
      fixturePolicy (fixtureRequest 0 (.lit 75)) _ rfl rfl rfl
    exact hresize⟩

end VoxTrader.Risk
