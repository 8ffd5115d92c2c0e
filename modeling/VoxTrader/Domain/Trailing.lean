import VoxTrader.Runtime.Model

/-!
# Trailing thresholds

A trailing stop follows the best price a position has seen. Its threshold lies a distance behind
that price: a fixed one, or a percentage of the price itself, rounded towards zero.

## Main definitions

* `TrailingSemanticReference` — the side, the distance and the best price so far.
* `TrailingSemanticReference.IsBest` — a price is the best of a list for the side.

## Main results

* `threshold_follows` — **a threshold never moves against the position**, depends on the best price
  only, and lies between zero and it for a long position that trails by a percentage.
-/

namespace VoxTrader.Domain

open VoxTrader.Runtime

/-- One hundred percent, in nanos. -/
def hundredPercent : I128 := ⟨100000000000, by decide, by decide⟩

/-- What a trailing stop means, apart from the broker that executes it. -/
structure TrailingSemanticReference where
  side : PositionSide
  distance : TrailingDistance
  favorableExtreme : I128
deriving DecidableEq

namespace TrailingSemanticReference

/-- Start from a reference price. -/
def new (side : PositionSide) (reference : I128) (distance : TrailingDistance) :
    TrailingSemanticReference := ⟨side, distance, reference⟩

/-- The price is better for the side than the other one. -/
def favorable : PositionSide → (price extreme : I128) → Prop
  | .long, price, extreme => extreme.val < price.val
  | .short, price, extreme => price.val < extreme.val

instance (side : PositionSide) (price extreme : I128) : Decidable (favorable side price extreme) :=
  match side with
  | .long | .short => inferInstanceAs (Decidable (_ < _))

/-- Take a price that is better than the best one so far. -/
def observe (tracker : TrailingSemanticReference) (price : I128) : TrailingSemanticReference :=
  if favorable tracker.side price tracker.favorableExtreme then
    { tracker with favorableExtreme := price }
  else tracker

/-- How far behind the best price the threshold lies. -/
def delta (tracker : TrailingSemanticReference) : Option I128 :=
  match tracker.distance.mode with
  | .absolutePrice => some tracker.distance.value
  | .relativePercent => do
    let product ← tracker.favorableExtreme.checkedMul tracker.distance.value.val
    product.checkedDiv hundredPercent

/-- The threshold, unless a step of its computation overflows. -/
def threshold (tracker : TrailingSemanticReference) : Option I128 := do
  let delta ← tracker.delta
  match tracker.side with
  | .long => tracker.favorableExtreme.checkedSub delta
  | .short => tracker.favorableExtreme.checkedAdd delta

variable {tracker : TrailingSemanticReference} {side : PositionSide} {reference price best t : I128}
  {distance : TrailingDistance} {prices : List I128}

/-! ## The best price -/

/-- The price is in the list, and no other one is better for the side. -/
def IsBest (side : PositionSide) (best : I128) (prices : List I128) : Prop :=
  best ∈ prices ∧ ∀ price ∈ prices, ¬ favorable side price best

lemma IsBest.unique {best' : I128} (h : IsBest side best prices) (h' : IsBest side best' prices) :
    best = best' := by
  have hle := h.2 best' h'.1
  have hge := h'.2 best h.1
  apply FixedInt.ext
  cases side <;> simp only [favorable] at hle hge <;> omega

lemma favorable_irrefl : ¬ favorable side price price := by
  cases side <;> simp [favorable]

lemma favorable_asymm {extreme : I128} (h : favorable side price extreme) :
    ¬ favorable side extreme price := by
  cases side <;> simp only [favorable] at * <;> omega

@[simp] lemma observe_side : (tracker.observe price).side = tracker.side := by
  unfold observe
  split <;> rfl

@[simp] lemma observe_distance : (tracker.observe price).distance = tracker.distance := by
  unfold observe
  split <;> rfl

/-- One price more: the best so far or the price. -/
lemma observe_isBest (h : IsBest tracker.side tracker.favorableExtreme prices) :
    IsBest tracker.side (tracker.observe price).favorableExtreme (price :: prices) := by
  unfold observe
  obtain ⟨hmem, hbest⟩ := h
  split_ifs with hbetter
  · refine ⟨List.mem_cons_self, fun other hother => ?_⟩
    have hother' : other = price ∨ other ∈ prices := List.mem_cons.mp hother
    rcases hother' with rfl | hother'
    · exact favorable_irrefl
    · have := hbest other hother'
      revert hbetter this
      cases tracker.side <;> simp only [favorable] <;> omega
  · refine ⟨List.mem_cons_of_mem _ hmem, fun other hother => ?_⟩
    rcases List.mem_cons.mp hother with rfl | hother'
    · exact hbetter
    · exact hbest other hother'

/-- Observe the prices one after another. -/
def observeAll (tracker : TrailingSemanticReference) (prices : List I128) :
    TrailingSemanticReference := prices.foldl observe tracker

/-- What a run of observations leaves: the side, the distance and the best price. -/
lemma observeAll_isBest (prices : List I128) :
    ∀ (tracker : TrailingSemanticReference) {seen : List I128},
      IsBest tracker.side tracker.favorableExtreme seen →
      ∃ best, tracker.observeAll prices = new tracker.side best tracker.distance ∧
        IsBest tracker.side best (prices.reverse ++ seen) := by
  induction prices with
  | nil => exact fun _ _ h => ⟨_, rfl, h⟩
  | cons price prices ih =>
    intro tracker seen h
    have hstep : IsBest (tracker.observe price).side (tracker.observe price).favorableExtreme
        (price :: seen) := by
      rw [observe_side]
      exact observe_isBest h
    obtain ⟨best, hrun, hbest⟩ := ih _ hstep
    rw [observe_side, observe_distance] at hrun
    rw [observe_side] at hbest
    exact ⟨best, hrun, by simpa using hbest⟩

/-- A fresh tracker that observed prices has the best of them and of its reference. -/
lemma observeAll_new_isBest (side : PositionSide) (reference : I128) (distance : TrailingDistance)
    (prices : List I128) : ∃ best, (new side reference distance).observeAll prices =
      new side best distance ∧ IsBest side best (reference :: prices) := by
  have hfirst : IsBest side reference [reference] :=
    ⟨List.mem_singleton_self _, fun price hprice => by
      rw [List.mem_singleton.mp hprice]
      exact favorable_irrefl⟩
  obtain ⟨best, hrun, hmem, hbest⟩ :=
    observeAll_isBest prices (new side reference distance) hfirst
  exact ⟨best, hrun, by simpa [or_comm] using hmem, fun price hprice =>
    hbest price (by simpa [or_comm] using hprice)⟩

/-! ## The threshold of a price -/

/-- A percentage of a price, rounded towards zero. -/
def share (extreme percentage : ℤ) : ℤ := (extreme * percentage).tdiv 100000000000

/-- The number that lies a distance behind a price. -/
def behind : PositionSide → ℤ → ℤ → ℤ
  | .long, price, distance => price - distance
  | .short, price, distance => price + distance

/-- The distance as a number. -/
lemma delta_eq_some {d : I128} (h : (new side best distance).delta = some d) :
    match distance.mode with
    | .absolutePrice => d.val = distance.value.val
    | .relativePercent => d.val = share best.val distance.value.val := by
  unfold delta new at h
  rcases hmode : distance.mode with _ | _
  · simp only [hmode] at h
    rw [Option.some.inj h]
  · simp only [hmode, Option.bind_eq_bind, Option.bind_eq_some_iff,
      FixedInt.checkedMul_eq_some] at h
    obtain ⟨product, hproduct, h⟩ := h
    rw [FixedInt.checkedDiv, if_neg (by decide), FixedInt.ofInt?_eq_some, hproduct] at h
    exact h

/-- The threshold as a number. -/
lemma threshold_eq_some (h : (new side best distance).threshold = some t) :
    ∃ d, (new side best distance).delta = some d ∧ t.val = behind side best.val d.val := by
  simp only [threshold, Option.bind_eq_bind, Option.bind_eq_some_iff] at h
  obtain ⟨d, hd, h⟩ := h
  refine ⟨d, hd, ?_⟩
  cases side
  · exact FixedInt.checkedSub_eq_some.mp h
  · exact FixedInt.checkedAdd_eq_some.mp h

/-- Rounding towards zero takes at most `k` more off a number that is at most `k` scales larger. -/
lemma tdiv_scale_le {x y k : ℤ} (hk : 0 ≤ k) (h : y ≤ x + k * 100000000000) :
    y.tdiv 100000000000 ≤ x.tdiv 100000000000 + k := by
  rw [Int.tdiv_eq_ediv, Int.tdiv_eq_ediv]
  simp only [Int.sign_eq_one_of_pos (show (0 : ℤ) < 100000000000 by decide)]
  split_ifs <;> omega

lemma share_mono {a b percentage : ℤ} (hpercentage : 0 ≤ percentage) (hab : a ≤ b) :
    share a percentage ≤ share b percentage :=
  Int.tdiv_le_tdiv (by decide) (Int.mul_le_mul_of_nonneg_right hab hpercentage)

/-- A share of at most the whole grows no faster than the price. -/
lemma share_le {a b percentage : ℤ} (hpercentage : percentage ≤ 100000000000) (hab : a ≤ b) :
    share b percentage ≤ share a percentage + (b - a) := by
  refine tdiv_scale_le (by omega) ?_
  nlinarith [mul_le_mul_of_nonneg_left hpercentage (sub_nonneg.mpr hab)]

/-- The percentage is between nothing and the whole, when it is one. -/
def Sensible (distance : TrailingDistance) : Prop :=
  distance.mode = .relativePercent →
    0 ≤ distance.value.val ∧ distance.value.val ≤ hundredPercent.val

/-- The threshold of a better price is no worse. -/
lemma threshold_mono {best' t' : I128} (hdistance : Sensible distance)
    (h : (new side best distance).threshold = some t)
    (h' : (new side best' distance).threshold = some t')
    (hbest : ¬ favorable side best best') : ¬ favorable side t t' := by
  obtain ⟨d, hd, ht⟩ := threshold_eq_some h
  obtain ⟨d', hd', ht'⟩ := threshold_eq_some h'
  have hd := delta_eq_some hd
  have hd' := delta_eq_some hd'
  rcases hmode : distance.mode with _ | _
  · -- a fixed distance: the threshold moves with the price
    simp only [hmode] at hd hd'
    cases side <;> simp only [favorable, behind] at * <;> omega
  · obtain ⟨hlow, hhigh⟩ := hdistance hmode
    simp only [hmode] at hd hd'
    cases side
    · have := share_le hhigh (not_lt.mp hbest)
      simp only [favorable, behind] at *
      omega
    · have := share_mono hlow (not_lt.mp hbest)
      simp only [favorable, behind] at *
      omega

/-- A long position that trails by a percentage stays between zero and the price. -/
lemma threshold_bounds (hdistance : Sensible distance) (hmode : distance.mode = .relativePercent)
    (hbest : 0 ≤ best.val) (h : (new .long best distance).threshold = some t) :
    0 ≤ t.val ∧ t.val ≤ best.val := by
  obtain ⟨hlow, hhigh⟩ := hdistance hmode
  obtain ⟨d, hd, ht⟩ := threshold_eq_some h
  have hd := delta_eq_some hd
  simp only [hmode] at hd
  have hzero : share 0 distance.value.val = 0 := by simp [share]
  have hmost := share_le hhigh hbest
  have hleast := share_mono hlow hbest
  simp only [behind] at ht
  omega

/-- **A threshold never moves against the position.** After any prices, one more observation does
not move it backwards; it is the threshold of a fresh tracker at the best of the reference and the
prices; and for prices that are not negative a long position's relative threshold lies between
zero and that best price. -/
theorem threshold_follows (side : PositionSide) (reference : I128) (distance : TrailingDistance)
    (hdistance : Sensible distance) (prices : List I128) :
    (∀ price before after,
      ((new side reference distance).observeAll prices).threshold = some before →
      (((new side reference distance).observeAll prices).observe price).threshold = some after →
      match side with
      | .long => before.val ≤ after.val
      | .short => after.val ≤ before.val) ∧
    (∀ best, IsBest side best (reference :: prices) →
      ((new side reference distance).observeAll prices).threshold =
        (new side best distance).threshold) ∧
    (∀ t, side = .long → distance.mode = .relativePercent →
      (∀ price ∈ reference :: prices, 0 ≤ price.val) →
      ((new side reference distance).observeAll prices).threshold = some t →
      0 ≤ t.val ∧
        t.val ≤ ((new side reference distance).observeAll prices).favorableExtreme.val) := by
  obtain ⟨best, hrun, hbest⟩ := observeAll_new_isBest side reference distance prices
  refine ⟨fun price before after hbefore hafter => ?_, fun other hother => ?_,
    fun t hside hmode hprices ht => ?_⟩
  · rw [hrun] at hbefore hafter
    have hkept : ¬ favorable side before after := by
      unfold observe at hafter
      split_ifs at hafter with hbetter
      · exact threshold_mono hdistance hbefore hafter (favorable_asymm hbetter)
      · rw [Option.some.inj (hbefore.symm.trans hafter)]
        exact favorable_irrefl
    cases side
    all_goals exact not_lt.mp hkept
  · rw [hrun, hbest.unique hother]
  · subst hside
    rw [hrun] at ht ⊢
    exact threshold_bounds hdistance hmode (hprices best hbest.1) ht

/-- Ten percent behind the price. -/
def tenPercent : TrailingDistance := ⟨⟨10000000000, by decide, by decide⟩, .relativePercent⟩

/-- A long position at one: the threshold rises when two is observed. -/
theorem threshold_rises : ∃ before after : I128,
    ((new .long ⟨1000000000, by decide, by decide⟩ tenPercent).observeAll []).threshold =
      some before ∧
    (((new .long ⟨1000000000, by decide, by decide⟩ tenPercent).observeAll []).observe
      ⟨2000000000, by decide, by decide⟩).threshold = some after ∧
    before.val ≤ after.val := by
  refine ⟨⟨900000000, by decide, by decide⟩, ⟨1800000000, by decide, by decide⟩, ?before, ?after,
    (threshold_follows .long _ tenPercent (fun _ => by decide) []).1 _ _ _ ?before ?after⟩
  case before => decide +kernel
  case after => decide +kernel

end TrailingSemanticReference

end VoxTrader.Domain
